import LanguageClient.Error
import LanguageClient.Json.Record
import LanguageClient.Reply.Markup
import LanguageClient.Text.Utf16

/-!
Signature help: the signatures that fit a call, and which parameter is being written. A parameter
names its text, or the 16-bit units of the signature's label that are its text; parameters whose
units are no text of the label are left out.
-/

namespace LanguageClient.Reply

/-- A parameter of a signature. -/
structure Parameter where
  label : String
  /-- The units of the signature's label that are the parameter, where they are given. -/
  offsets : Option (Nat × Nat)
  documentation : Option String
deriving DecidableEq, Repr

/-- How a parameter is named. -/
inductive ParameterLabel where
  | text (label : String)
  | offsets (first last : Nat)
deriving DecidableEq, Repr

/-- Read how a parameter is named: by a string, or by an array of two numbers. -/
def ParameterLabel.ofJson? : Json → Option ParameterLabel
  | .str label => some (.text label)
  | .arr [first, last] => do return .offsets (← first.u32?) (← last.u32?)
  | _ => none

/-- The part of a label between two units. -/
def sliceLabel? (label : String) (first last : Nat) : Option String :=
  (Text.sliceUnits? label.toList first last).map String.ofList

/-- Read a parameter of the signature with this label. -/
def Parameter.ofJson? (signatureLabel : String) (value : Json) : Option Parameter := do
  let record ← Json.Record.of? 2 value
  let label ← record.required 0 "label" ParameterLabel.ofJson?
  let documentation := record.lenient 1 "documentation" markupText?
  match label with
  | .text text => return { label := text, offsets := none, documentation }
  | .offsets first last =>
      let text ← sliceLabel? signatureLabel first last
      return { label := text, offsets := some (first, last), documentation }

/-- A signature with its parameters. -/
structure Signature where
  label : String
  documentation : Option String
  parameters : List Parameter
  /-- The parameter being written, if this signature says so itself. -/
  activeParameter : Option Nat
deriving DecidableEq, Repr

/-- Read a signature. -/
def Signature.ofJson? (value : Json) : Option Signature := do
  let record ← Json.Record.of? 4 value
  let label ← record.required 0 "label" Json.string?
  let parameters ← record.withDefault 2 "parameters" [] Json.array?
  return {
    label
    documentation := record.lenient 1 "documentation" markupText?
    parameters := parameters.filterMap (Parameter.ofJson? label)
    activeParameter := record.lenient 3 "activeParameter" Json.u32?
  }

/-- The signatures that fit a call. -/
structure SignatureHelp where
  signatures : List Signature
  activeSignature : Nat
  activeParameter : Option Nat
deriving DecidableEq, Repr

namespace SignatureHelp

/-- The signature to show: the active one, or the first one if there is none of that index. -/
def active (help : SignatureHelp) : Option Signature :=
  match help.signatures[help.activeSignature]? with
  | some signature => some signature
  | none => help.signatures.head?

/-- The parameter being written, of the signature to show. What the signature says itself comes
before what is said of all signatures. -/
def currentParameter (help : SignatureHelp) : Option Parameter := do
  let signature ← help.active
  let index ← signature.activeParameter <|> help.activeParameter
  signature.parameters[index]?

end SignatureHelp

/-- Read the result of a request for signature help: an object with signatures, or null. Without
a usable signature there is no help. -/
def decodeSignatureHelp : Json → Except DecodeError (Option SignatureHelp)
  | .null => .ok none
  | .obj members =>
      match Json.lookup? "signatures" members with
      | none => .error (.missingField "signatures")
      | some (.arr elements) =>
          let record := Json.Record.named members
          let signatures := elements.filterMap Signature.ofJson?
          if signatures.isEmpty then .ok none
          else
            .ok (some {
              signatures
              activeSignature := (record.lenient 1 "activeSignature" Json.u32?).getD 0
              activeParameter := record.lenient 2 "activeParameter" Json.u32?
            })
      | some _ => .error .invalidJson
  | other => .error (.unexpected "signature help" other)

end LanguageClient.Reply
