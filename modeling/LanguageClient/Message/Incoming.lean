import LanguageClient.Json.Parser
import LanguageClient.Json.Record

/-!
Messages from a server. A message is an envelope of five members, given by name or in a list; a
method makes it a notification, or a request if there is an id too, and every other message is a
response. Members of other names are skipped, however they are nested.
-/

namespace LanguageClient.Message

/-- What a server says about a request that failed. -/
structure Failure where
  code : Int
  text : String
deriving DecidableEq, Repr

/-- Read the error of a response. -/
def Failure.ofJson? (value : Json) : Option Failure := do
  let record ← Json.Record.of? 2 value
  let code ← record.required 0 "code" Json.i64?
  let text ← record.withDefault 1 "message" "" Json.string?
  return { code, text }

/-- How a request ended: a result, an error of the server, or an error that is none. -/
inductive Outcome where
  | result (value : Json)
  | failed (failure : Failure)
  | malformed
deriving DecidableEq, Repr

/-- A message from a server. -/
inductive Incoming where
  | response (id : Option Json) (outcome : Outcome)
  | request (id : Json) (method : String) (params : Json)
  | notification (method : String) (params : Json)
deriving DecidableEq, Repr

/-- The members of an envelope. -/
inductive Member where
  | id
  | method
  | params
  | result
  | error
deriving DecidableEq, Repr

/-- The members in the order in which a list gives them. -/
def Member.all : List Member :=
  [.id, .method, .params, .result, .error]

def Member.name : Member → String
  | .id => "id"
  | .method => "method"
  | .params => "params"
  | .result => "result"
  | .error => "error"

/-- The member of that name. -/
def Member.ofName? (name : String) : Option Member :=
  Member.all.find? (·.name = name)

/-- Values nested inside an envelope may be one level less deep than a text. -/
def innerDepth : Nat := Json.greatestDepth - 1

/-- The values given for members of an envelope, in the order of the text. Names that cannot be
read are an error, and so are values of known members. -/
def namedMembers? : List (Bytes × Json.Raw) → Option (List (Member × Json))
  | [] => some []
  | (key, raw) :: rest => do
      let name ← Json.literal? key
      match Member.ofName? name with
      | none => namedMembers? rest
      | some member =>
          let value ← raw.value? innerDepth
          return (member, value) :: (← namedMembers? rest)

/-- The values given in a list for the members of an envelope. -/
def listedMembers? (elements : List Json.Raw) : Option (List (Member × Json)) :=
  if elements.length ≤ Member.all.length then
    (elements.mapM (Json.Raw.value? innerDepth)).map (Member.all.zip ·)
  else none

/-- The members of an envelope. -/
def members? : Json.Raw → Option (List (Member × Json))
  | .obj members =>
      (namedMembers? members).filter fun given => (given.map (·.1)).Nodup
  | .arr elements => listedMembers? elements
  | _ => none

/-- A member that is given and not null. -/
def present? (given : List (Member × Json)) (member : Member) : Option Json :=
  (given.lookup member).filter (! ·.isNull)

/-- The outcome that an envelope without method tells. -/
def outcome (given : List (Member × Json)) : Outcome :=
  match present? given .error with
  | some error =>
      match Failure.ofJson? error with
      | some failure => .failed failure
      | none => .malformed
  | none => .result ((present? given .result).getD .null)

/-- The message in an envelope. A method must be a string. -/
def ofMembers? (given : List (Member × Json)) : Option Incoming :=
  let params := (present? given .params).getD .null
  match present? given .method, present? given .id with
  | some (.str method), some id => some (.request id method params)
  | some (.str method), none => some (.notification method params)
  | some _, _ => none
  | none, id => some (.response id (outcome given))

/-- Read a message. -/
def Incoming.ofBytes? (body : Bytes) : Option Incoming :=
  ((Json.Raw.ofBytes? body).bind members?).bind ofMembers?

end LanguageClient.Message
