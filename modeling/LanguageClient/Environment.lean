/-!
References to variables of the environment. A reference is a dollar sign and a name in braces;
`expand` puts the values in the place of the references.
-/

namespace LanguageClient.Environment

/-- What follows a text at the front of another one. -/
def afterPrefix? : (front text : List Char) → Option (List Char)
  | [], text => some text
  | c :: front, d :: text => if c = d then afterPrefix? front text else none
  | _ :: _, [] => none

/-- The value found under a name among assignments, in each of which an equals sign follows the
name of a variable. The name looked for may itself hold an equals sign: then the variable is the
one before the sign, and its value has to go on as the name does. -/
def find? (set? : String → Option String) (name : String) : Option String :=
  match name.toList.span (· ≠ '=') with
  | (_, []) => set? name
  | (first, _ :: more) => do
      let value ← set? (String.ofList first)
      let found ← afterPrefix? (more ++ ['=']) value.toList
      some (String.ofList found)

/-- The name that a reference starts with, and what follows its closing brace. -/
def reference? (text : List Char) : Option (List Char × List Char) :=
  match text.dropWhile (· ≠ '\x7d') with
  | _ :: rest => some (text.takeWhile (· ≠ '\x7d'), rest)
  | [] => none

/-- What follows a reference is shorter than what follows its opening brace. -/
theorem reference?_length {text name rest : List Char} (h : reference? text = some (name, rest))
    : rest.length < text.length := by
  unfold reference? at h
  split at h
  · next c rest' hdrop =>
      simp only [Option.some.injEq, Prod.mk.injEq] at h
      have hlength := (List.dropWhile_suffix (l := text) (· ≠ '\x7d')).length_le
      rw [hdrop] at hlength
      rw [← h.2]
      exact hlength
  · simp at h

/-- The value that stands for a name. No variable has the empty name. -/
def valueOf (value? : String → Option String) (name : List Char) : List Char :=
  if name.isEmpty then [] else ((value? (String.ofList name)).getD "").toList

/-- The text with the values of the variables that it refers to; a variable without a value counts
as empty. Where a brace stays open, the rest of the text stays as it is. -/
def expand (value? : String → Option String) : List Char → List Char
  | [] => []
  | '$' :: '\x7b' :: after =>
      match _h : reference? after with
      | some (name, rest) => valueOf value? name ++ expand value? rest
      | none => '$' :: '\x7b' :: after
  | c :: rest => c :: expand value? rest
termination_by text => text.length
decreasing_by
  · have := reference?_length _h
    simp
    omega
  · simp

/-- The names of the variables that a text refers to. -/
def names : List Char → List String
  | [] => []
  | '$' :: '\x7b' :: after =>
      match _h : reference? after with
      | some (name, rest) => String.ofList name :: names rest
      | none => []
  | _ :: rest => names rest
termination_by text => text.length
decreasing_by
  · have := reference?_length _h
    simp
    omega
  · simp

/-- The string with the values of the variables that it refers to. -/
def expandString (value? : String → Option String) (text : String) : String :=
  String.ofList (expand value? text.toList)

end LanguageClient.Environment
