import LanguageClient.Json.Basic

/-!
Records in JSON. A record is written as an object whose members have the names of its fields, or
as an array that lists the values of its fields in their order; an array may end early and may
not be longer than the record. Unknown members of an object do not count.
-/

namespace LanguageClient.Json

/-- A value seen as a record. -/
inductive Record where
  | named (members : List (String × Json))
  | listed (values : List Json)

namespace Record

/-- The value seen as a record of `width` fields. -/
def of? (width : Nat) : Json → Option Record
  | .obj members => some (.named members)
  | .arr values => if values.length ≤ width then some (.listed values) else none
  | _ => none

/-- The value seen as a record whose fields must be named. -/
def ofObject? : Json → Option Record
  | .obj members => some (.named members)
  | _ => none

/-- The value of a field, where it is given. -/
def get? (record : Record) (index : Nat) (name : String) : Option Json :=
  match record with
  | .named members => lookup? name members
  | .listed values => values[index]?

/-- A field that must be given and must be of the kind that `read?` accepts. -/
def required {α : Type} (record : Record) (index : Nat) (name : String) (read? : Json → Option α)
    : Option α :=
  (record.get? index name).bind read?

/-- A field that may be left out, when it has the value `absent`; given, it must be of the kind
that `read?` accepts. -/
def withDefault {α : Type} (record : Record) (index : Nat) (name : String) (absent : α)
    (read? : Json → Option α)
    : Option α :=
  match record.get? index name with
  | some value => read? value
  | none => some absent

/-- A field that may be left out or null; any other value must be of the kind that `read?`
accepts. -/
def nullable {α : Type} (record : Record) (index : Nat) (name : String) (read? : Json → Option α)
    : Option (Option α) :=
  match record.get? index name with
  | none | some .null => some none
  | some value => (read? value).map some

/-- A field that counts as absent if it is not of the kind that `read?` accepts. -/
def lenient {α : Type} (record : Record) (index : Nat) (name : String) (read? : Json → Option α)
    : Option α :=
  (record.get? index name).bind read?

end Record

end LanguageClient.Json
