import LanguageClient.Toml.Basic

/-!
Records in TOML. A record is written as a table whose keys are the names of its fields, or as an
array that lists the values of its fields in their order. Other keys of a table do not count, but
their values are read; what an array has beyond the last field is not even read.
-/

namespace LanguageClient.Toml

/-- A value seen as a record. -/
inductive Record where
  | named (members : List (String × Value))
  | listed (values : List Value)

namespace Record

/-- The value seen as a record with these fields. A date or time is a table without any of them. -/
def of? (fields : List String) : Value → Option Record
  | .table members =>
      if (members.filter fun member => ! fields.contains member.1).all (·.2.isReadable) then
        some (.named members)
      else none
  | .array values => some (.listed values)
  | .moment _ => some (.named [])
  | _ => none

/-- The value of a field, where it is given. -/
def get? (record : Record) (index : Nat) (name : String) : Option Value :=
  match record with
  | .named members => members.lookup name
  | .listed values => values[index]?

/-- A field that must be given and must be of the kind that `read?` accepts. -/
def required {α : Type} (record : Record) (index : Nat) (name : String) (read? : Value → Option α)
    : Option α :=
  (record.get? index name).bind read?

/-- A field that may be left out, when it has the value `absent`; given, it must be of the kind
that `read?` accepts. -/
def withDefault {α : Type} (record : Record) (index : Nat) (name : String) (absent : α)
    (read? : Value → Option α)
    : Option α :=
  match record.get? index name with
  | some value => read? value
  | none => some absent

end Record

end LanguageClient.Toml
