import Chargen.Json

/-!
# Records in JSON

A record has fields of known names in a known order. It is written as an object, in which unknown
names are passed over and no known name stands twice, or as an array of its first fields.

* `Json.fields`: the values given to the fields of a record.
* `required`, `withDefault`: what a field that is not given means.
-/

namespace Chargen.Json

/-- The value of a name that stands once among the members; none if it stands twice. -/
def member? (name : String) (members : List (MemberName × Json)) : Option (Option Json) :=
  match members.filter fun m => m.1.text == name with
  | [] => some none
  | [m] => some (some m.2)
  | _ => none

/-- A list lengthened to `n` items, each further one absent. -/
def padded : Nat → List Json → List (Option Json)
  | 0, items => items.map some
  | n + 1, [] => none :: padded n []
  | n + 1, item :: rest => some item :: padded n rest

/-- The value given to each field of a record with the given names: by name in an object, by place
in an array that is not longer than the record. -/
def fields (names : List String) : Json → Option (List (Option Json))
  | .object members => names.mapM fun name => member? name members
  | .array items => if items.length ≤ names.length then some (padded names.length items) else none
  | _ => none

/-- A field that has to be given. -/
def required {α : Type} (read : Json → Option α) : Option Json → Option α
  | none => none
  | some j => read j

/-- A field that means `default` if it is not given. -/
def withDefault {α : Type} (default : α) (read : Json → Option α) : Option Json → Option α
  | none => some default
  | some j => read j

end Chargen.Json
