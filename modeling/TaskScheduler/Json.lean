import TaskScheduler.Binary64

/-
  Values of the JSON data model.

  A number is either whole or has 53 significant bits; an object is a list of fields in the order
  in which they are printed.
-/
namespace TaskScheduler

/-- A JSON value. -/
inductive Json where
  | null
  | bool (b : Bool)
  /-- A whole number. -/
  | int (i : Int)
  /-- A number that was written as a fraction, or is too large for a whole number. -/
  | real (x : Binary64)
  | string (s : String)
  | array (items : List Json)
  | object (fields : List (String × Json))
deriving Inhabited, BEq

namespace Json

/-- A natural number. -/
def nat (n : Nat) : Json := .int n

/-- A value, or `null` where there is none. -/
def ofOption : Option Json → Json
  | none => .null
  | some j => j

def strings (ss : List String) : Json := .array (ss.map .string)

/-- The first field of an object with the given name. -/
def field? (j : Json) (name : String) : Option Json :=
  match j with
  | .object fields => (fields.find? (·.1 == name)).map (·.2)
  | _ => none

/-- The field with the given name; one that is missing counts as `null`. -/
def field (j : Json) (name : String) : Json := (j.field? name).getD .null

def isNull : Json → Bool
  | .null => true
  | _ => false

end Json

end TaskScheduler
