/-
  SqlComposer.Json.Value — JSON values.

  A number is an integer when it is written as one and a 64-bit word, signed or not,
  holds it; otherwise it is a double. The members of an object are in ascending order
  of their keys, code point by code point, and a key given again keeps its last value.
-/

namespace SqlComposer

inductive Json where
  | null
  | bool (b : Bool)
  | integer (n : Int)
  | float (x : Float)
  | string (s : String)
  | array (items : List Json)
  | object (members : List (String × Json))
  deriving Inhabited

namespace Json

/-- Puts a member in its place among sorted members, over an earlier one of the same key. -/
def insertMember (key : String) (value : Json) : List (String × Json) → List (String × Json)
  | [] => [(key, value)]
  | (k, v) :: rest =>
    if key == k then (key, value) :: rest
    else if key < k then (key, value) :: (k, v) :: rest
    else (k, v) :: insertMember key value rest

/-- The object with these members, given in any order. -/
def ofMembers (members : List (String × Json)) : Json :=
  .object (members.foldl (fun sorted (key, value) => insertMember key value sorted) [])

/-- The value of a member; none when `j` is no object or lacks the key. -/
def member? (j : Json) (key : String) : Option Json :=
  match j with
  | .object members => (members.find? fun (k, _) => k == key).map (·.2)
  | _ => none

end Json

end SqlComposer
