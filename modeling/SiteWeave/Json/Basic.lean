/-!
# JSON values

The members of an object are kept sorted by key, each key once, so that two objects with the same
members are the same value.

## Main definitions

* `JsonNumber`: an integer, or a double for every number written otherwise.
* `Json`: the values.
* `Json.insertMember`, `Json.ofMembers`: objects from members, the last one of a key winning.
* `Json.get?`, `Json.lookup?`: a member, and the value at a path of keys.

## Main results

* `Json.lookup?_append`: a path is walked piece by piece.
-/

namespace SiteWeave

/-- A JSON number. -/
inductive JsonNumber where
  /-- A number written as an integer that fits 64 bits, signed or unsigned. -/
  | integer (value : Int)
  /-- Any other number. -/
  | float (value : Float)

/-- A JSON value. -/
inductive Json where
  | null
  | bool (value : Bool)
  | number (value : JsonNumber)
  | string (value : String)
  | array (items : List Json)
  /-- The members, in increasing order of their keys. -/
  | object (members : List (String × Json))

instance : Inhabited Json := ⟨.null⟩

namespace Json

/-- The members with `key` set to `value`; a value that `key` had before is replaced. -/
def insertMember (key : String) (value : Json) : List (String × Json) → List (String × Json)
  | [] => [(key, value)]
  | (k, v) :: rest =>
    if key = k then (key, value) :: rest
    else if key < k then (key, value) :: (k, v) :: rest
    else (k, v) :: insertMember key value rest

/-- The object with the given members; of several with one key the last one stays. -/
def ofMembers (members : List (String × Json)) : Json :=
  .object (members.foldl (fun sorted (key, value) => insertMember key value sorted) [])

/-- The value of `key` among members. -/
def find? (key : String) : List (String × Json) → Option Json
  | [] => none
  | (k, v) :: rest => if key = k then some v else find? key rest

/-- The member `key` of an object; other values have no members. -/
def get? (key : String) : Json → Option Json
  | .object members => find? key members
  | _ => none

/-- The value at a path of keys. -/
def lookup? (value : Json) : List String → Option Json
  | [] => some value
  | key :: path => (value.get? key).bind fun member => lookup? member path

theorem lookup?_append (value : Json) (path rest : List String) :
    value.lookup? (path ++ rest) = (value.lookup? path).bind fun v => v.lookup? rest := by
  induction path generalizing value with
  | nil => rfl
  | cons key path ih =>
    cases h : value.get? key <;> simp [lookup?, h, ih]

end Json

end SiteWeave
