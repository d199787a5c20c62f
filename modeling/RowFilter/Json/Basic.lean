/-! JSON documents whose objects keep the order in which their keys first appeared. -/

namespace RowFilter

/-- A whole number that fits a signed or an unsigned 64-bit word. -/
structure WideInt where
  value : Int
  fits : -0x8000000000000000 ≤ value ∧ value < 0x10000000000000000
deriving DecidableEq

instance : Inhabited WideInt := ⟨⟨0, by decide⟩⟩

/-- The wide integer with a given value, if the value fits. -/
def WideInt.ofInt? (value : Int) : Option WideInt :=
  -- Signed and unsigned words of 64 bits cover this range together.
  if fits : -0x8000000000000000 ≤ value ∧ value < 0x10000000000000000 then some ⟨value, fits⟩ else none

/-- Every signed 64-bit word is a wide integer. -/
def WideInt.ofInt64 (word : Int64) : WideInt :=
  -- The bounds of a word are those of the signed half.
  ⟨word.toInt, by have := word.le_toInt; have := word.toInt_lt; omega⟩

/-- The signed 64-bit word with the same value, if there is one. -/
def WideInt.toInt64? (number : WideInt) : Option Int64 :=
  -- Only an unsigned word can be too large, since no value is below the signed ones.
  if number.value < 0x8000000000000000 then some (Int64.ofInt number.value) else none

/-- The nearest float, where unsigned values go through their own word. -/
def WideInt.toFloat (number : WideInt) : Float :=
  -- A value beyond the signed words would lose its sign in them.
  if 0 ≤ number.value then number.value.toNat.toUInt64.toFloat
  else (Int64.ofInt number.value).toFloat

/-- A JSON document. -/
inductive Json where
  | null
  | bool (value : Bool)
  | integer (value : WideInt)
  | float (value : Float)
  | string (value : String)
  | array (items : List Json)
  | object (members : List (String × Json))
deriving Inhabited

namespace Json

mutual

/-- Equality of documents is decided part by part, and object order counts. -/
def decideEq : (left right : Json) → Decidable (left = right)
  | .null, right => by
    -- Different constructors differ, and equal ones are compared by what they hold.
    cases right with
    | null => exact isTrue rfl
    | _ => exact isFalse nofun
  | .bool a, right => by
    cases right with
    | bool b => exact decidable_of_iff (a = b) (by simp)
    | _ => exact isFalse nofun
  | .integer a, right => by
    cases right with
    | integer b => exact decidable_of_iff (a = b) (by simp)
    | _ => exact isFalse nofun
  | .float a, right => by
    cases right with
    | float b => exact decidable_of_iff (a = b) (by simp)
    | _ => exact isFalse nofun
  | .string a, right => by
    cases right with
    | string b => exact decidable_of_iff (a = b) (by simp)
    | _ => exact isFalse nofun
  | .array a, right => by
    cases right with
    | array b => exact @decidable_of_iff _ (a = b) (by simp) (decideEqItems a b)
    | _ => exact isFalse nofun
  | .object a, right => by
    cases right with
    | object b => exact @decidable_of_iff _ (a = b) (by simp) (decideEqMembers a b)
    | _ => exact isFalse nofun

/-- Item lists are equal when they have equal heads and equal tails. -/
def decideEqItems : (left right : List Json) → Decidable (left = right)
  -- Lists of different lengths differ at the end of the shorter one.
  | [], [] => isTrue rfl
  | [], _ :: _ => isFalse nofun
  | _ :: _, [] => isFalse nofun
  | a :: as, b :: bs =>
    match decideEq a b, decideEqItems as bs with
    | isTrue same, isTrue rest => isTrue (by rw [same, rest])
    | isFalse differ, _ => isFalse (by simp [differ])
    | _, isFalse differ => isFalse (by simp [differ])

/-- Member lists are equal when keys and values agree place by place. -/
def decideEqMembers : (left right : List (String × Json)) → Decidable (left = right)
  | [], [] => isTrue rfl
  | [], _ :: _ => isFalse nofun
  | _ :: _, [] => isFalse nofun
  | (key, a) :: as, (other, b) :: bs =>
    -- All three parts are needed, and any of them can tell a difference.
    match decEq key other, decideEq a b, decideEqMembers as bs with
    | isTrue named, isTrue same, isTrue rest => isTrue (by rw [named, same, rest])
    | isFalse differ, _, _ => isFalse (by simp [differ])
    | _, isFalse differ, _ => isFalse (by simp [differ])
    | _, _, isFalse differ => isFalse (by simp [differ])

end

instance : DecidableEq Json := decideEq

end Json

/-- The members of an object, in order. -/
abbrev Members := List (String × Json)

namespace Members

/-- The value stored under a key. -/
def get? (members : Members) (key : String) : Option Json :=
  -- The keys are distinct in what has been read, and otherwise the first one counts.
  (members.find? (·.1 == key)).map (·.2)

/-- A known key keeps its place and takes the new value; a new key goes to the end. -/
def insert (members : Members) (key : String) (value : Json) : Members :=
  -- The list is searched from the front, so that the order of the keys stays.
  match members with
  | [] => [(key, value)]
  | (other, old) :: rest =>
    if other == key then (other, value) :: rest
    else (other, old) :: Members.insert rest key value

/-- Collects pairs in order, so that the last value of a repeated key wins at its first place. -/
def collect (pairs : List (String × Json)) : Members :=
  -- The members grow from the left, in the order of the text.
  pairs.foldl (fun members pair => members.insert pair.1 pair.2) []

/-- Drops a key and keeps the order of the others. -/
def erase (members : Members) (key : String) : Members :=
  -- If the key is there twice, both are dropped.
  members.filter (·.1 != key)

/-- Puts the last member at the place of a key. -/
def replaceByLast (last : String × Json) (key : String) : Members → Members
  -- The last member is moved, and so it never stays at the end.
  | [] => []
  | [_] => []
  | member :: rest =>
    if member.1 == key then last :: rest.dropLast else member :: replaceByLast last key rest

/-- Drops a key, whose place the last member takes; without that key nothing changes. -/
def swapErase (members : Members) (key : String) : Members :=
  -- The last member is only moved if there is a gap to fill.
  match members.get? key, members.getLast? with
  | some _, some last => replaceByLast last key members
  | _, _ => members

/-- The keys, in order. -/
def keys (members : Members) : List String := members.map (·.1)

end Members

namespace Json

/-- The word that messages use for the type of a document. -/
def typeName : Json → String
  -- The two kinds of numbers have one name.
  | .null => "null"
  | .bool _ => "boolean"
  | .integer _ | .float _ => "number"
  | .string _ => "string"
  | .array _ => "array"
  | .object _ => "object"

/-- Whether a document is neither an array nor an object. -/
def isScalar : Json → Bool
  -- A literal has no parts.
  | .array _ | .object _ => false
  | _ => true

/-- The document of a signed word. -/
def ofInt64 (word : Int64) : Json := .integer (.ofInt64 word)

end Json

end RowFilter
