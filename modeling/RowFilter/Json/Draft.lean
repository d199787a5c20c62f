import RowFilter.Json.Basic
import RowFilter.Json.Fault

/-! Documents as written: repeated keys are kept, and a fault stands where the text goes wrong. -/

namespace RowFilter

/-- What was read of a document, up to the first fault. -/
inductive Draft where
  | null
  | bool (value : Bool)
  | integer (value : WideInt)
  | float (value : Float)
  | string (value : String)
  | array (items : List Draft) (unclosed : Option Fault)
  | object (members : List (String × Draft)) (unclosed : Option Fault)
  | broken (fault : Fault)
deriving Inhabited

/-- The contents of a whole text: one draft, and a fault if anything but blanks follows it. -/
structure Sheet where
  root : Draft
  excess : Option Fault

/-- Stops at a fault if there is one. -/
def Fault.raise? : Option Fault → Except Fault Unit
  -- No fault lets the reading go on.
  | some fault => .error fault
  | none => .ok ()

namespace Draft

mutual

/-- The document that a draft spells, or its first fault in text order. -/
def toJson : Draft → Except Fault Json
  -- The parts come before the end, because a fault inside of them shows first.
  | .null => .ok .null
  | .bool value => .ok (.bool value)
  | .integer value => .ok (.integer value)
  | .float value => .ok (.float value)
  | .string value => .ok (.string value)
  | .array items unclosed => do
    let items ← itemsToJson items
    Fault.raise? unclosed
    return .array items
  | .object members unclosed => do
    let pairs ← membersToJson members
    Fault.raise? unclosed
    return .object (Members.collect pairs)
  | .broken fault => .error fault

/-- The documents of all items. -/
def itemsToJson : List Draft → Except Fault (List Json)
  -- The first item with a fault ends the reading.
  | [] => .ok []
  | item :: rest => do
    let first ← item.toJson
    let others ← itemsToJson rest
    return first :: others

/-- The documents of all members under their keys. -/
def membersToJson : List (String × Draft) → Except Fault (List (String × Json))
  -- The keys have been read already, and only values can have faults.
  | [] => .ok []
  | (key, value) :: rest => do
    let first ← value.toJson
    let others ← membersToJson rest
    return (key, first) :: others

end

mutual

/-- Every document is a draft without faults. -/
def ofJson : Json → Draft
  -- Nothing is left open in a document.
  | .null => .null
  | .bool value => .bool value
  | .integer value => .integer value
  | .float value => .float value
  | .string value => .string value
  | .array items => .array (ofItems items) none
  | .object members => .object (ofMembers members) none

/-- The drafts of all items. -/
def ofItems : List Json → List Draft
  -- The order stays, and so does the number of items.
  | [] => []
  | item :: rest => ofJson item :: ofItems rest

/-- The drafts of all members under their keys. -/
def ofMembers : List (String × Json) → List (String × Draft)
  -- The keys stay as they are, also where one comes twice.
  | [] => []
  | (key, value) :: rest => (key, ofJson value) :: ofMembers rest

end

/-- A reader that skips a value does not tell a comma before a bracket from a missing value. -/
def skippedClose (ifComma : Cause) : Option Fault → Except Fault Unit
  -- All other faults look the same to this reader.
  | none => .ok ()
  | some fault =>
    .error (if fault.cause = .trailingComma then { fault with cause := ifComma } else fault)

mutual

/-- Passes over a value whose content is not wanted and still stops at its first fault. -/
def skip : Draft → Except Fault Unit
  -- Only what has parts can have a fault inside.
  | .array items unclosed => do
    skipItems items
    skippedClose .expectedValue unclosed
  | .object members unclosed => do
    skipMembers members
    skippedClose .keyNotString unclosed
  | .broken fault => .error fault
  | _ => .ok ()

/-- Passes over all items. -/
def skipItems : List Draft → Except Fault Unit
  -- The first fault in text order counts, as in reading.
  | [] => .ok ()
  | item :: rest => do
    item.skip
    skipItems rest

/-- Passes over the values of all members. -/
def skipMembers : List (String × Draft) → Except Fault Unit
  -- A key is passed over without a look at it.
  | [] => .ok ()
  | (_, value) :: rest => do
    value.skip
    skipMembers rest

end

end Draft

end RowFilter
