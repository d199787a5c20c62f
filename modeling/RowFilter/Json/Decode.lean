import RowFilter.Decimal.Layout
import RowFilter.Json.Reader
import RowFilter.Text.Printed

/-! Reading typed values from drafts; the first problem in text order is the one reported. -/

namespace RowFilter

/-- What stood where something else was expected. -/
inductive Found where
  | null
  | bool (value : Bool)
  | integer (value : Int)
  | float (value : Float)
  | text (value : String)
  | sequence
  | map
deriving DecidableEq

/-- How messages name what was found. -/
def Found.describe : Found → String
  -- Values are shown, but not what arrays and objects hold.
  | .null => "null"
  | .bool value => s!"boolean `{value}`"
  | .integer value => s!"integer `{value}`"
  | .float value => s!"floating point `{Decimal.json.text value}`"
  | .text value => s!"string {Text.printed value}"
  | .sequence => "sequence"
  | .map => "map"

/-- Why a draft is not a value of a type. -/
inductive DecodeError where
  /-- The text is no JSON at this point. -/
  | unreadable (cause : Cause)
  | invalidType (found : Found) (expected : String)
  | invalidValue (found : Found) (expected : String)
  | invalidLength (length : Nat) (expected : String)
  | unknownField (name : String) (known : List String)
  | unknownVariant (name : String) (known : List String)
  | missingField (name : String)
  | duplicateField (name : String)
  /-- A rule of the type itself is broken. -/
  | refused (reason : String)
deriving DecidableEq

/-- The names that would have been right. -/
def oneOfNames (names : List String) : String :=
  -- One or two names need no list.
  let ticked (name : String) := s!"`{name}`"
  match names with
  | [] => ""
  | [name] => ticked name
  | [first, second] => s!"{ticked first} or {ticked second}"
  | names => "one of " ++ ", ".intercalate (names.map ticked)

/-- The wording of a decoding error. -/
def DecodeError.message : DecodeError → String
  -- The texts are those of the common reader of typed documents.
  | .unreadable cause => cause.message
  | .invalidType found expected => s!"invalid type: {found.describe}, expected {expected}"
  | .invalidValue found expected => s!"invalid value: {found.describe}, expected {expected}"
  | .invalidLength length expected => s!"invalid length {length}, expected {expected}"
  | .unknownField name known => s!"unknown field `{name}`, expected {oneOfNames known}"
  | .unknownVariant name known => s!"unknown variant `{name}`, expected {oneOfNames known}"
  | .missingField name => s!"missing field `{name}`"
  | .duplicateField name => s!"duplicate field `{name}`"
  | .refused reason => reason

/-- A way to read values of a type from drafts. -/
abbrev Decoder (α : Type) := Draft → Except DecodeError α

namespace Decode

/-- The error for a fault in the text. -/
def unreadable (fault : Fault) : DecodeError := .unreadable fault.cause

/-- The error for a draft of the wrong type. -/
def mismatch (expected : String) : Draft → DecodeError
  -- What is broken is told by its fault, since it has no type.
  | .null => .invalidType .null expected
  | .bool value => .invalidType (.bool value) expected
  | .integer value => .invalidType (.integer value.value) expected
  | .float value => .invalidType (.float value) expected
  | .string value => .invalidType (.text value) expected
  | .array _ _ => .invalidType .sequence expected
  | .object _ _ => .invalidType .map expected
  | .broken fault => unreadable fault

/-- Reads any document. -/
def json : Decoder Json := fun draft => draft.toJson.mapError unreadable

/-- Reads a text. -/
def text : Decoder String
  -- No other value is turned into a text.
  | .string value => .ok value
  | draft => .error (mismatch "a string" draft)

/-- Reads a truth value. -/
def bool : Decoder Bool
  -- No other value counts as true or false.
  | .bool value => .ok value
  | draft => .error (mismatch "a boolean" draft)

/-- Reads a whole number between two bounds, the upper one not included. -/
def bounded (low high : Int) (expected : String) : Decoder Int
  -- A float is of the wrong type, even if it is whole.
  | .integer value =>
    if low ≤ value.value ∧ value.value < high then .ok value.value
    else .error (.invalidValue (.integer value.value) expected)
  | draft => .error (mismatch expected draft)

/-- Reads an unsigned number of 32 bits. -/
def word32 : Decoder UInt32 := fun draft =>
  (bounded 0 0x100000000 "u32" draft).map fun value => UInt32.ofNat value.toNat

/-- Reads an unsigned number of 64 bits. -/
def word64 : Decoder UInt64 := fun draft =>
  (bounded 0 0x10000000000000000 "u64" draft).map fun value => UInt64.ofNat value.toNat

/-- Reads a size. -/
def size : Decoder UInt64 := fun draft =>
  (bounded 0 0x10000000000000000 "usize" draft).map fun value => UInt64.ofNat value.toNat

/-- Reads a signed number of 64 bits. -/
def signed64 : Decoder Int64 := fun draft =>
  (bounded (-0x8000000000000000) 0x8000000000000000 "i64" draft).map Int64.ofInt

/-- Reads null as nothing. -/
def optional {α : Type} (decoder : Decoder α) : Decoder (Option α)
  -- A fault of the text is no null, and goes to the decoder.
  | .null => .ok none
  | draft => (decoder draft).map some

/-- Stops if the text goes wrong after the last item or member. -/
def closed : Option Fault → Except DecodeError Unit
  -- The fault shows only when the end is asked for.
  | none => .ok ()
  | some fault => .error (unreadable fault)

/-- Reads a list of any length. -/
def list {α : Type} (decoder : Decoder α) : Decoder (List α)
  -- The items are read before the end, so that the first problem in text order is told.
  | .array items unclosed => do
    let values ← items.mapM decoder
    closed unclosed
    return values
  | draft => .error (mismatch "a sequence" draft)

/-- Checks that nothing follows the items that were wanted. -/
def endSequence : List Draft → Option Fault → Except DecodeError Unit
  -- An end that is missing and an item too many look alike to this reader.
  | [], none => .ok ()
  | [], some fault =>
    .error (.unreadable (if fault.cause = .expectedItemEnd ∨ fault.cause = .endInValue
      then .trailingCharacters else fault.cause))
  | _ :: _, _ => .error (.unreadable .trailingCharacters)

/-- Folds over the members of an object, and stops at the first problem. -/
def members {σ : Type} (step : σ → String → Draft → Except DecodeError σ) (start : σ)
    (pairs : List (String × Draft)) (unclosed : Option Fault) : Except DecodeError σ := do
  -- The end of the object is only looked at behind its last member.
  let final ← pairs.foldlM (fun state pair => step state pair.1 pair.2) start
  closed unclosed
  return final

/-- Sets a field that has not been set, and reads its value only then. -/
def once {α : Type} (name : String) (old : Option α) (decoder : Decoder α) (value : Draft) :
    Except DecodeError (Option α) :=
  -- A value of the wrong type behind a field that is set is not looked at.
  match old with
  | some _ => .error (.duplicateField name)
  | none => (decoder value).map some

/-- The value of a field that has to be there. -/
def required {α : Type} (name : String) : Option α → Except DecodeError α
  -- Null is a value, and a field may ask for it.
  | some value => .ok value
  | none => .error (.missingField name)

/-- Takes the next item of a sequence, or none at its end. -/
def nextItem {α : Type} (decoder : Decoder α) (unclosed : Option Fault) :
    List Draft → Except DecodeError (Option α × List Draft)
  -- Items that are missing at the end are left to the caller.
  | [] => do
    closed unclosed
    return (none, [])
  | item :: rest => do
    let value ← decoder item
    return (some value, rest)

/-- Reads one of several names, each of which stands for a value. -/
def named {α : Type} (known : List String) (find : String → Option α) (name : String) :
    Except DecodeError α :=
  -- The names are told in full, as the known ones are.
  match find name with
  | some value => .ok value
  | none => .error (.unknownVariant name known)

/-- Reads a name, or an object with that name as its only key and null as its value. -/
def variant {α : Type} (known : List String) (find : String → Option α) : Decoder α
  -- The object has exactly one member, and what else it holds is told as a missing end.
  | .string name => named known find name
  | .object [] none => .error (.unreadable .expectedValue)
  | .object [] (some fault) =>
    .error (.unreadable (if fault.cause = .endInObject then .endInValue else fault.cause))
  | .object ((name, value) :: rest) unclosed => do
    let found ← named known find name
    match value with
    | .null => pure ()
    | other => throw (mismatch "unit" other)
    match rest, unclosed with
    | [], none => return found
    | [], some fault =>
      throw (.unreadable (if fault.cause = .endInObject then .endInObject else .expectedValue))
    | _ :: _, _ => throw (.unreadable .expectedValue)
  | .broken fault => .error (unreadable fault)
  | _ => .error (.unreadable .expectedValue)

/-- Reads a whole text as one value. -/
def read {α : Type} (decoder : Decoder α) (text : String) : Except DecodeError α := do
  -- The value is decoded before what follows it is looked at.
  let sheet := Sheet.read text
  let value ← decoder sheet.root
  closed sheet.excess
  return value

end Decode

end RowFilter
