import RowFilter.Sql.Backend
import RowFilter.Store.Error

/-! Driver failures as errors of a store: by their kind, and those of the database by its rules. -/

namespace RowFilter

namespace MessageText

/-- The text after a fixed beginning. -/
def after? : List Char → List Char → Option (List Char)
  -- Every character of the beginning has to be there.
  | [], text => some text
  | _ :: _, [] => none
  | expected :: rest, c :: text => if c = expected then after? rest text else none

/-- The first place of a text where a reader finds something. -/
def firstMatch? {α : Type} (find : List Char → Option α) : List Char → Option α
  -- The reader is tried at the end of the text as well, where it may find nothing to read.
  | [] => find []
  | c :: rest =>
    match find (c :: rest) with
    | some found => some found
    | none => firstMatch? find rest

/-- Whether a text occurs inside another one. -/
def occurs (part text : String) : Bool :=
  -- A text occurs in itself, and the empty text everywhere.
  (firstMatch? (after? part.toList) text.toList).isSome

/-- A non-empty name between double quotes at the start of a text. -/
def quotedHere? : List Char → Option (List Char)
  -- A quote that is not closed, or closed at once, is no name.
  | '"' :: rest =>
    let name := rest.takeWhile (· ≠ '"')
    if name.isEmpty ∨ name.length = rest.length then none else some name
  | _ => none

/-- The first non-empty name between double quotes. -/
def quoted? (message : String) : Option String :=
  -- The quotes themselves are not part of the name.
  (firstMatch? quotedHere? message.toList).map String.ofList

/-- A run of characters without blanks at the start of a text. -/
def wordHere? (text : List Char) : Option (List Char) :=
  -- The run ends at a blank or with the text.
  let word := text.takeWhile fun c => !Text.isBlank c
  if word.isEmpty then none else some word

/-- Drops the double quotes at both ends. -/
def unquote (text : List Char) : List Char :=
  -- Quotes inside the text stay.
  ((text.dropWhile (· = '"')).reverse.dropWhile (· = '"')).reverse

/-- The part of a text after its last point. -/
def afterLastPoint (text : List Char) : List Char :=
  -- A text without a point is kept whole.
  (text.reverse.takeWhile (· ≠ '.')).reverse

/-- The name that follows a fixed text: one between quotes, or else a word. -/
def nameAfter? (lead : String) (text : List Char) : Option String := do
  -- A name between quotes may have blanks in it.
  let rest ← after? lead.toList text
  let name ← (quotedHere? rest).or (wordHere? rest)
  return String.ofList (unquote name)

end MessageText

/-- A missing part of the database that a message names. -/
inductive Missing where
  | table (name : String)
  | column (name : String)
deriving DecidableEq

namespace Missing

open MessageText

/-- The missing part named at the start of a text. -/
def here? (text : List Char) : Option Missing :=
  -- A table is looked for before a column at each place.
  ((nameAfter? "no such table: " text).map table).or
    ((nameAfter? "no such column: " text).map column)

/-- The first missing part that a message names. -/
def ofMessage? (message : String) : Option Missing := firstMatch? here? message.toList

end Missing

namespace Classification

open MessageText

/-- The code for a table that does not exist. -/
def undefinedTable : String := "42P01"

/-- The code for a column that does not exist. -/
def undefinedColumn : String := "42703"

/-- The code for a value given to an identity column. -/
def generatedAlways : String := "428C9"

/-- Whether a code says that the connection is lost or was refused. -/
def isConnectionState (code : String) : Bool :=
  -- The class of connection faults, and the codes of a server that goes down or is full.
  code.startsWith "08" || ["57P01", "57P02", "57P03", "53300"].contains code

/-- The column that a message names: between quotes, or as its second word without its table. -/
def namedColumn (message : String) : String :=
  -- A name between quotes is taken, wherever it stands.
  match quoted? message with
  | some name => name
  | none =>
    match after? "column ".toList message.toList with
    | none => ""
    | some rest =>
      match wordHere? (rest.dropWhile Text.isBlank) with
      | some word => String.ofList (afterLastPoint word)
      | none => ""

/-- A database error by its state code. -/
def byState (code : Option String) (message query : String) (origin : Origin) : StoreError :=
  -- Each state has an error of its own, and all others are failed queries.
  match code with
  | none => .query message (some query) (some origin)
  | some state =>
    if state = undefinedTable then
      .tableNotFound ((quoted? message).getD "") (some query) (some origin)
    else if state = undefinedColumn then
      .columnNotFound (namedColumn message) (some query) (some origin)
    else if state = generatedAlways then
      .identityColumnViolation message (some query) (some origin)
    else if isConnectionState state then .connection message (some query) (some origin)
    else .query message (some query) (some origin)

/-- The digits of a number. -/
def digitsValue? (digits : List Char) : Option Nat :=
  -- A sign is no digit.
  if digits.isEmpty ∨ digits.any fun c => !c.isDigit then none
  else some (digits.foldl (fun value c => value * 10 + (c.toNat - '0'.toNat)) 0)

/-- The number of a result code, which may carry a sign and has to fit 32 bits. -/
def codeNumber? (code : String) : Option Int := do
  -- A number beyond 32 bits is no code.
  let value ←
    match code.toList with
    | '-' :: digits => (digitsValue? digits).map fun value => -(value : Int)
    | '+' :: digits => (digitsValue? digits).map fun value => (value : Int)
    | digits => (digitsValue? digits).map fun value => (value : Int)
  if -0x80000000 ≤ value ∧ value < 0x80000000 then return value else none

/-- Whether the low byte of a result code says that the database cannot be opened or is none. -/
def isConnectionCode (code : Option String) : Bool :=
  -- An extended code keeps the kind of the fault in its low byte.
  match code.bind codeNumber? with
  | some number => number % 256 = 14 || number % 256 = 26
  | none => false

/-- A database error by its message, and then by its result code. -/
def byMessage (code : Option String) (message query : String) (origin : Origin) : StoreError :=
  -- A missing table and a missing column have no code of their own, so that the message comes
  -- first.
  match Missing.ofMessage? message with
  | some (.table name) => .tableNotFound name (some query) (some origin)
  | some (.column name) => .columnNotFound name (some query) (some origin)
  | none =>
    if occurs "generated column" message then
      .identityColumnViolation message (some query) (some origin)
    else if isConnectionCode code then .connection message (some query) (some origin)
    else .query message (some query) (some origin)

end Classification

/-- The error of a store for a failure of its driver. -/
def DriverFailure.classify (failure : DriverFailure) (query : String) (backend : Backend) :
    StoreError :=
  -- Only a failure that the database itself has reported is looked at by its text or its code.
  let origin := some (Origin.driver failure)
  match failure with
  | .poolClosed => .notConnected "connection pool is closed" (some query)
  | .poolTimedOut | .io _ | .tls _ | .configuration _ | .protocol _ | .workerCrashed =>
    .connection failure.message (some query) origin
  | .rowNotFound => .noResult StoreError.defaultNoResult (some query)
  | .columnNotFound column => .columnNotFound column (some query) origin
  | .columnDecode _ _ | .decode _ | .typeNotFound _ | .columnOutOfBounds _ _ =>
    .decode failure.message (some query) origin
  | .database code message _ =>
    match backend with
    | .postgres => Classification.byState code message query (.driver failure)
    | .sqlite => Classification.byMessage code message query (.driver failure)
  | .beginFailed | .encode _ | .invalidArgument _ | .mapping _ =>
    .query failure.message (some query) origin

/-- A failure while a statement runs. -/
inductive QueryFailure where
  | driver (failure : DriverFailure)
  /-- An error that has been classified before. -/
  | classified (error : StoreError)
deriving DecidableEq

/-- The error of a store for a failure, with the statement that failed. -/
def QueryFailure.translate (failure : QueryFailure) (query : String) (backend : Backend) :
    StoreError :=
  -- A failure that is classified already only lacks its statement.
  match failure with
  | .driver inner => inner.classify query backend
  | .classified error => error.withQuery query

end RowFilter
