import RowFilter.Filter.Reader
import RowFilter.Json.Decode

/-! Requests for rows as they arrive from outside, and tables described in JSON. -/

namespace RowFilter

namespace Projection

/-- Reads a projection: a name or a list of names. -/
def decode : Decoder Projection := fun draft => do
  -- The document is read first, so that broken text is told as such.
  let document ← Decode.json draft
  match ofJson? document with
  | some projection => return projection
  | none => throw (.refused noProjection)

end Projection

namespace Direction

/-- The names that a direction is known by. -/
def names : List String := ["ASC", "asc", "DESC", "desc"]

/-- Finds a direction by one of its names. -/
def ofName? (name : String) : Option Direction :=
  -- Mixed case is no name.
  if name = "ASC" ∨ name = "asc" then some .ascending
  else if name = "DESC" ∨ name = "desc" then some .descending
  else none

/-- Reads a direction. -/
def decode : Decoder Direction := Decode.variant names ofName?

end Direction

namespace SortKey

/-- The fields of a sort key that have been read. -/
structure Parts where
  column : Option String
  direction : Option Direction

/-- Reads one member of a sort key; the order is another name for the direction. -/
def decodeMember (parts : Parts) (key : String) (value : Draft) : Except DecodeError Parts :=
  -- Both names set the same slot, so that a key with both of them is refused.
  if key = "column" then
    (Decode.once "column" parts.column Decode.text value).map ({ parts with column := · })
  else if key = "direction" ∨ key = "order" then
    (Decode.once "direction" parts.direction Direction.decode value).map
      ({ parts with direction := · })
  -- Other members are passed over, but have to be readable.
  else
    match value.skip with
    | .ok () => .ok parts
    | .error fault => .error (Decode.unreadable fault)

/-- Reads a sort key, ascending unless it says otherwise, from an object or from a list. -/
def decode : Decoder SortKey
  -- The members may come in any order, and the column has to be among them.
  | .object pairs unclosed => do
    let parts ← Decode.members decodeMember ⟨none, none⟩ pairs unclosed
    let column ← Decode.required "column" parts.column
    return ⟨column, parts.direction.getD .ascending⟩
  | .array items unclosed => do
    let (column, rest) ← Decode.nextItem Decode.text unclosed items
    -- A list has the column first, and its direction may be missing.
    match column with
    | none => throw (.invalidLength 0 "struct OrderBy with 2 elements")
    | some column =>
      let (direction, rest) ← Decode.nextItem Direction.decode unclosed rest
      Decode.endSequence rest unclosed
      return ⟨column, direction.getD .ascending⟩
  | draft => .error (Decode.mismatch "struct OrderBy" draft)

end SortKey

namespace Filter

/-- Reads a filter. -/
def decode : Decoder Filter := fun draft => do
  let document ← Decode.json draft
  (ofJson document).mapError fun error => .refused error.message

end Filter

/-- A request for rows. -/
structure FindRequest where
  projection : Option Projection
  filter : Option Filter
  order : Option (List SortKey)
  limit : Option UInt32
  offset : Option UInt32

namespace FindRequest

/-- The fields of a request that have been read; each of them may be null. -/
structure Parts where
  projection : Option (Option Projection)
  filter : Option (Option Filter)
  order : Option (Option (List SortKey))
  limit : Option (Option UInt32)
  offset : Option (Option UInt32)

/-- The names of the fields. -/
def fieldNames : List String := ["selectedFields", "filters", "orderBy", "limit", "offset"]

/-- Reads one member of a request. -/
def decodeMember (parts : Parts) (key : String) (value : Draft) : Except DecodeError Parts :=
  -- Null counts as a value that was given, so that a second one is refused.
  if key = "selectedFields" then
    (Decode.once key parts.projection (Decode.optional Projection.decode) value).map
      ({ parts with projection := · })
  else if key = "filters" then
    (Decode.once key parts.filter (Decode.optional Filter.decode) value).map
      ({ parts with filter := · })
  else if key = "orderBy" then
    (Decode.once key parts.order (Decode.optional (Decode.list SortKey.decode)) value).map
      ({ parts with order := · })
  else if key = "limit" then
    (Decode.once key parts.limit (Decode.optional Decode.word32) value).map
      ({ parts with limit := · })
  else if key = "offset" then
    (Decode.once key parts.offset (Decode.optional Decode.word32) value).map
      ({ parts with offset := · })
  else .error (.unknownField key fieldNames)

/-- The request of the fields that were read; what was not read is absent. -/
def ofParts (parts : Parts) : FindRequest :=
  -- A field that is null is as absent as one that is not there.
  ⟨parts.projection.join, parts.filter.join, parts.order.join, parts.limit.join,
    parts.offset.join⟩

/-- Reads a request from an object without other members, or from a list. -/
def decode : Decoder FindRequest
  -- The two forms differ in how a repeated or unknown member is told.
  | .object pairs unclosed =>
    (Decode.members decodeMember ⟨none, none, none, none, none⟩ pairs unclosed).map ofParts
  | .array items unclosed => do
    let (projection, rest) ←
      Decode.nextItem (Decode.optional Projection.decode) unclosed items
    let (filter, rest) ← Decode.nextItem (Decode.optional Filter.decode) unclosed rest
    let (order, rest) ←
      Decode.nextItem (Decode.optional (Decode.list SortKey.decode)) unclosed rest
    let (limit, rest) ← Decode.nextItem (Decode.optional Decode.word32) unclosed rest
    let (offset, rest) ← Decode.nextItem (Decode.optional Decode.word32) unclosed rest
    Decode.endSequence rest unclosed
    return ofParts ⟨projection, filter, order, limit, offset⟩
  | draft => .error (Decode.mismatch "struct FindRequest" draft)

end FindRequest

namespace Kind

/-- Reads a kind. -/
def decode : Decoder Kind := Decode.variant (all.map name) ofName?

end Kind

namespace Field

/-- The members of a field that have been read. -/
structure Parts where
  name : Option String
  kind : Option Kind

/-- Reads one member of a field. -/
def decodeMember (parts : Parts) (key : String) (value : Draft) : Except DecodeError Parts :=
  -- The name and the kind are set once each, whatever their order.
  if key = "name" then
    (Decode.once key parts.name Decode.text value).map ({ parts with name := · })
  else if key = "kind" then
    (Decode.once key parts.kind Kind.decode value).map ({ parts with kind := · })
  else
    -- Other members are passed over, but have to be readable.
    match value.skip with
    | .ok () => .ok parts
    | .error fault => .error (Decode.unreadable fault)

/-- Reads a field from an object or from a list. -/
def decode : Decoder Field
  -- Both members have to be there.
  | .object pairs unclosed => do
    let parts ← Decode.members decodeMember ⟨none, none⟩ pairs unclosed
    let name ← Decode.required "name" parts.name
    let kind ← Decode.required "kind" parts.kind
    return ⟨name, kind⟩
  | .array items unclosed => do
    let (name, rest) ← Decode.nextItem Decode.text unclosed items
    -- The length that is told counts the items that were found.
    match name with
    | none => throw (.invalidLength 0 "struct Field with 2 elements")
    | some name =>
      let (kind, rest) ← Decode.nextItem Kind.decode unclosed rest
      match kind with
      | none => throw (.invalidLength 1 "struct Field with 2 elements")
      | some kind =>
        Decode.endSequence rest unclosed
        return ⟨name, kind⟩
  | draft => .error (Decode.mismatch "struct Field" draft)

end Field

end RowFilter
