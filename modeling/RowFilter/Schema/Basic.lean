import RowFilter.Decimal.Exact
import RowFilter.Json.Writer

/-! Schemas of JSON documents: what they accept, and what they object to. -/

namespace RowFilter

/-- A type of JSON documents. -/
inductive JsonType where
  | null
  | boolean
  | integer
  | number
  | string
  | array
  | object
deriving DecidableEq

namespace JsonType

/-- The name of a type. -/
def name : JsonType → String
  | .null => "null"
  | .boolean => "boolean"
  | .integer => "integer"
  | .number => "number"
  | .string => "string"
  | .array => "array"
  | .object => "object"

/-- Whether a document is of a type; a float without a fraction is an integer. -/
def holds : JsonType → Json → Bool
  -- Each document has one type, except that whole numbers are numbers as well.
  | .null, .null => true
  | .boolean, .bool _ => true
  | .integer, .integer _ => true
  | .integer, .float value => (Decimal.wholeValue? value).isSome
  | .number, .integer _ => true
  | .number, .float _ => true
  | .string, .string _ => true
  | .array, .array _ => true
  | .object, .object _ => true
  | _, _ => false

end JsonType

namespace Json

/-- Whether two documents are the same value, where numbers count by their size alone. -/
def sameValue : Json → Json → Bool
  -- A whole number and a float are compared exactly, without rounding either of them.
  | .integer a, .float b => Decimal.wholeValue? b = some a.value
  | .float a, .integer b => Decimal.wholeValue? a = some b.value
  | .float a, .float b => a == b
  | a, b => a = b

/-- Whether no two items are the same value. -/
def allDifferent : List Json → Bool
  -- Each item is compared with all behind it, so that every pair is looked at once.
  | [] => true
  | item :: rest => !rest.any (sameValue item) && allDifferent rest

/-- Whether a document is a number below zero. -/
def isBelowZero : Json → Bool
  -- A negative zero is not below zero.
  | .integer value => value.value < 0
  | .float value => Decimal.isBelowZero value
  | _ => false

end Json

/-- A schema. -/
inductive Schema where
  | typed (type : JsonType)
  | typedAmong (types : List JsonType)
  | constant (value : String)
  | among (values : List String)
  | anyOf (options : List Schema)
  /-- An array with bounds on its length, whose items may have to differ. -/
  | list (items : Schema) (least most : Option Nat) (different : Bool)
  /-- An object with no other keys than these. -/
  | record (properties : List (String × Schema)) (required : List String)
  /-- An integer of at least zero. -/
  | count
deriving Inhabited

namespace Schema

/-- A member that stands only if there is something to say. -/
def optionalMember (key : String) (value : Option Json) : List (String × Json) :=
  -- Absent members are left out, instead of being spelled as null.
  (value.map fun content => (key, content)).toList

/-- The document of a small number. -/
def ofNat (number : Nat) : Json := ((WideInt.ofInt? number).map Json.integer).getD .null

mutual

/-- The JSON spelling of a schema. -/
def toJson : Schema → Json
  -- A schema is spelled with the keys of its own kind only, and in a fixed order.
  | .typed type => .object [("type", .string type.name)]
  | .typedAmong types =>
    .object [("type", .array (types.map fun type => .string type.name))]
  | .constant value => .object [("const", .string value)]
  | .among values => .object [("enum", .array (values.map .string))]
  | .anyOf options => .object [("anyOf", .array (optionsToJson options))]
  | .list items least most different =>
    .object ([("type", .string "array"), ("items", toJson items)]
      ++ optionalMember "minItems" (least.map ofNat)
      ++ optionalMember "maxItems" (most.map ofNat)
      ++ optionalMember "uniqueItems" (if different then some (.bool true) else none))
  | .record properties required =>
    .object ([("type", .string "object"), ("properties", .object (propertiesToJson properties))]
      ++ optionalMember "required"
        (if required.isEmpty then none else some (.array (required.map .string)))
      ++ [("additionalProperties", .bool false)])
  | .count => .object [("type", .string "integer"), ("minimum", ofNat 0)]

/-- The JSON spellings of all options. -/
def optionsToJson : List Schema → List Json
  -- The options are nested schemas, for which the recursion goes through the list.
  | [] => []
  | option :: rest => toJson option :: optionsToJson rest

/-- The JSON spellings of all properties under their keys. -/
def propertiesToJson : List (String × Schema) → List (String × Json)
  -- The order of the properties stays.
  | [] => []
  | (key, schema) :: rest => (key, toJson schema) :: propertiesToJson rest

end

/-- Whether a number of items is within bounds. -/
def withinBounds (least most : Option Nat) (count : Nat) : Bool :=
  -- A bound that is absent excludes nothing.
  (least.all fun bound => bound ≤ count) && (most.all fun bound => count ≤ bound)

/-- Whether an object has no key but the given ones. -/
def onlyKeys (keys : List String) (members : Members) : Bool :=
  -- The order of the keys does not matter.
  members.all fun (key, _) => keys.contains key

/-- Whether an object has all the given keys. -/
def hasKeys (keys : List String) (members : Members) : Bool :=
  -- A key with null as its value is there.
  keys.all fun key => (members.get? key).isSome

mutual

/-- Whether a schema accepts a document. -/
def accepts : Schema → Json → Bool
  -- A schema decides by itself, and no schema refers to another one.
  | .typed type, document => type.holds document
  | .typedAmong types, document => types.any (·.holds document)
  | .constant value, document => document = .string value
  | .among values, document => values.any fun value => document = .string value
  | .anyOf options, document => acceptsAny options document
  -- Items are checked one by one, and the list by its length and its repetitions.
  | .list items least most different, .array documents =>
    documents.all (accepts items) && withinBounds least most documents.length
      && (!different || Json.allDifferent documents)
  | .list _ _ _ _, _ => false
  | .record properties required, .object members =>
    acceptsProperties properties members && hasKeys required members
      && onlyKeys (properties.map (·.1)) members
  | .record _ _, _ => false
  | .count, document => JsonType.integer.holds document && !document.isBelowZero

/-- Whether one of some schemas accepts a document. -/
def acceptsAny : List Schema → Json → Bool
  -- The options are alternatives, none of which accepts where there are none.
  | [], _ => false
  | option :: rest, document => accepts option document || acceptsAny rest document

/-- Whether the properties of an object that are there are accepted. -/
def acceptsProperties : List (String × Schema) → Members → Bool
  -- A property that is absent is not checked.
  | [], _ => true
  | (key, schema) :: rest, members =>
    ((members.get? key).all (accepts schema)) && acceptsProperties rest members

end

end Schema

/-- What a schema objects to in a document. -/
structure Violation where
  path : List String
  message : String
deriving DecidableEq

namespace Violation

/-- A step of a path, in which tildes and slashes are written as a tilde with a digit. -/
def stepChars (step : List Char) : List Char :=
  -- A tilde is escaped as well, so that no step is mistaken for two.
  step.flatMap fun c =>
    if c = '~' then ['~', '0'] else if c = '/' then ['~', '1'] else [c]

/-- The path to a part of a document, with a slash before each step. -/
def pathText (violation : Violation) : String :=
  -- The path of the whole document is empty.
  String.ofList (violation.path.flatMap fun step => '/' :: stepChars step.toList)

end Violation

namespace Schema

/-- The values that would have been accepted: all of up to three, or two and a count. -/
def candidates (values : List String) : String :=
  -- A longer list would hide the message.
  match values.map fun value => (Json.string value).write with
  | [] => ""
  | [one] => one
  | [one, two] => s!"{one} or {two}"
  | [one, two, three] => s!"{one}, {two} or {three}"
  | one :: two :: rest => s!"{one}, {two} or {rest.length} other candidates"

/-- The names of some keys between apostrophes. -/
def keyList (keys : List String) : String :=
  -- Keys are shown as they are, without escapes.
  ", ".intercalate (keys.map fun key => s!"'{key}'")

/-- The wording for keys that an object should not have. -/
def unexpectedKeys (keys : List String) : String :=
  -- One message serves for all unknown keys.
  let verb := if keys.length = 1 then "was" else "were"
  s!"Additional properties are not allowed ({keyList keys} {verb} unexpected)"

/-- The wording for a document that is not of a type. -/
def wrongType (type : JsonType) (document : Json) : String :=
  -- The document is shown in full.
  s!"{document.write} is not of type \"{type.name}\""

/-- The objections to the number of items, and to items that do not differ. -/
def listMessages (least most : Option Nat) (different : Bool) (documents : List Json) :
    List String :=
  -- Each of the three objections stands by itself.
  let text := (Json.array documents).write
  let plural (bound : Nat) := if bound = 1 then "item" else "items"
  (least.toList.filter (documents.length < ·)).map
      (fun bound => s!"{text} has less than {bound} {plural bound}")
    ++ (most.toList.filter (· < documents.length)).map
      (fun bound => s!"{text} has more than {bound} {plural bound}")
    ++ (if different && !Json.allDifferent documents then [s!"{text} has non-unique elements"]
        else [])

/-- The objections to the keys of an object. -/
def keyMessages (known required : List String) (members : Members) : List String :=
  -- Each missing key has an objection of its own, and all unknown keys share one.
  let missing := required.filter fun key => (members.get? key).isNone
  let unknown := members.keys.filter fun key => !known.contains key
  missing.map (fun key => s!"{(Json.string key).write} is a required property")
    ++ (if unknown.isEmpty then [] else [unexpectedKeys unknown])

mutual

/-- All objections of a schema to a document; a choice objects once for all its options. -/
def violations (path : List String) : Schema → Json → List Violation
  -- Where a schema accepts nothing is objected to, and elsewhere something is.
  | .typed type, document =>
    if type.holds document then [] else [⟨path, wrongType type document⟩]
  | .typedAmong types, document =>
    if types.any (·.holds document) then []
    else
      let names := ", ".intercalate (types.map fun type => (Json.string type.name).write)
      [⟨path, s!"{document.write} is not of types {names}"⟩]
  | .constant value, document =>
    if document = .string value then []
    else [⟨path, s!"{(Json.string value).write} was expected"⟩]
  | .among values, document =>
    if values.any fun value => document = .string value then []
    else [⟨path, s!"{document.write} is not one of {candidates values}"⟩]
  | .anyOf options, document =>
    if acceptsAny options document then []
    else
      [⟨path, s!"{document.write} is not valid under any of the schemas listed in the 'anyOf' keyword"⟩]
  -- The parts come before the whole, in the order in which they stand.
  | .list items least most different, .array documents =>
    (documents.zipIdx.flatMap fun (document, index) =>
        violations (path ++ [toString index]) items document)
      ++ (listMessages least most different documents).map (⟨path, ·⟩)
  | .list _ _ _ _, document => [⟨path, wrongType .array document⟩]
  | .record properties required, .object members =>
    propertyViolations path properties members
      ++ (keyMessages (properties.map (·.1)) required members).map (⟨path, ·⟩)
  | .record _ _, document => [⟨path, wrongType .object document⟩]
  -- A document that is no integer may be too small besides.
  | .count, document =>
    (if JsonType.integer.holds document then [] else [⟨path, wrongType .integer document⟩])
      ++ (if document.isBelowZero then
          [⟨path, s!"{document.write} is less than the minimum of 0"⟩] else [])

/-- The objections to the properties of an object. -/
def propertyViolations (path : List String) : List (String × Schema) → Members → List Violation
  -- The path grows by the key of the property.
  | [], _ => []
  | (key, schema) :: rest, members =>
    (match members.get? key with
      | some value => violations (path ++ [key]) schema value
      | none => [])
      ++ propertyViolations path rest members

end

end Schema

end RowFilter
