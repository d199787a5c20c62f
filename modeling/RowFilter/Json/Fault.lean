import RowFilter.Text.Basic

/-! Reasons why text is no JSON document, and the place where each one shows. -/

namespace RowFilter

/-- What is wrong with a JSON text. -/
inductive Cause where
  | endInValue
  | endInList
  | endInObject
  | endInString
  | expectedValue
  | expectedIdent
  | expectedColon
  | expectedItemEnd
  | expectedMemberEnd
  | keyNotString
  | trailingComma
  | trailingCharacters
  | invalidEscape
  | invalidNumber
  | numberOutOfRange
  | brokenSurrogatePair
  | loneSurrogate
  | controlCharacter
  | tooDeep
deriving DecidableEq, Repr

/-- The wording of a cause. -/
def Cause.message : Cause → String
  -- The first few tell where the text ends too early, and the others what stands in the wrong
  -- place.
  | .endInValue => "EOF while parsing a value"
  | .endInList => "EOF while parsing a list"
  | .endInObject => "EOF while parsing an object"
  | .endInString => "EOF while parsing a string"
  | .expectedValue => "expected value"
  | .expectedIdent => "expected ident"
  | .expectedColon => "expected `:`"
  | .expectedItemEnd => "expected `,` or `]`"
  | .expectedMemberEnd => "expected `,` or `\x7d`"
  | .keyNotString => "key must be a string"
  | .trailingComma => "trailing comma"
  | .trailingCharacters => "trailing characters"
  | .invalidEscape => "invalid escape"
  | .invalidNumber => "invalid number"
  | .numberOutOfRange => "number out of range"
  | .brokenSurrogatePair => "unexpected end of hex escape"
  | .loneSurrogate => "lone leading surrogate in hex escape"
  | .controlCharacter => "control character (\\u0000-\\u001F) found while parsing a string"
  | .tooDeep => "recursion limit exceeded"

/-- A cause together with the number of bytes that were still unread when it showed. -/
structure Fault where
  cause : Cause
  unread : Nat
deriving DecidableEq, Repr

namespace Fault

/-- A fault that shows before the next character is read. -/
def before (cause : Cause) (rest : List Char) : Fault := ⟨cause, Text.byteLength rest⟩

/-- A fault that shows once the first byte of the next character is seen. -/
def on (cause : Cause) (rest : List Char) : Fault := ⟨cause, Text.byteLength rest - 1⟩

end Fault

/-- A line, counted from one, and a column, counted in bytes from the start of the line. -/
structure Position where
  line : Nat
  column : Nat
deriving DecidableEq, Repr

/-- Walks a number of bytes into a text, where a line feed opens a new line. -/
def Position.advance (position : Position) : List Char → Nat → Position
  -- Behind the end of the text the position stays where it is.
  | [], _ => position
  | c :: rest, bytes =>
    -- Bytes that end inside of a character count into the column.
    if bytes < c.utf8Size then ⟨position.line, position.column + bytes⟩
    else
      let next : Position :=
        if c = '\n' then ⟨position.line + 1, 0⟩
        else ⟨position.line, position.column + c.utf8Size⟩
      next.advance rest (bytes - c.utf8Size)

/-- A syntax error as it is reported. -/
structure SyntaxError where
  cause : Cause
  position : Position
deriving DecidableEq, Repr

/-- The report of a fault found in a text. -/
def Fault.inText (fault : Fault) (text : String) : SyntaxError :=
  -- What was read is the whole text without what was unread.
  ⟨fault.cause, Position.advance ⟨1, 0⟩ text.toList (text.utf8ByteSize - fault.unread)⟩

/-- The cause and the place of a syntax error in one line. -/
def SyntaxError.message (error : SyntaxError) : String :=
  -- Lines and columns are counted for people, from one.
  s!"{error.cause.message} at line {error.position.line} column {error.position.column}"

end RowFilter
