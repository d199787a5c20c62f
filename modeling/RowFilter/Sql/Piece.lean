import RowFilter.Sql.Backend
import RowFilter.Sql.Parameter

/-! The pieces that SQL text is made of, and the one place where they become text. -/

namespace RowFilter.Sql

/-- A fixed word of a statement. -/
inductive Word where
  | select | count | called | source | insert | into | byDefault | values | update | assign | delete
  | filtered | conjunction | disjunction | negation | test | null | among | between | like | escape
  | order | ordering | ascending | descending | limit | offset | returning | cast | text
  | formatTime | formatChars
deriving DecidableEq

/-- The spelling of a word. -/
def Word.spelling : Word → String
  -- These are all the words that can occur in statements.
  | .select => "SELECT"
  | .count => "COUNT"
  | .called => "AS"
  | .source => "FROM"
  | .insert => "INSERT"
  | .into => "INTO"
  | .byDefault => "DEFAULT"
  | .values => "VALUES"
  | .update => "UPDATE"
  | .assign => "SET"
  | .delete => "DELETE"
  | .filtered => "WHERE"
  | .conjunction => "AND"
  | .disjunction => "OR"
  | .negation => "NOT"
  | .test => "IS"
  | .null => "NULL"
  | .among => "IN"
  | .between => "BETWEEN"
  | .like => "LIKE"
  | .escape => "ESCAPE"
  | .order => "ORDER"
  | .ordering => "BY"
  | .ascending => "ASC"
  | .descending => "DESC"
  | .limit => "LIMIT"
  | .offset => "OFFSET"
  | .returning => "RETURNING"
  | .cast => "CAST"
  | .text => "TEXT"
  | .formatTime => "strftime"
  | .formatChars => "to_char"

/-- A fixed mark of a statement. -/
inductive Mark where
  | opening | closing | comma | star | typed | equal | notEqual | less | lessEqual | greater
  | greaterEqual
deriving DecidableEq

/-- The spelling of a mark. -/
def Mark.spelling : Mark → String
  -- Inequality has one spelling out of the two that exist.
  | .opening => "("
  | .closing => ")"
  | .comma => ","
  | .star => "*"
  | .typed => "::"
  | .equal => "="
  | .notEqual => "<>"
  | .less => "<"
  | .lessEqual => "<="
  | .greater => ">"
  | .greaterEqual => ">="

/-- A fixed text literal. -/
inductive Literal where
  | timeFormat
  | charsFormat
  | escape
deriving DecidableEq

/-- The content of a literal. -/
def Literal.content : Literal → String
  -- No content has a quote in it, so that none has to be written twice.
  | .timeFormat => "%Y-%m-%d %H:%M:%S"
  | .charsFormat => "YYYY-MM-DD HH24:MI:SS"
  | .escape => "\\"

/-- A piece of a statement: only names and bound values come from outside. -/
inductive Piece where
  | word (word : Word)
  | mark (mark : Mark)
  | blank
  | literal (literal : Literal)
  | numeral (value : Nat)
  | name (name : String)
  | value (value : Parameter) (temporal : Bool)
deriving DecidableEq

/-- A run of pieces. -/
abbrev Fragment := List Piece

/-- The characters of a piece, where a value would be bound at the given index. -/
def Piece.chars (backend : Backend) (index : Nat) : Piece → List Char
  -- Only a value depends on its place, and only a name on the quote of the backend.
  | .word fixed => fixed.spelling.toList
  | .mark fixed => fixed.spelling.toList
  | .blank => [' ']
  | .literal fixed => '\x27' :: (fixed.content.toList ++ ['\x27'])
  | .numeral number => Nat.toDigits 10 number
  | .name identifier => backend.quoted identifier
  | .value bound temporal =>
    if temporal && bound.isText then backend.timePlaceholder index
    else backend.placeholder index

/-- The values bound once a piece is written. -/
def Piece.bind (bound : Array Parameter) : Piece → Array Parameter
  -- Nothing but a value is bound.
  | .value parameter _ => bound.push parameter
  | _ => bound

/-- SQL text with the values bound in it so far. -/
structure Rendering where
  text : String
  bound : Array Parameter

/-- Writes one more piece; each value takes the next index. -/
def Rendering.push (backend : Backend) (rendering : Rendering) (piece : Piece) : Rendering :=
  -- The index is one more than the number of values so far.
  ⟨rendering.text ++ String.ofList (piece.chars backend (rendering.bound.size + 1)),
    piece.bind rendering.bound⟩

/-- The text of a fragment and its values in the order of their placeholders. -/
def Fragment.render (backend : Backend) (fragment : Fragment) : Rendering :=
  -- Text and values grow together, piece by piece.
  fragment.foldl (Rendering.push backend) ⟨"", #[]⟩

/-- The text of a fragment that binds nothing. -/
def Fragment.text (backend : Backend) (fragment : Fragment) : String :=
  -- Without values it makes no difference where the text stands.
  (Fragment.render backend fragment).text

/-- Fragments with a separator between them. -/
def Fragment.join (separator : Fragment) : List Fragment → Fragment
  -- The separator stands in front of each fragment but the first.
  | [] => []
  | first :: rest => first ++ rest.flatMap (separator ++ ·)

/-- The separator of lists. -/
def Fragment.commaBlank : Fragment := [.mark .comma, .blank]

/-- A list of fragments between parentheses. -/
def Fragment.tuple (items : List Fragment) : Fragment :=
  -- A comma and a blank divide the items.
  .mark .opening :: (Fragment.join Fragment.commaBlank items ++ [.mark .closing])

/-- The word for a negated test, with the blank after it. -/
def negation (negated : Bool) : Fragment := if negated then [.word .negation, .blank] else []

/-- What stands around a column that is compared as text: the part before it and the part after. -/
def castParts : Backend → Fragment × Fragment
  -- One backend casts with a call, and the other one behind the column.
  | .sqlite =>
    ([.word .cast, .mark .opening],
      [.blank, .word .called, .blank, .word .text, .mark .closing])
  | .postgres => ([], [.mark .typed, .word .text])

/-- What stands around a column of dates that is compared as text. -/
def dateParts : Backend → Fragment × Fragment
  -- Both formats spell a point in time in the same way, so that the same pattern fits.
  | .sqlite =>
    ([.word .formatTime, .mark .opening, .literal .timeFormat, .mark .comma, .blank], [.mark .closing])
  | .postgres =>
    ([.word .formatChars, .mark .opening],
      [.mark .comma, .blank, .literal .charsFormat, .mark .closing])

/-- What stands between the target of a pattern and the pattern. -/
def likeOpening (negated : Bool) : Fragment :=
  -- The negation stands in front of the word.
  .blank :: (negation negated ++ [.word .like, .blank])

/-- What stands after a pattern: a backslash makes the next character literal. -/
def likeClosing : Fragment := [.blank, .word .escape, .blank, .literal .escape]

/-- The part of a statement that cuts its rows. -/
def pageFragment (limit offset : Nat) : Fragment :=
  -- Both numbers are written out, since they are no values.
  [.word .limit, .blank, .numeral limit, .blank, .word .offset, .blank, .numeral offset]

/-- A text between the two parts of a wrapper. -/
def wrapText (backend : Backend) (parts : Fragment × Fragment) (text : String) : String :=
  -- The text itself may bind values, and the wrapper binds none.
  Fragment.text backend parts.1 ++ text ++ Fragment.text backend parts.2

/-- A test of a text against a pattern, both given as SQL text. -/
def likeText (backend : Backend) (target pattern : String) (negated : Bool) : String :=
  -- The escape character is named each time.
  target ++ Fragment.text backend (likeOpening negated) ++ pattern
    ++ Fragment.text backend likeClosing

end RowFilter.Sql
