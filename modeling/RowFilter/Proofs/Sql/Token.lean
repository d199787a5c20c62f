import RowFilter.Sql.Piece

/-! SQL text read back as tokens, by the lexical rules of each backend. -/

namespace RowFilter.Sql

/-- A token of SQL text; `Place` is what is known about the place of a bound value. -/
inductive Token (Place : Type) where
  | name (content : String)
  | literal (content : String)
  | word (text : String)
  | numeral (digits : String)
  | mark (mark : Mark)
  | place (place : Place)
deriving DecidableEq

/-- Whether a character may stand in words and numerals. -/
def isWordChar (c : Char) : Bool := c.isAlphanum || c = '_'

/-- Whether a character may stand in marks that are read as far as they reach. -/
def isOperatorChar (c : Char) : Bool := c = '*' || c = ':' || c = '=' || c = '<' || c = '>'

/-- The marks that are read as far as they reach. -/
def operators : List Mark :=
  -- The others are one character each, and end where they stand.
  [.star, .typed, .equal, .notEqual, .less, .lessEqual, .greater, .greaterEqual]

/-- The quote around text literals, in which a backslash is an ordinary character. -/
def literalQuote : Char := '\x27'

/-- The sign of a bound place. -/
def placeSign : Backend → Char
  -- Only one of the backends has numbers behind its places.
  | .sqlite => '?'
  | .postgres => '$'

/-- What a reader of SQL text is in the middle of. -/
inductive Mode where
  | outside
  | word (run : List Char)
  | operator (run : List Char)
  /-- The digits behind the sign of a bound place. -/
  | place (digits : List Char)
  /-- Between quotes, where everything is content. -/
  | quoted (quote : Char) (content : List Char)
  /-- Behind a quote that closes unless it is written twice. -/
  | closing (quote : Char) (content : List Char)

namespace Mode

/-- The mode after one more character of the same token, or none if the token ends before it. -/
def extend? : Mode → Char → Option Mode
  -- A quote that is met within quotes closes them, unless another one follows at once.
  | .outside, _ => none
  | .word run, c => if isWordChar c then some (.word (run ++ [c])) else none
  | .operator run, c => if isOperatorChar c then some (.operator (run ++ [c])) else none
  | .place digits, c => if isWordChar c then some (.place (digits ++ [c])) else none
  | .quoted quote content, c =>
    if c = quote then some (.closing quote content) else some (.quoted quote (content ++ [c]))
  | .closing quote content, c =>
    if c = quote then some (.quoted quote (content ++ [c])) else none

/-- The token that ends here, or none if no token can end here. -/
def tokens? (backend : Backend) : Mode → Option (List (Token String))
  | .outside => some []
  | .word run =>
    -- A run of digits is a number, and a word does not begin with a digit.
    if run.all Char.isDigit then some [.numeral (String.ofList run)]
    else if run.head?.any Char.isDigit then none
    else some [.word (String.ofList run)]
  | .operator run => (operators.find? (·.spelling.toList == run)).map ([.mark ·])
  | .place digits =>
    -- Only one of the two backends counts its places for itself.
    if digits.all Char.isDigit && (backend = .sqlite || !digits.isEmpty) then
      some [.place (String.ofList digits)]
    else none
  | .quoted _ _ => none
  | .closing quote content =>
    if quote = literalQuote then some [.literal (String.ofList content)]
    else some [.name (String.ofList content)]

/-- What the first character of a token yields; no other character may stand outside of quotes. -/
def start? (backend : Backend) (c : Char) : Option (List (Token String) × Mode) :=
  -- The two quotes are told apart by what they enclose once they are closed.
  if c.isWhitespace then some ([], .outside)
  else if isWordChar c then some ([], .word [c])
  else if isOperatorChar c then some ([], .operator [c])
  else if c = '(' then some ([.mark .opening], .outside)
  else if c = ')' then some ([.mark .closing], .outside)
  else if c = ',' then some ([.mark .comma], .outside)
  else if c = backend.identifierQuote || c = literalQuote then some ([], .quoted c [])
  else if c = placeSign backend then some ([], .place [])
  else none

/-- The tokens of the characters that follow; none if a quote stays open or nothing fits. -/
def read (backend : Backend) : Mode → List Char → Option (List (Token String))
  -- Where a token ends, the character that ended it starts the next one.
  | mode, [] => mode.tokens? backend
  | mode, c :: rest =>
    match mode.extend? c with
    | some next => read backend next rest
    | none => do
      let before ← mode.tokens? backend
      let (here, next) ← start? backend c
      let after ← read backend next rest
      return before ++ (here ++ after)

end Mode

/-- The tokens of SQL text; none if a quote stays open or a character fits no token. -/
def tokens? (backend : Backend) (text : String) : Option (List (Token String)) :=
  -- The text is read from outside of any token.
  Mode.read backend .outside text.toList

namespace Mode

variable {backend : Backend}

/-- Characters that all extend a token leave the reader inside of it. -/
theorem read_of_extends {mode next : Mode} {cs : List Char}
    (reached : cs.foldlM extend? mode = some next) (rest : List Char) :
    read backend mode (cs ++ rest) = read backend next rest := by
  -- Each character moves the mode on without ending the token.
  induction cs generalizing mode with
  | nil => simp_all
  | cons c cs ih =>
    cases step : mode.extend? c with
    | none => simp [step] at reached
    | some middle =>
      simp only [List.foldlM_cons, step, Option.bind_eq_bind, Option.bind_some] at reached
      rw [List.cons_append, read, step]
      exact ih reached

/-- Outside of tokens nothing is extended. -/
@[simp] theorem extend?_outside (c : Char) : extend? .outside c = none := rfl

/-- Outside of tokens nothing is pending. -/
@[simp] theorem tokens?_outside : tokens? backend .outside = some [] := rfl

/-- A token ends before a character that does not extend it, and before the end of the text. -/
theorem read_boundary {mode : Mode} {rest : List Char}
    (ends : ∀ c ∈ rest.head?, mode.extend? c = none) :
    read backend mode rest = do
      let before ← mode.tokens? backend
      let after ← read backend .outside rest
      return before ++ after := by
  -- At the end of the text nothing else is pending, and otherwise one character decides.
  cases rest with
  | nil => simp [read]
  | cons c rest =>
    have fresh : mode.extend? c = none := ends c (by simp)
    -- Outside of a token nothing is pending, so the first character decides alone.
    cases begun : start? backend c <;> simp [read, fresh, begun, Option.bind_assoc]

/-- A first character that yields nothing by itself opens its mode. -/
theorem read_outside {c : Char} {next : Mode} {here : List (Token String)}
    (begun : start? backend c = some (here, next)) (rest : List Char) :
    read backend .outside (c :: rest) = (read backend next rest).map (here ++ ·) := by
  -- Nothing is pending outside of tokens, so only what the character yields comes first.
  cases after : read backend next rest <;> simp [read, begun, after]

/-- Characters that a mode takes one at a time are taken as a run. -/
theorem extends_run (mode : List Char → Mode) {fits : Char → Bool}
    (step : ∀ run c, fits c = true → (mode run).extend? c = some (mode (run ++ [c])))
    {cs : List Char} (all : ∀ c ∈ cs, fits c = true) (run : List Char) :
    cs.foldlM extend? (mode run) = some (mode (run ++ cs)) := by
  -- The run grows by one character at a time, so what it holds already is any text.
  induction cs generalizing run with
  | nil => simp
  | cons c cs ih =>
    obtain ⟨first, others⟩ := List.forall_mem_cons.mp all
    simp [step run c first, ih others]

/-- Word characters extend a word. -/
theorem extends_word {cs : List Char} (fits : ∀ c ∈ cs, isWordChar c = true) (run : List Char) :
    cs.foldlM extend? (.word run) = some (.word (run ++ cs)) :=
  -- This is the general run of one mode, whose test is that of words.
  extends_run .word (fun _ _ fits => if_pos fits) fits run

/-- Word characters extend the number of a bound place. -/
theorem extends_place {cs : List Char} (fits : ∀ c ∈ cs, isWordChar c = true)
    (digits : List Char) : cs.foldlM extend? (.place digits) = some (.place (digits ++ cs)) :=
  -- Letters extend it too, so that a number with letters behind it is no place at all.
  extends_run .place (fun _ _ fits => if_pos fits) fits digits

/-- Operator characters extend a mark. -/
theorem extends_operator {cs : List Char} (fits : ∀ c ∈ cs, isOperatorChar c = true)
    (run : List Char) : cs.foldlM extend? (.operator run) = some (.operator (run ++ cs)) :=
  -- Marks are read as far as they reach.
  extends_run .operator (fun _ _ fits => if_pos fits) fits run

/-- Content with each quote written twice never leaves its quotes. -/
theorem extends_quoted (quote : Char) (cs content : List Char) :
    (cs.flatMap fun c => if c = quote then [c, c] else [c]).foldlM extend? (.quoted quote content)
      = some (.quoted quote (content ++ cs)) := by
  -- A doubled quote closes for one character only, whatever stands around it.
  induction cs generalizing content with
  | nil => simp
  | cons c cs ih =>
    by_cases same : c = quote
    · -- The first of the two quotes leaves the content, and the second one enters it again.
      subst same
      simpa [List.flatMap_cons, extend?] using ih (content ++ [c])
    · simpa [List.flatMap_cons, extend?, same] using ih (content ++ [c])

end Mode

end RowFilter.Sql
