import Mathlib.Data.List.Chain
import RowFilter.Proofs.Sql.Token

/-! Rendered pieces read back as the tokens they stand for, unless two of them run together. -/

namespace RowFilter.Sql

/-- Whether a bound value carries the cast to a point in time. -/
def showsTime : Backend → Parameter → Bool → Bool
  -- Only texts are cast, since other values have a type of their own.
  | .sqlite, _, _ => false
  | .postgres, value, temporal => temporal && value.isText

/-- The word that casts a bound text to a point in time. -/
def timeWord : String := "TIMESTAMPTZ"

/-- The digits behind the sign of a bound place. -/
def placeDigits : Backend → Nat → String
  -- One backend numbers its places, and the other one counts them as they come.
  | .sqlite, _ => ""
  | .postgres, index => String.ofList (Nat.toDigits 10 index)

namespace Piece

/-- The tokens of a piece, where `place` says what is known about a bound value. -/
def tokens {Place : Type} (backend : Backend) (place : Parameter → Place) :
    Piece → List (Token Place)
  -- Blanks only keep the tokens apart.
  | .word fixed => [.word fixed.spelling]
  | .mark fixed => [.mark fixed]
  | .blank => []
  | .literal fixed => [.literal fixed.content]
  | .numeral number => [.numeral (String.ofList (Nat.toDigits 10 number))]
  | .name identifier => [.name identifier]
  | .value bound temporal =>
    .place (place bound)
      :: if showsTime backend bound temporal then [.mark .typed, .word timeWord] else []

/-- The value that a piece binds. -/
def value? : Piece → Option Parameter
  -- Everything else is written into the text itself.
  | .value bound _ => some bound
  | _ => none

/-- Whether a piece is a token that nothing extends and that extends nothing. -/
def isDelimiter : Piece → Bool
  -- A blank ends what is in front of it, and brackets and commas are read one by one.
  | .blank | .mark .opening | .mark .closing | .mark .comma => true
  | _ => false

/-- Whether two pieces next to each other stay apart. -/
def apart (first second : Piece) : Bool :=
  -- Two pieces may also be known not to run into each other without a delimiter.
  first.isDelimiter || second.isDelimiter ||
    match first, second with
    | .name _, .mark .typed => true
    | .mark .typed, .word _ => true
    | _, _ => false

/-- Whether a character directly behind a piece would be read as part of it. -/
def extendedBy (backend : Backend) : Piece → Char → Bool
  -- What opened a piece decides which characters it takes.
  | .word _, c | .numeral _, c | .value _ _, c => isWordChar c
  | .mark fixed, c => operators.contains fixed && isOperatorChar c
  | .blank, _ => false
  | .literal _, c => c = literalQuote
  | .name _, c => c = backend.identifierQuote

end Piece

namespace Mode

variable {backend : Backend}

/-- Word characters are no blanks. -/
theorem not_blank_of_isWordChar {c : Char} (fits : isWordChar c = true) :
    c.isWhitespace = false := by
  -- Each of the four blanks is checked against the word characters.
  by_contra blank
  simp only [Char.isWhitespace, Bool.not_eq_false, Bool.or_eq_true, decide_eq_true_eq] at blank
  rcases blank with ((rfl | rfl) | rfl) | rfl <;> revert fits <;> decide

/-- A word character opens a word. -/
theorem start?_word {c : Char} (fits : isWordChar c = true) :
    start? backend c = some ([], .word [c]) := by
  -- Blanks are tried first, and no word character is one.
  simp [start?, not_blank_of_isWordChar fits, fits]

/-- An operator character opens a mark. -/
theorem start?_operator {c : Char} (fits : isOperatorChar c = true) :
    start? backend c = some ([], .operator [c]) := by
  -- None of the five characters may stand in a word.
  simp only [isOperatorChar, Bool.or_eq_true, decide_eq_true_eq] at fits
  rcases fits with (((rfl | rfl) | rfl) | rfl) | rfl <;> rfl

/-- The sign of a bound place opens one. -/
theorem start?_place : start? backend (placeSign backend) = some ([], .place []) := by
  -- By the backends, each of which has a sign of its own.
  cases backend <;> rfl

/-- Both kinds of quotes open quoted content. -/
theorem start?_quote {quote : Char}
    (named : quote = backend.identifierQuote ∨ quote = literalQuote) :
    start? backend quote = some ([], .quoted quote []) := by
  -- By the backends and the two quotes, which may be the same mark.
  cases backend <;> rcases named with rfl | rfl <;> rfl

/-- Characters that open a token and extend it are read as it, up to one that does not extend it. -/
theorem read_token {c : Char} {cs rest : List Char} {opened closing : Mode}
    {result : List (Token String)} (begun : start? backend c = some ([], opened))
    (reached : cs.foldlM extend? opened = some closing)
    (closed : closing.tokens? backend = some result)
    (ends : ∀ d ∈ rest.head?, closing.extend? d = none) :
    read backend .outside (c :: cs ++ rest) = (read backend .outside rest).map (result ++ ·) := by
  -- The token is opened, extended to its last character, and closed by what follows.
  rw [List.cons_append, read_outside begun, read_of_extends reached, read_boundary ends]
  cases after : read backend .outside rest <;> simp [closed]

/-- A run of word characters is read up to the first character that is none. -/
theorem read_run {c : Char} {cs rest : List Char} {result : List (Token String)}
    (fits : ∀ d ∈ c :: cs, isWordChar d = true)
    (closed : (Mode.word (c :: cs)).tokens? backend = some result)
    (ends : ∀ d ∈ rest.head?, isWordChar d = false) :
    read backend .outside (c :: cs ++ rest) = (read backend .outside rest).map (result ++ ·) := by
  -- The first character opens the word, and all others belong to it.
  have first : isWordChar c = true := fits c (by simp)
  have others : ∀ d ∈ cs, isWordChar d = true := fun d member => fits d (by simp [member])
  have reached : cs.foldlM extend? (.word [c]) = some (.word (c :: cs)) := extends_word others [c]
  refine read_token (start?_word first) reached closed fun d member => ?_
  simp [extend?, ends d member]

/-- A run of operator characters is read up to the first character that is none. -/
theorem read_operator {fixed : Mark} {rest : List Char} (listed : fixed ∈ operators)
    (ends : ∀ d ∈ rest.head?, isOperatorChar d = false) :
    read backend .outside (fixed.spelling.toList ++ rest)
      = (read backend .outside rest).map ([.mark fixed] ++ ·) := by
  -- Each listed mark is a run of operator characters that spells no other mark.
  obtain ⟨c, cs, spelled, first, others, closed⟩ : ∃ c cs, fixed.spelling.toList = c :: cs ∧
      isOperatorChar c = true ∧ (∀ d ∈ cs, isOperatorChar d = true) ∧
      (Mode.operator (c :: cs)).tokens? backend = some [.mark fixed] := by
    cases fixed <;> first
      | exact ⟨_, _, rfl, by decide, List.all_eq_true.mp (by decide), rfl⟩
      | simp [operators] at listed
  have reached : cs.foldlM extend? (.operator [c]) = some (.operator (c :: cs)) :=
    extends_operator others [c]
  rw [spelled]
  refine read_token (start?_operator first) reached closed fun d member => ?_
  simp [extend?, ends d member]

/-- Quoted content is read up to its closing quote. -/
theorem read_quoted {quote : Char} (content : String) {rest : List Char}
    (named : quote = backend.identifierQuote ∨ quote = literalQuote)
    (ends : ∀ d ∈ rest.head?, d ≠ quote) :
    read backend .outside (quote :: ((content.toList.flatMap fun c =>
      if c = quote then [c, c] else [c]) ++ (quote :: rest)))
      = (read backend .outside rest).map
          ([if quote = literalQuote then .literal content else .name content] ++ ·) := by
  -- The content stays between its quotes, and the last quote is not followed by another one.
  have reached : ((content.toList.flatMap fun c => if c = quote then [c, c] else [c])
      ++ [quote]).foldlM extend? (.quoted quote []) = some (.closing quote content.toList) := by
    rw [List.foldlM_append, extends_quoted]
    simp [extend?]
  have closed : (Mode.closing quote content.toList).tokens? backend
      = some [if quote = literalQuote then .literal content else .name content] := by
    by_cases literal : quote = literalQuote <;> simp [tokens?, literal]
  have read_ := @read_token backend quote _ rest _ _ _ (start?_quote named) reached closed
    fun d member => by simp [extend?, ends d member]
  simpa using read_

end Mode

/-- Every word is spelled with word characters and starts with none of the digits. -/
theorem Word.spelling_run (fixed : Word) : ∃ c cs, fixed.spelling.toList = c :: cs ∧
    c.isDigit = false ∧ ∀ d ∈ c :: cs, isWordChar d = true := by
  -- The words are finitely many, and their spellings are fixed texts.
  cases fixed <;> exact ⟨_, _, rfl, by decide, List.all_eq_true.mp (by decide)⟩

/-- Decimal digits are word characters. -/
theorem isWordChar_digit {c : Char} (digit : c.isDigit = true) : isWordChar c = true := by
  -- Digits are among the letters and digits that words are made of.
  simp [isWordChar, Char.isAlphanum, digit]

/-- A number is written as a run of decimal digits. -/
theorem toDigits_run (number : Nat) : ∃ c cs, Nat.toDigits 10 number = c :: cs ∧
    ∀ d ∈ c :: cs, d.isDigit = true := by
  -- Every number has at least one digit, zero included.
  cases written : Nat.toDigits 10 number with
  | nil => exact absurd written Nat.toDigits_ne_nil
  | cons c cs =>
    refine ⟨c, cs, rfl, fun d member => ?_⟩
    rw [← written] at member
    exact Nat.isDigit_of_mem_toDigits (by decide) (by decide) member

namespace Mode

variable {backend : Backend}

/-- A run of word characters without a digit in front is read as a word. -/
theorem read_word {word : String} {rest : List Char} (run : ∃ c cs, word.toList = c :: cs ∧
      c.isDigit = false ∧ ∀ d ∈ c :: cs, isWordChar d = true)
    (ends : ∀ d ∈ rest.head?, isWordChar d = false) :
    read backend .outside (word.toList ++ rest)
      = (read backend .outside rest).map ([.word word] ++ ·) := by
  -- The first character keeps the run from being a number.
  obtain ⟨c, cs, spelled, first, fits⟩ := run
  have back : String.ofList (c :: cs) = word := by rw [← spelled, String.ofList_toList]
  have closed : (Mode.word (c :: cs)).tokens? backend = some [.word word] := by
    simp [tokens?, first, back]
  rw [spelled, read_run fits closed ends]

/-- The digits of a number are read as a numeral. -/
theorem read_numeral (number : Nat) {rest : List Char}
    (ends : ∀ d ∈ rest.head?, isWordChar d = false) :
    read backend .outside (Nat.toDigits 10 number ++ rest)
      = (read backend .outside rest).map
          ([.numeral (String.ofList (Nat.toDigits 10 number))] ++ ·) := by
  -- Digits are word characters, and a run of nothing but digits is a number.
  obtain ⟨c, cs, written, digits⟩ := toDigits_run number
  have closed : (Mode.word (c :: cs)).tokens? backend
      = some [.numeral (String.ofList (c :: cs))] := by
    simp only [tokens?, List.all_eq_true.mpr digits, if_true]
  rw [written, read_run (fun d member => isWordChar_digit (digits d member)) closed ends]

/-- The mark of a bound place is read with its number. -/
theorem read_place (index : Nat) {rest : List Char}
    (ends : ∀ d ∈ rest.head?, isWordChar d = false) :
    read backend .outside (backend.placeholder index ++ rest)
      = (read backend .outside rest).map ([.place (placeDigits backend index)] ++ ·) := by
  -- What follows the sign is read the same way, whether there are digits or not.
  obtain ⟨digits, written, fits, closed⟩ : ∃ digits,
      backend.placeholder index = placeSign backend :: digits ∧
      (∀ d ∈ digits, isWordChar d = true) ∧
      (Mode.place digits).tokens? backend = some [.place (placeDigits backend index)] := by
    cases backend with
    | sqlite => exact ⟨[], rfl, by simp, rfl⟩
    | postgres =>
      obtain ⟨c, cs, written, digits⟩ := toDigits_run index
      refine ⟨c :: cs, by simp [Backend.placeholder, placeSign, written],
        fun d member => isWordChar_digit (digits d member), ?_⟩
      simp only [tokens?, List.all_eq_true.mpr digits, placeDigits, written]
      simp
  have reached : digits.foldlM extend? (.place []) = some (.place digits) := extends_place fits []
  rw [written]
  refine read_token start?_place reached closed fun d member => ?_
  simp [extend?, ends d member]

end Mode

namespace Piece

variable {backend : Backend}

/-- A cast behind a bound place is read as a mark and a word. -/
theorem read_timeCast {rest : List Char} (ends : ∀ d ∈ rest.head?, isWordChar d = false) :
    Mode.read backend .outside ("::TIMESTAMPTZ".toList ++ rest)
      = (Mode.read backend .outside rest).map ([.mark .typed, .word timeWord] ++ ·) := by
  -- The mark ends where the word begins, since no letter extends it.
  have word := @Mode.read_word backend timeWord rest
    ⟨_, _, rfl, by decide, List.all_eq_true.mp (by decide)⟩ ends
  have mark := @Mode.read_operator backend .typed (timeWord.toList ++ rest) (by decide)
    (by intro d member; cases member; rfl)
  rw [show "::TIMESTAMPTZ".toList ++ rest
    = Mark.typed.spelling.toList ++ (timeWord.toList ++ rest) from rfl, mark, word]
  cases Mode.read backend .outside rest <;> simp

/-- The content of a fixed literal has no quotes in it. -/
theorem literal_plain (fixed : Literal) :
    (fixed.content.toList.flatMap fun c => if c = literalQuote then [c, c] else [c])
      = fixed.content.toList := by
  -- Nothing in the three contents has to be doubled.
  cases fixed <;> decide

/-- A bound value is read as its place, with the cast behind it if it is shown as a point in
time. -/
theorem read_value (bound : Parameter) (temporal : Bool) (index : Nat) {rest : List Char}
    (ends : ∀ d ∈ rest.head?, isWordChar d = false) :
    Mode.read backend .outside ((Piece.value bound temporal).chars backend index ++ rest)
      = (Mode.read backend .outside rest).map
          ((Piece.value bound temporal).tokens backend (fun _ => placeDigits backend index)
            ++ ·) := by
  -- By whether there is a cast, which stands between the place and the rest.
  by_cases shown : showsTime backend bound temporal = true
  · -- Only one backend writes casts, and it writes them behind the same mark.
    cases backend with
    | sqlite => simp [showsTime] at shown
    | postgres =>
      have marked : (temporal && bound.isText) = true := shown
      have cast := @read_timeCast .postgres rest ends
      have place := @Mode.read_place .postgres index ("::TIMESTAMPTZ".toList ++ rest)
        (by intro d member; cases member; rfl)
      simp only [chars, tokens, shown, marked, if_true, Backend.timePlaceholder,
        List.append_assoc, place, cast]
      cases Mode.read Backend.postgres .outside rest <;> simp
  · -- Without a cast both backends write the place alone.
    have written : (Piece.value bound temporal).chars backend index
        = backend.placeholder index := by
      cases backend <;> simp_all [chars, showsTime, Backend.timePlaceholder]
    simp only [tokens, shown, Bool.false_eq_true, if_false]
    rw [written, Mode.read_place index ends]

/-- A piece is read as its tokens if the next character does not extend it. -/
theorem read_chars (piece : Piece) (index : Nat) {rest : List Char}
    (ends : ∀ d ∈ rest.head?, piece.extendedBy backend d = false) :
    Mode.read backend .outside (piece.chars backend index ++ rest)
      = (Mode.read backend .outside rest).map
          (piece.tokens backend (fun _ => placeDigits backend index) ++ ·) := by
  -- Each kind of piece has its own rule, and what extends it is what that rule goes on with.
  cases piece with
  | word fixed => exact Mode.read_word fixed.spelling_run ends
  | mark fixed =>
    by_cases listed : fixed ∈ operators
    · refine Mode.read_operator listed fun d member => ?_
      simpa [extendedBy, listed] using ends d member
    · -- The other marks are single characters that are tokens at once.
      cases fixed <;> first
        | exact absurd (by decide) listed
        | exact Mode.read_outside (by cases backend <;> rfl) rest
  | blank => exact Mode.read_outside (by cases backend <;> rfl) rest
  | literal fixed =>
    have read := @Mode.read_quoted backend _ fixed.content rest (.inr rfl)
      (by intro d member; simpa [extendedBy] using ends d member)
    rw [literal_plain] at read
    simpa [chars, tokens, literalQuote] using read
  | numeral number => exact Mode.read_numeral number ends
  | name identifier =>
    have read := @Mode.read_quoted backend _ identifier rest (.inl rfl)
      (by intro d member; simpa [extendedBy] using ends d member)
    have other : backend.identifierQuote ≠ literalQuote := by cases backend <;> decide
    simpa [chars, tokens, Backend.quoted, other] using read
  | value bound temporal => exact read_value bound temporal index ends

end Piece

end RowFilter.Sql
