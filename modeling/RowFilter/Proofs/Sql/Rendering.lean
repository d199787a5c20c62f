import RowFilter.Proofs.Sql.Fragment

/-! A rendered fragment reads back as its tokens, and its places take the values it binds. -/

namespace RowFilter.Sql

/-- The position of a bound place, where a place without a number follows all before it. -/
def placePosition? (before : Nat) (digits : String) : Option Nat :=
  if digits = "" then some before
  else
    -- Places are counted from one.
    match Nat.ofDigitChars 10 digits.toList 0 with
    | 0 => none
    | position + 1 => some position

/-- The tokens of a text with the bound values in their places; none if a value is missing. -/
def fill? (bound : List Parameter) : Nat → List (Token String) → Option (List (Token Parameter))
  -- A place either has its number, or is the one behind all that have been met.
  | _, [] => some []
  | before, .place digits :: rest => do
    let position ← placePosition? before digits
    let value ← bound[position]?
    let others ← fill? bound (max before (position + 1)) rest
    return .place value :: others
  | before, .name content :: rest => (fill? bound before rest).map (.name content :: ·)
  | before, .literal content :: rest => (fill? bound before rest).map (.literal content :: ·)
  | before, .word text :: rest => (fill? bound before rest).map (.word text :: ·)
  | before, .numeral digits :: rest => (fill? bound before rest).map (.numeral digits :: ·)
  | before, .mark fixed :: rest => (fill? bound before rest).map (.mark fixed :: ·)

namespace Fragment

/-- The values that a fragment binds, in order. -/
def values (fragment : Fragment) : List Parameter := fragment.filterMap Piece.value?

/-- No two pieces of a fragment run together. -/
def Spaced (fragment : Fragment) : Prop := fragment.IsChain fun first second => first.apart second

/-- The characters of a fragment, where its first value would be bound at the given index. -/
def chars (backend : Backend) : Nat → Fragment → List Char
  -- Only a value moves the index on.
  | _, [] => []
  | index, piece :: rest =>
    piece.chars backend index ++ chars backend (index + piece.value?.toList.length) rest

/-- The tokens of a fragment, where its first value would be bound at the given index. -/
def numbered (backend : Backend) : Nat → Fragment → List (Token String)
  -- The index is counted as it is for the characters.
  | _, [] => []
  | index, piece :: rest =>
    piece.tokens backend (fun _ => placeDigits backend index)
      ++ numbered backend (index + piece.value?.toList.length) rest

/-- The tokens of a fragment with its values in their places. -/
def filled (backend : Backend) (fragment : Fragment) : List (Token Parameter) :=
  -- Each place has its value, so that no index is needed.
  fragment.flatMap (Piece.tokens backend id)

/-- The text of a fragment behind values that are bound already. -/
def renderAfter (backend : Backend) (bound : Array Parameter) (fragment : Fragment) : Rendering :=
  -- The values that are bound already only number the places.
  fragment.foldl (Rendering.push backend) ⟨"", bound⟩

end Fragment

/-- Operator characters are no word characters. -/
theorem not_operator_of_isWordChar {c : Char} (fits : isWordChar c = true) :
    isOperatorChar c = false := by
  -- None of the five operator characters is a letter, a digit or an underscore.
  by_contra operator
  simp only [isOperatorChar, Bool.not_eq_false, Bool.or_eq_true, decide_eq_true_eq] at operator
  rcases operator with (((rfl | rfl) | rfl) | rfl) | rfl <;> revert fits <;> decide

namespace Piece

variable {backend : Backend}

/-- Nothing extends a delimiter. -/
theorem extendedBy_delimiter {first : Piece} (delimiter : first.isDelimiter = true) (c : Char) :
    first.extendedBy backend c = false := by
  -- Brackets and commas are no operators, and nothing belongs to a blank.
  cases first with
  | mark fixed => cases fixed <;> first | rfl | simp [isDelimiter] at delimiter
  | blank => rfl
  | _ => simp [isDelimiter] at delimiter

/-- A delimiter starts with a character that extends nothing. -/
theorem extendedBy_before_delimiter {second : Piece} (delimiter : second.isDelimiter = true)
    (first : Piece) (index : Nat) : ∃ c cs, second.chars backend index = c :: cs ∧
      first.extendedBy backend c = false := by
  -- The four characters are neither parts of words or marks nor quotes.
  have harmless : ∀ c ∈ [' ', '(', ')', ','], first.extendedBy backend c = false := by
    intro c listed
    simp only [List.mem_cons, List.not_mem_nil, or_false] at listed
    cases first <;> cases backend <;> rcases listed with rfl | rfl | rfl | rfl <;>
      simp [extendedBy, isWordChar, isOperatorChar, literalQuote, Backend.identifierQuote]
  cases second with
  | mark fixed =>
    cases fixed with
    | opening => exact ⟨'(', [], rfl, harmless '(' (by simp)⟩
    | closing => exact ⟨')', [], rfl, harmless ')' (by simp)⟩
    | comma => exact ⟨',', [], rfl, harmless ',' (by simp)⟩
    | _ => simp [isDelimiter] at delimiter
  | blank => exact ⟨' ', [], rfl, harmless ' ' (by simp)⟩
  | _ => simp [isDelimiter] at delimiter

/-- Pieces that stay apart are not read as one. -/
theorem extendedBy_of_apart {first second : Piece} (apart : first.apart second = true)
    (index : Nat) (rest : List Char) :
    ∀ d ∈ (second.chars backend index ++ rest).head?, first.extendedBy backend d = false := by
  -- One of the two is a delimiter, or the pair is one that is known to stay apart.
  simp only [Piece.apart, Bool.or_eq_true] at apart
  rcases apart with (delimiter | delimiter) | pair
  · exact fun d _ => extendedBy_delimiter delimiter d
  · obtain ⟨c, cs, written, free⟩ :=
      @extendedBy_before_delimiter backend second delimiter first index
    intro d member
    simp only [written, List.cons_append, List.head?_cons, Option.mem_some_iff] at member
    rw [← member]
    exact free
  · -- The two remaining pairs are a column before its cast and the type behind it.
    split at pair
    · intro d member
      have colon : ':' = d := by simpa [chars, Mark.spelling] using member
      rw [← colon]
      cases backend <;> rfl
    · rename_i fixed
      obtain ⟨c, cs, spelled, -, fits⟩ := fixed.spelling_run
      intro d member
      simp only [chars, spelled, List.cons_append, List.head?_cons, Option.mem_some_iff] at member
      rw [← member]
      simp [extendedBy, not_operator_of_isWordChar (fits c (by simp))]
    · simp at pair

/-- A piece that binds nothing keeps its tokens when places are filled. -/
theorem fill?_fixed {piece : Piece} (fixed : piece.value? = none)
    (place : Parameter → String) (bound : List Parameter) (before : Nat)
    (rest : List (Token String)) :
    fill? bound before (piece.tokens backend place ++ rest)
      = (fill? bound before rest).map (piece.tokens backend id ++ ·) := by
  -- Only the tokens of a value have a place among them.
  cases piece <;> simp_all [tokens, fill?, value?]

/-- The number of a place leads to the position before it. -/
theorem placePosition?_digits (before : Nat) :
    placePosition? before (placeDigits backend (before + 1)) = some before := by
  -- A place without digits follows the ones before it, and digits are read back as written.
  cases backend with
  | sqlite => rfl
  | postgres =>
    obtain ⟨c, cs, written, -⟩ := toDigits_run (before + 1)
    have number := Nat.ofDigitChars_ten_toDigits (n := before + 1)
    have named : String.ofList (Nat.toDigits 10 (before + 1)) ≠ "" := by
      intro empty
      have lists := congrArg String.toList empty
      simp [written] at lists
    simp [placePosition?, placeDigits, named, number]

/-- A place takes the value that is bound at its index. -/
theorem fill?_value {bound : List Parameter} {before : Nat} {value : Parameter}
    (located : bound[before]? = some value) (temporal : Bool) (rest : List (Token String)) :
    fill? bound before ((Piece.value value temporal).tokens backend
        (fun _ => placeDigits backend (before + 1)) ++ rest)
      = (fill? bound (before + 1) rest).map
          ((Piece.value value temporal).tokens backend id ++ ·) := by
  -- A cast behind the place stays as it is.
  by_cases shown : showsTime backend value temporal = true <;>
    cases others : fill? bound (before + 1) rest <;>
    simp [tokens, fill?, shown, placePosition?_digits, located, others]

end Piece

namespace Fragment

variable {backend : Backend}

/-- Spaced fragments read back as their tokens. -/
theorem read_chars {fragment : Fragment} (spaced : Spaced fragment) (index : Nat) :
    Mode.read backend .outside (chars backend index fragment)
      = some (numbered backend index fragment) := by
  -- Each piece ends where the next one begins, or at the end of the text.
  induction fragment generalizing index with
  | nil => rfl
  | cons piece rest ih =>
    obtain ⟨next, tail⟩ := List.isChain_cons.mp spaced
    have ends : ∀ d ∈ (chars backend (index + piece.value?.toList.length) rest).head?,
        piece.extendedBy backend d = false := by
      cases rest with
      | nil => simp [chars]
      | cons second rest => exact Piece.extendedBy_of_apart (next second (by simp)) _ _
    rw [chars, Piece.read_chars piece index ends, ih tail]
    rfl

/-- Filling the places of a fragment with its own values leaves its tokens. -/
theorem fill?_numbered {bound : List Parameter} (fragment : Fragment) {before : Nat}
    {more : List Parameter} (located : bound.drop before = values fragment ++ more) :
    fill? bound before (numbered backend (before + 1) fragment)
      = some (filled backend fragment) := by
  -- Each value stands at the head of what is bound behind the places before it.
  induction fragment generalizing before with
  | nil => rfl
  | cons piece rest ih =>
    cases binds : piece.value? with
    | none =>
      -- The piece takes nothing from what is bound.
      have behind : bound.drop before = values rest ++ more := by
        simpa [values, binds] using located
      have others := ih behind
      rw [numbered, Piece.fill?_fixed binds]
      simp [binds, others, filled]
    | some value =>
      obtain ⟨temporal, rfl⟩ : ∃ temporal, piece = .value value temporal := by
        cases piece <;> simp_all [Piece.value?]
      have split : bound.drop before = value :: (values rest ++ more) := by
        simpa [values, Piece.value?] using located
      have here : bound[before]? = some value := by
        rw [← List.head?_drop, split, List.head?_cons]
      have behind : bound.drop (before + 1) = values rest ++ more := by
        rw [← List.tail_drop, split, List.tail_cons]
      have others := ih behind
      rw [numbered, Piece.fill?_value here]
      simp [binds, others, filled]

/-- The values of two fragments stand one after the other. -/
@[simp] theorem values_append (first second : Fragment) :
    values (first ++ second) = values first ++ values second :=
  -- Pieces bind their values one by one.
  List.filterMap_append

/-- A piece adds its own value to those behind it, if it binds one. -/
theorem length_values_cons (piece : Piece) (rest : Fragment) :
    (values (piece :: rest)).length = piece.value?.toList.length + (values rest).length := by
  -- The piece binds one value or none.
  cases bound : piece.value? <;> simp [values, bound, Nat.add_comm]

/-- The characters of two fragments stand one after the other, and the second one is counted behind
the values of the first. -/
theorem chars_append (index : Nat) (first second : Fragment) :
    chars backend index (first ++ second)
      = chars backend index first ++ chars backend (index + (values first).length) second := by
  -- Each piece of the first fragment moves the index on exactly if it binds a value.
  induction first generalizing index with
  | nil => rfl
  | cons piece rest ih =>
    rw [List.cons_append, chars, ih, chars, length_values_cons, Nat.add_assoc, List.append_assoc]

/-- Rendering appends the characters of a fragment and the values it binds. -/
theorem foldl_push (fragment : Fragment) (rendering : Rendering) :
    fragment.foldl (Rendering.push backend) rendering
      = ⟨rendering.text ++ String.ofList (chars backend (rendering.bound.size + 1) fragment),
          rendering.bound ++ (values fragment).toArray⟩ := by
  -- The fold follows the fragment, with what is written and bound so far quantified over.
  induction fragment generalizing rendering with
  | nil => simp [chars, values]
  | cons piece rest ih =>
    rw [List.foldl_cons, ih]
    -- One piece moves the index on exactly if it binds a value.
    cases piece <;>
      simp [Rendering.push, Piece.bind, Piece.value?, chars, values, String.append_assoc,
        List.filterMap_cons]

/-- The text and the values of a fragment rendered behind other values. -/
theorem renderAfter_eq (backend : Backend) (bound : Array Parameter) (fragment : Fragment) :
    renderAfter backend bound fragment
      = ⟨String.ofList (chars backend (bound.size + 1) fragment),
          bound ++ (values fragment).toArray⟩ := by
  -- Rendering starts from an empty text, so nothing stands in front of the characters.
  simp [renderAfter, foldl_push]

/-- The text of a spaced fragment has the tokens of the fragment. -/
theorem tokens?_renderAfter (backend : Backend) {fragment : Fragment} (spaced : Spaced fragment)
    (bound : Array Parameter) :
    tokens? backend (renderAfter backend bound fragment).text
      = some (numbered backend (bound.size + 1) fragment) := by
  -- The characters are read from the start, where no token is open yet.
  simp [tokens?, renderAfter_eq, read_chars spaced]

/-- The values bound by a fragment fill the places of its text. -/
theorem fill?_renderAfter (backend : Backend) (bound : Array Parameter) (fragment : Fragment) :
    fill? (renderAfter backend bound fragment).bound.toList bound.size
        (numbered backend (bound.size + 1) fragment)
      = some (filled backend fragment) := by
  -- Behind what was bound before, the values of the fragment are all there is.
  have located : (renderAfter backend bound fragment).bound.toList.drop bound.size
      = values fragment ++ [] := by simp [renderAfter_eq]
  exact fill?_numbered fragment located

end Fragment

end RowFilter.Sql
