import RowFilter.Proofs.Statement.Sites

/-! What can be read off the tokens of a rendered fragment is decided by its sites. -/

namespace RowFilter

open Sql

namespace Sql

namespace Token

variable {Place : Type}

/-- The name of a token. -/
def name? : Token Place → Option String
  -- What is quoted as a name is kept without its quotes.
  | .name content => some content
  | _ => none

/-- The digits of a token. -/
def numeral? : Token Place → Option String
  -- Only digits that stand by themselves are a numeral.
  | .numeral digits => some digits
  | _ => none

end Token

/-- Every word that a statement may have. -/
def keywords : List String :=
  -- The names of types and of functions are among them, as they are words of the text too.
  ["SELECT", "COUNT", "AS", "FROM", "INSERT", "INTO", "DEFAULT", "VALUES", "UPDATE", "SET",
    "DELETE", "WHERE", "AND", "OR", "NOT", "IS", "NULL", "IN", "BETWEEN", "LIKE", "ESCAPE", "ORDER",
    "BY", "ASC", "DESC", "LIMIT", "OFFSET", "RETURNING", "CAST", "TEXT", "strftime", "to_char",
    "TIMESTAMPTZ"]

/-- Every text literal that a statement may have: the two date formats and the escape character. -/
def fixedLiterals : List String := ["%Y-%m-%d %H:%M:%S", "YYYY-MM-DD HH24:MI:SS", "\\"]

namespace Fragment

variable {backend : Backend}

/-- What ignores fixed tokens and the numbers of places is read off the sites of a fragment. -/
theorem filterMap_numbered {α : Type} {own : Token String → Option α}
    {other : Token Parameter → Option α}
    (name : ∀ content, own (.name content) = other (.name content))
    (numeral : ∀ digits, own (.numeral digits) = other (.numeral digits))
    (place : ∀ digits value, own (.place digits) = other (.place value))
    (word : ∀ text, own (.word text) = none ∧ other (.word text) = none)
    (mark : ∀ fixed, own (.mark fixed) = none ∧ other (.mark fixed) = none)
    (literal : ∀ content, own (.literal content) = none ∧ other (.literal content) = none)
    (index : Nat) (fragment : Fragment) :
    (numbered backend index fragment).filterMap own
      = (sites fragment).filterMap fun site => other site.token := by
  -- Both sides are read piece by piece, and only the index moves on.
  induction fragment generalizing index with
  | nil => rfl
  | cons piece rest ih =>
    rw [numbered, List.filterMap_append, ih, sites_cons, List.filterMap_append]
    congr 1
    cases piece with
    | word fixed =>
      cases fixed <;> simp [Piece.tokens, Piece.site?, Site.token, word]
    | value bound temporal =>
      have same := place (placeDigits backend index) bound
      by_cases shown : showsTime backend bound temporal = true <;>
        simp [Piece.tokens, Piece.site?, Site.token, List.filterMap_cons, shown, word, mark, same]
    | numeral number =>
      simp [Piece.tokens, Piece.site?, Site.token, List.filterMap_cons, numeral,
        Nat.repr_eq_ofList_toDigits]
    | _ => simp [Piece.tokens, Piece.site?, Site.token, List.filterMap_cons, name, mark, literal]

/-- The names in the text of a fragment are those of its sites. -/
theorem names_numbered (index : Nat) (fragment : Fragment) :
    (numbered backend index fragment).filterMap Token.name?
      = (sites fragment).filterMap Site.name? := by
  -- Names are read off tokens with and without values alike.
  rw [@filterMap_numbered backend _ _ Token.name?]
  · congr 1
    funext site
    cases site <;> rfl
  all_goals intros; first | rfl | exact ⟨rfl, rfl⟩

/-- The numerals in the text of a fragment are those of its sites. -/
theorem numerals_numbered (index : Nat) (fragment : Fragment) :
    (numbered backend index fragment).filterMap Token.numeral?
      = ((sites fragment).filterMap Site.numeral?).map toString := by
  -- A numeral token has the digits of the number at its site.
  rw [@filterMap_numbered backend _ _ Token.numeral?, List.map_filterMap]
  · congr 1
    funext site
    cases site <;> rfl
  all_goals intros; first | rfl | exact ⟨rfl, rfl⟩

/-- The values of a fragment are those at its sites. -/
theorem values_eq (fragment : Fragment) :
    values fragment = ((sites fragment).filterMap Site.value?).map Prod.fst := by
  -- Both sides pick the same pieces, one by one.
  rw [values, sites, List.filterMap_filterMap, List.map_filterMap]
  congr 1
  funext piece
  cases piece with
  | word fixed => cases fixed <;> rfl
  | _ => rfl

/-- Every word in the text of a fragment is a keyword. -/
theorem words_numbered (index : Nat) (fragment : Fragment) :
    ∀ text, .word text ∈ numbered backend index fragment → text ∈ keywords := by
  -- Words come from the fixed words and from the casts behind values.
  induction fragment generalizing index with
  | nil => simp [numbered]
  | cons piece rest ih =>
    intro text member
    rcases List.mem_append.mp member with own | later
    · cases piece with
      | word fixed =>
        simp only [Piece.tokens, List.mem_singleton, Token.word.injEq] at own
        rw [own]
        cases fixed <;> decide
      | value bound temporal =>
        by_cases shown : showsTime backend bound temporal = true
        · simp only [Piece.tokens, shown, if_true, List.mem_cons, reduceCtorEq, Token.word.injEq,
            List.not_mem_nil, false_or, or_false] at own
          rw [own]
          decide
        · simp [Piece.tokens, shown] at own
      | _ => simp [Piece.tokens] at own
    · exact ih _ text later

/-- Every literal in the text of a fragment is a fixed one. -/
theorem literals_numbered (index : Nat) (fragment : Fragment) :
    ∀ content, .literal content ∈ numbered backend index fragment → content ∈ fixedLiterals := by
  -- Literals come from the fixed literals alone.
  induction fragment generalizing index with
  | nil => simp [numbered]
  | cons piece rest ih =>
    intro content member
    rcases List.mem_append.mp member with own | later
    · cases piece with
      | literal fixed =>
        simp only [Piece.tokens, List.mem_singleton, Token.literal.injEq] at own
        rw [own]
        cases fixed <;> decide
      | value bound temporal =>
        by_cases shown : showsTime backend bound temporal = true <;>
          simp [Piece.tokens, shown] at own
      | _ => simp [Piece.tokens] at own
    · exact ih _ content later

end Fragment

end Sql

end RowFilter
