import Mathlib.Data.List.Forall2
import RowFilter.Sql.LikePattern

/-! What patterns match, and that the pattern of a needle matches the texts with the needle in
them. -/

namespace RowFilter

variable {same : Char → Char → Prop} {needle pattern text : List Char}

/-- Whether a text matches a pattern, character by character: a percent sign stands for any run of
characters, an underscore for any one, and a backslash takes the meaning from the next character. -/
inductive MatchesPattern (same : Char → Char → Prop) : List Char → List Char → Prop
  | nil : MatchesPattern same [] []
  | anyRun {pattern text : List Char} (skipped : List Char) :
    MatchesPattern same pattern text → MatchesPattern same ('%' :: pattern) (skipped ++ text)
  | anyOne {pattern text : List Char} (c : Char) :
    MatchesPattern same pattern text → MatchesPattern same ('_' :: pattern) (c :: text)
  | escaped {pattern text : List Char} {expected c : Char} :
    same expected c → MatchesPattern same pattern text →
      MatchesPattern same ('\\' :: expected :: pattern) (c :: text)
  | char {pattern text : List Char} {expected c : Char} :
    isPatternMark expected = false → same expected c → MatchesPattern same pattern text →
      MatchesPattern same (expected :: pattern) (c :: text)

/-- Whether each backslash of a pattern takes the meaning from a character that has one. -/
inductive IsWellEscaped : List Char → Prop
  | nil : IsWellEscaped []
  | escaped {pattern : List Char} {mark : Char} :
    isPatternMark mark = true → IsWellEscaped pattern → IsWellEscaped ('\\' :: mark :: pattern)
  | char {pattern : List Char} {c : Char} :
    c ≠ '\\' → IsWellEscaped pattern → IsWellEscaped (c :: pattern)

/-- Whether a needle stands somewhere inside a text, character by character the same. -/
def Occurs (same : Char → Char → Prop) (needle text : List Char) : Prop :=
  -- What is found is as long as the needle, and stands between what comes before and behind.
  ∃ before found behind, text = before ++ found ++ behind ∧ List.Forall₂ same needle found

namespace PatternItem

/-- A test holds at some place of a text exactly if it holds of an end of the text. -/
theorem atSomePlace_iff {test : List Char → Bool} :
    atSomePlace test text = true ↔ ∃ skipped rest, text = skipped ++ rest ∧ test rest = true := by
  -- By induction on the text, each character of which may be where the place begins.
  induction text with
  | nil => simp [atSomePlace]
  | cons c rest ih =>
    rw [atSomePlace, Bool.or_eq_true, ih]
    constructor
    · rintro (here | ⟨skipped, later, rfl, holds⟩)
      · exact ⟨[], c :: rest, rfl, here⟩
      · exact ⟨c :: skipped, later, rfl, holds⟩
    · -- Either nothing is skipped, or the first character is.
      rintro ⟨_ | ⟨first, skipped⟩, later, split, holds⟩
      · rw [List.nil_append] at split
        exact .inl (split ▸ holds)
      · cases split
        exact .inr ⟨skipped, later, rfl, holds⟩

end PatternItem

open PatternItem

namespace MatchesPattern

/-- A percent sign skips any run of characters. -/
theorem anyRun_iff : MatchesPattern same ('%' :: pattern) text ↔
    ∃ skipped rest, text = skipped ++ rest ∧ MatchesPattern same pattern rest := by
  -- No other way to match begins with this mark.
  constructor
  · rintro (_ | ⟨skipped, behind⟩ | _ | _ | ⟨plain, -, -⟩)
    · exact ⟨skipped, _, rfl, behind⟩
    · cases plain
  · rintro ⟨skipped, rest, rfl, behind⟩
    exact .anyRun skipped behind

/-- An underscore takes one character. -/
theorem anyOne_iff : MatchesPattern same ('_' :: pattern) text ↔
    ∃ c rest, text = c :: rest ∧ MatchesPattern same pattern rest := by
  -- No other way to match begins with this mark.
  constructor
  · rintro (_ | _ | ⟨c, behind⟩ | _ | ⟨plain, -, -⟩)
    · exact ⟨c, _, rfl, behind⟩
    · cases plain
  · rintro ⟨c, rest, rfl, behind⟩
    exact .anyOne c behind

/-- A backslash and a character behind it take the same character. -/
theorem escaped_iff {expected : Char} :
    MatchesPattern same ('\\' :: expected :: pattern) text ↔
      ∃ c rest, text = c :: rest ∧ same expected c ∧ MatchesPattern same pattern rest := by
  -- No other way to match begins with this mark.
  constructor
  · rintro (_ | _ | _ | ⟨alike, behind⟩ | ⟨plain, -, -⟩)
    · exact ⟨_, _, rfl, alike, behind⟩
    · cases plain
  · rintro ⟨c, rest, rfl, alike, behind⟩
    exact .escaped alike behind

/-- Nothing matches a pattern that ends with a lone backslash. -/
theorem not_escape : ¬ MatchesPattern same ['\\'] text := by
  -- The backslash would have to stand for itself, which it does not.
  rintro (_ | _ | _ | _ | ⟨plain, -, -⟩)
  cases plain

/-- A character without a meaning of its own takes the same character. -/
theorem char_iff {expected : Char} (plain : isPatternMark expected = false) :
    MatchesPattern same (expected :: pattern) text ↔
      ∃ c rest, text = c :: rest ∧ same expected c ∧ MatchesPattern same pattern rest := by
  -- The ways that begin with a mark are ruled out.
  constructor
  · rintro (_ | _ | _ | _ | ⟨-, alike, behind⟩)
    · cases plain
    · cases plain
    · cases plain
    · exact ⟨_, _, rfl, alike, behind⟩
  · rintro ⟨c, rest, rfl, alike, behind⟩
    exact .char plain alike behind

end MatchesPattern

section

variable {compare : Char → Char → Bool} {c : Char}

/-- A percent sign is tried with every run of characters. -/
theorem isLike_anyRun : isLike compare ('%' :: pattern) text
    = atSomePlace (isLike compare pattern) text := by
  -- The rest of the pattern is parsed first, and may turn out to be ill-formed.
  cases parts : parse? pattern with
  | some items =>
    have own : isLike compare pattern = matchAll compare items := by
      funext rest
      rw [isLike, parts]
    simp [isLike, parse?, parts, matchAll, own]
  | none =>
    -- An ill-formed rest matches nothing at any place.
    have own : isLike compare pattern = fun _ => false := by
      funext rest
      rw [isLike, parts]
    have nowhere : atSomePlace (fun _ => false) text = false := by
      rw [Bool.eq_false_iff, ne_eq, atSomePlace_iff]
      simp
    simp [isLike, parse?, parts, own, nowhere]

/-- An underscore is tried with the first character. -/
theorem isLike_anyOne : isLike compare ('_' :: pattern) text = true ↔
    ∃ c rest, text = c :: rest ∧ isLike compare pattern rest = true := by
  -- An ill-formed rest makes both sides fail, and a parsed one is matched behind the character.
  cases text <;> cases parts : parse? pattern <;> simp [isLike, parse?, parts, matchAll]

/-- A character behind a backslash is compared with the first one. -/
theorem isLike_escaped {expected : Char} :
    isLike compare ('\\' :: expected :: pattern) text = true ↔
      ∃ c rest, text = c :: rest ∧ compare expected c = true ∧
        isLike compare pattern rest = true := by
  -- An ill-formed rest makes both sides fail, and a parsed one is matched behind the character.
  cases text <;> cases parts : parse? pattern <;> simp [isLike, parse?, parts, matchAll]

/-- A character without a meaning of its own is compared with the first one. -/
theorem isLike_char {expected : Char} (plain : isPatternMark expected = false) :
    isLike compare (expected :: pattern) text = true ↔
      ∃ c rest, text = c :: rest ∧ compare expected c = true ∧
        isLike compare pattern rest = true := by
  -- None of the marks is this character, so that it is parsed as itself.
  simp only [isPatternMark, Bool.or_eq_false_iff, decide_eq_false_iff_not] at plain
  cases text <;> cases parts : parse? pattern <;> simp [isLike, parse?, parts, matchAll, plain]

end

/-- A text is found to match a pattern exactly if it does. -/
theorem isLike_iff [DecidableRel same] (pattern text : List Char) :
    isLike (fun expected c => decide (same expected c)) pattern text = true ↔
      MatchesPattern same pattern text := by
  -- The induction follows the reading of the pattern, which takes an escape as one part.
  induction pattern using parse?.induct generalizing text with
  | case1 =>
    cases text with
    | nil => exact iff_of_true rfl .nil
    | cons c rest => exact iff_of_false (by simp [isLike, parse?, matchAll]) (by rintro ⟨⟩)
  | case2 => exact iff_of_false (by simp [isLike, parse?]) MatchesPattern.not_escape
  | case3 expected pattern ih =>
    rw [isLike_escaped, MatchesPattern.escaped_iff]
    simp only [ih, decide_eq_true_eq]
  | case4 pattern ih =>
    rw [isLike_anyRun, atSomePlace_iff, MatchesPattern.anyRun_iff]
    simp only [ih]
  | case5 pattern ih =>
    rw [isLike_anyOne, MatchesPattern.anyOne_iff]
    simp only [ih]
  | case6 expected pattern lone paired run one ih =>
    -- What is left is no percent sign, no underscore and no backslash.
    have plain : isPatternMark expected = false := by
      simp only [isPatternMark, Bool.or_eq_false_iff, decide_eq_false_iff_not]
      refine ⟨⟨run, one⟩, ?_⟩
      rintro rfl
      cases pattern with
      | nil => exact lone rfl rfl
      | cons next rest => exact paired next rest rfl rfl
    rw [isLike_char plain, MatchesPattern.char_iff plain]
    simp only [ih, decide_eq_true_eq]

/-- The needle of a pattern, with its marks escaped, takes what is the same character by character
and leaves the rest of the text to the rest of the pattern. -/
theorem matches_escapeNeedle : MatchesPattern same (escapeNeedle needle ++ pattern) text ↔
    ∃ found rest, text = found ++ rest ∧ List.Forall₂ same needle found ∧
      MatchesPattern same pattern rest := by
  -- A character of the needle is one part of the pattern, with an escape or without.
  induction needle generalizing text with
  | nil => simp [escapeNeedle]
  | cons expected needle ih =>
    have first : MatchesPattern same (escapeNeedle (expected :: needle) ++ pattern) text ↔
        ∃ c rest, text = c :: rest ∧ same expected c ∧
          MatchesPattern same (escapeNeedle needle ++ pattern) rest := by
      cases mark : isPatternMark expected with
      | true =>
        have parts : escapeNeedle (expected :: needle) ++ pattern
            = '\\' :: expected :: (escapeNeedle needle ++ pattern) := by
          simp [escapeNeedle, mark]
        rw [parts, MatchesPattern.escaped_iff]
      | false =>
        have parts : escapeNeedle (expected :: needle) ++ pattern
            = expected :: (escapeNeedle needle ++ pattern) := by
          simp [escapeNeedle, mark]
        rw [parts, MatchesPattern.char_iff mark]
    rw [first]
    constructor
    · rintro ⟨c, behind, rfl, alike, matched⟩
      obtain ⟨found, rest, rfl, others, ended⟩ := ih.mp matched
      exact ⟨c :: found, rest, rfl, .cons alike others, ended⟩
    · rintro ⟨found, rest, rfl, alike, ended⟩
      cases alike with
      | cons own others => exact ⟨_, _, rfl, own, ih.mpr ⟨_, rest, rfl, others, ended⟩⟩

/-- A percent sign at the end of a pattern takes all that is left. -/
theorem matches_lastRun : MatchesPattern same ['%'] text := by
  -- The run of characters is the whole text, behind which the empty pattern matches.
  simpa using MatchesPattern.anyRun text MatchesPattern.nil

namespace IsWellEscaped

/-- A needle with its marks escaped leaves a pattern well escaped. -/
theorem behind_needle (ended : IsWellEscaped pattern) (needle : List Char) :
    IsWellEscaped (escapeNeedle needle ++ pattern) := by
  -- By induction on the needle, each character of which is escaped if it is a mark.
  induction needle with
  | nil => exact ended
  | cons c needle ih =>
    cases mark : isPatternMark c with
    | true => simpa [escapeNeedle, mark] using escaped mark ih
    | false =>
      have plain : c ≠ '\\' := by
        rintro rfl
        cases mark
      simpa [escapeNeedle, mark] using char plain ih

/-- A well escaped pattern is not ill-formed. -/
theorem isSome_parse? (whole : IsWellEscaped pattern) : (parse? pattern).isSome = true := by
  -- By induction on how the pattern is escaped, which is how it is parsed.
  induction whole with
  | nil => rfl
  | escaped _ _ ih => simpa [parse?] using ih
  | @char pattern c plain _ ih =>
    by_cases run : c = '%'
    · simpa [run, parse?] using ih
    · by_cases one : c = '_'
      · simpa [one, parse?] using ih
      · simpa [parse?, plain, run, one] using ih

end IsWellEscaped

/-- The pattern of a needle is well escaped, so that it is not ill-formed, and it matches exactly
the texts in which the needle stands somewhere, whatever characters count as the same. -/
theorem containsPattern_occurs (same : Char → Char → Prop) [DecidableRel same] (needle : String)
    (text : List Char) :
    let pattern := (containsPattern needle).toList
    IsWellEscaped pattern ∧ (parse? pattern).isSome = true ∧
    (MatchesPattern same pattern text ↔ Occurs same needle.toList text) ∧
    (isLike (fun expected c => decide (same expected c)) pattern text = true ↔
      Occurs same needle.toList text) := by
  -- The pattern is a percent sign, the needle with its marks escaped, and another percent sign.
  intro pattern
  have parts : pattern = '%' :: (escapeNeedle needle.toList ++ ['%']) := String.toList_ofList
  have whole : IsWellEscaped pattern := by
    rw [parts]
    exact .char (by decide) (.behind_needle (.char (by decide) .nil) _)
  -- What stands before the needle is taken by the first percent sign, and what stands behind it by
  -- the last one.
  have matched : MatchesPattern same pattern text ↔ Occurs same needle.toList text := by
    rw [parts, MatchesPattern.anyRun_iff, Occurs]
    constructor
    · rintro ⟨before, rest, rfl, inside⟩
      obtain ⟨found, behind, rfl, alike, -⟩ := matches_escapeNeedle.mp inside
      exact ⟨before, found, behind, (List.append_assoc ..).symm, alike⟩
    · rintro ⟨before, found, behind, rfl, alike⟩
      exact ⟨before, found ++ behind, List.append_assoc .., matches_escapeNeedle.mpr
        ⟨found, behind, rfl, alike, matches_lastRun⟩⟩
  exact ⟨whole, whole.isSome_parse?, matched, (isLike_iff pattern text).trans matched⟩

/-- Marks in a needle stand for themselves. -/
example : isLike (· == ·) (containsPattern "100%_\\").toList "at 100%_\\!".toList = true ∧
    isLike (· == ·) (containsPattern "100%").toList "at 1000 %".toList = false := by
  -- Both texts are run through the matcher.
  decide

end RowFilter
