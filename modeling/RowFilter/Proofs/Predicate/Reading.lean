import Mathlib.Data.List.Forall2
import RowFilter.Proofs.Predicate.Pruning
import RowFilter.Proofs.Sql.Spacing

/-! The SQL of a condition reads back as the pruned condition and as nothing else. -/

namespace RowFilter

open Sql

namespace Sql

variable {backend : Backend}

namespace Fragment

/-- A fragment without pieces has no tokens. -/
@[simp] theorem filled_nil : filled backend [] = [] := rfl

/-- The tokens of a piece come before those of the pieces behind it. -/
@[simp] theorem filled_cons (piece : Piece) (rest : Fragment) :
    filled backend (piece :: rest) = piece.tokens backend id ++ filled backend rest := rfl

/-- The tokens of two fragments stand one after the other. -/
@[simp] theorem filled_append (first second : Fragment) :
    filled backend (first ++ second) = filled backend first ++ filled backend second := by
  -- A fragment is filled piece by piece.
  simp [filled]

/-- A list with two items or more has a separator behind its first item. -/
theorem join_cons_cons (separator first second : Fragment) (rest : List Fragment) :
    join separator (first :: second :: rest)
      = first ++ (separator ++ join separator (second :: rest)) := by
  -- The list is joined from its first item on.
  simp [join]

end Fragment

/-- A bound value is read with its cast. -/
theorem reads_value (backend : Backend) (value : Parameter) (temporal : Bool)
    (rest : List (Token Parameter)) :
    Operand.Reads .whole ((Piece.value value temporal).tokens backend id ++ rest)
      (boundOperand backend value temporal) rest := by
  -- The tokens and the operand have a cast in the same cases.
  by_cases shown : showsTime backend value temporal = true
  · simp only [Piece.tokens, boundOperand, shown, if_true]
    exact .whole .bound (.cast .done)
  · simp only [Piece.tokens, boundOperand, shown, Bool.false_eq_true, if_false]
    exact .whole .bound .done

/-- A column is read without anything around it. -/
theorem reads_column (name : String) (rest : List (Token Parameter)) :
    Operand.Reads .whole (.name name :: rest) (.column name) rest :=
  -- The name is an operand, and nothing is applied to it.
  .whole .column .done

/-- Bound values between commas are read one by one. -/
theorem reads_values (backend : Backend) (first : Parameter) (others : List Parameter)
    (temporal : Bool) (rest : List (Token Parameter)) :
    Operand.ReadsList
      (Fragment.filled backend (.join .commaBlank ((first :: others).map fun value =>
        [.value value temporal])) ++ rest)
      ((first :: others).map (boundOperand backend · temporal)) rest := by
  -- The induction follows the values behind the first one, each with its comma in front.
  induction others generalizing first with
  | nil =>
    have own := reads_value backend first temporal rest
    exact .last (by simpa [Fragment.join] using own)
  | cons second others ih =>
    have own := reads_value backend first temporal
    rw [List.map_cons, List.map_cons, Fragment.join_cons_cons]
    simp only [Fragment.filled_append, Fragment.filled_cons, Fragment.filled_nil, List.append_nil,
      List.append_assoc]
    exact .more (own _) (ih second)

/-- What may be negated is read behind the word that negates it. -/
theorem reads_negation (backend : Backend) {target : Operand} {negated : Bool}
    {tokens rest : List (Token Parameter)} {test : Test}
    (read : Test.ReadsMatch target negated tokens test rest) :
    Test.ReadsBehind target (Fragment.filled backend (negation negated) ++ tokens) test rest := by
  -- The word is there or it is not, and the grammar knows both.
  cases negated
  · exact .plain read
  · exact .negated read

/-- A column is read as it is presented to a pattern. -/
theorem reads_castFragment (backend : Backend) (column : String) (cast : Cast)
    (rest : List (Token Parameter)) :
    Operand.Reads .whole
      (Fragment.filled backend (Predicate.castFragment backend column cast) ++ rest)
      (castOperand backend column cast) rest := by
  -- The backends write the same casts in different notations.
  have named := reads_column column
  cases cast with
  | none => exact named rest
  | text =>
    cases backend with
    | sqlite => exact .whole (.cast (named _)) .done
    | postgres => exact .whole .column (.cast .done)
  | dateText =>
    cases backend with
    | sqlite => exact .whole (.call (by decide) (.whole .literal .done) (named _)) .done
    | postgres => exact .whole (.call (by decide) (named _) (.whole .literal .done)) .done

end Sql

namespace Predicate

variable {backend : Backend}

/-- A fragment that is read as the formula of a condition, whatever follows it. -/
def WrittenAs (backend : Backend) (fragment : Fragment) (predicate : Predicate) : Prop :=
  -- What follows is left open, so that the fragment can be a part of another one.
  ∀ rest, Formula.Reads .factor (Fragment.filled backend fragment ++ rest)
    [predicate.formula backend] rest

/-- Fragments joined by a word are read one by one at the level where the word joins. -/
theorem reads_joined {level : Formula.Level} {joiner : Word}
    (last : ∀ {tokens part rest}, Formula.Reads .factor tokens [part] rest →
      Formula.Reads level tokens [part] rest)
    (more : ∀ {tokens part middle parts rest},
      Formula.Reads .factor tokens [part] (.word joiner.spelling :: middle) →
      Formula.Reads level middle parts rest → Formula.Reads level tokens (part :: parts) rest)
    {fragments : List Fragment} {predicates : List Predicate}
    (written : List.Forall₂ (WrittenAs backend) fragments predicates) (listed : predicates ≠ [])
    (rest : List (Token Parameter)) :
    Formula.Reads level
      (Fragment.filled backend (.join [.blank, .word joiner, .blank] fragments) ++ rest)
      (formulas backend predicates) rest := by
  -- The induction follows the list, whose last part has no joining word behind it.
  induction written with
  | nil => exact absurd rfl listed
  | cons own others ih =>
    cases others with
    | nil => simpa [Fragment.join, formulas] using last (own rest)
    | cons next others =>
      rw [Fragment.join_cons_cons]
      simp only [Fragment.filled_append, List.append_assoc]
      exact more (own _) (ih (by simp))

/-- A group is written in parentheses exactly if more than one of its parts is left. -/
theorem rel_group {joiner : Word} {group : List Predicate → Predicate}
    {fragments : List Fragment} {predicates : List Predicate}
    (grouped : ∀ first second others,
      predicates = first :: second :: others → ∀ rest,
      ∃ parts, Formula.Reads .disjunction
          (Fragment.filled backend (.join [.blank, .word joiner, .blank] fragments)
            ++ .mark .closing :: rest) parts (.mark .closing :: rest) ∧
        Formula.choice parts = (group predicates).formula backend)
    (written : List.Forall₂ (WrittenAs backend) fragments predicates) :
    Option.Rel (WrittenAs backend) (groupFragment? joiner fragments)
      (regroup? group predicates) := by
  -- Both groups are taken apart by how many parts are left: none, one, or more.
  cases written with
  | nil => exact .none
  | cons own others =>
    cases others with
    | nil => exact .some own
    | cons next others =>
      refine .some fun rest => ?_
      obtain ⟨parts, read, same⟩ := grouped _ _ _ rfl rest
      rw [← same]
      simpa [Piece.tokens] using Formula.Reads.group read

/-- The test of two numbers is written as a condition that matches no row. -/
theorem writtenAs_never : WrittenAs backend neverFragment .never := by
  -- Two numerals and a mark are a comparison, whatever follows.
  intro rest
  have right : Operand.Reads .whole (.numeral "0" :: rest) (.numeral "0") rest :=
    .whole .numeral .done
  exact .test (.behind (.whole .numeral .done) (@Test.ReadsBehind.compare _ .equal _ _ _ right))

/-- The SQL of a condition is written as the pruned condition, and both are none together. -/
theorem writtenAs_pruned (backend : Backend) (predicate : Predicate) :
    Option.Rel (WrittenAs backend) (predicate.fragment? backend) predicate.pruned? := by
  -- The parts of a group that have SQL are those that are left of it, in the same order.
  have parts_written : ∀ parts : List Predicate,
      (∀ part ∈ parts, Option.Rel (WrittenAs backend) (part.fragment? backend) part.pruned?) →
      List.Forall₂ (WrittenAs backend) (parts.filterMap (fragment? backend))
        (parts.filterMap pruned?) := by
    intro parts held
    -- Each part is related to itself, as one that is listed.
    have listed : List.Forall₂ (fun first second => first = second ∧ first ∈ parts) parts parts :=
      List.forall₂_same.mpr fun part member => ⟨rfl, member⟩
    refine List.rel_filterMap (fun part other same => ?_) listed
    rw [← same.1]
    exact held part same.2
  induction predicate with
  | all parts ih =>
    rw [fragment?, fragments_eq, pruned?, prunedParts_eq]
    have written := parts_written parts ih
    refine rel_group (fun first second others remaining rest => ?_) written
    have joined := @reads_joined backend _ .conjunction .lastFactor .and _ _ written
      (by simp [remaining]) (.mark .closing :: rest)
    -- Between the parentheses there is one branch of a disjunction.
    refine ⟨_, .lastBranch joined, ?_⟩
    simp [remaining, Formula.together, Formula.choice, formula, formulas]
  | any parts ih =>
    rw [fragment?, fragments_eq, pruned?, prunedParts_eq]
    have written := parts_written parts ih
    refine rel_group (fun first second others remaining rest => ?_) written
    have joined := @reads_joined backend _ .disjunction (fun read => .lastBranch (.lastFactor read))
      (fun read others => .or (.lastFactor read) others) _ _ written
      (by simp [remaining]) (.mark .closing :: rest)
    refine ⟨_, joined, ?_⟩
    simp [remaining, Formula.choice, formula, formulas]
  | compare column comparison value temporal =>
    refine .some fun rest => .test (.behind (reads_column column _) ?_)
    simpa [Piece.tokens] using Test.ReadsBehind.compare (reads_value backend value temporal rest)
  | isNull column negated =>
    refine .some fun rest => .test (.behind (reads_column column _) ?_)
    cases negated
    · exact .isNull
    · exact .isNotNull
  | oneOf column values negated temporal =>
    cases values with
    | nil =>
      cases negated
      · exact .some writtenAs_never
      · exact .none
    | cons first others =>
      refine .some fun rest => .test ?_
      have listed := reads_values backend first others temporal (.mark .closing :: rest)
      simpa [Piece.tokens, Word.spelling, Fragment.tuple] using
        Test.Reads.behind (reads_column column _)
          (@reads_negation backend _ negated _ _ _ (.among listed))
  | between column low high negated temporal =>
    refine .some fun rest => .test ?_
    have lower := reads_value backend low temporal
    have upper := reads_value backend high temporal rest
    simpa [Piece.tokens, Word.spelling] using
      Test.Reads.behind (reads_column column _)
        (@reads_negation backend _ negated _ _ _ (.between (lower _) upper))
  | like column pattern negated cast =>
    refine .some fun rest => .test ?_
    have target := reads_castFragment backend column cast
    have bound := reads_value backend (.text pattern) false
    have escape : Operand.Reads .whole (.literal Literal.escape.content :: rest)
        (.literal Literal.escape.content) rest := .whole .literal .done
    have plain : showsTime backend (.text pattern) false = false := by cases backend <;> rfl
    simpa [Piece.tokens, Word.spelling, likeOpening, likeClosing, boundOperand, plain] using
      Test.Reads.behind (target _)
        (@reads_negation backend _ negated _ _ _ (.like (bound _) escape))
  | never => exact .some writtenAs_never

end Predicate

/-- A text that is read as a formula once its places take the values bound for them, where some
values are bound before it. -/
def Sql.Rendering.ReadsAs (backend : Backend) (rendering : Rendering) (before : Nat)
    (formula : Formula) : Prop :=
  -- The places are numbered on from what is bound before, and the text is read to its end.
  ∃ tokens filled parts, tokens? backend rendering.text = some tokens ∧
    fill? rendering.bound.toList before tokens = some filled ∧
    Formula.Reads .disjunction filled parts [] ∧ formula = Formula.choice parts

/-- A spaced fragment whose tokens are read as a factor is read as that formula alone. -/
theorem Sql.Fragment.readsAs_iff {backend : Backend} {fragment : Fragment}
    (spaced : Spaced fragment) {own : Formula}
    (read : Formula.Reads .factor (filled backend fragment) [own] [])
    (prior : Array Parameter) (formula : Formula) :
    (renderAfter backend prior fragment).ReadsAs backend prior.size formula ↔ formula = own := by
  -- The text has one list of tokens, its places take one list of values, and the grammar reads the
  -- result in one way.
  have scanned := tokens?_renderAfter backend spaced prior
  have placed := fill?_renderAfter backend prior fragment
  have whole : Formula.Reads .disjunction (filled backend fragment) [own] [] :=
    .lastBranch (.lastFactor read)
  constructor
  · rintro ⟨tokens, others, parts, scanned', filled', read', rfl⟩
    obtain rfl : _ = tokens := Option.some.inj (scanned.symm.trans scanned')
    obtain rfl : _ = others := Option.some.inj (placed.symm.trans filled')
    have ends : Formula.Ends .disjunction [] := by simp [Formula.Ends]
    rw [(read'.unique whole ends ends).1]
    rfl
  · rintro rfl
    exact ⟨_, _, _, scanned, placed, whole, rfl⟩

namespace Predicate

/-- Whatever is bound before it, the SQL of a condition is read in exactly one way: as the condition
without what does not constrain rows. On every row both have the truth of that reading. -/
theorem fragment?_reads_pruned (backend : Backend) (prior : Array Parameter) (predicate : Predicate)
    {fragment : Fragment} (written : predicate.fragment? backend = some fragment) :
    ∃ pruned, predicate.pruned? = some pruned ∧
      (∀ formula, (Fragment.renderAfter backend prior fragment).ReadsAs backend prior.size formula
        ↔ formula = pruned.formula backend) ∧
      ∀ {Value : Type} (semantics : Semantics Value) (row : String → Option Value),
        pruned.truth? (semantics.tests backend row)
            = some ((pruned.formula backend).truth semantics row) ∧
          predicate.truth? (semantics.tests backend row)
            = pruned.truth? (semantics.tests backend row) := by
  -- There is SQL exactly if something is left of the condition, and it is written as what is left.
  have related := predicate.writtenAs_pruned backend
  rw [written] at related
  cases left : predicate.pruned? with
  | none => simp [left] at related
  | some pruned =>
    have read : WrittenAs backend fragment pruned := by simpa [left] using related
    refine ⟨pruned, rfl, fun formula => ?_, fun semantics row => ?_⟩
    · exact Fragment.readsAs_iff (predicate.spaced_fragment? backend written)
        (by simpa using read []) prior formula
    · simp [truth?_eq, left, pruned?_pruned left]

/-- A range keeps its own conjunction, lone parts lose their groups, and a list without values
fails or disappears. -/
theorem fragment?_reads_range : ∃ fragment,
    (Predicate.all [.any [.all []],
      .any [.any [.between "size" (.int 1) (.int 9) false false],
        .all [.isNull "name" true, .oneOf "id" [] true false,
          .oneOf "id" [] false false]]]).fragment? .postgres = some fragment ∧
      ∀ formula, (Fragment.renderAfter .postgres #[.bool true] fragment).ReadsAs .postgres 1 formula
        ↔ formula = .any
          [.test (.between (.column "size") (.bound (.int 1)) (.bound (.int 9)) false),
            .all [.test (.isNull (.column "name") true),
              .test (.compare (.numeral "1") .equal (.numeral "0"))]] := by
  -- The condition is pruned by computation, and the reading of what is left is general.
  obtain ⟨pruned, left, reads, -⟩ := fragment?_reads_pruned .postgres #[.bool true]
    (.all [.any [.all []],
      .any [.any [.between "size" (.int 1) (.int 9) false false],
        .all [.isNull "name" true, .oneOf "id" [] true false, .oneOf "id" [] false false]]]) rfl
  obtain rfl := Option.some.inj left
  exact ⟨_, rfl, reads⟩

end Predicate

end RowFilter
