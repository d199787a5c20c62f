import RowFilter.Proofs.Predicate.Basic
import RowFilter.Proofs.Sql.Rendering
import RowFilter.Sql.Statement

/-! No two pieces of a statement run together, whatever names and values it is given. -/

namespace RowFilter

open Sql

namespace Sql.Fragment

/-- A delimiter separates what stands before it from what stands behind it. -/
theorem spaced_append {first second : Fragment} {delimiter : Piece}
    (separates : delimiter.isDelimiter = true) :
    Spaced (first ++ delimiter :: second) ↔ Spaced first ∧ Spaced second := by
  -- Whatever its neighbours are, a delimiter stays apart from both of them.
  have before (piece : Piece) : piece.apart delimiter = true := by simp [Piece.apart, separates]
  have behind (piece : Piece) : delimiter.apart piece = true := by simp [Piece.apart, separates]
  simp [Spaced, List.isChain_append, List.isChain_cons, before, behind]

/-- A delimiter in front leaves a fragment spaced. -/
theorem spaced_cons {second : Fragment} {delimiter : Piece}
    (separates : delimiter.isDelimiter = true) : Spaced (delimiter :: second) ↔ Spaced second := by
  -- This is the case of two fragments the first of which is empty.
  simpa [Spaced] using @spaced_append [] second delimiter separates

/-- A blank separates, so what stands around it is spaced by itself. -/
@[simp] theorem spaced_append_blank {first second : Fragment} :
    Spaced (first ++ .blank :: second) ↔ Spaced first ∧ Spaced second := spaced_append rfl

/-- An opening parenthesis separates. -/
@[simp] theorem spaced_append_opening {first second : Fragment} :
    Spaced (first ++ .mark .opening :: second) ↔ Spaced first ∧ Spaced second := spaced_append rfl

/-- A closing parenthesis separates. -/
@[simp] theorem spaced_append_closing {first second : Fragment} :
    Spaced (first ++ .mark .closing :: second) ↔ Spaced first ∧ Spaced second := spaced_append rfl

/-- A leading blank leaves a fragment spaced. -/
@[simp] theorem spaced_blank {second : Fragment} : Spaced (.blank :: second) ↔ Spaced second :=
  -- A blank is a delimiter.
  spaced_cons rfl

/-- A leading parenthesis leaves a fragment spaced. -/
@[simp] theorem spaced_opening {second : Fragment} :
    Spaced (.mark .opening :: second) ↔ Spaced second := spaced_cons rfl

/-- A leading comma leaves a fragment spaced. -/
@[simp] theorem spaced_comma {second : Fragment} :
    Spaced (.mark .comma :: second) ↔ Spaced second := spaced_cons rfl

/-- Nothing is spaced. -/
@[simp] theorem spaced_nil : Spaced [] := List.isChain_nil

/-- A single piece has no neighbour. -/
@[simp] theorem spaced_singleton (piece : Piece) : Spaced [piece] := List.isChain_singleton piece

/-- Neighbours decide whether a fragment is spaced. -/
@[simp] theorem spaced_cons_cons {first second : Piece} {rest : Fragment} :
    Spaced (first :: second :: rest) ↔ first.apart second = true ∧ Spaced (second :: rest) :=
  -- Each piece is held against the next one.
  List.isChain_cons_cons

/-- Items stay apart when a separator between them begins and ends with a delimiter. -/
theorem spaced_join {opening closing : Piece} {middle : Fragment} {items : List Fragment}
    (opens : opening.isDelimiter = true) (closes : closing.isDelimiter = true)
    (inner : Spaced middle) (spaced : ∀ item ∈ items, Spaced item) :
    Spaced (join (opening :: (middle ++ [closing])) items) := by
  -- The induction runs over the items behind the first one, each with its separator.
  have general : ∀ (rest : List Fragment) (first : Fragment), Spaced first →
      (∀ item ∈ rest, Spaced item) →
      Spaced (first ++ rest.flatMap (opening :: (middle ++ [closing]) ++ ·)) := by
    intro rest
    induction rest with
    | nil => intro first own _; simpa using own
    | cons item rest ih =>
      intro first own others
      have next := others item (by simp)
      have tail := ih item next fun other member => others other (by simp [member])
      rw [List.flatMap_cons, List.append_assoc, List.cons_append, spaced_append opens]
      refine ⟨own, ?_⟩
      rw [List.append_assoc, List.singleton_append, spaced_append closes]
      exact ⟨inner, tail⟩
  cases items with
  | nil => exact spaced_nil
  | cons first rest =>
    have own := spaced first (by simp)
    exact general rest first own fun item member => spaced item (by simp [member])

/-- Items of a list stay apart. -/
theorem spaced_list {items : List Fragment} (spaced : ∀ item ∈ items, Spaced item) :
    Spaced (join commaBlank items) :=
  -- The comma and the blank behind it separate what is listed.
  @spaced_join (.mark .comma) .blank [] items rfl rfl spaced_nil spaced

/-- Items between parentheses stay apart. -/
theorem spaced_tuple {items : List Fragment} (spaced : ∀ item ∈ items, Spaced item) :
    Spaced (tuple items) := by
  -- Both parentheses are delimiters.
  simp [tuple, spaced_list spaced]

/-- A part that may be left out: it begins with a blank of its own. -/
def IsPart (fragment : Fragment) : Prop :=
  -- Being optional, a part can follow anything that is spaced.
  fragment = [] ∨ ∃ rest, fragment = .blank :: rest ∧ Spaced rest

/-- A part behind a spaced fragment leaves it spaced. -/
theorem spaced_append_part {first second : Fragment} (spaced : Spaced first)
    (part : IsPart second) : Spaced (first ++ second) := by
  -- The blank in front of the part separates the two.
  rcases part with rfl | ⟨rest, rfl, own⟩
  · simpa using spaced
  · exact spaced_append_blank.mpr ⟨spaced, own⟩

/-- Two parts in a row are a part. -/
theorem IsPart.append {first second : Fragment} (part : IsPart first) (other : IsPart second) :
    IsPart (first ++ second) := by
  -- If the first one is left out, the second one is all that remains.
  rcases part with rfl | ⟨rest, rfl, own⟩
  · exact other
  · exact .inr ⟨rest ++ second, rfl, spaced_append_part own other⟩

end Sql.Fragment

namespace Predicate

open Sql.Fragment

/-- A column that is presented to a pattern does not run into what is written around it. -/
theorem spaced_castFragment (backend : Backend) (column : String) (cast : Cast) :
    Spaced (castFragment backend column cast) := by
  -- Only a column directly before its cast has no delimiter between, and it stays apart from it.
  cases cast <;> cases backend <;> simp [castFragment, castParts, dateParts, Piece.apart,
    Piece.isDelimiter]

/-- A group of spaced parts is spaced. -/
theorem spaced_groupFragment? {joiner : Word} {parts : List Fragment} {group : Fragment}
    (spaced : ∀ part ∈ parts, Spaced part) (grouped : groupFragment? joiner parts = some group) :
    Spaced group := by
  -- A lone part stands without parentheses, and more parts are joined between them.
  match parts, grouped with
  | [part], grouped =>
    simp only [groupFragment?, Option.some.injEq] at grouped
    rw [← grouped]
    exact spaced part (by simp)
  | first :: second :: rest, grouped =>
    simp only [groupFragment?, Option.some.injEq] at grouped
    have joined := @spaced_join .blank .blank [.word joiner] _ rfl rfl (spaced_singleton _) spaced
    rw [← grouped]
    simpa using joined

/-- The SQL of a condition is spaced. -/
theorem spaced_fragment? (backend : Backend) (predicate : Predicate) {fragment : Fragment}
    (written : predicate.fragment? backend = some fragment) : Spaced fragment := by
  -- The parts of a group are the SQL of some of its conditions, each of which is spaced.
  have parts_spaced : ∀ parts : List Predicate,
      (∀ part ∈ parts, ∀ {own}, part.fragment? backend = some own → Spaced own) →
      ∀ own ∈ parts.filterMap (fragment? backend), Spaced own := by
    intro parts held own member
    obtain ⟨source, listed, same⟩ := List.mem_filterMap.mp member
    exact held source listed same
  induction predicate generalizing fragment with
  | all parts ih =>
    rw [fragment?, fragments_eq] at written
    exact spaced_groupFragment? (parts_spaced parts ih) written
  | any parts ih =>
    rw [fragment?, fragments_eq] at written
    exact spaced_groupFragment? (parts_spaced parts ih) written
  | compare column comparison value temporal =>
    cases written
    simp [Piece.apart, Piece.isDelimiter]
  | isNull column negated =>
    cases written
    cases negated <;> simp [negation, Piece.apart, Piece.isDelimiter]
  | oneOf column values negated temporal =>
    simp only [fragment?] at written
    by_cases none : values.isEmpty = true
    · -- Without values there is a test of two numbers, or nothing at all.
      cases negated
      · simp only [none, if_true, Bool.false_eq_true, if_false, Option.some.injEq] at written
        rw [← written]
        simp [neverFragment, Piece.apart, Piece.isDelimiter]
      · simp [none] at written
    · have items : Spaced (tuple (values.map fun value => [Piece.value value temporal])) :=
        spaced_tuple (by simp)
      simp only [none, Bool.false_eq_true, if_false, Option.some.injEq] at written
      rw [← written]
      cases negated <;> simp [negation, Piece.apart, Piece.isDelimiter, items]
  | between column low high negated temporal =>
    cases written
    cases negated <;> simp [negation, Piece.apart, Piece.isDelimiter]
  | like column pattern negated cast =>
    cases written
    have target := spaced_castFragment backend column cast
    cases negated <;>
      simp [likeOpening, likeClosing, negation, Piece.apart, Piece.isDelimiter, target]
  | never =>
    cases written
    simp [neverFragment, Piece.apart, Piece.isDelimiter]

end Predicate

/-- The columns of a projection stay apart. -/
theorem Projection.spaced_fragment (projection : Projection) :
    Fragment.Spaced projection.fragment := by
  -- An empty choice is written as the star, and names are a list with commas.
  match projection with
  | .all => exact Fragment.spaced_singleton _
  | .columns [] => exact Fragment.spaced_singleton _
  | .columns (first :: rest) =>
    show Fragment.Spaced (.join .commaBlank ((first :: rest).map fun name => [.name name]))
    refine Fragment.spaced_list fun item member => ?_
    obtain ⟨name, -, rfl⟩ := List.mem_map.mp member
    exact Fragment.spaced_singleton _

namespace Statement

open Sql.Fragment

/-- The part of a statement before its condition is spaced. -/
theorem spaced_head (statement : Statement) : Spaced statement.head := by
  -- Blanks stand between the words, so only the lists in between are left to look at.
  obtain ⟨table, action, projection, filter, order, page⟩ := statement
  cases action with
  | select =>
    have columns := projection.spaced_fragment
    simp [head, Piece.apart, Piece.isDelimiter, columns]
  | count => simp [head, Piece.apart, Piece.isDelimiter]
  | insert columns rows =>
    cases columns with
    | nil => simp [head, Piece.apart, Piece.isDelimiter]
    | cons first rest =>
      have names : Spaced (tuple ((first :: rest).map fun column => [Piece.name column])) :=
        spaced_tuple (by simp)
      have values : Spaced (join commaBlank (rows.map (rowFragment table (first :: rest)))) := by
        refine spaced_list fun item member => ?_
        obtain ⟨row, -, rfl⟩ := List.mem_map.mp member
        refine spaced_tuple fun value listed => ?_
        obtain ⟨pair, -, rfl⟩ := List.mem_map.mp listed
        exact spaced_singleton _
      simp only [List.map_cons] at names
      simp [head, Piece.apart, Piece.isDelimiter, names, values]
  | update assignments =>
    have written : Spaced (join commaBlank (assignments.map (assignmentFragment table))) := by
      refine spaced_list fun item member => ?_
      obtain ⟨assignment, -, rfl⟩ := List.mem_map.mp member
      simp [assignmentFragment, Piece.apart, Piece.isDelimiter]
    simp [head, Piece.apart, Piece.isDelimiter, written]
  | delete => simp [head, Piece.apart, Piece.isDelimiter]

/-- The condition of a statement is a part of it. -/
theorem isPart_whereFragment (backend : Backend) (statement : Statement) :
    IsPart (statement.whereFragment backend) := by
  -- A condition begins with a blank, and there may be none.
  unfold whereFragment
  split
  · exact .inl rfl
  · rename_i condition written _
    have own := statement.filter.spaced_fragment? backend written
    exact .inr ⟨_, rfl, by simpa [Piece.apart, Piece.isDelimiter] using own⟩
  · exact .inl rfl

/-- The order of the rows is a part of a statement. -/
theorem isPart_orderFragment (keys : List SortKey) : IsPart (orderFragment keys) := by
  -- Without keys nothing is written, and otherwise a blank comes first.
  cases keys with
  | nil => exact .inl rfl
  | cons key rest =>
    have listed : Spaced (join commaBlank ((key :: rest).map SortKey.fragment)) := by
      refine spaced_list fun item member => ?_
      obtain ⟨sorted, -, rfl⟩ := List.mem_map.mp member
      simp [SortKey.fragment, Piece.apart, Piece.isDelimiter]
    refine .inr ⟨_, rfl, ?_⟩
    simpa [Piece.apart, Piece.isDelimiter] using listed

/-- The cut of the rows is a part of a statement. -/
theorem isPart_cutFragment (page : Option Page) : IsPart (cutFragment page) := by
  -- Without a page there is no part, and with one it begins with a blank.
  cases page with
  | none => exact .inl rfl
  | some page =>
    exact .inr ⟨_, rfl, by simp [pageFragment, Piece.apart, Piece.isDelimiter]⟩

/-- What stands behind the condition is a part of a statement. -/
theorem isPart_tail (statement : Statement) : IsPart statement.tail := by
  -- A query ends with its order and its cut, a change with the columns it gives back.
  have columns := statement.projection.spaced_fragment
  unfold tail
  split
  · exact (isPart_orderFragment _).append (isPart_cutFragment _)
  · exact .inl rfl
  all_goals exact .inr ⟨_, rfl, by simpa [Piece.apart, Piece.isDelimiter] using columns⟩

/-- The SQL of a statement is spaced. -/
theorem spaced_fragment (backend : Backend) (statement : Statement) :
    Spaced (statement.fragment backend) :=
  -- The condition and the end of a statement are parts behind its beginning.
  spaced_append_part
    (spaced_append_part statement.spaced_head (statement.isPart_whereFragment backend))
    statement.isPart_tail

end Statement

end RowFilter
