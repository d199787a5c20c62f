import RowFilter.Proofs.Statement.Text

/-! The condition of a statement as a clause of its text, whatever is bound in front of it. -/

namespace RowFilter

open Sql

namespace Sql

/-- A token whose number, if it is a bound place with one, is raised by a count. -/
def Token.raised (backend : Backend) (count : Nat) : Token String → Token String
  -- Where places have no numbers, they are told apart by their order alone.
  | .place digits =>
    match backend with
    | .sqlite => .place digits
    | .postgres => .place (toString (Nat.ofDigitChars 10 digits.toList 0 + count))
  | token => token

namespace Fragment

variable {backend : Backend}

/-- The text of a fragment whose first value is bound at the given index. -/
def textFrom (backend : Backend) (index : Nat) (fragment : Fragment) : String :=
  -- The index is what a part needs to know of those before it.
  String.ofList (chars backend index fragment)

/-- The text of two fragments, the second one counted behind the values of the first. -/
theorem textFrom_append (index : Nat) (first second : Fragment) :
    textFrom backend index (first ++ second)
      = textFrom backend index first
        ++ textFrom backend (index + (values first).length) second := by
  -- The values of the first fragment are counted before the second one begins.
  rw [textFrom, chars_append, String.ofList_append]
  rfl

/-- The text of a piece in front of a fragment, which is counted on if the piece binds a value. -/
theorem textFrom_cons (index : Nat) (piece : Piece) (rest : Fragment) :
    textFrom backend index (piece :: rest)
      = String.ofList (piece.chars backend index)
        ++ textFrom backend (index + piece.value?.toList.length) rest :=
  -- This is how the characters of a fragment are put together.
  String.ofList_append

/-- A word is written as it is spelled. -/
theorem textFrom_word (index : Nat) (word : Word) (rest : Fragment) :
    textFrom backend index (.word word :: rest) = word.spelling ++ textFrom backend index rest := by
  -- A word binds nothing, so that the index stays.
  rw [textFrom_cons]
  exact congrArg (· ++ _) String.ofList_toList

/-- A mark is written as it is spelled. -/
theorem textFrom_mark (index : Nat) (mark : Mark) (rest : Fragment) :
    textFrom backend index (.mark mark :: rest) = mark.spelling ++ textFrom backend index rest := by
  -- A mark binds nothing, so that the index stays.
  rw [textFrom_cons]
  exact congrArg (· ++ _) String.ofList_toList

/-- A blank is written as one. -/
theorem textFrom_blank (index : Nat) (rest : Fragment) :
    textFrom backend index (.blank :: rest) = " " ++ textFrom backend index rest :=
  -- The blank is a single character and binds nothing.
  textFrom_cons ..

/-- There is nothing to write of nothing. -/
theorem textFrom_nil (index : Nat) : textFrom backend index [] = "" := rfl

/-- A word is written between the blanks around it. -/
theorem textFrom_between (index : Nat) (word : Word) :
    textFrom backend index [.blank, .word word, .blank] = " " ++ word.spelling ++ " " := by
  -- None of the three pieces binds anything, so that they are written from the same index.
  simp only [textFrom_blank, textFrom_word, textFrom_nil, String.append_empty, String.append_assoc]

/-- The word in front of a table. -/
theorem textFrom_source (index : Nat) :
    textFrom backend index [.blank, .word .source, .blank] = " FROM " :=
  textFrom_between index .source

/-- The word in front of the columns that a change gives back. -/
theorem textFrom_returning (index : Nat) :
    textFrom backend index [.blank, .word .returning, .blank] = " RETURNING " :=
  textFrom_between index .returning

/-- A word between blanks binds nothing. -/
theorem values_between (word : Word) : values [.blank, .word word, .blank] = [] := rfl

/-- The text of a fragment is counted from one. -/
theorem text_eq (fragment : Fragment) : text backend fragment = textFrom backend 1 fragment := by
  -- Nothing is bound before a fragment that is rendered by itself.
  have rendered := renderAfter_eq backend #[] fragment
  rw [text, textFrom]
  exact congrArg Rendering.text rendered

/-- Counting from a later index raises the number of each place, and changes nothing else. -/
theorem numbered_raised (index count : Nat) (fragment : Fragment) :
    numbered backend (index + count) fragment
      = (numbered backend index fragment).map (Token.raised backend count) := by
  -- The induction follows the pieces, of which only values have a number.
  induction fragment generalizing index with
  | nil => rfl
  | cons piece rest ih =>
    have behind : index + count + piece.value?.toList.length
        = index + piece.value?.toList.length + count := by omega
    rw [numbered, numbered, List.map_append, behind, ih]
    congr 1
    cases piece with
    | value bound temporal =>
      have digits : Nat.ofDigitChars 10 (Nat.toDigits 10 index) 0 = index :=
        Nat.ofDigitChars_ten_toDigits
      cases backend with
      | sqlite => simp [Piece.tokens, placeDigits, showsTime, Token.raised]
      | postgres =>
        by_cases shown : showsTime .postgres bound temporal = true <;>
          simp [Piece.tokens, shown, placeDigits, Token.raised, digits,
            Nat.repr_eq_ofList_toDigits]
    | _ => rfl

/-- A spaced fragment reads back as its tokens, wherever it is counted from. -/
theorem tokens?_textFrom {fragment : Fragment} (spaced : Spaced fragment) (index : Nat) :
    tokens? backend (textFrom backend index fragment) = some (numbered backend index fragment) := by
  -- The reader starts outside of any token, where the fragment begins.
  simp [tokens?, textFrom, read_chars spaced]

/-- A fragment without values has the same characters wherever it is counted from. -/
theorem chars_fixed {fragment : Fragment} (fixed : values fragment = []) (index other : Nat) :
    chars backend index fragment = chars backend other fragment := by
  -- Only a value is written with its index, and there is none.
  induction fragment generalizing index other with
  | nil => rfl
  | cons piece rest ih =>
    cases piece with
    | value bound temporal => simp [values, Piece.value?] at fixed
    | _ =>
      have behind : values rest = [] := fixed
      rw [chars, chars, ih behind]
      rfl

/-- A fragment without values has the same text wherever it is counted from. -/
theorem textFrom_fixed {fragment : Fragment} (fixed : values fragment = []) (index : Nat) :
    textFrom backend index fragment = text backend fragment := by
  -- The index is only ever shown by a value.
  rw [text_eq, textFrom, textFrom, chars_fixed fixed]

end Fragment

end Sql

open Fragment

namespace Predicate

/-- The SQL of a condition behind the word that introduces it, and nothing without a constraint. -/
def clause (backend : Backend) (predicate : Predicate) : Fragment :=
  -- The word stands there only together with a condition.
  match predicate.fragment? backend with
  | some condition => [.blank, .word .filtered, .blank] ++ condition
  | none => []

variable {backend : Backend}

/-- A condition without a constraint has no clause. -/
theorem clause_of_isEmpty {predicate : Predicate} (empty : predicate.isEmpty = true) :
    predicate.clause backend = [] := by
  -- What does not constrain rows has no SQL.
  rw [← isNone_fragment? backend, Option.isNone_iff_eq_none] at empty
  rw [clause, empty]

/-- A condition that constrains rows has a clause, which is its SQL behind a word. -/
theorem clause_of_constrains {predicate : Predicate} (constrains : predicate.isEmpty = false) :
    ∃ condition, predicate.fragment? backend = some condition ∧
      predicate.clause backend = [.blank, .word .filtered, .blank] ++ condition := by
  -- What constrains rows has SQL.
  rw [← isNone_fragment? backend, Option.isNone_eq_false_iff, Option.isSome_iff_exists]
    at constrains
  obtain ⟨condition, written⟩ := constrains
  exact ⟨condition, written, by rw [clause, written]⟩

/-- The values that the tests of a condition are made with, in order. -/
def parameters (predicate : Predicate) : List Parameter :=
  -- The marks of time are left out, since they are part of the text.
  (predicate.sites.filterMap Site.value?).map Prod.fst

/-- The SQL of a condition binds its values. -/
theorem values_fragment? (backend : Backend) (predicate : Predicate) :
    Fragment.values ((predicate.fragment? backend).getD []) = predicate.parameters := by
  -- The values of a fragment stand at the sites of the condition.
  rw [values_eq, sites_fragment?]
  rfl

/-- The clause of a condition binds its values. -/
theorem values_clause (backend : Backend) (predicate : Predicate) :
    Fragment.values (predicate.clause backend) = predicate.parameters := by
  -- The values are those of the condition, whether or not there is one.
  rw [← values_fragment? backend, clause]
  -- The word in front of the condition binds nothing.
  cases predicate.fragment? backend with
  | none => rfl
  | some condition => exact values_append _ condition

/-- Nothing runs together in a clause. -/
theorem spaced_clause (predicate : Predicate) : Spaced (predicate.clause backend) := by
  -- The word and its blanks are apart from anything behind them.
  unfold clause
  split
  · rename_i condition written
    have own := spaced_fragment? backend predicate written
    simpa [Piece.apart, Piece.isDelimiter] using own
  · exact spaced_nil

/-- The SQL of a condition is never without tokens. -/
theorem numbered_ne_nil {predicate : Predicate} {condition : Fragment}
    (written : predicate.fragment? backend = some condition) (index : Nat) :
    numbered backend index condition ≠ [] := by
  -- A lone part stands for its group, and a larger group opens with a bracket.
  have grouped : ∀ (joiner : Word) (parts : List Predicate) (group : Fragment),
      (∀ part ∈ parts, ∀ own, part.fragment? backend = some own →
        numbered backend index own ≠ []) →
      groupFragment? joiner (fragments backend parts) = some group →
      numbered backend index group ≠ [] := by
    intro joiner parts group held formed
    rw [fragments_eq] at formed
    have kept : ∀ own ∈ parts.filterMap (fragment? backend), numbered backend index own ≠ [] := by
      intro own member
      obtain ⟨part, listed, same⟩ := List.mem_filterMap.mp member
      exact held part listed own same
    generalize parts.filterMap (fragment? backend) = sql at formed kept
    rcases sql with _ | ⟨first, _ | ⟨second, rest⟩⟩
    · cases formed
    · cases formed
      exact kept group (by simp)
    · cases formed
      simp [numbered, Piece.tokens]
  induction predicate generalizing condition with
  | all parts ih => exact grouped _ parts condition (fun part listed _ => ih part listed) written
  | any parts ih => exact grouped _ parts condition (fun part listed _ => ih part listed) written
  | oneOf column values negated temporal =>
    -- A list without items is a test of two numbers, unless it excludes nothing.
    cases values <;> cases negated <;> cases written <;>
      simp [numbered, Piece.tokens, neverFragment]
  | like column pattern negated cast =>
    cases written
    cases cast <;> cases backend <;>
      simp [castFragment, castParts, dateParts, numbered, Piece.tokens]
  | _ =>
    cases written
    simp [numbered, Piece.tokens, neverFragment]

end Predicate

namespace Statement

variable (backend : Backend)

/-- A name between the quotes of a backend. -/
def quotedText (name : String) : String := String.ofList (backend.quoted name)

/-- A name is written between the quotes of the backend. -/
theorem textFrom_name (index : Nat) (name : String) :
    textFrom backend index [.name name] = quotedText backend name := by
  -- The quotes are part of the characters of the name.
  simp [textFrom, chars, Piece.chars, quotedText]

/-- A name binds nothing. -/
theorem values_name (name : String) : values [.name name] = [] := rfl

/-- The condition of a statement is its clause, except in an insertion. -/
theorem whereFragment_eq {statement : Statement}
    (filtered : ∀ columns rows, statement.action ≠ .insert columns rows) :
    statement.whereFragment backend = statement.filter.clause backend := by
  -- An insertion has no condition, and the other actions write theirs in the same way.
  unfold whereFragment Predicate.clause
  split
  · rename_i columns rows inserted
    exact absurd inserted (filtered columns rows)
  · rename_i written _
    rw [written]
  · rename_i written _
    rw [written]

/-- A choice of columns binds nothing. -/
theorem values_projection (projection : Projection) : values projection.fragment = [] := by
  -- Columns are named, and names are not bound.
  rw [values_eq, sites_projection]
  cases projection <;> simp [projectionSites, Site.value?]

/-- An order binds nothing. -/
theorem values_order (keys : List SortKey) : values (orderFragment keys) = [] := by
  -- The keys name columns and directions only.
  rw [values_eq, sites_order]
  simp [Site.value?]

/-- A cut binds nothing. -/
theorem values_cut (page : Option Page) : values (cutFragment page) = [] := by
  -- The numbers of a page are written into the text.
  cases page <;> rfl

/-- A statement is rendered from its parts, each of which is counted behind the values before it. -/
theorem render_eq (statement : Statement) :
    statement.render backend
      = ⟨textFrom backend 1 (statement.fragment backend),
          (values (statement.fragment backend)).toArray⟩ := by
  -- The rendering starts with nothing bound, so that the first value has the index one.
  show renderAfter backend #[] (statement.fragment backend) = _
  simp [renderAfter_eq, textFrom]

/-- A query as text: its columns and its table, its condition, its order and its cut. -/
theorem render_select (table : Table) (projection : Projection) (filter : Predicate)
    (order : List SortKey) (page : Option Page) :
    render backend ⟨table, .select, projection, filter, order, page⟩
      = ⟨"SELECT " ++ Fragment.text backend projection.fragment ++ " FROM "
          ++ quotedText backend table.name ++ textFrom backend 1 (filter.clause backend)
          ++ Fragment.text backend (orderFragment order)
          ++ Fragment.text backend (cutFragment page),
        (values (filter.clause backend)).toArray⟩ := by
  -- The statement is split at its condition, and each part in front of it has a fixed text.
  have parts : fragment backend ⟨table, .select, projection, filter, order, page⟩
      = ([.word .select, .blank] : Fragment) ++ projection.fragment
        ++ ([.blank, .word .source, .blank] : Fragment) ++ ([.name table.name] : Fragment)
        ++ filter.clause backend ++ orderFragment order ++ cutFragment page := by
    rw [fragment, whereFragment_eq backend (by simp)]
    simp [head, tail]
  have opened : textFrom backend 1 [.word .select, .blank] = "SELECT " := by
    simp only [textFrom_word, textFrom_blank, textFrom_nil]
    rfl
  have opens : values [.word .select, .blank] = [] := rfl
  -- Only the condition binds anything, so it is counted from one.
  rw [render_eq, parts]
  simp only [textFrom_append, values_append, values_projection, values_order, values_cut,
    textFrom_fixed (values_projection projection), textFrom_fixed (values_order order),
    textFrom_fixed (values_cut page), opens, values_between, values_name, textFrom_name,
    List.append_nil, List.nil_append, List.length_nil, Nat.add_zero, opened, textFrom_source]

/-- A count as text: its table and its condition. -/
theorem render_count (table : Table) (projection : Projection) (filter : Predicate)
    (order : List SortKey) (page : Option Page) :
    render backend ⟨table, .count, projection, filter, order, page⟩
      = ⟨"SELECT COUNT(*) AS " ++ quotedText backend "count" ++ " FROM "
          ++ quotedText backend table.name ++ textFrom backend 1 (filter.clause backend),
        (values (filter.clause backend)).toArray⟩ := by
  -- The statement is split at its condition, which is the only part that binds anything.
  have parts : fragment backend ⟨table, .count, projection, filter, order, page⟩
      = ([.word .select, .blank, .word .count, .mark .opening, .mark .star, .mark .closing, .blank,
          .word .called, .blank] : Fragment) ++ ([.name "count"] : Fragment)
        ++ ([.blank, .word .source, .blank] : Fragment) ++ ([.name table.name] : Fragment)
        ++ filter.clause backend := by
    rw [fragment, whereFragment_eq backend (by simp)]
    simp [head, tail]
  have opened : textFrom backend 1 [.word .select, .blank, .word .count, .mark .opening,
      .mark .star, .mark .closing, .blank, .word .called, .blank] = "SELECT COUNT(*) AS " := by
    simp only [textFrom_word, textFrom_mark, textFrom_blank, textFrom_nil]
    rfl
  have opens : values [.word .select, .blank, .word .count, .mark .opening, .mark .star,
      .mark .closing, .blank, .word .called, .blank] = [] := rfl
  rw [render_eq, parts]
  simp only [textFrom_append, values_append, opens, values_between, values_name, textFrom_name,
    List.nil_append, List.length_nil, Nat.add_zero, opened, textFrom_source]

/-- A removal as text: its table, its condition and the columns it gives back. -/
theorem render_delete (table : Table) (projection : Projection) (filter : Predicate)
    (order : List SortKey) (page : Option Page) :
    render backend ⟨table, .delete, projection, filter, order, page⟩
      = ⟨"DELETE FROM " ++ quotedText backend table.name
          ++ textFrom backend 1 (filter.clause backend) ++ " RETURNING "
          ++ Fragment.text backend projection.fragment,
        (values (filter.clause backend)).toArray⟩ := by
  -- The condition stands between the table and the columns that are given back.
  have parts : fragment backend ⟨table, .delete, projection, filter, order, page⟩
      = ([.word .delete, .blank, .word .source, .blank] : Fragment)
        ++ ([.name table.name] : Fragment) ++ filter.clause backend
        ++ ([.blank, .word .returning, .blank] : Fragment) ++ projection.fragment := by
    rw [fragment, whereFragment_eq backend (by simp)]
    simp [head, tail]
  have opened : textFrom backend 1 [.word .delete, .blank, .word .source, .blank]
      = "DELETE FROM " := by
    simp only [textFrom_word, textFrom_blank, textFrom_nil]
    rfl
  have opens : values [.word .delete, .blank, .word .source, .blank] = [] := rfl
  rw [render_eq, parts]
  simp only [textFrom_append, values_append, values_projection,
    textFrom_fixed (values_projection projection), opens, values_between, values_name,
    textFrom_name, List.append_nil, List.nil_append, List.length_nil, Nat.add_zero, opened,
    textFrom_returning]

/-- The assignments of an update as SQL. -/
def assigned (table : Table) (assignments : List (String × Json)) : Fragment :=
  -- The values in it are bound before those of the condition.
  Fragment.join Fragment.commaBlank (assignments.map (assignmentFragment table))

/-- The values that assignments bind: all but those that are null. -/
theorem values_assigned (table : Table) (assignments : List (String × Json)) :
    values (assigned table assignments)
      = assignments.filterMap fun assignment => Parameter.ofJson? assignment.2 := by
  -- Each assignment has its column and then its value as a site.
  rw [values_eq, assigned, sites_list, List.flatMap_map]
  simp only [sites_assignment]
  induction assignments with
  | nil => rfl
  | cons assignment rest ih =>
    rw [List.flatMap_cons, List.filterMap_append, List.map_append, ih, List.filterMap_cons]
    cases bound : Parameter.ofJson? assignment.2 <;> simp [storedSite, Site.value?, bound]

/-- An update as text: its table and its assignments, its condition, which is counted behind the
values that are assigned, and the columns it gives back. -/
theorem render_update (table : Table) (assignments : List (String × Json))
    (projection : Projection) (filter : Predicate) (order : List SortKey) (page : Option Page) :
    render backend ⟨table, .update assignments, projection, filter, order, page⟩
      = ⟨"UPDATE " ++ quotedText backend table.name ++ " SET "
          ++ Fragment.text backend (assigned table assignments)
          ++ textFrom backend (1 + (values (assigned table assignments)).length)
              (filter.clause backend) ++ " RETURNING "
          ++ Fragment.text backend projection.fragment,
        (values (assigned table assignments) ++ values (filter.clause backend)).toArray⟩ := by
  -- The assignments bind values of their own, and the condition is counted on from them.
  have parts : fragment backend ⟨table, .update assignments, projection, filter, order, page⟩
      = ([.word .update, .blank] : Fragment) ++ ([.name table.name] : Fragment)
        ++ ([.blank, .word .assign, .blank] : Fragment) ++ assigned table assignments
        ++ filter.clause backend ++ ([.blank, .word .returning, .blank] : Fragment)
        ++ projection.fragment := by
    rw [fragment, whereFragment_eq backend (by simp)]
    simp [head, tail, assigned]
  have opened : textFrom backend 1 [.word .update, .blank] = "UPDATE " := by
    simp only [textFrom_word, textFrom_blank, textFrom_nil]
    rfl
  have opens : values [.word .update, .blank] = [] := rfl
  have introduced : textFrom backend 1 [.blank, .word .assign, .blank] = " SET " :=
    textFrom_between 1 .assign
  rw [render_eq, parts, Fragment.text_eq (assigned table assignments)]
  simp only [textFrom_append, values_append, values_projection,
    textFrom_fixed (values_projection projection), opens, values_between, values_name,
    textFrom_name, List.append_nil, List.nil_append, List.length_nil, Nat.add_zero, opened,
    introduced, textFrom_returning]

end Statement

end RowFilter
