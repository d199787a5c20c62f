import Mathlib.Data.List.TakeWhile
import RowFilter.Engine.Fault
import RowFilter.Store.Classification

/-! The name of a missing column, as it is read from the wording of the database. -/

namespace RowFilter

namespace MessageText

variable {α : Type} {find : List Char → Option α} {found : α} {text rest : List Char}

/-- What follows a beginning is the rest of a text that begins with it. -/
theorem after?_eq_some {lead text rest : List Char} :
    after? lead text = some rest ↔ text = lead ++ rest := by
  -- Both texts are walked through together.
  induction lead generalizing text with
  | nil => simp [after?]
  | cons expected lead ih =>
    cases text with
    | nil => simp [after?]
    | cons c text =>
      by_cases same : c = expected
      · simp [after?, same, ih]
      · simp [after?, same]

/-- What is found at the start of a text is found first. -/
theorem firstMatch?_of_find (here : find text = some found) :
    firstMatch? find text = some found := by
  -- The search begins at the start of the text.
  cases text with
  | nil => exact here
  | cons c rest => simp only [firstMatch?, here]

/-- A text at whose start nothing is found is searched behind its first character. -/
theorem firstMatch?_cons {c : Char} (nothing : find (c :: rest) = none) :
    firstMatch? find (c :: rest) = firstMatch? find rest := by
  -- The search goes on by one character.
  simp only [firstMatch?, nothing]

/-- What is found first is found at the start of some end of the text. -/
theorem exists_of_firstMatch? (known : firstMatch? find text = some found) :
    ∃ rest, rest <:+ text ∧ find rest = some found := by
  -- The search goes through the ends of the text, from the longest one on.
  induction text with
  | nil => exact ⟨[], List.suffix_rfl, known⟩
  | cons c rest ih =>
    cases here : find (c :: rest) with
    | some own =>
      rw [firstMatch?_of_find here] at known
      exact ⟨_, List.suffix_rfl, here.trans known⟩
    | none =>
      rw [firstMatch?_cons here] at known
      obtain ⟨tail, behind, same⟩ := ih known
      exact ⟨tail, behind.trans (List.suffix_cons c rest), same⟩

/-- The first word of a text is known by the blank behind it. -/
theorem first_word_unique {word other behind rest : List Char} (plain : ' ' ∉ word)
    (otherPlain : ' ' ∉ other) (same : word ++ ' ' :: behind = other ++ ' ' :: rest) :
    word = other ∧ behind = rest := by
  -- Both words are walked through together, until one of them is used up.
  induction word generalizing other with
  | nil =>
    cases other with
    | nil => exact ⟨rfl, (List.cons.inj same).2⟩
    | cons c other =>
      -- The other word would begin with the blank.
      obtain ⟨rfl, -⟩ := List.cons.inj same
      exact absurd (.head _) otherPlain
  | cons c word ih =>
    cases other with
    | nil =>
      obtain ⟨rfl, -⟩ := List.cons.inj same
      exact absurd (.head _) plain
    | cons d other =>
      obtain ⟨rfl, behindSame⟩ := List.cons.inj same
      obtain ⟨rfl, restSame⟩ := ih (fun listed => plain (.tail _ listed))
        (fun listed => otherPlain (.tail _ listed)) behindSame
      exact ⟨rfl, restSame⟩

/-- Whether a reader finds something only at a word, a blank and a beginning of the next word. -/
structure Seeks (find : List Char → Option α) (first second : List Char) : Prop where
  filled : first ≠ []
  plain : ' ' ∉ first
  leads : ∀ text, find text ≠ none → first ++ ' ' :: second <+: text

namespace Seeks

variable {first second word : List Char} (seeks : Seeks find first second)
include seeks

/-- At a word nothing is found if it is not the one that is sought, or if what follows is other. -/
theorem find_word (plain : ' ' ∉ word) (other : first = word → ¬ second <+: rest) :
    find (word ++ ' ' :: rest) = none := by
  -- The blank that is sought is that behind the word, since neither word has one of its own.
  by_contra finds
  obtain ⟨more, split⟩ := seeks.leads _ finds
  rw [List.append_assoc, List.cons_append] at split
  obtain ⟨same, behind⟩ := first_word_unique seeks.plain plain split
  exact other same ⟨more, behind⟩

/-- A word in which nothing begins that is sought is passed over with the blank behind it. -/
theorem skip_word (plain : ' ' ∉ word) (other : first <:+ word → ¬ second <+: rest) :
    firstMatch? find (word ++ ' ' :: rest) = firstMatch? find rest := by
  -- The word loses its first character until only the blank is left.
  induction word with
  | nil => exact firstMatch?_cons (seeks.find_word plain fun empty => absurd empty seeks.filled)
  | cons c word ih =>
    have nothing := seeks.find_word plain fun same => other (same ▸ List.suffix_rfl)
    rw [List.cons_append] at nothing ⊢
    rw [firstMatch?_cons nothing]
    exact ih (fun listed => plain (.tail _ listed))
      fun ends => other (ends.trans (List.suffix_cons c word))

/-- Nothing is found in a single word. -/
theorem firstMatch?_word (plain : ' ' ∉ word) : firstMatch? find word = none := by
  -- What is sought has a blank, which would be one of the word.
  by_contra finds
  obtain ⟨found, known⟩ := Option.ne_none_iff_exists'.mp finds
  obtain ⟨rest, ends, own⟩ := exists_of_firstMatch? known
  have leads := seeks.leads rest (by simp [own])
  exact plain (ends.subset (leads.subset (List.mem_append_right _ (.head _))))

/-- In the wording for an inserted column, all that is found is in the name of the column. -/
theorem firstMatch?_noColumnNamed {letter : Char} (begins : second.head? = some letter)
    (apart : ∀ word ∈ ["table", "has", "column", "named"], ¬ first <:+ word.toList)
    (behindTable : letter ≠ 'h') (behindNo : first <:+ "no".toList → letter ≠ 'c')
    {table : String} (plain : ' ' ∉ table.toList) (column : String) :
    firstMatch? find (Engine.Fault.noColumnNamed table column).message.toList
      = firstMatch? find column.toList := by
  -- The wording is that of fixed words around the name of the table.
  have split : (s!"table {table} has no column named {column}").toList
      = "table".toList ++ ' ' :: (table.toList ++ ' ' :: ("has".toList ++ ' ' ::
          ("no".toList ++ ' ' :: ("column".toList ++ ' ' ::
            ("named".toList ++ ' ' :: column.toList))))) := by
    simp [toString]
  -- What is sought next does not begin with the letter that the next word begins with.
  have other {c : Char} (different : letter ≠ c) {rest : List Char} (starts : rest.head? = some c) :
      ¬ second <+: rest := by
    rintro ⟨more, rfl⟩
    rw [List.head?_append, begins] at starts
    exact different (Option.some.inj starts)
  simp only [List.forall_mem_cons] at apart
  obtain ⟨noTable, noHas, noColumn, noNamed, -⟩ := apart
  have wording : (Engine.Fault.noColumnNamed table column).message
      = s!"table {table} has no column named {column}" := rfl
  rw [wording, split, seeks.skip_word (by decide) fun ends => absurd ends noTable,
    seeks.skip_word plain fun _ => other behindTable rfl,
    seeks.skip_word (by decide) fun ends => absurd ends noHas,
    seeks.skip_word (by decide) fun ends => other (behindNo ends) rfl,
    seeks.skip_word (by decide) fun ends => absurd ends noColumn,
    seeks.skip_word (by decide) fun ends => absurd ends noNamed]

end Seeks

/-- A reader of a fixed text with a blank seeks it. -/
theorem after?_seeks {first second : List Char} (filled : first ≠ []) (plain : ' ' ∉ first) :
    Seeks (after? (first ++ ' ' :: second)) first second := by
  -- Where the reader succeeds the text begins with what it reads.
  refine ⟨filled, plain, fun text finds => ?_⟩
  obtain ⟨rest, known⟩ := Option.ne_none_iff_exists'.mp finds
  exact ⟨rest, (after?_eq_some.mp known).symm⟩

/-- Dropping what begins a text leaves it alone exactly if it begins with something else. -/
theorem dropWhile_quotes_eq_self :
    text.dropWhile (· = '"') = text ↔ text.head? ≠ some '"' := by
  -- Only the first character decides whether anything is dropped.
  cases text <;> simp [List.dropWhile_eq_self_iff]

/-- Dropping quotes makes no text longer. -/
theorem length_unquote_le (text : List Char) : (unquote text).length ≤ text.length := by
  -- What is dropped at either end is part of the text.
  rw [unquote, List.length_reverse]
  refine Nat.le_trans (List.length_dropWhile_le ..) ?_
  rw [List.length_reverse]
  exact List.length_dropWhile_le ..

/-- Dropping quotes leaves a text alone exactly if it neither begins nor ends with one. -/
theorem unquote_eq_self :
    unquote text = text ↔ text.head? ≠ some '"' ∧ text.getLast? ≠ some '"' := by
  -- The end of a text is the start of the reversed one.
  have back : text.getLast? = text.reverse.head? := by simp
  rw [← dropWhile_quotes_eq_self, back, ← dropWhile_quotes_eq_self]
  constructor
  · intro same
    -- What is left of the text at its start would be too short otherwise.
    have front : text.dropWhile (· = '"') = text := by
      refine (List.dropWhile_suffix _).eq_of_length (Nat.le_antisymm ?_ ?_)
      · exact List.length_dropWhile_le ..
      · have short := List.length_dropWhile_le (· = '"') (text.dropWhile (· = '"')).reverse
        have whole := congrArg List.length same
        rw [unquote, List.length_reverse] at whole
        rw [List.length_reverse] at short
        omega
    rw [unquote, front] at same
    exact ⟨front, List.reverse_eq_iff.mp same⟩
  · rintro ⟨front, back⟩
    rw [unquote, front, back, List.reverse_reverse]

/-- A name that is read at the start of a text is shorter than the text, unless it is all of it and
has no blanks. -/
theorem readName_length {name : List Char}
    (read : (quotedHere? text).or (wordHere? text) = some name) :
    name.length < text.length ∨
      name = text ∧ text ≠ [] ∧ ∀ c ∈ text, Text.isBlank c = false := by
  -- The name is quoted, or it is a word.
  rcases Option.or_eq_some_iff.mp read with quoted | ⟨-, word⟩
  · -- The quotes are left out.
    left
    unfold quotedHere? at quoted
    split at quoted
    · rename_i rest
      simp only at quoted
      split at quoted
      · cases quoted
      · cases quoted
        have short := (List.takeWhile_prefix (· ≠ '"') : _ <+: rest).length_le
        rw [List.length_cons]
        omega
    · cases quoted
  · -- A word ends at the first blank, or is all of the text.
    simp only [wordHere?] at word
    split at word
    · cases word
    · rename_i filled
      cases word
      have part := List.takeWhile_prefix (l := text) fun c => !Text.isBlank c
      by_cases whole : (text.takeWhile fun c => !Text.isBlank c) = text
      · right
        refine ⟨whole, fun empty => filled (by simp [empty]), fun c listed => ?_⟩
        simpa using List.takeWhile_eq_self_iff.mp whole c listed
      · left
        refine Nat.lt_of_le_of_ne part.length_le fun same => whole (part.eq_of_length same)

/-- A name behind a fixed text is read there, without the quotes around it. -/
theorem nameAfter?_eq_some {lead name : String} : nameAfter? lead text = some name ↔ ∃ rest found,
    text = lead.toList ++ rest ∧ (quotedHere? rest).or (wordHere? rest) = some found ∧
      String.ofList (unquote found) = name := by
  -- The reader takes the fixed text, then the name, and then its quotes off.
  simp only [nameAfter?, Option.bind_eq_bind, Option.bind_eq_some_iff, after?_eq_some,
    Option.pure_def, Option.some.injEq, exists_and_left]

end MessageText

/-- Whether a name has no blanks and neither begins nor ends with a double quote. -/
structure IsPlainName (name : String) : Prop where
  filled : name.toList ≠ []
  solid : ∀ c ∈ name.toList, Text.isBlank c = false
  front : name.toList.head? ≠ some '"'
  back : name.toList.getLast? ≠ some '"'

namespace Missing

open MessageText Engine

variable {text : List Char} {column : String}

/-- What is missing is known by the words in front of it. -/
theorem here?_seeks : Seeks here? "no".toList "such ".toList := by
  -- By whether a table or a column is missing, whose words begin alike.
  refine ⟨by decide, by decide, fun text finds => ?_⟩
  obtain ⟨missing, known⟩ := Option.ne_none_iff_exists'.mp finds
  rcases Option.or_eq_some_iff.mp known with table | ⟨-, column⟩
  · obtain ⟨name, read, -⟩ := Option.map_eq_some_iff.mp table
    obtain ⟨rest, found, rfl, -⟩ := nameAfter?_eq_some.mp read
    exact ⟨"table: ".toList ++ rest, rfl⟩
  · obtain ⟨name, read, -⟩ := Option.map_eq_some_iff.mp column
    obtain ⟨rest, found, rfl, -⟩ := nameAfter?_eq_some.mp read
    exact ⟨"column: ".toList ++ rest, rfl⟩

/-- A column that is missing is one whose name follows the words for it. -/
theorem here?_column : here? text = some (.column column)
    ↔ nameAfter? "no such column: " text = some column := by
  -- A table is looked for first, and its words are not those for a column.
  constructor
  · intro known
    rcases Option.or_eq_some_iff.mp known with table | ⟨-, named⟩
    · obtain ⟨name, -, other⟩ := Option.map_eq_some_iff.mp table
      cases other
    · obtain ⟨name, read, same⟩ := Option.map_eq_some_iff.mp named
      cases same
      exact read
  · intro read
    -- The words for a table do not stand where those for a column do.
    have noTable : nameAfter? "no such table: " text = none := by
      obtain ⟨rest, -, rfl, -⟩ := nameAfter?_eq_some.mp read
      by_contra other
      obtain ⟨name, table⟩ := Option.ne_none_iff_exists'.mp other
      obtain ⟨more, -, same, -⟩ := nameAfter?_eq_some.mp table
      simp at same
    rw [here?, noTable, read]
    rfl

/-- The name of a column is shorter than the text that it is found in. -/
theorem length_lt_of_firstMatch? (known : firstMatch? here? text = some (.column column)) :
    column.toList.length < text.length := by
  -- The words in front are left out, and what is read behind them does not grow.
  obtain ⟨own, ends, here⟩ := exists_of_firstMatch? known
  obtain ⟨rest, name, rfl, read, rfl⟩ := nameAfter?_eq_some.mp (here?_column.mp here)
  have kept := length_unquote_le name
  have part : name.length ≤ rest.length := by
    rcases readName_length read with short | ⟨rfl, -⟩
    · exact Nat.le_of_lt short
    · exact Nat.le_refl _
  have whole := ends.length_le
  rw [List.length_append] at whole
  rw [String.toList_ofList]
  have lead : "no such column: ".toList.length = 16 := rfl
  omega

/-- A column is told by its name exactly if the name is plain. -/
theorem ofMessage?_noSuchColumn (column : String) :
    ofMessage? (Fault.noSuchColumn column).message = some (.column column)
      ↔ IsPlainName column := by
  -- The message is the words and the name, and nothing is written around the name.
  have wording : (s!"no such column: {column}").toList
      = "no such column: ".toList ++ column.toList := by
    simp [toString]
  have told : ofMessage? (Fault.noSuchColumn column).message
      = firstMatch? here? ("no such column: ".toList ++ column.toList) := by
    rw [← wording]
    rfl
  rw [told]
  constructor
  · intro known
    cases here : here? ("no such column: ".toList ++ column.toList) with
    | some missing =>
      -- The name is read behind the words: as a whole, or it would be too short.
      rw [firstMatch?_of_find here] at known
      cases known
      obtain ⟨rest, name, same, read, whole⟩ := nameAfter?_eq_some.mp (here?_column.mp here)
      obtain rfl := List.append_cancel_left same
      have kept := length_unquote_le name
      have own := congrArg String.toList whole
      rw [String.toList_ofList] at own
      rcases readName_length read with short | ⟨rfl, filled, solid⟩
      · have long := congrArg List.length own
        omega
      · obtain ⟨front, back⟩ := unquote_eq_self.mp own
        exact ⟨filled, solid, front, back⟩
    | none =>
      -- What is found behind the words is found in the name, and is shorter.
      have behind : firstMatch? here? ("no such column: ".toList ++ column.toList)
          = firstMatch? here? column.toList := by
        have first : "no such column: ".toList ++ column.toList = 'n' :: ("o".toList ++ ' ' ::
            ("such".toList ++ ' ' :: ("column:".toList ++ ' ' :: column.toList))) := rfl
        rw [first] at here ⊢
        rw [firstMatch?_cons here,
          here?_seeks.skip_word (by decide) fun ends => absurd ends (by decide),
          here?_seeks.skip_word (by decide) fun ends => absurd ends (by decide),
          here?_seeks.skip_word (by decide) fun ends => absurd ends (by decide)]
      rw [behind] at known
      exact absurd (length_lt_of_firstMatch? known) (Nat.lt_irrefl _)
  · rintro ⟨filled, solid, front, back⟩
    refine firstMatch?_of_find (here?_column.mpr (nameAfter?_eq_some.mpr ⟨_, _, rfl, ?_,
      (congrArg String.ofList (unquote_eq_self.mpr ⟨front, back⟩)).trans String.ofList_toList⟩))
    -- The name does not begin with a quote, so it is read as a word.
    have unquoted : quotedHere? column.toList = none := by
      unfold quotedHere?
      split
      · rename_i same
        rw [same] at front
        exact absurd rfl front
      · rfl
    have word : column.toList.takeWhile (fun c => !Text.isBlank c) = column.toList :=
      List.takeWhile_eq_self_iff.mpr fun c listed => by simp [solid c listed]
    simp only [unquoted, Option.none_or, wordHere?, word, List.isEmpty_iff, filled, if_false]

/-- In the wording for an inserted column, what is missing is read from the name of the column. -/
theorem ofMessage?_noColumnNamed {table : String} (plain : ' ' ∉ table.toList) (column : String) :
    ofMessage? (Fault.noColumnNamed table column).message = firstMatch? here? column.toList :=
  -- The words in front of the name hold nothing that could be read as what is missing.
  @Seeks.firstMatch?_noColumnNamed _ _ _ _ here?_seeks 's' rfl (by decide) (by decide)
    (fun _ => by decide) _ plain column

end Missing

namespace Classification

open MessageText

variable {code : Option String} {message query : String} {origin : Origin}

/-- Whatever the message says, the error has the statement that failed and its origin. -/
theorem byMessage_carries (code : Option String) (message query : String) (origin : Origin) :
    (byMessage code message query origin).queryText? = some query ∧
      (byMessage code message query origin).origin? = some origin := by
  -- Each branch makes an error with both of them.
  unfold byMessage
  split
  · exact ⟨rfl, rfl⟩
  · exact ⟨rfl, rfl⟩
  · split
    · exact ⟨rfl, rfl⟩
    · split <;> exact ⟨rfl, rfl⟩

/-- A message is that of a missing column exactly if the column is read from it. -/
theorem byMessage_eq_columnNotFound {column : String} {shown : Option String}
    {cause : Option Origin} :
    byMessage code message query origin = .columnNotFound column shown cause
      ↔ Missing.ofMessage? message = some (.column column) ∧ shown = some query ∧
        cause = some origin := by
  -- The other branches make errors of other kinds.
  unfold byMessage
  split
  · rename_i known
    simp [known]
  · rename_i known
    simp [known, @eq_comm _ shown, @eq_comm _ cause]
  · rename_i known
    rw [known]
    split
    · simp
    · split <;> simp

/-- The wording for an inserted column is never that of a missing column with this name. -/
theorem byMessage_noColumnNamed_ne {table : String} (plain : ' ' ∉ table.toList) (column : String)
    (shown : Option String) (cause : Option Origin) :
    byMessage code (Engine.Fault.noColumnNamed table column).message query origin
      ≠ .columnNotFound column shown cause := by
  -- All that is read is in the name of the column, so it is not the whole name.
  intro told
  have named := (byMessage_eq_columnNotFound.mp told).1
  rw [Missing.ofMessage?_noColumnNamed plain] at named
  exact absurd (Missing.length_lt_of_firstMatch? named) (Nat.lt_irrefl _)

/-- The wording for an inserted column is told as it is if there is no blank in a name. -/
theorem byMessage_noColumnNamed {table column : String} (plain : ' ' ∉ table.toList)
    (solid : ' ' ∉ column.toList) (reached : isConnectionCode code = false) :
    let message := (Engine.Fault.noColumnNamed table column).message
    byMessage code message query origin = .query message (some query) (some origin) := by
  -- None of the other wordings that are known is found in the message.
  intro message
  have unread : Missing.ofMessage? message = none := by
    rw [Missing.ofMessage?_noColumnNamed plain, Missing.here?_seeks.firstMatch?_word solid]
  have ungenerated : occurs "generated column" message = false := by
    have seeks : Seeks (after? "generated column".toList) "generated".toList "column".toList :=
      @after?_seeks "generated".toList "column".toList (by decide) (by decide)
    have named := @Seeks.firstMatch?_noColumnNamed _ _ _ _ seeks 'c' rfl (by decide) (by decide)
      (fun ends => absurd ends (by decide)) _ plain column
    rw [seeks.firstMatch?_word solid] at named
    exact congrArg Option.isSome named
  simp [byMessage, unread, ungenerated, reached]

end Classification

end RowFilter
