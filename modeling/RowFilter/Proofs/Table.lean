import Mathlib.Data.List.Induction
import RowFilter.Proofs.Filter.Compile
import RowFilter.Proofs.Filter.Typing

/-! Which descriptions are tables, what is wrong with the others, and what a search finds in a
table. -/

namespace RowFilter

/-- A text has a character other than blanks exactly if it is not blank. -/
theorem isBlankText_eq_false {text : String} :
    isBlankText text = false ↔ ∃ c ∈ text.toList, Text.isBlank c = false := by
  -- A blank text has no character of another sort.
  simp [isBlankText]

/-- The first text that is repeated is found behind distinct ones, or behind some seen before. -/
theorem firstRepeat?_split {seen before after : List String} {text : String}
    (distinct : before.Nodup) (fresh : ∀ other ∈ before, other ∉ seen)
    (repeated : text ∈ before ∨ text ∈ seen) :
    firstRepeat? seen (before ++ text :: after) = some text := by
  -- The walk adds each text that is new to those it has seen.
  induction before generalizing seen with
  | nil =>
    have known : text ∈ seen := by simpa using repeated
    exact if_pos known
  | cons first rest ih =>
    obtain ⟨new, distinct⟩ := List.nodup_cons.mp distinct
    obtain ⟨own, fresh⟩ := List.forall_mem_cons.mp fresh
    rw [List.cons_append, firstRepeat?, if_neg own]
    refine ih distinct (fun other listed known => ?_) ?_
    · rcases List.mem_cons.mp known with rfl | known
      · exact new listed
      · exact fresh other listed known
    · rcases repeated with listed | known
      · rcases List.mem_cons.mp listed with rfl | listed
        · exact .inr (.head _)
        · exact .inl listed
      · exact .inr (.tail _ known)

/-- Texts that are not distinct have a first one that is repeated. -/
theorem exists_repeat {texts : List String} (double : ¬ texts.Nodup) :
    ∃ before text after, texts = before ++ text :: after ∧ before.Nodup ∧ text ∈ before := by
  -- The induction adds a text at the end, which repeats one only if none is repeated before.
  induction texts using List.reverseRecOn with
  | nil => exact absurd .nil double
  | append_singleton texts last ih =>
    by_cases distinct : texts.Nodup
    · refine ⟨texts, last, [], rfl, distinct, ?_⟩
      by_contra new
      exact double (List.nodup_append.mpr ⟨distinct, by simp, by
        rintro text listed other own rfl
        exact new (List.mem_singleton.mp own ▸ listed)⟩)
    · obtain ⟨before, text, after, rfl, fresh, repeated⟩ := ih distinct
      exact ⟨before, text, after ++ [last], by simp, fresh, repeated⟩

namespace Table

variable {name : String} {fields : List Field} {primaryKey : List String}

/-- Whether a description makes a table. -/
structure Describes (name : String) (fields : List Field) (primaryKey : List String) : Prop where
  named : ∃ c ∈ name.toList, Text.isBlank c = false
  keyed : primaryKey ≠ []
  distinct : (fields.map Field.name).Nodup
  declared : ∀ column ∈ primaryKey, column ∈ fields.map Field.name

/-- The first rule that a description breaks, with the first field or column that breaks it. -/
inductive Breaks (name : String) (fields : List Field) (primaryKey : List String) :
    TableError → Prop
  | emptyName (blank : ∀ c ∈ name.toList, Text.isBlank c = true) :
    Breaks name fields primaryKey .emptyName
  | missingPrimaryKey (named : ∃ c ∈ name.toList, Text.isBlank c = false)
      (keyless : primaryKey = []) :
    Breaks name fields primaryKey (.missingPrimaryKey name)
  | duplicateField {before after : List String} {field : String}
      (named : ∃ c ∈ name.toList, Text.isBlank c = false) (keyed : primaryKey ≠ [])
      (split : fields.map Field.name = before ++ field :: after) (distinct : before.Nodup)
      (repeated : field ∈ before) :
    Breaks name fields primaryKey (.duplicateField name field)
  | unknownPrimaryKey {before after : List String} {column : String}
      (named : ∃ c ∈ name.toList, Text.isBlank c = false)
      (distinct : (fields.map Field.name).Nodup)
      (split : primaryKey = before ++ column :: after)
      (declared : ∀ other ∈ before, other ∈ fields.map Field.name)
      (unknown : column ∉ fields.map Field.name) :
    Breaks name fields primaryKey (.unknownPrimaryKey name column)

/-- A table is built from its own name, fields and key, and from nothing else. -/
theorem build_iff {table : Table} : build name fields primaryKey = .ok table
    ↔ table.name = name ∧ table.fields = fields ∧ table.primaryKey = primaryKey := by
  -- A table carries the four tests, so that it passes them again.
  constructor
  · -- There is a table only where all four tests are passed.
    intro built
    simp only [build] at built
    split at built
    · split at built
      · split at built
        · split at built
          · cases built
            exact ⟨rfl, rfl, rfl⟩
          · cases built
        · cases built
      · cases built
    · cases built
  · rintro ⟨rfl, rfl, rfl⟩
    rw [build, dif_pos table.named, dif_pos table.keyed, dif_pos table.distinct,
      dif_pos table.declared]

/-- A description makes a table exactly if it breaks none of the rules. -/
theorem build_describes : (∃ table, build name fields primaryKey = .ok table)
    ↔ Describes name fields primaryKey := by
  -- The rules are the four tests, the first of which asks for a character that is no blank.
  constructor
  · rintro ⟨table, built⟩
    obtain ⟨rfl, rfl, rfl⟩ := build_iff.mp built
    exact ⟨isBlankText_eq_false.mp table.named, table.keyed, table.distinct, table.declared⟩
  · rintro ⟨named, keyed, distinct, declared⟩
    exact ⟨⟨name, fields, primaryKey, isBlankText_eq_false.mpr named, keyed, distinct, declared⟩,
      build_iff.mpr ⟨rfl, rfl, rfl⟩⟩

/-- The first rule that is broken is the one that is reported. -/
theorem Breaks.build {error : TableError} (breaks : Breaks name fields primaryKey error) :
    build name fields primaryKey = .error error := by
  -- The rules before the one that is broken hold, so that their tests are passed.
  cases breaks with
  | emptyName blank =>
    have unnamed : ¬ isBlankText name = false := by
      simpa [isBlankText] using blank
    rw [Table.build, dif_neg unnamed]
  | missingPrimaryKey named keyless =>
    rw [Table.build, dif_pos (isBlankText_eq_false.mpr named), dif_neg (not_not.mpr keyless)]
  | duplicateField named keyed split distinct repeated =>
    have double : ¬ (fields.map Field.name).Nodup := by
      rw [split, List.nodup_middle, List.nodup_cons]
      exact fun fresh => fresh.1 (List.mem_append_left _ repeated)
    rw [Table.build, dif_pos (isBlankText_eq_false.mpr named), dif_pos keyed, dif_neg double, split,
      firstRepeat?_split distinct (fun _ _ => List.not_mem_nil) (.inl repeated)]
    rfl
  | @unknownPrimaryKey before after column named distinct split declared unknown =>
    have keyed : primaryKey ≠ [] := by simp [split]
    have undeclared : ¬ ∀ column ∈ primaryKey, column ∈ fields.map Field.name :=
      fun all => unknown (all column (by simp [split]))
    have found : primaryKey.find? (fun column => column ∉ fields.map Field.name) = some column :=
      List.find?_eq_some_iff_append.mpr
        ⟨decide_eq_true unknown, before, after, split, fun other listed => by
          simpa using declared other listed⟩
    rw [Table.build, dif_pos (isBlankText_eq_false.mpr named), dif_pos keyed, dif_pos distinct,
      dif_neg undeclared, found]
    rfl

/-- A description makes a table or breaks a rule. -/
theorem describes_or_breaks (name : String) (fields : List Field) (primaryKey : List String) :
    Describes name fields primaryKey ∨ ∃ error, Breaks name fields primaryKey error := by
  -- The rules are tried in the order in which they are tested.
  by_cases named : ∃ c ∈ name.toList, Text.isBlank c = false
  · by_cases keyed : primaryKey = []
    · exact .inr ⟨_, .missingPrimaryKey named keyed⟩
    · by_cases distinct : (fields.map Field.name).Nodup
      · cases found : primaryKey.find? (fun column => column ∉ fields.map Field.name) with
        | none =>
          have declared := List.find?_eq_none.mp found
          exact .inl ⟨named, keyed, distinct, fun column listed => by
            simpa using declared column listed⟩
        | some column =>
          obtain ⟨unknown, before, after, split, declared⟩ :=
            List.find?_eq_some_iff_append.mp found
          exact .inr ⟨_, .unknownPrimaryKey named distinct split
            (fun other listed => by simpa using declared other listed) (by simpa using unknown)⟩
      · obtain ⟨before, field, after, split, fresh, repeated⟩ := exists_repeat distinct
        exact .inr ⟨_, .duplicateField named keyed split fresh repeated⟩
  · refine .inr ⟨_, .emptyName fun c listed => ?_⟩
    by_contra filled
    exact named ⟨c, listed, by simpa using filled⟩

/-- The rule that is reported is the first one that is broken. -/
theorem build_breaks {error : TableError} :
    build name fields primaryKey = .error error ↔ Breaks name fields primaryKey error := by
  -- A description breaks a rule or describes a table, and the report is that of the first rule.
  refine ⟨fun failed => ?_, Breaks.build⟩
  rcases describes_or_breaks name fields primaryKey with describes | ⟨other, breaks⟩
  · obtain ⟨table, built⟩ := build_describes.mpr describes
    rw [failed] at built
    cases built
  · rw [breaks.build] at failed
    cases failed
    exact breaks

variable {table : Table}

/-- A column that is no field has no kind. -/
theorem kindOf?_eq_none {column : String} (unknown : column ∉ table.fieldNames) :
    table.kindOf? column = none := by
  -- The fields are searched by name, and none of them has this one.
  have absent : table.fields.find? (·.name == column) = none := by
    refine List.find?_eq_none.mpr fun field listed same => unknown ?_
    exact List.mem_map.mpr ⟨field, listed, by simpa using same⟩
  rw [kindOf?, absent]
  rfl

/-- The identity of rows is a field. -/
theorem identityColumn_mem (table : Table) : table.identityColumn ∈ table.fieldNames :=
  -- The key is not empty, and all of its columns are fields.
  table.declared _ (List.head_mem table.keyed)

end Table

/-- How the columns of a kind are presented to a pattern: texts as they are, and dates in their
canonical form. -/
def Kind.cast : Kind → Cast
  -- Whatever is no text is cast to one.
  | .string => .none
  | .date => .dateText
  | .number | .boolean | .json => .text

/-- What is looked for in the columns of a kind: among dates the canonical form of a date. -/
def Kind.needle (kind : Kind) (text : String) : String :=
  -- A text that is no date is looked for as it is, even among dates.
  if kind = .date then (DateText.canonical? text).getD text else text

/-- A search of a field for a text is one test, as its kind asks for. -/
theorem Predicate.containing_kind (field : Field) (text : String) :
    containing field.name text false (some field.kind)
      = .like field.name (containsPattern (field.kind.needle text)) false field.kind.cast := by
  -- The search asks for the kind of the field, and each kind has its own test.
  obtain ⟨name, kind⟩ := field
  cases kind <;> rfl

/-- A description makes a table exactly if its name is not blank, its key is not empty, its fields
are distinct and its key is among them; otherwise the first of these rules that it breaks is
reported, with the first field or column that breaks it. A table knows the kind of each of its
fields and of nothing else, its identity is a field, and a search everywhere for something that is
present has one test for each field, in order, as the kind of the field asks for. -/
theorem Table.build_sound (name : String) (fields : List Field) (primaryKey : List String) :
    ((∃ table, build name fields primaryKey = .ok table) ↔ Describes name fields primaryKey) ∧
    (∀ error, build name fields primaryKey = .error error ↔ Breaks name fields primaryKey error) ∧
    ∀ table, build name fields primaryKey = .ok table →
      table.name = name ∧ table.fields = fields ∧ table.primaryKey = primaryKey ∧
      (∀ field ∈ fields, table.kindOf? field.name = some field.kind) ∧
      (∀ column ∉ fields.map Field.name, table.kindOf? column = none) ∧
      primaryKey.head? = some table.identityColumn ∧
      (∃ field ∈ fields, field.name = table.identityColumn) ∧
      ∀ literal : Scalar, literal.isTruthy = true → ∃ tests,
        Search.compile table (.everywhere literal) = .ok (some (.any tests)) ∧ tests ≠ [] ∧
        tests = fields.map fun field =>
          .like field.name (containsPattern (field.kind.needle (Search.textOf literal))) false
            field.kind.cast := by
  -- The three parts are known, and what a table has is what it was built from.
  refine ⟨build_describes, fun error => build_breaks, fun table built => ?_⟩
  obtain ⟨rfl, rfl, rfl⟩ := build_iff.mp built
  refine ⟨rfl, rfl, rfl, fun field => kindOf?_field, fun column => kindOf?_eq_none,
    List.head?_eq_some_head table.keyed, List.mem_map.mp table.identityColumn_mem, ?_⟩
  intro literal truthy
  refine ⟨_, (if_pos truthy), ?_, List.map_congr_left fun field _ => ?_⟩
  · exact fun none => table.fields_ne_nil (List.map_eq_nil_iff.mp none)
  · exact Predicate.containing_kind field (Search.textOf literal)

/-- A key may name a field twice. A field that is declared again is reported before a column of the
key that is none, and a search for a truth value tests numbers as texts and days as dates. -/
theorem Table.build_sound_books :
    let fields : List Field := [⟨"id", .number⟩, ⟨"title", .string⟩, ⟨"at", .date⟩]
    Describes "books" fields ["id", "id"] ∧
    (∃ table, build "books" fields ["id", "id"] = .ok table ∧ table.identityColumn = "id" ∧
      table.kindOf? "at" = some .date ∧ table.kindOf? "isbn" = none ∧
      Search.compile table (.everywhere (.bool true)) = .ok (some (.any
        [.like "id" "%true%" false .text, .like "title" "%true%" false .none,
          .like "at" "%true%" false .dateText]))) ∧
    build "books" (fields ++ [⟨"title", .json⟩, ⟨"id", .json⟩]) ["isbn"]
      = .error (.duplicateField "books" "title") := by
  -- The one description keeps all rules, and the other one breaks two of them.
  intro fields
  have named : ∃ c ∈ "books".toList, Text.isBlank c = false := ⟨'b', by decide, rfl⟩
  have describes : Describes "books" fields ["id", "id"] :=
    ⟨named, by decide, by decide, by decide⟩
  have double : Breaks "books" (fields ++ [⟨"title", .json⟩, ⟨"id", .json⟩]) ["isbn"]
      (.duplicateField "books" "title") :=
    @Breaks.duplicateField _ _ _ ["id", "title", "at"] ["id"] "title" named (by decide) rfl
      (by decide) (by decide)
  obtain ⟨table, built⟩ := (build_sound "books" fields ["id", "id"]).1.mpr describes
  obtain ⟨-, -, -, kinds, others, identity, -, searches⟩ :=
    (build_sound "books" fields ["id", "id"]).2.2 table built
  obtain ⟨tests, compiled, -, rfl⟩ := searches (.bool true) rfl
  refine ⟨describes, ⟨table, built, (Option.some.inj identity).symm,
    kinds ⟨"at", .date⟩ (by decide), others "isbn" (by decide), compiled⟩, ?_⟩
  exact ((build_sound "books" (fields ++ [⟨"title", .json⟩, ⟨"id", .json⟩]) ["isbn"]).2.1 _).mpr
    double

end RowFilter
