import RowFilter.Proofs.Schema.Acceptance

/-! The language of the filters on a table, and that its schemas accept exactly this language. -/

namespace RowFilter

/-- Whether a document is a text or a number. -/
def Json.isTextOrNumber : Json → Bool
  -- Whole numbers and fractions are both numbers.
  | .string _ | .integer _ | .float _ => true
  | _ => false

/-- Whether a document is a literal of the type that fields of a kind have in JSON. -/
def Kind.isLiteral : Kind → Json → Bool
  -- A date is spelled as a text, and a field of documents takes every literal.
  | .string, .string _ | .date, .string _ => true
  | .number, .integer _ | .number, .float _ => true
  | .boolean, .bool _ => true
  | .json, .string _ | .json, .integer _ | .json, .float _ | .json, .bool _ => true
  | _, _ => false

/-- Whether a document has the shape that an operator takes on fields of a kind. -/
def Operator.Takes (kind : Kind) (operator : Operator) (operand : Json) : Prop :=
  -- The shape decides, and only lists and ranges have parts of the kind.
  match operator.shape with
  | .scalar => kind.isLiteral operand = true
  | .pattern => operand.isTextOrNumber = true
  | .flag => ∃ wanted, operand = .bool wanted
  | .list => ∃ items, operand = .array items ∧ items ≠ [] ∧
      (∀ item ∈ items, kind.isLiteral item = true) ∧
      items.Pairwise fun first second => ¬ Json.sameValue first second
  | .range => ∃ low high, operand = .array [low, high] ∧
      kind.isLiteral low = true ∧ kind.isLiteral high = true

/-- Whether a document is a condition on fields of a kind: null, a literal, or operators of the kind
with what they take, each of which may be left open by null. -/
def Kind.IsCondition (kind : Kind) : Json → Prop
  -- An array is no literal of any kind, and so it falls under the last case.
  | .null => True
  | .object members => ∀ member ∈ members, ∃ operator ∈ Operator.forKind kind,
      member.1 = operator.symbol ∧ (member.2 = .null ∨ operator.Takes kind member.2)
  | literal => kind.isLiteral literal = true

namespace Table

/-- Whether a document chooses fields of a table: all of them, or some that it lists. -/
def IsSelection (table : Table) (selection : Json) : Prop :=
  -- A list may name the star as well, which then stands for all fields.
  selection = .string "*" ∨ ∃ names : List String, selection = .array (names.map .string) ∧
    names ≠ [] ∧ ∀ name ∈ names, name ∈ table.fieldNames ∨ name = "*"

/-- Whether a document is a search in a table: a literal, or a text or number for chosen fields. -/
def IsSearch (table : Table) : Json → Prop
  -- The two members may stand in any order, and no other one beside them.
  | .array _ => False
  | .object members => ∃ fields value,
      members.Perm [("selectedFields", fields), ("value", value)] ∧
      table.IsSelection fields ∧ value.isTextOrNumber = true
  | _ => True

/-- Whether a key with its value may stand in a clause on a table; the key of a search is never that
of a field. -/
def IsMember (table : Table) (member : String × Json) : Prop :=
  -- A field of that name cannot be addressed at all.
  if member.1 = "$q" then table.IsSearch member.2
  else ∃ field ∈ table.fields, field.name = member.1 ∧ field.kind.IsCondition member.2

/-- Whether a document is a clause on a table. -/
def IsClause (table : Table) (document : Json) : Prop :=
  -- No member is required, so that the empty object is a clause.
  ∃ members, document = .object members ∧ ∀ member ∈ members, table.IsMember member

/-- Whether a document is a filter on a table: one clause, or up to fifty of them. -/
def IsFilter (table : Table) (document : Json) : Prop :=
  -- A list may be empty, and a clause outside of a list is no list of one.
  table.IsClause document ∨ ∃ clauses, document = .array clauses ∧ clauses.length ≤ 50 ∧
    ∀ clause ∈ clauses, table.IsClause clause

end Table

open Schema

/-- A list has at least one item exactly if it is not empty. -/
theorem withinBounds_filled {items : List Json} :
    withinBounds (some 1) none items.length = true ↔ items ≠ [] := by
  -- An empty list has no item to make up for the bound.
  cases items <;> simp [withinBounds]

/-- The schema of a kind accepts its literals. -/
theorem Kind.accepts_schema (kind : Kind) (document : Json) :
    accepts kind.schema document = kind.isLiteral document := by
  -- The schema of a kind asks for types, and a document has one of them only.
  cases kind <;> cases document <;> rfl

/-- The schema of a pattern accepts texts and numbers. -/
theorem Json.accepts_textOrNumber (document : Json) :
    accepts (.typedAmong [.string, .number]) document = document.isTextOrNumber := by
  -- Each form of document is one type, and two of these are asked for.
  cases document <;> rfl

namespace Operator

/-- The schema of an operand accepts what the operator takes. -/
theorem accepts_operandSchema (kind : Kind) (operator : Operator) (operand : Json) :
    accepts (operator.operandSchema kind) operand = true ↔ operator.Takes kind operand := by
  -- By the shape of the operator, which picks the schema.
  unfold operandSchema Takes
  cases operator.shape with
  | scalar => simp only [kind.accepts_schema]
  | pattern => simp only [Json.accepts_textOrNumber]
  | flag => cases operand <;> simp [accepts, JsonType.holds]
  | list =>
    cases operand with
    | array items =>
      -- The schema asks for some items, each of the type, and no two of the same value.
      simp only [accepts, Bool.and_eq_true, withinBounds_filled, List.all_eq_true,
        kind.accepts_schema, Bool.not_true, Bool.false_or, Json.allDifferent_iff,
        Json.array.injEq, exists_eq_left']
      tauto
    | _ => simp [accepts]
  | range =>
    cases operand with
    | array items =>
      -- Any other number of items is out of bounds.
      match items with
      | [low, high] => simp [accepts, withinBounds, kind.accepts_schema]
      | [] | [_] | _ :: _ :: _ :: _ => simp [accepts, withinBounds]
    | _ => simp [accepts]

/-- An operator may be left open by null. -/
theorem accepts_openable (kind : Kind) (operator : Operator) (operand : Json) :
    accepts (.anyOf [operator.operandSchema kind, .typed .null]) operand = true
      ↔ operand = .null ∨ operator.Takes kind operand := by
  -- Null is taken by no operator, so that the two ways do not overlap.
  have null : accepts (.typed .null) operand = true ↔ operand = .null := by
    cases operand <;> simp [accepts, JsonType.holds]
  rw [accepts, acceptsAny, acceptsAny, acceptsAny, Bool.or_false, Bool.or_eq_true, null,
    accepts_operandSchema, or_comm]

/-- An operator is found by its key. -/
theorem ofSymbol?_symbol (operator : Operator) : ofSymbol? operator.symbol = some operator := by
  -- By the operators, each of which is found by computation.
  cases operator <;> decide

/-- No two operators have the same key. -/
theorem symbol_injective : Function.Injective symbol := by
  -- The key leads back to the operator that has it.
  intro first second same
  have found := congrArg ofSymbol? same
  rw [ofSymbol?_symbol, ofSymbol?_symbol] at found
  exact Option.some.inj found

/-- Every operator is listed once. -/
theorem all_nodup : all.Nodup := by decide

end Operator

/-- The schema of a condition accepts the conditions on fields of the kind. -/
theorem Kind.accepts_conditionSchema (kind : Kind) {document : Json}
    (wellKeyed : document.isWellKeyed = true) :
    accepts kind.conditionSchema document = true ↔ kind.IsCondition document := by
  -- An object goes by its keys, and every other document is null or a literal.
  cases document with
  | object members =>
    obtain ⟨distinct, -⟩ := Json.isWellKeyed_object.mp wellKeyed
    have known : (((Operator.forKind kind).map fun operator => (operator.symbol,
        Schema.anyOf [operator.operandSchema kind, .typed .null])).map Prod.fst).Nodup := by
      rw [List.map_map]
      exact (Operator.all_nodup.filter _).map Operator.symbol_injective
    -- An object is neither null nor a literal, so that its keys decide.
    have literal : accepts kind.schema (.object members) = false := by
      rw [kind.accepts_schema]
      cases kind <;> rfl
    have null : accepts (.typed .null) (.object members) = false := rfl
    rw [Kind.conditionSchema, accepts, acceptsAny, acceptsAny, acceptsAny, acceptsAny, literal,
      null, Bool.false_or, Bool.false_or, Bool.or_false, accepts_record known distinct]
    constructor
    · rintro ⟨-, accepted⟩ ⟨key, operand⟩ listed
      obtain ⟨schema, property, accepts⟩ := accepted _ listed
      obtain ⟨operator, suits, same⟩ := List.mem_map.mp property
      cases same
      exact ⟨operator, suits, rfl, (operator.accepts_openable kind operand).mp accepts⟩
    · intro conditions
      refine ⟨by simp, fun member listed => ?_⟩
      obtain ⟨operator, suits, named, takes⟩ := conditions member listed
      refine ⟨_, List.mem_map.mpr ⟨operator, suits, by rw [named]⟩, ?_⟩
      exact (operator.accepts_openable kind member.2).mpr takes
  | _ =>
    simp [Kind.conditionSchema, accepts, acceptsAny, kind.accepts_schema, JsonType.holds,
      Kind.IsCondition]

/-- Items are allowed texts exactly if they are a list of allowed names. -/
theorem Json.strings_iff (items : List Json) (allowed : List String) :
    (∀ item ∈ items, ∃ name ∈ allowed, item = .string name)
      ↔ ∃ names : List String, items = names.map .string ∧ ∀ name ∈ names, name ∈ allowed := by
  -- By induction on the items in one way; in the other one each name is found among those allowed.
  constructor
  · intro listed
    induction items with
    | nil => exact ⟨[], rfl, by simp⟩
    | cons item rest ih =>
      obtain ⟨⟨name, fits, rfl⟩, behind⟩ := List.forall_mem_cons.mp listed
      obtain ⟨names, rfl, all⟩ := ih behind
      exact ⟨name :: names, rfl, List.forall_mem_cons.mpr ⟨fits, all⟩⟩
  · rintro ⟨names, rfl, all⟩ item listed
    obtain ⟨name, member, rfl⟩ := List.mem_map.mp listed
    exact ⟨name, all name member, rfl⟩

namespace Table

variable {table : Table}

/-- The schema of a selection accepts the choices of fields. -/
theorem accepts_projectionSchema (selection : Json) :
    accepts table.projectionSchema selection = true ↔ table.IsSelection selection := by
  -- A text and a list are the two forms that the schema has options for.
  cases selection with
  | array items =>
    have listed : (∀ item ∈ items, ((table.fieldNames ++ ["*"]).any
          fun name => decide (item = .string name)) = true)
        ↔ ∃ names : List String, items = names.map .string ∧
          ∀ name ∈ names, name ∈ table.fieldNames ∨ name = "*" := by
      simpa using Json.strings_iff items (table.fieldNames ++ ["*"])
    simp only [projectionSchema, accepts, acceptsAny, reduceCtorEq, decide_false, Bool.false_or,
      Bool.or_false, Bool.not_false, Bool.true_or, Bool.and_true, Bool.and_eq_true,
      List.all_eq_true, listed, withinBounds_filled, IsSelection, false_or, Json.array.injEq]
    constructor
    · rintro ⟨⟨names, rfl, known⟩, some⟩
      exact ⟨names, rfl, by simpa using some, known⟩
    · rintro ⟨names, rfl, some, known⟩
      exact ⟨⟨names, rfl, known⟩, by simpa using some⟩
  | _ => simp [projectionSchema, accepts, acceptsAny, IsSelection]

/-- The schema of a search accepts the searches in a table. -/
theorem accepts_searchSchema {search : Json} (wellKeyed : search.isWellKeyed = true) :
    accepts table.searchSchema search = true ↔ table.IsSearch search := by
  -- An object goes by its two members, and every other document but a list is a literal.
  cases search with
  | object members =>
    obtain ⟨distinct, -⟩ := Json.isWellKeyed_object.mp wellKeyed
    have known : (([("selectedFields", table.projectionSchema),
        ("value", .typedAmong [.string, .number])] : List (String × Schema)).map
          Prod.fst).Nodup := by simp
    have literal : accepts (.typedAmong [.string, .number, .boolean, .null])
        (.object members) = false := rfl
    rw [searchSchema, accepts, acceptsAny, acceptsAny, acceptsAny, literal, Bool.false_or,
      Bool.or_false, accepts_record known distinct]
    constructor
    · rintro ⟨complete, accepted⟩
      obtain ⟨fields, chosen⟩ := complete "selectedFields" (by simp)
      obtain ⟨value, given⟩ := complete "value" (by simp)
      have selection : accepts table.projectionSchema fields = true := by
        simpa using accepted _ chosen
      have wanted : accepts (.typedAmong [.string, .number]) value = true := by
        simpa using accepted _ given
      refine ⟨fields, value, ?_, (accepts_projectionSchema fields).mp selection,
        by rwa [Json.accepts_textOrNumber] at wanted⟩
      -- The record has no properties but these two.
      refine Members.perm_pair distinct chosen given (by simp) fun member listed => ?_
      obtain ⟨schema, property, -⟩ := accepted member listed
      simp only [List.mem_cons, Prod.mk.injEq, List.not_mem_nil, or_false] at property
      exact property.imp And.left And.left
    · rintro ⟨fields, value, same, selection, wanted⟩
      have selected := (accepts_projectionSchema fields).mpr selection
      rw [← Json.accepts_textOrNumber] at wanted
      refine ⟨fun key required => ?_, fun member listed => ?_⟩
      · simp only [List.mem_cons, List.not_mem_nil, or_false] at required
        rcases required with rfl | rfl
        · exact ⟨fields, same.mem_iff.mpr (by simp)⟩
        · exact ⟨value, same.mem_iff.mpr (by simp)⟩
      · have listed := same.mem_iff.mp listed
        simp only [List.mem_cons, List.not_mem_nil, or_false] at listed
        rcases listed with rfl | rfl
        · exact ⟨_, by simp, selected⟩
        · exact ⟨_, by simp, wanted⟩
  | _ => simp [searchSchema, accepts, acceptsAny, JsonType.holds, IsSearch]

/-- The search key stands for the search, and every other key for its field. -/
theorem mem_withSearch {search schema : Schema} {key : String} {fields : List (String × Schema)}
    (distinct : (fields.map Prod.fst).Nodup) :
    (key, schema) ∈ withSearch search fields
      ↔ if key = "$q" then schema = search else (key, schema) ∈ fields := by
  -- By induction on the fields, the first of which with the search key gives way to the search.
  induction fields with
  | nil => by_cases named : key = "$q" <;> simp [withSearch, named]
  | cons field rest ih =>
    obtain ⟨name, own⟩ := field
    obtain ⟨fresh, behind⟩ := List.nodup_cons.mp distinct
    by_cases searched : name = "$q"
    · -- No field behind this one has the search key.
      have other : key = "$q" → (key, schema) ∉ rest := by
        rintro rfl listed
        exact fresh (List.mem_map.mpr ⟨_, listed, searched.symm⟩)
      by_cases named : key = "$q"
      · have absent : ("$q", schema) ∉ rest := named ▸ other named
        simp [withSearch, searched, named, absent]
      · simp [withSearch, searched, named]
    · by_cases named : key = "$q"
      · have apart : "$q" ≠ name := fun same => searched same.symm
        simp_all [withSearch]
      · simp_all [withSearch]

/-- The keys of a clause are the search key and those of the fields, each of them once. -/
theorem nodup_withSearch {search : Schema} {fields : List (String × Schema)}
    (distinct : (fields.map Prod.fst).Nodup) :
    ((withSearch search fields).map Prod.fst).Nodup := by
  -- A field with the search key gives its place to the search, which is added at the end otherwise.
  have keys : (withSearch search fields).map Prod.fst
      = if "$q" ∈ fields.map Prod.fst then fields.map Prod.fst
        else fields.map Prod.fst ++ ["$q"] := by
    induction fields with
    | nil => rfl
    | cons field rest ih =>
      obtain ⟨name, own⟩ := field
      have behind := ih (List.nodup_cons.mp distinct).2
      by_cases searched : name = "$q"
      · simp [withSearch, searched]
      · have apart : "$q" ≠ name := fun same => searched same.symm
        by_cases named : "$q" ∈ rest.map Prod.fst <;> simp_all [withSearch]
  rw [keys]
  split
  · exact distinct
  · rename_i fresh
    refine List.nodup_append.mpr ⟨distinct, List.nodup_singleton _, ?_⟩
    intro key listed other single same
    exact fresh (by rwa [same, List.mem_singleton.mp single] at listed)

variable (table) in
/-- The schemas of the fields of a table, each of them under its own name. -/
theorem fieldSchemas_nodup : ((table.fields.map fun field =>
    (field.name, field.kind.conditionSchema)).map Prod.fst).Nodup := by
  -- The names are those of the fields, which all differ.
  rw [List.map_map]
  exact table.distinct

/-- The schema of a clause accepts the clauses on a table. -/
theorem accepts_clauseSchema {document : Json} (wellKeyed : document.isWellKeyed = true) :
    accepts table.clauseSchema document = true ↔ table.IsClause document := by
  -- A clause is an object, and each of its members stands under a key of the schema.
  cases document with
  | object members =>
    obtain ⟨distinct, values⟩ := Json.isWellKeyed_object.mp wellKeyed
    have fields := table.fieldSchemas_nodup
    rw [clauseSchema, accepts_record (nodup_withSearch fields) distinct]
    have each : ∀ member ∈ members, (∃ schema, (member.1, schema) ∈ withSearch table.searchSchema
          (table.fields.map fun field => (field.name, field.kind.conditionSchema)) ∧
          accepts schema member.2 = true) ↔ table.IsMember member := by
      intro member listed
      have own := values member listed
      -- Under the search key stands the search, also if there is a field of that name.
      by_cases searched : member.1 = "$q"
      · simp only [mem_withSearch fields, IsMember, if_pos searched, exists_eq_left,
          accepts_searchSchema own]
      · simp only [mem_withSearch fields, IsMember, if_neg searched]
        constructor
        · rintro ⟨schema, declared, accepts⟩
          obtain ⟨field, present, same⟩ := List.mem_map.mp declared
          obtain ⟨named, rfl⟩ := Prod.mk.inj same
          exact ⟨field, present, named, (field.kind.accepts_conditionSchema own).mp accepts⟩
        · rintro ⟨field, present, named, condition⟩
          refine ⟨_, List.mem_map.mpr ⟨field, present, by rw [named]⟩, ?_⟩
          exact (field.kind.accepts_conditionSchema own).mpr condition
    constructor
    · rintro ⟨-, accepted⟩
      exact ⟨members, rfl, fun member listed => (each member listed).mp (accepted member listed)⟩
    · rintro ⟨_, same, allowed⟩
      cases same
      exact ⟨by simp, fun member listed => (each member listed).mpr (allowed member listed)⟩
  | _ => simp [clauseSchema, accepts, IsClause]

/-- The schema of a filter accepts the filters on a table. -/
theorem accepts_filterSchema {document : Json} (wellKeyed : document.isWellKeyed = true) :
    accepts table.filterSchema document = true ↔ table.IsFilter document := by
  -- The schema has two options, one for each way to write a filter.
  rw [filterSchema, accepts, acceptsAny, acceptsAny, acceptsAny, Bool.or_false, Bool.or_eq_true,
    accepts_clauseSchema wellKeyed, IsFilter]
  refine or_congr Iff.rfl ?_
  -- A filter is one clause or a list of them, and no document is both.
  cases document with
  | array clauses =>
    have each := Json.isWellKeyed_array.mp wellKeyed
    have bounded : withinBounds none (some maxFilterClauses) clauses.length = true
        ↔ clauses.length ≤ 50 := by simp [withinBounds, maxFilterClauses]
    simp only [accepts, Bool.not_false, Bool.true_or, Bool.and_true, Bool.and_eq_true,
      List.all_eq_true, bounded, Json.array.injEq, exists_eq_left']
    rw [and_comm]
    exact and_congr Iff.rfl
      (forall₂_congr fun clause listed => accepts_clauseSchema (each clause listed))
  | _ => simp [accepts]

end Table

end RowFilter
