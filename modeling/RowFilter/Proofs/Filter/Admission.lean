import RowFilter.Filter.Reader
import RowFilter.Proofs.Filter.Meaning
import RowFilter.Proofs.Schema.Language

/-! Every document in the language of a table is read as a filter that suits the table. -/

namespace RowFilter

/-- Whether a bound value has the type of the fields of a kind. -/
def Kind.binds : Kind → Parameter → Bool
  -- Dates are bound as texts, in their canonical form.
  | .string, .text _ | .date, .text _ => true
  | .number, .int _ | .number, .float _ => true
  | .boolean, .bool _ => true
  -- Any value but null is a document of its own.
  | .json, .text _ | .json, .int _ | .json, .float _ | .json, .bool _ => true
  | _, _ => false

/-- Whether a literal has the type of the fields of a kind. -/
def Kind.admits (kind : Kind) (literal : Scalar) : Bool :=
  -- What is bound for a literal decides; null is bound for by nothing.
  literal.toParameter?.any kind.binds

/-- Whether a literal can be looked for as a pattern. -/
def Scalar.isPattern : Scalar → Bool
  -- What has a text of its own; a truth value has none, and null even less.
  | .text _ | .int _ | .float _ => true
  | _ => false

/-- Whether an operator is given what it takes on fields of a kind. -/
def Operator.Admits (kind : Kind) (operator : Operator) : Operand → Prop
  -- The shape of the operator decides; only a pattern does not ask for the kind of the field.
  | .scalar literal =>
    operator.shape = .scalar ∧ kind.admits literal = true ∨
      operator.shape = .pattern ∧ literal.isPattern = true
  | .list items => operator.shape = .list ∧ ∀ item ∈ items, kind.admits item = true
  | .range low high =>
    operator.shape = .range ∧ kind.admits low = true ∧ kind.admits high = true
  | .flag _ => operator.shape = .flag

/-- Whether a condition suits fields of a kind. -/
def Condition.Suits (kind : Kind) : Condition → Prop
  -- Null is equality with null, which is a test that every field has.
  | .equals literal => literal = .null ∨ kind.admits literal = true
  | .operators entries => ∀ entry ∈ entries,
      entry.1 ∈ Operator.forKind kind ∧ entry.1.Admits kind entry.2
  | .unconstrained => True

/-- Whether a choice of columns names fields of a table only. -/
def Projection.Within (table : Table) : Projection → Prop
  -- The star is all columns, and so within every table.
  | .all => True
  | .columns names => ∀ name ∈ names, name ∈ table.fieldNames

/-- Whether a search looks in fields of a table only, and for what can be looked for there. -/
def Search.Suits (table : Table) : Search → Prop
  -- Without chosen fields, those that a literal suits are picked when the search is compiled.
  | .everywhere _ => True
  | .within fields literal => fields.Within table ∧ literal.isPattern = true

/-- Whether an entry of a clause is a search in a table, or a condition that suits its field. -/
def Entry.Suits (table : Table) : Entry → Prop
  -- A field is found by its name, and its kind is what the condition has to suit.
  | .field name condition => ∃ field ∈ table.fields, field.name = name ∧ condition.Suits field.kind
  | .search term => term.Suits table

/-- Whether all entries of a filter suit a table. -/
def Filter.Suits (table : Table) (filter : Filter) : Prop :=
  -- Branches are not told apart here: what one of them may say, each may say.
  ∀ clause ∈ filter.clauses, ∀ entry ∈ clause, Entry.Suits table entry

/-- A literal of a kind is read as one. -/
theorem Kind.ofJson?_literal {kind : Kind} {document : Json}
    (literal : kind.isLiteral document = true) :
    ∃ value, Scalar.ofJson? document = some value ∧ kind.admits value = true := by
  -- The kind fixes the form of the document, and a form is read as one literal only.
  cases document with
  | integer number =>
    -- A number that does not fit a word is read as a float.
    cases word : number.toInt64? <;> cases kind <;>
      simp_all [Kind.isLiteral, Scalar.ofJson?, Kind.admits, Scalar.toParameter?, Kind.binds]
  | _ =>
    cases kind <;>
      simp_all [Kind.isLiteral, Scalar.ofJson?, Kind.admits, Scalar.toParameter?, Kind.binds]

namespace Operand

/-- Literals of a kind are read one by one. -/
theorem scalars_literals (fault : FilterError) {kind : Kind} {items : List Json}
    (literals : ∀ item ∈ items, kind.isLiteral item = true) :
    ∃ values, scalars fault items = .ok values ∧ ∀ value ∈ values, kind.admits value = true := by
  -- Each item is read by itself, and none of them fails.
  refine Result.mapM_exists fun item listed => ?_
  obtain ⟨value, read, admitted⟩ := Kind.ofJson?_literal (literals item listed)
  exact ⟨value, by rw [read], admitted⟩

/-- What an operator takes is read as its operand. -/
theorem ofJson_takes (field : String) {kind : Kind} {operator : Operator} {document : Json}
    (takes : operator.Takes kind document) :
    ∃ operand, ofJson field operator document = .ok operand ∧ operator.Admits kind operand := by
  -- What an operator takes and how its operand is read are both decided by its shape.
  unfold Operator.Takes at takes
  unfold ofJson
  cases shaped : operator.shape <;> simp only [shaped] at takes
  case scalar =>
    obtain ⟨value, read, admitted⟩ := Kind.ofJson?_literal takes
    exact ⟨.scalar value, by simp [read], .inl ⟨shaped, admitted⟩⟩
  case pattern =>
    cases document with
    | string text => exact ⟨_, rfl, .inr ⟨shaped, rfl⟩⟩
    | float number => exact ⟨_, rfl, .inr ⟨shaped, rfl⟩⟩
    | integer number =>
      refine ⟨_, rfl, .inr ⟨shaped, ?_⟩⟩
      cases word : number.toInt64? <;> simp [Scalar.ofJson?, word, Scalar.isPattern]
    | _ => simp [Json.isTextOrNumber] at takes
  case flag =>
    obtain ⟨wanted, rfl⟩ := takes
    exact ⟨.flag wanted, rfl, shaped⟩
  case list =>
    obtain ⟨items, rfl, -, literal, -⟩ := takes
    obtain ⟨values, read, all⟩ := scalars_literals
      (.invalidOperand field operator.symbol "expected scalar items") literal
    exact ⟨.list values, by simp only [read]; rfl, shaped, all⟩
  case range =>
    obtain ⟨low, high, rfl, lower, upper⟩ := takes
    obtain ⟨first, readLow, admitsLow⟩ := Kind.ofJson?_literal lower
    obtain ⟨last, readHigh, admitsHigh⟩ := Kind.ofJson?_literal upper
    exact ⟨.range first last, by simp [readLow, readHigh], shaped, admitsLow, admitsHigh⟩

end Operand

namespace Condition

/-- Operators with what they take are read as such; those left open are passed over. -/
theorem operatorsOf_conditions (field : String) {kind : Kind} {members : Members}
    (conditions : ∀ member ∈ members, ∃ operator ∈ Operator.forKind kind,
      member.1 = operator.symbol ∧ (member.2 = .null ∨ operator.Takes kind member.2)) :
    ∃ entries, operatorsOf field members = .ok entries ∧ ∀ entry ∈ entries,
      entry.1 ∈ Operator.forKind kind ∧ entry.1.Admits kind entry.2 := by
  -- By induction on the members, each of which adds one operator or none.
  induction members with
  | nil => exact ⟨[], rfl, by simp⟩
  | cons member rest ih =>
    obtain ⟨key, value⟩ := member
    obtain ⟨⟨operator, suits, rfl, slot⟩, behind⟩ := List.forall_mem_cons.mp conditions
    obtain ⟨entries, read, all⟩ := ih behind
    have known := operator.ofSymbol?_symbol
    -- An operator that is left open is not read, and leaves the others as they are.
    by_cases empty : value = .null
    · exact ⟨entries, by simp [operatorsOf, known, empty, read], all⟩
    · obtain ⟨operand, own, admitted⟩ := Operand.ofJson_takes field (slot.resolve_left empty)
      refine ⟨(operator, operand) :: entries, ?_, List.forall_mem_cons.mpr ⟨⟨suits, admitted⟩, all⟩⟩
      simp only [operatorsOf, known, if_neg empty, own, read]
      rfl

/-- A condition on fields of a kind is read as one that suits them. -/
theorem ofJson_isCondition (field : String) {kind : Kind} {document : Json}
    (allowed : kind.IsCondition document) :
    ∃ condition, ofJson field document = .ok condition ∧ condition.Suits kind := by
  -- An object is read by its operators, null by itself, and the rest as a literal.
  cases document with
  | object members =>
    obtain ⟨entries, read, all⟩ := operatorsOf_conditions field allowed
    rw [ofJson, read]
    -- An object none of whose keys is an operator places no condition.
    split
    · exact ⟨.operators entries, rfl, all⟩
    · exact ⟨.unconstrained, rfl, trivial⟩
  | null => exact ⟨.equals .null, rfl, .inl rfl⟩
  | array items => cases kind <;> cases allowed
  | _ =>
    have literal : kind.isLiteral _ = true := allowed
    obtain ⟨value, read, admitted⟩ := Kind.ofJson?_literal literal
    exact ⟨.equals value, by simp [ofJson, read], .inr admitted⟩

end Condition

/-- Texts are read as texts. -/
theorem Json.mapM_text? (names : List String) :
    (names.map Json.string).mapM Json.text? = some names := by
  -- By induction on the names, since a text is read as the text that it is.
  induction names with
  | nil => rfl
  | cons name rest ih => rw [List.map_cons, List.mapM_cons, ih]; rfl

/-- A choice of fields of a table is read as one. -/
theorem Projection.ofJson?_isSelection {table : Table} {selection : Json}
    (chosen : table.IsSelection selection) :
    ∃ projection, Projection.ofJson? selection = some projection ∧ projection.Within table := by
  -- The star and a list of names are the two ways to choose.
  rcases chosen with rfl | ⟨names, rfl, -, known⟩
  · exact ⟨.all, rfl, trivial⟩
  · refine ⟨.ofNames names, by rw [Projection.ofJson?, Json.mapM_text?]; rfl, ?_⟩
    -- A list that has the star among its names is all of the fields.
    unfold Projection.ofNames
    split
    · trivial
    · rename_i starless
      intro name listed
      exact (known name listed).resolve_right fun star => starless (star ▸ listed)

namespace Search

/-- A text or a number can be looked for in chosen fields. -/
theorem valueOf?_textOrNumber {document : Json} (wanted : document.isTextOrNumber = true) :
    ∃ value, valueOf? document = some value ∧ value.isPattern = true := by
  -- A text and a number are literals, whether the number fits a word or not.
  cases document with
  | integer number =>
    cases word : number.toInt64? <;> simp [valueOf?, Scalar.ofJson?, word, Scalar.isPattern]
  | string text => exact ⟨_, rfl, rfl⟩
  | float number => exact ⟨_, rfl, rfl⟩
  | _ => simp [Json.isTextOrNumber] at wanted

/-- A search in a table is read as one. -/
theorem ofJson_isSearch {table : Table} {document : Json} (wellKeyed : document.isWellKeyed = true)
    (allowed : table.IsSearch document) :
    ∃ search, ofJson document = .ok search ∧ search.Suits table := by
  -- An object chooses its fields, and all else is looked for everywhere.
  cases document with
  | object members =>
    obtain ⟨distinct, -⟩ := Json.isWellKeyed_object.mp wellKeyed
    obtain ⟨selection, content, same, chosen, wanted⟩ := allowed
    obtain ⟨fields, readFields, within⟩ := Projection.ofJson?_isSelection chosen
    obtain ⟨value, readValue, pattern⟩ := valueOf?_textOrNumber wanted
    -- With each key once, the members found are the ones that the language asks for.
    have first : Members.get? members "selectedFields" = some selection :=
      Members.get?_of_mem distinct (same.mem_iff.mpr (by simp))
    have second : Members.get? members "value" = some content :=
      Members.get?_of_mem distinct (same.mem_iff.mpr (by simp))
    refine ⟨.within fields value, ?_, within, pattern⟩
    simp only [ofJson, first, second, pure_bind, readFields, Option.bind_some, readValue]
    rfl
  | array items => cases allowed
  | null => exact ⟨_, rfl, trivial⟩
  | _ => exact ⟨_, rfl, trivial⟩

end Search

namespace Clause

/-- A clause on a table is read as one whose entries suit the table. -/
theorem ofJson_isClause {table : Table} {document : Json} (wellKeyed : document.isWellKeyed = true)
    (allowed : table.IsClause document) :
    ∃ clause, ofJson document = .ok clause ∧ ∀ entry ∈ clause, Entry.Suits table entry := by
  -- The members are read one by one, each by what its key says it is.
  obtain ⟨members, rfl, each⟩ := allowed
  obtain ⟨-, values⟩ := Json.isWellKeyed_object.mp wellKeyed
  refine Result.mapM_exists fun ⟨key, value⟩ listed => ?_
  have member := each _ listed
  show ∃ entry, entryOf key value = .ok entry ∧ Entry.Suits table entry
  unfold Table.IsMember at member
  unfold entryOf
  split at member
  · rename_i searched
    obtain ⟨search, read, suits⟩ := Search.ofJson_isSearch (values _ listed) member
    exact ⟨.search search, by rw [if_pos (show key = searchKey from searched), read]; rfl, suits⟩
  · rename_i other
    obtain ⟨field, declared, named, condition⟩ := member
    obtain ⟨read, own, suits⟩ := Condition.ofJson_isCondition key condition
    exact ⟨.field key read, by rw [if_neg (show ¬ key = searchKey from other), own]; rfl, field,
      declared, named, suits⟩

end Clause

namespace Filter

/-- A filter on a table is read as one whose entries suit the table. -/
theorem ofJson_isFilter {table : Table} {document : Json} (wellKeyed : document.isWellKeyed = true)
    (allowed : table.IsFilter document) :
    ∃ filter, ofJson document = .ok filter ∧ filter.Suits table := by
  -- One clause stands by itself, and several stand in a list.
  rcases allowed with single | ⟨choice, rfl, -, each⟩
  · obtain ⟨clause, read, suits⟩ := Clause.ofJson_isClause wellKeyed single
    obtain ⟨members, rfl, -⟩ := single
    have whole : ofJson (.object members) = .ok (.clause clause) := by
      show (Clause.ofJson (.object members)).map Filter.clause = _
      rw [read]
      rfl
    refine ⟨.clause clause, whole, fun own listed => ?_⟩
    rw [List.mem_singleton.mp listed]
    exact suits
  · have values := Json.isWellKeyed_array.mp wellKeyed
    obtain ⟨clauses, read, suits⟩ := Result.mapM_exists fun clause listed =>
      Clause.ofJson_isClause (values clause listed) (each clause listed)
    exact ⟨.anyOf clauses, by rw [ofJson, read]; rfl, suits⟩

end Filter

end RowFilter
