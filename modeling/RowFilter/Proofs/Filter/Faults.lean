import RowFilter.Proofs.Filter.Admission
import RowFilter.Proofs.Filter.Reading
import RowFilter.Schema.Validation

/-! Filters fail to compile exactly for their faults, and filters that are read have none. -/

namespace RowFilter

/-- Whether an operator is given an operand of its shape; a pattern has to be a text or a number. -/
def Operator.fits (operator : Operator) (operand : Operand) : Bool :=
  -- A pattern is the one shape that also looks at the literal.
  match operator.shape, operand with
  | .scalar, .scalar _ => true
  | .pattern, .scalar literal => literal.isPattern
  | .list, .list _ => true
  | .range, .range _ _ => true
  | .flag, .flag _ => true
  | _, _ => false

/-- What is wrong with an operator on a field, if its operand does not fit. -/
def Operator.fault? (operator : Operator) (field : String) (operand : Operand) :
    Option FilterError :=
  if operator.fits operand then none
  else
    match operator.shape, operand with
    -- A literal is of the right shape for a pattern, but may be none.
    | .pattern, .scalar _ =>
      some (.invalidOperand field operator.symbol "expected a string or number pattern")
    | shape, _ =>
      some (.invalidOperand field operator.symbol
        s!"operand does not match the {shape.title} shape")

/-- What is wrong with the operators of a condition on a field, in order. -/
def Condition.faults (field : String) : Condition → List FilterError
  -- Equality takes every literal, and so only operators can be at fault.
  | .operators entries =>
    entries.flatMap fun (operator, operand) => (operator.fault? field operand).toList
  | .equals _ | .unconstrained => []

/-- What is wrong with a search: chosen fields can be searched for texts and numbers only. -/
def Search.fault? : Search → Option FilterError
  -- Only chosen fields are at fault: what does not suit any field is not searched for at all.
  | .within _ literal => if literal.isPattern then none else some (.invalidSearch notSearchable)
  | .everywhere _ => none

/-- What is wrong with an entry of a clause. -/
def Entry.faults : Entry → List FilterError
  -- A fault in a condition is told with the name of its field, that in a search without.
  | .field name condition => condition.faults name
  | .search term => term.fault?.toList

/-- What is wrong with a filter, by its clauses, their entries and the operators of these. -/
def Filter.faults (filter : Filter) : List FilterError :=
  -- The order is that in which they are written, clause by clause.
  filter.clauses.flatMap (List.flatMap Entry.faults)

/-- Whether an entry has an operator whose operand does not fit, or searches chosen fields for what
is neither a text nor a number. -/
def Entry.IsFaulty : Entry → Prop
  -- This says it without an order, for all that matters is whether there is a fault.
  | .field _ (.operators entries) => ∃ entry ∈ entries, entry.1.fits entry.2 = false
  | .search (.within _ literal) => literal.isPattern = false
  | _ => False

/-- Whether an entry of a filter is faulty. -/
def Filter.IsFaulty (filter : Filter) : Prop :=
  -- Every branch counts, also those that are left out of the choice later on.
  ∃ clause ∈ filter.clauses, ∃ entry ∈ clause, Entry.IsFaulty entry

open Result

namespace Operator

/-- An operator is at fault exactly if its operand does not fit. -/
theorem fault?_eq_none {operator : Operator} {field : String} {operand : Operand} :
    operator.fault? field operand = none ↔ operator.fits operand = true := by
  -- Both go by whether the operand fits, and an operand that does not has a fault of its own.
  unfold fault?
  split
  · simp [*]
  · rename_i misfit
    split <;> simp [misfit]

/-- An operator on a field compiles unless its operand does not fit. -/
theorem apply_failsFirst (operator : Operator) (field : String) (operand : Operand)
    (kind : Option Kind) :
    FailsFirst (operator.apply field operand kind) (operator.fault? field operand).toList := by
  -- Each shape takes the operand that is made for it, and refuses the four others.
  unfold apply fault? fits
  cases shaped : operator.shape <;> cases operand
  case pattern.scalar literal =>
    -- The literals that are no patterns are those without a text to look for.
    cases literal <;>
      simp [applyPattern, Scalar.patternText?, Scalar.isPattern, FailsFirst, Except.map]
  all_goals simp [FailsFirst, mismatch, shaped]

end Operator

namespace Condition

/-- The operators on a field fail with the fault of the first operator that has one. -/
theorem compileOperators_failsFirst (field : String) (kind : Option Kind)
    (entries : List (Operator × Operand)) :
    FailsFirst (compileOperators field kind entries) (faults field (.operators entries)) := by
  -- By induction on the operators, each of which is applied before the rest.
  induction entries with
  | nil => exact rfl
  | cons entry rest ih =>
    obtain ⟨operator, operand⟩ := entry
    have parts : faults field (.operators ((operator, operand) :: rest))
        = (operator.fault? field operand).toList ++ faults field (.operators rest) :=
      List.flatMap_cons
    rw [compileOperators, parts]
    exact (operator.apply_failsFirst field operand kind).bind fun first =>
      ih.map (first.toList ++ ·)

/-- A condition fails with its first fault. -/
theorem compile_failsFirst (table : Table) (field : String) (condition : Condition) :
    FailsFirst (condition.compile table field) (condition.faults field) := by
  -- A literal stands for the operator that compares with it.
  cases condition with
  | equals literal =>
    -- Equality takes every literal.
    have one := compileOperators_failsFirst field (table.kindOf? field) [(.equal, .scalar literal)]
    exact one
  | operators entries => exact compileOperators_failsFirst field (table.kindOf? field) entries
  | unconstrained => exact rfl

end Condition

/-- A search fails exactly if it looks in chosen fields for what cannot be looked for there. -/
theorem Search.compile_failsFirst (table : Table) (search : Search) :
    FailsFirst (search.compile table) search.fault?.toList := by
  -- A search everywhere never fails, and one within fields depends on its literal alone.
  cases search with
  | everywhere literal =>
    by_cases truthy : literal.isTruthy = true <;> simp [compile, fault?, truthy, FailsFirst]
  | within fields literal =>
    cases literal with
    | text content =>
      by_cases empty : content = "" <;>
        simp [compile, fault?, Scalar.isPattern, empty, FailsFirst]
    | _ => simp [compile, fault?, Scalar.isPattern, FailsFirst]

namespace Clause

/-- The entries of a clause fail with the first fault of the first entry that has one. -/
theorem compileEntries_failsFirst (table : Table) (clause : Clause) :
    FailsFirst (compileEntries table clause) (clause.flatMap Entry.faults) := by
  -- By induction on the entries; an entry fails before any that stands behind it.
  induction clause with
  | nil => exact rfl
  | cons entry rest ih =>
    have own : FailsFirst (compileEntry table entry) entry.faults := by
      cases entry with
      | field name condition => exact condition.compile_failsFirst table name
      | search term => exact (term.compile_failsFirst table).map Option.toList
    rw [compileEntries, List.flatMap_cons]
    exact own.bind fun first => ih.map (first ++ ·)

end Clause

namespace Filter

/-- A filter fails with its first fault. -/
theorem compile_failsFirst (table : Table) (filter : Filter) :
    FailsFirst (filter.compile table) filter.faults := by
  -- A clause fails as its entries do, for joining what they compile to cannot fail.
  have each (clause : Clause) :
      FailsFirst (Clause.compile table clause) (clause.flatMap Entry.faults) :=
    (Clause.compileEntries_failsFirst table clause).map Predicate.all
  cases filter with
  | clause entries =>
    rw [faults, clauses, List.flatMap_singleton]
    exact each entries
  | anyOf choice => exact (FailsFirst.mapM choice each).map _

end Filter

/-- What is looked for in chosen fields is read from a text or a number. -/
theorem Search.isTextOrNumber_of_valueOf? {content : Json} {literal : Scalar}
    (given : valueOf? content = some literal) : content.isTextOrNumber = true := by
  -- The other documents are not looked at any further.
  cases content <;> first | rfl | cases given

/-- What can be looked for in chosen fields is read as it is read elsewhere. -/
theorem Search.valueOf?_of_isTextOrNumber {document : Json}
    (wanted : document.isTextOrNumber = true) : valueOf? document = Scalar.ofJson? document := by
  -- Texts and numbers are read in one way only.
  cases document <;> first | rfl | cases wanted

/-- A literal that is read from a text or a number is a pattern. -/
theorem Scalar.isPattern_of_ofJson? {document : Json} {literal : Scalar}
    (wanted : document.isTextOrNumber = true) (read : ofJson? document = some literal) :
    literal.isPattern = true := by
  -- What is found by the search and what is read are one literal.
  obtain ⟨value, found, pattern⟩ := Search.valueOf?_textOrNumber wanted
  rw [Search.valueOf?_of_isTextOrNumber wanted, read] at found
  cases found
  exact pattern

/-- What is looked for in chosen fields is a text or a number. -/
theorem Search.isPattern_of_valueOf? {content : Json} {literal : Scalar}
    (given : valueOf? content = some literal) : literal.isPattern = true := by
  -- The search reads no other literals than the rest of the language does.
  have wanted := isTextOrNumber_of_valueOf? given
  rw [valueOf?_of_isTextOrNumber wanted] at given
  exact Scalar.isPattern_of_ofJson? wanted given

/-- An operand that is read fits its operator. -/
theorem Operator.fits_of_ofJson {field : String} {operator : Operator} {value : Json}
    {operand : Operand} (read : Operand.ofJson field operator value = .ok operand) :
    operator.fits operand = true := by
  -- The reader asks for the same shape that the compiler asks for.
  cases Operand.ofJson_iff.mp read with
  | scalar shape => simp [fits, shape]
  | pattern shape wanted own => simp [fits, shape, Scalar.isPattern_of_ofJson? wanted own]
  | list shape => simp [fits, shape]
  | range shape => simp [fits, shape]
  | flag shape => simp [fits, shape]

/-- A condition that is read has no faults. -/
theorem Condition.faults_of_ofJson {field : String} {document : Json} {condition : Condition}
    (read : ofJson field document = .ok condition) : condition.faults field = [] := by
  -- Only an object has operators, and each of these was read for its own operand.
  rcases ofJson_ok read with ⟨literal, -, rfl⟩ | ⟨members, -, entries, each, rfl⟩ | rfl
  · rfl
  · obtain ⟨sources, -, sourced⟩ := operatorsOf_ok each
    refine List.flatMap_eq_nil_iff.mpr fun entry listed => ?_
    obtain ⟨source, -, own⟩ := exists_of_forall₂ sourced listed
    have fits : entry.1.fits entry.2 = true := Operator.fits_of_ofJson own.operand
    have silent : entry.1.fault? field entry.2 = none := Operator.fault?_eq_none.mpr fits
    exact congrArg Option.toList silent
  · rfl

/-- An entry has a fault exactly if it is faulty. -/
theorem Entry.faults_ne_nil {entry : Entry} : entry.faults ≠ [] ↔ entry.IsFaulty := by
  -- Of the kinds of entries, only operators and searches in chosen fields can be at fault.
  cases entry with
  | field name condition =>
    cases condition with
    | operators entries =>
      simp [faults, Condition.faults, IsFaulty, Operator.fault?_eq_none]
    | _ => simp [faults, Condition.faults, IsFaulty]
  | search term =>
    cases term <;> simp [faults, Search.fault?, IsFaulty]

/-- An entry that is read has no faults. -/
theorem Entry.faults_of_entryOf {key : String} {value : Json} {entry : Entry}
    (read : Clause.entryOf key value = .ok entry) : entry.faults = [] := by
  -- A search that is read looks for a pattern, and a condition has been seen to.
  rcases Clause.entryOf_ok read with ⟨term, -, searched, rfl⟩ | ⟨condition, -, own, rfl⟩
  · rcases Search.ofJson_ok searched with
      ⟨literal, -, rfl⟩ | ⟨_, _, content, fields, literal, -, -, -, -, given, rfl⟩
    · rfl
    · simp [faults, Search.fault?, Search.isPattern_of_valueOf? given]
  · exact Condition.faults_of_ofJson own

namespace Filter

/-- A filter that is read has no faults. -/
theorem faults_of_ofJson {document : Json} {filter : Filter} (read : ofJson document = .ok filter) :
    filter.faults = [] := by
  -- It is so for each clause, whether it is the only one or one of several.
  have each {document : Json} {clause : Clause} (own : Clause.ofJson document = .ok clause) :
      clause.flatMap Entry.faults = [] := by
    obtain ⟨members, -, entries⟩ := Clause.ofJson_ok own
    refine List.flatMap_eq_nil_iff.mpr fun entry listed => ?_
    obtain ⟨member, -, read⟩ := exists_of_forall₂ entries listed
    exact Entry.faults_of_entryOf read
  refine List.flatMap_eq_nil_iff.mpr fun clause listed => ?_
  rcases ofJson_ok read with ⟨single, own, rfl⟩ | ⟨items, choice, -, others, rfl⟩
  · rw [List.mem_singleton.mp listed]
    exact each own
  · obtain ⟨item, -, own⟩ := exists_of_forall₂ others listed
    exact each own

/-- Whether a filter comes out of a reader: of a document, of a text, of a payload that is checked
against a table, or of a part of a larger text. -/
inductive IsRead (filter : Filter) : Prop where
  | document {document : Json} (read : ofJson document = .ok filter)
  | text {text : String} (read : parse text = .ok filter)
  | payload {table : Table} {payload : Json} (read : table.validateFilter payload = .ok filter)
  | draft {draft : Draft} (read : decode draft = .ok filter)

/-- Every reader of filters reads a document. -/
theorem IsRead.ofJson {filter : Filter} (read : filter.IsRead) :
    ∃ document, Filter.ofJson document = .ok filter := by
  -- By the readers, each of which ends with reading a document.
  cases read with
  | document read => exact ⟨_, read⟩
  | @text text read =>
    unfold parse at read
    split at read
    · cases read
    split at read
    · cases read
    split at read
    · cases read
    exact ⟨_, read⟩
  | payload read =>
    obtain ⟨-, -, own⟩ := bind_ok read
    exact ⟨_, mapError_ok own⟩
  | draft read =>
    obtain ⟨document, -, own⟩ := bind_ok read
    exact ⟨document, mapError_ok own⟩

/-- There are faults exactly if an entry is faulty. -/
theorem faults_ne_nil {filter : Filter} : filter.faults ≠ [] ↔ filter.IsFaulty := by
  -- The faults are those of the entries, and an entry has one exactly if it is faulty.
  simp only [faults, IsFaulty, ← Entry.faults_ne_nil, ne_eq, List.flatMap_eq_nil_iff, not_forall,
    exists_prop]

/-- A filter fails to compile, on every table alike, exactly if it has an operator whose operand
does not fit or a search in chosen fields for what cannot be looked for there; it fails with the
first such fault, and what comes out of a reader has none and compiles. -/
theorem compile_faults (filter : Filter) :
    (∀ table, (∃ error, filter.compile table = .error error) ↔ filter.IsFaulty) ∧
    (∀ table error, filter.compile table = .error error ↔ filter.faults.head? = some error) ∧
    (filter.IsRead →
      ¬ filter.IsFaulty ∧ ∀ table, ∃ predicate, filter.compile table = .ok predicate) := by
  -- All three parts follow from the first fault being the error.
  have first (table : Table) (error : FilterError) :
      filter.compile table = .error error ↔ filter.faults.head? = some error :=
    (compile_failsFirst table filter).error_iff error
  refine ⟨fun table => ?_, first, fun read => ?_⟩
  · rw [← faults_ne_nil]
    simp only [first, ne_eq, ← List.head?_eq_none_iff, ← Option.isSome_iff_exists,
      ← Option.isSome_iff_ne_none]
  · obtain ⟨document, own⟩ := read.ofJson
    have silent : filter.faults = [] := faults_of_ofJson own
    refine ⟨fun faulty => faults_ne_nil.mpr faulty silent, fun table => ?_⟩
    exact (compile_failsFirst table filter).ok_iff.mpr silent

/-- A range that has been read compiles, and of a pattern that is null and a search for a truth
value the pattern comes first. -/
theorem compile_faults_books :
    let document : Json := .object [("id", .object [("$between",
      .array [.integer ⟨1, by decide⟩, .integer ⟨5, by decide⟩])])]
    let faulty : Filter := .anyOf
      [[.field "title" (.operators [(.isNull, .flag false), (.like, .scalar .null)])],
        [.search (.within .all (.bool true))]]
    (∃ filter, ofJson document = .ok filter ∧ ¬ filter.IsFaulty ∧
      ∃ predicate, filter.compile .books = .ok predicate) ∧
    faulty.IsFaulty ∧ faulty.compile .books
      = .error (.invalidOperand "title" "$like" "expected a string or number pattern") := by
  -- The one filter is read from a document, and the other one is made as a value.
  intro document faulty
  constructor
  · obtain ⟨filter, read⟩ : ∃ filter, ofJson document = .ok filter := ⟨_, rfl⟩
    obtain ⟨sound, compiles⟩ := (compile_faults filter).2.2 (.document read)
    exact ⟨filter, read, sound, compiles .books⟩
  · obtain ⟨failing, first, -⟩ := compile_faults faulty
    have failed := (first .books _).mpr (rfl : faulty.faults.head? = some
      (.invalidOperand "title" "$like" "expected a string or number pattern"))
    exact ⟨(failing .books).mp ⟨_, failed⟩, failed⟩

end Filter

end RowFilter
