import RowFilter.Proofs.Filter.Admission
import RowFilter.Proofs.Predicate.Leaves

/-! A filter that suits a table compiles, and its tests have the types of the fields they test. -/

namespace RowFilter

open Predicate

/-- Whether a test is one of a field: it has values of the type of the field, which are points in
time exactly if the field has dates. A pattern is a text for fields of every kind. -/
def Predicate.Fits (field : Field) : Predicate → Prop
  -- The constant for no row fits every field, since a list of nothing but null is such a test.
  | .compare column _ value temporal =>
    column = field.name ∧ field.kind.binds value = true ∧ temporal = (field.kind = .date : Bool)
  | .isNull column _ => column = field.name
  | .oneOf column values _ temporal =>
    column = field.name ∧ values ≠ [] ∧ (∀ value ∈ values, field.kind.binds value = true) ∧
      temporal = (field.kind = .date : Bool)
  | .between column low high _ temporal =>
    column = field.name ∧ field.kind.binds low = true ∧ field.kind.binds high = true ∧
      temporal = (field.kind = .date : Bool)
  | .like column _ _ _ => column = field.name
  | .never => True
  | .all _ | .any _ => False

namespace Predicate

variable {field : Field} {leaf : Predicate}

/-- A test of a field stands by itself. -/
theorem Fits.leaves_eq (fits : leaf.Fits field) : leaf.leaves = [leaf] := by
  -- A connective is no test of a field, and all others have no parts.
  cases leaf with
  | all parts => cases fits
  | any parts => cases fits
  | _ => rfl

/-- A test of a field constrains rows. -/
theorem Fits.isEmpty_eq (fits : leaf.Fits field) : leaf.isEmpty = false := by
  -- Only a list may be without constraints, and one that fits has a value.
  cases leaf with
  | all parts => cases fits
  | any parts => cases fits
  | oneOf column values negated temporal =>
    obtain ⟨-, some, -⟩ := fits
    cases values with
    | nil => exact absurd rfl some
    | cons first rest => simp [isEmpty]
  | _ => rfl

/-- A test of a field has no other column. -/
theorem Fits.column_eq (fits : leaf.Fits field) {column : String}
    (tested : column ∈ leaf.columns) : column = field.name := by
  -- By the kinds of tests, each of which names one column or none.
  cases leaf with
  | all parts => cases fits
  | any parts => cases fits
  | compare own comparison value temporal => exact (List.mem_singleton.mp tested).trans fits.1
  | isNull own negated => exact (List.mem_singleton.mp tested).trans fits
  | oneOf own values negated temporal =>
    cases values with
    | nil => simp [columns] at tested
    | cons first rest => exact (List.mem_singleton.mp tested).trans fits.1
  | between own low high negated temporal => exact (List.mem_singleton.mp tested).trans fits.1
  | like own pattern negated cast => exact (List.mem_singleton.mp tested).trans fits
  | never => simp [columns] at tested

end Predicate

namespace Kind

variable {kind : Kind} {literal : Scalar}

/-- A literal of a kind binds a value of the kind. -/
theorem toParameter?_admits (admitted : kind.admits literal = true) :
    ∃ value, literal.toParameter? = some value ∧ kind.binds value = true :=
  -- To admit a literal is to bind what it is bound as.
  (Option.any_eq_true _ _).mp admitted

/-- A literal of a kind is a point in time exactly if the kind is that of dates. -/
theorem isTemporal_admits (admitted : kind.admits literal = true) :
    literal.isTemporal (some kind) = (kind = .date : Bool) := by
  -- Only texts can be points in time, and of the kinds that take texts only dates are.
  cases kind <;> cases literal <;>
    simp_all [admits, Scalar.toParameter?, binds, Scalar.isTemporal]

end Kind

namespace Operator

variable {field : Field} {operator : Operator}

/-- A comparison with a literal of the kind of a field is a test of the field. -/
theorem fits_applyScalar {literal : Scalar} (admitted : field.kind.admits literal = true) :
    (operator.applyScalar field.name literal field.kind).Fits field := by
  -- A literal of a kind is not null, so that it binds a value.
  obtain ⟨value, bound, typed⟩ := Kind.toParameter?_admits admitted
  have temporal := Kind.isTemporal_admits admitted
  unfold applyScalar
  split
  · rfl
  · rfl
  · rw [comparing, bound]
    exact ⟨rfl, typed, temporal⟩

/-- A list of literals of the kind of a field is a test of the field, if it is one at all. -/
theorem fits_applyList {items : List Scalar} {negated : Bool} {leaf : Predicate}
    (admitted : ∀ item ∈ items, field.kind.admits item = true)
    (applied : applyList field.name items negated field.kind = some leaf) : leaf.Fits field := by
  -- What is left of the items is bound, and each of them is of the kind.
  have typed : ∀ value ∈ items.filterMap Scalar.toParameter?, field.kind.binds value = true := by
    intro value listed
    obtain ⟨item, member, bound⟩ := List.mem_filterMap.mp listed
    obtain ⟨own, same, binds⟩ := Kind.toParameter?_admits (admitted item member)
    rw [bound] at same
    cases same
    exact binds
  unfold applyList at applied
  split at applied
  · cases negated <;> cases applied
    trivial
  · rename_i values some
    cases applied
    refine ⟨rfl, some, typed, ?_⟩
    -- There is an item, and each of them decides whether the list is about time.
    have each : ∀ item ∈ items, item.isTemporal field.kind = (field.kind = .date : Bool) :=
      fun item member => Kind.isTemporal_admits (admitted item member)
    cases items with
    | nil => exact absurd rfl some
    | cons first rest =>
      have own := each first (by simp)
      cases timed : (field.kind = .date : Bool) with
      | true => rw [List.any_cons, own, timed, Bool.true_or]
      | false =>
        rw [List.any_eq_false]
        intro item member
        rw [each item member, timed]
        exact Bool.false_ne_true

/-- A range of literals of the kind of a field is a test of the field. -/
theorem fits_applyRange {low high : Scalar} (lower : field.kind.admits low = true)
    (upper : field.kind.admits high = true) (negated : Bool) :
    (applyRange field.name low high negated field.kind).Fits field := by
  -- Both ends are bound, and both of them are points in time or neither is.
  obtain ⟨first, boundLow, typedLow⟩ := Kind.toParameter?_admits lower
  obtain ⟨last, boundHigh, typedHigh⟩ := Kind.toParameter?_admits upper
  rw [applyRange, boundLow, boundHigh]
  refine ⟨rfl, typedLow, typedHigh, ?_⟩
  rw [Kind.isTemporal_admits lower, Kind.isTemporal_admits upper, Bool.or_self]

/-- An operator that is given what it takes on a field can be applied. -/
theorem apply_admits {operand : Operand} (admits : operator.Admits field.kind operand) :
    ∃ result, operator.apply field.name operand field.kind = .ok result := by
  -- By the operand, which fixes the shape of the operator.
  unfold apply
  -- Only a pattern can fail, and not on what can be written as a text.
  cases operand with
  | scalar literal =>
    rcases admits with ⟨shaped, -⟩ | ⟨shaped, pattern⟩
    · exact ⟨_, by rw [shaped]⟩
    · obtain ⟨text, written⟩ : ∃ text, literal.patternText? = some text := by
        cases literal <;> simp_all [Scalar.isPattern, Scalar.patternText?]
      exact ⟨_, by simp only [shaped, applyPattern, written]; rfl⟩
  | list items => exact ⟨_, by rw [admits.1]⟩
  | range low high => exact ⟨_, by rw [admits.1]⟩
  | flag wanted => exact ⟨_, by rw [show operator.shape = .flag from admits]⟩

/-- What an operator makes of what it takes on a field is a test of the field. -/
theorem fits_apply {operand : Operand} {leaf : Predicate}
    (admits : operator.Admits field.kind operand)
    (applied : operator.apply field.name operand field.kind = .ok (some leaf)) :
    leaf.Fits field := by
  -- By the operand again, and each shape makes a test of its own sort.
  unfold apply at applied
  cases operand with
  | scalar literal =>
    rcases admits with ⟨shaped, admitted⟩ | ⟨shaped, pattern⟩
    · rw [shaped] at applied
      cases applied
      exact fits_applyScalar admitted
    · rw [shaped] at applied
      obtain ⟨predicate, made, same⟩ := Result.map_ok applied
      cases same
      unfold applyPattern at made
      split at made
      · cases made
        rfl
      · cases made
  | list items =>
    rw [admits.1] at applied
    exact fits_applyList admits.2 (Except.ok.inj applied)
  | range low high =>
    rw [admits.1] at applied
    cases applied
    exact fits_applyRange admits.2.1 admits.2.2 _
  | flag wanted =>
    rw [show operator.shape = .flag from admits] at applied
    cases applied
    rfl

end Operator

/-- A field of a table is the one that its name leads to. -/
theorem Table.kindOf?_field {table : Table} {field : Field} (declared : field ∈ table.fields) :
    table.kindOf? field.name = some field.kind := by
  -- There is a field of that name, namely the one in question.
  have some : (table.fields.find? (·.name == field.name)).isSome :=
    List.find?_isSome.mpr ⟨field, declared, by simp⟩
  obtain ⟨other, found⟩ := Option.isSome_iff_exists.mp some
  -- No two fields have the same name.
  have same : other = field := List.inj_on_of_nodup_map table.distinct
    (List.mem_of_find?_eq_some found) declared (by simpa using List.find?_some found)
  rw [kindOf?, found, same]
  rfl

namespace Condition

/-- The operators that a condition uses, with what they are given. -/
def uses : Condition → List (Operator × Operand)
  -- A literal by itself stands for the operator that compares with it.
  | .equals literal => [(.equal, .scalar literal)]
  | .operators entries => entries
  | .unconstrained => []

/-- A condition compiles to what its operators compile to. -/
theorem compile_eq_uses (condition : Condition) (table : Table) (field : String) :
    condition.compile table field
      = compileOperators field (table.kindOf? field) condition.uses := by
  -- The compiler treats a literal in that way too.
  cases condition <;> rfl

/-- Operators that can all be applied compile, and each test is made by one of them. -/
theorem compileOperators_ok {field : String} {kind : Option Kind}
    {entries : List (Operator × Operand)}
    (each : ∀ used ∈ entries, ∃ result, used.1.apply field used.2 kind = .ok result) :
    ∃ leaves, compileOperators field kind entries = .ok leaves ∧
      ∀ leaf ∈ leaves, ∃ used ∈ entries, used.1.apply field used.2 kind = .ok (some leaf) := by
  -- By induction on the operators, each of which makes one test or none.
  induction entries with
  | nil => exact ⟨[], rfl, by simp⟩
  | cons entry rest ih =>
    obtain ⟨⟨result, applied⟩, behind⟩ := List.forall_mem_cons.mp each
    obtain ⟨others, compiled, made⟩ := ih behind
    refine ⟨result.toList ++ others, by rw [compileOperators, applied, compiled]; rfl, ?_⟩
    intro leaf listed
    rcases List.mem_append.mp listed with own | later
    · have same : result = some leaf := Option.mem_toList.mp own
      exact ⟨entry, by simp, same ▸ applied⟩
    · obtain ⟨used, member, own⟩ := made leaf later
      exact ⟨used, List.mem_cons_of_mem _ member, own⟩

variable {field : Field} {condition : Condition}

/-- A condition that suits a field uses operators of its kind, and all of them can be applied. -/
theorem uses_suits (suits : condition.Suits field.kind) : ∀ used ∈ condition.uses,
    used.1 ∈ Operator.forKind field.kind ∧
    (∃ result, used.1.apply field.name used.2 field.kind = .ok result) ∧
    ∀ leaf, used.1.apply field.name used.2 field.kind = .ok (some leaf) → leaf.Fits field := by
  -- The operators of an object suit the field one by one.
  cases condition with
  | equals literal =>
    -- A literal by itself is compared for equality, which fields of every kind allow.
    intro used listed
    rw [List.mem_singleton.mp listed]
    have suited : Operator.equal ∈ Operator.forKind field.kind := by
      cases field.kind <;> decide
    refine ⟨suited, ⟨_, rfl⟩, fun leaf applied => ?_⟩
    cases applied
    rcases suits with rfl | admitted
    · rfl
    · exact Operator.fits_applyScalar admitted
  | operators entries =>
    intro used listed
    obtain ⟨suited, admits⟩ := suits used listed
    exact ⟨suited, Operator.apply_admits admits, fun leaf => Operator.fits_apply admits⟩
  | unconstrained => exact fun used listed => absurd listed List.not_mem_nil

/-- A condition that suits a field of a table compiles to tests of the field, each of which is made
by one of its operators. -/
theorem compile_suits {table : Table} (declared : field ∈ table.fields)
    (suits : condition.Suits field.kind) :
    ∃ leaves, condition.compile table field.name = .ok leaves ∧
      ∀ leaf ∈ leaves, ∃ used ∈ condition.uses, used.1 ∈ Operator.forKind field.kind ∧
        used.1.apply field.name used.2 field.kind = .ok (some leaf) ∧ leaf.Fits field := by
  -- What suits is known of each operator, and the compiler runs through all of them.
  have told := uses_suits suits
  rw [compile_eq_uses, Table.kindOf?_field declared]
  obtain ⟨leaves, compiled, made⟩ := compileOperators_ok fun used listed => (told used listed).2.1
  refine ⟨leaves, compiled, fun leaf listed => ?_⟩
  obtain ⟨used, member, applied⟩ := made leaf listed
  obtain ⟨suited, -, fits⟩ := told used member
  exact ⟨used, member, suited, applied, fits leaf applied⟩

end Condition

/-- Whether a test constrains rows, and by columns of a table only. -/
def Predicate.Concerns (table : Table) (leaf : Predicate) : Prop :=
  -- A connective is not asked here, as only tests are.
  leaf.isEmpty = false ∧ ∀ column ∈ leaf.columns, column ∈ table.fieldNames

namespace Search

/-- A choice of fields of a table covers fields of the table only. -/
theorem resolve_within {table : Table} {fields : Projection} (within : fields.Within table) :
    ∀ column ∈ fields.resolve table, column ∈ table.fieldNames := by
  -- The star covers the fields of the table, and no more.
  cases fields with
  | all => exact fun column listed => listed
  | columns names => exact within

/-- A choice between tests of one column each concerns a table that has all of the columns. -/
theorem concerns_any_map {α : Type} {table : Table} {items : List α} {test : α → Predicate}
    {column : α → String} (known : ∀ item ∈ items, column item ∈ table.fieldNames)
    (single : ∀ item, (test item).leaves = [test item] ∧ (test item).isEmpty = false ∧
      (test item).columns = [column item]) :
    ∀ leaf ∈ (some (Predicate.any (items.map test))).toList.flatMap leaves,
      leaf.Concerns table := by
  -- A test that is listed comes from an item, and has the column of the item.
  intro leaf listed
  -- Each test of the choice is the one for some item.
  simp only [Option.toList_some, List.flatMap_singleton, leaves_any, List.flatMap_map,
    List.mem_flatMap] at listed
  obtain ⟨item, member, own⟩ := listed
  obtain ⟨lone, constrains, tested⟩ := single item
  rw [lone, List.mem_singleton] at own
  rw [own, Concerns, tested]
  exact ⟨constrains, fun other same => List.mem_singleton.mp same ▸ known item member⟩

/-- A search that suits a table compiles, and its tests concern the table. -/
theorem compile_suits {table : Table} {search : Search} (suits : search.Suits table) :
    ∃ result, search.compile table = .ok result ∧
      ∀ leaf ∈ result.toList.flatMap leaves, leaf.Concerns table := by
  -- A search makes a choice over columns of the table, or nothing.
  cases search with
  | everywhere literal =>
    rw [compile]
    split
    · exact ⟨_, rfl, concerns_any_map (fun field declared => List.mem_map_of_mem declared)
        fun field => ⟨rfl, rfl, rfl⟩⟩
    · exact ⟨none, rfl, by simp⟩
  | within fields literal =>
    obtain ⟨within, pattern⟩ := suits
    have known := resolve_within within
    cases literal with
    | text text =>
      rw [compile]
      split
      · exact ⟨none, rfl, by simp⟩
      · exact ⟨_, rfl, concerns_any_map known fun column => ⟨rfl, rfl, rfl⟩⟩
    | int number => exact ⟨_, rfl, concerns_any_map known fun column => ⟨rfl, rfl, rfl⟩⟩
    | float number => exact ⟨_, rfl, concerns_any_map known fun column => ⟨rfl, rfl, rfl⟩⟩
    | _ => simp [Scalar.isPattern] at pattern

end Search

/-- The tests that an entry of a clause compiles to; an entry that does not compile has none. -/
def Entry.leaves (table : Table) (entry : Entry) : List Predicate :=
  -- Only the tests count here, so that connectives between them are taken apart.
  match Clause.compileEntry table entry with
  | .ok parts => parts.flatMap Predicate.leaves
  | .error _ => []

namespace Entry

variable {table : Table}

/-- The tests of a condition on a field fit the field, and each of them is made by an operator that
the condition uses and that is one of those for the kind of the field. -/
theorem leaves_field {name : String} {condition : Condition}
    (suits : (Entry.field name condition).Suits table) :
    ∃ field ∈ table.fields, field.name = name ∧
      ∀ leaf ∈ (Entry.field name condition).leaves table, ∃ used ∈ condition.uses,
        used.1 ∈ Operator.forKind field.kind ∧
        used.1.apply name used.2 field.kind = .ok (some leaf) ∧ leaf.Fits field := by
  -- The field that the condition suits is the one that it is compiled for.
  obtain ⟨field, declared, rfl, own⟩ := suits
  obtain ⟨parts, compiled, made⟩ := Condition.compile_suits declared own
  refine ⟨field, declared, rfl, fun leaf listed => ?_⟩
  rw [leaves, Clause.compileEntry, compiled] at listed
  obtain ⟨part, member, within⟩ := List.mem_flatMap.mp listed
  obtain ⟨used, given, suited, applied, fits⟩ := made part member
  rw [fits.leaves_eq, List.mem_singleton] at within
  rw [within]
  exact ⟨used, given, suited, applied, fits⟩

/-- An entry that suits a table compiles, and its tests concern the table. -/
theorem compile_suits {entry : Entry} (suits : entry.Suits table) :
    ∃ parts, Clause.compileEntry table entry = .ok parts ∧
      parts.flatMap Predicate.leaves = entry.leaves table ∧
      ∀ leaf ∈ entry.leaves table, leaf.Concerns table := by
  -- A condition has the tests of its field, and a search those of the columns it looks in.
  cases entry with
  | field name condition =>
    obtain ⟨field, declared, same, made⟩ := leaves_field suits
    obtain ⟨other, present, rfl, own⟩ := suits
    obtain ⟨parts, compiled, -⟩ := Condition.compile_suits present own
    have written : Clause.compileEntry table (.field other.name condition) = .ok parts := compiled
    refine ⟨parts, written, by rw [leaves, written], fun leaf listed => ?_⟩
    obtain ⟨-, -, -, -, fits⟩ := made leaf listed
    -- A test of a field has the column of the field and no other.
    refine ⟨fits.isEmpty_eq, fun column tested => ?_⟩
    rw [fits.column_eq tested]
    exact List.mem_map_of_mem declared
  | search term =>
    obtain ⟨result, searched, concerned⟩ := Search.compile_suits suits
    have written : Clause.compileEntry table (.search term) = .ok result.toList := by
      rw [Clause.compileEntry, searched]
      rfl
    refine ⟨result.toList, written, by rw [leaves, written], ?_⟩
    rw [leaves, written]
    exact concerned

end Entry

namespace Clause

/-- A clause whose entries suit a table compiles to their tests. -/
theorem compile_suits {table : Table} {clause : Clause}
    (suits : ∀ entry ∈ clause, Entry.Suits table entry) :
    ∃ predicate, Clause.compile table clause = .ok predicate ∧
      predicate.leaves = clause.flatMap (Entry.leaves table) := by
  -- By induction on the entries, for a conjunction has the tests of its parts.
  have entries : ∃ parts, compileEntries table clause = .ok parts ∧
      parts.flatMap Predicate.leaves = clause.flatMap (Entry.leaves table) := by
    induction clause with
    | nil => exact ⟨[], rfl, rfl⟩
    | cons entry rest ih =>
      obtain ⟨own, behind⟩ := List.forall_mem_cons.mp suits
      obtain ⟨first, compiled, same, -⟩ := Entry.compile_suits own
      obtain ⟨others, more, rest_same⟩ := ih behind
      refine ⟨first ++ others, by rw [compileEntries, compiled, more]; rfl, ?_⟩
      rw [List.flatMap_append, same, rest_same, List.flatMap_cons]
  obtain ⟨parts, compiled, same⟩ := entries
  exact ⟨.all parts, by rw [compile, compiled]; rfl, by rw [leaves_all, same]⟩

end Clause

namespace Filter

/-- The branches of a choice that constrain rows have the tests of all of its clauses. -/
theorem leaves_branches {table : Table} {branches : List Predicate} {choice : List Clause}
    (suits : ∀ clause ∈ choice, ∀ entry ∈ clause, Entry.Suits table entry)
    (compiled : List.Forall₂ (fun branch clause => Clause.compile table clause = .ok branch)
      branches choice) :
    (branches.filter fun branch => !branch.isEmpty).flatMap Predicate.leaves
      = choice.flatten.flatMap (Entry.leaves table) := by
  -- By induction on the branches beside their clauses; what is left out has no tests.
  induction compiled with
  | nil => rfl
  | @cons branch clause branches choice own others ih =>
    obtain ⟨here, behind⟩ := List.forall_mem_cons.mp suits
    obtain ⟨predicate, same, told⟩ := Clause.compile_suits here
    rw [own] at same
    cases same
    rw [List.flatten_cons, List.flatMap_append, ← told, ← ih behind]
    cases empty : branch.isEmpty with
    | false => simp [empty]
    | true =>
      -- All tests of the branch constrain rows, so that it has none.
      have none : branch.leaves = [] := by
        refine leaves_of_isEmpty empty fun leaf listed => ?_
        rw [told] at listed
        obtain ⟨entry, member, within⟩ := List.mem_flatMap.mp listed
        obtain ⟨-, -, -, concerns⟩ := Entry.compile_suits (here entry member)
        exact (concerns leaf within).1
      simp [empty, none]

/-- A filter that suits a table compiles to the tests of its entries, all of which concern the
table. -/
theorem compile_suits {table : Table} {filter : Filter} (suits : filter.Suits table) :
    ∃ predicate, filter.compile table = .ok predicate ∧
      predicate.leaves = filter.clauses.flatten.flatMap (Entry.leaves table) ∧
      ∀ leaf ∈ predicate.leaves, leaf.Concerns table := by
  -- Each test comes from an entry of some clause, and so concerns the table.
  have concerned : ∀ leaf ∈ filter.clauses.flatten.flatMap (Entry.leaves table),
      leaf.Concerns table := by
    intro leaf listed
    obtain ⟨entry, member, own⟩ := List.mem_flatMap.mp listed
    obtain ⟨clause, chosen, within⟩ := List.mem_flatten.mp member
    obtain ⟨-, -, -, concerns⟩ := Entry.compile_suits (suits clause chosen entry within)
    exact concerns leaf own
  cases filter with
  | clause entries =>
    obtain ⟨predicate, compiled, same⟩ := Clause.compile_suits (suits entries (by simp [clauses]))
    have all : predicate.leaves
        = (Filter.clause entries).clauses.flatten.flatMap (Entry.leaves table) := by
      simpa [clauses] using same
    exact ⟨predicate, compiled, all, by rw [all]; exact concerned⟩
  | anyOf choice =>
    have clauses_suit : ∀ clause ∈ choice, ∀ entry ∈ clause, Entry.Suits table entry := suits
    obtain ⟨branches, each⟩ := Result.exists_forall₂ fun clause chosen =>
      (Clause.compile_suits (clauses_suit clause chosen)).imp fun _ own => own.1
    have compiled : choice.mapM (Clause.compile table) = .ok branches := Result.mapM_of_forall₂ each
    have told := leaves_branches clauses_suit each
    have all : (Predicate.any (branches.filter fun branch => !branch.isEmpty)).leaves
        = (Filter.anyOf choice).clauses.flatten.flatMap (Entry.leaves table) := by
      rw [leaves_any, told]
      rfl
    exact ⟨_, by rw [compile, compiled]; rfl, all, by rw [all]; exact concerned⟩

end Filter

end RowFilter
