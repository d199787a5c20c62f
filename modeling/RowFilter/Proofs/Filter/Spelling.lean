import RowFilter.Proofs.Filter.Faults
import RowFilter.Proofs.Json.Keys

/-! Filters are read back from their JSON spelling if it tells all of their parts. -/

namespace RowFilter

/-- A condition as it is read back: without operators it is no condition. -/
def Condition.normalize : Condition → Condition
  -- An object without operators is read as one that says nothing.
  | .operators [] => .unconstrained
  | condition => condition

/-- An entry as it is read back. -/
def Entry.normalize : Entry → Entry
  -- The name and the search are told as they are.
  | .field name condition => .field name condition.normalize
  | .search term => .search term

/-- A filter as it is read back: only conditions without operators change. -/
def Filter.normalize : Filter → Filter
  -- A choice keeps its branches, also those that say nothing.
  | .clause entries => .clause (entries.map Entry.normalize)
  | .anyOf clauses => .anyOf (clauses.map (List.map Entry.normalize))

/-- Whether its spelling tells a literal: a float that is not finite is spelled as null. -/
def Scalar.isSpelled : Scalar → Bool
  -- There is no other way in which a number, a truth value or a text is lost.
  | .float value => value.isFinite
  | _ => true

/-- Whether its spelling tells an operand, where null stands for none. -/
def Operand.IsSpelled : Operand → Prop
  -- A list and a range may have null in them, since only the whole operand is passed over.
  | .scalar literal => literal.isSpelled = true ∧ literal ≠ .null
  | .list items => ∀ item ∈ items, item.isSpelled = true
  | .range low high => low.isSpelled = true ∧ high.isSpelled = true
  | .flag _ => True

/-- Whether its spelling tells a condition: an object has each operator once. -/
def Condition.IsSpelled : Condition → Prop
  -- One operator that is used twice would leave only its last operand in the object.
  | .equals literal => literal.isSpelled = true
  | .operators entries => (entries.map Prod.fst).Nodup ∧ ∀ entry ∈ entries, entry.2.IsSpelled
  | .unconstrained => True

/-- Whether its spelling tells a projection, where a star among the names stands for all columns. -/
def Projection.IsSpelled : Projection → Prop
  -- With the star among them the names would be read as all columns.
  | .all => True
  | .columns names => "*" ∉ names

/-- Whether its spelling tells a search. -/
def Search.IsSpelled : Search → Prop
  -- Null is read back as a search for nothing, as it was.
  | .everywhere literal => literal.isSpelled = true
  | .within fields literal => fields.IsSpelled ∧ literal.isSpelled = true

/-- The key of an entry in the spelling of its clause. -/
def Entry.key : Entry → String
  -- Searches share one key, so that a clause tells one of them.
  | .field name _ => name
  | .search _ => searchKey

/-- Whether its spelling tells an entry, where the key of searches stands for no field. -/
def Entry.IsSpelled : Entry → Prop
  -- A field of that name would be read as a search.
  | .field name condition => name ≠ searchKey ∧ condition.IsSpelled
  | .search term => term.IsSpelled

/-- Whether its spelling tells a clause: an object has each key once. -/
def Clause.IsSpelled (clause : Clause) : Prop :=
  -- One key stands for one entry, be it a field or a search.
  (clause.map Entry.key).Nodup ∧ ∀ entry ∈ clause, Entry.IsSpelled entry

/-- Whether its spelling tells all parts of a filter. -/
def Filter.IsSpelled (filter : Filter) : Prop :=
  -- Clauses are told one by one, as a list keeps all of its items.
  ∀ clause ∈ filter.clauses, Clause.IsSpelled clause

open Result

/-- A signed word is read back from its wide integer. -/
@[simp]
theorem WideInt.toInt64?_ofInt64 (word : Int64) : (ofInt64 word).toInt64? = some word := by
  -- The bound on signed words is the one that the reader goes by.
  have below : word.toInt < 0x8000000000000000 := word.toInt_lt
  simp [toInt64?, ofInt64, below]

namespace Scalar

/-- A literal is read back from a spelling that tells it. -/
theorem ofJson?_toJson {literal : Scalar} (spelled : literal.isSpelled = true) :
    ofJson? literal.toJson = some literal := by
  -- By the kinds of literals, of which numbers are read by their own rules.
  cases literal with
  | int word => simp [toJson, Json.ofInt64, ofJson?]
  | float value =>
    have finite : value.isFinite = true := spelled
    simp [toJson, jsonOfFloat, finite, ofJson?]
  | _ => rfl

/-- Of the literals that their spelling tells only null is spelled as null. -/
theorem toJson_ne_null {literal : Scalar} (spelled : literal.isSpelled = true)
    (given : literal ≠ .null) : literal.toJson ≠ .null := by
  -- If it were spelled as null, it would be read back as null.
  intro absent
  have back := ofJson?_toJson spelled
  rw [absent] at back
  exact given (Option.some.inj back).symm

/-- A text or a number is spelled as one. -/
theorem isTextOrNumber_toJson {literal : Scalar} (spelled : literal.isSpelled = true)
    (pattern : literal.isPattern = true) : literal.toJson.isTextOrNumber = true := by
  -- By the kinds of literals; a float needs to be finite to be spelled as a number.
  cases literal with
  | float value =>
    have finite : value.isFinite = true := spelled
    simp [toJson, jsonOfFloat, finite, Json.isTextOrNumber]
  | null => cases pattern
  | bool value => cases pattern
  | _ => rfl

end Scalar

namespace Operand

/-- An operand that fits its operator is read back from a spelling that tells it. -/
theorem ofJson_toJson {field : String} {operator : Operator} {operand : Operand}
    (fits : operator.fits operand = true) (spelled : operand.IsSpelled) :
    ofJson field operator operand.toJson = .ok operand := by
  -- Reading is by the shape of the operator, which is also what fitting is about.
  refine ofJson_iff.mpr ?_
  unfold Operator.fits at fits
  -- An operand that fits has the shape of its operator, and so has its spelling.
  cases shaped : operator.shape <;> cases operand <;> simp only [shaped] at fits <;>
    try cases fits
  case scalar.scalar literal => exact .scalar shaped (Scalar.ofJson?_toJson spelled.1)
  case pattern.scalar literal =>
    exact .pattern shaped (Scalar.isTextOrNumber_toJson spelled.1 fits)
      (Scalar.ofJson?_toJson spelled.1)
  case list.list items =>
    refine .list shaped (List.forall₂_map_right_iff.mpr (List.forall₂_same.mpr ?_))
    exact fun item listed => Scalar.ofJson?_toJson (spelled item listed)
  case range.range low high =>
    exact .range shaped (Scalar.ofJson?_toJson spelled.1) (Scalar.ofJson?_toJson spelled.2)
  case flag.flag wanted => exact .flag shaped

/-- An operand that its spelling tells is not spelled as null. -/
theorem toJson_ne_null {operand : Operand} (spelled : operand.IsSpelled) :
    operand.toJson ≠ .null := by
  -- Lists, ranges and flags are no null, whatever they hold.
  cases operand with
  | scalar literal => exact Scalar.toJson_ne_null spelled.1 spelled.2
  | _ => exact Json.noConfusion

end Operand

namespace Condition

/-- The operators of a field are read back one by one. -/
theorem operatorsOf_toJson {field : String} {entries : List (Operator × Operand)}
    (fits : ∀ entry ∈ entries, entry.1.fits entry.2 = true)
    (spelled : ∀ entry ∈ entries, entry.2.IsSpelled) :
    operatorsOf field (entries.map fun (operator, operand) => (operator.symbol, operand.toJson))
      = .ok entries := by
  -- By induction on the operators, each with a symbol that is known.
  induction entries with
  | nil => rfl
  | cons entry rest ih =>
    obtain ⟨operator, operand⟩ := entry
    obtain ⟨fit, fits⟩ := List.forall_mem_cons.mp fits
    obtain ⟨told, spelled⟩ := List.forall_mem_cons.mp spelled
    -- The key is known and the operand is given, so that the member is not passed over.
    rw [List.map_cons, operatorsOf, ih fits spelled]
    simp only [Operator.ofSymbol?_symbol, Operand.toJson_ne_null told, if_false,
      Operand.ofJson_toJson fit told]
    rfl

/-- A condition without faults is read back from a spelling that tells it. -/
theorem ofJson_toJson {field : String} {condition : Condition}
    (silent : condition.faults field = []) (spelled : condition.IsSpelled) :
    ofJson field condition.toJson = .ok condition.normalize := by
  -- An object is read as operators if one of its keys is known, and the first one is.
  cases condition with
  | unconstrained => rfl
  | equals literal => exact ofJson_of_literal (Scalar.ofJson?_toJson spelled)
  | operators entries =>
    cases entries with
    | nil => rfl
    | cons entry rest =>
      obtain ⟨distinct, told⟩ := spelled
      have fits : ∀ own ∈ entry :: rest, own.1.fits own.2 = true := fun own listed =>
        Operator.fault?_eq_none.mp
          (by simpa using List.flatMap_eq_nil_iff.mp silent own listed)
      -- The operators differ, and so do their symbols.
      have apart : ((((entry :: rest).map fun (operator, operand) =>
          (operator.symbol, operand.toJson)) : Members).map Prod.fst).Nodup := by
        simpa [List.map_map, Function.comp_def] using distinct.map Operator.symbol_injective
      rw [toJson, Members.collect_of_nodup apart, ofJson,
        if_pos (by simp [Operator.ofSymbol?_symbol]), operatorsOf_toJson fits told]
      rfl

end Condition

/-- A projection is read back from a spelling that tells it. -/
theorem Projection.ofJson?_toJson {projection : Projection} (spelled : projection.IsSpelled) :
    ofJson? projection.toJson = some projection := by
  -- Names are read back in order, unless one of them is the star.
  cases projection with
  | all => rfl
  | columns names =>
    have starless : "*" ∉ names := spelled
    rw [toJson, ofJson?, Json.mapM_text?]
    exact congrArg some (if_neg starless)

/-- A search without a fault is read back from a spelling that tells it. -/
theorem Search.ofJson_toJson {search : Search} (silent : search.fault? = none)
    (spelled : search.IsSpelled) : ofJson search.toJson = .ok search := by
  -- A literal is read as a search everywhere, and an object by its two members.
  cases search with
  | everywhere literal => exact ofJson_of_literal (Scalar.ofJson?_toJson spelled)
  | within fields literal =>
    obtain ⟨chosen, told⟩ := spelled
    -- Without a fault the literal is one that chosen fields can be searched for.
    have pattern : literal.isPattern = true := by simpa [fault?] using silent
    have back : valueOf? literal.toJson = some literal := by
      rw [valueOf?_of_isTextOrNumber (Scalar.isTextOrNumber_toJson told pattern),
        Scalar.ofJson?_toJson told]
    simp [toJson, ofJson, Members.get?, Projection.ofJson?_toJson chosen, back]
    rfl

/-- An entry without faults is read back from its key and a spelling that tells it. -/
theorem Entry.entryOf_memberOf {entry : Entry} (silent : entry.faults = [])
    (spelled : entry.IsSpelled) :
    Clause.entryOf (Clause.memberOf entry).1 (Clause.memberOf entry).2 = .ok entry.normalize := by
  -- A field goes by its condition, and a search by its term.
  cases entry with
  | field name condition =>
    simp [Clause.memberOf, Clause.entryOf, spelled.1, Condition.ofJson_toJson silent spelled.2,
      normalize, Except.map]
  | search term =>
    have calm : term.fault? = none := by simpa [faults] using silent
    simp [Clause.memberOf, Clause.entryOf, Search.ofJson_toJson calm spelled, normalize, Except.map]

/-- A clause without faults is read back from a spelling that tells it. -/
theorem Clause.ofJson_toJson {clause : Clause} (silent : clause.flatMap Entry.faults = [])
    (spelled : clause.IsSpelled) : ofJson (toJson clause) = .ok (clause.map Entry.normalize) := by
  -- Nothing is collected away, and the members are read in the order of the entries.
  obtain ⟨distinct, told⟩ := spelled
  -- Each entry has a key of its own, so that no member replaces another one.
  have keyed (entry : Entry) : (memberOf entry).1 = entry.key := by cases entry <;> rfl
  have apart : ((clause.map memberOf).map Prod.fst).Nodup := by
    simpa [List.map_map, Function.comp_def, keyed] using distinct
  rw [toJson, Members.collect_of_nodup apart]
  show (clause.map memberOf).mapM (fun member => entryOf member.1 member.2) = _
  rw [List.mapM_map]
  exact mapM_eq_ok fun entry listed =>
    Entry.entryOf_memberOf (List.flatMap_eq_nil_iff.mp silent entry listed) (told entry listed)

namespace Filter

/-- A filter without faults is read back from a spelling that tells it. -/
theorem ofJson_toJson {filter : Filter} (silent : filter.faults = []) (spelled : filter.IsSpelled) :
    ofJson filter.toJson = .ok filter.normalize := by
  -- Every clause is read back, whether it stands alone or in a list.
  have each : ∀ clause ∈ filter.clauses,
      Clause.ofJson (Clause.toJson clause) = .ok (clause.map Entry.normalize) :=
    fun clause listed => Clause.ofJson_toJson (List.flatMap_eq_nil_iff.mp silent clause listed)
      (spelled clause listed)
  cases filter with
  | clause entries =>
    show (Clause.ofJson (Clause.toJson entries)).map Filter.clause = _
    rw [each entries (by simp [clauses])]
    rfl
  | anyOf choice =>
    show ((choice.map Clause.toJson).mapM Clause.ofJson).map Filter.anyOf = _
    have all : (choice.map Clause.toJson).mapM Clause.ofJson
        = .ok (choice.map (List.map Entry.normalize)) := by
      rw [List.mapM_map]
      exact mapM_eq_ok each
    rw [all]
    rfl

end Filter

/-- A condition is spelled as the one that is read back. -/
theorem Condition.toJson_normalize (condition : Condition) :
    condition.normalize.toJson = condition.toJson := by
  -- Only a condition without operators changes, and its object is empty either way.
  unfold normalize
  split <;> rfl

/-- A condition compiles as the one that is read back. -/
theorem Condition.compile_normalize (table : Table) (field : String) (condition : Condition) :
    condition.normalize.compile table field = condition.compile table field := by
  -- No operator is no test, which is what saying nothing compiles to.
  unfold normalize
  split <;> rfl

namespace Clause

/-- A clause is spelled as the one that is read back. -/
theorem toJson_normalize (clause : Clause) :
    toJson (clause.map Entry.normalize) = toJson clause := by
  -- An entry has the same member before and after.
  have each (entry : Entry) : memberOf entry.normalize = memberOf entry := by
    cases entry with
    | field name condition => exact congrArg (Prod.mk name) condition.toJson_normalize
    | search term => rfl
  simp [toJson, List.map_map, Function.comp_def, each]

/-- A clause compiles as the one that is read back. -/
theorem compile_normalize (table : Table) (clause : Clause) :
    compile table (clause.map Entry.normalize) = compile table clause := by
  -- Entry by entry, as a condition without operators contributes nothing either way.
  have all : compileEntries table (clause.map Entry.normalize) = compileEntries table clause := by
    induction clause with
    | nil => rfl
    | cons entry rest ih =>
      have own : compileEntry table entry.normalize = compileEntry table entry := by
        cases entry with
        | field name condition => exact condition.compile_normalize table name
        | search term => rfl
      rw [List.map_cons, compileEntries, compileEntries, own, ih]
  rw [compile, compile, all]

end Clause

namespace Filter

/-- A filter is spelled as the one that is read back. -/
theorem toJson_normalize (filter : Filter) : filter.normalize.toJson = filter.toJson := by
  -- A clause by itself and the clauses of a list are spelled alike.
  cases filter with
  | clause entries => exact Clause.toJson_normalize entries
  | anyOf choice =>
    simp [normalize, toJson, List.map_map, Function.comp_def, Clause.toJson_normalize]

/-- A filter compiles as the one that is read back. -/
theorem compile_normalize (table : Table) (filter : Filter) :
    filter.normalize.compile table = filter.compile table := by
  -- Clauses compile one by one, and which are left out is decided behind that.
  cases filter with
  | clause entries => exact Clause.compile_normalize table entries
  | anyOf choice =>
    have same : Clause.compile table ∘ List.map Entry.normalize = Clause.compile table :=
      funext fun clause => Clause.compile_normalize table clause
    rw [normalize, compile, compile, List.mapM_map, same]

end Filter

end RowFilter
