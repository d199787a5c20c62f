import RowFilter.Proofs.Filter.Spelling
import RowFilter.Proofs.Json.Proper

/-! Filters that have been read are told by their spelling, so that they survive being written. -/

namespace RowFilter

open Result

namespace Scalar

/-- Only null is read as null. -/
theorem ne_null_of_ofJson? {document : Json} {literal : Scalar}
    (read : ofJson? document = some literal) (given : document ≠ .null) : literal ≠ .null := by
  -- No other form of document is read as null.
  rintro rfl
  cases document with
  | integer number => cases word : number.toInt64? <;> simp [ofJson?, word] at read
  | null => exact given rfl
  | _ => cases read

/-- The spelling of a literal that is read tells it. -/
theorem isSpelled_of_ofJson? {document : Json} {literal : Scalar} (proper : document.IsProper)
    (read : ofJson? document = some literal) : literal.isSpelled = true := by
  -- What the spelling would lose is a float that is not finite, and a proper document has none.
  cases document with
  | integer number =>
    cases word : number.toInt64? <;> simp only [ofJson?, word] at read <;> cases read
    · exact WideInt.isFinite_toFloat word
    · rfl
  | float value =>
    cases read
    exact Json.isFinite_float.mp proper.finite
  | array items => cases read
  | object members => cases read
  | _ => cases read; rfl

end Scalar

/-- The spelling of an operand that is read from anything but null tells it. -/
theorem Operand.isSpelled_of_ofJson {field : String} {operator : Operator} {value : Json}
    {operand : Operand} (proper : value.IsProper) (given : value ≠ .null)
    (read : ofJson field operator value = .ok operand) : operand.IsSpelled := by
  -- By the shape of the operand; null is the one value that would be passed over.
  cases ofJson_iff.mp read with
  | scalar shape own =>
    exact ⟨Scalar.isSpelled_of_ofJson? proper own, Scalar.ne_null_of_ofJson? own given⟩
  | pattern shape wanted own =>
    exact ⟨Scalar.isSpelled_of_ofJson? proper own, Scalar.ne_null_of_ofJson? own given⟩
  | list shape each =>
    intro item listed
    obtain ⟨document, within, own⟩ := exists_of_forall₂ each listed
    exact Scalar.isSpelled_of_ofJson? (Json.isProper_array.mp proper document within) own
  | range shape below above =>
    have each := Json.isProper_array.mp proper
    exact ⟨Scalar.isSpelled_of_ofJson? (each _ (by simp)) below,
      Scalar.isSpelled_of_ofJson? (each _ (by simp)) above⟩
  | flag shape => trivial

/-- The spelling of a condition that is read tells it. -/
theorem Condition.isSpelled_of_ofJson {field : String} {document : Json} {condition : Condition}
    (proper : document.IsProper) (read : ofJson field document = .ok condition) :
    condition.IsSpelled := by
  -- A literal, an object of operators, and a condition that says nothing are told apart.
  rcases ofJson_ok read with ⟨literal, own, rfl⟩ | ⟨members, rfl, entries, each, rfl⟩ | rfl
  · exact Scalar.isSpelled_of_ofJson? proper own
  · obtain ⟨distinct, known⟩ := Json.isProper_object.mp proper
    obtain ⟨sources, within, sourced⟩ := operatorsOf_ok each
    -- The operators differ as the keys that they have been read from do.
    have keys : (entries.map Prod.fst).map Operator.symbol = sources.map Prod.fst := by
      rw [List.map_map]
      exact (map_eq_of_forall₂ sourced fun entry member own => own.key.symm)
    refine ⟨List.Nodup.of_map Operator.symbol ?_, fun entry listed => ?_⟩
    · rw [keys]
      exact distinct.sublist (within.map Prod.fst)
    · obtain ⟨member, held, own⟩ := exists_of_forall₂ sourced listed
      exact Operand.isSpelled_of_ofJson (known member (within.subset held)) own.given own.operand
  · trivial

/-- A projection that is read names no star. -/
theorem Projection.isSpelled_of_ofJson? {document : Json} {projection : Projection}
    (read : ofJson? document = some projection) : projection.IsSpelled := by
  -- A star, whether alone or in a list, is read as all columns.
  cases document with
  | string name =>
    cases read
    unfold ofName
    split
    · trivial
    · rename_i other
      simpa [IsSpelled] using fun same => other same.symm
  | array items =>
    obtain ⟨names, -, rfl⟩ := Option.map_eq_some_iff.mp read
    unfold ofNames
    -- A list that names the star has become all columns.
    split
    · trivial
    · assumption
  | _ => cases read

/-- The spelling of a search that is read tells it. -/
theorem Search.isSpelled_of_ofJson {document : Json} {search : Search} (proper : document.IsProper)
    (read : ofJson document = .ok search) : search.IsSpelled := by
  -- A literal is spelled as it was read, and an object has its choice and its value.
  rcases ofJson_ok read with
    ⟨literal, own, rfl⟩ | ⟨members, _, content, fields, literal, rfl, -, held, chosen, given, rfl⟩
  · exact Scalar.isSpelled_of_ofJson? proper own
  · have wanted : content.isTextOrNumber = true := isTextOrNumber_of_valueOf? given
    rw [valueOf?_of_isTextOrNumber wanted] at given
    have inner := (Json.isProper_object.mp proper).2 _ (Members.mem_of_get? held)
    exact ⟨Projection.isSpelled_of_ofJson? chosen, Scalar.isSpelled_of_ofJson? inner given⟩

/-- The spelling of a clause that is read tells it. -/
theorem Clause.isSpelled_of_ofJson {document : Json} {clause : Clause} (proper : document.IsProper)
    (read : ofJson document = .ok clause) : clause.IsSpelled := by
  -- No key is read twice from one object, and so no entry is lost by collecting them.
  obtain ⟨members, rfl, each⟩ := ofJson_ok read
  obtain ⟨distinct, known⟩ := Json.isProper_object.mp proper
  -- An entry is read under its own key, and a search under the key of searches.
  have keys : clause.map Entry.key = members.map Prod.fst := by
    refine map_eq_of_forall₂ each fun entry member own => ?_
    rcases entryOf_ok own with ⟨term, reserved, -, rfl⟩ | ⟨condition, -, -, rfl⟩
    · exact reserved.symm
    · rfl
  refine ⟨by rw [keys]; exact distinct, fun entry listed => ?_⟩
  obtain ⟨member, held, own⟩ := exists_of_forall₂ each listed
  rcases entryOf_ok own with ⟨term, -, searched, rfl⟩ | ⟨condition, other, read, rfl⟩
  · exact Search.isSpelled_of_ofJson (known member held) searched
  · exact ⟨other, Condition.isSpelled_of_ofJson (known member held) read⟩

namespace Filter

/-- The spelling of a filter that is read tells it. -/
theorem isSpelled_of_ofJson {document : Json} {filter : Filter} (proper : document.IsProper)
    (read : ofJson document = .ok filter) : filter.IsSpelled := by
  -- Each clause is told by itself, whatever it is a branch of.
  intro clause listed
  rcases ofJson_ok read with ⟨single, own, rfl⟩ | ⟨items, choice, rfl, each, rfl⟩
  · rw [List.mem_singleton.mp listed]
    exact Clause.isSpelled_of_ofJson proper own
  · obtain ⟨item, held, own⟩ := exists_of_forall₂ each listed
    exact Clause.isSpelled_of_ofJson (Json.isProper_array.mp proper item held) own

end Filter

/-- The spelling of a literal is proper. -/
theorem Scalar.isProper_toJson (literal : Scalar) : literal.toJson.IsProper := by
  -- All but floats are spelled as they are, and these are written without loss or as null.
  cases literal with
  | float value =>
    -- A float that is not finite is spelled as null, which is proper as well.
    by_cases finite : value.isFinite = true
    · rw [toJson, jsonOfFloat, if_pos finite]
      exact ⟨rfl, .float finite⟩
    · rw [toJson, jsonOfFloat, if_neg finite]
      exact ⟨rfl, .null⟩
  | _ => exact ⟨rfl, by constructor⟩

/-- The spelling of an operand is proper. -/
theorem Operand.isProper_toJson (operand : Operand) : operand.toJson.IsProper := by
  -- A list has the spellings of its literals for items.
  cases operand with
  | scalar literal => exact literal.isProper_toJson
  | list items =>
    exact Json.isProper_array.mpr (List.forall_mem_map.mpr fun item _ => item.isProper_toJson)
  | range low high =>
    exact Json.isProper_array.mpr (by simp [Scalar.isProper_toJson])
  | flag wanted => exact ⟨rfl, .bool wanted⟩

/-- Collected members with proper values are a proper object. -/
theorem Members.isProper_collect {pairs : List (String × Json)}
    (each : ∀ pair ∈ pairs, pair.2.IsProper) : (Json.object (collect pairs)).IsProper := by
  -- Of members with the same key one is kept, and with it its proper value.
  obtain ⟨distinct, kept⟩ := collect_spec pairs
  exact Json.isProper_object.mpr ⟨distinct, fun member listed => each member (kept member listed)⟩

/-- The spelling of a condition is proper. -/
theorem Condition.isProper_toJson (condition : Condition) : condition.toJson.IsProper := by
  -- Literals and operators are proper by themselves, and the empty object is.
  cases condition with
  | equals literal => exact literal.isProper_toJson
  | operators entries =>
    exact Members.isProper_collect
      (List.forall_mem_map.mpr fun entry _ => entry.2.isProper_toJson)
  | unconstrained => exact Json.isProper_object.mpr ⟨by simp, by simp⟩

/-- The spelling of a search is proper. -/
theorem Search.isProper_toJson (search : Search) : search.toJson.IsProper := by
  -- The choice of fields is a text or a list of texts, next to the literal.
  cases search with
  | everywhere literal => exact literal.isProper_toJson
  | within fields literal =>
    have chosen : fields.toJson.IsProper := by
      cases fields with
      | all => exact ⟨rfl, .string _⟩
      | columns names =>
        exact Json.isProper_array.mpr (List.forall_mem_map.mpr fun name _ => ⟨rfl, .string name⟩)
    exact Json.isProper_object.mpr ⟨by simp, by simp [chosen, literal.isProper_toJson]⟩

/-- The spelling of an entry tells it if it tells the entry that is read back. -/
theorem Entry.isSpelled_of_normalize {entry : Entry} (spelled : entry.normalize.IsSpelled) :
    entry.IsSpelled := by
  -- Reading back only ever turns a condition without operators into one that says nothing.
  cases entry with
  | search term => exact spelled
  | field name condition =>
    refine ⟨spelled.1, ?_⟩
    have told : condition.normalize.IsSpelled := spelled.2
    unfold Condition.normalize at told
    split at told
    · exact ⟨List.nodup_nil, fun entry listed => absurd listed List.not_mem_nil⟩
    · exact told

/-- The spelling of a clause tells it if it tells the clause that is read back. -/
theorem Clause.isSpelled_of_normalize {clause : Clause}
    (spelled : IsSpelled (clause.map Entry.normalize)) : IsSpelled clause := by
  -- The keys are those of the clause, so they differ as before.
  have keys : (clause.map Entry.normalize).map Entry.key = clause.map Entry.key := by
    rw [List.map_map]
    exact List.map_congr_left fun entry _ => by cases entry <;> rfl
  obtain ⟨distinct, told⟩ := spelled
  exact ⟨keys ▸ distinct, fun entry listed =>
    Entry.isSpelled_of_normalize (told _ (List.mem_map_of_mem listed))⟩

namespace Filter

/-- The spelling of a filter is proper. -/
theorem isProper_toJson (filter : Filter) : filter.toJson.IsProper := by
  -- A clause is an object of its entries, whether it stands alone or in a list.
  have each (clause : Clause) : (Clause.toJson clause).IsProper := by
    refine Members.isProper_collect (List.forall_mem_map.mpr fun entry _ => ?_)
    cases entry with
    | field name condition => exact condition.isProper_toJson
    | search term => exact term.isProper_toJson
  cases filter with
  | clause entries => exact each entries
  | anyOf choice =>
    exact Json.isProper_array.mpr (List.forall_mem_map.mpr fun clause _ => each clause)

/-- The spelling of a filter without faults tells it exactly if the filter is read back from it. -/
theorem ofJson_toJson_iff {filter : Filter} (silent : filter.faults = []) :
    ofJson filter.toJson = .ok filter.normalize ↔ filter.IsSpelled := by
  -- One way has been shown, and the other one follows from what reading back yields.
  refine ⟨fun back clause listed => ?_, ofJson_toJson silent⟩
  -- What is read back has been read, so that its spelling tells it; and it is spelled as before.
  have told : filter.normalize.IsSpelled := isSpelled_of_ofJson filter.isProper_toJson back
  have parts : filter.normalize.clauses = filter.clauses.map (List.map Entry.normalize) := by
    cases filter <;> rfl
  exact Clause.isSpelled_of_normalize (told _ (by rw [parts]; exact List.mem_map_of_mem listed))

/-- A filter that has been read is written faithfully: it is read back as it was but for conditions
without operators, which are no conditions, and so it compiles and is written as before. -/
theorem ofJson_writes {document : Json} {filter : Filter} (proper : document.IsProper)
    (read : ofJson document = .ok filter) :
    ofJson filter.toJson = .ok filter.normalize ∧
    (∀ table, filter.normalize.compile table = filter.compile table) ∧
    filter.normalize.toJson = filter.toJson :=
  -- What has been read has no faults and is told by its spelling.
  ⟨ofJson_toJson (faults_of_ofJson read) (isSpelled_of_ofJson proper read),
    fun table => filter.compile_normalize table, filter.toJson_normalize⟩

/-- An operator without an operand leaves no condition, a star makes a choice of fields all of them,
and a number beyond the signed words is searched for as a float. -/
theorem ofJson_writes_books :
    let number : WideInt := ⟨0x8000000000000000, by decide⟩
    let document : Json := .object [("id", .object [("$lt", .null)]),
      ("$q", .object [("selectedFields", .array [.string "title", .string "*"]),
        ("value", .integer number)])]
    let again : Filter := .clause
      [.field "id" .unconstrained, .search (.within .all (.float number.toFloat))]
    ∃ filter, ofJson document = .ok filter ∧ filter ≠ again ∧ ofJson filter.toJson = .ok again := by
  -- The document is proper, and the filter that it is read as is found by computation.
  intro number document again
  have proper : document.IsProper := by
    have null : Json.null.IsProper := ⟨rfl, .null⟩
    have string (text : String) : (Json.string text).IsProper := ⟨rfl, .string text⟩
    have integer : (Json.integer number).IsProper := ⟨rfl, .integer number⟩
    simp [document, Json.isProper_object, Json.isProper_array, null, string, integer]
  obtain ⟨filter, read, differs, same⟩ : ∃ filter, ofJson document = .ok filter ∧
      filter ≠ again ∧ filter.normalize = again :=
    ⟨.clause [.field "id" (.operators []), .search (.within .all (.float number.toFloat))], rfl,
      by simp [again], rfl⟩
  exact ⟨filter, read, differs, same ▸ (ofJson_writes proper read).1⟩

/-- A filter that compiles survives writing and reading with the very condition it compiles to if
its spelling tells all of its parts, and only then it is read back as it was. -/
theorem compile_survives {table : Table} {filter : Filter} {predicate : Predicate}
    (compiled : filter.compile table = .ok predicate) :
    (filter.IsSpelled →
      ∃ again, ofJson filter.toJson = .ok again ∧ again.compile table = .ok predicate) ∧
    (ofJson filter.toJson = .ok filter.normalize ↔ filter.IsSpelled) := by
  -- A filter that compiles has no faults, and this is all that reading back asks of it.
  have silent : filter.faults = [] := (compile_failsFirst table filter).ok_iff.mp ⟨_, compiled⟩
  refine ⟨fun spelled => ⟨filter.normalize, ofJson_toJson silent spelled, ?_⟩,
    ofJson_toJson_iff silent⟩
  rw [compile_normalize, compiled]

/-- A range and a search survive next to each other. -/
theorem compile_survives_books :
    let filter : Filter := .clause
      ((Clause.empty.operator "id" .between (.range (.int 1) (.int 5))).search
        (.within (.columns ["title"]) (.text "?")))
    ∃ predicate again, filter.compile .books = .ok predicate ∧
      ofJson filter.toJson = .ok again ∧ again.compile .books = .ok predicate := by
  -- The two entries differ in their keys, so that both are told.
  intro filter
  obtain ⟨predicate, compiled⟩ : ∃ predicate, filter.compile .books = .ok predicate := ⟨_, rfl⟩
  have spelled : filter.IsSpelled := by
    simp [filter, IsSpelled, clauses, Clause.IsSpelled, Clause.empty, Clause.operator, Clause.field,
      Clause.search, Entry.key, Entry.IsSpelled, Condition.IsSpelled, Operand.IsSpelled,
      Search.IsSpelled, Projection.IsSpelled, Scalar.isSpelled, searchKey]
  obtain ⟨again, read, same⟩ := (compile_survives compiled).1 spelled
  exact ⟨predicate, again, compiled, read, same⟩

/-- What is not told by the spelling is lost: the first of two conditions on one field, and a
condition that compares with null; and a field with the key of searches is not read at all. -/
theorem compile_survives_not :
    let row (number : Option Int) : RowTests := Interpretation.tests
      ⟨fun | .int value, _ => value.toInt | _, _ => 0, (· == ·), (decide <| · < ·),
        fun _ _ _ => false⟩ fun _ => number
    let range : Filter := .clause ((Clause.empty.operator "id" .greater (.scalar (.int 2))).operator
      "id" .less (.scalar (.int 9)))
    let present : Filter := .clause (Clause.empty.operator "id" .notEqual (.scalar .null))
    let foreign : Filter := .clause (Clause.empty.operator "$q" .isNull (.flag true))
    let Widens (filter : Filter) (number : Option Int) : Prop := ∃ predicate again other,
      filter.compile .books = .ok predicate ∧ predicate.selects (row number) = false ∧
      ofJson filter.toJson = .ok again ∧ again.compile .books = .ok other ∧
      other.selects (row number) = true
    Widens range (some 1) ∧ Widens present none ∧
      (∃ predicate, foreign.compile .books = .ok predicate) ∧
      ofJson foreign.toJson = .error (.invalidSearch "missing selectedFields") := by
  -- Each of the three is run through, and its condition tried on one row.
  intro row range present foreign Widens
  refine ⟨⟨_, _, _, rfl, ?_, rfl, rfl, ?_⟩, ⟨_, _, _, rfl, ?_, rfl, rfl, ?_⟩, ⟨_, rfl⟩, rfl⟩ <;>
    decide

end Filter

end RowFilter
