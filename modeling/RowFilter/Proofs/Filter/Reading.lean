import RowFilter.Filter.Reader
import RowFilter.Proofs.Result
import RowFilter.Proofs.Schema.Language

/-! What a filter that has been read has been read from, level by level. -/

namespace RowFilter

open Result

/-- An operator that is found by a key has that key. -/
theorem Operator.symbol_of_ofSymbol? {key : String} {operator : Operator}
    (found : ofSymbol? key = some operator) : operator.symbol = key := by
  -- The table of operators is searched by their keys.
  simpa using List.find?_some found

/-- What is neither an array nor an object is read as a literal. -/
theorem Scalar.ofJson?_getD {document : Json} (scalar : document.isScalar = true) :
    ofJson? document = some ((ofJson? document).getD .null) := by
  -- A number is read in either case, as a word or as a float.
  cases document with
  | integer number => cases word : number.toInt64? <;> simp [ofJson?, word]
  | array items => cases scalar
  | object members => cases scalar
  | _ => rfl

/-- The literals of a list are read one by one. -/
theorem Operand.scalars_iff {fault : FilterError} {items : List Json} {values : List Scalar} :
    scalars fault items = .ok values
      ↔ List.Forall₂ (fun value item => Scalar.ofJson? item = some value) values items := by
  -- Both ways item by item, for a list is read only if each item is.
  constructor
  · intro read
    refine (mapM_ok read).imp fun value item own => ?_
    cases found : Scalar.ofJson? item <;> simp_all
  · exact fun each => mapM_of_forall₂ (each.imp fun value item own => by simp [own])

/-- What an operand of an operator has been read from, by the shape that the operator takes. -/
inductive Operand.ReadFrom (operator : Operator) : Json → Operand → Prop where
  | scalar {value : Json} {literal : Scalar} (shape : operator.shape = .scalar)
      (read : Scalar.ofJson? value = some literal) : ReadFrom operator value (.scalar literal)
  | pattern {value : Json} {literal : Scalar} (shape : operator.shape = .pattern)
      (wanted : value.isTextOrNumber = true) (read : Scalar.ofJson? value = some literal) :
    ReadFrom operator value (.scalar literal)
  | list {items : List Json} {values : List Scalar} (shape : operator.shape = .list)
      (each : List.Forall₂ (fun value item => Scalar.ofJson? item = some value) values items) :
    ReadFrom operator (.array items) (.list values)
  | range {low high : Json} {first last : Scalar} (shape : operator.shape = .range)
      (below : Scalar.ofJson? low = some first) (above : Scalar.ofJson? high = some last) :
    ReadFrom operator (.array [low, high]) (.range first last)
  | flag {wanted : Bool} (shape : operator.shape = .flag) :
    ReadFrom operator (.bool wanted) (.flag wanted)

/-- An operand is read exactly from a value of the shape of its operator. -/
theorem Operand.ofJson_iff {field : String} {operator : Operator} {value : Json}
    {operand : Operand} :
    ofJson field operator value = .ok operand ↔ ReadFrom operator value operand := by
  -- By the shape of the operator, which fixes the shape of the value.
  constructor
  · intro read
    unfold ofJson at read
    cases shaped : operator.shape <;> simp only [shaped] at read
    case scalar =>
      split at read <;> cases read
      exact .scalar shaped (by assumption)
    case pattern =>
      -- Of the values that are literals only texts and numbers are patterns.
      cases value with
      | string text => cases read; exact .pattern shaped rfl rfl
      | integer number => cases read; exact .pattern shaped rfl (Scalar.ofJson?_getD rfl)
      | float number => cases read; exact .pattern shaped rfl rfl
      | _ => cases read
    case list =>
      cases value with
      | array items =>
        obtain ⟨values, each, made⟩ := bind_ok read
        cases made
        exact .list shaped (scalars_iff.mp each)
      | _ => cases read
    case range =>
      cases value with
      | array items =>
        match items with
        | [low, high] =>
          simp only at read
          split at read <;> cases read
          exact .range shaped (by assumption) (by assumption)
        | [] | [_] | _ :: _ :: _ :: _ => cases read
      | _ => cases read
    case flag =>
      cases value <;> cases read
      exact .flag shaped
  · intro read
    cases read with
    | scalar shape own => simp [ofJson, shape, own]
    | @pattern value literal shape wanted own =>
      cases value with
      | integer number => simp [ofJson, shape, own]
      | string text => cases own; simp [ofJson, shape]
      | float number => cases own; simp [ofJson, shape]
      | _ => cases wanted
    | list shape each =>
      simp only [ofJson, shape, scalars_iff.mpr each]
      rfl
    | range shape below above => simp [ofJson, shape, below, above]
    | flag shape => simp [ofJson, shape]

/-- An operator on a field has been read from a member: from its key and from an operand that is not
null. -/
structure Operator.ReadFrom (field : String) (entry : Operator × Operand)
    (member : String × Json) : Prop where
  key : member.1 = entry.1.symbol
  given : member.2 ≠ .null
  operand : Operand.ofJson field entry.1 member.2 = .ok entry.2

namespace Condition

/-- The operators that are read come from some of the members, in order. -/
theorem operatorsOf_ok {field : String} {members : Members} {entries : List (Operator × Operand)}
    (read : operatorsOf field members = .ok entries) :
    ∃ sources, sources.Sublist members ∧
      List.Forall₂ (Operator.ReadFrom field) entries sources := by
  -- By induction on the members, some of which are passed over.
  induction members generalizing entries with
  | nil => cases read; exact ⟨[], .slnil, .nil⟩
  | cons member rest ih =>
    obtain ⟨key, value⟩ := member
    have passed (others : operatorsOf field rest = .ok entries) :
        ∃ sources, sources.Sublist ((key, value) :: rest) ∧
          List.Forall₂ (Operator.ReadFrom field) entries sources := by
      obtain ⟨sources, within, each⟩ := ih others
      exact ⟨sources, within.cons _, each⟩
    rw [operatorsOf] at read
    -- A member is passed over if its key is unknown or its value is null.
    split at read
    · exact passed read
    · rename_i operator known
      split at read
      · exact passed read
      · rename_i given
        obtain ⟨operand, own, behind⟩ := bind_ok read
        obtain ⟨more, others, joined⟩ := bind_ok behind
        cases joined
        obtain ⟨sources, within, each⟩ := ih others
        have first : Operator.ReadFrom field (operator, operand) (key, value) :=
          ⟨(Operator.symbol_of_ofSymbol? known).symm, given, own⟩
        exact ⟨(key, value) :: sources, within.cons_cons _, .cons first each⟩

/-- A literal is read as equality with it. -/
theorem ofJson_of_literal {field : String} {document : Json} {literal : Scalar}
    (read : Scalar.ofJson? document = some literal) :
    ofJson field document = .ok (.equals literal) := by
  -- Arrays and objects are no literals, and all others are read as equality.
  cases document with
  | array items => cases read
  | object members => cases read
  | _ => simp [ofJson, read]

/-- A condition has been read from a literal, or from an object with or without operators. -/
theorem ofJson_ok {field : String} {document : Json} {condition : Condition}
    (read : ofJson field document = .ok condition) :
    (∃ literal, Scalar.ofJson? document = some literal ∧ condition = .equals literal) ∨
    (∃ members, document = .object members ∧ ∃ entries,
      operatorsOf field members = .ok entries ∧ condition = .operators entries) ∨
    condition = .unconstrained := by
  -- The reader goes by the form of the document, and an object may yet have no operators.
  cases document with
  | array items => cases read
  | object members =>
    rw [ofJson] at read
    split at read
    · obtain ⟨entries, own, made⟩ := bind_ok read
      cases made
      exact .inr (.inl ⟨members, rfl, entries, own, rfl⟩)
    · cases read
      exact .inr (.inr rfl)
  | _ => cases read; exact .inl ⟨_, Scalar.ofJson?_getD rfl, rfl⟩

end Condition

/-- A literal is read as a search for it. -/
theorem Search.ofJson_of_literal {document : Json} {literal : Scalar}
    (read : Scalar.ofJson? document = some literal) :
    ofJson document = .ok (.everywhere literal) := by
  -- Arrays and objects are no literals, and all others are looked for everywhere.
  cases document with
  | array items => cases read
  | object members => cases read
  | _ => simp [ofJson, read]

/-- A search has been read from a literal, or from an object with a choice of fields and a value. -/
theorem Search.ofJson_ok {document : Json} {search : Search}
    (read : ofJson document = .ok search) :
    (∃ literal, Scalar.ofJson? document = some literal ∧ search = .everywhere literal) ∨
    ∃ members selection content fields literal, document = .object members ∧
      Members.get? members "selectedFields" = some selection ∧
      Members.get? members "value" = some content ∧
      Projection.ofJson? selection = some fields ∧ valueOf? content = some literal ∧
      search = .within fields literal := by
  -- An object that is read must have both of its members, each of the form that is asked for.
  cases document with
  | array items => cases read
  | object members =>
    right
    -- Each of the three steps goes on only with what it looks for.
    rw [ofJson] at read
    split at read
    case h_2 => cases read
    rename_i selection chosen
    simp only [pure_bind] at read
    split at read
    case h_2 => cases read
    rename_i fields projected
    split at read
    case h_2 => cases read
    rename_i literal wanted
    obtain ⟨content, held, given⟩ := Option.bind_eq_some_iff.mp wanted
    cases read
    exact ⟨members, selection, content, fields, literal, rfl, chosen, held, projected, given, rfl⟩
  | _ => cases read; exact .inl ⟨_, Scalar.ofJson?_getD rfl, rfl⟩

namespace Clause

/-- An entry has been read from a member: a search from its key, and a condition from any other. -/
theorem entryOf_ok {key : String} {value : Json} {entry : Entry}
    (read : entryOf key value = .ok entry) :
    (∃ term, key = searchKey ∧ Search.ofJson value = .ok term ∧ entry = .search term) ∨
    ∃ condition, key ≠ searchKey ∧ Condition.ofJson key value = .ok condition ∧
      entry = .field key condition := by
  -- The key alone decides which of the two readers the value is given to.
  unfold entryOf at read
  split at read
  · rename_i reserved
    obtain ⟨term, own, made⟩ := map_ok read
    exact .inl ⟨term, reserved, own, made.symm⟩
  · rename_i other
    obtain ⟨condition, own, made⟩ := map_ok read
    exact .inr ⟨condition, other, own, made.symm⟩

/-- A clause has been read from an object, entry by entry. -/
theorem ofJson_ok {document : Json} {clause : Clause} (read : ofJson document = .ok clause) :
    ∃ members, document = .object members ∧
      List.Forall₂ (fun entry member => entryOf member.1 member.2 = .ok entry) clause members := by
  -- Only an object has members, and each of them is one entry.
  cases document with
  | object members => exact ⟨members, rfl, mapM_ok read⟩
  | _ => cases read

end Clause

/-- Each clause of a filter has been read from the document, or from one of its items. -/
theorem Filter.ofJson_ok {document : Json} {filter : Filter} (read : ofJson document = .ok filter) :
    (∃ clause, Clause.ofJson document = .ok clause ∧ filter = .clause clause) ∨
    ∃ items clauses, document = .array items ∧
      List.Forall₂ (fun clause item => Clause.ofJson item = .ok clause) clauses items ∧
      filter = .anyOf clauses := by
  -- A list is a choice of clauses, even of none or of one.
  cases document with
  | array items =>
    obtain ⟨clauses, each, made⟩ := map_ok read
    exact .inr ⟨items, clauses, rfl, mapM_ok each, made.symm⟩
  | object members =>
    have single : (Clause.ofJson (.object members)).map Filter.clause = .ok filter := read
    obtain ⟨clause, own, made⟩ := map_ok single
    exact .inl ⟨clause, own, made.symm⟩
  | _ => cases read

end RowFilter
