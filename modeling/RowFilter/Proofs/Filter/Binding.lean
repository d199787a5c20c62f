import Mathlib.Algebra.Order.BigOperators.Group.List
import Mathlib.Algebra.Order.Ring.Nat
import RowFilter.Proofs.Filter.Faults
import RowFilter.Proofs.Json.Size
import RowFilter.Proofs.Statement.Text

/-! A filter binds fewer values than half the characters of the text it is read from. -/

namespace RowFilter

open Sql

namespace Predicate

/-- How many values the SQL of a condition binds. -/
def bound (predicate : Predicate) : Nat := (predicate.sites.filterMap Site.value?).length

/-- A condition binds as many values as its SQL has places for, on either backend. -/
theorem size_bound_render (backend : Backend) (predicate : Predicate) :
    (Fragment.render backend ((predicate.fragment? backend).getD [])).bound.size
      = predicate.bound := by
  -- The bound list is the values of the sites in order, and the sites are those of the condition.
  show (Fragment.renderAfter backend #[] ((predicate.fragment? backend).getD [])).bound.size = _
  rw [Fragment.renderAfter_eq]
  simp [Fragment.values_eq, sites_fragment?, bound]

/-- A group binds what its parts bind. -/
theorem length_allSites (parts : List Predicate) :
    ((allSites parts).filterMap Site.value?).length = (parts.map bound).sum := by
  -- By induction on the parts, whose sites stand one after the other.
  induction parts with
  | nil => rfl
  | cons part rest ih =>
    rw [allSites, List.filterMap_append, List.length_append, ih, List.map_cons, List.sum_cons]
    rfl

/-- A conjunction binds what its parts bind. -/
theorem bound_all (parts : List Predicate) : (Predicate.all parts).bound = (parts.map bound).sum :=
  -- The connective itself has no place for a value.
  length_allSites parts

/-- A choice binds what its parts bind. -/
theorem bound_any (parts : List Predicate) : (Predicate.any parts).bound = (parts.map bound).sum :=
  -- The word between the parts is as free of values as in a conjunction.
  length_allSites parts

/-- A comparison binds one value. -/
@[simp] theorem bound_compare (column : String) (comparison : Comparison) (value : Parameter)
    (temporal : Bool) : (compare column comparison value temporal).bound = 1 := rfl

/-- A test for missing values binds nothing. -/
@[simp] theorem bound_isNull (column : String) (negated : Bool) :
    (isNull column negated).bound = 0 := rfl

/-- A list of values binds each of them. -/
@[simp] theorem bound_oneOf (column : String) (values : List Parameter) (negated temporal : Bool) :
    (oneOf column values negated temporal).bound = values.length := by
  -- An empty list is a constant, which has no place at all.
  cases values with
  | nil => cases negated <;> rfl
  | cons first rest =>
    have places : ((first :: rest).map (Site.value · temporal)).filterMap Site.value?
        = (first :: rest).map (·, temporal) := by
      simp [List.filterMap_map, Function.comp_def, Site.value?]
    show ((Site.name column :: (first :: rest).map (Site.value · temporal)).filterMap
      Site.value?).length = _
    rw [List.filterMap_cons_none rfl, places, List.length_map]

/-- A range binds its two ends. -/
@[simp] theorem bound_between (column : String) (low high : Parameter) (negated temporal : Bool) :
    (between column low high negated temporal).bound = 2 := rfl

/-- A pattern is bound. -/
@[simp] theorem bound_like (column pattern : String) (negated : Bool) (cast : Cast) :
    (like column pattern negated cast).bound = 1 := rfl

/-- What no row passes binds nothing. -/
@[simp] theorem bound_never : never.bound = 0 := rfl

end Predicate

open Predicate

/-- How many values an operand has. -/
def Operand.count : Operand → Nat
  -- A range has its two ends, and a flag is written in the operator.
  | .scalar _ => 1
  | .list items => items.length
  | .range _ _ => 2
  | .flag _ => 0

namespace Operator

/-- A comparison with a literal binds one value at most. -/
theorem bound_applyScalar (operator : Operator) (column : String) (value : Scalar)
    (kind : Option Kind) : (operator.applyScalar column value kind).bound ≤ 1 := by
  -- Null is a test without a value, and anything else is compared with the column.
  unfold applyScalar
  split
  · simp
  · simp
  · unfold comparing
    split <;> simp

/-- A list binds no more values than it has items. -/
theorem bound_applyList (column : String) (items : List Scalar) (negated : Bool)
    (kind : Option Kind) :
    ((applyList column items negated kind).toList.map bound).sum ≤ items.length := by
  -- Null is left out of a list, and so it may bind less than it has.
  unfold applyList
  have fewer := List.length_filterMap_le Scalar.toParameter? items
  split
  · split <;> simp
  · simpa using fewer

/-- An operator binds no more values than it is given. -/
theorem bound_apply {operator : Operator} {column : String} {operand : Operand}
    {kind : Option Kind} {result : Option Predicate}
    (applied : operator.apply column operand kind = .ok result) :
    (result.toList.map bound).sum ≤ operand.count := by
  -- An operator is applied to an operand of its shape, and fails for any other one.
  unfold apply at applied
  split at applied
  · cases applied
    simpa [Operand.count] using bound_applyScalar operator column _ kind
  · cases applied
    exact bound_applyList column _ _ kind
  · cases applied
    simp only [applyRange, Operand.count, Option.toList_some, List.map_cons, List.map_nil,
      List.sum_cons, List.sum_nil]
    split <;> simp
  · obtain ⟨pattern, made, rfl⟩ := Result.map_ok applied
    unfold applyPattern at made
    split at made <;> cases made
    simp [containing, Operand.count]
  · cases applied
    simp [Operand.count]
  · cases applied

end Operator

namespace Condition

/-- The operators on a field bind no more values than they are given. -/
theorem bound_compileOperators {field : String} {kind : Option Kind}
    {entries : List (Operator × Operand)} {predicates : List Predicate}
    (compiled : compileOperators field kind entries = .ok predicates) :
    (predicates.map bound).sum ≤ (entries.map fun entry => entry.2.count).sum := by
  -- By induction on the operators, whose predicates are put one after the other.
  induction entries generalizing predicates with
  | nil => cases compiled; exact Nat.le_refl _
  | cons entry rest ih =>
    -- The operators are applied one after the other, and the first failure would be that of all.
    obtain ⟨first, applied, behind⟩ := Result.bind_ok compiled
    obtain ⟨more, others, joined⟩ := Result.bind_ok behind
    cases joined
    rw [List.map_append, List.sum_append, List.map_cons, List.sum_cons]
    exact Nat.add_le_add (Operator.bound_apply applied) (ih others)

end Condition

namespace Json

/-- Each item of a list takes its own character and the mark behind it. -/
theorem length_le_itemsSpan (items : List Json) : 2 * items.length ≤ itemsSpan items := by
  -- By induction on the items; the character is its own, the mark the comma behind it.
  induction items with
  | nil => exact Nat.le_refl _
  | cons item rest ih =>
    have own := item.span_pos
    rw [itemsSpan, List.length_cons]
    omega

/-- Some members of an object take no more room than all of them. -/
theorem membersSpan_sublist {some members : Members} (within : some.Sublist members) :
    membersSpan some ≤ membersSpan members := by
  -- By induction on how the members are chosen: what is left out only took room.
  induction within with
  | slnil => exact Nat.le_refl _
  | cons member _ ih => rw [membersSpan]; omega
  | cons_cons member _ ih => rw [membersSpan, membersSpan]; omega

end Json

/-- An operand has fewer values than half the characters that it is spelled with, rounded up. -/
theorem Operand.ReadFrom.count_le {operator : Operator} {value : Json} {operand : Operand}
    (read : Operand.ReadFrom operator value operand) : 2 * operand.count ≤ value.span + 1 := by
  -- By the ways to read an operand; a range is a list of two items.
  cases read with
  | scalar | pattern =>
    have own := value.span_pos
    simp only [count]
    omega
  | @list items values shape each =>
    -- Each item has a character of its own and the mark behind it.
    have paid := Json.length_le_itemsSpan items
    rw [count, each.length_eq, Json.span]
    omega
  | range => simp [count, Json.span, Json.itemsSpan]; omega
  | flag => simp [count]

namespace Condition

/-- A condition that is read from a document binds at most half as many values as the document takes
characters, rounded up. -/
theorem bound_compile {table : Table} {field : String} {document : Json} {condition : Condition}
    {predicates : List Predicate} (read : ofJson field document = .ok condition)
    (compiled : condition.compile table field = .ok predicates) :
    2 * (predicates.map bound).sum ≤ document.span + 1 := by
  -- A literal, an object of operators, and a condition that says nothing are told apart.
  have own := document.span_pos
  rcases ofJson_ok read with ⟨literal, -, rfl⟩ | ⟨members, rfl, entries, given, rfl⟩ | rfl
  · -- A literal is one value, and takes a character at least.
    have one := bound_compileOperators compiled
    simp only [List.map_cons, List.map_nil, List.sum_cons, List.sum_nil, Operand.count] at one
    omega
  · have operands := bound_compileOperators compiled
    obtain ⟨sources, within, each⟩ := operatorsOf_ok given
    -- The operators come from members of the object, each of which has marks to spare.
    have paid : 2 * (entries.map fun entry => entry.2.count).sum ≤ Json.membersSpan sources := by
      clear given operands compiled read within
      induction each with
      | nil => exact Nat.le_refl _
      | cons first _ ih =>
        have single := (Operand.ofJson_iff.mp first.operand).count_le
        rw [List.map_cons, List.sum_cons, Json.membersSpan]
        omega
    have fewer := Json.membersSpan_sublist within
    rw [Json.span]
    omega
  · cases compiled
    exact Nat.zero_le _

end Condition

namespace Clause

/-- Whether a clause searches for nothing. -/
def IsSearchless (document : Json) : Prop :=
  -- A document that is no object has no members, and so no search among them.
  ∀ members, document = .object members → ∀ member ∈ members, member.1 ≠ searchKey

/-- The entries of a clause that is read without a search leave marks of their members unused. -/
theorem bound_compileEntries {table : Table} {members : Members} {clause : Clause}
    {predicates : List Predicate} (plain : ∀ member ∈ members, member.1 ≠ searchKey)
    (read : List.Forall₂ (fun entry member => entryOf member.1 member.2 = .ok entry) clause members)
    (compiled : compileEntries table clause = .ok predicates) :
    2 * (predicates.map bound).sum + 3 * members.length ≤ Json.membersSpan members := by
  -- Each entry comes from one member, whose room is what pays for it.
  induction read generalizing predicates with
  | nil => cases compiled; exact Nat.le_refl _
  | @cons entry member clause members own others ih =>
    obtain ⟨named, later⟩ := List.forall_mem_cons.mp plain
    obtain ⟨first, made, behind⟩ := Result.bind_ok compiled
    obtain ⟨more, rest, joined⟩ := Result.bind_ok behind
    cases joined
    -- No member has the key of a search, and so each of them is a condition.
    rcases entryOf_ok own with ⟨term, search, -, -⟩ | ⟨condition, -, given, rfl⟩
    · exact absurd search named
    · have single := Condition.bound_compile given made
      have tail := ih later rest
      rw [List.map_append, List.sum_append, Json.membersSpan, List.length_cons]
      omega

/-- A clause that binds values takes four more characters than twice as many. -/
theorem bound_compile {table : Table} {document : Json} {clause : Clause} {predicate : Predicate}
    (plain : IsSearchless document) (read : ofJson document = .ok clause)
    (compiled : clause.compile table = .ok predicate) (binds : 0 < predicate.bound) :
    2 * predicate.bound + 4 ≤ document.span := by
  -- The four characters are two brackets, and what the first member has left.
  obtain ⟨members, rfl, each⟩ := ofJson_ok read
  obtain ⟨predicates, entries, rfl⟩ := Result.map_ok compiled
  have paid := bound_compileEntries (plain members rfl) each entries
  rw [bound_all] at binds ⊢
  -- What binds anything has a member, and the first one leaves three characters.
  have filled : 0 < members.length := by
    cases each with
    | nil => cases entries; simp at binds
    | cons => exact Nat.succ_pos _
  rw [Json.span]
  omega

end Clause

namespace Filter

/-- The clauses of a filter as it is written: the items of a list, or the document itself. -/
def clausesOf : Json → List Json
  -- What is no list is one clause, even where it turns out not to be readable.
  | .array items => items
  | other => [other]

/-- A choice of clauses binds what its clauses do, and leaves the marks of one of them unused. -/
theorem bound_branches {table : Table} {items : List Json} {clauses : List Clause}
    {branches : List Predicate} (plain : ∀ item ∈ items, Clause.IsSearchless item)
    (read : List.Forall₂ (fun clause item => Clause.ofJson item = .ok clause) clauses items)
    (compiled : List.Forall₂ (fun branch clause => Clause.compile table clause = .ok branch)
      branches clauses) (binds : 0 < (branches.map bound).sum) :
    2 * (branches.map bound).sum + 3 ≤ Json.itemsSpan items := by
  -- The clauses and the branches are taken from the first one on, and only one has to bind anything.
  induction read generalizing branches with
  | nil => cases compiled; simp at binds
  | @cons clause item clauses items own others ih =>
    obtain ⟨single, later⟩ := List.forall_mem_cons.mp plain
    cases compiled with
    | @cons branch _ branches _ made rest =>
      have head := Clause.bound_compile single own made
      have tail := ih later rest
      rw [List.map_cons, List.sum_cons] at binds ⊢
      rw [Json.itemsSpan]
      omega

/-- A filter that binds values takes four more characters than twice as many. -/
theorem bound_compile {table : Table} {document : Json} {filter : Filter} {predicate : Predicate}
    (plain : ∀ clause ∈ clausesOf document, Clause.IsSearchless clause)
    (read : ofJson document = .ok filter) (compiled : filter.compile table = .ok predicate)
    (binds : 0 < predicate.bound) : 2 * predicate.bound + 4 ≤ document.span := by
  -- One clause has its brackets to spare, and a list those of each of its clauses.
  rcases ofJson_ok read with ⟨clause, own, rfl⟩ | ⟨items, clauses, rfl, each, rfl⟩
  · -- An object is a clause by itself.
    refine Clause.bound_compile (plain document ?_) own compiled binds
    obtain ⟨members, rfl, -⟩ := Clause.ofJson_ok own
    exact .head _
  · obtain ⟨branches, made, chosen⟩ := Result.bind_ok compiled
    cases chosen
    -- Branches that are left out bind nothing, and neither does leaving them out.
    have kept : ((branches.filter fun branch => !branch.isEmpty).map bound).sum
        ≤ (branches.map bound).sum :=
      List.Sublist.sum_le_sum (List.filter_sublist.map bound) fun _ _ => Nat.zero_le _
    rw [bound_any] at binds ⊢
    have paid : 2 * (branches.map bound).sum + 3 ≤ Json.itemsSpan items :=
      bound_branches plain each (Result.mapM_ok made) (Nat.lt_of_lt_of_le binds kept)
    rw [Json.span]
    omega

end Filter

end RowFilter
