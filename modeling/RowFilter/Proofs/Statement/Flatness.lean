import RowFilter.Proofs.Filter.Flat
import RowFilter.Proofs.Statement.Restriction

/-! Conditions that are added to a statement one by one form a flat conjunction, unless the first of
them is no conjunction and the second one is: that one is not opened. -/

namespace RowFilter

namespace Predicate

/-- The conditions that constrain rows. -/
def constraining (conditions : List Predicate) : List Predicate :=
  -- Without a constraint a condition is not added at all.
  conditions.filter fun condition => !condition.isEmpty

/-- Whether the first of the conditions that constrain rows is no conjunction, and the second one
is. -/
def nests (conditions : List Predicate) : Bool :=
  -- Whatever stands behind these two is opened, and so it does not matter.
  match constraining conditions with
  | first :: second :: _ => !first.isAll && second.isAll
  | _ => false

/-- What a condition comes to when others are added to it, all of which constrain rows. The third
one and those behind it are opened in any case, and the second one only if the first one is. -/
def gathered (first : Predicate) : List Predicate → Predicate
  -- With no other condition the first one stays by itself.
  | [] => first
  | second :: rest =>
    .all ((if first.isAll then first.opened ++ second.opened else [first, second])
      ++ rest.flatMap opened)

variable {first second : Predicate} {conditions : List Predicate}

/-- Two conditions that constrain rows stand in a conjunction; the second one is opened only where
the first one is. -/
theorem and_eq (before : first.isEmpty = false) (behind : second.isEmpty = false) :
    first.and second
      = .all (if first.isAll then first.opened ++ second.opened else [first, second]) := by
  -- Neither of the two is left out, and then their forms decide.
  unfold Predicate.and
  rw [if_neg (by simp [behind]), if_neg (by simp [before])]
  cases first with
  | all parts => cases second <;> rfl
  | _ => rfl

/-- A conjunction that constrains rows takes in what is added to it, and opens it. -/
theorem foldl_and_all {parts : List Predicate} (before : (Predicate.all parts).isEmpty = false)
    (behind : ∀ condition ∈ conditions, condition.isEmpty = false) :
    conditions.foldl Predicate.and (.all parts) = .all (parts ++ conditions.flatMap opened) := by
  -- The conjunction that has come about so far is quantified over.
  induction conditions generalizing parts with
  | nil => simp
  | cons condition rest ih =>
    obtain ⟨own, others⟩ := List.forall_mem_cons.mp behind
    have joined : (Predicate.all parts).and condition = .all (parts ++ condition.opened) :=
      and_eq before own
    have constrains : (Predicate.all (parts ++ condition.opened)).isEmpty = false := by
      rw [← joined, isEmpty_and, before, Bool.false_and]
    rw [List.foldl_cons, joined, ih constrains others, List.append_assoc, List.flatMap_cons]

/-- Conditions that all constrain rows are gathered when they are added one by one. -/
theorem foldl_and_gathered (before : first.isEmpty = false)
    (behind : ∀ condition ∈ conditions, condition.isEmpty = false) :
    conditions.foldl Predicate.and first = first.gathered conditions := by
  -- By whether there is a second condition, behind which the conjunction only grows.
  cases conditions with
  | nil => rfl
  | cons second rest =>
    obtain ⟨own, others⟩ := List.forall_mem_cons.mp behind
    -- From the second condition on there is a conjunction.
    have joined := and_eq before own
    have constrains : (first.and second).isEmpty = false := by
      rw [isEmpty_and, before, Bool.false_and]
    rw [joined] at constrains
    rw [List.foldl_cons, joined, foldl_and_all constrains others, gathered]

/-- Conditions without a constraint do nothing among those that are added. -/
theorem foldl_and_constraining (first : Predicate) (conditions : List Predicate) :
    conditions.foldl Predicate.and first = (constraining conditions).foldl Predicate.and first := by
  -- By induction on the conditions, each of which either is added or changes nothing.
  induction conditions generalizing first with
  | nil => rfl
  | cons condition rest ih =>
    rw [List.foldl_cons, ih]
    cases empty : condition.isEmpty with
    | true =>
      have same : first.and condition = first := if_pos empty
      simp [constraining, empty, same]
    | false => simp [constraining, empty]

/-- What stands among the conditions that constrain rows does so. -/
theorem isEmpty_of_mem_constraining {condition : Predicate}
    (listed : condition ∈ constraining conditions) : condition.isEmpty = false := by
  -- This is how they have been chosen.
  simpa using (List.mem_filter.mp listed).2

/-- Conditions that are added one by one are what is gathered from those that constrain rows. -/
theorem foldl_and_eq (first : Predicate) (conditions : List Predicate) :
    conditions.foldl Predicate.and first
      = match constraining (first :: conditions) with
        | [] => first
        | one :: rest => one.gathered rest := by
  -- The first condition is treated like the others, if it constrains rows.
  rw [foldl_and_constraining]
  have constrains := @isEmpty_of_mem_constraining conditions
  cases empty : first.isEmpty with
  | false =>
    have kept : constraining (first :: conditions) = first :: constraining conditions := by
      simp [constraining, empty]
    rw [kept]
    exact foldl_and_gathered empty fun _ listed => constrains listed
  | true =>
    have skipped : constraining (first :: conditions) = constraining conditions := by
      simp [constraining, empty]
    rw [skipped]
    -- The first condition that constrains rows takes the place of what there was.
    cases some : constraining conditions with
    | nil => rfl
    | cons one rest =>
      rw [some] at constrains
      have own : one.isEmpty = false := constrains (List.mem_cons_self ..)
      have same : first.and one = one := by simp [Predicate.and, own, empty]
      rw [List.foldl_cons, same]
      exact foldl_and_gathered own fun _ listed => constrains (List.mem_cons_of_mem _ listed)

/-- Flat conditions are flat also where they constrain rows. -/
theorem isFlat_of_mem_constraining (flat : ∀ condition ∈ conditions, condition.isFlat = true) :
    ∀ condition ∈ constraining conditions, condition.isFlat = true :=
  -- They are some of the conditions.
  fun condition listed => flat condition (List.mem_of_mem_filter listed)

/-- Gathered conditions are flat unless the second one is a conjunction that is not opened. -/
theorem isFlat_gathered (own : first.isFlat = true) (next : second.isFlat = true)
    (behind : ∀ condition ∈ conditions, condition.isFlat = true) :
    (first.gathered (second :: conditions)).isFlat = (first.isAll || !second.isAll) := by
  -- What is opened makes flat parts, and so the first two decide.
  rw [gathered, isFlat_all, List.all_append, all_isConjunct_flatMap behind, Bool.and_true]
  -- Behind what is no conjunction the second condition stands by itself, whatever it is.
  cases opens : first.isAll with
  | true => simp [← isFlat_eq_opened, own, next]
  | false => simp [isConjunct, own, next, opens]

/-- Flat conditions that are added one by one come to a flat one unless they nest. -/
theorem isFlat_foldl_and (flat : ∀ condition ∈ first :: conditions, condition.isFlat = true) :
    (conditions.foldl Predicate.and first).isFlat = !nests (first :: conditions) := by
  -- Only the conditions that constrain rows are in the result.
  have each := isFlat_of_mem_constraining flat
  rw [foldl_and_eq, nests]
  -- One condition alone stays as it is, and two of them decide about all.
  match constraining (first :: conditions), each with
  | [], _ => exact flat first (List.mem_cons_self ..)
  | [one], each => exact each one (List.mem_cons_self ..)
  | one :: other :: rest, each =>
    obtain ⟨own, next, behind⟩ : one.isFlat = true ∧ other.isFlat = true ∧
        ∀ condition ∈ rest, condition.isFlat = true := by simpa using each
    show (one.gathered (other :: rest)).isFlat = !(!one.isAll && other.isAll)
    rw [isFlat_gathered own next behind, Bool.not_and, Bool.not_not]

/-- Two flat conditions together are flat, unless the second one is a conjunction that the first one
does not open. -/
theorem isFlat_and (own : first.isFlat = true) (next : second.isFlat = true) :
    (first.and second).isFlat
      = (first.isEmpty || second.isEmpty || first.isAll || !second.isAll) := by
  -- The two are the shortest case of adding conditions one by one.
  have joined := @isFlat_foldl_and first [second] (by simp [own, next])
  rw [show first.and second = [second].foldl Predicate.and first from rfl, joined]
  -- There are two that constrain rows, or nothing is joined.
  cases before : first.isEmpty <;> cases behind : second.isEmpty <;>
    simp [nests, constraining, before, behind]

/-- Flat conditions that nest come to a conjunction in which one stands in the second place, and
which would be flat if it were opened. -/
theorem foldl_and_nested (flat : ∀ condition ∈ first :: conditions, condition.isFlat = true)
    (nested : nests (first :: conditions) = true) :
    ∃ one parts behind, conditions.foldl Predicate.and first = .all (one :: .all parts :: behind) ∧
      (Predicate.all (one :: (parts ++ behind))).isFlat = true := by
  -- Only the conditions that constrain rows are in the result.
  have each := isFlat_of_mem_constraining flat
  rw [foldl_and_eq]
  rw [nests] at nested
  -- Only where at least two conditions constrain rows can they nest.
  match constraining (first :: conditions), each, nested with
  | one :: other :: rest, each, nested =>
    obtain ⟨own, next, behind⟩ : one.isFlat = true ∧ other.isFlat = true ∧
        ∀ condition ∈ rest, condition.isFlat = true := by simpa using each
    obtain ⟨plain, group⟩ : one.isAll = false ∧ other.isAll = true := by simpa using nested
    cases other with
    | all parts =>
      refine ⟨one, parts, rest.flatMap opened, by simp [gathered, plain], ?_⟩
      -- The parts of the second condition can be parts of a flat conjunction, as all others are.
      rw [isFlat_all] at next ⊢
      rw [List.all_cons, List.all_append, next, all_isConjunct_flatMap behind, isConjunct, plain,
        own]
      rfl
    | _ => cases group

end Predicate

open Predicate

namespace Restriction

variable {table : Table} {statement : Statement} {restrictions : List Restriction}

/-- The conditions of restrictions are flat if those that are made already are. -/
theorem isFlat_predicates
    (made : ∀ predicate, .condition predicate ∈ restrictions → predicate.isFlat = true) :
    ∀ predicate ∈ predicates table restrictions, predicate.isFlat = true := by
  -- What has been made already is given, and what a filter compiles to is flat.
  intro predicate listed
  obtain ⟨restriction, member, own⟩ := List.mem_filterMap.mp listed
  cases restriction with
  | condition given => cases own; exact made _ member
  | ofFilter filter =>
    cases compiled : filter.compile table with
    | error error => simp [compile, compiled, Except.toOption] at own
    | ok given =>
      obtain rfl : given = predicate := by simpa [compile, compiled, Except.toOption] using own
      exact Filter.isFlat_compile compiled

/-- The conditions of filters that constrain rows are those of the filters that do. -/
theorem forall₂_constraining (table : Table) (filters : List Filter) :
    List.Forall₂ (fun predicate filter => filter.compile table = .ok predicate)
      (constraining (predicates table (filters.map .ofFilter)))
      (filters.filter (Filter.constrains table)) := by
  -- A filter that fails, or that does not constrain, is left out on both sides.
  induction filters with
  | nil => exact .nil
  | cons filter rest ih =>
    cases compiled : filter.compile table with
    | error error =>
      simpa [constraining, predicates, compile, Filter.constrains, compiled,
        Except.toOption] using ih
    | ok predicate =>
      cases empty : predicate.isEmpty <;>
        simpa [constraining, predicates, compile, Filter.constrains, compiled, empty,
          Except.toOption] using ih

/-- Filters come to conditions that nest exactly if a choice is the first of them that constrains
rows, and a clause the second one. -/
theorem nests_predicates (table : Table) (filters : List Filter) :
    nests (predicates table (filters.map .ofFilter)) = true ↔
      ∃ choice entries rest, filters.filter (Filter.constrains table)
        = .anyOf choice :: .clause entries :: rest := by
  -- The conditions that constrain rows belong to the filters that do, in order.
  have related := forall₂_constraining table filters
  rw [nests]
  generalize constraining (predicates table (filters.map .ofFilter)) = conditions at related
  generalize filters.filter (Filter.constrains table) = constrain at related
  cases related with
  | nil => simp
  | @cons first filter _ _ own behind =>
    cases behind with
    | nil => simp
    | @cons second next _ _ later others =>
      -- Both conditions tell their filters apart, and what is no clause is a choice.
      have plain := Filter.isAll_compile own
      have group := Filter.isAll_compile later
      cases filter <;> cases next <;> simp_all

/-- Two flat conditions together are flat, unless both constrain rows, the first one is no
conjunction and the second one is. A statement with a flat filter that is restricted by flat
conditions and by filters again and again keeps a flat filter, unless the first condition that
constrains rows is no conjunction and the second one is. In that case the conjunction stands in the
second place of the filter; opened there it would leave a flat filter, which selects the same rows.
Filters alone, on a statement without a constraint, come to that exactly if the first of them that
constrains rows is a choice and the second one a clause. -/
theorem isFlat_imposeAll (flat : statement.filter.isFlat = true)
    (made : ∀ predicate, .condition predicate ∈ restrictions → predicate.isFlat = true) :
    let last := ((imposeAll restrictions).run statement).2
    (∀ first second : Predicate, first.isFlat = true → second.isFlat = true →
      (first.and second).isFlat
        = (first.isEmpty || second.isEmpty || first.isAll || !second.isAll)) ∧
    last.filter.isFlat = !nests (statement.filter :: predicates statement.table restrictions) ∧
    (last.filter.isFlat = false → ∃ one parts behind,
      last.filter = .all (one :: .all parts :: behind) ∧
      (Predicate.all (one :: (parts ++ behind))).isFlat = true ∧
      ∀ row, (Predicate.all (one :: (parts ++ behind))).selects row = last.filter.selects row) ∧
    ∀ filters : List Filter, restrictions = filters.map .ofFilter →
      statement.filter.isEmpty = true →
      (last.filter.isFlat = false ↔ ∃ choice entries rest,
        filters.filter (Filter.constrains statement.table)
          = .anyOf choice :: .clause entries :: rest) := by
  -- All four parts go by which conditions constrain rows, and which of these are conjunctions.
  intro last
  have each : ∀ predicate ∈ statement.filter :: predicates statement.table restrictions,
      predicate.isFlat = true := List.forall_mem_cons.mpr ⟨flat, isFlat_predicates made⟩
  have filtered : last.filter
      = (predicates statement.table restrictions).foldl Predicate.and statement.filter := by
    rw [show last = _ from congrArg Prod.snd (imposeAll_eq restrictions statement)]
  have decided : last.filter.isFlat
      = !nests (statement.filter :: predicates statement.table restrictions) := by
    rw [filtered, isFlat_foldl_and each]
  refine ⟨fun first second own next => isFlat_and own next, decided, fun nested => ?_, ?_⟩
  · rw [decided, Bool.not_eq_false'] at nested
    obtain ⟨one, parts, behind, same, opens⟩ := foldl_and_nested each nested
    refine ⟨one, parts, behind, filtered.trans same, opens, fun row => ?_⟩
    rw [filtered, same]
    simp [selects_all]
  · rintro filters rfl empty
    -- What the statement has already does not count.
    have skipped : nests (statement.filter :: predicates statement.table (filters.map .ofFilter))
        = nests (predicates statement.table (filters.map .ofFilter)) := by
      simp [nests, constraining, empty]
    rw [decided, Bool.not_eq_false', skipped, nests_predicates]

/-- A query for books that is restricted by a clause and then by a choice has a flat filter, and one
that is restricted in the other order has not. -/
theorem isFlat_imposeAll_books :
    let statement := Statement.new .books .select
    let title : Filter := .clause [.field "title" (.equals (.text "x"))]
    let choice : Filter :=
      .anyOf [[.field "id" (.equals (.int 1))], [.field "id" (.equals (.int 2))]]
    let restrictions : List Restriction :=
      [.condition (.any [.all []]), .ofFilter title, .ofFilter choice, .ofFilter title]
    statement.filter.isFlat = true ∧
    (∀ predicate, .condition predicate ∈ restrictions → predicate.isFlat = true) ∧
    ((imposeAll restrictions).run statement).2.filter.isFlat = true ∧
    ((imposeAll ([choice, title].map .ofFilter)).run statement).2.filter.isFlat = false := by
  -- The one order is decided by the conditions, and the other one by the filters.
  intro statement title choice restrictions
  have made : ∀ predicate, .condition predicate ∈ restrictions → predicate.isFlat = true := by
    intro predicate listed
    obtain rfl : predicate = .any [.all []] := by simpa [restrictions] using listed
    rfl
  obtain ⟨-, decided, -⟩ := @isFlat_imposeAll statement restrictions rfl made
  obtain ⟨-, -, -, turned⟩ :=
    @isFlat_imposeAll statement ([choice, title].map .ofFilter) rfl (by simp)
  exact ⟨rfl, made, decided, (turned [choice, title] rfl rfl).mpr ⟨_, _, _, rfl⟩⟩

/-- A test and a conjunction are flat, and together they are not. Neither is the filter of a query
for books that a choice of numbers and then a clause with a title are applied to. -/
theorem isFlat_imposeAll_not :
    let first : Predicate := .isNull "id" false
    let second : Predicate := .all [.isNull "title" false, .never]
    let statement := Statement.new .books .select
    let title : Filter := .clause [.field "title" (.equals (.text "x"))]
    let choice : Filter :=
      .anyOf [[.field "id" (.equals (.int 1))], [.field "id" (.equals (.int 2))]]
    let chosen : Predicate :=
      .any [.all [.compare "id" .equal (.int 1) false], .all [.compare "id" .equal (.int 2) false]]
    let last := { statement with
      filter := .all [chosen, .all [.compare "title" .equal (.text "x") false]] }
    (first.isFlat = true ∧ second.isFlat = true ∧ (first.and second).isFlat = false) ∧
    statement.filter.isFlat = true ∧
    (statement.applyFilter choice >>= fun next => next.applyFilter title) = .ok last ∧
    last.filter.isFlat = false := by
  -- Everything about these conditions and filters is computed.
  intro first second statement title choice chosen last
  exact ⟨⟨rfl, rfl, rfl⟩, rfl, rfl, rfl⟩

end Restriction

end RowFilter
