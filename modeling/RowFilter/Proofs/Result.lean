import Mathlib.Data.List.Forall2

/-! What a computation that may fail has done when it succeeds. -/

namespace RowFilter.Result

variable {ε α β : Type}

/-- Two steps succeed only if the first one does, and the second one with what the first yields. -/
theorem bind_ok {first : Except ε α} {next : α → Except ε β} {result : β}
    (succeeded : first >>= next = .ok result) :
    ∃ value, first = .ok value ∧ next value = .ok result := by
  -- A failure of the first step would be that of both.
  cases first with
  | error failure => cases succeeded
  | ok value => exact ⟨value, rfl, succeeded⟩

/-- What is made of a result is made only if there is one. -/
theorem map_ok {first : Except ε α} {make : α → β} {result : β}
    (succeeded : first.map make = .ok result) :
    ∃ value, first = .ok value ∧ make value = result := by
  -- A failure would be passed on as it is.
  cases first with
  | error failure => cases succeeded
  | ok value => exact ⟨value, rfl, Except.ok.inj succeeded⟩

/-- Two steps succeed exactly if the first one does, and the second one with what the first yields. -/
theorem bind_ok_iff {first : Except ε α} {next : α → Except ε β} {result : β} :
    first >>= next = .ok result ↔ ∃ value, first = .ok value ∧ next value = .ok result := by
  -- One way is known, and the other one is the computation itself.
  refine ⟨bind_ok, ?_⟩
  rintro ⟨value, rfl, succeeded⟩
  exact succeeded

/-- Two steps fail exactly as the first one does, or else as the second one does with what the first
yields. -/
theorem bind_error_iff {first : Except ε α} {next : α → Except ε β} {failure : ε} :
    first >>= next = .error failure
      ↔ first = .error failure ∨ ∃ value, first = .ok value ∧ next value = .error failure := by
  -- By the first step, behind which the second one either is taken or is not.
  cases first with
  | error own =>
    constructor
    · rintro ⟨⟩
      exact .inl rfl
    · rintro (⟨⟨⟩⟩ | ⟨value, ⟨⟩, -⟩)
      rfl
  | ok value =>
    constructor
    · exact fun failed => .inr ⟨value, rfl, failed⟩
    · rintro (⟨⟨⟩⟩ | ⟨other, ⟨⟩, failed⟩)
      exact failed

/-- What is made of a result is made exactly if there is one. -/
theorem map_ok_iff {first : Except ε α} {make : α → β} {result : β} :
    first.map make = .ok result ↔ ∃ value, first = .ok value ∧ make value = result := by
  -- One way is known, and the other one is the computation itself.
  refine ⟨map_ok, ?_⟩
  rintro ⟨value, rfl, rfl⟩
  rfl

/-- A change of its failures leaves a computation to succeed as it did. -/
theorem mapError_ok {δ : Type} {first : Except ε α} {change : ε → δ} {result : α}
    (succeeded : first.mapError change = .ok result) : first = .ok result := by
  -- Only what fails is changed.
  cases first with
  | error failure => cases succeeded
  | ok value => exact congrArg Except.ok (Except.ok.inj succeeded)

/-- A step for each item of a list succeeds only if it does for every item, in order. -/
theorem mapM_ok {step : α → Except ε β} {items : List α} {results : List β}
    (succeeded : items.mapM step = .ok results) :
    List.Forall₂ (fun result item => step item = .ok result) results items := by
  -- The steps are taken from the first item to the last one.
  induction items generalizing results with
  | nil => cases succeeded; exact .nil
  | cons item rest ih =>
    rw [List.mapM_cons] at succeeded
    obtain ⟨first, own, behind⟩ := bind_ok succeeded
    obtain ⟨more, others, joined⟩ := bind_ok behind
    cases joined
    exact .cons own (ih others)

/-- A step for each item of a list succeeds with given results if it does for every item. -/
theorem mapM_of_forall₂ {step : α → Except ε β} {items : List α} {results : List β}
    (each : List.Forall₂ (fun result item => step item = .ok result) results items) :
    items.mapM step = .ok results := by
  -- The steps are taken in the order of the items, and none of them ends the run early.
  induction each with
  | nil => rfl
  | cons own others ih =>
    rw [List.mapM_cons, own, ih]
    rfl

/-- What stands on the left of related lists is related to something on the right. -/
theorem exists_of_forall₂ {related : β → α → Prop} {results : List β} {items : List α}
    (each : List.Forall₂ related results items) {result : β} (listed : result ∈ results) :
    ∃ item ∈ items, related result item := by
  -- By induction on the two lists side by side, up to the one in question.
  induction each with
  | nil => cases listed
  | cons own others ih =>
    rcases List.mem_cons.mp listed with rfl | later
    · exact ⟨_, by simp, own⟩
    · obtain ⟨item, member, stepped⟩ := ih later
      exact ⟨item, List.mem_cons_of_mem _ member, stepped⟩

/-- What is the same of related items is the same, in order, of lists of them. -/
theorem map_eq_of_forall₂ {γ : Type} {related : β → α → Prop} {left : β → γ} {right : α → γ}
    {results : List β} {items : List α} (each : List.Forall₂ related results items)
    (same : ∀ result item, related result item → left result = right item) :
    results.map left = items.map right := by
  -- What holds of each pair carries over to the lists, since they are of the same length.
  induction each with
  | nil => rfl
  | cons own others ih => rw [List.map_cons, List.map_cons, same _ _ own, ih]

/-- If each item of a list is related to something, the list is related to a list. -/
theorem exists_forall₂ {related : β → α → Prop} {items : List α}
    (each : ∀ item ∈ items, ∃ result, related result item) :
    ∃ results, List.Forall₂ related results items := by
  -- By induction on the items, choosing for each of them.
  induction items with
  | nil => exact ⟨[], .nil⟩
  | cons item rest ih =>
    obtain ⟨⟨result, own⟩, behind⟩ := List.forall_mem_cons.mp each
    obtain ⟨others, more⟩ := ih behind
    exact ⟨result :: others, .cons own more⟩

/-- Each result of steps for a list is that of one of its items. -/
theorem mem_of_mapM {step : α → Except ε β} {items : List α} {results : List β}
    (succeeded : items.mapM step = .ok results) {result : β} (listed : result ∈ results) :
    ∃ item ∈ items, step item = .ok result :=
  -- The steps relate the results to the items in order.
  exists_of_forall₂ (mapM_ok succeeded) listed

/-- Steps that all succeed with a property give results that all have it. -/
theorem mapM_exists {step : α → Except ε β} {holds : β → Prop} {items : List α}
    (each : ∀ item ∈ items, ∃ result, step item = .ok result ∧ holds result) :
    ∃ results, items.mapM step = .ok results ∧ ∀ result ∈ results, holds result := by
  -- By induction on the items, none of which stops the steps.
  induction items with
  | nil => exact ⟨[], rfl, by simp⟩
  | cons item rest ih =>
    obtain ⟨⟨first, own, held⟩, behind⟩ := List.forall_mem_cons.mp each
    obtain ⟨others, more, all⟩ := ih behind
    refine ⟨first :: others, ?_, List.forall_mem_cons.mpr ⟨held, all⟩⟩
    rw [List.mapM_cons, own, more]
    rfl

/-- Steps that all succeed give all of their results, in order. -/
theorem mapM_eq_ok {step : α → Except ε β} {result : α → β} {items : List α}
    (each : ∀ item ∈ items, step item = .ok (result item)) :
    items.mapM step = .ok (items.map result) := by
  -- By induction on the items, none of which stops the steps.
  induction items with
  | nil => rfl
  | cons item rest ih =>
    obtain ⟨own, behind⟩ := List.forall_mem_cons.mp each
    rw [List.mapM_cons, own, ih behind]
    rfl

/-- Whether a computation fails with the first of some faults, and succeeds if there are none. -/
def FailsFirst : Except ε α → List ε → Prop
  -- More faults may follow, but only the first one is told.
  | .ok _, faults => faults = []
  | .error failure, faults => faults.head? = some failure

namespace FailsFirst

variable {first : Except ε α} {faults more : List ε}

/-- What is made of a result has the faults of the result. -/
theorem map (make : α → β) (fails : FailsFirst first faults) :
    FailsFirst (first.map make) faults := by
  -- A failure stays as it is, and so does its absence.
  cases first <;> exact fails

/-- Of two steps the faults of the first one come first, and those of the second one follow. -/
theorem bind {next : α → Except ε β} (fails : FailsFirst first faults)
    (behind : ∀ value, FailsFirst (next value) more) :
    FailsFirst (first >>= next) (faults ++ more) := by
  -- By the first step, whose failure is that of both.
  cases first with
  | error failure =>
    -- The second step is not taken, and the faults start with that of the first one.
    show (faults ++ more).head? = some failure
    rw [List.head?_append, show faults.head? = some failure from fails]
    rfl
  | ok value =>
    rw [show faults = [] from fails, List.nil_append]
    exact behind value

/-- A step for each item of a list has the faults of all items, in order. -/
theorem mapM {step : α → Except ε β} {faultsOf : α → List ε} (items : List α)
    (each : ∀ item, FailsFirst (step item) (faultsOf item)) :
    FailsFirst (items.mapM step) (items.flatMap faultsOf) := by
  -- By induction on the items, whose steps are taken one after the other.
  induction items with
  | nil => exact rfl
  | cons item rest ih =>
    rw [List.mapM_cons, List.flatMap_cons]
    exact (each item).bind fun value => ih.map (value :: ·)

/-- The failure is known from the faults alone. -/
theorem error_iff (fails : FailsFirst first faults) (failure : ε) :
    first = .error failure ↔ faults.head? = some failure := by
  -- A computation has a failure or a result, and the faults say which of them.
  cases first with
  | error own =>
    rw [show faults.head? = some own from fails]
    simp
  | ok value =>
    rw [show faults = [] from fails]
    simp

/-- There is a result exactly if there is no fault. -/
theorem ok_iff (fails : FailsFirst first faults) : (∃ value, first = .ok value) ↔ faults = [] := by
  -- A fault would be told, and without one nothing is told.
  cases first with
  | error own =>
    have some : faults.head? = some own := fails
    simp only [reduceCtorEq, exists_false, false_iff]
    rintro rfl
    cases some
  | ok value => exact ⟨fun _ => fails, fun _ => ⟨value, rfl⟩⟩

end FailsFirst

end RowFilter.Result
