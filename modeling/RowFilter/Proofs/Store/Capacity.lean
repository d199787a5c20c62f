import RowFilter.Proofs.Filter.Binding
import RowFilter.Proofs.Store.Scope

/-! What is asked with a filter that is read from text binds no more values than a backend takes. -/

namespace RowFilter

open Sql Sql.Fragment

variable {σ α β : Type}

/-- A condition binds as many values in its clause as by itself. -/
theorem Predicate.length_values_clause (predicate : Predicate) (backend : Backend) :
    (values (predicate.clause backend)).length = predicate.bound := by
  -- Both count the sites with values, one behind the word of the clause.
  rw [values_clause, parameters, List.length_map, bound]

namespace Filter

/-- A filter that is read from a text has been read from the document of the text, which takes no
more characters than the limit has bytes. -/
theorem parse_ok {text : String} {filter : Filter} (parsed : parse text = .ok filter) :
    text.utf8ByteSize ≤ maxFilterBytes ∧
      ∃ document, Json.read text = .ok document ∧ ofJson document = .ok filter := by
  -- The size is tested before the text is read, and the number of clauses behind that.
  unfold parse at parsed
  split at parsed
  · cases parsed
  rename_i short
  split at parsed
  · cases parsed
  rename_i document read
  split at parsed
  · cases parsed
  exact ⟨Nat.not_lt.mp short, document, read, parsed⟩

/-- A filter that is read from a text without searches compiles to a condition that binds fewer
values than half the bytes of the text. -/
theorem bound_parse {text : String} {filter : Filter} (parsed : parse text = .ok filter)
    (plain : ∀ document, Json.read text = .ok document →
      ∀ clause ∈ clausesOf document, Clause.IsSearchless clause) (table : Table) :
    ∃ predicate, filter.compile table = .ok predicate ∧
      (0 < predicate.bound → 2 * predicate.bound + 4 ≤ text.utf8ByteSize) ∧
      predicate.bound ≤ 32766 := by
  -- The reader has looked at the length of the text, and the condition pays for what it binds.
  obtain ⟨short, document, read, own⟩ := parse_ok parsed
  obtain ⟨predicate, compiled⟩ :=
    (compile_failsFirst table filter).ok_iff.mpr (faults_of_ofJson own)
  have paid := bound_compile (plain document read) own compiled
  have taken := Json.span_le_of_read read
  -- The limit leaves room for 65532 characters, which is twice as many as the least backend takes.
  have limit : maxFilterBytes = 65536 := rfl
  refine ⟨predicate, compiled, fun binds => Nat.le_trans (paid binds) taken, ?_⟩
  rcases Nat.eq_zero_or_pos predicate.bound with none | binds
  · omega
  · have enough := paid binds
    omega

end Filter

/-- Whether what an operation over a recording link has sent binds no more values than the backend
takes. -/
def Backend.Takes (backend : Backend) (outcome : β × σ × List Statement) : Prop :=
  -- Statements are counted one by one, as each of them is sent by itself.
  ∀ statement ∈ outcome.2.2, (statement.render backend).bound.size ≤ backend.maxParameters

/-- An operation about a statement that the backend takes sends nothing else. -/
theorem Operation.SendsOnce.takes {operation : (τ : Type) → Link τ → Operation τ α}
    {made : Except StoreError Statement} (once : Operation.SendsOnce operation made)
    {backend : Backend} (fits : ∀ statement, made = .ok statement →
      (statement.render backend).bound.size ≤ backend.maxParameters)
    (link : Link σ) (state : σ) : backend.Takes (operation _ link.recorded (state, [])) := by
  -- At most this one statement has been sent.
  intro statement listed
  cases made with
  | error error =>
    rw [once.refused rfl] at listed
    cases listed
  | ok own =>
    rw [once.sent rfl] at listed
    rw [List.mem_singleton.mp listed]
    exact fits own rfl

namespace Store

/-- Whether all that a store is asked with a filter binds no more values than its backend takes. -/
structure Takes (store : Store) (filter : Filter) (link : Link σ) (model : RowModel α)
    (state : σ) : Prop where
  find : ∀ options : FindOptions, store.backend.Takes
    (store.find link.recorded model { options with filter := some filter } (state, []))
  findOne : ∀ options : FindOneOptions, store.backend.Takes
    (store.findOne link.recorded model { options with filter } (state, []))
  count : store.backend.Takes (store.count link.recorded (some filter) (state, []))
  delete : ∀ options : ChangeOptions, store.backend.Takes
    (store.delete link.recorded model { options with filter } (state, []))
  stream : ∀ options : StreamOptions, store.backend.Takes
    (store.stream link.recorded model { options with filter := some filter } (state, []))

variable (store : Store) (link : Link σ) (model : RowModel α) (state : σ)

/-- A store takes a filter whose condition binds few enough values. -/
theorem takes_of_bound {filter : Filter} {predicate : Predicate}
    (compiled : filter.compile store.table = .ok predicate)
    (few : predicate.bound ≤ store.backend.maxParameters) :
    store.Takes filter link model state := by
  -- A change binds what it assigns besides, which is nothing for a removal.
  have kept : (values (predicate.kept.clause store.backend)).length
      ≤ store.backend.maxParameters := by
    rw [Predicate.clause_kept, Predicate.length_values_clause]
    exact few
  -- Queries, counts and removals bind nothing besides their condition.
  have query : ∀ projection order page, (Statement.render store.backend
      ⟨store.table, .select, projection, predicate.kept, order, page⟩).bound.size
        ≤ store.backend.maxParameters := by
    intro projection order page
    rw [Statement.render_select]
    exact kept
  refine ⟨fun options => ?_, fun options => ?_, ?_, fun options => ?_, fun options => ?_⟩
  · refine (store.find_sendsOnce model _).takes (fun statement made => ?_) link state
    cases (filtered_ok compiled _ _ _ _).symm.trans made
    exact query _ _ _
  · refine (store.findOne_sendsOnce model _).takes (fun statement made => ?_) link state
    cases (filtered_ok compiled _ _ _ _).symm.trans made
    exact query _ _ _
  · refine (store.count_sendsOnce _).takes (fun statement made => ?_) link state
    cases (filtered_ok compiled _ _ _ _).symm.trans made
    rw [Statement.render_count]
    exact kept
  · refine (store.delete_sendsOnce model _).takes (fun statement made => ?_) link state
    -- A condition that constrains nothing is refused before anything is sent.
    have narrow := (narrowed_ok compiled _ _ _ _ _).symm.trans made
    split at narrow
    · cases narrow
    · cases narrow
      have removal := Statement.render_delete store.backend store.table options.projection
        predicate.kept [] none
      exact Nat.le_trans (Nat.le_of_eq (congrArg (·.bound.size) removal)) kept
  · have made : store.streamStatement { options with filter := some filter } = .ok _ :=
      filtered_ok compiled _ _ _ _
    intro statement listed
    rw [store.stream_sent model _ made] at listed
    rw [List.mem_singleton.mp listed]
    exact query _ _ _

/-- A filter that is read from a text in which no clause has the key of a search compiles for every
table, to a condition that binds so few values that twice as many and four are no more than the
bytes of the text; no operation with the filter binds more values than its backend takes. -/
theorem parse_takes {text : String} {filter : Filter} (parsed : Filter.parse text = .ok filter)
    (plain : ∀ document, Json.read text = .ok document →
      ∀ clause ∈ Filter.clausesOf document, Clause.IsSearchless clause) :
    (∀ table, ∃ predicate, filter.compile table = .ok predicate ∧ ∀ backend,
      let bound := (render backend ((predicate.fragment? backend).getD [])).bound.size
      (0 < bound → 2 * bound + 4 ≤ text.utf8ByteSize) ∧ bound ≤ 32766) ∧
    ∀ (store : Store) (σ α : Type) (link : Link σ) (model : RowModel α) (state : σ),
      store.Takes filter link model state := by
  -- The one bound is on what is read, and the other one on what is sent with it.
  refine ⟨fun table => ?_, fun store σ α link model state => ?_⟩
  · obtain ⟨predicate, compiled, paid, few⟩ := Filter.bound_parse parsed plain table
    refine ⟨predicate, compiled, fun backend => ?_⟩
    simp only [Predicate.size_bound_render]
    exact ⟨paid, few⟩
  · obtain ⟨predicate, compiled, -, few⟩ := Filter.bound_parse parsed plain store.table
    refine store.takes_of_bound link model state compiled (Nat.le_trans few ?_)
    -- The least that a backend takes is just enough.
    cases store.backend <;> decide

/-- A list of two numbers binds two values, and the text that they are read from has more than eight
bytes. -/
theorem parse_takes_books :
    let text := "\x7b\"id\":\x7b\"$in\":[1,2]\x7d\x7d"
    let filter : Filter := .clause [.field "id" (.operators [(.oneOf, .list [.int 1, .int 2])])]
    Filter.parse text = .ok filter ∧
    (∃ predicate, filter.compile .books = .ok predicate ∧ ∀ backend,
      let bound := (render backend ((predicate.fragment? backend).getD [])).bound.size
      (0 < bound → 2 * bound + 4 ≤ text.utf8ByteSize) ∧ bound ≤ 32766) ∧
    Takes ⟨.books, .sqlite, .default⟩ filter
      ⟨fun _ count => (.ok [], count + 1), fun _ count => ([], count + 1)⟩ RowModel.record 0 := by
  -- The text and its document are read by computation, and no key in it is that of a search.
  intro text filter
  have parsed : Filter.parse text = .ok filter := by decide +kernel
  have read : Json.read text = .ok (.object [("id", .object [("$in",
      .array [.integer ⟨1, by decide⟩, .integer ⟨2, by decide⟩])])]) := by decide +kernel
  have plain : ∀ document, Json.read text = .ok document →
      ∀ clause ∈ Filter.clausesOf document, Clause.IsSearchless clause := by
    intro document own clause listed members same
    cases read.symm.trans own
    cases List.mem_singleton.mp listed
    cases same
    decide
  obtain ⟨compiles, takes⟩ := parse_takes parsed plain
  exact ⟨parsed, compiles .books, takes _ _ _ _ _ _⟩

end Store

end RowFilter
