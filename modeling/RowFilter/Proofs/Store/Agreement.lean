import RowFilter.Proofs.Store.Scope

/-! One filter means the same condition in every operation of a store. -/

namespace RowFilter

open Sql Sql.Fragment Statement

variable {σ α β : Type}

/-- A numeral is written in decimal. -/
theorem Sql.Fragment.textFrom_numeral (backend : Backend) (index number : Nat) :
    textFrom backend index [.numeral number] = toString number := by
  -- The digits are those that the numeral is shown with.
  simp [textFrom, chars, Piece.chars, Nat.repr_eq_ofList_toDigits]

/-- The cut of the rows as text. -/
theorem Statement.text_cut (backend : Backend) (limit offset : UInt32) :
    Fragment.text backend (cutFragment (some ⟨limit, offset⟩))
      = " LIMIT " ++ toString limit ++ " OFFSET " ++ toString offset := by
  -- The cut is split into its words and its numbers, none of which binds anything.
  have parts : cutFragment (some ⟨limit, offset⟩)
      = ([.blank, .word .limit, .blank] : Fragment) ++ ([.numeral limit.toNat] : Fragment)
        ++ ([.blank, .word .offset, .blank] : Fragment) ++ ([.numeral offset.toNat] : Fragment) :=
    rfl
  have limited : textFrom backend 1 [.blank, .word .limit, .blank] = " LIMIT " :=
    textFrom_between 1 .limit
  have skipped (index : Nat) :
      textFrom backend index [.blank, .word .offset, .blank] = " OFFSET " :=
    textFrom_between index .offset
  rw [text_eq, parts]
  simp only [textFrom_append, textFrom_numeral, limited, skipped]
  rfl

/-- A change binds one value for each assignment that is not null. -/
theorem Change.length_bound (change : Change) :
    change.bound.length = change.assignments.countP (·.2 ≠ .null) := by
  -- Null is the one document that is not bound; any other one is, if need be as it is written.
  rw [bound, List.length_filterMap_eq_countP]
  congr 1
  funext assignment
  cases assigned : assignment.2 with
  | integer number => cases word : number.toInt64? <;> simp [Parameter.ofJson?, word]
  | _ => simp [Parameter.ofJson?]

/-- What operations on the rows of one filter are asked for. -/
structure Inquiry where
  filter : Filter
  projection : Projection
  order : Option (List SortKey)
  limit : Option UInt32
  offset : Option UInt32
  onEmpty : EmptyPolicy
  transform : Option (Members → Members)

namespace Inquiry

variable (inquiry : Inquiry)

/-- The options of a query for a page of rows. -/
def find : FindOptions :=
  -- Nothing of the inquiry is left out but the transformation of the rows.
  ⟨inquiry.projection, inquiry.filter, inquiry.order, inquiry.limit, inquiry.offset,
    inquiry.onEmpty⟩

/-- The options of a query for the first row. -/
def findOne : FindOneOptions :=
  -- The page belongs to the operation, and so it is left out here.
  ⟨inquiry.projection, inquiry.filter, inquiry.order, inquiry.onEmpty⟩

/-- The options of a query for all rows one by one. -/
def stream : StreamOptions :=
  -- All rows are asked for, so that there is no page, and none is told to be missing.
  ⟨inquiry.projection, inquiry.filter, inquiry.order, inquiry.transform⟩

/-- The options of a change of rows. -/
def change : ChangeOptions := ⟨inquiry.projection, inquiry.filter, inquiry.onEmpty⟩

end Inquiry

namespace Store

/-- What an operation over a recording link has sent, as text with values. -/
def renderings (store : Store) (outcome : β × σ × List Statement) : List Rendering :=
  -- The failures and the results are set aside, as only the texts are compared.
  outcome.2.2.map (Statement.render store.backend)

/-- An operation about a statement sends its rendering. -/
theorem renderings_once (store : Store) {operation : (τ : Type) → Link τ → Operation τ α}
    {made : Except StoreError Statement} (once : Operation.SendsOnce operation made)
    {statement : Statement} (written : made = .ok statement) (link : Link σ) (state : σ) :
    store.renderings (operation _ link.recorded (state, []))
      = [statement.render store.backend] := by
  -- The link has recorded this statement and no other one.
  rw [renderings, once.sent written]
  rfl

/-- The text of the columns that an inquiry asks for. -/
def columnsText (store : Store) (inquiry : Inquiry) : String :=
  -- It is written without the word in front of it.
  Fragment.text store.backend inquiry.projection.fragment

/-- Every operation sends one statement about the same condition: all but an update have the same
clause, and the values that an update binds come in front of those of the others. -/
structure SendsAlike (store : Store) (link : Link σ) (model : RowModel α) (state : σ)
    (inquiry : Inquiry) (first : String × Json) (rest : List (String × Json))
    (query : Rendering) (clause raised : String) : Prop where
  stream : store.renderings (store.stream link.recorded model inquiry.stream (state, []))
    = [query]
  text : query.text = "SELECT " ++ store.columnsText inquiry ++ " FROM "
    ++ quotedText store.backend store.table.name ++ clause
    ++ Fragment.text store.backend (orderFragment (store.ordering inquiry.order))
  find : store.renderings (store.find link.recorded model inquiry.find (state, []))
    = [⟨query.text ++ " LIMIT " ++ toString (inquiry.limit.getD store.settings.defaultLimit)
      ++ " OFFSET " ++ toString (inquiry.offset.getD 0), query.bound⟩]
  findOne : store.renderings (store.findOne link.recorded model inquiry.findOne (state, []))
    = [⟨query.text ++ " LIMIT 1 OFFSET 0", query.bound⟩]
  count : store.renderings (store.count link.recorded inquiry.filter (state, []))
    = [⟨"SELECT COUNT(*) AS " ++ quotedText store.backend "count" ++ " FROM "
      ++ quotedText store.backend store.table.name ++ clause, query.bound⟩]
  delete : ¬ inquiry.filter.IsConditionless →
    store.renderings (store.delete link.recorded model inquiry.change (state, []))
      = [⟨Change.opening .delete store.backend store.table ++ clause ++ " RETURNING "
        ++ store.columnsText inquiry, query.bound⟩]
  update : ¬ inquiry.filter.IsConditionless →
    store.renderings
        (store.update link.recorded model (.object (first :: rest)) inquiry.change (state, []))
      = [⟨Change.opening (.update first rest) store.backend store.table ++ raised ++ " RETURNING "
        ++ store.columnsText inquiry, (Change.bound (.update first rest)).toArray ++ query.bound⟩]

/-- Every operation fails with the same error, which is the only item of a stream, and sends
nothing. -/
structure RefusesAlike (store : Store) (link : Link σ) (model : RowModel α) (state : σ)
    (inquiry : Inquiry) (first : String × Json) (rest : List (String × Json))
    (error : StoreError) : Prop where
  stream : store.stream link.recorded model inquiry.stream (state, [])
    = (⟨[.error error]⟩, state, [])
  find : store.find link.recorded model inquiry.find (state, []) = (.error error, state, [])
  findOne : store.findOne link.recorded model inquiry.findOne (state, [])
    = (.error error, state, [])
  count : store.count link.recorded inquiry.filter (state, []) = (.error error, state, [])
  delete : store.delete link.recorded model inquiry.change (state, []) = (.error error, state, [])
  update : store.update link.recorded model (.object (first :: rest)) inquiry.change (state, [])
    = (.error error, state, [])

variable (store : Store) (link : Link σ) (model : RowModel α) (state : σ) (inquiry : Inquiry)
variable (first : String × Json) (rest : List (String × Json))

/-- A change that has a condition sends its clause, counted behind the values it assigns. -/
theorem renderings_change {predicate : Predicate} (change : Change)
    (compiled : inquiry.filter.compile store.table = .ok predicate)
    (constrains : ¬ inquiry.filter.IsConditionless) :
    store.renderings (change.run store link.recorded model inquiry.change (state, []))
      = [⟨change.opening store.backend store.table
          ++ textFrom store.backend (1 + change.bound.length) (predicate.clause store.backend)
          ++ " RETURNING " ++ store.columnsText inquiry,
        change.bound.toArray ++ (values (predicate.clause store.backend)).toArray⟩] := by
  -- A change without a condition is refused, which this one is not.
  have once := change.run_sendsOnce store model inquiry.change
  have made : change.statement store inquiry.change = _ := narrowed_ok compiled _ _ _ _ _
  rw [if_neg (by rwa [Filter.isEmpty_compile compiled])] at made
  rw [renderings_once store once made, change.render_eq, Predicate.clause_kept,
    ← List.append_toArray]
  rfl

/-- The query for the rows that a condition selects, with a page if one is asked for. -/
def query (predicate : Predicate) (page : Option Page) : Rendering :=
  -- What does not constrain rows is left out of the statement, as the operations leave it out.
  Statement.render store.backend
    ⟨store.table, .select, inquiry.projection, predicate.kept, store.ordering inquiry.order, page⟩

/-- A query has the clause of its condition and binds the values of that, whatever its page. -/
theorem query_eq (predicate : Predicate) (page : Option Page) :
    store.query inquiry predicate page
      = ⟨"SELECT " ++ store.columnsText inquiry ++ " FROM "
          ++ quotedText store.backend store.table.name
          ++ textFrom store.backend 1 (predicate.clause store.backend)
          ++ Fragment.text store.backend (orderFragment (store.ordering inquiry.order))
          ++ Fragment.text store.backend (cutFragment page),
        (values (predicate.clause store.backend)).toArray⟩ := by
  -- Nothing but the page can stand behind the order.
  rw [query, render_select, Predicate.clause_kept]
  rfl

/-- A query for a page is the query for all rows with the cut behind it. -/
theorem query_page (predicate : Predicate) (limit offset : UInt32) :
    store.query inquiry predicate (some ⟨limit, offset⟩)
      = ⟨(store.query inquiry predicate none).text ++ " LIMIT " ++ toString limit
          ++ " OFFSET " ++ toString offset,
        (store.query inquiry predicate none).bound⟩ := by
  -- The cut stands last and binds nothing.
  have uncut : Fragment.text store.backend (cutFragment none) = "" := rfl
  rw [query_eq, query_eq, text_cut, uncut, String.append_empty]
  simp only [String.append_assoc]

/-- With a filter that compiles, every operation sends its condition. -/
theorem sendsAlike {predicate : Predicate}
    (compiled : inquiry.filter.compile store.table = .ok predicate) :
    SendsAlike store link model state inquiry first rest (store.query inquiry predicate none)
      (textFrom store.backend 1 (predicate.clause store.backend))
      (textFrom store.backend (1 + (Change.bound (.update first rest)).length)
        (predicate.clause store.backend)) where
  -- The filter is compiled in the same way by all of them, and each sends one statement.
  stream := by
    have made : store.streamStatement inquiry.stream = .ok _ := filtered_ok compiled _ _ _ _
    rw [renderings, store.stream_sent model _ made]
    rfl
  text := by
    have uncut : Fragment.text store.backend (cutFragment none) = "" := rfl
    rw [query_eq, uncut, String.append_empty]
  find := by
    have once := store.find_sendsOnce model inquiry.find
    have made : store.findStatement inquiry.find = .ok _ := filtered_ok compiled _ _ _ _
    rw [renderings_once store once made]
    exact congrArg ([·]) (store.query_page inquiry predicate _ _)
  findOne := by
    -- The cut behind the first row is the one of a page of one row.
    have once := store.findOne_sendsOnce model inquiry.findOne
    have made : store.findOneStatement inquiry.findOne = .ok _ := filtered_ok compiled _ _ _ _
    rw [renderings_once store once made]
    have cut : " LIMIT 1 OFFSET 0"
        = " LIMIT " ++ toString (1 : UInt32) ++ " OFFSET " ++ toString (0 : UInt32) := by decide
    rw [cut, ← String.append_assoc, ← String.append_assoc, ← String.append_assoc]
    exact congrArg ([·]) (store.query_page inquiry predicate 1 0)
  count := by
    have once := store.count_sendsOnce inquiry.filter
    have made : store.countStatement inquiry.filter = .ok _ := filtered_ok compiled _ _ _ _
    rw [renderings_once store once made, query_eq, render_count, Predicate.clause_kept]
  delete constrains := by
    have sent := store.renderings_change link model state inquiry .delete compiled constrains
    -- A removal binds nothing in front of its condition, which is counted from one therefore.
    have nothing : Change.bound .delete = [] := rfl
    rw [nothing, List.length_nil, Nat.add_zero, Array.empty_append] at sent
    rw [query_eq]
    exact sent
  update constrains := by
    rw [query_eq]
    exact store.renderings_change link model state inquiry (.update first rest) compiled constrains

/-- With a filter that does not compile, every operation is refused. -/
theorem refusesAlike {error : FilterError}
    (failed : inquiry.filter.compile store.table = .error error) :
    RefusesAlike store link model state inquiry first rest (.filter error) where
  -- The filter is compiled before anything is sent.
  stream := store.stream_refused model inquiry.stream (filtered_error failed) link state
  find := (store.find_sendsOnce model inquiry.find).refused (filtered_error failed) link state
  findOne :=
    (store.findOne_sendsOnce model inquiry.findOne).refused (filtered_error failed) link state
  count := (store.count_sendsOnce inquiry.filter).refused (filtered_error failed) link state
  delete :=
    (Change.delete.run_sendsOnce store model inquiry.change).refused (narrowed_error failed) link
      state
  update :=
    ((Change.update first rest).run_sendsOnce store model inquiry.change).refused
      (narrowed_error failed) link state

/-- The operations that take a filter have the same condition, which is the clause of what the filter
compiles to: queries, counts and removals write it with its places counted from one and bind its
values, and an update writes it with its places raised by the number of values it assigns. A filter
that does not compile is reported by all of them alike. -/
theorem operations_agree :
    (∀ predicate, inquiry.filter.compile store.table = .ok predicate →
      let condition := predicate.clause store.backend
      let assigned := (first :: rest).countP (·.2 ≠ .null)
      let clause := textFrom store.backend 1 condition
      let raised := textFrom store.backend (1 + assigned) condition
      SendsAlike store link model state inquiry first rest (store.query inquiry predicate none)
        clause raised ∧
      tokens? store.backend clause = some (numbered store.backend 1 condition) ∧
      tokens? store.backend raised
        = some ((numbered store.backend 1 condition).map (Token.raised store.backend assigned))) ∧
    (∀ error, inquiry.filter.compile store.table = .error error →
      RefusesAlike store link model state inquiry first rest (.filter error)) := by
  -- Whether the filter compiles is the same question for every operation.
  refine ⟨fun predicate compiled => ?_,
    fun error failed => store.refusesAlike link model state inquiry first rest failed⟩
  intro condition assigned clause raised
  have counted : (Change.bound (.update first rest)).length = assigned :=
    Change.length_bound (.update first rest)
  have spaced : Spaced condition := predicate.spaced_clause
  have alike := store.sendsAlike link model state inquiry first rest compiled
  rw [counted] at alike
  -- The clause of the update starts behind the values it assigns, and only its numbers differ.
  refine ⟨alike, tokens?_textFrom spaced 1, ?_⟩
  rw [tokens?_textFrom spaced, numbered_raised]

/-- A range of numbers is asked for alike by all operations, where an update binds one value before
it, and a list is refused by all of them where a number belongs. -/
theorem operations_agree_books :
    let store : Store := ⟨.books, .postgres, .default⟩
    let silent : Link Nat := ⟨fun _ count => (.ok [], count + 1), fun _ count => ([], count + 1)⟩
    let inquiry (operator : Operator) (operand : Operand) : Inquiry :=
      ⟨.clause [.field "id" (.operators [(operator, operand)])], .all, none, some 5, none, .ignore,
        none⟩
    let range := inquiry .between (.range (.int 1) (.int 5))
    let predicate : Predicate := .all [.between "id" (.int 1) (.int 5) false false]
    let condition := predicate.clause .postgres
    let clause := textFrom .postgres 1 condition
    let raised := textFrom .postgres 2 condition
    clause = " WHERE \"id\" BETWEEN $1 AND $2" ∧ raised = " WHERE \"id\" BETWEEN $2 AND $3" ∧
    SendsAlike store silent RowModel.record 0 range ("title", .string "?") [("id", .null)]
      (store.query range predicate none) clause raised ∧
    tokens? .postgres clause = some (numbered .postgres 1 condition) ∧
    tokens? .postgres raised
      = some ((numbered .postgres 1 condition).map (Token.raised .postgres 1)) ∧
    RefusesAlike store silent RowModel.record 0 (inquiry .greater (.list [.int 1]))
      ("title", .string "?") [] (.filter (Operator.mismatch .greater "id")) := by
  -- The texts are computed, and the agreement is that of the general result.
  intro store silent inquiry range predicate condition clause raised
  obtain ⟨alike, read, shifted⟩ :=
    (operations_agree store silent RowModel.record 0 range ("title", .string "?")
      [("id", .null)]).1 predicate rfl
  exact ⟨by decide, by decide, alike, read, shifted,
    (operations_agree store silent RowModel.record 0 _ _ _).2 _ rfl⟩

end Store

end RowFilter
