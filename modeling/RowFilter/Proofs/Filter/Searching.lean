import RowFilter.Proofs.Filter.Faults
import RowFilter.Proofs.Filter.Scope
import RowFilter.Proofs.Filter.Typing

/-! A search with something to look for and somewhere to look selects only rows in which it is
found. -/

namespace RowFilter

open Predicate

namespace Search

/-- Whether a search has something to look for: a literal that counts as present everywhere, and any
number or a text that is not empty in chosen fields. -/
def isSought : Search → Bool
  -- Zero is sought in chosen fields, though it does not count as present everywhere.
  | .everywhere literal => literal.isTruthy
  | .within _ (.text text) => text != ""
  | .within _ literal => literal.isNumber

/-- Whether a search has a field to look in: a choice of fields may be an empty list. -/
def isPlaced : Search → Bool
  -- A table has a field always, and thus a search everywhere has one too.
  | .everywhere _ => true
  | .within fields _ => fields != .columns []

/-- The columns in which a search looks. -/
def columns (table : Table) : Search → List String
  -- What is chosen is looked up in the table, which matters only for the star.
  | .everywhere _ => table.fieldNames
  | .within fields _ => fields.resolve table

variable {Value : Type}

/-- Whether the value of a column of a row matches what a search looks for: texts are looked for in
the value, and a number in chosen fields has to be equal to it. -/
def matchesIn (interpretation : Interpretation Value) (table : Table)
    (row : String → Option Value) (column : String) : Search → Bool
  -- The kind of the column decides how a text is looked for.
  | .everywhere literal =>
    interpretation.finds (table.kindOf? column) (row column) (textOf literal)
  | .within _ (.text text) => interpretation.finds (table.kindOf? column) (row column) text
  | .within _ literal => interpretation.meets .equal false (row column) literal

/-- Whether a column in which a search looks matches it. -/
def Matches (interpretation : Interpretation Value) (table : Table) (row : String → Option Value)
    (search : Search) : Prop :=
  -- One column that matches is enough.
  ∃ column ∈ search.columns table, search.matchesIn interpretation table row column = true

variable {interpretation : Interpretation Value} {table : Table} {row : String → Option Value}
  {search : Search}

/-- A search with something to look for says of a row that one of its columns matches. -/
theorem meaning?_of_isSought (sought : search.isSought = true) :
    ∃ meaning, search.meaning? interpretation table row = some meaning ∧
      (meaning = true ↔ search.Matches interpretation table row) := by
  -- By what is sought and where, each of which has its own meaning.
  cases search with
  | everywhere literal =>
    have truthy : literal.isTruthy = true := sought
    refine ⟨_, if_pos truthy, ?_⟩
    -- Each field has its own name, by which its kind is found.
    simp only [List.any_eq_true, Matches, columns, Table.fieldNames, List.mem_map, matchesIn]
    constructor
    · rintro ⟨field, listed, found⟩
      exact ⟨field.name, ⟨field, listed, rfl⟩, by rwa [Table.kindOf?_field listed]⟩
    · rintro ⟨_, ⟨field, listed, rfl⟩, found⟩
      exact ⟨field, listed, by rwa [Table.kindOf?_field listed] at found⟩
  | within fields literal =>
    -- A text is looked for in each column, and a number has to be equal to the value.
    cases literal with
    | text text =>
      have filled : text ≠ "" := by simpa [isSought] using sought
      refine ⟨(fields.resolve table).any fun column =>
        interpretation.finds (table.kindOf? column) (row column) text, ?_, ?_⟩
      · simp only [meaning?]
      · simp [Matches, columns, matchesIn]
    | int number => exact ⟨_, rfl, by simp [Matches, columns, matchesIn]⟩
    | float number => exact ⟨_, rfl, by simp [Matches, columns, matchesIn]⟩
    | _ => cases sought

/-- A search with something to look for and somewhere to look constrains rows. -/
theorem isConditionless_of_isSought (sought : search.isSought = true)
    (placed : search.isPlaced = true) : search.isConditionless = false := by
  -- What is sought and somewhere to look are the two things that a search can lack.
  cases search with
  | everywhere literal =>
    have truthy : literal.isTruthy = true := sought
    simp [isConditionless, truthy]
  | within fields literal =>
    have somewhere : fields ≠ .columns [] := by simpa [isPlaced] using placed
    cases literal with
    | text text =>
      have filled : text ≠ "" := by simpa [isSought] using sought
      simp [isConditionless, somewhere, filled]
    | _ => simp [isConditionless, somewhere]

/-- Without a field to look in, whatever is looked for, a search is a choice without branches. -/
theorem compile_unplaced (sought : search.isSought = true) (unplaced : search.isPlaced = false) :
    search.compile table = .ok (some (.any [])) := by
  -- Only chosen fields can be none at all.
  cases search with
  | everywhere literal => cases unplaced
  | within fields literal =>
    have nowhere : fields = .columns [] := by simpa [isPlaced] using unplaced
    subst nowhere
    cases literal with
    | text text =>
      have filled : text ≠ "" := by simpa [isSought] using sought
      exact if_neg filled
    | int number => rfl
    | float number => rfl
    | _ => cases sought

end Search

namespace Predicate

/-- Whatever a conjunction selects, each of its parts that constrains rows holds on it. -/
theorem says_of_selects_all {tests : RowTests} {parts : List Predicate} {part : Predicate}
    {meaning : Bool} (selected : (Predicate.all parts).selects tests = true) (listed : part ∈ parts)
    (said : Says tests part meaning) : meaning = true := by
  -- A part without a truth would not be joined, but what is said of it is a truth.
  obtain ⟨value, known, rfl⟩ := said
  -- The part has a truth of its own, which is one of those that are joined.
  have present : value ∈ parts.filterMap (truth? tests) :=
    List.mem_filterMap.mpr ⟨part, listed, known⟩
  rw [selects_eq, truth?, truths_eq] at selected
  cases values : parts.filterMap (truth? tests) with
  | nil => simp [values] at present
  | cons first rest =>
    rw [values] at selected present
    -- A conjunction holds only if each of the truths in it does.
    have each : (first :: rest).all Truth.holds = true := by
      rw [← Truth.holds_all]
      exact selected
    exact List.all_eq_true.mp each value present

end Predicate

namespace Clause

/-- The condition of a search is among those of the clause that it is in. -/
theorem mem_compileEntries {table : Table} {clause : Clause} {predicates : List Predicate}
    {term : Search} (compiled : compileEntries table clause = .ok predicates)
    (searched : .search term ∈ clause) :
    ∃ result, term.compile table = .ok result ∧ ∀ part ∈ result, part ∈ predicates := by
  -- The entries are compiled one by one, and all of them have to compile.
  induction clause generalizing predicates with
  | nil => cases searched
  | cons entry rest ih =>
    rw [compileEntries] at compiled
    obtain ⟨first, own, behind⟩ := Result.bind_ok compiled
    obtain ⟨more, others, joined⟩ := Result.bind_ok behind
    cases joined
    rcases List.mem_cons.mp searched with rfl | later
    · -- A search is one condition of its clause, or none.
      obtain ⟨result, made, rfl⟩ := Result.map_ok own
      exact ⟨result, made, fun part given =>
        List.mem_append_left _ (Option.mem_toList.mpr given)⟩
    · obtain ⟨result, made, kept⟩ := ih others later
      exact ⟨result, made, fun part given => List.mem_append_right _ (kept part given)⟩

variable {Value : Type} {interpretation : Interpretation Value} {table : Table}
  {row : String → Option Value} {clause : Clause} {predicate : Predicate} {term : Search}

/-- Every row that a clause selects matches each of its searches that has something to look for and
somewhere to look. -/
theorem matches_of_selects (compiled : Clause.compile table clause = .ok predicate)
    (searched : .search term ∈ clause) (sought : term.isSought = true)
    (placed : term.isPlaced = true)
    (selected : predicate.selects (interpretation.tests row) = true) :
    term.Matches interpretation table row := by
  -- The clause is a conjunction, and the search is one of its parts.
  obtain ⟨predicates, entries, rfl⟩ := Result.map_ok compiled
  obtain ⟨result, made, kept⟩ := mem_compileEntries entries searched
  obtain ⟨meaning, known, told⟩ :=
    @Search.meaning?_of_isSought _ interpretation table row term sought
  -- What a search says of a row is known of a choice of fields that is not empty.
  have named : ∀ literal, term ≠ .within (.columns []) literal := by
    rintro literal rfl
    cases placed
  -- The search compiles to a condition that holds exactly if a column matches.
  have related := Search.rel_compile interpretation row named made
  rw [known] at related
  cases related with
  | some said => exact told.mp (says_of_selects_all selected (kept _ rfl) said)

/-- A clause with a search that has something to look for and somewhere to look constrains rows. -/
theorem isEmpty_of_isSought (compiled : Clause.compile table clause = .ok predicate)
    (searched : .search term ∈ clause) (sought : term.isSought = true)
    (placed : term.isPlaced = true) : predicate.isEmpty = false := by
  -- A clause constrains nothing only if none of its entries is a condition.
  rw [isEmpty_compile compiled, Bool.eq_false_iff]
  intro unconstrained
  have own := List.all_eq_true.mp unconstrained _ searched
  rw [Entry.isConditionless, Search.isConditionless_of_isSought sought placed] at own
  cases own

end Clause

namespace Filter

/-- The clauses of a filter that has been read compile. -/
theorem compile_clause_of_ofJson {document : Json} {filter : Filter}
    (read : ofJson document = .ok filter) {clause : Clause} (listed : clause ∈ filter.clauses)
    (table : Table) : ∃ predicate, Clause.compile table clause = .ok predicate := by
  -- The reader lets no fault of an entry pass, and a clause without faults compiles.
  have silent : clause.flatMap Entry.faults = [] :=
    List.flatMap_eq_nil_iff.mp (faults_of_ofJson read) clause listed
  have fails := (Clause.compileEntries_failsFirst table clause).map Predicate.all
  exact fails.ok_iff.mpr silent

/-- A clause of a filter that has been read from a text, with a search that has something to look
for, compiles on every table. Unless the search is given an empty list of fields, the condition
constrains rows, and each row that it selects has a searched column that matches what is looked for.
With an empty list of fields the search is a choice without branches, which constrains nothing. -/
theorem parse_searches {text : String} {filter : Filter} (read : parse text = .ok filter)
    {clause : Clause} (listed : clause ∈ filter.clauses) {term : Search}
    (searched : .search term ∈ clause) (sought : term.isSought = true) (table : Table) :
    ∃ predicate, Clause.compile table clause = .ok predicate ∧
      (term.isPlaced = true → predicate.isEmpty = false ∧
        ∀ (Value : Type) (interpretation : Interpretation Value) (row : String → Option Value),
          predicate.selects (interpretation.tests row) = true →
            term.Matches interpretation table row) ∧
      (term.isPlaced = false → term.compile table = .ok (some (.any [])) ∧
        (Predicate.any []).isEmpty = true) := by
  -- What a reader has read compiles, and the search is then followed through the clause.
  obtain ⟨document, own⟩ := (IsRead.text read).ofJson
  obtain ⟨predicate, compiled⟩ := compile_clause_of_ofJson own listed table
  refine ⟨predicate, compiled, fun placed => ⟨?_, ?_⟩, fun unplaced => ⟨?_, rfl⟩⟩
  · exact Clause.isEmpty_of_isSought compiled searched sought placed
  · intro Value interpretation row selected
    exact Clause.matches_of_selects compiled searched sought placed selected
  · exact Search.compile_unplaced sought unplaced

/-- Every book selected by a search for a letter in the titles has the letter in its title. -/
theorem parse_searches_books :
    let text := "\x7b\"$q\":\x7b\"selectedFields\":[\"title\"],\"value\":\"x\"\x7d\x7d"
    let term : Search := .within (.columns ["title"]) (.text "x")
    parse text = .ok (.clause [.search term]) ∧ term.isSought = true ∧
    ∃ predicate, Clause.compile .books [.search term] = .ok predicate ∧
      predicate.isEmpty = false ∧
      ∀ (interpretation : Interpretation String) (row : String → Option String),
        predicate.selects (interpretation.tests row) = true →
          interpretation.finds (some .string) (row "title") "x" = true := by
  -- The clause holds nothing but the search, and the text is read by computation.
  intro text term
  have read : parse text = .ok (.clause [.search term]) := by decide +kernel
  obtain ⟨predicate, compiled, restricts, -⟩ :=
    parse_searches read (.head _) (.head _) (by decide) .books
  obtain ⟨constrains, found⟩ := restricts (by decide)
  refine ⟨read, by decide, predicate, compiled, constrains, fun interpretation row selected => ?_⟩
  obtain ⟨column, listed, own⟩ := found _ interpretation row selected
  rw [List.mem_singleton.mp listed] at own
  exact own

/-- A search for a letter in an empty list of fields is read and selects every row, although no
column of any row is searched. -/
theorem parse_searches_not :
    let text := "\x7b\"$q\":\x7b\"selectedFields\":[],\"value\":\"x\"\x7d\x7d"
    let term : Search := .within (.columns []) (.text "x")
    parse text = .ok (.clause [.search term]) ∧ term.isSought = true ∧
    ∃ predicate, Clause.compile .books [.search term] = .ok predicate ∧
      predicate.isEmpty = true ∧ (∀ tests, predicate.selects tests = true) ∧
      ∀ (interpretation : Interpretation String) (row : String → Option String),
        ¬ term.Matches interpretation .books row := by
  -- The choice is compiled to no test at all, and no column is listed in it.
  intro text term
  refine ⟨by decide +kernel, by decide, .all [.any []], rfl, by decide, fun tests => rfl, ?_⟩
  rintro interpretation row ⟨column, listed, -⟩
  cases listed

end Filter

end RowFilter
