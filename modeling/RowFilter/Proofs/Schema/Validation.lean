import RowFilter.Proofs.Filter.Admission
import RowFilter.Schema.Validation

/-! A payload is accepted for a table exactly if it is in the language of the table. -/

namespace RowFilter

namespace Schema

/-- A check passes a payload that the schema accepts. -/
theorem check_of_accepts {schema : Schema} {payload : Json}
    (accepted : schema.accepts payload = true) : schema.check payload = .ok () := by
  -- Without objections there is nothing to reject.
  rw [check, (violations_eq_nil schema [] payload).mpr accepted]

/-- A check that passes a payload has found it accepted by the schema. -/
theorem accepts_of_check {schema : Schema} {payload : Json}
    (passed : schema.check payload = .ok ()) : schema.accepts payload = true := by
  -- The check fails with all objections, and so it passes only if there are none.
  unfold check at passed
  split at passed
  · rename_i silent
    exact (violations_eq_nil schema [] payload).mp silent
  · cases passed

/-- A check rejects any other payload, with at least one objection. -/
theorem check_of_not_accepts {schema : Schema} {payload : Json}
    (refused : ¬ schema.accepts payload = true) :
    ∃ found, found ≠ [] ∧ schema.check payload = .error (.violations found) := by
  -- Where the schema does not accept, it has an objection.
  rw [← violations_eq_nil schema [] payload] at refused
  refine ⟨schema.violations [] payload, refused, ?_⟩
  unfold check
  split
  · contradiction
  · rfl

end Schema

namespace Table

/-- A payload is read as a filter exactly if it is in the language of the table, and any other
payload is rejected with at least one objection. -/
theorem validateFilter_isFilter (table : Table) {payload : Json}
    (wellKeyed : payload.isWellKeyed = true) :
    ((∃ filter, table.validateFilter payload = .ok filter) ↔ table.IsFilter payload) ∧
    (¬ table.IsFilter payload →
      ∃ found, found ≠ [] ∧ table.validateFilter payload = .error (.violations found)) := by
  -- The schema is the language, and the reader is complete for it.
  have accepted : Schema.accepts table.filterSchema payload = true ↔ table.IsFilter payload :=
    accepts_filterSchema wellKeyed
  refine ⟨⟨?_, ?_⟩, ?_⟩
  · rintro ⟨filter, validated⟩
    obtain ⟨_, passed, -⟩ := Result.bind_ok validated
    exact accepted.mp (Schema.accepts_of_check passed)
  · -- The reader fails on no payload that the schema lets through.
    intro allowed
    obtain ⟨filter, read, -⟩ := Filter.ofJson_isFilter wellKeyed allowed
    refine ⟨filter, ?_⟩
    rw [validateFilter, Schema.check_of_accepts (accepted.mpr allowed), read]
    rfl
  · intro foreign
    obtain ⟨found, some, rejected⟩ :=
      Schema.check_of_not_accepts fun passed => foreign (accepted.mp passed)
    refine ⟨found, some, ?_⟩
    rw [validateFilter, rejected]
    rfl

/-- A list and a search are read, and a list that repeats a number is rejected. -/
theorem validateFilter_isFilter_books :
    let one : Json := .integer ⟨1, by decide⟩
    (∃ filter, Table.books.validateFilter (.object [("id", .object [("$in", .array [one])]),
      ("$q", .object [("value", .string "?"),
        ("selectedFields", .array [.string "title"])])]) = .ok filter) ∧
    ∃ found, found ≠ [] ∧ Table.books.validateFilter
      (.array [.object [("id", .object [("$in", .array [one, one])])]])
        = .error (.violations found) := by
  -- Both payloads are well keyed, and the schema decides about them by computation.
  intro one
  constructor
  · refine (validateFilter_isFilter .books (by decide)).1.mpr ?_
    exact (accepts_filterSchema (by decide)).mp (by decide)
  · refine (validateFilter_isFilter .books (by decide)).2 ?_
    exact mt (accepts_filterSchema (by decide)).mpr (by decide)

end Table

end RowFilter
