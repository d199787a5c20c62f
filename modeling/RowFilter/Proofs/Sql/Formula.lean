import RowFilter.Proofs.Sql.Operand
import RowFilter.Sql.Condition

/-! Conditions of SQL as formulas, read from tokens in exactly one way. -/

namespace RowFilter

/-- Different comparisons have different marks. -/
theorem Comparison.mark_injective : Function.Injective Comparison.mark := by
  -- The six marks are compared pair by pair.
  intro first second same
  cases first <;> cases second <;> first | rfl | simp [Comparison.mark] at same

namespace Sql

/-- A test of operands. -/
inductive Test where
  | compare (left : Operand) (comparison : Comparison) (right : Operand)
  | isNull (target : Operand) (negated : Bool)
  | among (target : Operand) (items : List Operand) (negated : Bool)
  | between (target low high : Operand) (negated : Bool)
  | like (target pattern escape : Operand) (negated : Bool)
deriving DecidableEq

/-- A condition of SQL as its grammar reads it. -/
inductive Formula where
  | test (test : Test)
  | not (part : Formula)
  | all (parts : List Formula)
  | any (parts : List Formula)

namespace Test

/-- What may be negated behind the target of a test, the tokens it is read from, and the tokens that
remain. -/
inductive ReadsMatch (target : Operand) (negated : Bool) :
    List (Token Parameter) → Test → List (Token Parameter) → Prop where
  | among {tokens items rest} (read : Operand.ReadsList tokens items (.mark .closing :: rest)) :
      ReadsMatch target negated (.word "IN" :: .mark .opening :: tokens)
        (.among target items negated) rest
  /-- The conjunction behind the lower bound separates it from the upper one. -/
  | between {tokens low middle high rest}
      (lower : Operand.Reads .whole tokens low (.word "AND" :: middle))
      (upper : Operand.Reads .whole middle high rest) :
      ReadsMatch target negated (.word "BETWEEN" :: tokens) (.between target low high negated) rest
  | like {tokens pattern middle escape rest}
      (read : Operand.Reads .whole tokens pattern (.word "ESCAPE" :: middle))
      (behind : Operand.Reads .whole middle escape rest) :
      ReadsMatch target negated (.word "LIKE" :: tokens) (.like target pattern escape negated) rest

/-- What follows the target of a test, the tokens it is read from, and the tokens that remain. -/
inductive ReadsBehind (target : Operand) :
    List (Token Parameter) → Test → List (Token Parameter) → Prop where
  | compare {comparison tokens right rest} (read : Operand.Reads .whole tokens right rest) :
      ReadsBehind target (.mark (Comparison.mark comparison) :: tokens)
        (.compare target comparison right) rest
  | isNull {rest} :
      ReadsBehind target (.word "IS" :: .word "NULL" :: rest) (.isNull target false) rest
  | isNotNull {rest} :
      ReadsBehind target (.word "IS" :: .word "NOT" :: .word "NULL" :: rest)
        (.isNull target true) rest
  | plain {tokens test rest} (read : ReadsMatch target false tokens test rest) :
      ReadsBehind target tokens test rest
  | negated {tokens test rest} (read : ReadsMatch target true tokens test rest) :
      ReadsBehind target (.word "NOT" :: tokens) test rest

/-- A test, the tokens it is read from, and the tokens that remain. -/
inductive Reads : List (Token Parameter) → Test → List (Token Parameter) → Prop where
  | behind {tokens target middle test rest} (read : Operand.Reads .whole tokens target middle)
      (behind : ReadsBehind target middle test rest) : Reads tokens test rest

variable {tokens rest rest' : List (Token Parameter)} {target : Operand} {test test' : Test}

/-- What may be negated is read in one way. -/
theorem ReadsMatch.unique {negated : Bool} (reading : ReadsMatch target negated tokens test rest)
    (other : ReadsMatch target negated tokens test' rest') (ends : Operand.Ends rest)
    (ends' : Operand.Ends rest') : test = test' ∧ rest = rest' := by
  -- The first word decides the rule, so the two readings are taken apart with their words compared.
  generalize same : tokens = tokens' at other
  cases reading with
  | among read =>
    cases other with
    | among read' =>
      obtain rfl : _ = _ := by simpa using same
      obtain ⟨rfl, rfl⟩ := read.unique read'
      exact ⟨rfl, rfl⟩
    | _ => simp at same
  | between lower upper =>
    cases other with
    | between lower' upper' =>
      obtain rfl : _ = _ := by simpa using same
      obtain ⟨rfl, joined⟩ := lower.unique lower' (by simp [Operand.Ends]) (by simp [Operand.Ends])
      obtain ⟨-, rfl⟩ := List.cons.inj joined
      obtain ⟨rfl, rfl⟩ := upper.unique upper' (fun _ => ends) (fun _ => ends')
      exact ⟨rfl, rfl⟩
    | _ => simp at same
  | like read behind =>
    cases other with
    | like read' behind' =>
      obtain rfl : _ = _ := by simpa using same
      obtain ⟨rfl, joined⟩ := read.unique read' (by simp [Operand.Ends]) (by simp [Operand.Ends])
      obtain ⟨-, rfl⟩ := List.cons.inj joined
      obtain ⟨rfl, rfl⟩ := behind.unique behind' (fun _ => ends) (fun _ => ends')
      exact ⟨rfl, rfl⟩
    | _ => simp at same

/-- What may be negated begins with a word of its own. -/
theorem ReadsMatch.head {negated : Bool} (reading : ReadsMatch target negated tokens test rest) :
    tokens.head? ∈ [some (.word "IN"), some (.word "BETWEEN"), some (.word "LIKE")] := by
  -- Each rule begins with its word.
  cases reading <;> simp

/-- What follows the target of a test is read in one way. -/
theorem ReadsBehind.unique (reading : ReadsBehind target tokens test rest)
    (other : ReadsBehind target tokens test' rest') (ends : Operand.Ends rest)
    (ends' : Operand.Ends rest') : test = test' ∧ rest = rest' := by
  -- A mark, a test for null, a negation and a match all begin with different tokens.
  generalize same : tokens = tokens' at other
  cases reading with
  | compare read =>
    cases other with
    | compare read' =>
      simp only [List.cons.injEq, Token.mark.injEq] at same
      obtain ⟨marked, rfl⟩ := same
      obtain rfl := Comparison.mark_injective marked
      obtain ⟨rfl, rfl⟩ := read.unique read' (fun _ => ends) (fun _ => ends')
      exact ⟨rfl, rfl⟩
    | plain read' => have begun := read'.head; simp [← same] at begun
    | _ => simp at same
  | isNull =>
    cases other with
    | isNull => exact ⟨rfl, by simpa using same⟩
    | plain read' => have begun := read'.head; simp [← same] at begun
    | _ => simp at same
  | isNotNull =>
    cases other with
    | isNotNull => exact ⟨rfl, by simpa using same⟩
    | plain read' => have begun := read'.head; simp [← same] at begun
    | _ => simp at same
  | plain read =>
    have begun := read.head
    cases other with
    | plain read' =>
      subst same
      exact read.unique read' ends ends'
    | _ => simp [same] at begun
  | negated read =>
    cases other with
    | plain read' => have begun := read'.head; simp [← same] at begun
    | negated read' =>
      obtain rfl : _ = _ := by simpa using same
      exact read.unique read' ends ends'
    | _ => simp at same

/-- What follows the target of a test begins no cast. -/
theorem ReadsBehind.ends (behind : ReadsBehind target tokens test rest) : Operand.Ends tokens := by
  -- No comparison has the mark of a cast, and all other rules begin with words.
  cases behind with
  | @compare comparison => cases comparison <;> simp [Operand.Ends, Comparison.mark]
  | isNull => simp [Operand.Ends]
  | isNotNull => simp [Operand.Ends]
  | plain read => cases read <;> simp [Operand.Ends]
  | negated => simp [Operand.Ends]

/-- A test is read in one way. -/
theorem Reads.unique (reading : Reads tokens test rest) (other : Reads tokens test' rest')
    (ends : Operand.Ends rest) (ends' : Operand.Ends rest') : test = test' ∧ rest = rest' := by
  -- What follows the target ends it, and so both readings have the same target.
  cases reading with
  | behind read behind =>
    cases other with
    | behind read' behind' =>
      obtain ⟨rfl, rfl⟩ := read.unique read' (fun _ => behind.ends) (fun _ => behind'.ends)
      exact behind.unique behind' ends ends'

/-- A test begins with an operand, not with a parenthesis or a negation. -/
theorem Reads.head (reading : Reads tokens test rest) :
    tokens.head? ≠ some (.mark .opening) ∧ tokens.head? ≠ some (.word "NOT") := by
  -- The name of a function is no word of conditions.
  cases reading with
  | behind read behind =>
    cases read with
    | whole bare casts =>
      cases bare with
      | call named =>
        refine ⟨by simp, fun begun => named ?_⟩
        simp only [List.head?_cons, Option.some.injEq, Token.word.injEq] at begun
        rw [begun]
        decide
      | _ => simp

end Test

namespace Formula

/-- The conjunction of conditions; one condition stands for itself. -/
def together : List Formula → Formula
  -- Brackets around a single condition are not part of its meaning.
  | [part] => part
  | parts => .all parts

/-- The disjunction of conditions; one condition stands for itself. -/
def choice : List Formula → Formula
  -- Brackets around a single condition are not part of its meaning.
  | [part] => part
  | parts => .any parts

/-- What a part of a condition is joined by: a conjunction binds tighter than a disjunction. -/
inductive Level where
  | factor
  | conjunction
  | disjunction
deriving DecidableEq

/-- The parts that are joined at a level, the tokens they are read from, and the tokens that
remain. -/
inductive Reads :
    Level → List (Token Parameter) → List Formula → List (Token Parameter) → Prop where
  | test {tokens test rest} (read : Test.Reads tokens test rest) :
      Reads .factor tokens [.test test] rest
  | not {tokens part rest} (read : Reads .factor tokens [part] rest) :
      Reads .factor (.word "NOT" :: tokens) [.not part] rest
  | group {tokens parts rest} (read : Reads .disjunction tokens parts (.mark .closing :: rest)) :
      Reads .factor (.mark .opening :: tokens) [choice parts] rest
  | lastFactor {tokens part rest} (read : Reads .factor tokens [part] rest) :
      Reads .conjunction tokens [part] rest
  | and {tokens part middle parts rest}
      (read : Reads .factor tokens [part] (.word "AND" :: middle))
      (others : Reads .conjunction middle parts rest) :
      Reads .conjunction tokens (part :: parts) rest
  | lastBranch {tokens parts rest} (read : Reads .conjunction tokens parts rest) :
      Reads .disjunction tokens [together parts] rest
  | or {tokens parts middle branches rest}
      (read : Reads .conjunction tokens parts (.word "OR" :: middle))
      (others : Reads .disjunction middle branches rest) :
      Reads .disjunction tokens (together parts :: branches) rest

/-- The tokens that would go on with the parts of a level. -/
def Level.continues : Level → List (Token Parameter)
  -- A looser level goes on with whatever a tighter one does.
  | .factor => [.mark .typed]
  | .conjunction => [.mark .typed, .word "AND"]
  | .disjunction => [.mark .typed, .word "AND", .word "OR"]

/-- Whether the parts of a level end before the tokens that remain. -/
def Ends (level : Level) (rest : List (Token Parameter)) : Prop :=
  -- At the end of the text every level ends.
  ∀ token ∈ rest.head?, token ∉ level.continues

variable {tokens rest rest' : List (Token Parameter)} {parts parts' : List Formula}

/-- Where the parts of a level end, an operand ends. -/
theorem Ends.operand {level : Level} (ends : Ends level rest) : Operand.Ends rest := by
  -- A cast goes on with the last operand at every level.
  intro begun
  refine ends _ begun ?_
  cases level <;> simp [Level.continues]

/-- Where the parts of a level end, the parts of a tighter one end. -/
theorem Ends.tighter {level inner : Level} (ends : Ends level rest)
    (fewer : inner.continues ⊆ level.continues) : Ends inner rest :=
  -- What would go on with the tighter level would go on with this one.
  fun token begun listed => ends token begun (fewer listed)

/-- A token that goes on with no parts of a level ends them. -/
theorem ends_cons {level : Level} {token : Token Parameter} (other : token ∉ level.continues) :
    Ends level (token :: rest) := by
  -- Only the first token that remains is looked at.
  intro begun first
  obtain rfl : token = begun := by simpa using first
  exact other

/-- The parts of a level are read in one way: what follows them decides where they end. -/
theorem Reads.unique {level : Level} (reading : Reads level tokens parts rest)
    (other : Reads level tokens parts' rest') (ends : Ends level rest)
    (ends' : Ends level rest') : parts = parts' ∧ rest = rest' := by
  -- The induction follows the first reading; at each level the next token decides the rule.
  induction reading generalizing parts' rest' with
  | test read =>
    cases other with
    | test read' =>
      obtain ⟨rfl, rfl⟩ := read.unique read' ends.operand ends'.operand
      exact ⟨rfl, rfl⟩
    | not read' => exact absurd rfl read.head.2
    | group read' => exact absurd rfl read.head.1
  | not read ih =>
    cases other with
    | test read' => exact absurd rfl read'.head.2
    | not read' =>
      obtain ⟨equal, rfl⟩ := ih read' ends ends'
      obtain ⟨rfl, -⟩ := List.cons.inj equal
      exact ⟨rfl, rfl⟩
  | group read ih =>
    -- The closing parenthesis ends whatever stands in the group.
    cases other with
    | test read' => exact absurd rfl read'.head.1
    | group read' =>
      obtain ⟨rfl, closed⟩ := ih read' (ends_cons (by decide)) (ends_cons (by decide))
      exact ⟨rfl, (List.cons.inj closed).2⟩
  | lastFactor read ih =>
    cases other with
    | lastFactor read' => exact ih read' (ends.tighter (by decide)) (ends'.tighter (by decide))
    | and read' others' =>
      -- The conjunction that the second reading goes on with is left over by the first.
      obtain ⟨-, rfl⟩ := ih read' (ends.tighter (by decide)) (ends_cons (by decide))
      exact absurd (by decide) (ends (.word "AND") rfl)
  | and read others ih ihOthers =>
    cases other with
    | lastFactor read' =>
      obtain ⟨-, rfl⟩ := ih read' (ends_cons (by decide)) (ends'.tighter (by decide))
      exact absurd (by decide) (ends' (.word "AND") rfl)
    | and read' others' =>
      obtain ⟨equal, joined⟩ := ih read' (ends_cons (by decide)) (ends_cons (by decide))
      obtain ⟨-, rfl⟩ := List.cons.inj joined
      obtain ⟨rfl, rfl⟩ := ihOthers others' ends ends'
      obtain ⟨rfl, -⟩ := List.cons.inj equal
      exact ⟨rfl, rfl⟩
  | lastBranch read ih =>
    cases other with
    | lastBranch read' =>
      obtain ⟨rfl, rfl⟩ := ih read' (ends.tighter (by decide)) (ends'.tighter (by decide))
      exact ⟨rfl, rfl⟩
    | or read' others' =>
      -- The disjunction that the second reading goes on with is left over by the first.
      obtain ⟨-, rfl⟩ := ih read' (ends.tighter (by decide)) (ends_cons (by decide))
      exact absurd (by decide) (ends (.word "OR") rfl)
  | or read others ih ihOthers =>
    cases other with
    | lastBranch read' =>
      obtain ⟨-, rfl⟩ := ih read' (ends_cons (by decide)) (ends'.tighter (by decide))
      exact absurd (by decide) (ends' (.word "OR") rfl)
    | or read' others' =>
      obtain ⟨rfl, joined⟩ := ih read' (ends_cons (by decide)) (ends_cons (by decide))
      obtain ⟨-, rfl⟩ := List.cons.inj joined
      obtain ⟨rfl, rfl⟩ := ihOthers others' ends ends'
      exact ⟨rfl, rfl⟩

end Formula

end Sql

end RowFilter
