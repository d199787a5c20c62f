import RowFilter.Proofs.Sql.Rendering

/-! What a test of SQL compares, read from tokens in exactly one way. -/

namespace RowFilter.Sql

/-- What a test compares: a column, a bound value, or something made from these. -/
inductive Operand where
  | column (name : String)
  | bound (value : Parameter)
  | numeral (digits : String)
  | literal (content : String)
  /-- An operand as a value of another type, in either of the two notations. -/
  | cast (operand : Operand) (type : String)
  | call (function : String) (first second : Operand)
deriving DecidableEq

/-- The words of conditions, which name no functions. -/
def reserved : List String :=
  -- A word from this list in front of a bracket opens no arguments.
  ["AND", "AS", "BETWEEN", "CAST", "ESCAPE", "IN", "IS", "LIKE", "NOT", "NULL", "OR"]

namespace Operand

/-- Casts behind an operand: the tokens they are read from, the operand they make of it, and the
tokens that remain. -/
inductive ReadsCasts :
    Operand → List (Token Parameter) → Operand → List (Token Parameter) → Prop where
  | done {operand rest} : ReadsCasts operand rest operand rest
  | cast {operand type tokens result rest}
      (others : ReadsCasts (.cast operand type) tokens result rest) :
      ReadsCasts operand (.mark .typed :: .word type :: tokens) result rest

/-- How far an operand is read. -/
inductive Level where
  /-- Without casts behind it. -/
  | bare
  | whole

/-- An operand, the tokens it is read from, and the tokens that remain. -/
inductive Reads : Level → List (Token Parameter) → Operand → List (Token Parameter) → Prop where
  | column {name rest} : Reads .bare (.name name :: rest) (.column name) rest
  | bound {value rest} : Reads .bare (.place value :: rest) (.bound value) rest
  | numeral {digits rest} : Reads .bare (.numeral digits :: rest) (.numeral digits) rest
  | literal {content rest} : Reads .bare (.literal content :: rest) (.literal content) rest
  | cast {tokens operand type rest}
      (inner : Reads .whole tokens operand (.word "AS" :: .word type :: .mark .closing :: rest)) :
      Reads .bare (.word "CAST" :: .mark .opening :: tokens) (.cast operand type) rest
  | call {function tokens first middle second rest} (named : function ∉ reserved)
      (left : Reads .whole tokens first (.mark .comma :: middle))
      (right : Reads .whole middle second (.mark .closing :: rest)) :
      Reads .bare (.word function :: .mark .opening :: tokens) (.call function first second) rest
  | whole {tokens operand middle result rest} (bare : Reads .bare tokens operand middle)
      (casts : ReadsCasts operand middle result rest) : Reads .whole tokens result rest

/-- Operands between commas, the tokens they are read from, and the tokens that remain. -/
inductive ReadsList : List (Token Parameter) → List Operand → List (Token Parameter) → Prop where
  | last {tokens operand rest} (read : Reads .whole tokens operand rest) :
      ReadsList tokens [operand] rest
  | more {tokens operand middle operands rest}
      (read : Reads .whole tokens operand (.mark .comma :: middle))
      (others : ReadsList middle operands rest) : ReadsList tokens (operand :: operands) rest

/-- Whether an operand ends before the tokens that remain: no cast follows. -/
def Ends (rest : List (Token Parameter)) : Prop := rest.head? ≠ some (.mark .typed)

variable {tokens rest rest' : List (Token Parameter)} {operand result result' : Operand}

/-- Casts are read in one way up to the first token that begins no cast. -/
theorem ReadsCasts.unique (reading : ReadsCasts operand tokens result rest)
    (other : ReadsCasts operand tokens result' rest') (ends : Ends rest) (ends' : Ends rest') :
    result = result' ∧ rest = rest' := by
  -- The mark of a cast tells at each step whether another one is read.
  induction reading with
  | done =>
    cases other with
    | done => exact ⟨rfl, rfl⟩
    | cast others => exact absurd rfl ends
  | cast others ih =>
    cases other with
    | done => exact absurd rfl ends'
    | cast others' => exact ih others' ends

/-- An operand is read in one way: what follows it decides where it ends. -/
theorem Reads.unique {level : Level} (reading : Reads level tokens result rest)
    (other : Reads level tokens result' rest')
    (ends : level = .whole → Ends rest) (ends' : level = .whole → Ends rest') :
    result = result' ∧ rest = rest' := by
  -- The induction follows the first reading, whose first tokens leave one rule for the second.
  induction reading generalizing result' rest' with
  | column => cases other; exact ⟨rfl, rfl⟩
  | bound => cases other; exact ⟨rfl, rfl⟩
  | numeral => cases other; exact ⟨rfl, rfl⟩
  | literal => cases other; exact ⟨rfl, rfl⟩
  | cast inner ih =>
    -- A cast names no function, and the word behind its operand ends the operand.
    cases other with
    | cast inner' =>
      obtain ⟨same, remaining⟩ := ih inner' (by simp [Ends]) (by simp [Ends])
      simp_all
    | call named => exact absurd (by decide) named
  | call named left right ihLeft ihRight =>
    cases other with
    | cast => exact absurd (by decide) named
    | call named' left' right' =>
      obtain ⟨same, remaining⟩ := ihLeft left' (by simp [Ends]) (by simp [Ends])
      obtain ⟨-, rfl⟩ := List.cons.inj remaining
      obtain ⟨same', remaining'⟩ := ihRight right' (by simp [Ends]) (by simp [Ends])
      simp_all
  | whole bare casts ih =>
    -- An operand without its casts ends by itself.
    cases other with
    | whole bare' casts' =>
      obtain ⟨rfl, rfl⟩ := ih bare' (by simp) (by simp)
      exact casts.unique casts' (ends rfl) (ends' rfl)

/-- A list of operands is read in one way up to the parenthesis that closes it. -/
theorem ReadsList.unique {items items' : List Operand}
    (reading : ReadsList tokens items (.mark .closing :: rest))
    (other : ReadsList tokens items' (.mark .closing :: rest')) :
    items = items' ∧ rest = rest' := by
  -- The parenthesis stays behind all items, so the induction keeps it as what remains.
  generalize closed : Token.mark Mark.closing :: rest = remaining at reading
  induction reading generalizing items' with
  | last read =>
    subst closed
    cases other with
    | last read' =>
      obtain ⟨rfl, same⟩ := read.unique read' (by simp [Ends]) (by simp [Ends])
      exact ⟨rfl, (List.cons.inj same).2⟩
    | more read' others' =>
      -- The first item would end before a parenthesis and before a comma.
      have same := (read.unique read' (by simp [Ends]) (by simp [Ends])).2
      simp at same
  | more read others ih =>
    cases other with
    | last read' =>
      have same := (read.unique read' (by simp [Ends]) (by simp [Ends])).2
      simp at same
    | more read' others' =>
      obtain ⟨rfl, same⟩ := read.unique read' (by simp [Ends]) (by simp [Ends])
      obtain ⟨-, rfl⟩ := List.cons.inj same
      obtain ⟨rfl, remaining⟩ := ih others' closed
      exact ⟨rfl, remaining⟩

end Operand

end RowFilter.Sql
