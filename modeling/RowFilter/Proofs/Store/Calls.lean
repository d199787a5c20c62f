import RowFilter.Store.SharedTransaction

/-! What one call on a transaction can do at a time, and how calls fail that are refused. -/

namespace RowFilter

variable {κ : Type}

/-- The statement that an errand runs next, with the backend of the store that it comes from. -/
def Errand.next? : Errand → Option (Backend × Statement)
  -- The backend travels with the statement, as a handle is shared by stores.
  | .operation backend _ (statement :: _) | .stream backend statement => some (backend, statement)
  | .operation _ _ [] | .finish _ => none

/-- Whether the next statement of an errand comes from a store of another backend. -/
def Errand.isForeign (native : Backend) (errand : Errand) : Bool :=
  -- An ending has no statement, and comes from the handle itself.
  errand.next?.any fun next => next.1 ≠ native

/-- Whether an errand has nothing left to do. -/
def Errand.isIdle : Errand → Bool
  -- A stream always has its cursor to run, and an ending has its own message.
  | .operation _ _ [] => true
  | _ => false

/-- Whether an errand is that of a stream. -/
def Errand.isStream : Errand → Bool
  -- Only streams give rows while they run.
  | .stream _ _ => true
  | _ => false

/-- Whether a call has the connection that it took out of the handle. -/
def Stage.isTaken : Stage κ → Bool
  -- The connection is gone from the handle from then on.
  | .taken _ => true
  | _ => false

/-- Whether a call has not looked at the connection yet. -/
def Stage.isEarly : Stage κ → Bool
  -- Nothing has been sent and nothing has been given in these stages.
  | .ready | .waiting | .holding => true
  | _ => false

/-- Whether a call does nothing more. -/
def Stage.isGone : Stage κ → Bool
  -- A call that was dropped has no result.
  | .ended _ | .dropped => true
  | _ => false

/-- Whether a call has nothing more to give. -/
def Stage.isOver : Stage κ → Bool
  -- A stream that was refused has given its error, and still has to end.
  | .closing => true
  | stage => stage.isGone

/-- A call that is gone will not look at the connection, and has neither the lock nor the
connection. -/
theorem Stage.of_isGone {stage : Stage κ} (gone : stage.isGone = true) :
    stage.isEarly = false ∧ stage.hasLock = false ∧ stage.isTaken = false := by
  -- There are two ways to be gone.
  cases stage with
  | ended failure => exact ⟨rfl, rfl, rfl⟩
  | dropped => exact ⟨rfl, rfl, rfl⟩
  | _ => cases gone

/-- A call that asks for the lock has not looked at the connection yet. -/
theorem Stage.isEarly_of_asking {stage : Stage κ} (asking : stage = .waiting ∨ stage = .holding) :
    stage.isEarly = true := by
  -- Both stages come before the look at the connection.
  rcases asking with rfl | rfl <;> rfl

/-- A store of another backend is refused with an error of the kind for invalid data. -/
theorem Transaction.check_foreign {transaction : Transaction κ} {backend : Backend}
    (foreign : backend ≠ transaction.backend) :
    ∃ error, transaction.check backend = .error error ∧ error.kind = .invalidData := by
  -- The handle compares the backends before anything else.
  unfold check
  rw [if_pos (Ne.symm foreign)]
  exact ⟨_, rfl, rfl⟩

/-- A store of the same backend is let through. -/
theorem Transaction.check_native {transaction : Transaction κ} {backend : Backend}
    (native : backend = transaction.backend) : transaction.check backend = .ok () := by
  -- The handle compares the backends, and has no other reason to refuse.
  unfold check
  rw [if_neg (not_not_intro native.symm)]

/-- A classified failure of a statement keeps its kind. -/
theorem Call.errorOf_kind (backend : Backend) (statement : Statement) (error : StoreError) :
    (errorOf backend statement (.classified error)).kind = error.kind := by
  -- The failure is told with the statement, by which its kind is not changed.
  cases error <;> rfl

namespace Call

/-- The calls that have failed with nothing but an error of the given kind: an operation or a finish
has ended with it, and a stream has given it as its only item and gives no more. -/
inductive FailedWith (kind : ErrorKind) : Call κ → Prop where
  | ended {errand : Errand} {error : StoreError} (alone : errand.isStream = false)
      (same : error.kind = kind) : FailedWith kind ⟨errand, .ended (some error), []⟩
  | given {backend : Backend} {statement : Statement} {stage : Stage κ} {error : StoreError}
      (spent : stage.isOver = true) (same : error.kind = kind) :
    FailedWith kind ⟨.stream backend statement, stage, [.error error]⟩

/-- What a call can become, and what that does to what all calls share. -/
inductive Responds (transaction : Transaction κ) (isFree : Bool) (call : Call κ) :
    Call κ → Effect → Prop where
  | stays : Responds transaction isFree call call .none
  | waits (standing : call.stage = .ready) (busy : call.errand.isIdle = false)
      (native : call.errand.isForeign transaction.backend = false) :
    Responds transaction isFree call (call.moved .waiting) .none
  | acquires (standing : call.stage = .waiting) (free : isFree = true) :
    Responds transaction isFree call (call.moved .holding) .acquire
  | sends {backend : Backend} {statement : Statement} (standing : call.stage = .holding)
      (present : transaction.isFinished = false)
      (next : call.errand.next? = some (backend, statement)) :
    Responds transaction isFree call (call.moved .running) (.send (.statement statement))
  | takes {connection : κ} {how : Ending} (standing : call.stage = .holding)
      (present : transaction.isFinished = false) (errand : call.errand = .finish how) :
    Responds transaction isFree call (call.moved (.taken connection)) .take
  | finishes {connection : κ} {how : Ending} (standing : call.stage = .taken connection)
      (errand : call.errand = .finish how) :
    Responds transaction isFree call (call.moved .finishing) (.send (.ending how))
  | gives {item : Except StoreError Record} {stage : Stage κ} (stream : call.errand.isStream = true)
      (late : stage.isEarly = false) (untaken : stage.isTaken = false)
      (lock : stage.hasLock = call.stage.hasLock) :
    Responds transaction isFree call ((call.giving item).moved stage) .none
  | continues {backend : Backend} {check : Statement → List Record → Except StoreError Unit}
      {statement : Statement} {rest : List Statement} (standing : call.stage = .running)
      (errand : call.errand = .operation backend check (statement :: rest)) :
    Responds transaction isFree call
      { call with errand := .operation backend check rest, stage := .ready } .release
  | leaves {stage : Stage κ} (unheld : call.stage.hasLock = false) (gone : stage.isGone = true) :
    Responds transaction isFree call (call.moved stage) .none
  | releases {stage : Stage κ} (held : call.stage.hasLock = true) (gone : stage.isGone = true) :
    Responds transaction isFree call (call.moved stage) .release

variable {transaction : Transaction κ} {isFree : Bool} {call : Call κ} {kind : ErrorKind}

/-- A call that starts waits for the lock, or has nothing to do, or is refused. -/
theorem responds_start (standing : call.stage = .ready) :
    Responds transaction isFree call (call.start transaction) .none := by
  -- By the errand: what is foreign is found out before the lock is asked for.
  have unheld : call.stage.hasLock = false := by simp [standing, Stage.hasLock]
  rcases call with ⟨errand, stage, given⟩
  -- Only errands with a statement are refused, and an ending waits for the lock right away.
  cases errand with
  | operation backend check statements =>
    cases statements with
    | nil => exact .leaves unheld rfl
    | cons statement rest =>
      by_cases native : backend = transaction.backend
      · simp only [start, Transaction.check_native native]
        exact .waits standing rfl (by simp [Errand.isForeign, Errand.next?, native])
      · obtain ⟨error, refused, -⟩ := Transaction.check_foreign native
        simp only [start, refused]
        exact .leaves unheld rfl
  | stream backend statement =>
    by_cases native : backend = transaction.backend
    · simp only [start, Transaction.check_native native]
      exact .waits standing rfl (by simp [Errand.isForeign, Errand.next?, native])
    · obtain ⟨error, refused, -⟩ := Transaction.check_foreign native
      simp only [start, refused]
      exact .gives rfl rfl rfl unheld.symm
  | finish how => exact .waits standing rfl rfl

/-- A call that looks at the connection uses it, or fails, or has nothing to do. -/
theorem responds_look (standing : call.stage = .holding) :
    Responds transaction isFree call (call.look transaction).1 (call.look transaction).2 := by
  -- The handle is finished or not, and this is only known under the lock.
  have held : call.stage.hasLock = true := by simp [standing, Stage.hasLock]
  rcases call with ⟨errand, stage, given⟩
  rcases transaction with ⟨own, _ | connection⟩
  · -- The handle is finished, and every errand fails.
    cases errand with
    | operation backend check statements =>
      cases statements <;> exact .releases held rfl
    | stream backend statement => exact .gives rfl rfl rfl held.symm
    | finish how => exact .releases held rfl
  · -- The connection is there, and every errand that has something to do gets it.
    cases errand with
    | operation backend check statements =>
      cases statements with
      | nil => exact .releases held rfl
      | cons statement rest => exact .sends standing rfl rfl
    | stream backend statement => exact .sends standing rfl rfl
    | finish how => exact .takes standing rfl rfl

/-- A running call that is answered goes on, or ends, or gives a row. -/
theorem responds_answered (standing : call.stage = .running) (reply : Reply) :
    Responds transaction isFree call (call.answered reply).1 (call.answered reply).2 := by
  -- By the errand: a statement of an operation or the cursor of a stream is running.
  have held : call.stage.hasLock = true := by simp [standing, Stage.hasLock]
  rcases call with ⟨errand, stage, given⟩
  subst standing
  cases errand with
  | operation backend check statements =>
    cases statements with
    | nil => cases reply <;> exact .stays
    | cons statement rest =>
      -- Rows that are in order let the operation go on, and it gives the lock up in between.
      cases reply with
      | rows records =>
        simp only [answered]
        split
        · exact .continues rfl rfl
        · exact .releases held rfl
      | failed failure => exact .releases held rfl
      | row record => exact .stays
      | done => exact .stays
  | stream backend statement =>
    -- A stream keeps the lock until its cursor is at the end, whatever fails before.
    cases reply with
    | rows records => exact .stays
    | row record => exact .gives rfl rfl rfl rfl
    | done => exact .releases held rfl
    | failed failure => exact .gives rfl rfl rfl rfl
  | finish how => cases reply <;> exact .stays

/-- Whatever happens to a call, it does one of the things that calls can do. -/
theorem responds (transaction : Transaction κ) (isFree : Bool) (call : Call κ) (event : Event) :
    Responds transaction isFree call (call.respond transaction isFree event).1
      (call.respond transaction isFree event).2 := by
  -- By the event: a step of its own, a reply of the connection, or its end from outside.
  cases event with
  | advance =>
    -- One case for each stage in which a call can go on by itself.
    simp only [respond, advance]
    split
    · exact responds_start ‹_›
    · split
      · exact .acquires ‹_› ‹_›
      · exact .stays
    · exact responds_look ‹_›
    · rename_i closing
      exact .releases (by simp [closing, Stage.hasLock]) rfl
    · split
      · exact .finishes ‹_› ‹_›
      · exact .stays
    all_goals exact .stays
  | reply reply =>
    simp only [respond, receive]
    split
    · exact responds_answered ‹_› _
    · rename_i finishing _
      exact .leaves (by simp [finishing, Stage.hasLock]) rfl
    · rename_i finishing _
      exact .leaves (by simp [finishing, Stage.hasLock]) rfl
    · exact .stays
  | cancel =>
    simp only [respond, cancel]
    split
    · exact .stays
    · -- Whoever has the lock gives it up.
      split
      · exact .releases ‹_› rfl
      · exact .leaves (Bool.eq_false_iff.mpr ‹_›) rfl

/-- A call that has failed stays so, whatever happens to it, and sends nothing more. -/
theorem FailedWith.respond (failed : call.FailedWith kind) (transaction : Transaction κ)
    (isFree : Bool) (event : Event) :
    (call.respond transaction isFree event).1.FailedWith kind ∧
    ∀ message, (call.respond transaction isFree event).2 ≠ .send message := by
  -- Nothing happens to a call that has ended, and a stream that closes gives up its lock.
  cases failed with
  | ended alone same => cases event <;> exact ⟨.ended alone same, nofun⟩
  | @given backend statement stage error spent same =>
    cases stage with
    | closing => cases event <;> exact ⟨.given rfl same, nofun⟩
    | ended failure => cases event <;> exact ⟨.given rfl same, nofun⟩
    | dropped => cases event <;> exact ⟨.given rfl same, nofun⟩
    | _ => cases spent

/-- An errand with a foreign statement fails when it starts, and never asks for the lock. -/
theorem start_foreign (fresh : call.given = [])
    (foreign : call.errand.isForeign transaction.backend = true) :
    (call.start transaction).FailedWith .invalidData ∧
    (call.start transaction).stage.isGone = true ∧
    (call.start transaction).errand = call.errand := by
  -- By the errand; the comparison of the backends is all that happens.
  rcases call with ⟨errand, stage, given⟩
  cases fresh
  cases errand with
  | operation backend check statements =>
    cases statements with
    | nil => cases foreign
    | cons statement rest =>
      have other : backend ≠ transaction.backend := by
        simpa [Errand.isForeign, Errand.next?] using foreign
      obtain ⟨error, refused, kind⟩ := Transaction.check_foreign other
      simp only [start, refused]
      exact ⟨.ended rfl ((errorOf_kind backend statement error).trans kind), rfl, rfl⟩
  | stream backend statement =>
    have other : backend ≠ transaction.backend := by
      simpa [Errand.isForeign, Errand.next?] using foreign
    obtain ⟨error, refused, kind⟩ := Transaction.check_foreign other
    simp only [start, refused]
    -- The item that the stream gives is its first one, as nothing was given before.
    exact ⟨.given rfl ((errorOf_kind backend statement error).trans kind), rfl, rfl⟩
  | finish how => cases foreign

/-- A call that gets the lock of a finished transaction fails and sends nothing. -/
theorem look_finished (finished : transaction.isFinished = true) (fresh : call.given = [])
    (busy : call.errand.isIdle = false) :
    (call.look transaction).1.FailedWith .notConnected ∧
    ∀ message, (call.look transaction).2 ≠ .send message := by
  -- By the errand; the connection is missing, and all of them say so.
  rcases call with ⟨errand, stage, given⟩
  cases fresh
  rcases transaction with ⟨own, _ | connection⟩
  · cases errand with
    | operation backend check statements =>
      cases statements with
      | nil => cases busy
      | cons statement rest => exact ⟨.ended rfl (errorOf_kind backend statement _), nofun⟩
    | stream backend statement => exact ⟨.given rfl (errorOf_kind backend statement _), nofun⟩
    | finish how => exact ⟨.ended rfl rfl, nofun⟩
  · cases finished

/-- What holds of every call on a transaction with the given backend. -/
structure Orderly (native : Backend) (call : Call κ) : Prop where
  /-- Nothing is given before the connection was looked at, and only streams give. -/
  quiet : call.stage.isEarly = true ∨ call.errand.isStream = false → call.given = []
  /-- Only a call with something to do asks for the lock. -/
  busy : call.stage = .waiting ∨ call.stage = .holding → call.errand.isIdle = false
  /-- A foreign statement has been refused, unless it has not started or was dropped. -/
  foreign : call.errand.isForeign native = true → call.stage = .ready ∨
    call.stage.isGone = true ∧ (call.stage = .dropped ∨ call.FailedWith .invalidData)

/-- A new call is orderly. -/
theorem orderly_ready (native : Backend) (errand : Errand) :
    Orderly native (⟨errand, .ready, []⟩ : Call κ) where
  -- It has not looked at anything, and has given nothing.
  quiet := fun _ => rfl
  busy := by simp
  foreign := fun _ => .inl rfl

/-- Nothing happens to a call that does nothing more. -/
theorem respond_gone (gone : call.stage.isGone = true) (event : Event) :
    call.respond transaction isFree event = (call, .none) := by
  -- There are two ways to be gone, and no event changes either of them.
  rcases call with ⟨errand, stage, given⟩
  cases stage with
  | ended failure => cases event <;> rfl
  | dropped => cases event <;> rfl
  | _ => cases gone

/-- A call with a foreign statement leaves alone what all calls share, and stays refused. -/
theorem Orderly.respond_foreign (orderly : call.Orderly transaction.backend)
    (foreign : call.errand.isForeign transaction.backend = true) (isFree : Bool) (event : Event) :
    ∃ after, call.respond transaction isFree event = (after, .none) ∧
      after.errand = call.errand ∧
      (after.stage = .ready ∨
        after.stage.isGone = true ∧ (after.stage = .dropped ∨ after.FailedWith .invalidData)) := by
  -- Either it has not started yet, or it has been refused.
  rcases orderly.foreign foreign with ready | ⟨gone, refused⟩
  · cases event with
    | advance =>
      have fresh : call.given = [] := orderly.quiet (.inl (by simp [ready, Stage.isEarly]))
      obtain ⟨failed, gone, same⟩ := start_foreign fresh foreign
      exact ⟨call.start transaction, by simp [respond, advance, ready], same,
        .inr ⟨gone, .inr failed⟩⟩
    | reply reply => exact ⟨call, by simp [respond, receive, ready], rfl, .inl ready⟩
    | cancel =>
      exact ⟨call.moved .dropped, by simp [respond, cancel, ready, Stage.hasLock], rfl,
        .inr ⟨rfl, .inl rfl⟩⟩
  · exact ⟨call, respond_gone gone event, rfl, .inr ⟨gone, refused⟩⟩

/-- The errand of a call whose statements are all native stays so. -/
theorem Responds.native {after : Call κ} {effect : Effect}
    (turn : Responds transaction isFree call after effect)
    (native : call.errand.isForeign transaction.backend = false) :
    after.errand.isForeign transaction.backend = false := by
  -- Only the next statement of an operation changes what is left of an errand.
  cases turn with
  | @continues backend check statement rest standing errand =>
    -- The other statements come from the same store as the one that was run.
    have own : backend = transaction.backend := by
      simpa [errand, Errand.isForeign, Errand.next?] using native
    cases rest <;> simp [Errand.isForeign, Errand.next?, own]
  | _ => exact native

/-- A call that has looked at the connection has given nothing, unless it is that of a stream. -/
theorem Orderly.late {native : Backend} {stage : Stage κ} (orderly : call.Orderly native)
    (late : stage.isEarly = false) :
    stage.isEarly = true ∨ call.errand.isStream = false → call.given = [] := by
  -- One of the two reasons to have given nothing does not apply any more.
  rintro (early | alone)
  · exact absurd early (by simp [late])
  · exact orderly.quiet (.inr alone)

/-- What calls give stays in order: nothing before they have looked, and only by streams. -/
theorem Responds.quiet {after : Call κ} {effect : Effect}
    (turn : Responds transaction isFree call after effect)
    (orderly : call.Orderly transaction.backend) :
    after.stage.isEarly = true ∨ after.errand.isStream = false → after.given = [] := by
  -- By what the call does; it gives something only once it has looked.
  cases turn with
  | stays => exact orderly.quiet
  | waits standing busy native =>
    exact fun _ => orderly.quiet (.inl (by simp [standing, Stage.isEarly]))
  | acquires standing free =>
    exact fun _ => orderly.quiet (.inl (by simp [standing, Stage.isEarly]))
  | sends standing present next => exact orderly.late rfl
  | takes standing present errand => exact orderly.late rfl
  | finishes standing errand => exact orderly.late rfl
  | gives stream late untaken lock =>
    -- An item is given by a stream that has looked.
    rintro (early | alone)
    · exact absurd early (by simp [moved, late])
    · exact absurd alone (by simp [moved, giving, stream])
  | continues standing errand =>
    exact fun _ => orderly.quiet (.inr (by simp [errand, Errand.isStream]))
  | leaves unheld gone => exact orderly.late (Stage.of_isGone gone).1
  | releases held gone => exact orderly.late (Stage.of_isGone gone).1

/-- Only a call with something to do asks for the lock, and it has something to do until then. -/
theorem Responds.busy {after : Call κ} {effect : Effect}
    (turn : Responds transaction isFree call after effect)
    (orderly : call.Orderly transaction.backend) :
    after.stage = .waiting ∨ after.stage = .holding → after.errand.isIdle = false := by
  -- By what the call does, in those turns after which it still asks for the lock.
  intro asking
  have early : after.stage.isEarly = true := Stage.isEarly_of_asking asking
  cases turn with
  | stays => exact orderly.busy asking
  | waits standing busy native => exact busy
  | acquires standing free => exact orderly.busy (.inl standing)
  | gives stream late untaken lock => exact absurd early (by simp [moved, late])
  | continues standing errand => rcases asking with waiting | holding <;> contradiction
  | leaves unheld gone => exact absurd early (by simp [moved, (Stage.of_isGone gone).1])
  | releases held gone => exact absurd early (by simp [moved, (Stage.of_isGone gone).1])
  | _ => cases early

/-- Calls stay orderly. -/
theorem Orderly.respond (orderly : call.Orderly transaction.backend) (event : Event) :
    (call.respond transaction isFree event).1.Orderly transaction.backend := by
  -- The first two parts follow from the turn, and the third one from the errand.
  have turn := responds transaction isFree call event
  refine ⟨turn.quiet orderly, turn.busy orderly, fun still => ?_⟩
  -- A foreign call was dealt with as a whole, and a native one stays native.
  cases own : call.errand.isForeign transaction.backend with
  | false => exact absurd still (by simp [turn.native own])
  | true =>
    obtain ⟨after, same, -, refused⟩ := orderly.respond_foreign own isFree event
    rwa [same]

/-- A call that has the lock has no foreign statement. -/
theorem Orderly.isForeign_of_hasLock {native : Backend} (orderly : call.Orderly native)
    (held : call.stage.hasLock = true) : call.errand.isForeign native = false := by
  -- Such an errand stays before the lock, be it that it has not started or that it is gone.
  refine Bool.eq_false_iff.mpr fun foreign => ?_
  rcases orderly.foreign foreign with ready | ⟨gone, -⟩
  · simp [ready, Stage.hasLock] at held
  · simp [(Stage.of_isGone gone).2.1] at held

/-- How a turn of a call moves the lock. -/
theorem Responds.lock {after : Call κ} {effect : Effect}
    (turn : Responds transaction isFree call after effect) :
    match effect with
    | .none | .send _ => after.stage.hasLock = call.stage.hasLock
    | .acquire => isFree = true ∧ after.stage.hasLock = true
    | .release | .take => call.stage.hasLock = true ∧ after.stage.hasLock = false := by
  -- By what the call does, as each of these turns says where the lock is.
  cases turn with
  | stays => rfl
  -- A call that waits does not have the lock yet, and one that has taken the connection no longer.
  | waits standing busy native => simp [standing, moved, Stage.hasLock]
  | acquires standing free => exact ⟨free, rfl⟩
  | sends standing present next => simp [standing, moved, Stage.hasLock]
  | takes standing present errand => simp [standing, moved, Stage.hasLock]
  | finishes standing errand => simp [standing, moved, Stage.hasLock]
  | gives stream late untaken lock => exact lock
  | continues standing errand => simp [standing, Stage.hasLock]
  | leaves unheld gone => exact (Stage.of_isGone gone).2.1.trans unheld.symm
  | releases held gone => exact ⟨held, (Stage.of_isGone gone).2.1⟩

/-- How a turn of a call moves the connection of the handle. -/
theorem Responds.connection {after : Call κ} {effect : Effect}
    (turn : Responds transaction isFree call after effect) :
    match effect with
    | .take => transaction.isFinished = false ∧ call.stage.isTaken = false
    | .send (.ending _) => call.stage.isTaken = true ∧ after.stage.isTaken = false
    | .send (.statement _) => transaction.isFinished = false ∧ after.stage.isTaken = false
    | _ => after.stage.isTaken = true → call.stage.isTaken = true := by
  -- By what the call does; only an ending takes the connection out of the handle.
  cases turn with
  | stays => exact id
  | sends standing present next => exact ⟨present, rfl⟩
  | takes standing present errand => exact ⟨present, by simp [standing, Stage.isTaken]⟩
  | finishes standing errand => exact ⟨by simp [standing, Stage.isTaken], rfl⟩
  | gives stream late untaken lock => exact fun taken => absurd taken (by simp [moved, untaken])
  | leaves unheld gone =>
    exact fun taken => absurd taken (by simp [moved, (Stage.of_isGone gone).2.2])
  | releases held gone =>
    exact fun taken => absurd taken (by simp [moved, (Stage.of_isGone gone).2.2])
  | _ => exact nofun

end Call

end RowFilter
