import SchoolRegistry.Relational.UnitOfWork

/-!
# Sessions of a unit of work

A unit of work goes through blocks one after the other. What sessions do is left open, so that any
of their calls may fail at any time; a record tells which session was asked for what, and whether
it succeeded (`SessionCalls.recorded`). Keeping the record changes nothing else
(`Block.forget_run`).

`UnitOfWork.blocks_end_their_sessions` says what the record shows of every block, after any blocks
before it. It is left by one commit or, if it failed, by one rollback and no commit. A commit that
fails is followed by a rollback (`Undone`), and a block is reported as a success only if every call
that ended it succeeded (`Exit`). A session that the unit of work opened is closed once, when its
block ends, and none is at hand until the next block begins (`UnitOfWork.Between`); a session of the
caller is never closed.

Blocks do not overlap: a second beginning before the end would lose a session. Inside of a block
anything may be done to the session but closing it.
-/

namespace SchoolRegistry

variable {σ : Type}

/-! ## Sessions with a record -/

/-- What a session is asked for. -/
inductive SessionDeed where
  | commit
  | rollback
  | close
deriving DecidableEq

/-- What a session was asked for, and whether it succeeded. -/
structure SessionCall where
  /-- The number of the session. -/
  session : Nat
  deed : SessionDeed
  succeeded : Bool
deriving DecidableEq

/-- Sessions with the record of their calls. -/
structure Recorded (σ : Type) where
  state : σ
  /-- How many sessions were opened. The last one has this number, and a session of the caller has
  number 0. -/
  opened : Nat
  calls : List SessionCall

namespace Recorded

/-- Nothing was asked yet. -/
def new (s : σ) : Recorded σ := ⟨s, 0, []⟩

/-- The session at hand is asked for something. -/
def ask (deed : SessionDeed) (call : σ → Bool × σ) (r : Recorded σ) : Bool × Recorded σ :=
  let (succeeded, s) := call r.state
  (succeeded, ⟨s, r.opened, r.calls ++ [⟨r.opened, deed, succeeded⟩]⟩)

/-- How often a session was closed. -/
def closings (r : Recorded σ) (session : Nat) : Nat :=
  r.calls.countP fun c => c.session = session ∧ c.deed = .close

end Recorded

/-- The calls of sessions, put on record. -/
def SessionCalls.recorded (calls : SessionCalls σ) : SessionCalls (Recorded σ) where
  start r := ⟨calls.start r.state, r.opened + 1, r.calls⟩
  commit := Recorded.ask .commit calls.commit
  rollback := Recorded.ask .rollback calls.rollback
  close := Recorded.ask .close calls.close

/-! ## Blocks -/

/-- What is done inside of a block. -/
inductive BlockStep (σ : Type) where
  /-- The session is used. -/
  | use (f : σ → σ)
  | commit
  | rollback

/-- A block of work. -/
structure Block (σ : Type) where
  steps : List (BlockStep σ)
  /-- Whether it is left by a failure. -/
  failed : Bool

/-- The step on sessions with a record. -/
def BlockStep.recorded : BlockStep σ → BlockStep (Recorded σ)
  | use f => use fun r => { r with state := f r.state }
  | commit => commit
  | rollback => rollback

/-- The unit of work after the step. -/
def BlockStep.take (calls : SessionCalls σ) (u : UnitOfWork σ) : BlockStep σ → UnitOfWork σ
  | use f => { u with state := f u.state }
  | commit => (u.commit calls).2
  | rollback => (u.rollback calls).2

namespace Block

/-- The block on sessions with a record. -/
def recorded (b : Block σ) : Block (Recorded σ) := ⟨b.steps.map BlockStep.recorded, b.failed⟩

/-- The unit of work at the end of the block, before it is left. -/
def inside (calls : SessionCalls σ) (b : Block σ) (u : UnitOfWork σ) : UnitOfWork σ :=
  b.steps.foldl (BlockStep.take calls) (u.enter calls)

/-- Goes through the block. -/
def run (calls : SessionCalls σ) (b : Block σ) (u : UnitOfWork σ) :
    Except Failure Unit × UnitOfWork σ :=
  (b.inside calls u).leave calls b.failed

/-- The unit of work after several blocks. -/
def runAll (calls : SessionCalls σ) (bs : List (Block σ)) (u : UnitOfWork σ) : UnitOfWork σ :=
  bs.foldl (fun u b => (b.run calls u).2) u

end Block

/-! ## The record changes nothing -/

/-- The unit of work without the record. -/
def UnitOfWork.forget (u : UnitOfWork (Recorded σ)) : UnitOfWork σ :=
  ⟨u.source, u.isOpen, u.state.state⟩

section Forget

variable (calls : SessionCalls σ) (u : UnitOfWork (Recorded σ))

theorem UnitOfWork.forget_enter : (u.enter calls.recorded).forget = u.forget.enter calls := by
  obtain ⟨source, isOpen, state⟩ := u
  cases source <;> rfl

theorem UnitOfWork.forget_commit :
    ((u.commit calls.recorded).1, (u.commit calls.recorded).2.forget) = u.forget.commit calls := by
  obtain ⟨source, isOpen, state⟩ := u
  cases isOpen with
  | false => rfl
  | true =>
    cases committed : (calls.commit state.state).1 <;>
      simp [commit, SessionCalls.recorded, Recorded.ask, forget, committed]

theorem UnitOfWork.forget_rollback :
    ((u.rollback calls.recorded).1, (u.rollback calls.recorded).2.forget) =
      u.forget.rollback calls := by
  obtain ⟨source, isOpen, state⟩ := u
  cases isOpen <;> rfl

theorem UnitOfWork.forget_close :
    ((u.close calls.recorded).1, (u.close calls.recorded).2.forget) = u.forget.close calls := by
  obtain ⟨source, isOpen, state⟩ := u
  cases source <;> cases isOpen <;> rfl

theorem UnitOfWork.forget_leave (failed : Bool) :
    ((u.leave calls.recorded failed).1, (u.leave calls.recorded failed).2.forget) =
      u.forget.leave calls failed := by
  have ended :
      ((if failed then u.rollback calls.recorded else u.commit calls.recorded).1,
        (if failed then u.rollback calls.recorded else u.commit calls.recorded).2.forget) =
      if failed then u.forget.rollback calls else u.forget.commit calls := by
    cases failed with
    | false => exact forget_commit calls u
    | true => exact forget_rollback calls u
  simp only [leave, ← ended, ← forget_close]
  split <;> rfl

theorem BlockStep.forget_take (step : BlockStep σ) :
    (step.recorded.take calls.recorded u).forget = step.take calls u.forget := by
  cases step with
  | use f => rfl
  | commit => exact congrArg Prod.snd (UnitOfWork.forget_commit calls u)
  | rollback => exact congrArg Prod.snd (UnitOfWork.forget_rollback calls u)

/-- Inside of a block the record makes no difference. -/
theorem Block.forget_inside (b : Block σ) :
    (b.recorded.inside calls.recorded u).forget = b.inside calls u.forget := by
  have taken : ∀ (steps : List (BlockStep σ)) (u : UnitOfWork (Recorded σ)),
      ((steps.map BlockStep.recorded).foldl (BlockStep.take calls.recorded) u).forget =
        steps.foldl (BlockStep.take calls) u.forget := by
    intro steps
    induction steps with
    | nil => intro u; rfl
    | cons step steps ih =>
      intro u
      simp only [List.map_cons, List.foldl_cons, ih, BlockStep.forget_take]
  simp only [inside, recorded, taken, UnitOfWork.forget_enter]

/-- With or without the record, a block has the same outcome and leaves the same behind. -/
theorem Block.forget_run (b : Block σ) :
    ((b.recorded.run calls.recorded u).1, (b.recorded.run calls.recorded u).2.forget) =
      b.run calls u.forget := by
  rw [run, run, UnitOfWork.forget_leave, forget_inside]
  rfl

/-- Nor does it after several blocks. -/
theorem Block.forget_runAll (bs : List (Block σ)) :
    (runAll calls.recorded (bs.map recorded) u).forget = runAll calls bs u.forget := by
  induction bs generalizing u with
  | nil => rfl
  | cons b bs ih =>
    have one := congrArg Prod.snd (forget_run calls u b)
    simp only [runAll, List.map_cons, List.foldl_cons] at ih one ⊢
    rw [ih, one]

end Forget

/-! ## What a block adds to the record -/

/-- Only calls were added to the record, and no session was opened. -/
structure UnitOfWork.Adds (u u' : UnitOfWork (Recorded σ)) (added : List SessionCall) : Prop where
  source : u'.source = u.source
  opened : u'.state.opened = u.state.opened
  calls : u'.state.calls = u.state.calls ++ added

/-- Every commit that failed is followed by a rollback of the same session at once. -/
def Undone : List SessionCall → Prop
  | [] => True
  | c :: rest => (c.deed = .commit ∧ ¬ c.succeeded →
      ∃ r ∈ rest.head?, r.session = c.session ∧ r.deed = .rollback) ∧ Undone rest

/-- Failed commits stay undone when calls come later. -/
theorem Undone.append {one two : List SessionCall} (first : Undone one) (second : Undone two) :
    Undone (one ++ two) := by
  induction one with
  | nil => exact second
  | cons c rest ih =>
    refine ⟨fun failed => ?_, ih first.2⟩
    obtain ⟨r, next, rollback⟩ := first.1 failed
    exact ⟨r, by simp [Option.mem_def.mp next], rollback⟩

/-- How a block is left: its outcome, and the calls that ended it. -/
structure Exit (owns failed : Bool) (session : Nat) (exit : List SessionCall)
    (outcome : Except Failure Unit) : Prop where
  ofSession : ∀ c ∈ exit, c.session = session
  commits : (exit.countP fun c => c.deed = .commit) = if failed then 0 else 1
  rollbacks : failed → (exit.countP fun c => c.deed = .rollback) = 1
  undone : Undone exit
  closings : (exit.countP fun c => c.deed = .close) = if owns then 1 else 0
  outcome : outcome = .ok () ↔ ∀ c ∈ exit, c.succeeded

namespace UnitOfWork

variable (calls : SessionCalls σ) {u v w : UnitOfWork (Recorded σ)} {one two : List SessionCall}

theorem Adds.refl : Adds u u [] := ⟨rfl, rfl, by simp⟩

/-- Calls added in two steps are added in both. -/
theorem Adds.trans (first : Adds u v one) (second : Adds v w two) : Adds u w (one ++ two) :=
  ⟨second.source.trans first.source, second.opened.trans first.opened,
    by rw [second.calls, first.calls, List.append_assoc]⟩

/-- A rollback of an open session. -/
theorem adds_rollback (isOpen : u.isOpen) :
    ∃ succeeded, Adds u (u.rollback calls.recorded).2 [⟨u.state.opened, .rollback, succeeded⟩] ∧
      (u.rollback calls.recorded).2.isOpen ∧
      ((u.rollback calls.recorded).1 = .ok () ↔ succeeded) := by
  refine ⟨(calls.rollback u.state.state).1, ⟨?_, ?_, ?_⟩, ?_, ?_⟩ <;>
    simp [rollback, isOpen, SessionCalls.recorded, Recorded.ask]

/-- A commit in an open session, and the rollback after it if it failed. -/
theorem adds_commit (isOpen : u.isOpen) :
    (u.commit calls.recorded).2.isOpen ∧
      ((u.commit calls.recorded).1 = .ok () ∧
          Adds u (u.commit calls.recorded).2 [⟨u.state.opened, .commit, true⟩] ∨
        (u.commit calls.recorded).1 = .error (.storage .commit) ∧
          ∃ succeeded, Adds u (u.commit calls.recorded).2
            [⟨u.state.opened, .commit, false⟩, ⟨u.state.opened, .rollback, succeeded⟩]) := by
  cases committed : (calls.commit u.state.state).1 with
  | true =>
    refine ⟨?_, .inl ⟨?_, ?_, ?_, ?_⟩⟩ <;>
      simp [commit, isOpen, SessionCalls.recorded, Recorded.ask, committed]
  | false =>
    refine ⟨?_, .inr ⟨?_, (calls.rollback (calls.commit u.state.state).2).1, ?_, ?_, ?_⟩⟩ <;>
      simp [commit, isOpen, SessionCalls.recorded, Recorded.ask, committed]

/-- The session is closed if the unit of work opened it, and no longer at hand then. -/
theorem adds_close (isOpen : u.isOpen) :
    (u.close calls.recorded).2.isOpen = (u.source == .caller) ∧
      (u.source = .caller ∧ (u.close calls.recorded).1 = .ok () ∧
          Adds u (u.close calls.recorded).2 [] ∨
        u.source = .opened ∧ ∃ succeeded : Bool, ((u.close calls.recorded).1 = .ok () ↔ succeeded) ∧
          Adds u (u.close calls.recorded).2 [⟨u.state.opened, .close, succeeded⟩]) := by
  cases source : u.source with
  | caller =>
    have untouched : u.close calls.recorded = (.ok (), u) := by simp [close, ownsSession, source]
    rw [untouched]
    exact ⟨isOpen, .inl ⟨rfl, rfl, Adds.refl⟩⟩
  | opened =>
    refine ⟨?_, .inr ⟨rfl, (calls.close u.state.state).1, ?_, ?_, ?_, ?_⟩⟩ <;>
      simp [close, ownsSession, source, isOpen, SessionCalls.recorded, Recorded.ask]

/-- What is done inside of a block keeps its session at hand, and does not close it. -/
theorem adds_take (isOpen : u.isOpen) (step : BlockStep σ) :
    let v := step.recorded.take calls.recorded u
    v.isOpen ∧ ∃ added, Adds u v added ∧ (∀ c ∈ added, c.deed ≠ .close) ∧ Undone added := by
  cases step with
  | use f =>
    have none : Adds u ((BlockStep.use f).recorded.take calls.recorded u) [] :=
      ⟨rfl, rfl, (List.append_nil _).symm⟩
    exact ⟨isOpen, [], none, by simp, trivial⟩
  | commit =>
    obtain ⟨still, ⟨-, added⟩ | ⟨-, _, added⟩⟩ := adds_commit calls isOpen
    · exact ⟨still, _, added, by simp, by simp [Undone]⟩
    · exact ⟨still, _, added, by simp, by simp [Undone]⟩
  | rollback =>
    obtain ⟨_, added, still, -⟩ := adds_rollback calls isOpen
    exact ⟨still, _, added, by simp, by simp [Undone]⟩

/-- In an open unit of work the steps of a block only add calls. -/
theorem adds_steps (steps : List (BlockStep σ)) (isOpen : u.isOpen) :
    let v := (steps.map BlockStep.recorded).foldl (BlockStep.take calls.recorded) u
    v.isOpen ∧ ∃ added, Adds u v added ∧ (∀ c ∈ added, c.deed ≠ .close) ∧ Undone added := by
  induction steps generalizing u with
  | nil => exact ⟨isOpen, [], Adds.refl, by simp, trivial⟩
  | cons step steps ih =>
    obtain ⟨still, one, added, kept, undone⟩ := adds_take calls isOpen step
    obtain ⟨open_, two, rest, keeps, undoes⟩ := ih still
    exact ⟨open_, one ++ two, added.trans rest, List.forall_mem_append.mpr ⟨kept, keeps⟩,
      undone.append undoes⟩

end UnitOfWork

/-! ## Leaving a block -/

namespace Exit

variable {failed : Bool} {session : Nat} {exit : List SessionCall} {outcome : Except Failure Unit}

/-- A block that failed ends in a rollback. -/
theorem of_rollback {succeeded : Bool} (told : outcome = .ok () ↔ succeeded) :
    Exit false true session [⟨session, .rollback, succeeded⟩] outcome := by
  constructor <;> simp [told, Undone]

/-- A block that did not fail ends in a commit. -/
theorem of_commit (told : outcome = .ok ()) :
    Exit false false session [⟨session, .commit, true⟩] outcome := by
  constructor <;> simp [told, Undone]

/-- A commit that fails is rolled back. -/
theorem of_failed_commit {succeeded : Bool} {e : Failure} (told : outcome = .error e) :
    Exit false false session [⟨session, .commit, false⟩, ⟨session, .rollback, succeeded⟩]
      outcome := by
  constructor <;> simp [told, Undone]

theorem congr {total : Except Failure Unit} (ended : Exit false failed session exit outcome)
    (same : total = .ok () ↔ outcome = .ok ()) : Exit false failed session exit total :=
  ⟨ended.ofSession, ended.commits, ended.rollbacks, ended.undone, ended.closings,
    same.trans ended.outcome⟩

/-- Closing the session in addition. -/
theorem close {succeeded : Bool} {total : Except Failure Unit}
    (ended : Exit false failed session exit outcome)
    (told : total = .ok () ↔ outcome = .ok () ∧ succeeded) :
    Exit true failed session (exit ++ [⟨session, .close, succeeded⟩]) total := by
  constructor
  case ofSession => simpa [or_imp, forall_and] using ended.ofSession
  case commits => simpa using ended.commits
  case rollbacks => simpa using ended.rollbacks
  case undone => exact ended.undone.append (by simp [Undone])
  case closings => simpa using ended.closings
  case outcome => simp [told, ended.outcome, or_imp, forall_and]

end Exit

namespace UnitOfWork

variable (calls : SessionCalls σ) {u : UnitOfWork (Recorded σ)}

/-- What ends a block, before the session is closed. -/
def ending {τ : Type} (calls : SessionCalls τ) (failed : Bool) (u : UnitOfWork τ) :
    Except Failure Unit × UnitOfWork τ :=
  if failed then u.rollback calls else u.commit calls

/-- To leave a block is to end it and then to close the session, whatever the end was. -/
theorem leave_eq {τ : Type} (calls : SessionCalls τ) (failed : Bool) (u : UnitOfWork τ) :
    u.leave calls failed =
      (((u.ending calls failed).2.close calls).1 >>= fun _ => (u.ending calls failed).1,
        ((u.ending calls failed).2.close calls).2) := by
  simp only [leave, ending]
  split <;> rename_i closing <;> rw [closing] <;> rfl

/-- A block is left well if both its end and the closing succeed. -/
theorem leave_ok_iff {τ : Type} (calls : SessionCalls τ) (failed : Bool) (u : UnitOfWork τ) :
    (u.leave calls failed).1 = .ok () ↔
      (u.ending calls failed).1 = .ok () ∧ ((u.ending calls failed).2.close calls).1 = .ok () := by
  rw [leave_eq]
  cases ((u.ending calls failed).2.close calls).1 <;> simp [bind, Except.bind]

/-- The calls that end a block, before the session is closed. -/
theorem adds_ending (failed : Bool) (isOpen : u.isOpen) :
    (u.ending calls.recorded failed).2.isOpen ∧
      ∃ exit, Adds u (u.ending calls.recorded failed).2 exit ∧
        Exit false failed u.state.opened exit (u.ending calls.recorded failed).1 := by
  cases failed with
  | true =>
    obtain ⟨_, added, still, told⟩ := adds_rollback calls isOpen
    exact ⟨still, _, added, Exit.of_rollback told⟩
  | false =>
    obtain ⟨still, ⟨told, added⟩ | ⟨told, _, added⟩⟩ := adds_commit calls isOpen
    · exact ⟨still, _, added, Exit.of_commit told⟩
    · exact ⟨still, _, added, Exit.of_failed_commit told⟩

/-- The calls that end a block. -/
theorem adds_leave (failed : Bool) (isOpen : u.isOpen) :
    (u.leave calls.recorded failed).2.isOpen = (u.source == .caller) ∧
      ∃ exit, Adds u (u.leave calls.recorded failed).2 exit ∧
        Exit (u.source == .opened) failed u.state.opened exit
          (u.leave calls.recorded failed).1 := by
  have left := congrArg Prod.snd (leave_eq calls.recorded failed u)
  have outcome := leave_ok_iff calls.recorded failed u
  obtain ⟨still, exit, added, ended⟩ := adds_ending calls failed isOpen
  obtain ⟨now, ⟨source, told, closed⟩ | ⟨source, succeeded, told, closed⟩⟩ :=
    adds_close calls still
  all_goals
    rw [added.source] at now source
    rw [source] at now ⊢
    rw [left]
  · have same := added.trans closed
    rw [List.append_nil] at same
    exact ⟨now, exit, same, ended.congr (by simpa [told] using outcome)⟩
  · rw [told] at outcome
    rw [added.opened] at closed
    exact ⟨now, _, added.trans closed, ended.close outcome⟩

end UnitOfWork

/-! ## Between blocks -/

/-- Between blocks a session is at hand only if a caller passed it in, every commit that failed was
undone, and every session that the unit of work opened was closed, once. -/
structure UnitOfWork.Between (u : UnitOfWork (Recorded σ)) : Prop where
  isOpen : u.isOpen = (u.source == .caller)
  undone : Undone u.state.calls
  closings : ∀ session, u.state.closings session =
    if u.source = .opened ∧ 1 ≤ session ∧ session ≤ u.state.opened then 1 else 0

namespace UnitOfWork

variable (calls : SessionCalls σ) {u v : UnitOfWork (Recorded σ)} {added : List SessionCall}

/-- The closings on record are those before and those added. -/
theorem Adds.closings (step : Adds u v added) (session : Nat) :
    v.state.closings session = u.state.closings session +
      added.countP fun c => c.session = session ∧ c.deed = .close := by
  simp only [Recorded.closings, step.calls, List.countP_append]

/-- No session is closed inside of a block. -/
theorem Adds.closings_eq (step : Adds u v added) (kept : ∀ c ∈ added, c.deed ≠ .close)
    (session : Nat) : v.state.closings session = u.state.closings session := by
  have none : (added.countP fun c => c.session = session ∧ c.deed = .close) = 0 :=
    List.countP_eq_zero.mpr fun c member => by simp [kept c member]
  rw [step.closings, none, Nat.add_zero]

end UnitOfWork

/-- The end of a block closes its session if the unit of work opened it, and no other. -/
theorem Exit.closings_of {owns failed : Bool} {session : Nat} {exit : List SessionCall}
    {outcome : Except Failure Unit} (left : Exit owns failed session exit outcome) (other : Nat) :
    (exit.countP fun c => c.session = other ∧ c.deed = .close) =
      if owns ∧ other = session then 1 else 0 := by
  by_cases same : other = session
  · have all : (exit.countP fun c => c.session = other ∧ c.deed = .close) =
        exit.countP fun c => c.deed = .close :=
      List.countP_congr fun c member => by simp [left.ofSession c member, same]
    rw [all, left.closings]
    simp only [same, and_true]
  · have none : (exit.countP fun c => c.session = other ∧ c.deed = .close) = 0 :=
      List.countP_eq_zero.mpr fun c member => by simp [left.ofSession c member, Ne.symm same]
    rw [none]
    simp only [same, and_false, if_false]

namespace UnitOfWork

variable (calls : SessionCalls σ) {u : UnitOfWork (Recorded σ)}

/-- Beginning a block opens a session if the unit of work has its own. -/
theorem Between.enter (between : u.Between) :
    let v := u.enter calls.recorded
    v.isOpen ∧ v.source = u.source ∧
      v.state.opened = u.state.opened + (if u.source = .opened then 1 else 0) ∧
      v.state.calls = u.state.calls := by
  cases source : u.source with
  | caller => simp [UnitOfWork.enter, source, between.isOpen]
  | opened => simp [UnitOfWork.enter, source, SessionCalls.recorded]

/-- A block begun between blocks, up to its end. -/
theorem Between.inside (between : u.Between) (b : Block σ) :
    let v := b.recorded.inside calls.recorded u
    v.isOpen ∧ v.source = u.source ∧
      v.state.opened = u.state.opened + (if u.source = .opened then 1 else 0) ∧
      Undone v.state.calls ∧ ∀ session, v.state.closings session = u.state.closings session := by
  obtain ⟨open_, source, opened, entered⟩ := between.enter calls
  obtain ⟨still, added, step, kept, undone⟩ := adds_steps calls b.steps open_
  refine ⟨still, step.source.trans source, step.opened.trans opened, ?_, fun session => ?_⟩
  · exact step.calls ▸ (entered ▸ between.undone).append undone
  · refine (step.closings_eq kept session).trans ?_
    rw [Recorded.closings, entered, ← Recorded.closings]

/-- A block ends between blocks again. -/
theorem Between.run (between : u.Between) (b : Block σ) :
    let v := b.recorded.inside calls.recorded u
    let w := b.recorded.run calls.recorded u
    w.2.Between ∧ w.2.source = u.source ∧ w.2.state.opened = v.state.opened ∧
      ∃ exit, w.2.state.calls = v.state.calls ++ exit ∧
        Exit (u.source == .opened) b.failed v.state.opened exit w.1 := by
  obtain ⟨open_, source, opened, undone, closings⟩ := between.inside calls b
  obtain ⟨now, exit, step, left⟩ := adds_leave calls b.failed open_
  rw [source] at now left
  have source := step.source.trans source
  refine ⟨⟨?_, ?_, fun session => ?_⟩, source, step.opened, exit, step.calls, left⟩
  · exact now.trans (by rw [← source]; rfl)
  · exact step.calls ▸ undone.append left.undone
  · change (leave calls.recorded b.failed _).2.state.closings session =
      if (leave calls.recorded b.failed _).2.source = .opened ∧ 1 ≤ session ∧
        session ≤ (leave calls.recorded b.failed _).2.state.opened then 1 else 0
    rw [step.closings, closings, between.closings, left.closings_of, source, step.opened, opened]
    cases u.source with
    | caller => simp
    | opened =>
      simp only [beq_self_eq_true, true_and, if_true]
      grind

/-- Before its first block a unit of work is between blocks. -/
theorem between_new (source : SessionSource) (s : σ) :
    (UnitOfWork.new source (Recorded.new s)).Between := by
  refine ⟨rfl, trivial, fun session => ?_⟩
  have none : ¬ (source = .opened ∧ 1 ≤ session ∧ session ≤ 0) := by omega
  exact (if_neg none).symm

/-- After any blocks a unit of work is between blocks, and it opened a session for each if it has
its own. -/
theorem Between.runAll (between : u.Between) (bs : List (Block σ)) :
    let v := Block.runAll calls.recorded (bs.map Block.recorded) u
    v.Between ∧ v.source = u.source ∧
      v.state.opened = u.state.opened + (if u.source = .opened then bs.length else 0) := by
  induction bs generalizing u with
  | nil => exact ⟨between, rfl, by simp [Block.runAll]⟩
  | cons b bs ih =>
    obtain ⟨-, -, begun, -⟩ := between.inside calls b
    obtain ⟨between, source, opened, -⟩ := between.run calls b
    obtain ⟨finally_, same, total⟩ := ih between
    refine ⟨finally_, same.trans source, total.trans ?_⟩
    rw [opened, begun, source]
    cases u.source with
    | caller => rfl
    | opened => simp only [if_true, List.length_cons, Nat.add_assoc, Nat.add_comm]

/-- Between two blocks a session can be used only if the caller gave it. -/
theorem Between.needsSession (between : u.Between) :
    u.needsSession = if u.source = .opened then .error (.storage .noSession) else .ok () := by
  rw [UnitOfWork.needsSession, between.isOpen]
  cases u.source <;> rfl

/-- What the record shows of a block, after any blocks before it. Neither before nor after it can
anything be done, unless a caller passed in the session; inside of it everything can, in a session
of its own number. The block ends by the calls of `Exit`. Every commit that failed, also one inside
of a block, was followed by a rollback. All sessions that were opened for the blocks before it were
closed, once, and its own is when it ends; a session of a caller never is. All of this goes for
sessions that fail in any way, as the record does not change what happens. -/
theorem blocks_end_their_sessions (source : SessionSource) (s : σ) (before : List (Block σ))
    (b : Block σ) :
    let u := Block.runAll calls.recorded (before.map Block.recorded) (new source (Recorded.new s))
    let inside := b.recorded.inside calls.recorded u
    let outcome := (b.recorded.run calls.recorded u).1
    let after := (b.recorded.run calls.recorded u).2
    let owns : Bool := source == .opened
    let outside : Except Failure Unit := if owns then .error (.storage .noSession) else .ok ()
    (u.needsSession = outside ∧ inside.needsSession = .ok () ∧ after.needsSession = outside) ∧
      inside.state.opened = (if owns then before.length + 1 else 0) ∧
      (∃ exit, after.state.calls = inside.state.calls ++ exit ∧
        Exit owns b.failed inside.state.opened exit outcome) ∧
      Undone after.state.calls ∧
      (∀ session, inside.state.closings session =
        if owns ∧ 1 ≤ session ∧ session ≤ before.length then 1 else 0) ∧
      (∀ session, after.state.closings session =
        if owns ∧ 1 ≤ session ∧ session ≤ before.length + 1 then 1 else 0) ∧
      (outcome, after.forget) = b.run calls (Block.runAll calls before (new source s)) := by
  obtain ⟨between, (ofSource : _ = source), opened⟩ := (between_new source s).runAll calls before
  have plain := Block.forget_runAll calls (new source (Recorded.new s)) before
  generalize Block.runAll calls.recorded (before.map Block.recorded)
    (new source (Recorded.new s)) = u at *
  obtain ⟨open_, -, begun, -, kept⟩ := between.inside calls b
  obtain ⟨between', ofSource', opened', exit, ended, left⟩ := between.run calls b
  have same := Block.forget_run calls u b
  rw [ofSource] at begun ofSource' left
  rw [plain] at same
  have counted : u.state.opened = if source = .opened then before.length else 0 :=
    opened.trans (Nat.zero_add _)
  refine ⟨⟨?_, ?_, ?_⟩, ?_, ⟨exit, ended, left⟩, between'.undone, fun session => ?_,
    fun session => ?_, same⟩
  · simpa [ofSource] using between.needsSession
  · exact if_pos open_
  · simpa [ofSource'] using between'.needsSession
  · rw [begun, counted]
    cases source <;> rfl
  · rw [kept, between.closings, ofSource, counted]
    cases source <;> simp
  · rw [between'.closings, ofSource', opened', begun, counted]
    cases source <;> simp

end UnitOfWork

end SchoolRegistry
