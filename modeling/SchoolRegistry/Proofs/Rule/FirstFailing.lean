import SchoolRegistry.Proofs.Rule.ShortCircuit

/-!
# The first rule that is not satisfied

A pipeline searches its rules for the first one that is not satisfied. `Spec.Search` describes such
a search by the inquiries that it makes, down to the single rules inside combinations: rule after
rule is judged until one is not satisfied or fails, and those after it are left alone.

A conjunction of the same rules makes the same search (`Search.follows`), so it asks the same and
fails at the same point, and only tells whether something was found. The pipeline also tells what:
the refusal that the rule stands for, and a record of it in the log (`validate_first_failing`).
Which rules were given at once and which were added later makes no difference, and a pipeline may
be cut in two anywhere.

Rules may do to the world and to its log what they like. The refusal that a rule stands for does not
depend on the world.
-/

namespace SchoolRegistry

variable {σ α : Type} {m : Type → Type}

/-! ## Worlds with a log -/

/-- A world that keeps a log beside what rules read and change. -/
structure Logged (σ : Type) where
  world : σ
  records : List LogRecord

/-- The world with one more record in its log. -/
def Logged.noting (r : LogRecord) (w : Logged σ) : Logged σ :=
  { w with records := w.records ++ [r] }

instance : Journal (Judging (Logged σ)) where
  note r := modify (Logged.noting r)

/-- Inquiries that lead on from one world to the next can be joined. -/
theorem Inquiry.Made.append {c : α} {w w' w'' : σ} {qs qs' : List (Inquiry σ α)}
    (h : Made c w qs w') (h' : Made c w' qs' w'') : Made c w (qs ++ qs') w'' := by
  induction h with
  | none => exact h'
  | one asked _ ih => exact .one asked (ih h')

/-! ## Decisions that go on -/

namespace Decision

/-- The decision with a way to go on for each of its outcomes. -/
def graft : Decision m α → Decision m α → Decision m α → Decision m α
  | settled yes, onYes, onNo => if yes then onYes else onNo
  | ask place r yes no, onYes, onNo =>
    ask place r (yes.graft onYes onNo) (no.graft onYes onNo)

theorem graft_ite (v : Value) (yes no onYes onNo : Decision m α) :
    (if v.truthy then yes else no).graft onYes onNo =
      if v.truthy then yes.graft onYes onNo else no.graft onYes onNo := by
  split
  · rfl
  · rfl

variable {d onYes onNo : Decision (Judging σ) α} {qs qs' : List (Inquiry σ α)}

/-- Inquiries that lead to an outcome are followed by those of its way to go on. -/
theorem Follows.graft_answered {yes : Bool} {x : Except Failure Bool}
    (h : d.Follows qs (.ok yes)) (next : (if yes then onYes else onNo).Follows qs' x) :
    (d.graft onYes onNo).Follows (qs ++ qs') x := by
  generalize outcome : (Except.ok yes : Except Failure Bool) = y at h
  induction h with
  | settled yes' =>
    cases outcome
    exact next
  | failed => cases outcome
  | answered i r yes' no' v later ih =>
    have rest := ih outcome
    rw [graft_ite] at rest
    exact .answered i r _ _ v rest

/-- A failure leaves no way to go on. -/
theorem Follows.graft_failed {f : Failure} (h : d.Follows qs (.error f)) :
    (d.graft onYes onNo).Follows qs (.error f) := by
  generalize outcome : (Except.error f : Except Failure Bool) = y at h
  induction h with
  | settled => cases outcome
  | failed i r yes' no' f' =>
    cases outcome
    exact .failed i r _ _ f
  | answered i r yes' no' v later ih =>
    have rest := ih outcome
    rw [graft_ite] at rest
    exact .answered i r _ _ v rest

end Decision

namespace Spec

mutual

/-- A branch goes on as the ways on which it goes on do. -/
theorem graft_branch (s : Spec m α) (k : Nat) (onYes onNo yes no : Decision m α) :
    (s.branch k yes no).graft onYes onNo =
      s.branch k (yes.graft onYes onNo) (no.graft onYes onNo) := by
  cases s with
  | rule r => rfl
  | all own first rest =>
    rw [branch, branch, graft_branch first, graft_branchAll rest]
  | any own first rest =>
    rw [branch, branch, graft_branch first, graft_branchAny rest]
  | not own operand =>
    rw [branch, branch, graft_branch operand]

theorem graft_branchAll (rest : List (Spec m α)) (k : Nat) (onYes onNo yes no : Decision m α) :
    (branchAll rest k yes no).graft onYes onNo =
      branchAll rest k (yes.graft onYes onNo) (no.graft onYes onNo) := by
  cases rest with
  | nil => rfl
  | cons s rest => rw [branchAll, branchAll, graft_branch s, graft_branchAll rest]

theorem graft_branchAny (rest : List (Spec m α)) (k : Nat) (onYes onNo yes no : Decision m α) :
    (branchAny rest k yes no).graft onYes onNo =
      branchAny rest k (yes.graft onYes onNo) (no.graft onYes onNo) := by
  cases rest with
  | nil => rfl
  | cons s rest => rw [branchAny, branchAny, graft_branch s, graft_branchAny rest]

end

/-- The decision of a specification whose first rule is at the given place. -/
def decisionAt (s : Spec m α) (k : Nat) : Decision m α :=
  s.branch k (.settled true) (.settled false)

/-- To decide and go on is to go on after the decision. -/
theorem branch_eq_graft (s : Spec m α) (k : Nat) (onYes onNo : Decision m α) :
    s.branch k onYes onNo = (s.decisionAt k).graft onYes onNo := by
  rw [decisionAt, graft_branch]
  rfl

/-- A search for the first specification that is not satisfied: the inquiries that it makes, with
places from a given one on, and what it finds. -/
inductive Search : Nat → List (Spec (Judging σ) α) → List (Inquiry σ α) →
    Except Failure (Option (Spec (Judging σ) α)) → Prop
  | exhausted (k : Nat) : Search k [] [] (.ok none)
  | satisfied {k : Nat} {s : Spec (Judging σ) α} {rest : List (Spec (Judging σ) α)}
    {qs qs' : List (Inquiry σ α)} {found : Except Failure (Option (Spec (Judging σ) α))}
    (judged : (s.decisionAt k).Follows qs (.ok true))
    (later : Search (k + s.leaves.length) rest qs' found) :
    Search k (s :: rest) (qs ++ qs') found
  | unsatisfied {k : Nat} {s : Spec (Judging σ) α} (rest : List (Spec (Judging σ) α))
    {qs : List (Inquiry σ α)} (judged : (s.decisionAt k).Follows qs (.ok false)) :
    Search k (s :: rest) qs (.ok (some s))
  | failed {k : Nat} {s : Spec (Judging σ) α} (rest : List (Spec (Judging σ) α))
    {qs : List (Inquiry σ α)} {f : Failure} (judged : (s.decisionAt k).Follows qs (.error f)) :
    Search k (s :: rest) qs (.error f)

/-- The search follows the decision of the conjunction. -/
theorem Search.follows {k : Nat} {rules : List (Spec (Judging σ) α)} {qs : List (Inquiry σ α)}
    {found : Except Failure (Option (Spec (Judging σ) α))} (h : Search k rules qs found) :
    (branchAll rules k (.settled true) (.settled false)).Follows qs
      (found.map Option.isNone) := by
  induction h with
  | exhausted k => exact .settled true
  | satisfied judged later ih =>
    rw [branchAll, branch_eq_graft]
    exact judged.graft_answered ih
  | unsatisfied rest judged =>
    rw [branchAll, branch_eq_graft]
    change Decision.Follows _ _ (.ok false)
    simpa only [List.append_nil] using judged.graft_answered (.settled false)
  | failed rest judged =>
    rw [branchAll, branch_eq_graft]
    exact judged.graft_failed

end Spec

/-! ## Searches of pipelines -/

namespace Pipeline

section Laws

variable [Monad m]

/-- The first specification that is not satisfied. -/
def firstFailing (c : α) : List (Spec m α) → m (Option (Spec m α))
  | [] => pure none
  | s :: rest => do
    let v ← s.judge c
    if v.truthy then firstFailing c rest else pure (some s)

/-- What a pipeline makes of what it found. -/
def report [Journal m] [Candidate α] (c : α) : Option (Spec m α) → m (Outcome Unit)
  | none => pure (.ok ())
  | some s => do
    Journal.note (unsatisfied s.name (s.violation c))
    pure (.error (s.violation c))

variable [LawfulMonad m]

/-- A pipeline reports the first specification that is not satisfied. -/
theorem validateBy_eq_firstFailing [Journal m] [Candidate α] (c : α) (rules : List (Spec m α)) :
    validateBy c rules = firstFailing c rules >>= report c := by
  induction rules with
  | nil => exact (pure_bind none (report c)).symm
  | cons s rest ih =>
    rw [validateBy, firstFailing, bind_assoc]
    refine bind_congr fun v => ?_
    by_cases yes : v.truthy
    · rw [if_pos yes, if_pos yes, ih]
    · rw [if_neg yes, if_neg yes, pure_bind]
      rfl

/-- A conjunction is satisfied if there is no such specification. -/
theorem judgeAll_eq_firstFailing (c : α) (rules : List (Spec m α)) :
    Spec.judgeAll rules c = Option.isNone <$> firstFailing c rules := by
  induction rules with
  | nil => exact (map_pure Option.isNone none).symm
  | cons s rest ih =>
    rw [Spec.judgeAll, firstFailing, map_bind]
    refine bind_congr fun v => ?_
    by_cases yes : v.truthy
    · rw [if_pos yes, if_pos yes, ih]
    · rw [if_neg yes, if_neg yes, map_pure]
      rfl

/-- So is the decision of a conjunction. -/
theorem run_decision_all (own : Option String) (first : Spec m α) (rest : List (Spec m α))
    (c : α) : (Spec.all own first rest).decision.run c =
      Option.isNone <$> firstFailing c (first :: rest) := by
  have all : (Spec.all own first rest).decision =
      Spec.branchAll (first :: rest) 0 (.settled true) (.settled false) := rfl
  rw [all, ← Spec.judge_branchAll, judgeAll_eq_firstFailing, map_eq_pure_bind, bind_assoc]
  refine bind_congr fun found => ?_
  rw [pure_bind]
  cases found.isNone <;> rfl

/-- The search judges the first specification and goes on if it is satisfied. -/
theorem firstFailing_cons (c : α) (k : Nat) (s : Spec m α) (rest : List (Spec m α)) :
    firstFailing c (s :: rest) = (s.decisionAt k).run c >>= fun yes =>
      if yes then firstFailing c rest else pure (some s) := by
  rw [firstFailing, Spec.decisionAt, ← Spec.judge_branch, bind_assoc]
  refine bind_congr fun v => ?_
  by_cases yes : v.truthy
  · rw [if_pos yes, if_pos yes, Decision.run, pure_bind, if_pos rfl]
  · rw [if_neg yes, if_neg yes, Decision.run, pure_bind, if_neg Bool.false_ne_true]

/-- A pipeline can be cut in two: the second part is judged if the first one is satisfied. -/
theorem validate_append [Journal m] [Candidate α] (c : α) (r₁ r₂ : List (Spec m α)) :
    validate ⟨r₁ ++ r₂⟩ c = (do
      match ← validate ⟨r₁⟩ c with
      | .ok () => validate ⟨r₂⟩ c
      | .error refusal => pure (.error refusal)) := by
  unfold validate
  dsimp only
  induction r₁ with
  | nil => rw [List.nil_append, validateBy, pure_bind]
  | cons s rest ih =>
    rw [List.cons_append, validateBy, validateBy, bind_assoc]
    refine bind_congr fun v => ?_
    by_cases yes : v.truthy
    · rw [if_pos yes, if_pos yes, ih]
    · rw [if_neg yes, if_neg yes, bind_assoc]
      refine bind_congr fun _ => ?_
      rw [pure_bind]

end Laws

/-- Rules that are added come after those that were given. -/
theorem foldl_add (given added : List (Spec m α)) :
    added.foldl add ⟨given⟩ = ⟨given ++ added⟩ := by
  induction added generalizing given with
  | nil => rw [List.append_nil, List.foldl_nil]
  | cons s rest ih => rw [List.foldl_cons, add, ih, List.append_assoc, List.singleton_append]

variable {c : α} {w : Logged σ}

/-- A run of a search. -/
theorem run_firstFailing (rules : List (Spec (Judging σ) α)) (c : α) (k : Nat) (w : σ) :
    ∃ qs found w', (firstFailing c rules).run.run w = (found, w') ∧ Inquiry.Made c w qs w' ∧
      Spec.Search k rules qs found := by
  induction rules generalizing k w with
  | nil => exact ⟨[], .ok none, w, rfl, .none w, .exhausted k⟩
  | cons s rest ih =>
    obtain ⟨qs, x, w₁, ran, made, judged⟩ := (s.decisionAt k).run_follows c w
    rw [firstFailing_cons c k]
    cases x with
    | error f => exact ⟨qs, .error f, w₁, Judging.run_bind_error ran, made, .failed rest judged⟩
    | ok yes =>
      rw [Judging.run_bind_ok ran]
      cases yes with
      | false => exact ⟨qs, .ok (some s), w₁, rfl, made, .unsatisfied rest judged⟩
      | true =>
        obtain ⟨qs', found, w', ran', made', later⟩ := ih (k + s.leaves.length) w₁
        exact ⟨qs ++ qs', found, w', ran', made.append made', .satisfied judged later⟩

/-- What a pipeline answers, and the world that it leaves, after what it found. -/
def reported [Candidate α] (c : α) (w : Logged σ) :
    Except Failure (Option (Spec (Judging (Logged σ)) α)) →
      Except Failure (Outcome Unit) × Logged σ
  | .ok none => (.ok (.ok ()), w)
  | .ok (some s) =>
    (.ok (.error (s.violation c)), w.noting (unsatisfied s.name (s.violation c)))
  | .error f => (.error f, w)

/-- A pipeline judges its rules up to the first that is not satisfied and reports it. The
conjunction of the rules judges the same. -/
theorem validate_first_failing [Candidate α] (rules : List (Spec (Judging (Logged σ)) α)) (c : α)
    (w : Logged σ) :
    (∃ qs found w', Spec.Search 0 rules qs found ∧ Inquiry.Made c w qs w' ∧
      (validate ⟨rules⟩ c).run.run w = reported c w' found ∧
      ∀ own first rest, rules = first :: rest →
        (Spec.all own first rest).ShortCircuits c w qs (found.map Option.isNone) w') ∧
    ∀ given added, rules = given ++ added →
      added.foldl add ⟨given⟩ = ⟨rules⟩ ∧
      validate ⟨rules⟩ c = (do
        match ← validate ⟨given⟩ c with
        | .ok () => validate ⟨added⟩ c
        | .error refusal => pure (.error refusal)) := by
  constructor
  · obtain ⟨qs, found, w', ran, made, search⟩ := run_firstFailing rules c 0 w
    refine ⟨qs, found, w', search, made, ?_, ?_⟩
    · rw [validate, validateBy_eq_firstFailing]
      cases found with
      | error f => exact Judging.run_bind_error ran
      | ok found =>
        rw [Judging.run_bind_ok ran]
        cases found with
        | none => rfl
        | some s => rfl
    · rintro own first rest rfl
      refine Spec.shortCircuits_of_follows (s := .all own first rest) trivial ?_ made search.follows
      rw [run_decision_all]
      exact Judging.run_map _ ran
  · rintro given added rfl
    exact ⟨foldl_add given added, validate_append c given added⟩

/-- `A` is satisfied, `~B` is not, and `C` would fail. -/
def interrupted : List (Spec (Judging (Logged Unit)) Value) :=
  [.rule (.plain "Leaf" "A" Spec.anyEntity fun _ => pure (.text "yes")),
    .not none (.rule (.plain "Leaf" "B" Spec.anyEntity fun _ => pure (.whole 1))),
    .rule (.plain "Leaf" "C" Spec.anyEntity fun _ => throw (.unforeseen "lost"))]

/-- The refusal is that of the negation, and `C` is not asked. -/
theorem validate_first_failing_interrupted :
    (∃ qs w', ((Pipeline.mk interrupted).validate Value.null).run.run ⟨(), []⟩ =
        (.ok (.error (.ruleViolated "NOT_B" "Entity" none [])), w') ∧
      w'.records.length = 1 ∧ Inquiry.Made Value.null ⟨(), []⟩ qs ⟨(), []⟩ ∧
      ∀ own first rest, interrupted = first :: rest →
        (Spec.all own first rest).ShortCircuits Value.null ⟨(), []⟩ qs (.ok false) ⟨(), []⟩) ∧
    (interrupted.drop 1).foldl add ⟨interrupted.take 1⟩ = ⟨interrupted⟩ := by
  obtain ⟨⟨qs, found, w', -, made, ran, same⟩, cut⟩ :=
    validate_first_failing interrupted Value.null ⟨(), []⟩
  have known : ((Pipeline.mk interrupted).validate Value.null).run.run ⟨(), []⟩ =
    (.ok (.error (.ruleViolated "NOT_B" "Entity" none [])),
      ⟨(), [unsatisfied "NOT_B" (.ruleViolated "NOT_B" "Entity" none [])]⟩) := rfl
  refine ⟨⟨qs, _, known, rfl, ?_⟩, (cut _ _ rfl).1⟩
  rw [known] at ran
  cases found with
  | error f => cases ran
  | ok found => cases found with
    | none => cases ran
    | some s =>
      have left : (⟨(), [] ++ [_]⟩ : Logged Unit) = w'.noting _ := (Prod.mk.inj ran).2
      have start : w' = ⟨(), []⟩ := congrArg (Logged.mk ())
        (List.append_inj_left' (congrArg Logged.records left) rfl).symm
      rw [start] at made same
      exact ⟨made, same⟩

end Pipeline

end SchoolRegistry
