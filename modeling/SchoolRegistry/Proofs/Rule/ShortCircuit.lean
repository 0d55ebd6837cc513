import SchoolRegistry.Proofs.Rule.Chain
import SchoolRegistry.Rule.Observed
import Mathlib.Logic.Function.Basic

/-!
# Short-circuited judgements

A rule may answer with any value, may fail, and may read and change the world that it is asked in.
`judge_short_circuits` says what a combination of such rules does in every world: it asks
occurrences from left to right and none twice, one exactly if nothing failed before and its verdict
can still change the value of the formula, given the verdicts so far. It answers with the value of
the formula, or with the failure of the last rule that it asked. De Morgan's laws and the brackets
of a chain change nothing of this.

Verdicts count by their truth. Nothing is said about a rule that never answers.
-/

namespace SchoolRegistry

/-- A judgement in a world that rules read and change. -/
abbrev Judging (σ : Type) := ExceptT Failure (StateM σ)

variable {σ α : Type}

namespace Judging

variable {β γ : Type} {x : Judging σ β} {f : β → Judging σ γ} {w w' : σ}

/-- After a result, the judgement goes on. -/
theorem run_bind_ok {b : β} (h : x.run.run w = (.ok b, w')) :
    (x >>= f).run.run w = (f b).run.run w' :=
  congrArg (fun y : Except Failure β × σ => ExceptT.bindCont (m := StateM σ) f y.1 y.2) h

/-- After a failure, it does not. -/
theorem run_bind_error {e : Failure} (h : x.run.run w = (.error e, w')) :
    (x >>= f).run.run w = (.error e, w') :=
  congrArg (fun y : Except Failure β × σ => ExceptT.bindCont (m := StateM σ) f y.1 y.2) h

theorem run_map {y : Except Failure β} (g : β → γ) (h : x.run.run w = (y, w')) :
    (g <$> x).run.run w = (y.map g, w') := by
  rw [map_eq_pure_bind]
  cases y with
  | ok b => exact run_bind_ok h
  | error e => exact run_bind_error h

end Judging

/-- An occurrence of a rule that was asked, and how it answered. -/
structure Inquiry (σ α : Type) where
  place : Nat
  rule : Rule (Judging σ) α
  answer : Except Failure Value

namespace Inquiry

/-- The inquiries are made one after the other and lead from one world to another. -/
inductive Made (c : α) : σ → List (Inquiry σ α) → σ → Prop
  | none (w : σ) : Made c w [] w
  | one {w w' w'' : σ} {q : Inquiry σ α} {qs : List (Inquiry σ α)}
    (asked : (q.rule.judge c).run.run w = (q.answer, w')) (later : Made c w' qs w'') :
    Made c w (q :: qs) w''

/-- The valuation gives the verdicts of the inquiries. -/
def Agrees (t : Nat → Bool) (qs : List (Inquiry σ α)) : Prop :=
  ∀ q ∈ qs, ∀ v, q.answer = .ok v → t q.place = v.truthy

/-- The inquiries about earlier occurrences. -/
def before (qs : List (Inquiry σ α)) (i : Nat) : List (Inquiry σ α) :=
  qs.filter fun q => q.place < i

/-- The verdict at a place can change the value of a formula, given the verdicts before it. -/
def Matters (formula : (Nat → Bool) → Bool) (qs : List (Inquiry σ α)) (i : Nat) : Prop :=
  ∃ t, Agrees t (before qs i) ∧
    formula (Function.update t i true) ≠ formula (Function.update t i false)

/-- The inquiries before a place are those about smaller places. -/
theorem mem_before {qs : List (Inquiry σ α)} {i : Nat} {q : Inquiry σ α} :
    q ∈ before qs i ↔ q ∈ qs ∧ q.place < i := by simp [before]

theorem mem_before_cons {p : Inquiry σ α} {qs : List (Inquiry σ α)} {i : Nat} {q : Inquiry σ α}
    (h : q ∈ before qs i) : q ∈ before (p :: qs) i :=
  mem_before.mpr ⟨List.mem_cons_of_mem _ (mem_before.mp h).1, (mem_before.mp h).2⟩

end Inquiry

open Inquiry

namespace Decision

/-! ## Inquiries along a decision -/

/-- The inquiries follow the decision to its outcome. -/
inductive Follows : Decision (Judging σ) α → List (Inquiry σ α) → Except Failure Bool → Prop
  | settled (yes : Bool) : Follows (.settled yes) [] (.ok yes)
  | failed (i : Nat) (r : Rule (Judging σ) α) (onYes onNo : Decision (Judging σ) α)
    (f : Failure) : Follows (.ask i r onYes onNo) [⟨i, r, .error f⟩] (.error f)
  | answered (i : Nat) (r : Rule (Judging σ) α) (onYes onNo : Decision (Judging σ) α) (v : Value)
    {qs : List (Inquiry σ α)} {x : Except Failure Bool}
    (later : Follows (if v.truthy then onYes else onNo) qs x) :
    Follows (.ask i r onYes onNo) (⟨i, r, .ok v⟩ :: qs) x

/-- A run of a decision makes inquiries that follow it. -/
theorem run_follows (d : Decision (Judging σ) α) (c : α) (w : σ) :
    ∃ qs x w', (d.run c).run.run w = (x, w') ∧ Made c w qs w' ∧ d.Follows qs x := by
  induction d generalizing w with
  | settled yes => exact ⟨[], .ok yes, w, rfl, .none w, .settled yes⟩
  | ask i r onYes onNo ihYes ihNo =>
    obtain ⟨answer, w₁, asked⟩ : ∃ answer w₁, (r.judge c).run.run w = (answer, w₁) := ⟨_, _, rfl⟩
    cases answer with
    | error f =>
      exact ⟨_, .error f, w₁, Judging.run_bind_error asked, .one asked (.none w₁),
        .failed i r onYes onNo f⟩
    | ok v =>
      obtain ⟨qs, x, w', ran, made, follows⟩ :
          ∃ qs x w', ((if v.truthy then onYes else onNo).run c).run.run w₁ = (x, w') ∧
            Made c w₁ qs w' ∧ (if v.truthy then onYes else onNo).Follows qs x := by
        by_cases yes : v.truthy
        · simpa [yes] using ihYes w₁
        · simpa [yes] using ihNo w₁
      refine ⟨_, x, w', ?_, .one asked made, .answered i r onYes onNo v follows⟩
      rw [run, Judging.run_bind_ok asked, ← ran]
      by_cases yes : v.truthy <;> simp [yes]

variable {d : Decision (Judging σ) α} {qs : List (Inquiry σ α)} {x : Except Failure Bool}

/-- Inquiries that follow a decision are about the rules that it asks. -/
theorem Follows.within (h : d.Follows qs x) {occurring : List (Rule (Judging σ) α)}
    (within : d.Within occurring) : ∀ q ∈ qs, occurring[q.place]? = some q.rule := by
  induction h with
  | settled => simp
  | failed i r onYes onNo f => simpa using within.1
  | answered i r onYes onNo v later ih =>
    obtain ⟨here, yes, no⟩ := within
    have further := ih (by by_cases h : v.truthy <;> simpa [h])
    simpa using ⟨here, further⟩

theorem After.later {i k : Nat} {r : Rule (Judging σ) α} {onYes onNo : Decision (Judging σ) α}
    (h : (ask i r onYes onNo).After k) (v : Value) :
    (if v.truthy then onYes else onNo).After (i + 1) := by
  by_cases yes : v.truthy
  · simpa [yes] using h.2.1
  · simpa [yes] using h.2.2

theorem Sharp.later {i : Nat} {r : Rule (Judging σ) α} {onYes onNo : Decision (Judging σ) α}
    (h : (ask i r onYes onNo).Sharp) (v : Value) : (if v.truthy then onYes else onNo).Sharp := by
  by_cases yes : v.truthy
  · simpa [yes] using h.2.1
  · simpa [yes] using h.2.2

/-- A valuation that agrees with the verdict of a rule goes the way of that verdict. -/
theorem value_ask {i : Nat} {r : Rule (Judging σ) α} {onYes onNo : Decision (Judging σ) α}
    {v : Value} {t : Nat → Bool} (agrees : t i = v.truthy) :
    (ask i r onYes onNo).value t = (if v.truthy then onYes else onNo).value t := by
  by_cases yes : v.truthy <;> simp [value, agrees, yes]

/-- Places only grow. -/
theorem Follows.after (h : d.Follows qs x) {k : Nat} (after : d.After k) :
    (∀ q ∈ qs, k ≤ q.place) ∧ qs.Pairwise fun p q => p.place < q.place := by
  induction h generalizing k with
  | settled => simp
  | failed i r onYes onNo f => simpa using after.1
  | answered i r onYes onNo v later ih =>
    obtain ⟨bound, ordered⟩ := ih (after.later v)
    have le := after.1
    refine ⟨fun q hq => ?_, List.pairwise_cons.mpr ⟨fun q hq => bound q hq, ordered⟩⟩
    rcases List.mem_cons.mp hq with rfl | hq
    · exact le
    · have := bound q hq
      omega

/-- The outcome is the value under every valuation that gives the verdicts. -/
theorem Follows.value (h : d.Follows qs x) {yes : Bool} (hx : x = .ok yes) {t : Nat → Bool}
    (agrees : Agrees t qs) : d.value t = yes := by
  induction h with
  | settled => simpa [Decision.value] using hx
  | failed => cases hx
  | answered i r onYes onNo v later ih =>
    rw [value_ask (agrees ⟨i, r, .ok v⟩ (by simp) v rfl)]
    exact ih hx fun q hq => agrees q (List.mem_cons_of_mem _ hq)

/-- There is such a valuation, since no place occurs twice. -/
theorem Follows.exists_agrees (h : d.Follows qs x) {k : Nat} (after : d.After k) :
    ∃ t, Agrees t qs := by
  induction h generalizing k with
  | settled => exact ⟨fun _ => true, by simp [Agrees]⟩
  | failed i r onYes onNo f => exact ⟨fun _ => true, by simp [Agrees]⟩
  | answered i r onYes onNo v later ih =>
    obtain ⟨t, ht⟩ := ih (after.later v)
    refine ⟨Function.update t i v.truthy, fun q hq u hu => ?_⟩
    rcases List.mem_cons.mp hq with rfl | hq
    · cases hu
      exact Function.update_self ..
    · have lt := (later.after (after.later v)).1 q hq
      rw [Function.update_of_ne (by omega)]
      exact ht q hq u hu

/-- A failure is that of the last rule asked, and there is no other. -/
theorem Follows.failure_iff (h : d.Follows qs x) (f : Failure) :
    x = .error f ↔ ∃ q ∈ qs, q.answer = .error f := by
  induction h with
  | settled => simp
  | failed => simp
  | answered i r onYes onNo v later ih => simpa using ih

/-- Only the last inquiry fails. -/
theorem Follows.answered_of_lt (h : d.Follows qs x) {k : Nat} (after : d.After k) :
    ∀ q ∈ qs, ∀ p ∈ qs, p.place < q.place → ∃ v, p.answer = .ok v := by
  induction h generalizing k with
  | settled => simp
  | failed i r onYes onNo f => simp
  | answered i r onYes onNo v later ih =>
    have bound := (later.after (after.later v)).1
    intro q hq p hp lt
    rcases List.mem_cons.mp hp with rfl | hp
    · exact ⟨v, rfl⟩
    · rcases List.mem_cons.mp hq with rfl | hq
      · have := bound p hp
        simp only at lt
        omega
      · exact ih (after.later v) q hq p hp lt

/-- Where a sharp decision asks, the verdict can make the difference. -/
theorem Sharp.differs {i k : Nat} {r : Rule (Judging σ) α} {onYes onNo : Decision (Judging σ) α}
    (sharp : (ask i r onYes onNo).Sharp) (after : (ask i r onYes onNo).After k) :
    ∃ t, (ask i r onYes onNo).value (Function.update t i true) ≠
      (ask i r onYes onNo).value (Function.update t i false) := by
  obtain ⟨t, ht⟩ := sharp.1
  have beyond : ∀ b j, i + 1 ≤ j → Function.update t i b j = t j :=
    fun b j le => Function.update_of_ne (by omega) ..
  refine ⟨t, ?_⟩
  simpa [Decision.value, value_congr after.2.1 (beyond true),
    value_congr after.2.2 (beyond false)] using ht

/-- Every verdict that is asked for matters at that time. -/
theorem Follows.matters (h : d.Follows qs x) (sharp : d.Sharp) {k : Nat} (after : d.After k) :
    ∀ q ∈ qs, Matters (fun t => d.value t) qs q.place := by
  induction h generalizing k with
  | settled => simp
  | failed i r onYes onNo f =>
    obtain ⟨t, ht⟩ := sharp.differs after
    simpa using ⟨t, by simp [Agrees, before], ht⟩
  | answered i r onYes onNo v later ih =>
    have bound := (later.after (after.later v)).1
    intro q hq
    rcases List.mem_cons.mp hq with rfl | hq
    · -- No inquiry is about an earlier place than the first one.
      obtain ⟨t, ht⟩ := sharp.differs after
      refine ⟨t, fun p hp => ?_, ht⟩
      obtain ⟨hp, lt⟩ := mem_before.mp hp
      have := (Follows.answered i r onYes onNo v later).after after
      rcases List.mem_cons.mp hp with rfl | hp
      · simp at lt
      · have := bound p hp
        simp only at lt
        omega
    · -- The valuation for the later inquiries is corrected at the place of the first one.
      obtain ⟨t, agrees, differ⟩ := ih (sharp.later v) (after.later v) q hq
      have lt := bound q hq
      have shifted : ∀ b, (ask i r onYes onNo).value
          (Function.update (Function.update t i v.truthy) q.place b) =
          (if v.truthy then onYes else onNo).value (Function.update t q.place b) := by
        intro b
        rw [value_ask (v := v) (by rw [Function.update_of_ne (by omega), Function.update_self])]
        refine value_congr (after.later v) fun j le => ?_
        rw [Function.update_comm (by omega), Function.update_of_ne (by omega)]
      refine ⟨Function.update t i v.truthy, fun p hp u hu => ?_, by simpa [shifted] using differ⟩
      obtain ⟨hp, lt'⟩ := mem_before.mp hp
      rcases List.mem_cons.mp hp with rfl | hp
      · cases hu
        exact Function.update_self ..
      · have := bound p hp
        rw [Function.update_of_ne (by omega)]
        exact agrees p (mem_before.mpr ⟨hp, lt'⟩) u hu

/-- A verdict that is not asked for, while nothing fails, does not matter. -/
theorem Follows.not_matters (h : d.Follows qs x) {k : Nat} (after : d.After k) {i : Nat}
    (unasked : ∀ q ∈ qs, q.place ≠ i) (fine : ∀ q ∈ before qs i, ∃ v, q.answer = .ok v) :
    ¬ Matters (fun t => d.value t) qs i := by
  -- Whatever comes after place `i` does not look at it.
  have beyond : ∀ {d : Decision (Judging σ) α} {t : Nat → Bool}, d.After (i + 1) →
      d.value (Function.update t i true) = d.value (Function.update t i false) :=
    fun after => value_congr after fun j le => by
      rw [Function.update_of_ne (by omega), Function.update_of_ne (by omega)]
  rintro ⟨t, agrees, differ⟩
  refine differ ?_
  clear differ
  induction h generalizing k with
  | settled => rfl
  | failed j r onYes onNo f =>
    have ne : j ≠ i := by simpa using unasked
    by_cases lt : j < i
    · obtain ⟨v, hv⟩ := fine ⟨j, r, .error f⟩ (mem_before.mpr ⟨by simp, lt⟩)
      cases hv
    · exact beyond ⟨by omega, after.2⟩
  | answered j r onYes onNo v later ih =>
    have ne : j ≠ i := unasked ⟨j, r, .ok v⟩ (by simp)
    by_cases lt : j < i
    · have here : t j = v.truthy := agrees ⟨j, r, .ok v⟩ (mem_before.mpr ⟨by simp, lt⟩) v rfl
      have kept : ∀ b, Function.update t i b j = v.truthy := fun b => by
        rw [Function.update_of_ne ne, here]
      simp only [value_ask (kept true), value_ask (kept false)]
      exact ih (after.later v) (fun q hq => unasked q (List.mem_cons_of_mem _ hq))
        (fun q hq => fine q (mem_before_cons hq)) fun q hq => agrees q (mem_before_cons hq)
    · exact beyond ⟨by omega, after.2⟩

end Decision

namespace Spec

/-- What a combination of rules does in a world: the inquiries that it makes, its answer, and the
world that it leaves behind. -/
structure ShortCircuits (s : Spec (Judging σ) α) (c : α) (w : σ) (qs : List (Inquiry σ α))
    (x : Except Failure Bool) (w' : σ) : Prop where
  /-- The answer is yes, no or a failure. -/
  judged : (s.judge c).run.run w = (x.map Value.flag, w')
  /-- Nothing happens to the world but through the rules asked. -/
  made : Made c w qs w'
  /-- Every inquiry is about an occurrence in the specification. -/
  occurring : ∀ q ∈ qs, s.leaves[q.place]? = some q.rule
  /-- The occurrences are asked from left to right, and none twice. -/
  inOrder : qs.Pairwise fun p q => p.place < q.place
  /-- An occurrence is asked exactly if nothing failed before and its verdict matters. -/
  reached : ∀ i, i < s.leaves.length → ((∃ q ∈ qs, q.place = i) ↔
    (∀ q ∈ before qs i, ∃ v, q.answer = .ok v) ∧ Matters (s.holds 0) qs i)
  /-- The answer is the value of the formula under the verdicts, whatever it is elsewhere. -/
  verdict : ∀ yes, x = .ok yes →
    (∃ t, Agrees t qs) ∧ ∀ t, Agrees t qs → s.holds 0 t = yes
  /-- A failure is that of a rule asked, which was the last. -/
  failure : ∀ f, x = .error f ↔ ∃ q ∈ qs, q.answer = .error f

/-- Inquiries along the decision are those of the combination. -/
theorem shortCircuits_of_follows {s : Spec (Judging σ) α} (composite : s.IsComposite) {c : α}
    {w w' : σ} {qs : List (Inquiry σ α)} {x : Except Failure Bool}
    (ran : (s.decision.run c).run.run w = (x, w')) (made : Made c w qs w')
    (follows : s.decision.Follows qs x) : s.ShortCircuits c w qs x w' := by
  have after := s.after_decision
  have formula : (fun t => s.decision.value t) = s.holds 0 := funext s.value_decision
  refine ⟨?_, made, follows.within s.within_decision, (follows.after after).2,
    fun i lt => ⟨?_, ?_⟩, fun yes hx => ⟨follows.exists_agrees after, fun t agrees => ?_⟩,
    follows.failure_iff⟩
  · rw [judge_eq_run composite]
    exact Judging.run_map Value.flag ran
  · rintro ⟨q, hq, rfl⟩
    refine ⟨fun p hp => ?_, formula ▸ follows.matters s.sharp_decision after q hq⟩
    obtain ⟨hp, lt⟩ := mem_before.mp hp
    exact follows.answered_of_lt after q hq p hp lt
  · rintro ⟨fine, matters⟩
    by_contra none
    refine follows.not_matters after (fun q hq h => none ⟨q, hq, h⟩) fine (formula ▸ matters)
  · rw [← value_decision, follows.value hx agrees]

/-- Every combination of rules short-circuits, in every world. -/
theorem exists_shortCircuits {s : Spec (Judging σ) α} (composite : s.IsComposite) (c : α) (w : σ) :
    ∃ qs x w', s.ShortCircuits c w qs x w' := by
  obtain ⟨qs, x, w', ran, made, follows⟩ := s.decision.run_follows c w
  exact ⟨qs, x, w', shortCircuits_of_follows composite ran made follows⟩

/-- Combinations with the same decision are judged alike. -/
theorem judge_congr {s s' : Spec (Judging σ) α} (h : s.IsComposite) (h' : s'.IsComposite)
    (same : s.decision = s'.decision) : s.judge = s'.judge := by
  funext c
  rw [judge_eq_run h, judge_eq_run h', same]

/-- Combinations of rules mean their Boolean formula and are judged short-circuited, whatever the
rules answer. So De Morgan's laws and the brackets of a chain change neither the verdict nor what
is asked: the judgements are equal. -/
theorem judge_short_circuits (σ α : Type) :
    (∀ (s : Spec (Judging σ) α) (c : α) (w : σ), s.IsComposite →
      ∃ qs x w', s.ShortCircuits c w qs x w') ∧
    (∀ (own own' own'' : Option String) (first : Option String × Spec (Judging σ) α)
      (rest : List (Option String × Spec (Judging σ) α)),
      (Spec.not own (.all own' first.2 (rest.map Prod.snd))).judge =
        (Spec.any own'' (.not first.1 first.2) (rest.map fun p => .not p.1 p.2)).judge ∧
      (Spec.not own (.any own' first.2 (rest.map Prod.snd))).judge =
        (Spec.all own'' (.not first.1 first.2) (rest.map fun p => .not p.1 p.2)).judge) ∧
    (∀ s s' : Spec (Judging σ) α, s.IsComposite → s'.IsComposite →
      s.conjuncts = s'.conjuncts ∨ s.disjuncts = s'.disjuncts → s.judge = s'.judge) := by
  refine ⟨fun s c w composite => exists_shortCircuits composite c w, ?_, ?_⟩
  · intro own own' own'' first rest
    exact ⟨judge_congr trivial trivial (decision_not_all own own' own'' first rest),
      judge_congr trivial trivial (decision_not_any own own' own'' first rest)⟩
  · rintro s s' h h' (same | same)
    · exact judge_congr h h'
        (by rw [decision, decision, branch_conjuncts, branch_conjuncts s', same])
    · exact judge_congr h h'
        (by rw [decision, decision, branch_disjuncts, branch_disjuncts s', same])

/-- `(~A | B) & C`, where `A` is satisfied, `B` fails and `C` is not satisfied. -/
def interrupted : Spec Observed Value :=
  .all none
    (.any none (.not none (.rule (.scripted "A" (.verdict (.text "yes")) none false)))
      [.rule (.scripted "B" (.failure (.unforeseen "lost")) none false)])
    [.rule (.scripted "C" (.verdict .null) none false)]

/-- The failure ends the judgement before `C` is asked; brackets do not matter. -/
theorem judge_short_circuits_interrupted :
    (∃ qs x w', interrupted.ShortCircuits Value.null ⟨[], []⟩ qs x w' ∧
      x = .error (.unforeseen "lost") ∧ w'.judged = ["A", "B"]) ∧
    (Spec.all none (.all none interrupted [interrupted]) [.not none interrupted]).judge =
      (Spec.all none interrupted [.all none interrupted [.not none interrupted]]).judge := by
  have general := judge_short_circuits Observation Value
  refine ⟨?_, general.2.2 _ _ trivial trivial (.inl rfl)⟩
  obtain ⟨qs, x, w', h⟩ := general.1 interrupted Value.null ⟨[], []⟩ trivial
  have judged := h.judged
  have ran : (interrupted.judge Value.null).run.run ⟨[], []⟩ =
    (.error (.unforeseen "lost"), ⟨["A", "B"], []⟩) := rfl
  rw [ran] at judged
  cases x with
  | ok yes => cases judged
  | error f =>
    cases judged
    exact ⟨qs, _, _, h, rfl, rfl⟩

end Spec

end SchoolRegistry
