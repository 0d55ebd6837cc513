import SchoolRegistry.Client.Error
import SchoolRegistry.Client.Notice

/-!
# Refusals as clients see them

A refusal is a server error exactly if it says that something could not be created, updated or
deleted (`Refusal.isServerError_iff`); all others are errors of the client. Every notice that has
an entry is about an error of the client as well (`RuleNotice.code_of_mem_known`). A rule without
an entry gets a notice that is not, so that a violated rule is told right only if it has one
(`Refusal.isNoticed_ruleViolated`).
-/

namespace SchoolRegistry

/-- Every notice that is known tells clients that their request is at fault. -/
theorem RuleNotice.code_of_mem_known : ∀ e ∈ known, e.2.code = 400 := by decide

/-- A faulty attribute is the fault of the client, be it a date or not. -/
theorem ClientError.status_ofAttribute (path constraint : String) :
    (ofAttribute path constraint).status = 400 := by
  unfold ofAttribute
  split <;> rfl

namespace Refusal

/-- Clients are told of an internal error. -/
def IsServerError (r : Refusal) : Prop := (ClientError.ofRefusal r).status = 500

/-- Only a change that could not be made is the fault of the server. -/
theorem isServerError_iff {r : Refusal} :
    r.IsServerError ↔ r.kind ∈ [.notCreated, .notUpdated, .notDeleted] := by
  cases r with
  | invalidAttribute entity path constraint id =>
    rw [IsServerError, ClientError.ofRefusal, ClientError.status_ofAttribute]
    simp [kind]
  | _ => simp [IsServerError, ClientError.ofRefusal, ClientError.ofKind, ClientError.internal, kind]

/-- If the refusal names a violated rule, there is an entry for it, and it is about an error of
the client. -/
def IsNoticed (r : Refusal) : Prop :=
  ∀ rule, r.rule? = some rule → ∃ n, RuleNotice.known.lookup rule = some n ∧
    RuleNotice.ofViolation rule r.entity = (n, []) ∧ n.code = 400

/-- A refusal by no rule needs no notice. -/
theorem isNoticed_of_rule?_eq_none {r : Refusal} (h : r.rule? = none) : r.IsNoticed := by
  intro rule named
  cases h.symm.trans named

/-- The violation of a rule with a notice of its own is noticed. -/
theorem isNoticed_ruleViolated {rule entity : String} {id : Option String} {details : Fields}
    (known : rule ∈ RuleNotice.known.map (·.1)) :
    (ruleViolated rule entity id details).IsNoticed := by
  rintro _ ⟨⟩
  cases found : RuleNotice.known.lookup rule with
  | none =>
    obtain ⟨e, he, rfl⟩ := List.mem_map.mp known
    simpa using List.lookup_eq_none_iff.mp found e he
  | some n =>
    obtain ⟨front, back, entry, -⟩ := List.lookup_eq_some_iff.mp found
    refine ⟨n, rfl, by rw [RuleNotice.ofViolation, found], ?_⟩
    exact RuleNotice.code_of_mem_known (rule, n) (by rw [entry]; simp)

end Refusal

end SchoolRegistry
