import SchoolRegistry.Proofs.Validation.Reports

/-!
# Reports on lists of field rules

Checking two lists of field rules in a row is checking each of them and merging the reports, in the
order of the lists (`validateFields_append`), and if a check fails, the failure is the same one.
So the report depends on the rules that fail only, and its first failure is the first rule that
fails (`first?_validateFields`): rules that fail later never displace it, even where they speak of
a path that is listed already.
-/

namespace SchoolRegistry

variable {candidate : Value} {rules rules' : List FieldRule} {r report : Report}

namespace FieldRule

/-- Whether the candidate breaks the rule. -/
def fails (candidate : Value) (f : FieldRule) : Bool :=
  match f.check (candidate.resolve f.path) with
  | .ok met => !met
  | .error _ => false

/-- A rule fails where its check says no. -/
theorem fails_iff {f : FieldRule} :
    f.fails candidate = true ↔ f.check (candidate.resolve f.path) = .ok false := by
  unfold fails
  cases f.check (candidate.resolve f.path) with
  | ok met => cases met <;> simp
  | error e => simp

/-- What the report says of a rule that fails. -/
def failure (f : FieldRule) : String × String := (f.path, f.constraintName)

end FieldRule

namespace Report

/-! ## Two lists -/

/-- Rules of two lists are checked one after the other. -/
theorem of_append (candidate : Value) (rules rules' : List FieldRule) (r : Report) :
    Report.of candidate (rules ++ rules') r =
      (Report.of candidate rules r).bind (Report.of candidate rules') := by
  induction rules generalizing r with
  | nil => rfl
  | cons f rules ih =>
    rw [List.cons_append, Report.of, Report.of]
    cases f.check (candidate.resolve f.path) with
    | error e => rfl
    | ok met => cases met with
      | true => exact ih r
      | false => exact ih (r.add f.path f.constraintName)

/-- What is known already stands before what the rules report. -/
theorem of_eq_merge (r : Report) (candidate : Value) (rules : List FieldRule) :
    Report.of candidate rules r = (Report.of candidate rules success).map r.merge := by
  induction rules generalizing r with
  | nil => rfl
  | cons f rules ih =>
    rw [Report.of, Report.of]
    cases f.check (candidate.resolve f.path) with
    | error e => rfl
    | ok met => cases met with
      | true => exact ih r
      | false =>
        dsimp only
        rw [ih (r.add f.path f.constraintName), ih (success.add f.path f.constraintName)]
        cases Report.of candidate rules success with
        | error e => rfl
        | ok report =>
          exact congrArg Except.ok (merge_assoc r (success.add f.path f.constraintName) report)

/-! ## The first failure -/

/-- The first failure is the first one that was known, or else the first rule that fails. -/
theorem Named.first?_of (h : r.Named) (made : Report.of candidate rules r = .ok report) :
    report.first? = r.first?.or ((rules.find? (·.fails candidate)).map FieldRule.failure) := by
  induction rules generalizing r with
  | nil => rw [← Except.ok.inj made, List.find?_nil, Option.map_none, Option.or_none]
  | cons f rules ih =>
    rw [Report.of] at made
    split at made
    · cases made
    case h_2 met =>
      have passes : f.fails candidate = false := by rw [FieldRule.fails, met]; rfl
      rw [ih h made, List.find?_cons_of_neg (by simp [passes])]
    case h_3 broken =>
      have fails : f.fails candidate = true := FieldRule.fails_iff.mpr broken
      rw [ih (h.add f.path f.constraintName) made, List.find?_cons_of_pos fails, add_eq_merge,
        h.first?_merge, Option.or_assoc]
      rfl

end Report

/-! ## Candidates -/

/-- The reports of two lists of rules are merged. -/
theorem validateFields_append (candidate : Value) (rules rules' : List FieldRule) :
    validateFields candidate (rules ++ rules') = (do
      let r ← validateFields candidate rules
      let r' ← validateFields candidate rules'
      pure (r.merge r')) := by
  unfold validateFields
  rw [Report.of_append]
  cases made : Report.of candidate rules .success with
  | error e => rfl
  | ok r =>
    change Report.of candidate rules' r = _
    rw [Report.of_eq_merge]
    rfl

/-- The first failure is that of the first rule in the list that fails. -/
theorem first?_validateFields (made : validateFields candidate rules = .ok report) :
    report.first? = (rules.find? (·.fails candidate)).map FieldRule.failure :=
  Report.named_success.first?_of made

end SchoolRegistry
