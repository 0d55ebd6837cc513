import Mathlib.Data.List.TakeWhile
import SchoolRegistry.Entity.Organisation
import SchoolRegistry.Entity.Person
import SchoolRegistry.Registry.Creation

/-!
# Field rules

What the field rules of the registry say about an entity. On the value of an optional text every
rule has an answer, so that checking a field is no failure, and the report on an entity is valid
exactly if all rules are met (`Report.exists_of`). A creation goes on in that case, and otherwise
refuses the entity at the first failure, for which there always is a path and a constraint
(`Creation.checkFields_cases`).

Constraints that do not exist and arguments that cannot be read are left out: no rule of the
registry has one.
-/

namespace SchoolRegistry

/-! ## Texts without surrounding blanks -/

namespace Text

/-- Trimming changes nothing exactly if no blank comes first. -/
theorem trimFront_eq_self (cs : List Char) :
    trimFront cs = cs ↔ ∀ c ∈ cs.head?, isBlank c = false := by
  cases cs with
  | nil => simp [trimFront]
  | cons c cs =>
    have shorter := List.length_dropWhile_le isBlank cs
    by_cases blank : isBlank c
    · have ne : cs.dropWhile isBlank ≠ c :: cs := fun same => by
        rw [same, List.length_cons] at shorter
        omega
      simp [trimFront, blank, ne]
    · simp [trimFront, blank]

/-- A text is trimmed if it neither starts nor ends with a blank. -/
theorem isTrimmed_iff (s : String) :
    isTrimmed s = true ↔
      (∀ c ∈ s.toList.head?, isBlank c = false) ∧ ∀ c ∈ s.toList.getLast?, isBlank c = false := by
  have chars : isTrimmed s = true ↔ trimChars s.toList = s.toList := by
    rw [isTrimmed, beq_iff_eq, trim]
    constructor
    · intro same
      simpa using congrArg String.toList same
    · intro same
      rw [same, String.ofList_toList]
  rw [chars, trimChars]
  have front := trimFront_eq_self s.toList
  have back := trimFront_eq_self s.toList.reverse
  rw [List.head?_reverse] at back
  rw [← front, ← back]
  constructor
  · intro same
    -- What is left is no longer than what is left after the first step.
    have suffix : trimFront s.toList <:+ s.toList := List.dropWhile_suffix _
    have shorter := List.length_dropWhile_le isBlank (trimFront s.toList).reverse
    have lengths := congrArg List.length same
    simp only [trimFront, List.length_reverse] at shorter lengths suffix
    have first : trimFront s.toList = s.toList :=
      suffix.eq_of_length_le (by simp only [lengths] at shorter; exact shorter)
    rw [first] at same
    exact ⟨first, List.reverse_eq_iff.mp same⟩
  · rintro ⟨first, last⟩
    rw [first, last, List.reverse_reverse]

end Text

/-! ## Reports -/

namespace Report

/-- Every path that is reported has a constraint that failed there. -/
def Named (r : Report) : Prop := ∀ e ∈ r.entries, e.2 ≠ []

theorem named_success : success.Named := fun _ h => absurd h List.not_mem_nil

/-- A report with a failure more is not valid, whatever was there. -/
theorem isValid_add (path name : String) (r : Report) : (r.add path name).isValid = false := by
  obtain ⟨_ | ⟨e, rest⟩, distinct⟩ := r
  · rfl
  · simp only [add, extend, isValid]
    split <;> rfl

/-- Adding names leaves no path without any. -/
theorem forall_mem_extend {path : String} {names : List String}
    {es : List (String × List String)} (given : names ≠ []) (named : ∀ e ∈ es, e.2 ≠ []) :
    ∀ e ∈ extend path names es, e.2 ≠ [] := by
  induction es with
  | nil => simpa [extend] using given
  | cons e rest ih =>
    obtain ⟨here, later⟩ := List.forall_mem_cons.mp named
    unfold extend
    split
    · exact List.forall_mem_cons.mpr ⟨List.append_ne_nil_of_left_ne_nil here _, later⟩
    · exact List.forall_mem_cons.mpr ⟨here, ih later⟩

/-- A report in which every path has a name stays so when a failure is added. -/
theorem Named.add {r : Report} (h : r.Named) (path name : String) : (r.add path name).Named :=
  forall_mem_extend (List.cons_ne_nil name []) h

/-- A report of failures has a first one. -/
theorem Named.exists_first {r : Report} (h : r.Named) (invalid : r.isValid = false) :
    ∃ f, r.first = .ok f := by
  obtain ⟨_ | ⟨⟨path, names⟩, rest⟩, distinct⟩ := r
  · cases invalid
  · cases names with
    | nil => exact absurd rfl (h _ List.mem_cons_self)
    | cons name names => exact ⟨(path, name), rfl⟩

/-- Rules that have an answer lead to a report, which is valid if they are met. -/
theorem exists_of {candidate : Value} {rules : List FieldRule}
    (answered : ∀ f ∈ rules, ∃ yes, f.check (candidate.resolve f.path) = .ok yes) {r : Report}
    (named : r.Named) : ∃ report, Report.of candidate rules r = .ok report ∧ report.Named ∧
      (report.isValid = true ↔ r.isValid = true ∧
        ∀ f ∈ rules, f.check (candidate.resolve f.path) = .ok true) := by
  induction rules generalizing r with
  | nil => exact ⟨r, rfl, named, by simp⟩
  | cons f rules ih =>
    have later : ∀ f ∈ rules, ∃ yes, f.check (candidate.resolve f.path) = .ok yes :=
      fun f' hf' => answered f' (List.mem_cons_of_mem _ hf')
    obtain ⟨yes, hf⟩ := answered f List.mem_cons_self
    cases yes with
    | true =>
      obtain ⟨report, made, named', valid⟩ := ih later named
      exact ⟨report, by rw [Report.of, hf]; exact made, named', by simp [valid, hf]⟩
    | false =>
      obtain ⟨report, made, named', valid⟩ := ih later (named.add f.path f.constraintName)
      refine ⟨report, by rw [Report.of, hf]; exact made, named', ?_⟩
      simp [valid, hf, isValid_add]

end Report

/-- A creation goes on if all field rules are met, or it refuses the entity. -/
theorem Creation.checkFields_cases {σ α : Type} [Entity σ] {rules : List FieldRule} {item : σ}
    (answered : ∀ f ∈ rules, ∃ yes, f.check ((Entity.toValue item).resolve f.path) = .ok yes)
    (next : Service (Outcome α)) :
    (checkFields rules item next = next ∧
      ∀ f ∈ rules, f.check ((Entity.toValue item).resolve f.path) = .ok true) ∨
    ∃ path constraint, checkFields rules item next =
      pure (.error (.invalidAttribute (Entity.name σ) path constraint none)) := by
  obtain ⟨report, made, named, valid⟩ := Report.exists_of answered Report.named_success
  unfold checkFields validateFields
  rw [made]
  by_cases fine : report.isValid
  · exact .inl ⟨by simp [fine], (valid.mp fine).2⟩
  · obtain ⟨f, first⟩ := named.exists_first (by simpa using fine)
    exact .inr ⟨f.1, f.2, by simp [fine, Report.refusal, first, Except.map]⟩

/-- A creation goes on if all field rules are met. -/
theorem Creation.checkFields_of_met {σ α : Type} [Entity σ] {rules : List FieldRule} {item : σ}
    (met : ∀ f ∈ rules, f.check ((Entity.toValue item).resolve f.path) = .ok true)
    (next : Service (Outcome α)) : checkFields rules item next = next := by
  obtain ⟨report, made, -, valid⟩ :=
    Report.exists_of (fun f hf => ⟨true, met f hf⟩) Report.named_success
  unfold checkFields validateFields
  rw [made]
  exact if_pos (valid.mpr ⟨rfl, met⟩)

/-! ## Rules for optional texts -/

namespace FieldRule

/-- The rule on lengths is satisfied by texts that are not longer, and by none. -/
theorem check_atMost (path : String) (most : Nat) (s : Option String) :
    (atMost path most).check (.ofText? s) = .ok (s.all fun t => decide (t.length ≤ most)) := by
  cases s with
  | none => rfl
  | some t => simp [atMost, check, checkPresent, Value.ofText?, Value.isNull, lengthOf,
      Value.length?, wholeOf, bind, Except.bind]

/-- The rule on surrounding blanks is satisfied by trimmed texts, and by none. -/
theorem check_trimmed (path : String) (s : Option String) :
    (of path .noSurroundingBlanks).check (.ofText? s) = .ok (s.all Text.isTrimmed) := by
  cases s <;> rfl

/-- The rule on dates is satisfied by dates, and by a missing value. -/
theorem check_isDate (path : String) (v : Value) :
    (of path .isDate).check v = .ok (v.isNull || isDate v) := by
  by_cases null : v.isNull <;> simp [of, check, checkPresent, null]

theorem answered_atMost {path : String} {most : Nat} {v : Value} {s : Option String}
    (shown : v = .ofText? s) : ∃ yes, (atMost path most).check v = .ok yes :=
  ⟨_, shown ▸ check_atMost path most s⟩

/-- A rule without an argument has an answer for any text, unless it needs an argument. -/
theorem answered_of {path : String} {c : Constraint} (plain : c ∉ [.maxLength, .pattern])
    {v : Value} {s : Option String} (shown : v = .ofText? s) :
    ∃ yes, (of path c).check v = .ok yes := by
  subst shown
  cases s with
  | none => cases c <;> exact ⟨_, rfl⟩
  | some t => cases c with
    | maxLength | pattern => simp at plain
    | _ => exact ⟨_, rfl⟩

end FieldRule

end SchoolRegistry
