import SchoolRegistry.Proofs.Client.Refusals
import SchoolRegistry.Proofs.Validation.Reports

/-!
# Reports as clients see them

Clients are told about the first failure of a report: a date that cannot be read is named by its
path, and everything else is a bad request (`ClientError.Tells`). A report of nothing is a bad
request as well.

`ClientError.ofReport_made` says for which reports there is an error at all. Whether a report is of
nothing is decided by its paths, while its first failure is looked for among its constraints. So
there is none for a report that lists paths and has no constraint on record, such as the one in
`ofReport_listed_without_constraint`.
-/

namespace SchoolRegistry.ClientError

open Report (Making)

/-! ## What clients are told -/

/-- The client sent a date that cannot be read; the path of the attribute is named in full. -/
structure IsFaultyDate (path : String) (e : ClientError) : Prop where
  status : e.status = 400
  subcode : e.subcode = "09"
  description : e.description = "Datumsformat von Attribut " ++ path ++ " ist ungültig"

/-- The client sent something else that is faulty. -/
structure IsBadRequest (e : ClientError) : Prop where
  status : e.status = 400
  subcode : e.subcode = "00"

/-- The error is about the first failure, if there is one. -/
def Tells (first : Option (String × String)) (e : ClientError) : Prop :=
  match first with
  | some (path, name) => if isDateConstraint name then e.IsFaultyDate path else e.IsBadRequest
  | none => e.IsBadRequest

/-- The error for an attribute is about the failure that it is made from. -/
theorem tells_ofAttribute (path name : String) :
    (ofAttribute path name).Tells (some (path, name)) := by
  by_cases date : isDateConstraint name
  · simp only [Tells, ofAttribute, date, if_true]
    exact ⟨rfl, rfl, rfl⟩
  · simp only [Tells, ofAttribute, date]
    exact ⟨rfl, rfl⟩

/-! ## Errors of reports -/

variable {r : Report}

/-- A report with a first failure leads to the error for that failure. -/
theorem ofReport_of_first? {path name : String} (h : r.first? = some (path, name)) :
    ofReport r = .ok (ofAttribute path name) := by
  have invalid : r.isValid = false := by
    obtain ⟨_ | ⟨e, rest⟩, distinct⟩ := r
    · cases h
    · rfl
  simp only [ofReport, invalid, Report.first, h, Bool.false_eq_true, if_false, Except.map]

/-- Without a first failure there is an error for the report of nothing only. -/
theorem ofReport_of_unnamed (none : r.first? = none) :
    ofReport r = if r.isValid then .ok badRequest else .error (.argument .emptyReport) := by
  simp only [ofReport, Report.first, none, Except.map]

/-- A report leads to an error of the client about its first failure unless paths were listed on
the way to it and no constraint was recorded. The first failure is the first one in time if no path
was listed before its first constraint. -/
theorem ofReport_made (m : Making) :
    ((∃ e, ofReport m.report = .ok e ∧ e.Tells m.report.recorded.head?) ↔
      m.listed = [] ∨ m.chronicle ≠ []) ∧
    ((∃ e, ofReport m.report = .ok e) ∨ ofReport m.report = .error (.argument .emptyReport)) ∧
    m.report.recorded.Perm m.chronicle ∧
    (m.Filled → m.report.recorded.head? = m.chronicle.head?) := by
  have first := Report.first?_eq_head? m.report
  have order := m.recorded_report
  have chronicle : m.chronicle = [] ↔ m.report.recorded.head? = none := by
    rw [List.head?_eq_none_iff]
    exact ⟨fun none => (none ▸ order).eq_nil, fun none => (none ▸ order).symm.eq_nil⟩
  refine ⟨?_, ?_, order, fun filled => ?_⟩
  · rw [Ne, chronicle, ← m.isValid_report]
    cases found : m.report.recorded.head? with
    | some f =>
      have made := ofReport_of_first? (first.trans found)
      exact iff_of_true ⟨_, made, tells_ofAttribute _ _⟩ (.inr nofun)
    | none =>
      rw [ofReport_of_unnamed (first.trans found)]
      cases m.report.isValid with
      | true => exact iff_of_true ⟨_, rfl, rfl, rfl⟩ (.inl rfl)
      | false => exact iff_of_false nofun (by simp)
  · cases found : m.report.recorded.head? with
    | some f => exact .inl ⟨_, ofReport_of_first? (first.trans found)⟩
    | none =>
      rw [ofReport_of_unnamed (first.trans found)]
      cases m.report.isValid with
      | true => exact .inl ⟨_, rfl⟩
      | false => exact .inr rfl
  · rw [← first, Making.first?_eq_chronicle filled]

/-- A path that is listed without a constraint leaves clients without an error. -/
theorem ofReport_listed_without_constraint :
    ofReport (Making.failure [("name", [])]).report = .error (.argument .emptyReport) := rfl

end SchoolRegistry.ClientError
