import SchoolRegistry.Entity.Assignment
import SchoolRegistry.Entity.Organisation
import SchoolRegistry.Entity.Person
import SchoolRegistry.Entity.Role
import SchoolRegistry.Entity.School
import SchoolRegistry.Proofs.Client.Reports
import SchoolRegistry.Proofs.Record.DateFields
import SchoolRegistry.Record.Form

/-!
# Dates that cannot be read

Data that a model refuses are reported fault by fault, and clients are told about the first one
(`Report.first?_ofFaults`). `unreadable_dates_reach_clients` says when they are told that a date
cannot be read: when the first fault stands at a day or a moment that the data give. It is about
all models whose fields are built from the codecs (`Model.HasKinds`), and those of the entities and
forms are such models.

A check of the whole can also fail without refusing anything: the moments of a period may not be
comparable. Such a failure is passed on and has no report.
-/

namespace SchoolRegistry

/-- The model has fields of the kinds, and its check of the whole refuses the whole only. -/
structure Model.HasKinds {σ : Type} (m : Model σ) (kinds : List (String × FieldKind)) : Prop where
  fields : Fields.HaveKinds m.fields kinds
  check : ∀ s faults, m.check s = .error (.invalid faults) → faults = [.here .valueError]

/-! ## Reports of faults -/

/-- What a report says of a fault. -/
def Fault.reported (f : Fault) : String × String :=
  (if f.location == "" then Report.wholePath else f.location, f.code.text)

/-- Faults that are added to a report come after the failures that are on it. -/
theorem Report.Named.first?_addAll {r : Report} (named : r.Named) (faults : List Fault) :
    (faults.foldl (fun r f => r.add f.reported.1 f.reported.2) r).first? =
      r.first?.or (faults.head?.map Fault.reported) := by
  induction faults generalizing r with
  | nil => exact (Option.or_none).symm
  | cons f faults ih =>
    rw [List.foldl_cons, ih (named.add _ _), add_eq_merge, named.first?_merge, Option.or_assoc]
    rfl

/-- The first failure on the report is the first fault. -/
theorem Report.first?_ofFaults (faults : List Fault) :
    (ofFaults faults).first? = faults.head?.map Fault.reported :=
  named_success.first?_addAll faults

/-- The codes that clients are told to be about dates are those of days and moments. -/
theorem ClientError.isDateConstraint_text (code : FaultCode) :
    isDateConstraint code.text = code.isOfDate := by
  cases code <;> decide

/-! ## Where faults stand -/

/-- A fault below a field has a location. -/
theorem Fault.location_under {name : String} (named : name ≠ "") (f : Fault) :
    (f.under name).location ≠ "" := by
  intro empty
  have chars := congrArg String.toList empty
  rw [location, String.toList_intercalate] at chars
  cases h : f.path <;> simp [under, h, named] at chars

/-- No field of a kind is without a name. -/
theorem Fields.HaveKinds.name_ne {σ : Type} : ∀ {fs : List (Field σ)}
    {kinds : List (String × FieldKind)}, Fields.HaveKinds fs kinds →
    ∀ name ∈ kinds.map Prod.fst, name ≠ ""
  | _, _, .nil, _, member => nomatch member
  | _, _, .cons _ fresh rest, name, member => by
    rw [List.map_append, List.map_map, List.mem_append] at member
    rcases member with own | later
    · exact (fresh name (by simpa using own)).1
    · exact rest.name_ne name later

/-- A fault in one of the fields has a location. -/
theorem FieldKind.ExplainsIn.location_ne {kinds : List (String × FieldKind)} {f : Fault}
    (inside : ExplainsIn kinds f) (named : ∀ name ∈ kinds.map Prod.fst, name ≠ "") :
    f.location ≠ "" := by
  obtain ⟨name, kind, inner, found, rfl, -⟩ := inside
  exact Fault.location_under (named name (mem_of_lookup found)) inner

section Refused

variable {σ : Type} {m : Model σ} {kinds : List (String × FieldKind)} {data : Fields}
  {faults : List Fault}

/-- Data are refused either for the whole or for faults that stand in the fields. -/
theorem Model.HasKinds.faults_cases (built : m.HasKinds kinds)
    (refused : m.parse data = .error (.invalid faults)) :
    faults = [.here .valueError] ∨
      FieldKind.CoversIn kinds faults := by
  unfold parse at refused
  split at refused
  case h_1 faults' unread =>
    cases refused
    exact .inr (built.fields.coversIn data m.blank faults unread)
  case h_2 s _ =>
    refine .inl (built.check s faults ?_)
    cases checked : m.check s with
    | ok _ => rw [checked] at refused; cases refused
    | error e => rw [checked] at refused; exact congrArg _ (Except.error.inj refused)

/-- What clients are told about the first of the faults for which data are refused. -/
theorem Model.HasKinds.reported (built : m.HasKinds kinds)
    (refused : m.parse data = .error (.invalid faults)) :
    ∃ first rest e, faults = first :: rest ∧
      ClientError.ofReport (.ofFaults faults) = .ok e ∧
      if (FieldKind.record kinds).datedAt first.path ∧ first.code ≠ .missing then
        e.IsFaultyDate first.location
      else e.IsBadRequest := by
  have told {first : Fault} {rest : List Fault} :
      ClientError.ofReport (.ofFaults (first :: rest)) =
        .ok (.ofAttribute first.reported.1 first.reported.2) :=
    ClientError.ofReport_of_first? (Report.first?_ofFaults (first :: rest))
  rcases built.faults_cases refused with rfl | inside
  · exact ⟨.here .valueError, [], _, rfl, told, rfl, rfl⟩
  · obtain ⟨first, rest, rfl⟩ := List.exists_cons_of_ne_nil inside.given
    refine ⟨first, rest, _, rfl, told, ?_⟩
    have stands := inside.explained first List.mem_cons_self
    have place : first.reported.1 = first.location :=
      if_neg (by simpa using stands.location_ne built.fields.name_ne)
    have dated : first.code.isOfDate ↔
        (FieldKind.record kinds).datedAt first.path ∧ first.code ≠ .missing := by
      rw [stands.explains, Bool.and_eq_true, bne_iff_ne]
    have tells := ClientError.tells_ofAttribute first.reported.1 first.code.text
    simp only [ClientError.Tells, ClientError.isDateConstraint_text, dated, place] at tells ⊢
    exact tells

end Refused

/-! ## The models of the registry -/

section Models

variable {σ : Type} {fs fs' : List (Field σ)} {kinds kinds' : List (String × FieldKind)}

/-- A field that has one name only. -/
theorem Fields.HaveKinds.plain {α : Type} {c : Codec α} {kind : FieldKind} {name : String}
    {required : Bool} {get : σ → α} {put : α → σ → σ} {put_get : ∀ s, put (get s) s = s}
    (codec : c.HasKind kind) (fresh : name ≠ "" ∧ name ∉ kinds.map Prod.fst)
    (rest : HaveKinds fs kinds) :
    HaveKinds (.of name name required c get put put_get :: fs) ((name, kind) :: kinds) := by
  have spellings : (Field.of name name required c get put put_get).spellings = [name] := if_pos rfl
  have both := HaveKinds.cons (.of name name required get put put_get codec)
    (by simpa [spellings] using fresh) rest
  rwa [spellings] at both

/-- The fields of a part of a larger structure. -/
theorem Fields.HaveKinds.within {τ : Type} (get : τ → σ) (put : σ → τ → τ)
    (put_get : ∀ t, put (get t) t = t) :
    ∀ {fs : List (Field σ)} {kinds : List (String × FieldKind)}, HaveKinds fs kinds →
    HaveKinds (fs.map fun f => f.within get put put_get) kinds
  | _, _, .nil => .nil
  | _, _, .cons first fresh rest =>
    .cons (.within get put put_get first) fresh (rest.within get put put_get)

/-- Fields behind others with which they share no name. -/
theorem Fields.HaveKinds.append : ∀ {fs : List (Field σ)} {kinds : List (String × FieldKind)},
    HaveKinds fs kinds → (∀ name ∈ kinds.map Prod.fst, name ∉ kinds'.map Prod.fst) →
    HaveKinds fs' kinds' → HaveKinds (fs ++ fs') (kinds ++ kinds')
  | _, _, .nil, _, later => later
  | _, _, .cons first fresh rest, disjoint, later => by
    simp only [List.map_append, List.forall_mem_append] at disjoint
    rw [List.append_assoc]
    refine .cons first (fun name spelled => ⟨(fresh name spelled).1, ?_⟩)
      (rest.append disjoint.2 later)
    rw [List.map_append, List.mem_append, not_or]
    exact ⟨(fresh name spelled).2, disjoint.1 name (by simpa using spelled)⟩

/-- A model without a check of the whole. -/
theorem Model.HasKinds.of_fields {m : Model σ} (fields : Fields.HaveKinds m.fields kinds)
    (unchecked : ∀ s, m.check s = .ok ()) : m.HasKinds kinds :=
  ⟨fields, fun s _ refused => nomatch (unchecked s).symm.trans refused⟩

end Models

/-! ### Forms -/

/-- The kinds of the fields of a birth. -/
def Birth.kinds : List (String × FieldKind) := [("datum", .date), ("ort", .other)]

/-- The fields of a birth are of these kinds. -/
theorem Birth.haveKinds : Fields.HaveKinds Birth.shape.fields Birth.kinds :=
  .plain (.optional _ .day) (by decide) <|
  .plain (.optional _ .text) (by decide) .nil

/-- The kinds of the fields of the form about a person. -/
def PersonForm.kinds : List (String × FieldKind) :=
  [("vorname", .other), ("familienname", .other), ("geburt", .record Birth.kinds)]

/-- The fields of a form are of these kinds. -/
theorem PersonForm.haveKinds : Fields.HaveKinds PersonForm.shape.fields PersonForm.kinds :=
  .plain (.optional _ .text) (by decide) <|
  .plain (.optional _ .text) (by decide) <|
  .plain (.optional _ (.nested _ _ Birth.haveKinds)) (by decide) .nil

/-- The kinds of the fields of a period. -/
def Period.kinds : List (String × FieldKind) := [("von", .date), ("bis", .date)]

/-- The fields of a period are of these kinds. -/
theorem Period.haveKinds : Fields.HaveKinds Period.shape.fields Period.kinds :=
  .plain .moment (by decide) <|
  .plain .moment (by decide) .nil

/-- The check of a period refuses the whole and no single field. -/
theorem Period.faults_check {p : Period} {faults : List Fault}
    (refused : p.check = .error (.invalid faults)) : faults = [.here .valueError] := by
  unfold check at refused
  split at refused
  · cases refused
  · cases refused
    rfl
  · cases refused

/-! ### Entities -/

/-- The kinds of the fields that all entities have. -/
def Header.kinds : List (String × FieldKind) :=
  [("id", .other), ("created_at", .date), ("updated_at", .date)]

/-- The fields that all entities have are of these kinds. -/
theorem Header.haveKinds : Fields.HaveKinds Header.fields Header.kinds :=
  .plain (.optional _ .text) (by decide) <|
  .plain (.optional _ .stamp) (by decide) <|
  .plain (.optional _ .stamp) (by decide) .nil

/-- The kinds of the fields of a person. -/
def Person.kinds : List (String × FieldKind) :=
  Header.kinds ++ [("referrer", .other), ("vorname", .other), ("familienname", .other),
    ("geburtsdatum", .date), ("is_information_blocked", .other)]

theorem Person.haveKinds : Fields.HaveKinds Person.shape.fields Person.kinds :=
  .append (.within _ _ _ Header.haveKinds) (by decide) <|
  .plain (.optional _ .text) (by decide) <|
  .plain (.optional _ .text) (by decide) <|
  .plain (.optional _ .text) (by decide) <|
  .plain (.optional _ .day) (by decide) <|
  .plain .flag (by decide) .nil

/-- The kinds of the fields of an organisation. -/
def Organisation.kinds : List (String × FieldKind) :=
  Header.kinds ++ [("kennung", .other), ("name", .other), ("namensergaenzung", .other),
    ("kuerzel", .other), ("typ", .other), ("administriert_von", .other), ("zugehoerig_zu", .other)]

theorem Organisation.haveKinds : Fields.HaveKinds Organisation.shape.fields Organisation.kinds :=
  .append (.within _ _ _ Header.haveKinds) (by decide) <|
  .plain (.optional _ .text) (by decide) <|
  .plain (.optional _ .text) (by decide) <|
  .plain (.optional _ .text) (by decide) <|
  .plain (.optional _ .text) (by decide) <|
  .plain (.optional _ (.term _)) (by decide) <|
  .plain (.optional _ .text) (by decide) <|
  .plain (.optional _ .text) (by decide) .nil

/-- The kinds of the fields of a school. -/
def School.kinds : List (String × FieldKind) :=
  Header.kinds ++ [("kennung", .other), ("name", .other), ("typ", .other)]

theorem School.haveKinds : Fields.HaveKinds School.shape.fields School.kinds :=
  .append (.within _ _ _ Header.haveKinds) (by decide) <|
  .plain (.optional _ .text) (by decide) <|
  .plain (.optional _ .text) (by decide) <|
  .plain (.optional _ .text) (by decide) .nil

/-- The kinds of the fields of a role. -/
def Role.kinds : List (String × FieldKind) :=
  Header.kinds ++ [("name", .other), ("administered_by_schulstrukturknoten", .other),
    ("rollenart", .other), ("merkmale", .items .other), ("systemrechte", .items .other)]

theorem Role.haveKinds : Fields.HaveKinds Role.shape.fields Role.kinds :=
  .append (.within _ _ _ Header.haveKinds) (by decide) <|
  .plain (.optional _ .text) (by decide) <|
  .plain (.optional _ .text) (by decide) <|
  .plain (.optional _ (.term _)) (by decide) <|
  .plain (.list (.term _)) (by decide) <|
  .plain (.list (.term _)) (by decide) .nil

/-- The kinds of the fields of an assignment. -/
def Assignment.kinds : List (String × FieldKind) :=
  Header.kinds ++ [("person_id", .other), ("organisation_id", .other), ("rolle_id", .other)]

theorem Assignment.haveKinds : Fields.HaveKinds Assignment.shape.fields Assignment.kinds :=
  .append (.within _ _ _ Header.haveKinds) (by decide) <|
  .plain .text (by decide) <|
  .plain .text (by decide) <|
  .plain .text (by decide) .nil

/-! ## What clients are told -/

/-- Whatever the reason for which a model refuses data, clients are told that a date cannot be read
if the first fault stands at a day or a moment that the data give, and that the request is faulty
otherwise. The forms and the entities of the registry are read by such models. -/
theorem unreadable_dates_reach_clients :
    (∀ {σ : Type} {m : Model σ} {kinds : List (String × FieldKind)} {data : Fields}
      {faults : List Fault}, m.HasKinds kinds → m.parse data = .error (.invalid faults) →
      ∃ first rest report e, faults = first :: rest ∧ m.validate data = .ok report ∧
        ClientError.ofReport report = .ok e ∧
        if (FieldKind.record kinds).datedAt first.path ∧ first.code ≠ .missing then
          e.IsFaultyDate first.location
        else e.IsBadRequest) ∧
    Birth.model.HasKinds Birth.kinds ∧ PersonForm.model.HasKinds PersonForm.kinds ∧
    Period.model.HasKinds Period.kinds ∧
    (Entity.model : Model Person).HasKinds Person.kinds ∧
    (Entity.model : Model Organisation).HasKinds Organisation.kinds ∧
    (Entity.model : Model School).HasKinds School.kinds ∧
    (Entity.model : Model Role).HasKinds Role.kinds ∧
    (Entity.model : Model Assignment).HasKinds Assignment.kinds := by
  refine ⟨fun built refused => ?_, .of_fields Birth.haveKinds fun _ => rfl,
    .of_fields PersonForm.haveKinds fun _ => rfl,
    ⟨Period.haveKinds, fun _ _ => Period.faults_check⟩,
    .of_fields Person.haveKinds fun _ => rfl, .of_fields Organisation.haveKinds fun _ => rfl,
    .of_fields School.haveKinds fun _ => rfl, .of_fields Role.haveKinds fun _ => rfl,
    .of_fields Assignment.haveKinds fun _ => rfl⟩
  obtain ⟨first, rest, e, split, told, tells⟩ := built.reported refused
  refine ⟨first, rest, _, e, split, ?_, told, tells⟩
  rw [Model.validate, refused]

/-- A birthday that is no date, inside of a form that is otherwise in order. -/
theorem unreadable_birthday_reaches_clients :
    ∃ report e, PersonForm.model.validate [("vorname", .text "Max"),
        ("geburt", .table [("datum", .text "kein-datum")])] = .ok report ∧
      ClientError.ofReport report = .ok e ∧ e.IsFaultyDate "geburt.datum" := by
  have refused : PersonForm.model.parse [("vorname", .text "Max"),
      ("geburt", .table [("datum", .text "kein-datum")])] =
      .error (.invalid [⟨["geburt", "datum"], .dateFromDatetimeParsing⟩]) := rfl
  have built : PersonForm.model.HasKinds PersonForm.kinds :=
    .of_fields PersonForm.haveKinds fun _ => rfl
  obtain ⟨first, rest, report, e, split, validated, told, tells⟩ :=
    unreadable_dates_reach_clients.1 built refused
  obtain ⟨rfl, rfl⟩ := List.cons.inj split
  exact ⟨report, e, validated, told, tells⟩

end SchoolRegistry
