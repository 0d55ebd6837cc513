import SchoolRegistry.Query.Subject

/-!
# Building queries

A query is built by restricting it, by sorting it and by setting its window. `Subject.findBy`,
`Subject.sortBy` and `Query.paged` give the next query or a failure; a builder that changes one
query in place checks a name, a term or a bound, goes on, and changes the query part by part.
`BuildStep.carryOut` is such a builder, with its checks and its changes in their order. Each of its
failures comes before its first change (`run_carryOut`), so that a step is made as a whole or leaves
the query as it was.

Whatever steps are made, and whichever of them fail, the query is well built (`Query.WellBuilt`):
what it names are fields of the subject, no group of conditions is empty, no condition asks for
nothing, and the window has no negative bound (`wellBuilt_after`).
-/

namespace SchoolRegistry

/-! ## Names of fields -/

namespace Subject

variable {s : Subject} {q q' : Query}

/-- The failure of a query that names a field that the subject does not have. -/
def unknown (s : Subject) (field : String) : Failure :=
  .unknownField (.of field s.model s.sortedFields)

/-- A field of the subject is known. -/
theorem known_of_mem {field : String} (h : field ∈ s.fields) : s.known field = .ok () :=
  if_pos (List.contains_iff_mem.mpr h)

/-- A field that the subject does not have is refused, with suggestions. -/
theorem known_of_not_mem {field : String} (h : field ∉ s.fields) :
    s.known field = .error (s.unknown field) :=
  if_neg fun found => h (List.contains_iff_mem.mp found)

/-- Names are checked up to the first that is no field. -/
theorem allKnown_cases (s : Subject) (names : List String) :
    s.allKnown names = .ok () ∧ (∀ name ∈ names, name ∈ s.fields) ∨
      ∃ name ∈ names, name ∉ s.fields ∧ s.allKnown names = .error (s.unknown name) := by
  induction names with
  | nil => exact .inl ⟨rfl, List.forall_mem_nil _⟩
  | cons name rest ih =>
    rw [allKnown]
    by_cases there : name ∈ s.fields
    · rw [known_of_mem there]
      refine ih.imp ?_ ?_
      · exact fun ⟨ok, all⟩ => ⟨ok, List.forall_mem_cons.mpr ⟨there, all⟩⟩
      · exact fun ⟨other, among, absent, failed⟩ =>
          ⟨other, List.mem_cons_of_mem _ among, absent, failed⟩
    · rw [known_of_not_mem there]
      exact .inr ⟨name, List.mem_cons_self, there, rfl⟩

/-- A value is a term of the vocabulary, or the failure names value and vocabulary. -/
theorem termOf_cases (α : Type) [Selectable α] (v : Value) :
    (∃ a, termOf α v = .ok a) ∨
      termOf α v = .error (.argument (.unknownTerm v (Vocabulary.family α))) := by
  unfold termOf
  split
  · next a _ => exact .inl ⟨a, rfl⟩
  · exact .inr rfl

/-! ## What a step answers -/

/-- Restricting fails at the first name that is no field, then at the connective, which is looked
at only if there is something to join. -/
theorem findBy_cases (s : Subject) (criteria : Fields) (connective : Value) (q : Query) :
    (∃ c ∈ criteria, c.1 ∉ s.fields ∧ s.findBy criteria connective q = .error (s.unknown c.1)) ∨
      (∀ c ∈ criteria, c.1 ∈ s.fields) ∧
        ((∃ k, s.findBy criteria connective q = .ok (q.restrict k criteria)) ∨
          s.findBy criteria connective q =
            .error (.argument (.unknownTerm connective (Vocabulary.family Connective)))) := by
  unfold findBy
  obtain ⟨ok, all⟩ | ⟨name, among, absent, failed⟩ := s.allKnown_cases (criteria.map (·.1))
  · rw [ok]
    refine .inr ⟨fun c hc => all _ (List.mem_map_of_mem hc), ?_⟩
    by_cases nothing : (Query.conditionsOf criteria).isEmpty
    · refine .inl ⟨.all, (if_pos nothing).trans ?_⟩
      rw [Query.restrict, List.isEmpty_iff.mp nothing]
    · obtain ⟨k, term⟩ | term := termOf_cases Connective connective
      · exact .inl ⟨k, (if_neg nothing).trans (by rw [term]; rfl)⟩
      · exact .inr ((if_neg nothing).trans (by rw [term]; rfl))
  · rw [failed]
    obtain ⟨c, hc, rfl⟩ := List.mem_map.mp among
    exact .inl ⟨c, hc, absent, rfl⟩

/-- Sorting fails at a name that is no field, then at the direction. -/
theorem sortBy_cases (s : Subject) (field : String) (direction : Value) (q : Query) :
    (field ∉ s.fields ∧ s.sortBy field direction q = .error (s.unknown field)) ∨
      field ∈ s.fields ∧
        ((∃ d, s.sortBy field direction q = .ok (q.sortedBy field d)) ∨
          s.sortBy field direction q =
            .error (.argument (.unknownTerm direction (Vocabulary.family Direction)))) := by
  unfold sortBy
  by_cases there : field ∈ s.fields
  · rw [known_of_mem there]
    refine .inr ⟨there, ?_⟩
    obtain ⟨d, term⟩ | term := termOf_cases Direction direction
    · exact .inl ⟨d, by rw [term]; rfl⟩
    · exact .inr (by rw [term]; rfl)
  · rw [known_of_not_mem there]
    exact .inl ⟨there, rfl⟩

/-- Conditions that are added name fields of the subject only. -/
theorem findBy_eq_ok {criteria : Fields} {connective : Value}
    (h : s.findBy criteria connective q = .ok q') :
    (∀ c ∈ criteria, c.1 ∈ s.fields) ∧ ∃ k, q' = q.restrict k criteria := by
  obtain ⟨_, _, _, failed⟩ | ⟨known, ⟨k, ok⟩ | failed⟩ := s.findBy_cases criteria connective q
  · cases h.symm.trans failed
  · exact ⟨known, k, Except.ok.inj (h.symm.trans ok)⟩
  · cases h.symm.trans failed

/-- A sort key that is added names a field of the subject. -/
theorem sortBy_eq_ok {field : String} {direction : Value}
    (h : s.sortBy field direction q = .ok q') :
    field ∈ s.fields ∧ ∃ d, q' = q.sortedBy field d := by
  obtain ⟨_, failed⟩ | ⟨known, ⟨d, ok⟩ | failed⟩ := s.sortBy_cases field direction q
  · cases h.symm.trans failed
  · exact ⟨known, d, Except.ok.inj (h.symm.trans ok)⟩
  · cases h.symm.trans failed

end Subject

namespace Query

variable {q q' : Query}

/-- A bound of a page is not negative, or the failure names it. -/
theorem boundOk_cases (name : String) (bound : Option Int) :
    boundOk name bound = .ok () ∧ (∀ n ∈ bound, 0 ≤ n) ∨
      ∃ n < 0, bound = some n ∧ boundOk name bound = .error (.invalidPaging name (.whole n)) := by
  cases bound with
  | none => exact .inl ⟨rfl, nofun⟩
  | some n =>
    by_cases negative : n < 0
    · exact .inr ⟨n, negative, rfl, if_pos negative⟩
    · refine .inl ⟨if_neg negative, ?_⟩
      rintro _ ⟨⟩
      exact Int.not_lt.mp negative

/-- Paging fails at a negative offset, then at a negative limit. -/
theorem paged_cases (offset limit : Option Int) (q : Query) :
    (q.paged offset limit = .ok (q.windowed offset limit) ∧ (∀ n ∈ offset, 0 ≤ n) ∧
        ∀ n ∈ limit, 0 ≤ n) ∨
      ∃ n < 0,
        (offset = some n ∧ q.paged offset limit = .error (.invalidPaging "offset" (.whole n))) ∨
        limit = some n ∧ q.paged offset limit = .error (.invalidPaging "limit" (.whole n)) := by
  unfold paged
  obtain ⟨first, bound⟩ | ⟨n, negative, given, first⟩ := boundOk_cases "offset" offset
  · obtain ⟨second, bound'⟩ | ⟨n, negative, given, second⟩ := boundOk_cases "limit" limit
    · rw [first, second]
      exact .inl ⟨rfl, bound, bound'⟩
    · rw [first, second]
      exact .inr ⟨n, negative, .inr ⟨given, rfl⟩⟩
  · rw [first]
    exact .inr ⟨n, negative, .inl ⟨given, rfl⟩⟩

/-- A window that is set has no negative bound. -/
theorem paged_eq_ok {offset limit : Option Int} (h : q.paged offset limit = .ok q') :
    q' = q.windowed offset limit ∧ (∀ n ∈ offset, 0 ≤ n) ∧ ∀ n ∈ limit, 0 ≤ n := by
  obtain ⟨ok, bounds⟩ | ⟨n, -, ⟨-, failed⟩ | ⟨-, failed⟩⟩ := q.paged_cases offset limit
  · exact ⟨Except.ok.inj (h.symm.trans ok), bounds⟩
  · cases h.symm.trans failed
  · cases h.symm.trans failed

/-- The conditions come from the criteria that have a value. -/
theorem mem_conditionsOf {criteria : Fields} {k : Condition} (h : k ∈ conditionsOf criteria) :
    (k.field, k.value) ∈ criteria ∧ k.value.isNull = false := by
  obtain ⟨f, hf, rfl⟩ := List.mem_map.mp h
  obtain ⟨there, present⟩ := List.mem_filter.mp hf
  exact ⟨there, by simpa using present⟩

/-! ## Queries that are well built -/

/-- What holds of every query about a subject, however it was built. -/
structure WellBuilt (s : Subject) (q : Query) : Prop where
  /-- Every group has a condition, and conditions are about values that fields can have. -/
  groups : ∀ g ∈ q.groups, g.conditions ≠ [] ∧
    ∀ k ∈ g.conditions, k.field ∈ s.fields ∧ k.value.isNull = false
  sort : ∀ k ∈ q.sort, k.field ∈ s.fields
  offset : ∀ n ∈ q.offset, 0 ≤ n
  limit : ∀ n ∈ q.limit, 0 ≤ n

namespace WellBuilt

variable {s : Subject}

/-- The query for everything is well built. -/
theorem all (s : Subject) : all.WellBuilt s :=
  ⟨List.forall_mem_nil _, List.forall_mem_nil _, nofun, nofun⟩

/-- A group of conditions on fields of the subject leaves the query well built. -/
theorem restrict (h : q.WellBuilt s) {criteria : Fields} (connective : Connective)
    (known : ∀ c ∈ criteria, c.1 ∈ s.fields) : (q.restrict connective criteria).WellBuilt s := by
  unfold Query.restrict
  split
  · exact h
  · next some_condition =>
    refine ⟨fun g hg => ?_, h.sort, h.offset, h.limit⟩
    rcases List.mem_append.mp hg with before | added
    · exact h.groups g before
    · obtain rfl := List.mem_singleton.mp added
      refine ⟨some_condition, fun k hk => ?_⟩
      obtain ⟨among, present⟩ := mem_conditionsOf hk
      exact ⟨known _ among, present⟩

/-- So does a sort key on a field of the subject. -/
theorem sortedBy (h : q.WellBuilt s) {field : String} (direction : Direction)
    (known : field ∈ s.fields) : (q.sortedBy field direction).WellBuilt s := by
  refine ⟨h.groups, fun k hk => ?_, h.offset, h.limit⟩
  rcases List.mem_append.mp hk with before | added
  · exact h.sort k before
  · obtain rfl := List.mem_singleton.mp added
    exact known

/-- So does a window without negative bounds. -/
theorem windowed (h : q.WellBuilt s) {offset limit : Option Int} (first : ∀ n ∈ offset, 0 ≤ n)
    (last : ∀ n ∈ limit, 0 ≤ n) : (q.windowed offset limit).WellBuilt s :=
  ⟨h.groups, h.sort, first, last⟩

end WellBuilt

end Query

/-! ## Steps -/

/-- A step in the building of a query, with anything as its arguments. -/
inductive BuildStep where
  | findBy (criteria : Fields) (connective : Value)
  | sortBy (field : String) (direction : Value)
  | paged (offset limit : Option Int)

/-- The query after the step. -/
def BuildStep.next (s : Subject) : BuildStep → Query → Except Failure Query
  | findBy criteria connective, q => s.findBy criteria connective q
  | sortBy field direction, q => s.sortBy field direction q
  | paged offset limit, q => q.paged offset limit

/-- What is wrong with a step that fails. -/
inductive BuildStep.Faulty (s : Subject) : BuildStep → Failure → Prop
  | unknownCriterion {criteria : Fields} {connective : Value} {c : String × Value}
    (among : c ∈ criteria) (absent : c.1 ∉ s.fields) :
    Faulty s (findBy criteria connective) (s.unknown c.1)
  | unknownConnective {criteria : Fields} {connective : Value} :
    Faulty s (findBy criteria connective)
      (.argument (.unknownTerm connective (Vocabulary.family Connective)))
  | unknownField {field : String} {direction : Value} (absent : field ∉ s.fields) :
    Faulty s (sortBy field direction) (s.unknown field)
  | unknownDirection {field : String} {direction : Value} :
    Faulty s (sortBy field direction)
      (.argument (.unknownTerm direction (Vocabulary.family Direction)))
  | negativeOffset {n : Int} {limit : Option Int} (negative : n < 0) :
    Faulty s (paged (some n) limit) (.invalidPaging "offset" (.whole n))
  | negativeLimit {n : Int} {offset : Option Int} (negative : n < 0) :
    Faulty s (paged offset (some n)) (.invalidPaging "limit" (.whole n))

/-- A step keeps a query well built, or it fails with what is wrong with it. -/
theorem BuildStep.next_cases (s : Subject) (step : BuildStep) (q : Query) :
    (∃ q', step.next s q = .ok q' ∧ (q.WellBuilt s → q'.WellBuilt s)) ∨
      ∃ f, step.next s q = .error f ∧ step.Faulty s f := by
  cases step with
  | findBy criteria connective =>
    obtain ⟨c, among, absent, failed⟩ | ⟨known, ⟨k, ok⟩ | failed⟩ :=
      s.findBy_cases criteria connective q
    · exact .inr ⟨_, failed, .unknownCriterion among absent⟩
    · exact .inl ⟨_, ok, fun h => h.restrict k known⟩
    · exact .inr ⟨_, failed, .unknownConnective⟩
  | sortBy field direction =>
    obtain ⟨absent, failed⟩ | ⟨known, ⟨d, ok⟩ | failed⟩ := s.sortBy_cases field direction q
    · exact .inr ⟨_, failed, .unknownField absent⟩
    · exact .inl ⟨_, ok, fun h => h.sortedBy d known⟩
    · exact .inr ⟨_, failed, .unknownDirection⟩
  | paged offset limit =>
    obtain ⟨ok, first, last⟩ | ⟨n, negative, ⟨rfl, failed⟩ | ⟨rfl, failed⟩⟩ :=
      q.paged_cases offset limit
    · exact .inl ⟨_, ok, fun h => h.windowed first last⟩
    · exact .inr ⟨_, failed, .negativeOffset negative⟩
    · exact .inr ⟨_, failed, .negativeLimit negative⟩

/-! ## Building in place -/

/-- A computation that changes a query. -/
abbrev Building := ExceptT Failure (StateM Query)

namespace Building

variable {α β : Type}

/-- A check, which changes nothing. -/
def check (x : Except Failure α) : Building α := ExceptT.mk (pure x)

/-- Changes the query. -/
def update (f : Query → Query) : Building Unit := modify f

/-- What is built first is the query that the next part starts from. -/
theorem run_bind (x : Building α) (f : α → Building β) (q : Query) :
    (x >>= f).run.run q = match x.run.run q with
      | (.ok a, q') => (f a).run.run q'
      | (.error e, q') => (.error e, q') := by
  have split : (x >>= f).run.run q =
      (ExceptT.bindCont (m := StateM Query) f (x.run.run q).1).run (x.run.run q).2 := rfl
  obtain ⟨y, q', ran⟩ : ∃ y q', x.run.run q = (y, q') := ⟨_, _, rfl⟩
  rw [split, ran]
  cases y with
  | ok a => rfl
  | error e => rfl

/-- A check leaves the query as it is. -/
theorem run_check (x : Except Failure α) (q : Query) : (check x).run.run q = (x, q) := rfl

end Building

open Building (check update run_bind run_check)

/-- Makes the step on a query in place: checks and changes, one after the other. -/
def BuildStep.carryOut (s : Subject) : BuildStep → Building Unit
  | findBy criteria connective => do
    criteria.forM fun c => check (s.known c.1)
    if (Query.conditionsOf criteria).isEmpty then pure ()
    else
      let k ← check (Subject.termOf Connective connective)
      update fun q => { q with groups := q.groups ++ [⟨k, Query.conditionsOf criteria⟩] }
  | sortBy field direction => do
    check (s.known field)
    let d ← check (Subject.termOf Direction direction)
    update fun q => { q with sort := q.sort ++ [⟨field, d⟩] }
  | paged offset limit => do
    check (Query.boundOk "offset" offset)
    check (Query.boundOk "limit" limit)
    update fun q => { q with offset := offset }
    update fun q => { q with limit := limit }

/-- The names are checked one after the other, up to the first unknown one. -/
theorem run_checkNames (s : Subject) (criteria : Fields) (q : Query) :
    (criteria.forM fun c => check (s.known c.1)).run.run q =
      (s.allKnown (criteria.map (·.1)), q) := by
  induction criteria with
  | nil => rfl
  | cons c rest ih =>
    have first : (c :: rest).forM (fun c => check (s.known c.1)) =
        (check (s.known c.1) >>= fun _ => rest.forM fun c => check (s.known c.1)) := rfl
    rw [first, run_bind, run_check, List.map_cons, Subject.allKnown]
    cases s.known c.1 with
    | ok => exact ih
    | error f => rfl

namespace BuildStep

/-- A step in place gives the next query, or it fails and has changed nothing. -/
theorem run_carryOut (s : Subject) (step : BuildStep) (q : Query) :
    (step.carryOut s).run.run q = match step.next s q with
      | .ok q' => (.ok (), q')
      | .error f => (.error f, q) := by
  cases step with
  | findBy criteria connective =>
    rw [carryOut, run_bind, run_checkNames, next, Subject.findBy]
    cases s.allKnown (criteria.map (·.1)) with
    | error f => rfl
    | ok =>
      cases given : Query.conditionsOf criteria with
      | nil => rfl
      | cons k rest =>
        have some_condition : ¬(k :: rest).isEmpty := Bool.false_ne_true
        dsimp only
        rw [if_neg some_condition, run_bind, run_check]
        cases Subject.termOf Connective connective with
        | error f => rfl
        | ok connective =>
          change (Except.ok (), _) = (Except.ok (), q.restrict connective criteria)
          rw [Query.restrict, given]
  | sortBy field direction =>
    rw [carryOut, run_bind, run_check, next, Subject.sortBy]
    cases s.known field with
    | error f => rfl
    | ok =>
      dsimp only
      rw [run_bind, run_check]
      cases Subject.termOf Direction direction with
      | error f => rfl
      | ok d => rfl
  | paged offset limit =>
    rw [carryOut, run_bind, run_check, next, Query.paged]
    cases Query.boundOk "offset" offset with
    | error f => rfl
    | ok =>
      dsimp only
      rw [run_bind, run_check]
      cases Query.boundOk "limit" limit with
      | error f => rfl
      | ok => rfl

/-- The query after steps that are made in place, one after the other. A step that fails does not
keep the others from being made. -/
def after (s : Subject) : List BuildStep → Query → Query
  | [], q => q
  | step :: rest, q => after s rest ((step.carryOut s).run.run q).2

/-- Whatever steps are taken, a well built query stays well built. -/
theorem wellBuilt_after {s : Subject} (steps : List BuildStep) {q : Query} (h : q.WellBuilt s) :
    (after s steps q).WellBuilt s := by
  induction steps generalizing q with
  | nil => exact h
  | cons step rest ih =>
    rw [after, run_carryOut]
    obtain ⟨q', ok, keeps⟩ | ⟨f, failed, -⟩ := step.next_cases s q
    · rw [ok]
      exact ih (keeps h)
    · rw [failed]
      exact ih h

/-- Restricting fails with an unknown field exactly if one of the names, also of a missing value,
is no field of the subject. -/
theorem unknownField_iff (s : Subject) (criteria : Fields) (connective : Value) (q : Query) :
    (∃ u, s.findBy criteria connective q = .error (.unknownField u)) ↔
      ∃ c ∈ criteria, c.1 ∉ s.fields := by
  obtain ⟨c, among, absent, failed⟩ | ⟨known, ⟨k, ok⟩ | failed⟩ :=
    s.findBy_cases criteria connective q
  · exact iff_of_true ⟨_, failed⟩ ⟨c, among, absent⟩
  · refine iff_of_false ?_ fun ⟨c, among, absent⟩ => absent (known c among)
    rw [ok]
    rintro ⟨u, ⟨⟩⟩
  · refine iff_of_false ?_ fun ⟨c, among, absent⟩ => absent (known c among)
    rw [failed]
    rintro ⟨u, ⟨⟩⟩

/-- Queries about a subject are well built after any steps. A step gives the next query, or it fails
with what is wrong with it and leaves the query as it was. -/
theorem builds_whole_steps (s : Subject) :
    (∀ steps, (after s steps .all).WellBuilt s) ∧
    (∀ (step : BuildStep) (q q' : Query), (step.carryOut s).run.run q = (.ok (), q') →
      step.next s q = .ok q') ∧
    (∀ (step : BuildStep) (q q' : Query) (f : Failure),
      (step.carryOut s).run.run q = (.error f, q') →
        q' = q ∧ step.next s q = .error f ∧ step.Faulty s f) ∧
    ∀ (criteria : Fields) (connective : Value) (q : Query),
      (∃ u q', ((findBy criteria connective).carryOut s).run.run q =
        (.error (.unknownField u), q')) ↔ ∃ c ∈ criteria, c.1 ∉ s.fields := by
  refine ⟨fun steps => wellBuilt_after steps (.all s), fun step q q' ran => ?_,
    fun step q q' f ran => ?_, fun criteria connective q => ?_⟩
  · rw [run_carryOut] at ran
    cases made : step.next s q with
    | ok next =>
      rw [made] at ran
      cases ran
      rfl
    | error f =>
      rw [made] at ran
      cases ran
  · rw [run_carryOut] at ran
    obtain ⟨next, ok, -⟩ | ⟨f', failed, faulty⟩ := step.next_cases s q
    · rw [ok] at ran
      cases ran
    · rw [failed] at ran
      cases ran
      exact ⟨rfl, failed, faulty⟩
  · rw [← unknownField_iff s criteria connective q]
    refine exists_congr fun u => ?_
    rw [run_carryOut, next]
    cases s.findBy criteria connective q with
    | ok next => exact iff_of_false nofun nofun
    | error f =>
      constructor
      · rintro ⟨q', ⟨⟩⟩
        rfl
      · rintro ⟨⟩
        exact ⟨q, rfl⟩

/-- Conditions on organisations, of which one names no field, and a window before the first. -/
def slips : List BuildStep := [
  findBy [("kennung", .text "1234567"), ("name", .null)] (.choice (.connective .all)),
  findBy [("name", .text "Carl-Orff-Schule"), ("knenung", .null)] (.choice (.connective .all)),
  sortBy "name" (.text "sideways"),
  paged (some 2) (some (-1))]

/-- The first step is made and the others leave no trace. -/
theorem builds_whole_steps_slips :
    (after .organisations slips .all).WellBuilt .organisations ∧
    after .organisations slips .all =
      Query.all.restrict .all [("kennung", .text "1234567")] ∧
    ((paged (some 2) (some (-1))).carryOut .organisations).run.run .all =
      (.error (.invalidPaging "limit" (.whole (-1))), .all) ∧
    (paged (some 2) (some (-1))).Faulty .organisations (.invalidPaging "limit" (.whole (-1))) := by
  obtain ⟨wellBuilt, -, fails, -⟩ := builds_whole_steps .organisations
  exact ⟨wellBuilt slips, rfl, rfl, (fails _ .all .all _ rfl).2.2⟩

end BuildStep

end SchoolRegistry
