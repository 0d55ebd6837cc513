import SchoolRegistry.Proofs.Query.Building
import SchoolRegistry.Proofs.Query.Meaning

/-!
# Ways to describe one query

A query is described by the steps that build it, and one query has many descriptions. `Rephrased`
lists how a description may be changed: steps made in another order, conditions in another order, a
restriction made once more, a group in which all conditions must hold split into single conditions,
criteria that ask for nothing, and a sort key on a field that is sorted by already. Whatever is
changed so, and however often, evaluation gives the same page and the same total
(`rephrased_same_page`).

A description is read through three things that do not depend on how its steps are mixed: what its
steps demand, its sort keys in their order, and the last window that was set (`sameMeaning_after`).
The only change that touches the sort keys is the redundant one. Candidates that it could tell apart
are told apart by the earlier key on the field, in whichever direction either of them sorts
(`Query.precedes_append_iff`).

The values under each sort key must have an order, as evaluation needs one to succeed at all. A step
that fails changes nothing, so that it may stand anywhere; a description in which a criterion names
no field of the subject is not rephrased by splitting it or by adding to it.
-/

namespace SchoolRegistry

open Std

variable {α : Type} {view : α → Value} {a b : α}

/-! ## Redundant sort keys -/

/-- Values that are level do not stand before each other. -/
theorem Value.Level.not_before {v w : Value} (level : v.Level w) (d : Direction) :
    ¬d.Before v w := by
  have same_null : v.isNull = w.isNull := by
    cases nv : v.isNull with
    | true =>
      rw [Value.Level, Value.compare?_of_isNull nv] at level
      cases nw : w.isNull with
      | true => rfl
      | false => rw [nw] at level; cases level
    | false =>
      cases nw : w.isNull with
      | false => rfl
      | true => rw [Value.Level, Value.compare?_of_isNull_right nw, nv] at level; cases level
  unfold Value.Level at level
  cases d with
  | ascending =>
    rintro (lt | ⟨nv, nw⟩)
    · cases level.symm.trans lt
    · rw [same_null, nw] at nv; cases nv
  | descending =>
    rintro (gt | ⟨nv, nw⟩)
    · cases level.symm.trans gt
    · rw [same_null, nw] at nv; cases nv

namespace Query

variable {keys more : List SortKey} {k : SortKey} {found items : List α}

/-- Without keys nothing precedes anything. -/
theorem not_precedes_nil : ¬Precedes view [] a b := nofun

/-- The first key decides unless it finds both level. -/
theorem precedes_cons_iff : Precedes view (k :: keys) a b ↔
    k.direction.Before ((view a).resolve k.field) ((view b).resolve k.field) ∨
      ((view a).resolve k.field).Level ((view b).resolve k.field) ∧ Precedes view keys a b := by
  constructor
  · rintro (before | ⟨level, rest⟩)
    · exact .inl before
    · exact .inr ⟨level, rest⟩
  · rintro (before | ⟨level, rest⟩)
    · exact .byKey before
    · exact .afterTie level rest

/-- Keys that follow decide among those that the first ones do not tell apart. -/
theorem precedes_append : Precedes view (keys ++ more) a b ↔
    Precedes view keys a b ∨ Ties view keys a b ∧ Precedes view more a b := by
  induction keys with
  | nil => simp [not_precedes_nil, Ties]
  | cons k keys ih =>
    rw [List.cons_append, precedes_cons_iff, precedes_cons_iff, ih]
    unfold Ties
    rw [List.forall_mem_cons]
    tauto

/-- A key on a field that is sorted by already tells nothing more apart, in either direction. -/
theorem precedes_append_iff (redundant : ∃ k' ∈ keys, k'.field = k.field) :
    Precedes view (keys ++ [k]) a b ↔ Precedes view keys a b := by
  obtain ⟨k', earlier, field⟩ := redundant
  refine precedes_append.trans (or_iff_left ?_)
  rintro ⟨ties, last⟩
  have level := ties k' earlier
  rw [field] at level
  rcases precedes_cons_iff.mp last with before | ⟨-, rest⟩
  · exact level.not_before _ before
  · exact not_precedes_nil rest

/-! ## Queries that mean the same -/

variable {q q' q'' : Query}

/-- Two queries find the same, sort by the same fields so that the same stands before the same, and
have one window. -/
structure SameMeaning (q q' : Query) : Prop where
  meets : ∀ v, q.Meets v ↔ q'.Meets v
  fields : ∀ field, (∃ k ∈ q.sort, k.field = field) ↔ ∃ k ∈ q'.sort, k.field = field
  precedes : ∀ {α : Type} {view : α → Value} {a b : α},
    Precedes view q.sort a b ↔ Precedes view q'.sort a b
  window : (q.offset, q.limit) = (q'.offset, q'.limit)

namespace SameMeaning

/-- A query has its own meaning. -/
theorem refl (q : Query) : q.SameMeaning q :=
  ⟨fun _ => Iff.rfl, fun _ => Iff.rfl, Iff.rfl, rfl⟩

/-- Having the same meaning goes both ways. -/
theorem symm (h : q.SameMeaning q') : q'.SameMeaning q :=
  ⟨fun v => (h.meets v).symm, fun field => (h.fields field).symm, h.precedes.symm, h.window.symm⟩

/-- Queries that mean the same as a third one mean the same. -/
theorem trans (h : q.SameMeaning q') (h' : q'.SameMeaning q'') : q.SameMeaning q'' :=
  ⟨fun v => (h.meets v).trans (h'.meets v), fun field => (h.fields field).trans (h'.fields field),
    h.precedes.trans h'.precedes, h.window.trans h'.window⟩

/-- Which candidates the keys do not tell apart depends on the fields alone. -/
theorem ties_iff (h : q.SameMeaning q') : Ties view q.sort a b ↔ Ties view q'.sort a b := by
  have by_field (q : Query) : Ties view q.sort a b ↔ ∀ field, (∃ k ∈ q.sort, k.field = field) →
      ((view a).resolve field).Level ((view b).resolve field) := by
    constructor
    · rintro ties _ ⟨k, hk, rfl⟩
      exact ties k hk
    · intro levels k hk
      exact levels k.field ⟨k, hk, rfl⟩
  rw [by_field, by_field]
  exact forall_congr' fun field => imp_congr_left (h.fields field)

/-- What is arranged for a query is arranged for one with the same meaning. -/
theorem isArranged (h : q.SameMeaning q') (arranged : IsArranged view q.sort found items) :
    IsArranged view q'.sort found items := by
  have classes (c : α) (l : List α) : (l.filter fun b => decide (Ties view q'.sort c b)) =
      l.filter fun b => decide (Ties view q.sort c b) :=
    List.filter_congr fun b _ => decide_eq_decide.mpr h.ties_iff.symm
  refine ⟨arranged.members, arranged.ordered.imp fun not => ?_, fun c hc => ?_⟩
  · exact fun before => not (h.precedes.mpr before)
  · rw [classes, classes]
    exact arranged.stable c hc

/-- The values that are ordered by the keys of one query are those ordered by the other. -/
theorem orderable (h : q.SameMeaning q')
    (orderable : ∀ k ∈ q.sort, Value.Orderable (shown view k found)) :
    ∀ k ∈ q'.sort, Value.Orderable (shown view k found) := by
  intro k' hk'
  obtain ⟨k, hk, field⟩ := (h.fields k'.field).mpr ⟨k', hk', rfl⟩
  have same : shown view k' found = shown view k found := by rw [shown, shown, field]
  exact same ▸ orderable k hk

/-- Queries that mean the same give one page, whatever the candidates are. -/
theorem evaluate_eq (h : q.SameMeaning q') {candidates : List α}
    (orderable : ∀ k ∈ q.sort, Value.Orderable
      (shown view k (candidates.filter fun c => decide (q.Meets (view c))))) :
    ∃ page, q.evaluate view candidates = .ok page ∧ q'.evaluate view candidates = .ok page := by
  rw [← matching_eq] at orderable
  have found : q'.matching view candidates = q.matching view candidates := by
    rw [matching_eq, matching_eq]
    exact List.filter_congr fun c _ => decide_eq_decide.mpr (h.meets (view c)).symm
  obtain ⟨cmp, lawful, compares⟩ := exists_compares orderable
  obtain ⟨cmp', lawful', compares'⟩ := exists_compares (h.orderable orderable)
  obtain ⟨items, done, sorted⟩ := arranged_ok compares
  obtain ⟨items', done', sorted'⟩ := arranged_ok compares'
  -- What the other query arranges is arranged by the first one too, and there is one such list.
  have arranged' : IsArranged view q.sort (q.matching view candidates) items' :=
    h.symm.isArranged ((isArranged_iff compares').mpr sorted')
  obtain rfl : items = items' := sorted.unique ((isArranged_iff compares).mp arranged')
  obtain ⟨offset, limit⟩ := Prod.mk.inj h.window
  refine ⟨⟨Query.window q.offset q.limit items, (q.matching view candidates).length⟩, ?_, ?_⟩
  · simp only [evaluate, done, Except.map]
  · simp only [evaluate, found, done', Except.map, offset, limit]

end SameMeaning

end Query

/-! ## What steps add -/

namespace Subject

variable {s : Subject}

/-- What restricting adds to a query does not depend on the query. -/
theorem findBy_eq (s : Subject) (criteria : Fields) (connective : Value) (q : Query) :
    s.findBy criteria connective q = (s.findBy criteria connective .all).map fun added =>
      { q with groups := q.groups ++ added.groups } := by
  unfold findBy
  cases s.allKnown (criteria.map (·.1)) with
  | error f => rfl
  | ok =>
    cases given : Query.conditionsOf criteria with
    | nil => simp [Query.all, bind, Except.bind, Except.map]
    | cons first rest =>
      cases termOf Connective connective with
      | error f => rfl
      | ok k => simp [Query.restrict, given, Query.all, bind, Except.bind, Except.map]

/-- A sort key is added behind those that are there, whatever they are. -/
theorem sortBy_eq (s : Subject) (field : String) (direction : Value) (q : Query) :
    s.sortBy field direction q = (s.sortBy field direction .all).map fun added =>
      { q with sort := q.sort ++ added.sort } := by
  unfold sortBy
  cases s.known field with
  | error f => rfl
  | ok =>
    cases termOf Direction direction with
    | error f => rfl
    | ok d => rfl

end Subject

/-- A window replaces the one that is there, whatever it is. -/
theorem Query.paged_eq (offset limit : Option Int) (q : Query) :
    q.paged offset limit = (Query.all.paged offset limit).map fun added =>
      { q with offset := added.offset, limit := added.limit } := by
  unfold paged
  cases boundOk "offset" offset with
  | error f => rfl
  | ok =>
    cases boundOk "limit" limit with
    | error f => rfl
    | ok => rfl

namespace BuildStep

variable {s : Subject} {v : Value}

/-- The groups that a step adds; none if it fails. -/
def groups (s : Subject) : BuildStep → List ConditionGroup
  | findBy criteria connective =>
    match s.findBy criteria connective .all with
    | .ok added => added.groups
    | .error _ => []
  | _ => []

/-- The sort keys that a step adds; none if it fails. -/
def keys (s : Subject) : BuildStep → List SortKey
  | sortBy field direction =>
    match s.sortBy field direction .all with
    | .ok added => added.sort
    | .error _ => []
  | _ => []

/-- The offset and the limit that a step sets, unless it fails. -/
def window? : BuildStep → Option (Option Int × Option Int)
  | paged offset limit =>
    match Query.all.paged offset limit with
    | .ok added => some (added.offset, added.limit)
    | .error _ => none
  | _ => none

/-- The window of the last step that sets one and does not fail. -/
def lastWindow (steps : List BuildStep) : Option (Option Int × Option Int) :=
  (steps.filterMap window?).getLast?

/-- Whether the step sorts. -/
def isSorting : BuildStep → Bool
  | sortBy .. => true
  | _ => false

/-- A step adds its groups and its keys and may set the window. -/
theorem run_eq (s : Subject) (step : BuildStep) (q : Query) :
    ((step.carryOut s).run.run q).2 = ⟨q.groups ++ step.groups s, q.sort ++ step.keys s,
      (step.window?.getD (q.offset, q.limit)).1, (step.window?.getD (q.offset, q.limit)).2⟩ := by
  rw [run_carryOut]
  cases step with
  | findBy criteria connective =>
    rw [next, s.findBy_eq, groups]
    cases s.findBy criteria connective .all <;> simp [keys, window?, Except.map]
  | sortBy field direction =>
    rw [next, s.sortBy_eq, keys]
    cases s.sortBy field direction .all <;> simp [groups, window?, Except.map]
  | paged offset limit =>
    rw [next, Query.paged_eq, window?]
    cases Query.all.paged offset limit <;> simp [groups, keys, Except.map]

/-- The groups after some steps are those before and what each step adds, in order. -/
theorem groups_after (steps : List BuildStep) (q : Query) :
    (after s steps q).groups = q.groups ++ steps.flatMap (groups s) := by
  induction steps generalizing q with
  | nil => simp [after]
  | cons step rest ih => rw [after, ih, run_eq, List.flatMap_cons, List.append_assoc]

/-- The sort keys after some steps are those before and what each step adds, in order. -/
theorem sort_after (steps : List BuildStep) (q : Query) :
    (after s steps q).sort = q.sort ++ steps.flatMap (keys s) := by
  induction steps generalizing q with
  | nil => simp [after]
  | cons step rest ih => rw [after, ih, run_eq, List.flatMap_cons, List.append_assoc]

/-- The window after some steps is the last one that was set, or else the one before. -/
theorem window_after (steps : List BuildStep) (q : Query) :
    ((after s steps q).offset, (after s steps q).limit) =
      (lastWindow steps).getD (q.offset, q.limit) := by
  induction steps generalizing q with
  | nil => rfl
  | cons step rest ih =>
    rw [after, ih, run_eq, lastWindow, lastWindow, List.filterMap_cons]
    cases step.window? with
    | none => rfl
    | some w => rw [List.getLast?_cons, Option.getD_some, Option.getD_some]

/-- The value meets every group that the step adds. -/
def Demands (s : Subject) (v : Value) (step : BuildStep) : Prop := ∀ g ∈ step.groups s, g.Meets v

/-- A value meets a query that is built by steps exactly if every step demands no more of it. -/
theorem meets_after_iff (steps : List BuildStep) :
    (after s steps .all).Meets v ↔ ∀ step ∈ steps, step.Demands s v := by
  have added : (after s steps .all).groups = steps.flatMap (groups s) := groups_after steps .all
  unfold Query.Meets Demands
  simp only [added, List.mem_flatMap]
  exact ⟨fun h step hstep g hg => h g ⟨step, hstep, hg⟩,
    fun h g ⟨step, hstep, hg⟩ => h step hstep g hg⟩

/-- Descriptions that demand the same, sort alike and leave one window mean the same. -/
theorem sameMeaning_after {steps steps' : List BuildStep}
    (demands : ∀ v, (∀ step ∈ steps, step.Demands s v) ↔ ∀ step ∈ steps', step.Demands s v)
    (sorts : steps.flatMap (keys s) = steps'.flatMap (keys s))
    (windows : lastWindow steps = lastWindow steps') :
    (after s steps .all).SameMeaning (after s steps' .all) := by
  have sort : (after s steps .all).sort = (after s steps' .all).sort := by
    rw [sort_after, sort_after, sorts]
  refine ⟨fun v => ?_, fun field => by rw [sort], by rw [sort], ?_⟩
  · rw [meets_after_iff, meets_after_iff, demands]
  · rw [window_after, window_after, windows]

/-- Only steps that sort add sort keys. -/
theorem keys_filter (steps : List BuildStep) :
    (steps.filter isSorting).flatMap (keys s) = steps.flatMap (keys s) := by
  induction steps with
  | nil => rfl
  | cons step rest ih =>
    rw [List.filter_cons, List.flatMap_cons, ← ih]
    cases step <;> rfl

/-! ## What restrictions demand -/

/-- A step adds a group if it knows all names, has a value and a connective. -/
theorem mem_groups_findBy {criteria : Fields} {connective : Value} {g : ConditionGroup} :
    g ∈ (findBy criteria connective).groups s ↔ (∀ c ∈ criteria, c.1 ∈ s.fields) ∧
      Query.conditionsOf criteria ≠ [] ∧
        Subject.termOf Connective connective = .ok g.connective ∧
          g.conditions = Query.conditionsOf criteria := by
  simp only [groups, Subject.findBy]
  obtain ⟨ok, known⟩ | ⟨name, among, absent, failed⟩ := s.allKnown_cases (criteria.map (·.1))
  · have known : ∀ c ∈ criteria, c.1 ∈ s.fields := fun c hc => known _ (List.mem_map_of_mem hc)
    rw [ok]
    cases given : Query.conditionsOf criteria with
    | nil => simp [Query.all, bind, Except.bind]
    | cons first rest =>
      cases termOf : Subject.termOf Connective connective with
      | error f => simp [bind, Except.bind]
      | ok k =>
        cases g
        simp only [bind, Except.bind, List.isEmpty_cons, Bool.false_eq_true, if_false,
          Query.restrict, given, Query.all, List.nil_append, List.mem_singleton,
          ConditionGroup.mk.injEq, Except.ok.injEq]
        tauto
  · obtain ⟨c, hc, rfl⟩ := List.mem_map.mp among
    rw [failed]
    exact iff_of_false List.not_mem_nil fun meets => absent (meets.1 c hc)

/-- What a step demands, if it adds a group at all. -/
theorem demands_findBy {criteria : Fields} {connective : Value} :
    (findBy criteria connective).Demands s v ↔ ((∀ c ∈ criteria, c.1 ∈ s.fields) →
      Query.conditionsOf criteria ≠ [] → ∀ k, Subject.termOf Connective connective = .ok k →
        ConditionGroup.Meets ⟨k, Query.conditionsOf criteria⟩ v) := by
  unfold Demands
  constructor
  · intro demands known given k term
    exact demands _ (mem_groups_findBy.mpr ⟨known, given, term, rfl⟩)
  · rintro meets ⟨k, conditions⟩ there
    obtain ⟨known, given, term, rfl⟩ := mem_groups_findBy.mp there
    exact meets known given k term

/-- What a group demands does not depend on the order of its conditions. -/
theorem meets_perm {k : Connective} {conditions conditions' : List Condition}
    (perm : conditions.Perm conditions') :
    ConditionGroup.Meets ⟨k, conditions⟩ v ↔ ConditionGroup.Meets ⟨k, conditions'⟩ v := by
  cases k with
  | all => exact forall_congr' fun c => imp_congr_left perm.mem_iff
  | any => exact exists_congr fun c => and_congr_left' perm.mem_iff

/-- The order of the criteria does not matter. -/
theorem demands_perm {criteria criteria' : Fields} {connective : Value}
    (perm : criteria.Perm criteria') : (findBy criteria connective).Demands s v ↔
      (findBy criteria' connective).Demands s v := by
  have conditions : (Query.conditionsOf criteria).Perm (Query.conditionsOf criteria') :=
    (perm.filter _).map _
  rw [demands_findBy, demands_findBy]
  refine imp_congr (forall_congr' fun c => imp_congr_left perm.mem_iff) ?_
  refine imp_congr (not_congr ⟨fun h => ?_, fun h => ?_⟩) ?_
  · exact List.perm_nil.mp (h ▸ conditions).symm
  · exact List.perm_nil.mp (h ▸ conditions)
  · exact forall₂_congr fun k _ => meets_perm conditions

/-- Conditions that must all hold demand what they demand one by one. -/
theorem demands_all {criteria : Fields} {connective : Value}
    (known : ∀ c ∈ criteria, c.1 ∈ s.fields)
    (term : Subject.termOf Connective connective = .ok .all) :
    (findBy criteria connective).Demands s v ↔
      ∀ c ∈ criteria, (findBy [c] connective).Demands s v := by
  have alike {criteria : Fields} (known : ∀ c ∈ criteria, c.1 ∈ s.fields) :
      (findBy criteria connective).Demands s v ↔
        ∀ c ∈ criteria, c.2.isNull = false → Condition.Meets ⟨c.1, c.2⟩ v := by
    rw [demands_findBy, term]
    constructor
    · intro meets c hc present
      have there : (⟨c.1, c.2⟩ : Condition) ∈ Query.conditionsOf criteria :=
        List.mem_map.mpr ⟨c, List.mem_filter.mpr ⟨hc, by simp [present]⟩, rfl⟩
      exact meets known (List.ne_nil_of_mem there) .all rfl _ there
    · rintro meets - - k ⟨⟩ condition there
      obtain ⟨among, present⟩ := Query.mem_conditionsOf there
      exact meets _ among present
  rw [alike known]
  refine forall₂_congr fun c hc => ?_
  rw [alike fun c' hc' => List.mem_singleton.mp hc' ▸ known c hc]
  simp

/-! ## Rephrasing -/

/-- The two descriptions say the same: one becomes the other by the changes listed here, made there
or back, one after the other. -/
inductive Rephrased (s : Subject) : List BuildStep → List BuildStep → Prop
  | refl (steps : List BuildStep) : Rephrased s steps steps
  | symm {steps steps' : List BuildStep} : Rephrased s steps steps' → Rephrased s steps' steps
  | trans {steps steps' steps'' : List BuildStep} : Rephrased s steps steps' →
    Rephrased s steps' steps'' → Rephrased s steps steps''
  /-- The steps are made in another order, so that the groups of conditions stand in another order
  too. Those that sort keep theirs, and the window that is set last stays the last. -/
  | interleaved {steps steps' : List BuildStep} : steps.Perm steps' →
    steps.filter isSorting = steps'.filter isSorting → lastWindow steps = lastWindow steps' →
    Rephrased s steps steps'
  /-- The conditions of a group are given in another order. -/
  | reordered (front back : List BuildStep) {criteria criteria' : Fields} {connective : Value} :
    criteria.Perm criteria' →
    Rephrased s (front ++ findBy criteria connective :: back)
      (front ++ findBy criteria' connective :: back)
  /-- A restriction is made once more. -/
  | repeated (front back : List BuildStep) {criteria : Fields} {connective : Value} :
    findBy criteria connective ∈ front ++ back →
    Rephrased s (front ++ back) (front ++ findBy criteria connective :: back)
  /-- Conditions that must all hold are given one by one. -/
  | split (front back : List BuildStep) {criteria : Fields} {connective : Value} :
    (∀ c ∈ criteria, c.1 ∈ s.fields) → Subject.termOf Connective connective = .ok .all →
    Rephrased s (front ++ findBy criteria connective :: back)
      (front ++ (criteria.map fun c => findBy [c] connective) ++ back)
  /-- One more criterion has no value. -/
  | padded (front back : List BuildStep) (before behind : Fields) {field : String}
    {connective : Value} : field ∈ s.fields →
    Rephrased s (front ++ findBy (before ++ behind) connective :: back)
      (front ++ findBy (before ++ (field, .null) :: behind) connective :: back)
  /-- No criterion of one more restriction has a value. -/
  | idle (front back : List BuildStep) {criteria : Fields} {connective : Value} :
    (∀ c ∈ criteria, c.2.isNull = true) →
    Rephrased s (front ++ back) (front ++ findBy criteria connective :: back)
  /-- A field that is sorted by already is sorted by in the end, in either direction. -/
  | resorted {steps : List BuildStep} {field : String} {direction direction' : Value}
    {d : Direction} : sortBy field direction ∈ steps → field ∈ s.fields →
    Subject.termOf Direction direction = .ok d →
    Rephrased s steps (steps ++ [sortBy field direction'])

/-- Descriptions that differ in restrictions only mean the same if these demand the same. -/
theorem sameMeaning_of_findBy (front back : List BuildStep) {made made' : List BuildStep}
    (restricts : ∀ step ∈ made, ∃ criteria connective, step = findBy criteria connective)
    (restricts' : ∀ step ∈ made', ∃ criteria connective, step = findBy criteria connective)
    (demands : ∀ v, (∀ step ∈ front ++ back, step.Demands s v) →
      ((∀ step ∈ made, step.Demands s v) ↔ ∀ step ∈ made', step.Demands s v)) :
    (after s (front ++ made ++ back) .all).SameMeaning (after s (front ++ made' ++ back) .all) := by
  have no_keys {made : List BuildStep}
      (restricts : ∀ step ∈ made, ∃ criteria connective, step = findBy criteria connective) :
      made.flatMap (keys s) = [] := by
    refine List.flatMap_eq_nil_iff.mpr fun step hstep => ?_
    obtain ⟨criteria, connective, rfl⟩ := restricts step hstep
    rfl
  have no_window {made : List BuildStep}
      (restricts : ∀ step ∈ made, ∃ criteria connective, step = findBy criteria connective) :
      made.filterMap window? = [] := by
    refine List.filterMap_eq_nil_iff.mpr fun step hstep => ?_
    obtain ⟨criteria, connective, rfl⟩ := restricts step hstep
    rfl
  refine sameMeaning_after (fun v => ?_) ?_ ?_
  · simp only [List.forall_mem_append] at demands ⊢
    have := demands v
    tauto
  · simp only [List.flatMap_append, no_keys restricts, no_keys restricts']
  · simp only [lastWindow, List.filterMap_append, no_window restricts, no_window restricts']

/-- A field that is sorted by in the end, after it was sorted by before, changes nothing. -/
theorem sameMeaning_resorted {steps : List BuildStep} {field : String}
    {direction direction' : Value} {d : Direction} (earlier : sortBy field direction ∈ steps)
    (known : field ∈ s.fields) (term : Subject.termOf Direction direction = .ok d) :
    (after s steps .all).SameMeaning (after s (steps ++ [sortBy field direction']) .all) := by
  have among : (⟨field, d⟩ : SortKey) ∈ steps.flatMap (keys s) := by
    refine List.mem_flatMap.mpr ⟨_, earlier, ?_⟩
    rw [keys, Subject.sortBy, Subject.known_of_mem known, term]
    exact List.mem_singleton.mpr rfl
  have sort : (after s steps .all).sort = steps.flatMap (keys s) := sort_after steps .all
  -- The last step adds one key, or none if its direction is no term.
  have added : (after s (steps ++ [sortBy field direction']) .all).sort =
      steps.flatMap (keys s) ∨ ∃ d', (after s (steps ++ [sortBy field direction']) .all).sort =
        steps.flatMap (keys s) ++ [⟨field, d'⟩] := by
    have last : (after s (steps ++ [sortBy field direction']) .all).sort =
        steps.flatMap (keys s) ++ (sortBy field direction').keys s := by
      rw [sort_after, List.flatMap_append, List.flatMap_singleton]
      rfl
    rw [last, keys, Subject.sortBy, Subject.known_of_mem known]
    obtain ⟨d', term'⟩ | term' := Subject.termOf_cases Direction direction'
    · rw [term']
      exact .inr ⟨d', rfl⟩
    · rw [term']
      exact .inl (List.append_nil _)
  have meets (v : Value) : (after s steps .all).Meets v ↔
      (after s (steps ++ [sortBy field direction']) .all).Meets v := by
    rw [meets_after_iff, meets_after_iff, List.forall_mem_append]
    refine (and_iff_left fun step hstep => ?_).symm
    obtain rfl := List.mem_singleton.mp hstep
    exact List.forall_mem_nil _
  have window : ((after s steps .all).offset, (after s steps .all).limit) =
      ((after s (steps ++ [sortBy field direction']) .all).offset,
        (after s (steps ++ [sortBy field direction']) .all).limit) := by
    rw [window_after, window_after, lastWindow, lastWindow, List.filterMap_append]
    exact congrArg (Option.getD · _) (congrArg List.getLast? (List.append_nil _).symm)
  obtain added | ⟨d', added⟩ := added
  · refine ⟨meets, fun other => ?_, ?_, window⟩ <;> rw [sort, added]
  · refine ⟨meets, fun other => ?_, ?_, window⟩
    · rw [sort, added]
      simp only [List.mem_append, List.mem_singleton, or_and_right, exists_or, exists_eq_left]
      refine (or_iff_left_of_imp ?_).symm
      rintro rfl
      exact ⟨_, among, rfl⟩
    · -- Items that come to the last key are level under an earlier key of its field.
      rw [sort, added]
      have redundant : ∃ k ∈ steps.flatMap (keys s), k.field = (⟨field, d'⟩ : SortKey).field :=
        ⟨_, among, rfl⟩
      intro α view a b
      exact (Query.precedes_append_iff redundant).symm

/-- Rephrasing a description leaves its meaning. -/
theorem Rephrased.sameMeaning {steps steps' : List BuildStep} (h : Rephrased s steps steps') :
    (after s steps .all).SameMeaning (after s steps' .all) := by
  have restriction {criteria : Fields} {connective : Value} :
      ∀ step ∈ [findBy criteria connective],
        ∃ criteria connective, step = findBy criteria connective :=
    fun _ hstep => ⟨criteria, connective, List.mem_singleton.mp hstep⟩
  have put (front back : List BuildStep) (step : BuildStep) :
      front ++ step :: back = front ++ [step] ++ back := by simp
  have none_put (front back : List BuildStep) : front ++ back = front ++ [] ++ back := by simp
  -- But for the order of steps, a change puts others between a front and a back that stay.
  induction h with
  | refl steps => exact .refl _
  | symm _ ih => exact ih.symm
  | trans _ _ ih ih' => exact ih.trans ih'
  | interleaved perm sorts windows =>
    refine sameMeaning_after (fun v => ?_) ?_ windows
    · exact forall_congr' fun step => imp_congr_left perm.mem_iff
    · rw [← keys_filter, sorts, keys_filter]
  | @reordered front back criteria criteria' connective perm =>
    rw [put front back (findBy criteria connective), put front back (findBy criteria' connective)]
    refine sameMeaning_of_findBy front back restriction restriction fun v _ => ?_
    rw [List.forall_mem_singleton, List.forall_mem_singleton, demands_perm perm]
  | repeated front back earlier =>
    rw [none_put, put]
    refine sameMeaning_of_findBy front back nofun restriction fun v demands => ?_
    exact iff_of_true nofun (List.forall_mem_singleton.mpr (demands _ earlier))
  | split front back known term =>
    rw [put]
    refine sameMeaning_of_findBy front back restriction (fun step hstep => ?_) fun v _ => ?_
    · obtain ⟨c, -, rfl⟩ := List.mem_map.mp hstep
      exact ⟨_, _, rfl⟩
    · rw [List.forall_mem_singleton, demands_all known term, List.forall_mem_map]
  | @padded front back before behind field connective known =>
    have conditions : Query.conditionsOf (before ++ (field, .null) :: behind) =
        Query.conditionsOf (before ++ behind) := by
      simp [Query.conditionsOf, Value.isNull]
    rw [put front back (findBy (before ++ behind) connective),
      put front back (findBy (before ++ (field, .null) :: behind) connective)]
    refine sameMeaning_of_findBy front back restriction restriction fun v _ => ?_
    rw [List.forall_mem_singleton, List.forall_mem_singleton, demands_findBy, demands_findBy,
      conditions]
    simp only [List.forall_mem_append, List.forall_mem_cons, known, true_and]
  | idle front back missing =>
    rw [none_put, put]
    refine sameMeaning_of_findBy front back nofun restriction fun v _ => ?_
    refine iff_of_true nofun (List.forall_mem_singleton.mpr (demands_findBy.mpr ?_))
    intro _ given
    refine absurd (List.map_eq_nil_iff.mpr (List.filter_eq_nil_iff.mpr fun c hc => ?_)) given
    simp [missing c hc]
  | resorted earlier known term => exact sameMeaning_resorted earlier known term

/-- However a description is rephrased, its query gives one page with one total, from every list of
candidates whose values can be ordered. -/
theorem rephrased_same_page {steps steps' : List BuildStep} (same : Rephrased s steps steps')
    (view : α → Value) (candidates : List α)
    (orderable : ∀ k ∈ (after s steps .all).sort, Value.Orderable (Query.shown view k
      (candidates.filter fun c => decide ((after s steps .all).Meets (view c))))) :
    ∃ page, (after s steps .all).evaluate view candidates = .ok page ∧
      (after s steps' .all).evaluate view candidates = .ok page :=
  same.sameMeaning.evaluate_eq orderable

/-- A description of the persons called Erika Meier, by referrer from the last to the first. -/
def namesakes : List BuildStep := [
  sortBy "referrer" (.choice (.direction .descending)),
  paged (some 1) (some 2),
  findBy [("familienname", .text "Meier"), ("vorname", .text "Erika")] (.choice (.connective .all))]

/-- The same in more words: the restrictions first and one by one, the second of them made twice and
with a criterion that has no value, and the field sorted by once more. -/
def wordyNamesakes : List BuildStep := [
  findBy [("vorname", .text "Erika")] (.choice (.connective .all)),
  findBy [("familienname", .text "Meier")] (.choice (.connective .all)),
  findBy [("vorname", .text "Erika"), ("referrer", .null)] (.choice (.connective .all)),
  findBy [("familienname", .null)] (.text "xor"),
  sortBy "referrer" (.choice (.direction .descending)),
  paged (some 1) (some 2),
  sortBy "referrer" (.choice (.direction .ascending))]

/-- One description is led to the other by all of the changes in turn. -/
theorem rephrased_namesakes : Rephrased .persons namesakes wordyNamesakes := by
  let all : Value := .choice (.connective .all)
  let both := findBy [("familienname", .text "Meier"), ("vorname", .text "Erika")] all
  let first := findBy [("familienname", .text "Meier")] all
  let second := findBy [("vorname", .text "Erika")] all
  let widened := findBy [("vorname", .text "Erika"), ("referrer", .null)] all
  let rest := [sortBy "referrer" (.choice (.direction .descending)), paged (some 1) (some 2)]
  have moved : Rephrased .persons namesakes (both :: rest) :=
    .interleaved (@List.perm_append_comm _ rest [both]) rfl rfl
  have one_by_one : Rephrased .persons (both :: rest) (first :: second :: rest) :=
    .split [] rest (by decide) rfl
  have twice : Rephrased .persons (first :: second :: rest) (second :: first :: second :: rest) :=
    .repeated [] (first :: second :: rest) (.tail _ (.head _))
  have unvalued : Rephrased .persons (second :: first :: second :: rest)
      (second :: first :: widened :: rest) :=
    .padded [second, first] rest [("vorname", .text "Erika")] [] (by decide)
  have nothing_asked : Rephrased .persons (second :: first :: widened :: rest)
      (second :: first :: widened :: findBy [("familienname", .null)] (.text "xor") :: rest) :=
    .idle [second, first, widened] rest (by decide)
  have sorted_twice : Rephrased .persons
      (second :: first :: widened :: findBy [("familienname", .null)] (.text "xor") :: rest)
      wordyNamesakes :=
    .resorted (.tail _ (.tail _ (.tail _ (.tail _ (.head _))))) (by decide) rfl
  exact moved.trans (one_by_one.trans (twice.trans (unvalued.trans
    (nothing_asked.trans sorted_twice))))

/-- Both descriptions show one page of three namesakes, of which one has no referrer. -/
theorem rephrased_same_page_namesakes :
    let person (name : String) (referrer : Value) : Value :=
      .table [("familienname", .text name), ("vorname", .text "Erika"), ("referrer", referrer)]
    let found := [person "Meier" (.text "m1"), person "Meier" .null, person "Meier" (.text "m2")]
    let candidates := person "Mayer" (.text "m0") :: found
    Rephrased .persons namesakes wordyNamesakes ∧
      (∀ k ∈ (after .persons namesakes .all).sort, Value.Orderable (Query.shown id k
        (candidates.filter fun c => decide ((after .persons namesakes .all).Meets (id c))))) ∧
      ∃ page, (after .persons namesakes .all).evaluate id candidates = .ok page ∧
        (after .persons wordyNamesakes .all).evaluate id candidates = .ok page := by
  intro person found candidates
  have texts_eq (s t : String) : (Value.text s).compare? (.text t) = some (compare s t) :=
    @Value.compare?_of_scalar _ _ (.text s) (.text t) rfl rfl
  have found_eq : (candidates.filter fun c =>
      decide ((after .persons namesakes .all).Meets (id c))) = found := by
    have other : (after .persons namesakes .all).holds (person "Mayer" (.text "m0")) = false := by
      decide +kernel +zetaReduce
    have asked : ∀ c ∈ found, (after .persons namesakes .all).holds c = true := by
      decide +kernel +zetaReduce
    rw [← Query.matching_eq]
    exact (List.filter_cons_of_neg (by simp [other])).trans (List.filter_eq_self.mpr asked)
  have orderable : ∀ k ∈ (after .persons namesakes .all).sort, Value.Orderable (Query.shown id k
      (candidates.filter fun c => decide ((after .persons namesakes .all).Meets (id c)))) := by
    rw [found_eq]
    rintro k (_ | ⟨_, ⟨⟩⟩)
    show Value.Orderable [.text "m1", .text "m2"]
    exact Value.orderable_of_key (fun v => v.text?.getD "") (by simp [texts_eq, Value.text?])
  exact ⟨rephrased_namesakes, orderable,
    rephrased_same_page rephrased_namesakes id candidates orderable⟩

end BuildStep

end SchoolRegistry
