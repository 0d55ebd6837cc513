import Mathlib.Data.List.Nodup
import SchoolRegistry.Proofs.Validation.FieldRules

/-!
# Reports as ordered tables

A report keeps the order in which paths first failed, and below each path the order in which
constraints failed there. Since no path is listed twice, both orders together are all there is to a
report (`Report.eq_of_shown`). Merging puts the new paths of the second report behind those of
the first (`paths_merge`) and its constraints behind those of the first, path by path
(`names_merge`). So merging is associative and the empty report is neutral, orders included.

The first failure is the first constraint on record (`first?_eq_head?`). A path may be listed
without any constraint. As long as that does not happen, the first failure stays the first one
whatever is added behind it (`Named.first?_merge`), and it is the one that was recorded first in
time (`Making.first?_eq_chronicle`). A path that is listed early and given its first constraint
late takes its early place, and then the two differ. What is said of all ways to make a report is
said of all reports, since each can be made (`Making.exists_report`).
-/

namespace SchoolRegistry.Report

variable {r s t : Report} {path : String} {ns : List String} {es : List (String × List String)}

/-! ## What a report shows -/

/-- The paths of the report. -/
def paths (r : Report) : List String := pathsOf r.entries

/-- The names that entries have under a path. -/
def namesOf (es : List (String × List String)) (path : String) : List String :=
  (es.lookup path).getD []

/-- The constraints recorded under a path. -/
def names (r : Report) (path : String) : List String := namesOf r.entries path

theorem namesOf_cons (q : String) (old : List String) (p : String) :
    namesOf ((q, old) :: es) p = if p = q then old else namesOf es p := by
  by_cases same : p = q
  · simp [namesOf, same]
  · simp [namesOf, List.lookup_cons, same, beq_false_of_ne same]

/-- Nothing is recorded under a path that is not listed. -/
theorem namesOf_of_notMem (new : path ∉ pathsOf es) : namesOf es path = [] := by
  have none : es.lookup path = none := List.lookup_eq_none_iff.mpr fun e he =>
    bne_iff_ne.mpr fun same => new (List.mem_map.mpr ⟨e, he, same.symm⟩)
  rw [namesOf, none, Option.getD_none]

/-- Entries are their paths with the names under them, if no path is listed twice. -/
theorem eq_map_pathsOf (distinct : (pathsOf es).Nodup) :
    es = (pathsOf es).map fun p => (p, namesOf es p) := by
  induction es with
  | nil => rfl
  | cons e rest ih =>
    obtain ⟨q, old⟩ := e
    obtain ⟨fresh, later⟩ := List.nodup_cons.mp distinct
    have others : (pathsOf rest).map (fun p => (p, namesOf ((q, old) :: rest) p)) = rest := by
      refine Eq.trans (List.map_congr_left fun p known => ?_) (ih later).symm
      have other : p ≠ q := fun same => fresh (same ▸ known)
      rw [namesOf_cons, if_neg other]
    rw [pathsOf_cons, List.map_cons, others, namesOf_cons, if_pos rfl]

/-- Reports with the same paths in the same order, and with the same names under each, are the
same. -/
theorem eq_of_shown (samePaths : r.paths = s.paths) (sameNames : ∀ p, r.names p = s.names p) :
    r = s := by
  apply Report.ext
  rw [eq_map_pathsOf r.distinct, eq_map_pathsOf s.distinct]
  change r.paths.map _ = s.paths.map _
  rw [samePaths]
  exact List.map_congr_left fun p _ => congrArg (Prod.mk p) (sameNames p)

/-- A report is valid exactly if it lists no path. -/
theorem isValid_iff : r.isValid = true ↔ r.paths = [] := by
  rw [isValid, List.isEmpty_iff, paths, pathsOf, List.map_eq_nil_iff]

/-! ## Merging -/

/-- To extend entries under a path adds names there and nowhere else. -/
theorem namesOf_extend (path : String) (ns : List String) (es : List (String × List String))
    (p : String) : namesOf (extend path ns es) p =
      namesOf es p ++ if p = path then ns else [] := by
  induction es with
  | nil => rw [extend, namesOf_cons]; rfl
  | cons e rest ih =>
    obtain ⟨q, old⟩ := e
    by_cases here : q = path
    · by_cases same : p = path <;> simp [extend, namesOf_cons, here, same]
    · by_cases found : p = q
      · simp [extend, namesOf_cons, here, found]
      · simpa [extend, namesOf_cons, here, found] using ih

/-- Further entries are gone through one path after the other. -/
theorem extendAll_cons (path : String) (ns : List String) (more es : List (String × List String)) :
    extendAll ((path, ns) :: more) es = extendAll more (extend path ns es) := rfl

/-- New paths come behind the known ones. -/
theorem pathsOf_extendAll {more : List (String × List String)} (distinct : (pathsOf more).Nodup)
    (es : List (String × List String)) : pathsOf (extendAll more es) =
      pathsOf es ++ (pathsOf more).filter fun p => !(pathsOf es).contains p := by
  induction more generalizing es with
  | nil => exact (List.append_nil _).symm
  | cons e rest ih =>
    obtain ⟨q, ns⟩ := e
    obtain ⟨fresh, later⟩ := List.nodup_cons.mp distinct
    rw [extendAll_cons, ih later, pathsOf_extend, pathsOf_cons]
    by_cases known : q ∈ pathsOf es
    · simp [known]
    · -- What comes later is not this path, so it is new exactly if it was new before.
      have others : (pathsOf rest).filter (fun p => !(pathsOf es ++ [q]).contains p) =
          (pathsOf rest).filter fun p => !(pathsOf es).contains p := by
        refine List.filter_congr fun p hp => ?_
        have other : p ≠ q := fun same => fresh (same ▸ hp)
        simp [other]
      rw [if_neg known, others, List.filter_cons_of_pos (by simpa using known), List.append_assoc,
        List.singleton_append]

/-- Further names come behind the known ones, path by path. -/
theorem namesOf_extendAll {more : List (String × List String)} (distinct : (pathsOf more).Nodup)
    (es : List (String × List String)) (p : String) :
    namesOf (extendAll more es) p = namesOf es p ++ namesOf more p := by
  induction more generalizing es with
  | nil => exact (List.append_nil _).symm
  | cons e rest ih =>
    obtain ⟨q, ns⟩ := e
    obtain ⟨fresh, later⟩ := List.nodup_cons.mp distinct
    rw [extendAll_cons, ih later, namesOf_extend, namesOf_cons, List.append_assoc]
    by_cases same : p = q
    · have absent : namesOf rest p = [] := namesOf_of_notMem (same ▸ fresh)
      rw [if_pos same, if_pos same, absent, List.append_nil]
    · rw [if_neg same, if_neg same, List.nil_append]

/-- The paths of a merged report are those of the first and the new ones of the second. -/
theorem paths_merge (r s : Report) :
    (r.merge s).paths = r.paths ++ s.paths.filter fun p => !r.paths.contains p :=
  pathsOf_extendAll s.distinct r.entries

/-- Under every path the names of the second report follow those of the first. -/
theorem names_merge (r s : Report) (p : String) : (r.merge s).names p = r.names p ++ s.names p :=
  namesOf_extendAll s.distinct r.entries p

theorem mem_paths_merge (r s : Report) (p : String) :
    p ∈ (r.merge s).paths ↔ p ∈ r.paths ∨ p ∈ s.paths := by
  by_cases known : p ∈ r.paths <;> simp [paths_merge r s, known]

/-- One more failure is the report of that failure, merged behind. -/
theorem add_eq_merge (path name : String) (r : Report) :
    r.add path name = r.merge (single path [name]) := rfl

theorem replace_of_notMem (new : path ∉ pathsOf es) :
    replace path ns es = es ++ [(path, ns)] := by
  induction es with
  | nil => rfl
  | cons e rest ih =>
    obtain ⟨other, absent⟩ := List.ne_and_not_mem_of_not_mem_cons new
    simp [replace, Ne.symm other, ih absent]

/-- Entries that list no path twice are all kept as they are. -/
theorem replaceAll_of_nodup {more : List (String × List String)}
    (distinct : (pathsOf (es ++ more)).Nodup) : replaceAll more es = es ++ more := by
  induction more generalizing es with
  | nil => exact (List.append_nil es).symm
  | cons e rest ih =>
    rw [List.append_cons] at distinct ⊢
    have new : e.1 ∉ pathsOf es := by
      unfold pathsOf at distinct
      rw [List.append_assoc, List.map_append] at distinct
      exact fun known => List.disjoint_of_nodup_append distinct known List.mem_cons_self
    rw [← ih distinct, ← replace_of_notMem new]
    rfl

/-- The entries of a report make up the report. -/
theorem ofEntries_entries (r : Report) : ofEntries r.entries = r :=
  Report.ext (replaceAll_of_nodup r.distinct)

/-- It does not matter how merged reports are bracketed. -/
theorem merge_assoc (r s t : Report) : (r.merge s).merge t = r.merge (s.merge t) := by
  refine eq_of_shown ?_ fun p => ?_
  · -- A path is new to the first two exactly if it is new to both.
    have new : t.paths.filter (fun p => !(r.merge s).paths.contains p) =
        (t.paths.filter fun p => !s.paths.contains p).filter fun p => !r.paths.contains p := by
      rw [List.filter_filter]
      refine List.filter_congr fun p _ => ?_
      by_cases known : p ∈ r.paths <;> simp [paths_merge r s, known]
    rw [paths_merge _ t, new, paths_merge r s, paths_merge r, paths_merge s t, List.filter_append,
      List.append_assoc]
  · rw [names_merge, names_merge, names_merge, names_merge, List.append_assoc]

/-- Nothing is added to the report of a success but the other one. -/
theorem success_merge (r : Report) : success.merge r = r := by
  refine eq_of_shown ?_ fun p => ?_
  · rw [paths_merge]
    exact List.filter_eq_self.mpr fun p _ => rfl
  · rw [names_merge]
    rfl

/-- Nothing is added by the report of a success. -/
theorem merge_success (r : Report) : r.merge success = r := rfl

/-! ## Failures on record -/

/-- Every constraint of the entries, with its path. -/
def recordedIn (es : List (String × List String)) : List (String × String) :=
  es.flatMap fun e => e.2.map fun name => (e.1, name)

/-- Every constraint in the report, with its path. -/
def recorded (r : Report) : List (String × String) := recordedIn r.entries

/-- The first failure is the first constraint on record. -/
theorem first?_eq_head? (r : Report) : r.first? = r.recorded.head? := by
  rw [first?, recorded, recordedIn, List.head?_flatMap]
  exact congrArg (fun f => r.entries.findSome? f) (funext fun e => List.head?_map.symm)

/-- Adding names keeps what is on record and adds them. -/
theorem recordedIn_extend (path : String) (ns : List String) (es : List (String × List String)) :
    (recordedIn (extend path ns es)).Perm (recordedIn es ++ ns.map fun name => (path, name)) := by
  induction es with
  | nil => simp [recordedIn, extend]
  | cons e rest ih =>
    obtain ⟨q, old⟩ := e
    by_cases here : q = path
    · simp only [recordedIn, extend, here, BEq.rfl, if_true, List.flatMap_cons, List.map_append,
        List.append_assoc]
      exact List.Perm.append_left _ List.perm_append_comm
    · simp only [recordedIn, extend, beq_eq_false_iff_ne.mpr here, Bool.false_eq_true, if_false,
        List.flatMap_cons, List.append_assoc]
      exact List.Perm.append_left _ ih

theorem recordedIn_extendAll (more es : List (String × List String)) :
    (recordedIn (extendAll more es)).Perm (recordedIn es ++ recordedIn more) := by
  induction more generalizing es with
  | nil => exact .of_eq (List.append_nil _).symm
  | cons e rest ih =>
    have step := (recordedIn_extend e.1 e.2 es).append_right (recordedIn rest)
    rw [List.append_assoc] at step
    exact (ih (extend e.1 e.2 es)).trans step

/-- Merging keeps every failure of both reports and adds none. -/
theorem recorded_merge (r s : Report) : (r.merge s).recorded.Perm (r.recorded ++ s.recorded) :=
  recordedIn_extendAll s.entries r.entries

/-! ## The first failure -/

/-- If every path has a name in two reports, so it has in the merged one. -/
theorem Named.merge (hr : r.Named) (hs : s.Named) : (r.merge s).Named := by
  suffices ∀ more es : List (String × List String), (∀ e ∈ more, e.2 ≠ []) → (∀ e ∈ es, e.2 ≠ []) →
      ∀ e ∈ extendAll more es, e.2 ≠ [] from this s.entries r.entries hs hr
  intro more
  induction more with
  | nil => exact fun _ _ named => named
  | cons e rest ih =>
    intro es given named
    obtain ⟨here, later⟩ := List.forall_mem_cons.mp given
    exact ih _ later (forall_mem_extend here named)

/-- Whatever further entries there are, the first entry keeps its place and its first name. -/
theorem extendAll_cons_right (path name : String) (ns : List String)
    (more es : List (String × List String)) :
    ∃ ns' es', extendAll more ((path, name :: ns) :: es) = (path, name :: ns') :: es' := by
  induction more generalizing ns es with
  | nil => exact ⟨ns, es, rfl⟩
  | cons e rest ih =>
    rw [extendAll_cons, extend]
    split
    · exact ih (ns ++ e.2) es
    · exact ih ns (extend e.1 e.2 es)

/-- Whatever is merged behind it, the first failure of a report stays the first one. -/
theorem Named.first?_merge (hr : r.Named) (s : Report) :
    (r.merge s).first? = r.first?.or s.first? := by
  obtain ⟨_ | ⟨⟨path, names⟩, rest⟩, distinct⟩ := r
  · exact congrArg first? (success_merge s)
  · cases names with
    | nil => exact absurd rfl (hr _ List.mem_cons_self)
    | cons name names =>
      obtain ⟨names', rest', kept⟩ := extendAll_cons_right path name names s.entries rest
      change (extendAll s.entries ((path, name :: names) :: rest)).findSome? _ = some (path, name)
      rw [kept]
      rfl

/-! ## How reports come about -/

/-- A way to make a report. -/
inductive Making where
  | success
  /-- From entries; of two under one path the later counts. -/
  | failure (entries : List (String × List String))
  | add (path name : String) (m : Making)
  | merge (m m' : Making)

namespace Making

/-- The report that is made. -/
def report : Making → Report
  | success => .success
  | failure entries => .ofEntries entries
  | add path name m => m.report.add path name
  | merge m m' => m.report.merge m'.report

/-- The paths that are listed on the way. -/
def listed : Making → List String
  | success => []
  | failure entries => (Report.ofEntries entries).paths
  | add path _ m => m.listed ++ [path]
  | merge m m' => m.listed ++ m'.listed

/-- The failures in the order in which they are recorded. -/
def chronicle : Making → List (String × String)
  | success => []
  | failure entries => (Report.ofEntries entries).recorded
  | add path name m => m.chronicle ++ [(path, name)]
  | merge m m' => m.chronicle ++ m'.chronicle

/-- No path is ever listed without a constraint. -/
def Filled : Making → Prop
  | success => True
  | failure entries => (Report.ofEntries entries).Named
  | add _ _ m => m.Filled
  | merge m m' => m.Filled ∧ m'.Filled

variable {m : Making}

/-- Every report can be made. -/
theorem exists_report (r : Report) : ∃ m : Making, m.report = r :=
  ⟨failure r.entries, ofEntries_entries r⟩

/-- The paths of a report are those listed on the way. -/
theorem mem_paths_report (m : Making) (p : String) : p ∈ m.report.paths ↔ p ∈ m.listed := by
  induction m with
  | success => rfl
  | failure entries => rfl
  | add path name m ih =>
    rw [report, add_eq_merge, mem_paths_merge, ih, listed, List.mem_append]
    rfl
  | merge m m' ih ih' => rw [report, mem_paths_merge, ih, ih', listed, List.mem_append]

/-- A report is valid exactly if nothing was listed on the way. -/
theorem isValid_report (m : Making) : m.report.isValid = true ↔ m.listed = [] := by
  rw [isValid_iff, List.eq_nil_iff_forall_not_mem, List.eq_nil_iff_forall_not_mem]
  exact forall_congr' fun p => not_congr (m.mem_paths_report p)

/-- What a report has on record is what was recorded, in the order of the paths. -/
theorem recorded_report (m : Making) : m.report.recorded.Perm m.chronicle := by
  induction m with
  | success => exact .nil
  | failure entries => exact .refl _
  | add path name m ih =>
    exact (recorded_merge m.report (single path [name])).trans (ih.append_right _)
  | merge m m' ih ih' => exact (recorded_merge _ _).trans (ih.append ih')

/-- In a report into which no path came without a constraint, every path has one. -/
theorem Filled.named (h : m.Filled) : m.report.Named := by
  induction m with
  | success => exact named_success
  | failure entries => exact h
  | add path name m ih => exact (ih h).add path name
  | merge m m' ih ih' => exact (ih h.1).merge (ih' h.2)

/-- The first failure of a report is the first one in time, if no path was listed before its first
constraint. -/
theorem first?_eq_chronicle (h : m.Filled) : m.report.first? = m.chronicle.head? := by
  induction m with
  | success => rfl
  | failure entries => exact first?_eq_head? _
  | add path name m ih =>
    rw [report, add_eq_merge, Named.first?_merge (Filled.named (m := m) h), ih h, chronicle,
      List.head?_append]
    rfl
  | merge m m' ih ih' =>
    rw [report, Named.first?_merge (Filled.named h.1), ih h.1, ih' h.2, chronicle,
      List.head?_append]

end Making

end SchoolRegistry.Report
