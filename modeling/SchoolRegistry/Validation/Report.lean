import SchoolRegistry.Failure
import SchoolRegistry.Record.Model

/-!
# Reports

The failures found in a candidate: for every faulty path the names of the
constraints that failed there, in the order in which they were checked. No path
is listed twice. Reports are merged path by path; the empty report says that
nothing failed. The data that a model refuses are reported as well
(`Model.validate`).
-/

namespace SchoolRegistry

/-! ## Entries -/

namespace Report

/-- The paths of entries. -/
def pathsOf (es : List (String × List String)) : List String := es.map (·.1)

theorem pathsOf_cons (e : String × List String) (es : List (String × List String)) :
    pathsOf (e :: es) = e.1 :: pathsOf es := rfl

/-- Entries with further names under a path, which is added at the end if it is
not there yet. -/
def extend (path : String) (names : List String) :
    List (String × List String) → List (String × List String)
  | [] => [(path, names)]
  | (p, old) :: rest =>
    if p == path then (p, old ++ names) :: rest else (p, old) :: extend path names rest

/-- Entries in which a path has exactly the given names. -/
def replace (path : String) (names : List String) :
    List (String × List String) → List (String × List String)
  | [] => [(path, names)]
  | (p, old) :: rest =>
    if p == path then (p, names) :: rest else (p, old) :: replace path names rest

/-- Entries with all names of further entries. -/
def extendAll (more es : List (String × List String)) : List (String × List String) :=
  more.foldl (fun kept e => extend e.1 e.2 kept) es

/-- Entries in which the paths of further entries have exactly the names given
there. -/
def replaceAll (more es : List (String × List String)) : List (String × List String) :=
  more.foldl (fun kept e => replace e.1 e.2 kept) es

/-- A path that is not there yet comes last. -/
theorem pathsOf_extend (path : String) (names : List String) (es : List (String × List String)) :
    pathsOf (extend path names es) =
      pathsOf es ++ if path ∈ pathsOf es then [] else [path] := by
  induction es with
  | nil => rfl
  | cons e rest ih =>
    by_cases here : e.1 = path
    · simp [extend, pathsOf_cons, here]
    · simp [extend, pathsOf_cons, here, ih, Ne.symm here]

/-- Replacing names and adding to them lead to the same paths. -/
theorem pathsOf_replace (path : String) (names : List String) (es : List (String × List String)) :
    pathsOf (replace path names es) = pathsOf (extend path names es) := by
  induction es with
  | nil => rfl
  | cons e rest ih =>
    unfold replace extend
    split
    · rfl
    · exact congrArg (e.1 :: ·) ih

/-- Adding names lists no path twice. -/
theorem nodup_extend {es : List (String × List String)} (path : String) (names : List String)
    (distinct : (pathsOf es).Nodup) : (pathsOf (extend path names es)).Nodup := by
  rw [pathsOf_extend]
  split
  case isTrue => rwa [List.append_nil]
  case isFalse new =>
    refine List.nodup_append.mpr ⟨distinct, List.pairwise_singleton _ _, fun p known q last => ?_⟩
    rw [List.mem_singleton.mp last]
    exact fun same => new (same ▸ known)

/-- Nor does adding the names of further entries. -/
theorem nodup_extendAll {es : List (String × List String)} (more : List (String × List String))
    (distinct : (pathsOf es).Nodup) : (pathsOf (extendAll more es)).Nodup := by
  induction more generalizing es with
  | nil => exact distinct
  | cons e more ih => exact ih (nodup_extend e.1 e.2 distinct)

/-- Replacing names lists no path twice. -/
theorem nodup_replaceAll {es : List (String × List String)} (more : List (String × List String))
    (distinct : (pathsOf es).Nodup) : (pathsOf (replaceAll more es)).Nodup := by
  induction more generalizing es with
  | nil => exact distinct
  | cons e more ih =>
    refine ih ?_
    rw [pathsOf_replace]
    exact nodup_extend e.1 e.2 distinct

end Report

/-! ## Reports -/

/-- Constraint names under the paths at which they failed. -/
@[ext]
structure Report where
  entries : List (String × List String)
  /-- No path is listed twice. -/
  distinct : (Report.pathsOf entries).Nodup
deriving DecidableEq

namespace Report

/-- The report that nothing failed. -/
def success : Report := ⟨[], List.nodup_nil⟩

/-- Whether no path is reported. -/
def isValid (r : Report) : Bool := r.entries.isEmpty

/-- The report with the given names under one path. -/
def single (path : String) (names : List String) : Report :=
  ⟨[(path, names)], List.pairwise_singleton _ _⟩

/-- The report with the given entries; of two under one path the later counts,
at the place of the earlier. -/
def ofEntries (entries : List (String × List String)) : Report :=
  ⟨replaceAll entries [], nodup_replaceAll entries List.nodup_nil⟩

/-- Both reports in one. -/
def merge (r s : Report) : Report :=
  ⟨extendAll s.entries r.entries, nodup_extendAll s.entries r.distinct⟩

/-- The report with one more failure. -/
def add (path name : String) (r : Report) : Report :=
  ⟨extend path [name] r.entries, nodup_extend path [name] r.distinct⟩

/-- The first failure of the first path that has any. -/
def first? (r : Report) : Option (String × String) :=
  r.entries.findSome? fun e => e.2.head?.map fun name => (e.1, name)

/-- The first failure; a report without any has none. -/
def first (r : Report) : Except Failure (String × String) :=
  match r.first? with
  | some f => .ok f
  | none => .error (.argument .emptyReport)

/-- The path under which a fault of the whole is reported. -/
def wholePath : String := "__root__"

/-- The report with one message about the whole. -/
def whole (message : String) : Report := single wholePath [message]

/-- The printed form of a report. -/
def printed (r : Report) : String :=
  (Value.table (r.entries.map fun e => (e.1, .list (e.2.map .text)))).printed

/-- The report of faults in a client's data. -/
def ofFaults (faults : List Fault) : Report :=
  faults.foldl (fun r f =>
    r.add (if f.location == "" then wholePath else f.location) f.code.text) success

/-- The refusal for the first failure of the report. -/
def refusal (entity : String) (r : Report) : Except Failure Refusal :=
  r.first.map fun f => .invalidAttribute entity f.1 f.2 none

end Report

/-- The report on data for a model. A failure that refuses nothing is passed
on. -/
def Model.validate {σ : Type} (m : Model σ) (data : Fields) : Except Failure Report :=
  match m.parse data with
  | .ok _ => .ok .success
  | .error (.invalid faults) => .ok (.ofFaults faults)
  | .error e => .error e

end SchoolRegistry
