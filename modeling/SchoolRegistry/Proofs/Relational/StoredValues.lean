import Mathlib.Data.Option.Basic
import SchoolRegistry.Relational.Stored

/-!
# Values that columns hold

A value is a tree: sequences hold their members and tables the values of their entries. What stands
at a path into the tree (`Value.at?`) shows at its top whether it is a leaf, a term, a sequence of
so many members or a table with such keys (`Value.head`).

Storing works at every path in the same way (`at?_stored`): tops become what columns hold
(`Head.stored`), and nothing is added, left out or moved. So no term, tuple or set is left at any
depth, and a value without them is stored as it is (`stored_eq_self`). That storing twice is storing
once follows from these two.

Nothing is said here about instances of models, which are stored as documents, nor about objects,
which no column holds.
-/

namespace SchoolRegistry.Value

/-- The value is put together from scalars, terms, sequences and tables, to any depth. -/
inductive IsData : Value → Prop
  | null : IsData .null
  | flag (yes : Bool) : IsData (.flag yes)
  | whole (n : Int) : IsData (.whole n)
  | real (x : Double) : IsData (.real x)
  | text (s : String) : IsData (.text s)
  | choice (term : Choice) : IsData (.choice term)
  | day (d : Date) : IsData (.day d)
  | moment (m : Moment) : IsData (.moment m)
  | list {items : List Value} (each : ∀ v ∈ items, IsData v) : IsData (.list items)
  | tuple {items : List Value} (each : ∀ v ∈ items, IsData v) : IsData (.tuple items)
  | set {items : List Value} (each : ∀ v ∈ items, IsData v) : IsData (.set items)
  | table {entries : Fields} (each : ∀ e ∈ entries, IsData e.2) : IsData (.table entries)

/-! ## Paths into values -/

/-- What a value is at its top, apart from the values that it holds. -/
inductive Head where
  | leaf (v : Value)
  | term (t : Choice)
  | list (length : Nat)
  | tuple (length : Nat)
  | set (length : Nat)
  | table (keys : List String)

/-- The top of a value. -/
def head : Value → Head
  | choice t => .term t
  | list items => .list items.length
  | tuple items => .tuple items.length
  | set items => .set items.length
  | table entries => .table (entries.map Prod.fst)
  | v => .leaf v

/-- The values that a value holds directly, in their order. -/
def members : Value → List Value
  | list items => items
  | tuple items => items
  | set items => items
  | table entries => entries.map Prod.snd
  | _ => []

/-- What the numbers of members lead to, one after the other. -/
def at? : List Nat → Value → Option Value
  | [], v => some v
  | i :: path, v => v.members[i]?.bind (at? path)

/-- The top as a column holds it: terms become texts and all sequences lists of the same length. -/
def Head.stored : Head → Head
  | term t => leaf (text t.text)
  | tuple length => list length
  | set length => list length
  | h => h

variable {v w : Value} {path : List Nat}

/-- The members of data are data. -/
theorem IsData.members (data : v.IsData) : ∀ w ∈ v.members, w.IsData := by
  cases data with
  | list each => exact each
  | tuple each => exact each
  | set each => exact each
  | table each => exact List.forall_mem_map.mpr each
  | _ => exact nofun

/-- What is found in data is data. -/
theorem IsData.at? (data : v.IsData) (there : v.at? path = some w) : w.IsData := by
  induction path generalizing v with
  | nil => exact Option.some.inj there ▸ data
  | cons i path ih =>
    obtain ⟨member, found, there⟩ := Option.bind_eq_some_iff.mp there
    exact ih (data.members member (List.mem_of_getElem? found)) there

/-! ## What storing does at each path -/

/-- The items of a list are stored one by one. -/
theorem storedItems_eq_map (items : List Value) : storedItems items = items.map stored := by
  induction items with
  | nil => rfl
  | cons v items ih => rw [storedItems, ih, List.map_cons]

/-- The entries of an object are stored one by one, under their names. -/
theorem storedEntries_eq_map (entries : Fields) :
    storedEntries entries = entries.map fun e => (e.1, e.2.stored) := by
  induction entries with
  | nil => rfl
  | cons e entries ih => rw [storedEntries, ih, List.map_cons]

/-- The members of a stored value are the stored members. -/
theorem members_stored (data : v.IsData) : v.stored.members = v.members.map stored := by
  cases data with
  | list => exact storedItems_eq_map _
  | tuple => exact storedItems_eq_map _
  | set => exact storedItems_eq_map _
  | table =>
    rw [stored, storedEntries_eq_map, members, members, List.map_map, List.map_map]
    rfl
  | _ => rfl

/-- The head of a stored value is the stored head. -/
theorem head_stored (data : v.IsData) : v.stored.head = v.head.stored := by
  cases data with
  | list | tuple | set =>
    simp only [stored, storedItems_eq_map, head, List.length_map, Head.stored]
  | table =>
    simp only [stored, storedEntries_eq_map, head, List.map_map, Head.stored]
    rfl
  | _ => rfl

/-- At every path stands what was there, stored. -/
theorem at?_stored (data : v.IsData) : v.stored.at? path = (v.at? path).map stored := by
  induction path generalizing v with
  | nil => rfl
  | cons i path ih =>
    rw [at?, at?, members_stored data, List.getElem?_map]
    cases found : v.members[i]? with
    | none => rfl
    | some member => exact ih (data.members member (List.mem_of_getElem? found))

/-- What is stored is data again. -/
theorem isData_stored (data : v.IsData) : v.stored.IsData := by
  induction data with
  | choice t => exact .text t.text
  | list each ih | tuple each ih | set each ih =>
    rw [stored, storedItems_eq_map]
    exact .list (List.forall_mem_map.mpr ih)
  | table each ih =>
    rw [stored, storedEntries_eq_map]
    exact .table (List.forall_mem_map.mpr ih)
  | _ => constructor

/-! ## Tops at all paths determine a value -/

/-- The value with the given top and members. -/
def ofHead : Head → List Value → Value
  | .leaf v, _ => v
  | .term t, _ => .choice t
  | .list _, members => .list members
  | .tuple _, members => .tuple members
  | .set _, members => .set members
  | .table keys, members => .table (keys.zip members)

/-- A value is made of its head and its members. -/
theorem ofHead_head (v : Value) : ofHead v.head v.members = v := by
  cases v with
  | table entries => exact congrArg table (List.zip_of_prod rfl rfl).symm
  | _ => rfl

/-- What holds of data if it holds of its members holds of all data. -/
theorem IsData.ofMembers {motive : (v : Value) → v.IsData → Prop}
    (step : ∀ (v : Value) (data : v.IsData),
      (∀ (w : Value) (here : w ∈ v.members), motive w (data.members w here)) → motive v data)
    (data : v.IsData) : motive v data := by
  induction data with
  | list each ih | tuple each ih | set each ih => exact step _ _ ih
  | table each ih =>
    refine step _ _ fun w here => ?_
    obtain ⟨e, given, rfl⟩ := List.mem_map.mp here
    exact ih e given
  | _ => exact step _ _ nofun

/-- Data that show the same tops at all paths are the same. -/
theorem eq_of_heads (data : v.IsData)
    (same : ∀ path, (v.at? path).map head = (w.at? path).map head) : v = w := by
  induction data using IsData.ofMembers generalizing w with
  | step v data ih =>
  have tops : v.head = w.head := Option.some.inj (same [])
  have shown : v.members.map head = w.members.map head :=
    List.ext_getElem? fun i => by simpa [Value.at?, ← Option.map_bind] using same [i]
  have length : v.members.length = w.members.length := by
    simpa using congrArg List.length shown
  have members : v.members = w.members := List.ext_getElem length fun i here there =>
    ih v.members[i] (List.getElem_mem here) fun path => by
      simpa [Value.at?, here, there] using same (i :: path)
  rw [← ofHead_head v, tops, members, ofHead_head]

/-! ## Values that are stored as they are -/

/-- Neither a term nor a sequence other than a list. -/
def Head.IsStored : Head → Prop
  | term _ | tuple _ | set _ => False
  | _ => True

/-- A stored head is one that can be stored. -/
theorem Head.isStored_stored (h : Head) : h.stored.IsStored := by
  cases h <;> trivial

/-- To store such a head again changes nothing. -/
theorem Head.IsStored.stored_eq {h : Head} (stored : h.IsStored) : h.stored = h := by
  cases h <;> first | rfl | exact stored.elim

theorem heads_stored (data : v.IsData) (path : List Nat) :
    (v.stored.at? path).map head = ((v.at? path).map head).map Head.stored := by
  rw [at?_stored data]
  cases found : v.at? path with
  | none => rfl
  | some w => exact congrArg some (head_stored (data.at? found))

/-- What stands anywhere in a stored value is neither a term nor a tuple nor a set. -/
theorem isStored_of_stored (data : v.IsData) (there : v.stored.at? path = some w) :
    w.head.IsStored := by
  rw [at?_stored data] at there
  obtain ⟨before, found, rfl⟩ := Option.map_eq_some_iff.mp there
  rw [head_stored (data.at? found)]
  exact Head.isStored_stored _

/-- Data without terms, tuples and sets at any depth are stored as they are. -/
theorem stored_eq_self (data : v.IsData)
    (plain : ∀ path w, v.at? path = some w → w.head.IsStored) : v.stored = v := by
  refine (eq_of_heads data fun path => ?_).symm
  rw [heads_stored data]
  cases found : v.at? path with
  | none => rfl
  | some w => exact congrArg some (plain path w found).stored_eq.symm

/-- Storing data leaves no term, tuple or set at any depth: terms become their texts, tuples and
sets lists. Every other leaf stays, and so do the order and the number of members everywhere and
the keys of tables. Storing twice is storing once. -/
theorem stored_completely (data : v.IsData) :
    (∀ path w, v.stored.at? path = some w →
      (∀ t, w ≠ choice t) ∧ (∀ items, w ≠ tuple items) ∧ ∀ items, w ≠ set items) ∧
    (∀ path, (v.stored.at? path).map head = ((v.at? path).map head).map Head.stored) ∧
    v.stored.stored = v.stored := by
  refine ⟨fun path w there => ?_, heads_stored data,
    stored_eq_self (isData_stored data) fun _ _ => isStored_of_stored data⟩
  have plain := isStored_of_stored data there
  refine ⟨?_, ?_, ?_⟩ <;> rintro x rfl <;> exact plain

/-- A table with a tuple, in which a set of terms and texts stands. -/
theorem stored_completely_nested :
    let teacher := choice (.roleKind .teacher)
    let v := table [("rollenart", tuple [teacher, set [whole 1, teacher], null])]
    v.IsData ∧
      v.stored = table [("rollenart", list [text "LEHR", list [whole 1, text "LEHR"], null])] ∧
      v.stored.stored = v.stored := by
  intro teacher v
  have data : v.IsData := by
    simp only [v, teacher]
    refine .table (List.forall_mem_singleton.mpr (.tuple ?_))
    simp only [List.forall_mem_cons]
    exact ⟨.choice _, .set (by simp [IsData.whole, IsData.choice]), .null, nofun⟩
  exact ⟨data, rfl, (stored_completely data).2.2⟩

end SchoolRegistry.Value
