import SchoolRegistry.Proofs.Registry.Course

/-!
# What a replacement leaves

Over a store that nothing disturbs a replacement either refuses with the first rule violated and
changes nothing, or it is carried out. `Replaced` says what it leaves then, without a word about
removals and additions: the person's keys are those sent, each once; what has one of them stays
the item it was; what belongs to others stays as it is; and what is new has a new identifier.

The proof computes the shelf: the removals leave those items that are not obsolete
(`shelf_drops`), and the additions come after these, one for each missing key (`shelf_adds`).
-/

namespace SchoolRegistry

open Assignment (heldBy mem_heldBy)

/-- The identifiers that the supply will issue are new and different. -/
structure Memory.Fresh (supply : Supply) (c : Collection) (m : Memory) : Prop where
  unused : ∀ n, m.drawn.ids c ≤ n → ∀ x ∈ m.shelves c, Entity.id x ≠ some (supply.id c n)
  once : ∀ i j, m.drawn.ids c ≤ i → m.drawn.ids c ≤ j → supply.id c i = supply.id c j → i = j

/-- Counting issues no identifier twice. -/
theorem Supply.counting_id_injective {start : Stamp} {c : Collection} {i j : Nat}
    (same : (counting start).id c i = (counting start).id c j) : i = j := by
  have numerals : (i + 1).repr.toList = (j + 1).repr.toList := by
    have texts := congrArg String.toList same
    simp only [counting, String.toList_append] at texts
    exact List.append_cancel_left texts
  have numbers := congrArg (fun digits => Nat.ofDigitChars 10 digits 0) numerals
  simp only [Nat.toList_repr, Nat.ofDigitChars_toDigits, Nat.reduceLT, Nat.reduceLeDiff] at numbers
  omega

/-- An empty store that counts has all identifiers to come. -/
theorem Memory.fresh_empty (start : Stamp) (c : Collection) (enlisted : List Collection) :
    (Memory.empty enlisted).Fresh (.counting start) c :=
  ⟨fun _ _ _ h => absurd h List.not_mem_nil, fun _ _ _ _ => Supply.counting_id_injective⟩

/-- An item without an identifier comes last on its shelf, under the next one issued, and what the
supply will issue stays new. -/
theorem Memory.Fresh.save {supply : Supply} {c : Collection} {m : Memory}
    (fresh : m.Fresh supply c) {item : c.Item} (new : Entity.id item = none) :
    (m.save supply c item).2.shelves c = m.shelves c ++ [Memory.storedAs supply c item m] ∧
      Entity.id (Memory.storedAs supply c item m) = some (supply.id c (m.drawn.ids c)) ∧
      (m.save supply c item).2.drawn.ids c = m.drawn.ids c + 1 ∧
      (m.save supply c item).2.Fresh supply c := by
  have issued : Memory.idFor supply c item m = supply.id c (m.drawn.ids c) := by
    rw [Memory.idFor, new, Option.getD_none]
  have stored : Entity.id (Memory.storedAs supply c item m) =
      some (supply.id c (m.drawn.ids c)) := by
    rw [Memory.id_storedAs, issued]
  have ids : (m.save supply c item).2.drawn.ids c = m.drawn.ids c + 1 := by
    simp [Memory.save_eq, new, DrawnFor.drawId, DrawnFor.drawTime]
  have shelf : (m.save supply c item).2.shelves c =
      m.shelves c ++ [Memory.storedAs supply c item m] := by
    rw [Memory.shelves_save, issued]
    exact Memory.store_of_new (fresh.unused _ (Nat.le_refl _))
  refine ⟨shelf, stored, ids, ⟨fun n le x hx => ?_, fun i j hi hj => ?_⟩⟩
  · rw [ids] at le
    rw [shelf] at hx
    rcases List.mem_append.mp hx with hx | hx
    · exact fresh.unused n (by omega) x hx
    · cases List.mem_singleton.mp hx
      rw [stored]
      intro same
      have := fresh.once _ n (Nat.le_refl _) (by omega) (Option.some.inj same)
      omega
  · rw [ids] at hi hj
    exact fresh.once i j (by omega) (by omega)

namespace Replacement

variable {supply : Supply} {r : Replacement} {m : Memory}

/-! ## The removals -/

/-- Removing an item from a part of a keyed shelf removes that item and no other. -/
theorem remove_eq_filter {items rest : List Assignment} {a : Assignment}
    (keyed : Memory.Keyed items) (sub : rest ⊆ items) (ha : a ∈ items) :
    Memory.remove (a.id.getD "") rest = rest.filter fun x => x ≠ a := by
  refine List.filter_congr fun x hx => ?_
  obtain ⟨id, hid⟩ := keyed.identified a ha
  have named : a.id.getD "" = id := by rw [show a.id = some id from hid]; rfl
  rw [named, Bool.eq_iff_iff]
  simp only [Bool.not_eq_true', Bool.eq_false_iff, Memory.hasId_iff, decide_eq_true_eq, ne_eq]
  refine not_congr ⟨fun same => keyed.eq_of_id (sub hx) ha (same.trans hid.symm), ?_⟩
  rintro rfl
  exact hid

/-- The removals leave what is not removed, and draw nothing. -/
theorem shelf_drops {items as : List Assignment} (keyed : Memory.Keyed items) (has : as ⊆ items)
    (sub : m.shelves .assignments ⊆ items) :
    (afterAll supply (as.map .drop) m).shelves .assignments =
        (m.shelves .assignments).filter (fun x => x ∉ as) ∧
      (afterAll supply (as.map .drop) m).drawn = m.drawn := by
  induction as generalizing m with
  | nil => simp [afterAll]
  | cons a as ih =>
    have removed : ((Write.drop a).result supply m).shelves .assignments =
        (m.shelves .assignments).filter fun x => x ≠ a := by
      rw [Write.result_drop]
      exact remove_eq_filter keyed sub (has List.mem_cons_self)
    obtain ⟨shelf, drawn⟩ := ih (m := (Write.drop a).result supply m)
      (fun x hx => has (List.mem_cons_of_mem _ hx))
      (fun x hx => sub (List.mem_filter.mp (removed ▸ hx)).1)
    rw [List.map_cons, afterAll_cons]
    refine ⟨?_, drawn⟩
    rw [shelf, removed, List.filter_filter]
    refine List.filter_congr fun x _ => ?_
    simp [Bool.and_comm]

/-! ## The additions -/

/-- An addition comes last on the shelf, and what the supply will issue stays new. -/
theorem add_of_fresh (k : Assignment.Key) (fresh : m.Fresh supply .assignments) :
    ∃ a : Assignment, ((Write.add k).result supply m).shelves .assignments =
        m.shelves .assignments ++ [a] ∧
      a.key = k ∧ a.version = 1 ∧
      a.id = some (supply.id .assignments (m.drawn.ids .assignments)) ∧
      ((Write.add k).result supply m).drawn.ids .assignments = m.drawn.ids .assignments + 1 ∧
      ((Write.add k).result supply m).Fresh supply .assignments := by
  have new : Entity.id (Assignment.ofKey k) = none := rfl
  obtain ⟨shelf, stored, ids, fresh'⟩ := Memory.Fresh.save (c := .assignments) fresh new
  exact ⟨_, shelf, rfl, rfl, stored, ids, fresh'⟩

/-- The additions come last on the shelf, one for each key. -/
theorem shelf_adds (ks : List Assignment.Key) (fresh : m.Fresh supply .assignments) :
    ∃ added : List Assignment,
      (afterAll supply (ks.map .add) m).shelves .assignments = m.shelves .assignments ++ added ∧
        added.map Assignment.key = ks ∧
        ∀ a ∈ added, a.version = 1 ∧
          ∃ n, m.drawn.ids .assignments ≤ n ∧ a.id = some (supply.id .assignments n) := by
  induction ks generalizing m with
  | nil => exact ⟨[], (List.append_nil _).symm, rfl, fun _ h => absurd h List.not_mem_nil⟩
  | cons k ks ih =>
    obtain ⟨a, shelf, key, version, id, ids, fresh'⟩ := add_of_fresh k fresh
    obtain ⟨added, shelf', keys, each⟩ := ih fresh'
    refine ⟨a :: added, ?_, ?_, ?_⟩
    · rw [List.map_cons, afterAll_cons, shelf', shelf, List.append_assoc]
      rfl
    · rw [List.map_cons, key, keys]
    · intro b hb
      rcases List.mem_cons.mp hb with rfl | hb
      · exact ⟨version, _, Nat.le_refl _, id⟩
      · obtain ⟨one, n, le, hid⟩ := each b hb
        exact ⟨one, n, by omega, hid⟩

/-! ## No removal fails -/

/-- Before a removal only removals are made. -/
theorem drops_before {done rest : List Write} {a : Assignment}
    (split : r.writes = done ++ .drop a :: rest) :
    ∃ as later, r.obsolete = as ++ a :: later ∧ done = as.map .drop := by
  have noAddition : Write.drop a ∉ r.missing.map Write.add := by simp
  rcases List.append_eq_append_iff.mp split with ⟨front, -, adds⟩ | ⟨back, drops, adds⟩
  · exact absurd (adds ▸ by simp) noAddition
  · cases back with
    | nil =>
      rw [List.nil_append] at adds
      exact absurd (adds ▸ List.mem_cons_self) noAddition
    | cons w back =>
      obtain ⟨as, tail, obsolete, dropped, rest'⟩ := List.map_eq_append_iff.mp drops
      obtain ⟨b, later, rfl, first, -⟩ := List.map_eq_cons_iff.mp rest'
      cases (List.cons.inj adds).1.trans first.symm
      exact ⟨as, later, obsolete, dropped.symm⟩

/-- Without a fault every removal finds what it is to remove. -/
theorem not_isVoid {done rest : List Write} {w : Write}
    (keyed : Memory.Keyed (m.shelves .assignments))
    (split : (r.against (m.shelves .assignments)).writes = done ++ w :: rest) :
    ¬w.IsVoid (afterAll supply done m) := by
  cases w with
  | add k => exact id
  | drop a =>
    obtain ⟨as, later, obsolete, rfl⟩ := drops_before split
    have stored : ∀ x ∈ (r.against (m.shelves .assignments)).obsolete,
        x ∈ m.shelves .assignments := fun x hx => (mem_heldBy.mp (mem_obsolete.mp hx).1).1
    rw [obsolete] at stored
    obtain ⟨shelf, -⟩ : _ ∧ (afterAll supply _ m).drawn = m.drawn :=
      shelf_drops keyed (fun x hx => stored x (List.mem_append_left _ hx)) (List.Subset.refl _)
    have once : (as ++ a :: later).Nodup := by
      rw [← obsolete]
      exact (keyed.distinct.of_map.filter _).filter _
    have first : a ∉ as := fun h => (List.nodup_append.mp once).2.2 a h a List.mem_cons_self rfl
    have there : a ∈ m.shelves .assignments := stored a (by simp)
    obtain ⟨id, hid⟩ := keyed.identified a there
    intro void
    refine List.find?_eq_none.mp void a ?_ ?_
    · rw [shelf]
      exact List.mem_filter.mpr ⟨there, by simpa using first⟩
    · rw [show a.id = some id from hid]
      exact Memory.hasId_iff.mpr hid

/-! ## The shelf as a whole -/

/-- The writes leave what is not removed, and after it an item for each missing key. -/
theorem shelf_writes (keyed : Memory.Keyed (m.shelves .assignments))
    (fresh : m.Fresh supply .assignments) :
    ∃ added : List Assignment,
      (afterAll supply (r.against (m.shelves .assignments)).writes m).shelves .assignments =
          r.remaining (m.shelves .assignments) ++ added ∧
        added.map Assignment.key = (r.against (m.shelves .assignments)).missing ∧
        ∀ a ∈ added, a.version = 1 ∧
          ∃ n, m.drawn.ids .assignments ≤ n ∧ a.id = some (supply.id .assignments n) := by
  have stored : (r.against (m.shelves .assignments)).obsolete ⊆ m.shelves .assignments :=
    fun x hx => (mem_heldBy.mp (mem_obsolete.mp hx).1).1
  obtain ⟨shelf, drawn⟩ : _ ∧ (afterAll supply _ m).drawn = m.drawn :=
    shelf_drops keyed stored (List.Subset.refl _)
  have fresh' : (afterAll supply
      ((r.against (m.shelves .assignments)).obsolete.map .drop) m).Fresh supply .assignments := by
    refine ⟨fun n le x hx => ?_, fun i j hi hj => ?_⟩
    · rw [drawn] at le
      rw [shelf] at hx
      exact fresh.unused n le x (List.mem_filter.mp hx).1
    · rw [drawn] at hi hj
      exact fresh.once i j hi hj
  obtain ⟨added, shelf', keys, each⟩ :=
    shelf_adds (r.against (m.shelves .assignments)).missing fresh'
  rw [drawn] at each
  exact ⟨added, by rw [writes, afterAll_append, shelf', shelf, remaining], keys, each⟩

/-- What a replacement that is carried out makes of the stored assignments, and what it returns. -/
structure Replaced (r : Replacement) (before after returned : List Assignment) : Prop where
  /-- The person has every key that was sent, and no other. -/
  keys : ∀ k, k ∈ (heldBy r.personId after).map Assignment.key ↔ k ∈ r.sent.map Assignment.key
  /-- The person has no key twice. -/
  distinct : ((heldBy r.personId after).map Assignment.key).Nodup
  /-- The person's assignments with keys that were sent are the same as before. -/
  kept : ∀ a ∈ heldBy r.personId before, a.key ∈ r.sent.map Assignment.key → a ∈ after
  /-- The assignments of others are the same as before. -/
  others : after.filter (fun a => a.personId ≠ r.personId) =
    before.filter fun a => a.personId ≠ r.personId
  /-- What is added has a new identifier and the first version. -/
  added : ∀ a ∈ after, a ∉ before →
    a.version = 1 ∧ ∃ id, a.id = some id ∧ ∀ b ∈ before, b.id ≠ some id
  /-- Every item has an identifier of its own. -/
  keyed : Memory.Keyed after
  returned : returned = heldBy r.personId after

/-- Of the person there are the keys that were sent. -/
theorem mem_keys_left {items added : List Assignment} {k : Assignment.Key}
    (own : ∀ a ∈ r.sent, a.personId = r.personId)
    (keys : added.map Assignment.key = (r.against items).missing) :
    k ∈ (heldBy r.personId (r.remaining items ++ added)).map Assignment.key ↔
      k ∈ r.sent.map Assignment.key := by
  constructor
  · intro h
    obtain ⟨a, ha, rfl⟩ := List.mem_map.mp h
    obtain ⟨there, person⟩ := mem_heldBy.mp ha
    rcases List.mem_append.mp there with left | new
    · exact (mem_remaining.mp left).2 person
    · have missing : a.key ∈ (r.against items).missing := keys ▸ List.mem_map_of_mem new
      exact (mem_missing.mp missing).1
  · intro sent
    by_cases stored : k ∈ (heldBy r.personId items).map Assignment.key
    · obtain ⟨a, ha, rfl⟩ := List.mem_map.mp stored
      obtain ⟨there, person⟩ := mem_heldBy.mp ha
      have left : a ∈ r.remaining items := mem_remaining.mpr ⟨there, fun _ => sent⟩
      exact List.mem_map_of_mem (mem_heldBy.mpr ⟨List.mem_append_left _ left, person⟩)
    · have missing : k ∈ (r.against items).missing := mem_missing.mpr ⟨sent, stored⟩
      have person : k.personId = r.personId :=
        personId_of_missing (r := r.against items) own missing
      rw [← keys] at missing
      obtain ⟨a, ha, rfl⟩ := List.mem_map.mp missing
      exact List.mem_map_of_mem (mem_heldBy.mpr ⟨List.mem_append_right _ ha, person⟩)

/-- What belongs to others stays, and nothing is added to it. -/
theorem others_left {items added : List Assignment}
    (own : ∀ a ∈ r.sent, a.personId = r.personId)
    (keys : added.map Assignment.key = (r.against items).missing) :
    (r.remaining items ++ added).filter (fun a => a.personId ≠ r.personId) =
      items.filter fun a => a.personId ≠ r.personId := by
  have none : added.filter (fun a => a.personId ≠ r.personId) = [] := by
    refine List.filter_eq_nil_iff.mpr fun a ha => ?_
    have missing : a.key ∈ (r.against items).missing := keys ▸ List.mem_map_of_mem ha
    have person : a.personId = r.personId := personId_of_missing (r := r.against items) own missing
    simp [person]
  rw [List.filter_append, none, List.append_nil, remaining, List.filter_filter]
  refine List.filter_congr fun a _ => ?_
  by_cases person : a.personId = r.personId
  · simp [person]
  · have needed : a ∉ (r.against items).obsolete :=
      fun h => person (mem_heldBy.mp (mem_obsolete.mp h).1).2
    simp [person, needed]

/-- A replacement whose writes are all made leaves what it is to leave. -/
theorem replaced_afterAll (own : ∀ a ∈ r.sent, a.personId = r.personId)
    (keyed : Memory.Keyed (m.shelves .assignments))
    (distinct : ((m.shelves .assignments).map Assignment.key).Nodup)
    (fresh : m.Fresh supply .assignments) {after : List Assignment}
    (left : after =
      (afterAll supply (r.against (m.shelves .assignments)).writes m).shelves .assignments) :
    Replaced r (m.shelves .assignments) after (heldBy r.personId after) := by
  obtain ⟨added, shelf, keys, each⟩ := shelf_writes (r := r) keyed fresh
  have apart : (after.map Assignment.key).Nodup := by
    rw [left]
    exact nodup_firstWrites own (List.append_nil _).symm distinct
  have keyed' : Memory.Keyed after := by
    rw [left]
    exact keyed_afterAll _ keyed
  rw [shelf] at left
  refine ⟨fun k => ?_, apart.sublist (List.filter_sublist.map _), ?_, ?_, ?_, keyed', rfl⟩
  · rw [left]
    exact mem_keys_left own keys
  · intro a ha sent
    rw [left]
    exact List.mem_append_left _ (mem_remaining.mpr ⟨(mem_heldBy.mp ha).1, fun _ => sent⟩)
  · rw [left]
    exact others_left own keys
  · intro a there absent
    rw [left] at there
    rcases List.mem_append.mp there with kept | new
    · exact absurd (mem_remaining.mp kept).1 absent
    · obtain ⟨version, n, le, id⟩ := each a new
      exact ⟨version, _, id, fun b hb => fresh.unused n le b hb⟩

/-- Over a store that nothing disturbs a replacement is refused by the first rule violated, or all
its writes are made. -/
theorem ends_quiet (inUnitOfWork : Bool) (r : Replacement)
    (keyed : Memory.Keyed (m.shelves .assignments)) :
    (Memory.engine supply).Ends (r.apply inUnitOfWork) m fun x m' =>
      match (r.against (m.shelves .assignments)).violation? with
      | some refusal => x = .ok (.error refusal) ∧ m' = m
      | none => x = .ok (.ok (heldBy r.personId (m'.shelves .assignments))) ∧
          m' = afterAll supply (r.against (m.shelves .assignments)).writes m := by
  refine (Monitored.ends_undisturbed (m := .under [] m) rfl).mp ?_
  refine (ends_apply r fun d hd => absurd hd List.not_mem_nil).imp ?_
  rintro _ m' ⟨y, rfl, course⟩
  cases course with
  | unread disturbed => exact absurd rfl disturbed
  | refused violated made store =>
    rw [Monitored.store_under] at violated
    rw [violated]
    exact ⟨rfl, store⟩
  | cut satisfied split void => exact absurd (void rfl) (not_isVoid keyed split)
  | unseen satisfied disturbed => exact absurd rfl disturbed
  | carriedOut satisfied made store =>
    rw [Monitored.store_under] at satisfied
    rw [satisfied]
    exact ⟨rfl, store⟩

/-- A replacement that nothing disturbs refuses with the first rule violated and changes nothing,
or it makes of the stored assignments what it is to make of them. -/
theorem refuses_or_replaces (inUnitOfWork : Bool) (personId : String) (lastModified : Moment)
    (count : Int) (sent : List Assignment) (reachable : m.Reachable supply)
    (distinct : ((m.shelves .assignments).map Assignment.key).Nodup)
    (fresh : m.Fresh supply .assignments) :
    (Memory.engine supply).Ends
      (Assignments.replace inUnitOfWork personId lastModified count sent) m fun x m' =>
        match ((requested personId lastModified count sent).against
            (m.shelves .assignments)).violation? with
        | some refusal => x = .ok (.error refusal) ∧ m' = m
        | none => ∃ now, x = .ok (.ok now) ∧
            Replaced (requested personId lastModified count sent) (m.shelves .assignments)
              (m'.shelves .assignments) now := by
  have keyed := reachable.keyed .assignments
  refine (ends_quiet inUnitOfWork (requested personId lastModified count sent) keyed).imp ?_
  intro x m' ended
  split at ended
  · exact ended
  · next satisfied =>
    obtain ⟨returned, left⟩ := ended
    have own : ∀ a ∈ sent, a.personId = personId := (violation?_eq_none.mp satisfied).1
    exact ⟨_, returned, replaced_afterAll own keyed distinct fresh
      (congrArg (fun m => m.shelves .assignments) left)⟩

/-- An assignment that is sent twice. -/
def sentTwice : List Assignment :=
  [.ofKey ⟨"person-1", "org-2", "rolle-1"⟩, .ofKey ⟨"person-1", "org-2", "rolle-1"⟩]

/-- An assignment that is sent twice is stored once. -/
theorem refuses_or_replaces_sentTwice :
    (Memory.engine (.counting Supply.usualStart)).Ends
      (Assignments.replace true "person-1" (.fixed Supply.usualStart) 1 sentTwice) oneAssignment
      fun x m' => ∃ now, x = .ok (.ok now) ∧
        Replaced (requested "person-1" (.fixed Supply.usualStart) 1 sentTwice)
          (oneAssignment.shelves .assignments) (m'.shelves .assignments) now := by
  have distinct : ((oneAssignment.shelves .assignments).map Assignment.key).Nodup := by
    decide +kernel
  have fresh : oneAssignment.Fresh (.counting Supply.usualStart) .assignments := by
    obtain ⟨-, -, -, -, -, -, fresh⟩ := add_of_fresh _ (Memory.fresh_empty _ _ _)
    exact fresh
  have satisfied : ((requested "person-1" (.fixed Supply.usualStart) 1 sentTwice).against
      (oneAssignment.shelves .assignments)).violation? = none := by
    rw [violation?_eq_none]
    decide +kernel
  have ended := refuses_or_replaces true "person-1" (.fixed Supply.usualStart) 1 sentTwice
    reachable_oneAssignment distinct fresh
  rw [satisfied] at ended
  exact ended

end Replacement

end SchoolRegistry
