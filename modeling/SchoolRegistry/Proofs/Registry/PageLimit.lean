import SchoolRegistry.Proofs.Registry.PageWalk
import SchoolRegistry.Proofs.Store.Database
import SchoolRegistry.Settings

/-!
# The greatest size of a page

Settings say how large a page is at most. A listing asks its store for no more than that, provided
that either the request names a size or the settings name the usual one
(`Settings.exists_effective`). What it asks for is kept by every store whose answers respect
the limits of queries (`Engine.KeepsLimits`), in memory and in a database, so that no page is larger
(`page_within_greatest`).

Without a size, asked for or usual, the greatest one is not looked at: pages are unbounded and hold
all matches from the offset on (`ends_unbounded`).
-/

namespace SchoolRegistry

/-! ## Stores that respect limits -/

/-- The store answers a query whose window has a limit with no more items than that. -/
def Engine.KeepsLimits {σ : Type} (e : Engine σ) : Prop :=
  ∀ (c : Collection) (q : Query) (offset : Option Nat) (limit : Nat) (s : σ)
    (found : Counted c.Item), q.offset = offset.map Int.ofNat → q.limit = some (limit : Int) →
      (e.handler.answer (.query c q) s).1 = .ok found → found.items.length ≤ limit

/-- Evaluation finds no more items than the limit. -/
theorem Query.length_evaluate_le {α : Type} {view : α → Value} {q : Query} {candidates : List α}
    {offset : Option Nat} {limit : Nat} {page : Counted α}
    (hoffset : q.offset = offset.map Int.ofNat) (hlimit : q.limit = some (limit : Int))
    (done : q.evaluate view candidates = .ok page) : page.items.length ≤ limit := by
  dsimp only [evaluate] at done
  cases inner : arranged view q.sort (q.matching view candidates) with
  | error e => rw [inner] at done; cases done
  | ok sorted =>
    rw [inner] at done
    cases done
    have bounded : q.limit = (some limit).map Int.ofNat := hlimit
    dsimp only
    rw [hoffset, bounded, window_eq]
    exact List.length_take_le _ _

/-- The store in memory keeps limits. -/
theorem Memory.keepsLimits (supply : Supply) : (Memory.engine supply).KeepsLimits :=
  fun _ _ _ _ _ _ hoffset hlimit answered => Query.length_evaluate_le hoffset hlimit answered

/-- As many items are read as there are rows. -/
theorem Collection.length_ofRows {c : Collection} {rows : List Row} {items : List c.Item}
    (read : c.ofRows rows = .ok items) : items.length = rows.length := by
  induction rows generalizing items with
  | nil =>
    cases read
    rfl
  | cons row rows ih =>
    unfold ofRows at read
    cases first : c.ofRow row with
    | error f => rw [first] at read; cases read
    | ok item =>
      cases rest : c.ofRows rows with
      | error f => rw [first, rest] at read; cases read
      | ok more =>
        rw [first, rest] at read
        cases read
        rw [List.length_cons, List.length_cons, ih rest]

/-- A statement has the limit of its query. -/
theorem Statement.limit_ofQuery {t : Table} {q : Query} {statement : Statement}
    (made : ofQuery t q = .ok statement) : statement.limit = q.limit := by
  unfold ofQuery at made
  split at made <;> cases made
  rfl

/-- No more rows are cut out than the limit says. -/
theorem Statement.length_cut_le (offset : Option Int) (limit : Nat) (rows : List Row) :
    (cut offset (some limit) rows).length ≤ limit := by
  rw [cut, if_neg (Int.not_lt.mpr (Int.natCast_nonneg limit)), Int.toNat_natCast]
  exact List.length_take_le _ _

/-- A statement finds no more rows than its limit says. -/
theorem Statement.length_run_le {statement : Statement} {rows : List Row} {limit : Nat}
    {found : Counted Row} (limited : statement.limit = some (limit : Int))
    (ran : statement.run rows = .ok found) : found.items.length ≤ limit := by
  unfold run at ran
  split at ran
  · cases ran
  · split at ran <;> cases ran
    dsimp only
    rw [limited]
    exact length_cut_le _ _ _

/-- A selection reads no more items than the limit of its statement says. -/
theorem Database.length_select_le {c : Collection} {q : Query} {statement : Statement}
    {s : Session} {limit : Nat} {found : Counted c.Item}
    (limited : statement.limit = some (limit : Int))
    (selected : select c q statement s = .ok found) : found.items.length ≤ limit := by
  unfold select at selected
  cases ran : statement.run (s.current c) with
  | error f => rw [ran] at selected; cases f <;> cases selected
  | ok rows =>
    rw [ran] at selected
    dsimp only at selected
    cases read : c.ofRows rows.items with
    | error f => rw [read] at selected; cases selected
    | ok items =>
      rw [read] at selected
      cases selected
      exact (Collection.length_ofRows read).trans_le (Statement.length_run_le limited ran)

/-- The database keeps limits. -/
theorem Database.keepsLimits (supply : Supply) : (Database.engine supply).KeepsLimits := by
  intro c q offset limit db found _ hlimit answered
  change (Database.answer supply (.query c q) db).1 = .ok found at answered
  unfold answer at answered
  cases made : Statement.ofQuery c.table q with
  | error f => simp only [made] at answered; cases answered
  | ok statement =>
    simp only [made] at answered
    obtain ⟨used, -⟩ := inSession_ok answered
    obtain ⟨-, ran⟩ := prepared_ok used
    rw [ran] at used
    exact length_select_le ((Statement.limit_ofQuery made).trans hlimit) used

/-! ## The size of a page -/

/-- A size that is asked for or usual gives one that is at most the greatest. -/
theorem Settings.exists_effective (settings : Settings) {asked : Option Int}
    (counts : ∀ n ∈ asked, 0 ≤ n) (standard : ∀ n ∈ settings.usualPage, 0 ≤ n)
    (sized : asked.isSome ∨ settings.usualPage.isSome) :
    ∃ n : Nat, PageLimits.effective (some settings.pageLimits) asked = some (n : Int) ∧
      (n : Int) ≤ settings.greatestPage := by
  have named : (asked.or settings.usualPage).isSome := by
    rw [Option.isSome_or, Bool.or_eq_true]
    exact sized
  obtain ⟨n, chosen⟩ := Option.isSome_iff_exists.mp named
  have first : 0 ≤ n := by
    rcases Option.or_eq_some_iff.mp chosen with given | ⟨-, usual⟩
    · exact counts n given
    · exact standard n usual
  have effective : PageLimits.effective (some settings.pageLimits) asked =
      some (min n settings.greatestPage) := congrArg (Option.map _) chosen
  have size : 0 ≤ min n settings.greatestPage := le_min first settings.greatestPage.property.le
  obtain ⟨size, same⟩ := Int.eq_ofNat_of_zero_le size
  exact ⟨size, effective.trans (congrArg some same), same ▸ min_le_right _ _⟩

/-- A page that was returned holds at most so many items. -/
def Page.Within {α : Type} (greatest : Int) (x : Except Failure (Outcome (Page α))) : Prop :=
  ∀ page, x = .ok (.ok page) → (page.itemsCount : Int) ≤ greatest

/-- A page within a limit is within every greater one. -/
theorem Page.Within.mono {α : Type} {n greatest : Int} {x : Except Failure (Outcome (Page α))}
    (within : Page.Within n x) (le : n ≤ greatest) : Page.Within greatest x :=
  fun page returned => (within page returned).trans le

section Pages

variable {σ : Type} {e : Engine σ} {s : σ} {limits : Option PageLimits} {w : Window} {n : Int}

/-- A listing with an effective limit serves no longer page. -/
theorem Listing.ends_page_le (keeps : e.KeepsLimits) {c : Collection} {criteria : Fields}
    {order : List String} (limited : PageLimits.effective limits w.limit = some n) :
    e.Ends (page c limits criteria order w) s fun x _ =>
      ∀ page, x = .ok page → (page.itemsCount : Int) ≤ n := by
  rw [page, limited]
  cases paged : (query criteria order).paged w.offset (some n) with
  | error f =>
    apply Engine.ends_throw.mpr
    intro page done
    cases done
  | ok q =>
    obtain ⟨rfl, first, size⟩ := Query.paged_eq_ok paged
    obtain ⟨offset, starts⟩ := Query.exists_ofNat_of_nonneg first
    obtain ⟨limit, rfl⟩ := Int.eq_ofNat_of_zero_le (size n rfl)
    apply Engine.ends_bind.mpr
    apply Engine.ends_ask.mpr
    cases answered : (e.handler.answer _ s).1 with
    | error f =>
      intro page done
      cases done
    | ok found =>
      intro page done
      cases done
      exact Int.ofNat_le.mpr (keeps _ _ offset limit s found starts rfl answered)

/-- So does every listing of the registry. -/
theorem Listed.ends_page_le (keeps : e.KeepsLimits) (l : Listed)
    (limited : PageLimits.effective limits w.limit = some n) :
    e.Ends (l.page limits w) s fun x _ => Page.Within n x := by
  have outcome (s : σ) : e.Ends (do
      let page ← Listing.page l.collection limits l.criteria l.order w
      pure (.ok page) : Service (Outcome (Page l.collection.Item))) s fun x _ =>
        Page.Within n x := by
    refine (Listing.ends_page_le keeps limited).bind (fun page s' within => ?_) fun f s' _ => nofun
    rintro _ ⟨⟩
    exact within page rfl
  cases l with
  | organisations f => exact outcome s
  | persons f => exact outcome s
  | roles f => exact outcome s
  | administered id =>
    have looked : e.Ends (Organisations.find id) s fun _ _ => True := trivial
    refine looked.bind (fun found s' _ => ?_) fun f s' _ => nofun
    cases found with
    | error r => exact nofun
    | ok o => exact outcome s'

end Pages

namespace Listed

/-- If the request or the settings name a size, no page of a listing holds more than the greatest
number of items, whatever is stored in memory or in a database. In memory there is a page, unless
one asks for what an organisation administers that is not stored. -/
theorem page_within_greatest (settings : Settings) (l : Listed) (supply : Supply)
    {offset limit : Option Nat} (standard : ∀ n ∈ settings.usualPage, 0 ≤ n)
    (sized : limit.isSome ∨ settings.usualPage.isSome) :
    let page := l.page (some settings.pageLimits) ⟨offset.map Int.ofNat, limit.map Int.ofNat⟩
    (∀ m, (Memory.engine supply).Ends page m fun x _ => Page.Within settings.greatestPage x) ∧
    (∀ db, (Database.engine supply).Ends page db fun x _ => Page.Within settings.greatestPage x) ∧
    ∀ m, l.Stored m → (Memory.engine supply).Ends page m fun x m' =>
      (∃ p, x = .ok (.ok p)) ∧ m' = m := by
  intro page
  have counts : ∀ n ∈ limit.map Int.ofNat, 0 ≤ n := by
    intro n there
    obtain ⟨k, -, rfl⟩ := Option.mem_map.mp there
    exact Int.natCast_nonneg k
  have asked : (limit.map Int.ofNat).isSome ∨ settings.usualPage.isSome := by
    rwa [Option.isSome_map]
  obtain ⟨n, limited, le⟩ := settings.exists_effective counts standard asked
  have bounded {σ : Type} {e : Engine σ} (keeps : e.KeepsLimits) (s : σ) :
      e.Ends page s fun x _ => Page.Within settings.greatestPage x :=
    (ends_page_le keeps l limited).imp fun x _ within => Page.Within.mono within le
  refine ⟨bounded (Memory.keepsLimits supply), bounded (Database.keepsLimits supply), ?_⟩
  intro m stored
  obtain ⟨items, -, -, ends⟩ := l.ends_window m supply stored
  have limited : PageLimits.effective (some settings.pageLimits) (limit.map Int.ofNat) =
      (some n).map Int.ofNat := limited
  exact (ends limited offset).imp fun x m' ended => ⟨⟨_, ended.1⟩, ended.2⟩

/-- A usual size above the greatest one does not matter: of three classes at most two are shown. -/
theorem page_within_greatest_classes :
    let settings := { Settings.standard with
      usualPage := some 25, greatestPage := ⟨2, by decide⟩ }
    (∀ n ∈ settings.usualPage, 0 ≤ n) ∧ ((none : Option Nat).isSome ∨ settings.usualPage.isSome) ∧
      (Memory.engine (.counting Supply.usualStart)).Ends
        ((administered "school").page (some settings.pageLimits) ⟨some 1, none⟩) schoolWithClasses
          fun x m' => (∃ p, x = .ok (.ok p) ∧ p.itemsCount ≤ 2) ∧ m' = schoolWithClasses := by
  intro settings
  have standard : ∀ n ∈ settings.usualPage, 0 ≤ n := by
    rintro _ ⟨⟩
    decide
  have sized : (none : Option Nat).isSome ∨ settings.usualPage.isSome := .inr rfl
  have stored : (administered "school").Stored schoolWithClasses :=
    ⟨{ Organisation.blank with id := some "school" }, List.mem_cons_self, rfl⟩
  obtain ⟨within, -, returned⟩ := @page_within_greatest settings (administered "school")
    (.counting Supply.usualStart) (some 1) none standard sized
  refine ⟨standard, sized, ((returned _ stored).and (within _)).imp fun x m' ended => ?_⟩
  obtain ⟨⟨⟨p, there⟩, unchanged⟩, small⟩ := ended
  exact ⟨⟨p, there, Int.ofNat_le.mp (small p there)⟩, unchanged⟩

/-- Without a size, asked for or usual, a page holds all matches from the offset on. -/
theorem ends_unbounded (l : Listed) (m : Memory) (supply : Supply) (stored : l.Stored m)
    (greatest : Int) (offset : Option Nat) :
    (Memory.engine supply).Ends (l.page (some ⟨none, greatest⟩) ⟨offset.map Int.ofNat, none⟩) m
      fun x _ => ∃ p, x = .ok (.ok p) ∧ p.itemsCount = (l.found m).length - offset.getD 0 := by
  obtain ⟨items, arranged, -, ends⟩ := l.ends_window m supply stored
  have unbounded : PageLimits.effective (some ⟨none, greatest⟩) none =
      (none : Option Nat).map Int.ofNat := rfl
  refine (ends unbounded offset).imp fun x m' ended => ⟨_, ended.1, ?_⟩
  simp [Page.itemsCount, pageOf, arranged.members.length_eq]

/-- Three classes stand on a page although no page may hold more than two. -/
theorem page_exceeds_greatest :
    let settings := { Settings.standard with greatestPage := ⟨2, by decide⟩ }
    (Memory.engine (.counting Supply.usualStart)).Ends
      ((administered "school").page (some settings.pageLimits) ⟨none, none⟩) schoolWithClasses
        fun x _ => ∃ p, x = .ok (.ok p) ∧ (settings.greatestPage : Int) < p.itemsCount := by
  intro settings
  have stored : (administered "school").Stored schoolWithClasses :=
    ⟨{ Organisation.blank with id := some "school" }, List.mem_cons_self, rfl⟩
  have classes : ((administered "school").found schoolWithClasses).length = 3 := by decide +kernel
  refine (ends_unbounded (administered "school") schoolWithClasses (.counting Supply.usualStart)
    stored 2 none).imp fun x m' ended => ?_
  obtain ⟨p, returned, count⟩ := ended
  refine ⟨p, returned, ?_⟩
  rw [count, classes]
  decide

end Listed

end SchoolRegistry
