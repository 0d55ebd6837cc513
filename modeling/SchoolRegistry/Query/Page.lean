import SchoolRegistry.Query.Evaluate

/-!
# Pages

What services hand out: a page of results together with the window that it was
cut by. Settings may bound the size of pages.
-/

namespace SchoolRegistry

/-- A page of results and its window. -/
structure Page (α : Type) where
  items : List α
  total : Int
  offset : Int
  limit : Int

namespace Page

variable {α : Type}

/-- The number of results on the page. -/
def itemsCount (p : Page α) : Nat := p.items.length

/-- The page of counted results; without an offset it starts at the first one,
without a limit it ends at the last. -/
def ofCounted (c : Counted α) (offset limit : Option Int) : Page α :=
  ⟨c.items, c.total, offset.getD 0, limit.getD c.total⟩

end Page

/-- How large pages are. -/
structure PageLimits where
  /-- The size of a page for which none is asked. -/
  usual : Option Int
  /-- The greatest size of a page. -/
  greatest : Int
deriving DecidableEq

/-- The size of the page that a request gets: the one asked for or else the
usual one, and never more than the greatest. -/
def PageLimits.effective (limits : Option PageLimits) (asked : Option Int) : Option Int :=
  match limits with
  | none => asked
  | some l => (asked.or l.usual).map fun n => min n l.greatest

end SchoolRegistry
