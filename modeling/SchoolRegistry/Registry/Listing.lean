import SchoolRegistry.Query.Page
import SchoolRegistry.Store.Program

/-!
# Listings

What all listings have in common: criteria of which some may be missing, the
fields to sort by, and a window whose size the settings bound.
-/

namespace SchoolRegistry

/-- The window that a request asks for. -/
structure Window where
  offset : Option Int
  limit : Option Int

namespace Listing

/-- The query for the items that meet all criteria, in ascending order. -/
def query (criteria : Fields) (order : List String) : Query :=
  order.foldl (fun q field => q.sortedBy field .ascending) (Query.all.restrict .all criteria)

/-- The page of a collection that a request asks for. -/
def page (c : Collection) (limits : Option PageLimits) (criteria : Fields) (order : List String)
    (w : Window) : Service (Page c.Item) :=
  let limit := PageLimits.effective limits w.limit
  match (query criteria order).paged w.offset limit with
  | .error e => throw e
  | .ok q => do
    let counted ← Service.ask (.query c q)
    pure (.ofCounted counted w.offset limit)

/-- The item of a collection with an identifier, or the refusal that there is
none. -/
def byId (c : Collection) (id : String) : Service (Outcome c.Item) := do
  match ← Service.ask (.get c id) with
  | some item => pure (.ok item)
  | none => pure (.error (.notFound c.modelName (some id)))

end Listing

end SchoolRegistry
