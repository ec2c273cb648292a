import TrackerSearch.Search.Query
import TrackerSearch.Model.WorkItem

/-!
What the search asks of the places work items come from: a store that runs a compiled
expression, a type hierarchy that widens type filters to their subtrees, and a converter that
turns stored rows into work items. Each answers in a monad of its own, so that a store can
count its calls or log the statements it runs.

A store answers with the rows of one page and the number of rows that matched before
pagination, and says how long it took, so that a search can give up on a slow store.
-/

namespace TrackerSearch

/-- A compiled query handed to a store. -/
structure StoreQuery where
  expression : String
  /-- The allowed types, already widened to their descendants; `none` allows all. -/
  typeScope : Option (List Uuid) := none
  spaceId : Option Uuid := none
  pagination : Pagination := {}

/-- The rows of one page and the number of rows that matched. -/
structure StorePage where
  rows : List WorkItemRow
  totalCount : Nat

/-- One page of search results. -/
structure ResultPage where
  items : List WorkItem
  totalCount : Nat

/-- The answer of a store, and the milliseconds it took to give it. -/
structure StoreAnswer where
  result : Except SearchError StorePage
  elapsedMs : Nat := 0

/-- The collaborators of a search, answering in the monad `m`. -/
structure Backend (m : Type → Type) where
  search : StoreQuery → m StoreAnswer
  descendantsOrSelf : List Uuid → m (Except SearchError (List Uuid))
  convert : WorkItemRow → m (Except SearchError WorkItem)

end TrackerSearch
