import TableStore.Address
import TableStore.SortedMap

/-!
# Recency of use

A queue of the pages that may leave the cache, ordered by their last use.  Each
use stamps the page with a fresh tick; the page with the oldest stamp goes
first.  The stamps are kept both by page and by age.
-/

set_option autoImplicit false

namespace TableStore

/-- The stamps of pages, by page and by age. -/
structure RecencyQueue where
  lastUse : SortedMap PageId Nat := ∅
  byAge : SortedMap Nat PageId := ∅
  tick : Nat := 0
deriving DecidableEq, Inhabited

namespace RecencyQueue

def size (queue : RecencyQueue) : Nat := queue.lastUse.size

def remove (queue : RecencyQueue) (page : PageId) : RecencyQueue :=
  match queue.lastUse.get? page with
  | some tick =>
      { queue with lastUse := queue.lastUse.erase page, byAge := queue.byAge.erase tick }
  | none => queue

def touch (queue : RecencyQueue) (page : PageId) : RecencyQueue :=
  let rest := queue.remove page
  let tick := rest.tick + 1
  { lastUse := rest.lastUse.insert page tick, byAge := rest.byAge.insert tick page, tick }

def evict (queue : RecencyQueue) : Option PageId × RecencyQueue :=
  match queue.byAge.first? with
  | some (tick, page) =>
      (some page,
        { queue with lastUse := queue.lastUse.erase page, byAge := queue.byAge.erase tick })
  | none => (none, queue)

end RecencyQueue

/-- How the page is chosen that leaves a full cache: the one used longest ago,
or the next one of a given list, which nothing else affects. -/
inductive EvictionPolicy where
  | leastRecent (queue : RecencyQueue)
  | scripted (victims : List PageId)
deriving DecidableEq, Inhabited

namespace EvictionPolicy

def evict : EvictionPolicy → Option PageId × EvictionPolicy
  | leastRecent queue => (queue.evict.1, .leastRecent queue.evict.2)
  | scripted [] => (none, .scripted [])
  | scripted (victim :: victims) => (some victim, .scripted victims)

def pin (policy : EvictionPolicy) (page : PageId) : EvictionPolicy :=
  match policy with
  | leastRecent queue => .leastRecent (queue.remove page)
  | scripted victims => .scripted victims

def unpin (policy : EvictionPolicy) (page : PageId) : EvictionPolicy :=
  match policy with
  | leastRecent queue => .leastRecent (queue.touch page)
  | scripted victims => .scripted victims

def remove (policy : EvictionPolicy) (page : PageId) : EvictionPolicy :=
  policy.pin page

end EvictionPolicy

end TableStore
