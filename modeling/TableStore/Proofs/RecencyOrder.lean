import TableStore.Proofs.CacheAccounts

/-!
# The queue of pages as a list

The queue keeps stamps by page and by age.  To those who use it, it is a list of
pages without repetition, in the order of their last use: a page that is used goes
to the back, a page that is pinned or forgotten is taken out wherever it stands, and
the page in front leaves first.  Whatever the queue is asked, it answers as this list.
-/

set_option autoImplicit false

namespace TableStore

namespace SortedMap

variable {κ : Type} {ν : Type} [Ord κ] [DecidableEq κ] [Std.TransOrd κ] [Std.LawfulEqOrd κ]
  {m : SortedMap κ ν} {key : κ} {value : ν}

theorem put_of_greatest {entries : List (κ × ν)}
    (greatest : ∀ entry ∈ entries, compare entry.1 key = .lt) :
    put key value entries = entries ++ [(key, value)] := by
  induction entries with
  | nil => rfl
  | cons first others ih =>
      have less := greatest first List.mem_cons_self
      have different : key ≠ first.1 := by
        rintro rfl
        simp [Std.ReflCmp.compare_self] at less
      have above : ¬ compare key first.1 = .lt := by
        rw [Std.OrientedCmp.gt_iff_lt.mpr less]
        decide
      rw [put, if_neg different, if_neg above,
        ih fun entry inside => greatest entry (List.mem_cons_of_mem _ inside), List.cons_append]

theorem values_insert_of_greatest (greatest : ∀ other, m.contains other = true →
    compare other key = .lt) : (m.insert key value).values = m.values ++ [value] := by
  have entries : (m.insert key value).entries = m.entries ++ [(key, value)] := by
    apply put_of_greatest
    rintro ⟨other, old⟩ inside
    refine greatest other ?_
    rw [contains, mem_entries_iff.mp inside, Option.isSome_some]
  rw [values, entries, List.map_append]
  rfl

/-- A value that stands at one key only goes when the key does. -/
theorem values_erase [DecidableEq ν] (distinct : m.values.Nodup)
    (found : ∀ other, m.get? other = some value ↔ other = key) :
    (m.erase key).values = m.values.erase value := by
  rw [distinct.erase_eq_filter, values, values, List.filter_map]
  refine congrArg (List.map _) (List.filter_congr ?_)
  rintro ⟨other, old⟩ inside
  have known := mem_entries_iff.mp inside
  by_cases same : old = value
  · subst same
    have here : other = key := (found other).mp known
    simp [here]
  · have elsewhere : other ≠ key := by
      intro here
      rw [(found other).mpr here] at known
      exact same (Option.some.inj known).symm
    simp [same, elsewhere]

end SortedMap

namespace RecencyQueue

/-- What is asked of the queue.  A page that is unpinned has just been used; a page
that is pinned or removed may no longer be chosen. -/
inductive Call where
  | unpin (page : PageId)
  | pin (page : PageId)
  | remove (page : PageId)
  | evict
  | size

inductive Answer where
  | done
  | victim (page : Option PageId)
  | size (count : Nat)
deriving DecidableEq

namespace Call

def isUnpin : Call → Bool
  | unpin _ => true
  | _ => false

def serveAll {σ : Type} (serve : σ → Call → Answer × σ) (state : σ) :
    List Call → List Answer × σ
  | [] => ([], state)
  | call :: calls =>
      let (answer, state) := serve state call
      let (answers, state) := serveAll serve state calls
      (answer :: answers, state)

end Call

def serve (queue : RecencyQueue) : Call → Answer × RecencyQueue
  | .unpin page => (.done, queue.touch page)
  | .pin page => (.done, queue.remove page)
  | .remove page => (.done, queue.remove page)
  | .evict => queue.evict.map .victim id
  | .size => (.size queue.size, queue)

def serveList (order : List PageId) : Call → Answer × List PageId
  | .unpin page => (.done, order.erase page ++ [page])
  | .pin page => (.done, order.erase page)
  | .remove page => (.done, order.erase page)
  | .evict => (.victim order.head?, order.tail)
  | .size => (.size order.length, order)

def order (queue : RecencyQueue) : List PageId := queue.byAge.values

structure StandsFor (queue : RecencyQueue) (pages : List PageId) (uses : Nat) : Prop where
  order : queue.order = pages
  nodup : pages.Nodup
  inverse : ∀ page tick, queue.lastUse.get? page = some tick ↔ queue.byAge.get? tick = some page
  apart : ∀ page other tick, queue.lastUse.get? page = some tick →
    queue.lastUse.get? other = some tick → page = other
  past : ∀ page tick, queue.lastUse.get? page = some tick → tick ≤ uses
  tick : queue.tick = uses

variable {queue : RecencyQueue} {page : PageId} {tick : Nat}

/-! ## The order after each call -/

theorem Sound.order_without (sound : queue.Sound) (stamped : queue.lastUse.get? page = some tick) :
    (queue.byAge.erase tick).values = queue.order.erase page := by
  refine SortedMap.values_erase sound.nodup_byAge fun other => ?_
  rw [← sound.stamps, stamped, Option.some.injEq, eq_comm]

theorem Sound.order_remove (sound : queue.Sound) (page : PageId) :
    (queue.remove page).order = queue.order.erase page := by
  cases stamped : queue.lastUse.get? page with
  | some tick =>
      rw [RecencyQueue.remove, stamped]
      exact sound.order_without stamped
  | none =>
      have absent : page ∉ queue.order := by
        rw [order, sound.mem_byAge, lists, SortedMap.contains, stamped]
        exact Bool.false_ne_true
      rw [RecencyQueue.remove, stamped, List.erase_of_not_mem absent]

theorem Sound.order_touch (sound : queue.Sound) (page : PageId) :
    (queue.touch page).order = queue.order.erase page ++ [page] := by
  have rest := (sound.remove page).1
  rw [← sound.order_remove page]
  apply SortedMap.values_insert_of_greatest
  intro tick stamped
  -- the stamps given so far are below the new one
  obtain ⟨other, aged⟩ := Option.isSome_iff_exists.mp stamped
  have old := rest.past other tick ((rest.stamps other tick).mpr aged)
  exact Nat.compare_eq_lt.mpr (Nat.lt_succ_of_le old)

theorem Sound.evict_eq (sound : queue.Sound) :
    queue.evict.1 = queue.order.head? ∧ queue.evict.2.order = queue.order.tail := by
  cases first : queue.byAge.first? with
  | none =>
      have empty : queue.order = [] := by
        rw [order, SortedMap.values, List.head?_eq_none_iff.mp first, List.map_nil]
      rw [RecencyQueue.evict, first, empty]
      exact ⟨rfl, rfl⟩
  | some entry =>
      obtain ⟨tick, page⟩ := entry
      obtain ⟨others, entries⟩ : ∃ others, queue.byAge.entries = (tick, page) :: others :=
        List.head?_eq_some_iff.mp first
      have starts : queue.order = page :: others.map (·.2) := by
        rw [order, SortedMap.values, entries, List.map_cons]
      have stamped := (sound.stamps page tick).mpr (SortedMap.get?_of_first? first)
      rw [RecencyQueue.evict, first]
      refine ⟨by rw [starts, List.head?_cons], ?_⟩
      have without := sound.order_without stamped
      rw [starts, List.erase_cons_head] at without
      rw [starts, List.tail_cons]
      exact without

theorem Sound.size_eq (sound : queue.Sound) : queue.size = queue.order.length :=
  SortedMap.size_eq_length sound.nodup_byAge fun _ => sound.mem_byAge

theorem tick_remove : (queue.remove page).tick = queue.tick := by
  rw [RecencyQueue.remove]
  split <;> rfl

theorem tick_evict : queue.evict.2.tick = queue.tick := by
  rw [RecencyQueue.evict]
  split <;> rfl

/-! ## One call, and any number of them -/

theorem Sound.serve (sound : queue.Sound) (call : Call) : (queue.serve call).2.Sound := by
  cases call with
  | unpin page => exact (sound.touch page).1
  | pin page => exact (sound.remove page).1
  | remove page => exact (sound.remove page).1
  | evict =>
      rcases sound.evict with ⟨stays, -⟩ | ⟨page, -, -, after, -⟩
      · rw [RecencyQueue.serve, stays]
        exact sound
      · exact after
  | size => exact sound

theorem Sound.serve_eq (sound : queue.Sound) (call : Call) :
    (queue.serve call).map id order = serveList queue.order call := by
  cases call with
  | unpin page => exact congrArg (Prod.mk _) (sound.order_touch page)
  | pin page => exact congrArg (Prod.mk _) (sound.order_remove page)
  | remove page => exact congrArg (Prod.mk _) (sound.order_remove page)
  | evict =>
      obtain ⟨front, rest⟩ := sound.evict_eq
      exact Prod.ext (congrArg Answer.victim front) rest
  | size => exact congrArg (fun count => (Answer.size count, queue.order)) sound.size_eq

theorem tick_serve (call : Call) :
    (queue.serve call).2.tick = queue.tick + [call].countP Call.isUnpin := by
  cases call with
  | unpin page => exact congrArg (· + 1) tick_remove
  | pin page => exact tick_remove
  | remove page => exact tick_remove
  | evict => exact tick_evict
  | size => rfl

theorem Sound.serveAll (sound : queue.Sound) (calls : List Call) :
    (Call.serveAll RecencyQueue.serve queue calls).2.Sound ∧
      (Call.serveAll RecencyQueue.serve queue calls).map id order =
        Call.serveAll serveList queue.order calls ∧
      (Call.serveAll RecencyQueue.serve queue calls).2.tick =
        queue.tick + calls.countP Call.isUnpin := by
  induction calls generalizing queue with
  | nil => exact ⟨sound, rfl, rfl⟩
  | cons call calls ih =>
      obtain ⟨after, same, ticks⟩ := ih (sound.serve call)
      obtain ⟨answer, order⟩ := Prod.ext_iff.mp (sound.serve_eq call)
      refine ⟨after, ?_, ?_⟩
      · simp only [Prod.map_snd] at order
        rw [order] at same
        simp only [Call.serveAll, ← same, ← answer]
        rfl
      · rw [Call.serveAll, ticks, tick_serve, Nat.add_assoc, ← List.countP_append]
        rfl

/-- The queue answers every sequence of calls as the list of pages in the order of
their last use, which has no page twice, and stands for this list at the end.  Its
stamps count the uses, so that they fit into a word as long as the uses do. -/
theorem answers_in_order_of_use (calls : List Call) :
    let run := Call.serveAll serve {} calls
    let pages := Call.serveAll serveList [] calls
    run.1 = pages.1 ∧ run.2.StandsFor pages.2 (calls.countP Call.isUnpin) := by
  intro run pages
  obtain ⟨sound, same, ticks⟩ := sound_empty.serveAll calls
  obtain ⟨answers, order⟩ := Prod.ext_iff.mp same
  have counted : run.2.tick = calls.countP Call.isUnpin := ticks.trans (Nat.zero_add _)
  refine ⟨answers, ?_⟩
  constructor
  case order => exact order
  case nodup => exact order ▸ sound.nodup_byAge
  case inverse => exact sound.stamps
  case apart =>
    intro page other tick stamped shared
    have aged := (sound.stamps page tick).mp stamped
    rw [(sound.stamps other tick).mp shared] at aged
    exact (Option.some.inj aged).symm
  case past =>
    intro page tick stamped
    exact counted ▸ sound.past page tick stamped
  case tick => exact counted

end RecencyQueue

end TableStore
