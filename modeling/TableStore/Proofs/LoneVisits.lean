import TableStore.Proofs.BackedPages
import TableStore.Proofs.EvictionLines
import TableStore.Proofs.RecencyOrder
import TableStore.Proofs.Reloads

/-!
# Visits of a transaction that is alone

While one transaction uses a store and no page is pinned, the cache is a line of pages.
A page that was changed and whose file does not take it is stuck in it.  A request for a
page is granted, and the page that is given back goes to the end of the line, unless the
page cannot be read, or there is no place for it because the one in front is stuck.
-/

set_option autoImplicit false

namespace TableStore

namespace EvictionPolicy

variable {policy : EvictionPolicy} {queue : RecencyQueue} {idle : PageId → Prop} {page : PageId}

def order : EvictionPolicy → List PageId
  | .leastRecent queue => queue.order
  | .scripted _ => []

def Ordered (policy : EvictionPolicy) : Prop :=
  ∃ queue, policy = .leastRecent queue ∧ queue.Sound

theorem Ordered.pin (ordered : policy.Ordered) (page : PageId) :
    (policy.pin page).Ordered ∧ (policy.pin page).order = policy.order.erase page := by
  obtain ⟨queue, rfl, sound⟩ := ordered
  exact ⟨⟨_, rfl, (sound.remove page).1⟩, sound.order_remove page⟩

theorem Ordered.order_unpin (ordered : policy.Ordered) (page : PageId) :
    (policy.unpin page).order = policy.order.erase page ++ [page] := by
  obtain ⟨queue, rfl, sound⟩ := ordered
  exact sound.order_touch page

theorem Ordered.evict (ordered : policy.Ordered) :
    policy.evict.1 = policy.order.head? ∧ policy.evict.2.Ordered ∧
      policy.evict.2.order = policy.order.tail := by
  obtain ⟨queue, rfl, sound⟩ := ordered
  have after : queue.evict.2.Sound := sound.serve .evict
  exact ⟨sound.evict_eq.1, ⟨_, rfl, after⟩, sound.evict_eq.2⟩

end EvictionPolicy

namespace Store

/-- The page cannot leave the cache: it was changed, and its file does not take it. -/
def stuck (store : Store) (id : PageId) : Bool :=
  (store.cached? id).any fun page => page.dirtiedBy.isSome && !store.takes id

def line (store : Store) : Line :=
  ⟨store.capacity - store.policy.order.length, store.policy.order⟩

variable {store middle after : Store} {id : PageId} {page : Page} {txn : TxnId} {serial : Nat}
  {handle : Handle} {contents : Contents} {handles : List Handle}

/-! ## The line of the cached pages -/

theorem Accounted.ordered (accounted : store.Accounted handles) : store.policy.Ordered := by
  obtain ⟨queue, recent⟩ := accounted.recent
  exact ⟨queue, recent, (accounted.lists queue recent).1⟩

theorem Accounted.nodup_order (accounted : store.Accounted handles) :
    store.policy.order.Nodup := by
  obtain ⟨queue, recent, sound⟩ := accounted.ordered
  rw [recent]
  exact sound.nodup_byAge

/-- Without handles, the line is that of all cached pages. -/
theorem Accounted.mem_order_iff (accounted : store.Accounted []) :
    id ∈ store.policy.order ↔ store.frames.contains id = true := by
  obtain ⟨queue, recent⟩ := accounted.recent
  obtain ⟨sound, listed⟩ := accounted.lists queue recent
  rw [recent, SortedMap.contains, Option.isSome_iff_exists]
  refine (sound.mem_byAge.trans (listed id)).trans ⟨?_, ?_⟩
  · rintro ⟨frame, found, -⟩
    exact ⟨frame, found⟩
  · rintro ⟨frame, found⟩
    exact ⟨frame, found, accounted.pins id frame found⟩

theorem Accounted.length_order (accounted : store.Accounted []) :
    store.policy.order.length = store.frames.size :=
  (SortedMap.size_eq_length accounted.nodup_order fun _ => accounted.mem_order_iff).symm

theorem Accounted.not_mem_order (accounted : store.Accounted [])
    (absent : store.frames.get? id = none) : id ∉ store.policy.order := by
  rw [accounted.mem_order_iff, SortedMap.contains, absent]
  exact Bool.false_ne_true

theorem Accounted.steps (fitting : store.Fitting) (accounted : store.Accounted handles)
    {later : Store × List Handle} (steps : CacheSteps (store, handles) later) :
    later.1.Fitting ∧ later.1.Accounted later.2 := by
  induction steps with
  | refl => exact ⟨fitting, accounted⟩
  | tail _ step ih => exact ⟨ih.1.step step, ih.2.step step⟩

/-! ## Stuck pages -/

theorem stuck_congr (cached : after.cached? id = store.cached? id)
    (unwritable : after.unwritable = store.unwritable) : after.stuck id = store.stuck id := by
  rw [stuck, stuck, cached, takes, takes, unwritable]

theorem stuck_of_uncached (uncached : store.cached? id = none) : store.stuck id = false := by
  rw [stuck, uncached, Option.any_none]

theorem stuck_of_clean (cached : store.cached? id = some page) (clean : page.dirtiedBy = none) :
    store.stuck id = false := by
  rw [stuck, cached, Option.any_some, clean]
  rfl

/-- The fault that keeps a page in the cache. -/
theorem Sound.writeBack_stuck (sound : store.Sound) (cached : store.cached? id = some page)
    (stuck : store.stuck id = true) : ∃ fault, store.unwritable.get? id = some fault ∧
      store.writeBack page = .error (.io (.other fault)) := by
  rw [Store.stuck, cached, Option.any_some, Bool.and_eq_true, Bool.not_eq_true'] at stuck
  obtain ⟨txn, dirty⟩ := Option.isSome_iff_exists.mp stuck.1
  rcases sound.writeBack cached dirty with refused | ⟨taken, -⟩
  · exact refused
  · cases taken.symm.trans stuck.2

theorem Sound.evict_stuck (sound : store.Sound) {victim : PageId}
    (chosen : store.policy.evict.1 = some victim) (stuck : store.stuck victim = true) :
    ∃ fault after, store.unwritable.get? victim = some fault ∧
      store.evict = (.error (.io (.other fault)), after) := by
  rcases run : store.evict with ⟨result, after⟩
  cases sound.evict_cases run with
  | nobody none => cases none.symm.trans chosen
  | stray again absent =>
      cases again.symm.trans chosen
      rw [stuck_of_uncached (cached?_of_missing absent)] at stuck
      cases stuck
  | stays again found dirty refused =>
      cases again.symm.trans chosen
      exact ⟨_, _, refused, rfl⟩
  | leaves again found free =>
      cases again.symm.trans chosen
      rw [Store.stuck, cached?_of_frame found, Option.any_some, Bool.and_eq_true,
        Bool.not_eq_true'] at stuck
      cases (free (Option.isSome_iff_ne_none.mp stuck.1)).symm.trans stuck.2

theorem Sound.evict_front (sound : store.Sound) {victim : PageId}
    (chosen : store.policy.evict.1 = some victim) (cached : store.frames.contains victim = true)
    (moves : store.stuck victim = false) : ∃ after, store.evict = (.ok (), after) ∧
      Leaves store after victim ∧ after.policy = store.policy.evict.2 := by
  rcases run : store.evict with ⟨result, after⟩
  cases sound.evict_cases run with
  | nobody none => cases none.symm.trans chosen
  | stray again absent =>
      cases again.symm.trans chosen
      rw [SortedMap.contains, absent] at cached
      cases cached
  | stays again found dirty refused =>
      cases again.symm.trans chosen
      rw [stuck, cached?_of_frame found, Option.any_some, takes_of_refused refused,
        Option.isSome_iff_ne_none.mpr dirty] at moves
      cases moves
  | leaves again found free leaves policy =>
      cases again.symm.trans chosen
      exact ⟨after, rfl, leaves, policy⟩

theorem Leaves.stuck {victim : PageId} (leaves : Leaves store after victim)
    (moves : store.stuck victim = false) : after.stuck = store.stuck := by
  funext id
  by_cases here : id = victim
  · subst here
    rw [moves]
    apply stuck_of_uncached
    rw [cached?, leaves.frames, if_pos rfl, Option.map_none]
  · apply stuck_congr _ leaves.unwritable
    rw [cached?, leaves.frames, if_neg here, cached?]

/-! ## A page is pinned -/

/-- The page has come to the cache, or was there, and is pinned once; when it is given
back, it has been visited. -/
structure Brings (store : Store) (id : PageId) (contents : Contents) (serial : Nat)
    (got : Store) : Prop where
  frame : ∃ frame, got.frames.get? id = some frame ∧ frame.serial = serial ∧ frame.pins = 1 ∧
    frame.page.contents = contents
  stuck : got.stuck = store.stuck
  capacity : got.capacity = store.capacity
  ordered : got.policy.Ordered
  visits : store.line.visit store.stuck id =
    some ⟨store.capacity - (got.policy.order.erase id ++ [id]).length,
      got.policy.order.erase id ++ [id]⟩

theorem Accounted.hit_brings (accounted : store.Accounted []) {frame : Frame}
    (found : store.frames.get? id = some frame) :
    Brings store id frame.page.contents frame.serial { store with
      frames := store.frames.insert id { frame with pins := frame.pins + 1 }
      policy := store.policy.pin id } where
  frame := by
    refine ⟨{ frame with pins := frame.pins + 1 }, SortedMap.get?_insert_self _ _ _, rfl, ?_, rfl⟩
    exact congrArg (· + 1) (accounted.pins id frame found)
  stuck := by
    funext other
    refine stuck_congr ?_ rfl
    rw [cached?, SortedMap.get?_insert]
    split
    · next here => rw [here, cached?_of_frame found, Option.map_some]
    · rfl
  capacity := rfl
  ordered := (accounted.ordered.pin id).1
  visits := by
    have inside : id ∈ store.policy.order := by
      rw [accounted.mem_order_iff, SortedMap.contains, found, Option.isSome_some]
    have gone : id ∉ store.policy.order.erase id := accounted.nodup_order.not_mem_erase
    have length := List.length_erase_of_mem inside
    have full := List.length_pos_of_mem inside
    rw [Line.visit, if_pos (show id ∈ store.line.order from inside)]
    simp only [line, (accounted.ordered.pin id).2, List.erase_of_not_mem gone,
      List.length_append, List.length_singleton]
    rw [length, Nat.sub_add_cancel full]

theorem brings_of_install {room : Store} (own : page.id = id) (clean : page.dirtiedBy = none)
    (absent : store.frames.get? id = none) (stuck : room.stuck = store.stuck)
    (capacity : room.capacity = store.capacity) (ordered : room.policy.Ordered)
    (unlisted : id ∉ room.policy.order)
    (visits : store.line.visit store.stuck id =
      some ⟨store.capacity - (room.policy.order ++ [id]).length, room.policy.order ++ [id]⟩) :
    Brings store id page.contents room.nextSerial (room.install page).2 where
  frame := ⟨_, (frames_install room page id).trans (if_pos own.symm), rfl, rfl, rfl⟩
  stuck := by
    funext other
    by_cases here : other = id
    · subst here
      have cached : (room.install page).2.cached? other = some page := by
        rw [cached?, frames_install, if_pos own.symm, Option.map_some]
      rw [stuck_of_clean cached clean, stuck_of_uncached (cached?_of_missing absent)]
    · rw [← stuck]
      refine stuck_congr ?_ rfl
      rw [cached?, frames_install, if_neg (own ▸ here), cached?]
  capacity := capacity
  ordered := ordered
  visits := by
    have same : (room.install page).2.policy.order.erase id = room.policy.order :=
      List.erase_of_not_mem unlisted
    rw [visits, same]

theorem Accounted.visit_free (accounted : store.Accounted [])
    (absent : store.frames.get? id = none) (free : store.frames.size < store.capacity) :
    store.line.visit store.stuck id =
      some ⟨store.capacity - (store.policy.order ++ [id]).length, store.policy.order ++ [id]⟩ := by
  have place : 0 < store.line.free := by
    have size := accounted.length_order
    simp only [line]
    omega
  rw [Line.visit, if_neg (show id ∉ store.line.order from accounted.not_mem_order absent),
    if_pos place, List.length_append]
  rfl

/-- In a full cache the place of the page in front is taken, unless it is stuck. -/
theorem Accounted.visit_full (accounted : store.Accounted []) (spacious : 0 < store.capacity)
    (absent : store.frames.get? id = none) (full : store.capacity ≤ store.frames.size) :
    ∃ front, store.policy.evict.1 = some front ∧ store.frames.contains front = true ∧
      id ∉ store.policy.evict.2.order ∧
      store.line.visit store.stuck id = if store.stuck front then none else
        some ⟨store.capacity - (store.policy.evict.2.order ++ [id]).length,
          store.policy.evict.2.order ++ [id]⟩ := by
  have size := accounted.length_order
  have outside := accounted.not_mem_order absent
  obtain ⟨chosen, -, tail⟩ := accounted.ordered.evict
  obtain ⟨front, rest, order⟩ : ∃ front rest, store.policy.order = front :: rest := by
    apply List.exists_cons_of_length_pos
    omega
  rw [order] at outside size
  rw [List.length_cons] at size
  rw [chosen, tail, order]
  refine ⟨front, rfl, ?_, fun inside => outside (List.mem_cons_of_mem _ inside), ?_⟩
  · rw [← accounted.mem_order_iff, order]
    exact List.mem_cons_self
  · have none : store.capacity - (rest.length + 1) = 0 := by omega
    simp only [Line.visit, line, order, outside, List.length_cons, List.tail_cons, none,
      List.length_append, List.length_nil, if_false, Nat.lt_irrefl]

/-- A page that can be read is loaded into a free place, or into that of the page in
front, unless this one is stuck. -/
theorem Sound.load_brings (sound : store.Sound) (accounted : store.Accounted [])
    (spacious : 0 < store.capacity) (absent : store.frames.get? id = none)
    (read : store.readPage id = .ok page) :
    (∃ serial got, store.pin id = (.ok serial, got) ∧ Brings store id page.contents serial got) ∨
    store.line.visit store.stuck id = none ∧ ∃ place fault after,
      store.unwritable.get? place = some fault ∧
      store.pin id = (.error (.io (.other fault)), after) := by
  obtain ⟨table, -, -, -, fits, -, clean⟩ := sound.readPage_ok read
  obtain ⟨-, ordered, -⟩ := accounted.ordered.evict
  rcases run : store.pin id with ⟨result, after⟩
  cases pin_cases run with
  | hits found => cases absent.symm.trans found
  | unreadable _ unread => cases read.symm.trans unread
  | loads _ again made =>
      cases read.symm.trans again
      rcases made with ⟨free, rfl⟩ | ⟨full, evicted⟩
      · exact .inl ⟨_, _, rfl, brings_of_install fits.id clean absent rfl rfl accounted.ordered
          (accounted.not_mem_order absent) (accounted.visit_free absent free)⟩
      · obtain ⟨front, victim, cached, unlisted, visit⟩ := accounted.visit_full spacious absent full
        cases stuck : store.stuck front with
        | true =>
            obtain ⟨fault, after, -, failed⟩ := sound.evict_stuck victim stuck
            cases failed.symm.trans evicted
        | false =>
            obtain ⟨after, left, leaves, policy⟩ := sound.evict_front victim cached stuck
            cases left.symm.trans evicted
            rw [stuck, if_neg Bool.false_ne_true] at visit
            rw [← policy] at ordered unlisted visit
            exact .inl ⟨_, _, rfl, brings_of_install fits.id clean absent (leaves.stuck stuck)
              leaves.capacity ordered unlisted visit⟩
  | blocked _ _ full evicted =>
      obtain ⟨front, victim, cached, -, visit⟩ := accounted.visit_full spacious absent full
      cases stuck : store.stuck front with
      | true =>
          obtain ⟨fault, left, refused, failed⟩ := sound.evict_stuck victim stuck
          cases failed.symm.trans evicted
          rw [stuck, if_pos rfl] at visit
          exact .inr ⟨visit, front, fault, _, refused, rfl⟩
      | false =>
          obtain ⟨left, moved, -⟩ := sound.evict_front victim cached stuck
          cases moved.symm.trans evicted

/-- A page that can be seen is pinned where it is cached or as it is loaded, unless a
stuck page is in the way. -/
theorem Sound.pin_brings (sound : store.Sound) (accounted : store.Accounted [])
    (spacious : 0 < store.capacity) (seen : (store.pageState id).look = .ok contents) :
    (∃ serial got, store.pin id = (.ok serial, got) ∧ Brings store id contents serial got) ∨
    store.line.visit store.stuck id = none ∧ ∃ place fault after,
      store.unwritable.get? place = some fault ∧
      store.pin id = (.error (.io (.other fault)), after) := by
  cases found : store.frames.get? id with
  | some frame =>
      rw [PageState.look_of_cached (copy_of_cached (cached?_of_frame found))] at seen
      cases seen
      exact .inl ⟨frame.serial, _, pin_of_cached found, accounted.hit_brings found⟩
  | none =>
      rw [PageState.look_of_absent (copy_of_uncached (cached?_of_missing found))] at seen
      obtain ⟨page, read, rfl⟩ := readPage_of_stored seen
      exact sound.load_brings accounted spacious found read

theorem Brings.unpin (brings : Brings store handle.page contents handle.serial middle) :
    (middle.unpin handle).stuck = store.stuck ∧
      store.line.visit store.stuck handle.page = some (middle.unpin handle).line := by
  obtain ⟨frame, found, serial, pins, -⟩ := brings.frame
  have lasts := lasts_unpin middle handle
  have unwritable : (middle.unpin handle).unwritable = middle.unwritable := by rw [unpin_eq]
  constructor
  · rw [← brings.stuck]
    funext id
    exact stuck_congr (cached?_unpin middle handle id) unwritable
  · rcases policy_unpin middle handle with ⟨own, known, -, policy⟩ | ⟨unled, -⟩
    · cases found.symm.trans known
      rw [pins, if_pos rfl] at policy
      rw [brings.visits, line, policy, brings.ordered.order_unpin, lasts.capacity,
        brings.capacity]
    · exact absurd serial (unled frame found)

/-! ## Requests -/

structure Lone (store : Store) (txn : TxnId) : Prop where
  sound : store.Sound
  addressable : store.Addressable
  backed : store.Backed
  accounted : store.Accounted []
  spacious : 0 < store.capacity
  alone : ∀ other id, other ≠ txn → store.locks.mode? other id = none

/-- The transaction is still alone, no page looks different, and the same pages are
stuck. -/
structure Browses (store : Store) (txn : TxnId) (after : Store) : Prop
    extends Alike store after where
  lone : after.Lone txn
  stuck : after.stuck = store.stuck

structure Visits (store : Store) (txn : TxnId) (id : PageId) (after : Store) : Prop
    extends Browses store txn after where
  line : store.line.visit store.stuck id = some after.line

variable {request : PageRequest}

theorem Lone.browses (lone : store.Lone txn) : Browses store txn store :=
  ⟨lone.backed.alike lone.sound lone.addressable, lone, rfl⟩

theorem Browses.trans (first : Browses store txn middle) (second : Browses middle txn after) :
    Browses store txn after :=
  ⟨first.toAlike.trans second.toAlike, second.lone, second.stuck.trans first.stuck⟩

theorem Lone.visits (lone : store.Lone txn) (timely : request.Timely store txn)
    (run : store.attempt request = (.finished (.ok handle), middle))
    (brings : Brings store handle.page contents handle.serial middle) :
    Visits store txn handle.page (middle.unpin handle) := by
  have fetched := lone.backed.attempted lone.sound lone.addressable timely run
  have alike :=
    fetched.trans (fetched.backed.unpinned fetched.sound fetched.addressable handle)
  obtain ⟨stuck, line⟩ := brings.unpin
  obtain ⟨-, accounted⟩ :=
    lone.accounted.steps lone.sound.fitting (lone.sound.fitting.attempt [] run)
  have given : (middle.unpin handle).Accounted (([handle] : List Handle).erase handle) :=
    accounted.give List.mem_cons_self
  rw [List.erase_cons_head] at given
  refine ⟨⟨alike, ⟨alike.sound, alike.addressable, alike.backed, given, alike.capacity ▸ lone.spacious, ?_⟩, stuck⟩, line⟩
  intro other id different
  have attempted : Attempted (fun _ => True) request store middle _ :=
    lone.sound.attempted (timely.1 ▸ timely.2) run .any
  rw [(fetched.sound.unpin handle).2, attempted.others other id (timely.1.symm ▸ different)]
  exact lone.alone other id different

theorem Lone.asked (lone : store.Lone txn) (timely : request.Timely store txn) :
    store.askLock request.txn request.page request.mode = (.granted, store.locked request) := by
  apply askLock_of_granted
  apply LockTable.granted_of_alone
  intro other different
  exact lone.alone other request.page (timely.1 ▸ different)

theorem Lone.visits_of_pinned (lone : store.Lone txn) (timely : request.Timely store txn)
    (pinned : (store.locked request).pin request.page = (.ok serial, middle))
    (brings : Brings (store.locked request) request.page contents serial middle) :
    ∃ handle got frame, store.attempt request = (.finished (.ok handle), got) ∧
      got.frames.get? request.page = some frame ∧ frame.serial = handle.serial ∧
      frame.page.contents = contents ∧ handle.page = request.page ∧
      Visits store txn request.page (got.unpin handle) := by
  obtain ⟨frame, found, own, -, content⟩ := brings.frame
  have run := attempt_of_pinned (lone.asked timely) pinned
  let handle : Handle := ⟨request.page, request.mode, request.txn, serial⟩
  have brought : Brings store handle.page contents handle.serial middle :=
    ⟨brings.frame, brings.stuck, brings.capacity, brings.ordered, brings.visits⟩
  exact ⟨_, _, frame, run, found, own, content, rfl, lone.visits timely run brought⟩

/-- The request of a transaction that is alone fails for the reason for which the page
cannot be read; else the page is visited, or a stuck page is in the way. -/
theorem Lone.attempt (lone : store.Lone txn) (timely : request.Timely store txn) :
    (∀ error, (store.pageState request.page).look = .error error →
      ∃ after, store.attempt request = (.finished (.error error), after)) ∧
    ∀ contents, (store.pageState request.page).look = .ok contents →
      (∃ handle got frame, store.attempt request = (.finished (.ok handle), got) ∧
        got.frames.get? request.page = some frame ∧ frame.serial = handle.serial ∧
        frame.page.contents = contents ∧ handle.page = request.page ∧
        Visits store txn request.page (got.unpin handle)) ∨
      store.line.visit store.stuck request.page = none ∧ ∃ place fault after,
        store.unwritable.get? place = some fault ∧
        store.attempt request = (.finished (.error (.io (.other fault))), after) := by
  have asked := lone.asked timely
  have locked : (store.locked request).Sound :=
    (relock_rests lone.sound.locks.acquire).sound lone.sound
  have accounted : (store.locked request).Accounted [] := lone.accounted.stays (Edit.relock _).stays
  constructor
  · intro error unseen
    cases found : store.frames.get? request.page with
    | some frame =>
        rw [PageState.look_of_cached (copy_of_cached (cached?_of_frame found))] at unseen
        cases unseen
    | none =>
        rw [PageState.look_of_absent (copy_of_uncached (cached?_of_missing found))] at unseen
        have absent : (store.locked request).frames.get? request.page = none := found
        have unread : (store.locked request).readPage request.page = .error error :=
          readPage_of_unstored unseen
        have failed : (store.locked request).pin request.page =
            (.error error, store.locked request) := by
          rw [Store.pin, absent]
          simp only [unread]
        exact ⟨_, attempt_of_unpinned asked failed⟩
  · intro contents seen
    rcases locked.pin_brings accounted lone.spacious seen with
      ⟨serial, got, pinned, brings⟩ | ⟨full, place, fault, after, refused, failed⟩
    · exact .inl (lone.visits_of_pinned timely pinned brings)
    · exact .inr ⟨full, place, fault, _, refused, attempt_of_unpinned asked failed⟩

end Store

end TableStore
