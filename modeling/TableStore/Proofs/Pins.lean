import Mathlib.Data.List.Count
import TableStore.Proofs.Turns

/-!
# Pins and the order of use

While a page has a handle it is pinned and stays in the cache.  The number of
its pins is the number of its handles, and the queue of the pages that may leave
the cache lists the cached pages without pins.
-/

set_option autoImplicit false

namespace TableStore

namespace RecencyQueue

variable {queue : RecencyQueue} {page other : PageId} {tick : Nat}

/-- The stamps by page and by age are the same, and none is to come. -/
structure Sound (queue : RecencyQueue) : Prop where
  stamps : ∀ page tick, queue.lastUse.get? page = some tick ↔ queue.byAge.get? tick = some page
  past : ∀ page tick, queue.lastUse.get? page = some tick → tick ≤ queue.tick

def lists (queue : RecencyQueue) (page : PageId) : Bool := queue.lastUse.contains page

theorem sound_unused (tick : Nat) : ({ tick } : RecencyQueue).Sound := by
  refine ⟨fun page stamp => ?_, fun page stamp stamped => ?_⟩
  · simp
  · simp at stamped

theorem sound_empty : ({} : RecencyQueue).Sound := sound_unused 0

theorem Sound.without (sound : queue.Sound) (stamped : queue.lastUse.get? page = some tick) :
    ({ queue with
      lastUse := queue.lastUse.erase page
      byAge := queue.byAge.erase tick } : RecencyQueue).Sound := by
  have aged := (sound.stamps page tick).mp stamped
  refine ⟨fun other mark => ?_, fun other mark found => ?_⟩
  · simp only [SortedMap.get?_erase]
    by_cases same : other = page
    · subst same
      rw [if_pos rfl]
      by_cases equal : mark = tick
      · simp [equal]
      · rw [if_neg equal, ← sound.stamps, stamped]
        simp [Ne.symm equal]
    · rw [if_neg same]
      by_cases equal : mark = tick
      · subst equal
        rw [if_pos rfl, sound.stamps, aged]
        simp [Ne.symm same]
      · rw [if_neg equal, sound.stamps]
  · rw [SortedMap.get?_erase] at found
    split at found
    · cases found
    · exact sound.past other mark found

theorem Sound.remove (sound : queue.Sound) (page : PageId) :
    (queue.remove page).Sound ∧
      ∀ other, (queue.remove page).lists other = (!decide (other = page) && queue.lists other) := by
  rw [RecencyQueue.remove]
  split
  · next tick stamped =>
      refine ⟨sound.without stamped, fun other => ?_⟩
      rw [lists, lists, SortedMap.contains, SortedMap.contains, SortedMap.get?_erase]
      by_cases same : other = page <;> simp [same]
  · next absent =>
      refine ⟨sound, fun other => ?_⟩
      by_cases same : other = page
      · subst same
        simp [lists, SortedMap.contains, absent]
      · simp [same]

theorem Sound.touch (sound : queue.Sound) (page : PageId) :
    (queue.touch page).Sound ∧
      ∀ other, (queue.touch page).lists other = (decide (other = page) || queue.lists other) := by
  obtain ⟨rest, lists⟩ := sound.remove page
  have unlisted : (queue.remove page).lastUse.get? page = none := by
    have absent := lists page
    simp only [RecencyQueue.lists, SortedMap.contains] at absent
    simpa using absent
  have unaged : (queue.remove page).byAge.get? ((queue.remove page).tick + 1) = none := by
    cases aged : (queue.remove page).byAge.get? ((queue.remove page).tick + 1) with
    | none => rfl
    | some other =>
        have old := rest.past other _ ((rest.stamps other _).mpr aged)
        omega
  refine ⟨⟨fun other mark => ?_, fun other mark found => ?_⟩, fun other => ?_⟩
  · simp only [RecencyQueue.touch, SortedMap.get?_insert]
    by_cases same : other = page
    · subst same
      rw [if_pos rfl]
      by_cases equal : mark = (queue.remove other).tick + 1
      · simp [equal]
      · rw [if_neg equal, ← rest.stamps, unlisted]
        simp [Ne.symm equal]
    · rw [if_neg same]
      by_cases equal : mark = (queue.remove page).tick + 1
      · subst equal
        rw [if_pos rfl, rest.stamps, unaged]
        simp [Ne.symm same]
      · rw [if_neg equal, rest.stamps]
  · simp only [RecencyQueue.touch, SortedMap.get?_insert] at found ⊢
    split at found
    · cases found
      exact Nat.le_refl _
    · exact Nat.le_succ_of_le (rest.past other mark found)
  · have kept := lists other
    simp only [RecencyQueue.lists, RecencyQueue.touch, SortedMap.contains,
      SortedMap.get?_insert] at kept ⊢
    by_cases same : other = page
    · simp [same]
    · simpa [same] using kept

/-- The page that leaves the queue was in it; there is one unless the queue is
empty. -/
theorem Sound.evict (sound : queue.Sound) :
    (queue.evict = (none, queue) ∧ ∀ page, queue.lists page = false) ∨
    ∃ page, queue.evict.1 = some page ∧ queue.lists page = true ∧ queue.evict.2.Sound ∧
      ∀ other, queue.evict.2.lists other = (!decide (other = page) && queue.lists other) := by
  cases first : queue.byAge.first? with
  | none =>
      refine .inl ⟨by rw [RecencyQueue.evict, first], fun page => ?_⟩
      cases stamped : queue.lastUse.get? page with
      | none => simp [lists, SortedMap.contains, stamped]
      | some tick =>
          have aged := (sound.stamps page tick).mp stamped
          rw [SortedMap.get?_of_first?_none first] at aged
          cases aged
  | some entry =>
      obtain ⟨tick, page⟩ := entry
      have stamped := (sound.stamps page tick).mpr (SortedMap.get?_of_first? first)
      refine .inr ⟨page, by rw [RecencyQueue.evict, first], by simp [lists, SortedMap.contains, stamped],
        ?_, fun other => ?_⟩
      · rw [RecencyQueue.evict, first]
        exact sound.without stamped
      · rw [RecencyQueue.evict, first, lists, lists, SortedMap.contains, SortedMap.contains,
          SortedMap.get?_erase]
        by_cases same : other = page <;> simp [same]

end RecencyQueue

namespace EvictionPolicy

/-- The policy keeps the order of use of the pages that may leave, if it keeps
any order. -/
def Lists (policy : EvictionPolicy) (idle : PageId → Prop) : Prop :=
  ∀ queue, policy = .leastRecent queue → queue.Sound ∧ ∀ page, queue.lists page = true ↔ idle page

variable {policy : EvictionPolicy} {idle after : PageId → Prop} {page : PageId}

theorem Lists.pin (lists : policy.Lists idle)
    (same : ∀ other, after other ↔ other ≠ page ∧ idle other) : (policy.pin page).Lists after := by
  rintro _ equal
  cases policy with
  | scripted victims => cases equal
  | leastRecent queue =>
      cases equal
      obtain ⟨sound, listed⟩ := lists queue rfl
      obtain ⟨removed, rest⟩ := sound.remove page
      refine ⟨removed, fun other => ?_⟩
      rw [rest, same, ← listed]
      simp

theorem Lists.unpin (lists : policy.Lists idle)
    (same : ∀ other, after other ↔ other = page ∨ idle other) :
    (policy.unpin page).Lists after := by
  rintro _ equal
  cases policy with
  | scripted victims => cases equal
  | leastRecent queue =>
      cases equal
      obtain ⟨sound, listed⟩ := lists queue rfl
      obtain ⟨touched, rest⟩ := sound.touch page
      refine ⟨touched, fun other => ?_⟩
      rw [rest, same, ← listed]
      simp

theorem Lists.congr (lists : policy.Lists idle) (same : ∀ other, after other ↔ idle other) :
    policy.Lists after := by
  intro queue equal
  obtain ⟨sound, listed⟩ := lists queue equal
  exact ⟨sound, fun other => (listed other).trans (same other).symm⟩

/-- Choosing the page that leaves: nobody is chosen only if no page may leave,
and a page that is chosen by the order of use may leave. -/
theorem Lists.evict_none (lists : policy.Lists idle) (chosen : policy.evict.1 = none) :
    policy.evict.2.Lists idle ∧ (∀ queue, policy = .leastRecent queue → ∀ other, ¬ idle other) := by
  cases policy with
  | scripted victims =>
      refine ⟨fun queue equal => ?_, fun queue equal => by cases equal⟩
      cases victims <;> cases equal
  | leastRecent queue =>
      obtain ⟨sound, listed⟩ := lists queue rfl
      rcases sound.evict with ⟨run, empty⟩ | ⟨page, first, -⟩
      · refine ⟨?_, ?_⟩
        · change (EvictionPolicy.leastRecent queue.evict.2).Lists idle
          rw [run]
          exact lists
        · rintro _ ⟨⟩ other may
          have listing := (listed other).mpr may
          rw [empty] at listing
          cases listing
      · rw [show (EvictionPolicy.leastRecent queue).evict.1 = queue.evict.1 from rfl, first] at chosen
        cases chosen

theorem Lists.evict_some (lists : policy.Lists idle) (chosen : policy.evict.1 = some page)
    (same : ∀ other, after other ↔ other ≠ page ∧ idle other) :
    policy.evict.2.Lists after ∧ (∀ queue, policy = .leastRecent queue → idle page) := by
  cases policy with
  | scripted victims =>
      refine ⟨fun queue equal => ?_, fun queue equal => by cases equal⟩
      cases victims <;> cases equal
  | leastRecent queue =>
      obtain ⟨sound, listed⟩ := lists queue rfl
      have first : queue.evict.1 = some page := chosen
      rcases sound.evict with ⟨run, -⟩ | ⟨other, found, member, rest, others⟩
      · rw [run] at first
        cases first
      · cases found.symm.trans first
        refine ⟨?_, ?_⟩
        · intro _ known
          cases known
          refine ⟨rest, fun other => ?_⟩
          rw [others, same, ← listed]
          simp
        · intro _ known
          cases known
          exact (listed page).mp member

theorem recent_pin (recent : ∃ queue, policy = .leastRecent queue) (page : PageId) :
    ∃ queue, policy.pin page = .leastRecent queue := by
  obtain ⟨queue, rfl⟩ := recent
  exact ⟨_, rfl⟩

theorem recent_unpin (recent : ∃ queue, policy = .leastRecent queue) (page : PageId) :
    ∃ queue, policy.unpin page = .leastRecent queue := by
  obtain ⟨queue, rfl⟩ := recent
  exact ⟨_, rfl⟩

theorem recent_evict (recent : ∃ queue, policy = .leastRecent queue) :
    ∃ queue, policy.evict.2 = .leastRecent queue := by
  obtain ⟨queue, rfl⟩ := recent
  exact ⟨_, rfl⟩

end EvictionPolicy

namespace Store

def handlesTo (handles : List Handle) (id : PageId) : Nat :=
  handles.countP fun handle => decide (handle.page = id)

def Idle (store : Store) (id : PageId) : Prop :=
  ∃ frame, store.frames.get? id = some frame ∧ frame.pins = 0

/-- Every handle leads to a cached page, pins are handles, and the order of use
is that of the pages without pins. -/
structure Pinned (store : Store) (handles : List Handle) : Prop where
  handle : ∀ handle ∈ handles, store.Holds handle.page handle.serial
  pins : ∀ id frame, store.frames.get? id = some frame → frame.pins = handlesTo handles id
  lists : store.policy.Lists store.Idle

def Idles (store after : Store) : Prop :=
  ∀ victims id frame, store.policy = .scripted victims → store.frames.get? id = some frame →
    after.frames.get? id = none → frame.pins = 0

instance (store after : Store) : Decidable (Idles store after) :=
  match policy : store.policy with
  | .leastRecent _ => .isTrue fun _ _ _ scripted => by
      rw [policy] at scripted
      cases scripted
  | .scripted victims =>
      decidable_of_iff
        (∀ entry ∈ store.frames.entries, after.frames.get? entry.1 = none → entry.2.pins = 0)
        ⟨fun all _ id frame _ found gone =>
          all (id, frame) (SortedMap.mem_entries_iff.mpr found) gone,
        fun idles entry member gone =>
          idles victims entry.1 entry.2 policy (SortedMap.mem_entries_iff.mp member) gone⟩

variable {store middle after : Store} {handles : List Handle} {handle : Handle} {id : PageId}
  {frame : Frame}

theorem handlesTo_pos (member : handle ∈ handles) : 0 < handlesTo handles handle.page :=
  List.countP_pos_iff.mpr ⟨handle, member, by simp⟩

theorem Pinned.congr (pinned : Pinned store handles) (policy : after.policy = store.policy)
    (hold : ∀ id, (after.frames.get? id).map Frame.hold = (store.frames.get? id).map Frame.hold) :
    Pinned after handles := by
  have frames (id : PageId) (frame : Frame) (found : after.frames.get? id = some frame) :
      ∃ before, store.frames.get? id = some before ∧ before.pins = frame.pins ∧
        before.serial = frame.serial := by
    have same := hold id
    rw [found, Option.map_some] at same
    obtain ⟨before, known, equal⟩ := Option.map_eq_some_iff.mp same.symm
    simp only [Frame.hold, Prod.mk.injEq] at equal
    exact ⟨before, known, equal.1, equal.2⟩
  have back (id : PageId) (frame : Frame) (found : store.frames.get? id = some frame) :
      ∃ later, after.frames.get? id = some later ∧ later.pins = frame.pins ∧
        later.serial = frame.serial := by
    have same := hold id
    rw [found, Option.map_some] at same
    obtain ⟨later, known, equal⟩ := Option.map_eq_some_iff.mp same
    simp only [Frame.hold, Prod.mk.injEq] at equal
    exact ⟨later, known, equal.1, equal.2⟩
  refine ⟨fun handle member => ?_, fun id frame found => ?_, ?_⟩
  · obtain ⟨frame, found, serial⟩ := pinned.handle handle member
    obtain ⟨later, known, -, same⟩ := back _ frame found
    exact ⟨later, known, same.trans serial⟩
  · obtain ⟨before, known, pins, -⟩ := frames id frame found
    exact pins.symm.trans (pinned.pins id before known)
  · rw [policy]
    refine pinned.lists.congr fun other => ⟨?_, ?_⟩
    · rintro ⟨frame, found, none⟩
      obtain ⟨before, known, pins, -⟩ := frames other frame found
      exact ⟨before, known, pins.trans none⟩
    · rintro ⟨frame, found, none⟩
      obtain ⟨later, known, pins, -⟩ := back other frame found
      exact ⟨later, known, pins.trans none⟩

theorem Still.pinned (still : Still store after) (pinned : Pinned store handles) :
    Pinned after handles :=
  pinned.congr still.policy still.hold

theorem Pinned.of_frames (pinned : Pinned store handles) (policy : after.policy = store.policy)
    (frames : after.frames = store.frames) : Pinned after handles :=
  pinned.congr policy fun id => by rw [frames]

theorem handlesTo_erase (member : handle ∈ handles) (id : PageId) :
    handlesTo (handles.erase handle) id =
      if id = handle.page then handlesTo handles id - 1 else handlesTo handles id := by
  rw [handlesTo, handlesTo, List.countP_erase]
  by_cases here : id = handle.page
  · simp [member, here]
  · simp [here, Ne.symm here]

section

variable {frame : Frame} (found : store.frames.get? handle.page = some frame)
  (led : frame.serial = handle.serial)

include found led

theorem frames_unpin_led (id : PageId) : (store.unpin handle).frames.get? id =
    if id = handle.page then some { frame with pins := frame.pins - 1 }
    else store.frames.get? id := by
  simp only [Store.unpin, found, led, if_true]
  rw [SortedMap.get?_insert]

/-- A page whose last handle is given up may leave. -/
theorem lists_unpin (lists : store.policy.Lists store.Idle) (pinned : 0 < frame.pins) :
    (store.unpin handle).policy.Lists (store.unpin handle).Idle := by
  have policy : (store.unpin handle).policy =
      if frame.pins - 1 = 0 then store.policy.unpin handle.page else store.policy := by
    simp only [Store.unpin, found, led, if_true]
  have idle (id : PageId) : (store.unpin handle).Idle id ↔
      if id = handle.page then frame.pins - 1 = 0 else store.Idle id := by
    rw [Idle, frames_unpin_led found led]
    split
    · simp
    · rfl
  have busy : ¬ store.Idle handle.page := by
    rintro ⟨own, known, none⟩
    cases known.symm.trans found
    omega
  rw [policy]
  split
  · next last =>
      apply lists.unpin
      intro other
      rw [idle]
      by_cases here : other = handle.page <;> simp [here, last]
  · next more =>
      apply lists.congr
      intro other
      rw [idle]
      by_cases here : other = handle.page
      · simp [here, more, busy]
      · simp [here]

end

theorem Pinned.unpin (pinned : Pinned store handles) (member : handle ∈ handles) :
    Pinned (store.unpin handle) (handles.erase handle) := by
  obtain ⟨frame, found, led⟩ := pinned.handle handle member
  have pins := pinned.pins _ frame found
  have frames := frames_unpin_led found led
  refine ⟨fun other kept => ?_, fun id later known => ?_,
    lists_unpin found led pinned.lists (pins ▸ handlesTo_pos member)⟩
  · obtain ⟨own, known, same⟩ := pinned.handle other (List.mem_of_mem_erase kept)
    rw [Holds, frames]
    by_cases here : other.page = handle.page
    · rw [here, found] at known
      cases known
      exact ⟨_, if_pos here, same⟩
    · exact ⟨own, (if_neg here).trans known, same⟩
  · rw [frames] at known
    rw [handlesTo_erase member]
    split at known
    · next here =>
        cases known
        rw [if_pos here, here, ← pins]
    · next other =>
        rw [if_neg other]
        exact pinned.pins id later known

theorem Pinned.leaves (pinned : Pinned store handles) {victim : PageId} {frame : Frame}
    (chosen : store.policy.evict.1 = some victim) (found : store.frames.get? victim = some frame)
    (free : frame.pins = 0) (leaves : Leaves store after victim)
    (policy : after.policy = store.policy.evict.2) : Pinned after handles := by
  refine ⟨fun handle member => ?_, fun id later known => ?_, ?_⟩
  · obtain ⟨own, known, serial⟩ := pinned.handle handle member
    have other : handle.page ≠ victim := by
      intro here
      have some := handlesTo_pos member
      rw [here, ← pinned.pins victim frame found] at some
      omega
    exact ⟨own, by rw [leaves.frames, if_neg other]; exact known, serial⟩
  · rw [leaves.frames] at known
    split at known
    · cases known
    · exact pinned.pins id later known
  · rw [policy]
    apply (pinned.lists.evict_some chosen fun other => ?_).1
    rw [Idle, leaves.frames]
    split
    · next here => simp [here]
    · next other => simp [other, Idle]

theorem Pinned.evict (pinned : Pinned store handles) (sound : store.Sound)
    {result : Except StoreError Unit} (run : store.evict = (result, after))
    (idles : Idles store after) : Pinned after handles := by
  cases sound.evict_cases run with
  | nobody chosen =>
      exact ⟨pinned.handle, pinned.pins, (pinned.lists.evict_none chosen).1⟩
  | stray chosen absent =>
      refine ⟨pinned.handle, pinned.pins, (pinned.lists.evict_some chosen fun other => ?_).1⟩
      refine ⟨fun idle => ⟨?_, idle⟩, fun idle => idle.2⟩
      rintro rfl
      obtain ⟨frame, found, -⟩ := idle
      cases absent.symm.trans found
  | @stays victim _ _ chosen found dirty refused =>
      refine ⟨pinned.handle, pinned.pins, ?_⟩
      cases known : store.policy with
      | scripted victims =>
          intro queue equal
          cases victims <;> cases equal
      | leastRecent queue =>
          rw [known] at chosen
          have lists := pinned.lists
          rw [known] at lists
          obtain ⟨rest, idle⟩ := lists.evict_some chosen fun other => Iff.rfl
          apply rest.unpin
          intro other
          by_cases here : other = victim
          · simp only [here, true_or, iff_true]
            exact idle queue rfl
          · simp only [here, false_or, ne_eq, not_false_eq_true, true_and]
            rfl
  | @leaves victim frame _ chosen found _ leaves policy =>
      have free : frame.pins = 0 := by
        cases known : store.policy with
        | scripted victims =>
            exact idles victims victim frame known found (by rw [leaves.frames, if_pos rfl])
        | leastRecent queue =>
            obtain ⟨-, idle⟩ := pinned.lists.evict_some chosen fun other => Iff.rfl
            obtain ⟨own, again, none⟩ := idle queue known
            cases found.symm.trans again
            exact none
      exact pinned.leaves chosen found free leaves policy

theorem Pinned.install (pinned : Pinned store handles) {page : Page}
    (absent : store.frames.get? handle.page = none)
    (frames : ∀ id, after.frames.get? id =
      if id = handle.page then some ⟨page, 1, handle.serial⟩ else store.frames.get? id)
    (policy : after.policy = store.policy) : Pinned after (handle :: handles) := by
  have none : handlesTo handles handle.page = 0 := by
    rw [handlesTo, List.countP_eq_zero]
    intro other member here
    obtain ⟨frame, found, -⟩ := pinned.handle other member
    rw [of_decide_eq_true here, absent] at found
    cases found
  refine ⟨fun other member => ?_, fun id frame found => ?_, ?_⟩
  · rw [Holds, frames]
    rcases List.mem_cons.mp member with rfl | member
    · exact ⟨_, if_pos rfl, rfl⟩
    · obtain ⟨frame, found, serial⟩ := pinned.handle other member
      have different : other.page ≠ handle.page := by
        intro here
        rw [here, absent] at found
        cases found
      exact ⟨frame, (if_neg different).trans found, serial⟩
  · rw [frames] at found
    rw [handlesTo, List.countP_cons]
    split at found
    · next here =>
        cases found
        subst here
        rw [show handles.countP _ = 0 from none]
        simp
    · next other =>
        rw [pinned.pins id frame found]
        simp [handlesTo, Ne.symm other]
  · rw [policy]
    apply pinned.lists.congr
    intro other
    rw [Idle, frames]
    split
    · next here => simp [here, Idle, absent]
    · rfl

theorem Pinned.hit (pinned : Pinned store handles)
    (found : store.frames.get? handle.page = some frame) (serial : frame.serial = handle.serial)
    (frames : ∀ id, after.frames.get? id =
      if id = handle.page then some { frame with pins := frame.pins + 1 }
      else store.frames.get? id)
    (policy : after.policy = store.policy.pin handle.page) :
    Pinned after (handle :: handles) := by
  refine ⟨fun other member => ?_, fun id later known => ?_, ?_⟩
  · rw [Holds, frames]
    rcases List.mem_cons.mp member with rfl | member
    · exact ⟨_, if_pos rfl, serial⟩
    · obtain ⟨own, known, same⟩ := pinned.handle other member
      split
      · next here =>
          rw [here, found] at known
          cases known
          exact ⟨_, rfl, same⟩
      · exact ⟨own, known, same⟩
  · rw [frames] at known
    rw [handlesTo, List.countP_cons]
    split at known
    · next here =>
        cases known
        subst here
        rw [pinned.pins _ frame found]
        simp [handlesTo]
    · next other =>
        rw [pinned.pins id later known]
        simp [handlesTo, Ne.symm other]
  · rw [policy]
    apply pinned.lists.pin
    intro other
    rw [Idle, frames]
    split
    · next here => simp [here]
    · next other => simp [other, Idle]

/-! ## Requests -/

theorem Pinned.pin_ok (pinned : Pinned store handles) (sound : store.Sound)
    (run : store.pin handle.page = (.ok handle.serial, after)) (idles : Idles store after) :
    Pinned after (handle :: handles) := by
  generalize result : (.ok handle.serial : Except StoreError Nat) = answer at run
  cases pin_cases run with
  | hits found =>
      exact pinned.hit found (Except.ok.inj result).symm (fun other => SortedMap.get?_insert ..) rfl
  | unreadable => cases result
  | @loads page room absent read made =>
      have serial : handle.serial = room.nextSerial := Except.ok.inj result
      obtain ⟨table, registered, -, -, fits, -⟩ := sound.readPage_ok read
      have frames (other : PageId) : (room.install page).2.frames.get? other =
          if other = handle.page then some ⟨page, 1, handle.serial⟩
          else room.frames.get? other := by
        rw [← fits.id, serial]
        exact SortedMap.get?_insert room.frames page.id other _
      have roomPinned : Pinned room handles ∧ room.frames.get? handle.page = none := by
        rcases made with ⟨-, rfl⟩ | ⟨-, evicted⟩
        · exact ⟨pinned, absent⟩
        · have still := (sound.evict_absent evicted absent).1
          refine ⟨pinned.evict sound evicted fun victims other frame scripted found gone => ?_, still⟩
          apply idles victims other frame scripted found
          rw [frames, if_neg]
          · exact gone
          · rintro rfl
            cases absent.symm.trans found
      exact roomPinned.1.install roomPinned.2 frames rfl
  | blocked => cases result

theorem Pinned.pin_error (pinned : Pinned store handles) (sound : store.Sound)
    {error : StoreError} (run : store.pin id = (.error error, after))
    (idles : Idles store after) : Pinned after handles := by
  cases pin_cases run with
  | unreadable => exact pinned
  | blocked _ _ _ evicted => exact pinned.evict sound evicted idles

def kept (answer : Progress PageRequest (Except StoreError Handle)) (handles : List Handle) :
    List Handle :=
  match answer with
  | .finished (.ok handle) => handle :: handles
  | _ => handles

theorem Pinned.attempt (pinned : Pinned store handles) (sound : store.Sound)
    {request : PageRequest} {answer : Progress PageRequest (Except StoreError Handle)}
    (run : store.attempt request = (answer, after)) (idles : Idles store after) :
    Pinned after (kept answer handles) := by
  have lockedPinned : Pinned (store.locked request) handles := pinned.of_frames rfl rfl
  have lockedSound : (store.locked request).Sound := (relock_rests sound.locks.acquire).sound sound
  cases attempt_cases run with
  | pins granted pinning => exact lockedPinned.pin_ok lockedSound pinning idles
  | @fails error middle granted pinning =>
      obtain ⟨locks, same⟩ := giveBack_relocked middle request error
      rw [same] at idles ⊢
      exact (lockedPinned.pin_error lockedSound pinning idles).of_frames rfl rfl
  | waits refused free => exact lockedPinned
  | deadlock refused circle => exact pinned.of_frames rfl rfl

/-! ## Steps of operations -/

structure Used (got after : Store) (handle : Handle) : Prop where
  changed : ∃ changed, Still got changed ∧ after.frames = (changed.unpin handle).frames ∧
    after.policy = (changed.unpin handle).policy
  locks : after.locks = got.locks

theorem Used.gone {got : Store} (used : Used got after handle) (id : PageId)
    (gone : got.frames.get? id = none) : after.frames.get? id = none := by
  obtain ⟨changed, still, frames, -⟩ := used.changed
  have absent : changed.cached? id = none := still.absent id (cached?_of_missing gone)
  have unpinned := (cached?_unpin changed handle id).trans absent
  rw [cached?, Option.map_eq_none_iff] at unpinned
  rw [frames]
  exact unpinned

theorem Used.unpinned {got : Store} (sound : got.Sound) (handle : Handle) :
    Used got (got.unpin handle) handle :=
  ⟨⟨got, .refl got, rfl, rfl⟩, (sound.unpin handle).2⟩

theorem Changes.used {txn : TxnId} {change : Change} (changes : Changes store middle txn change)
    (handle : Handle) : Used store (middle.unpin handle) handle :=
  ⟨⟨middle, changes.toStill, rfl, rfl⟩, (changes.sound.unpin handle).2.trans changes.locks⟩

inductive Stepped (txn : TxnId) (store after : Store) : Option Handle → Prop
  | stays (same : after = store) : Stepped txn store after none
  | asked (request : PageRequest) (answer : Progress PageRequest (Except StoreError Handle))
      (timely : request.Timely store txn) (run : store.attempt request = (answer, after)) :
      Stepped txn store after (kept answer []).head?
  | used (request : PageRequest) (handle : Handle) (got : Store)
      (timely : request.Timely store txn)
      (run : store.attempt request = (.finished (.ok handle), got)) (used : Used got after handle) :
      Stepped txn store after none

variable {turn : Turn} {txn : TxnId}

theorem Sound.stepped (sound : store.Sound) {operation : Operation}
    (ready : operation.Ready store txn) (run : operation.step store = (turn, after)) :
    Stepped txn store after turn.handle := by
  cases sound.steps ready run with
  | seeks => exact .stays rfl
  | stops => exact .stays rfl
  | waits timely attempt => exact .asked _ _ timely attempt
  | fails timely attempt => exact .asked _ _ timely attempt
  | fetches granted => exact .asked _ _ granted.timely granted.attempt
  | reads granted =>
      exact .used _ _ _ granted.timely granted.attempt (.unpinned granted.sound _)
  | leaves granted =>
      exact .used _ _ _ granted.timely granted.attempt (.unpinned granted.sound _)
  | changes granted changing exclusive changes =>
      exact .used _ _ _ granted.timely granted.attempt (changes.used _)
  | turns granted own exclusive finds =>
      subst own
      obtain ⟨-, locks⟩ := granted.sound.unpin _
      obtain ⟨unpinned, catalog⟩ := granted.unpinned
      have grows := finds.grows unpinned (catalog ▸ ready.1)
      exact .used _ _ _ granted.timely granted.attempt
        ⟨⟨_, .refl _, grows.frames, grows.policy⟩, grows.locks.trans locks⟩

theorem Stepped.pinned {fetched : Option Handle} (stepped : Stepped txn store after fetched)
    (sound : store.Sound) (pinned : Pinned store handles) (idles : Idles store after) :
    Pinned after (fetched.toList ++ handles) := by
  cases stepped with
  | stays same => exact same ▸ pinned
  | asked request answer timely run =>
      have later := pinned.attempt sound run idles
      rcases answer with _ | _ | _ <;> exact later
  | used request handle got timely run used =>
      have idle : Idles store got := fun victims id frame scripted found gone =>
        idles victims id frame scripted found (used.gone id gone)
      have later : Pinned got (handle :: handles) := pinned.attempt sound run idle
      obtain ⟨changed, still, frames, policy⟩ := used.changed
      have given : Pinned (changed.unpin handle) ((handle :: handles).erase handle) :=
        (still.pinned later).unpin List.mem_cons_self
      rw [List.erase_cons_head] at given
      exact given.of_frames policy frames

theorem Stepped.keeps {fetched : Option Handle} (stepped : Stepped txn store after fetched)
    (sound : store.Sound) (other : TxnId) (id : PageId)
    (holds : (store.locks.mode? other id).isSome = true) :
    (after.locks.mode? other id).isSome = true := by
  cases stepped with
  | stays same => exact same ▸ holds
  | asked request answer timely run =>
      have attempted : Attempted (fun _ => True) request store after answer :=
        sound.attempted (timely.1 ▸ timely.2) run .any
      exact attempted.keeps other id holds
  | used request handle got timely run used =>
      have attempted : Attempted (fun _ => True) request store got _ :=
        sound.attempted (timely.1 ▸ timely.2) run .any
      rw [used.locks]
      exact attempted.keeps other id holds

theorem Stepped.owner {fetched : Option Handle} (stepped : Stepped txn store after fetched)
    (sound : store.Sound) (new : fetched = some handle) :
    (after.locks.mode? handle.owner handle.page).isSome = true := by
  cases stepped with
  | stays same => cases new
  | asked request answer timely run =>
      have attempted : Attempted (fun _ => True) request store after answer :=
        sound.attempted (timely.1 ▸ timely.2) run .any
      cases attempted.answered with
      | waiting modes => cases new
      | failed error => cases new
      | granted serial cached mode =>
          cases new
          rw [mode]
          rfl
  | used request handle got timely run used => cases new

end Store

end TableStore
