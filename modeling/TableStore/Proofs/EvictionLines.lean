import TableStore.Address
import Mathlib.Data.List.Count

/-!
# Pages in line to leave

A cache without pins is a number of free places and a line of pages, the one used
longest ago in front.  A page that is visited goes to the end of the line.  If it was not
in it, it takes a free place, or that of the page in front, which may be stuck: then the
visit fails.  Pages that are visited once each, in any order, can still be visited if some
of them had left the cache before: their places are free then.
-/

set_option autoImplicit false

namespace TableStore

/-- The free places of a cache, and its pages in the order in which they may leave. -/
structure Line where
  free : Nat
  order : List PageId
deriving DecidableEq

namespace Line

/-- The line after a visit of a page, unless the page in front is stuck and there is no
other place. -/
def visit (stuck : PageId → Bool) (line : Line) (page : PageId) : Option Line :=
  if page ∈ line.order then some ⟨line.free, line.order.erase page ++ [page]⟩
  else if 0 < line.free then some ⟨line.free - 1, line.order ++ [page]⟩
  else
    match line.order with
    | [] => none
    | front :: rest => if stuck front then none else some ⟨0, rest ++ [page]⟩

def visitAll (stuck : PageId → Bool) (line : Line) (pages : List PageId) : Option Line :=
  pages.foldlM (visit stuck) line

/-- Those of the pages that are visited one after the other before the first that
cannot be visited. -/
def visited (stuck : PageId → Bool) : List PageId → Line → List PageId
  | [], _ => []
  | page :: pages, line =>
      match line.visit stuck page with
      | none => []
      | some after => page :: visited stuck pages after

/-- How many pages of the line can make room or need none: those before the first stuck
one, and those behind it that will be visited. -/
def reach (stuck : PageId → Bool) (wanted : List PageId) : List PageId → Nat
  | [] => 0
  | front :: rest =>
      if stuck front then rest.countP (decide <| · ∈ wanted) else reach stuck wanted rest + 1

variable {stuck own : PageId → Bool} {line after : Line} {page : PageId}
  {pages wanted order : List PageId}

/-! ## One page more at the end of the line -/

theorem reach_concat_le (fresh : page ∉ wanted) (blocked : ∃ other ∈ order, stuck other = true) :
    reach stuck wanted (order ++ [page]) ≤ reach stuck (page :: wanted) order := by
  induction order with
  | nil =>
      obtain ⟨other, inside, -⟩ := blocked
      cases inside
  | cons front rest ih =>
      rw [List.cons_append, reach, reach]
      by_cases here : stuck front = true
      · rw [if_pos here, if_pos here, List.countP_append, List.countP_singleton,
          decide_eq_false fresh]
        exact List.countP_mono_left fun _ _ known => by simp_all
      · rw [if_neg here, if_neg here]
        obtain ⟨other, inside, stays⟩ := blocked
        have behind : other ∈ rest := by
          rcases List.mem_cons.mp inside with rfl | behind
          · exact absurd stays here
          · exact behind
        exact Nat.succ_le_succ (ih ⟨other, behind, stays⟩)

theorem reach_moved_lt (inside : page ∈ order) (moves : stuck page = false)
    (fresh : page ∉ wanted) (blocked : ∃ other ∈ order, stuck other = true) :
    reach stuck wanted (order.erase page ++ [page]) < reach stuck (page :: wanted) order := by
  induction order with
  | nil => cases inside
  | cons front rest ih =>
      obtain ⟨other, within, stays⟩ := blocked
      have behind (differs : other ≠ front) : other ∈ rest :=
        (List.mem_cons.mp within).resolve_left differs
      by_cases same : front = page
      · subst same
        have later : other ∈ rest := behind (by rintro rfl; simp [moves] at stays)
        rw [List.erase_cons_head, reach, moves, if_neg Bool.false_ne_true]
        exact Nat.lt_succ_of_le (reach_concat_le fresh ⟨other, later, stays⟩)
      · have later : page ∈ rest := (List.mem_cons.mp inside).resolve_left (Ne.symm same)
        rw [List.erase_cons_tail (by simpa using same), List.cons_append, reach, reach]
        by_cases here : stuck front = true
        · rw [if_pos here, if_pos here, List.countP_append, List.countP_singleton,
            decide_eq_false fresh]
          have counted := (List.perm_cons_erase later).countP_eq (decide <| · ∈ page :: wanted)
          rw [List.countP_cons_of_pos (by simp)] at counted
          rw [counted]
          exact Nat.lt_succ_of_le (List.countP_mono_left fun _ _ known => by simp_all)
        · rw [if_neg here, if_neg here]
          have differs : other ≠ front := by
            rintro rfl
            exact here stays
          exact Nat.succ_lt_succ (ih later ⟨other, behind differs, stays⟩)

theorem reach_le_concat (order : List PageId) (page : PageId) :
    reach stuck wanted order ≤ reach stuck wanted (order ++ [page]) := by
  induction order with
  | nil => exact Nat.zero_le _
  | cons front rest ih =>
      rw [List.cons_append, reach, reach]
      split
      · rw [List.countP_append]
        exact Nat.le_add_right _ _
      · exact Nat.succ_le_succ ih

/-! ## Visits that succeed -/

theorem visit_cases (run : line.visit stuck page = some after) :
    (page ∈ line.order ∧ after = ⟨line.free, line.order.erase page ++ [page]⟩) ∨
    (page ∉ line.order ∧ 0 < line.free ∧ after = ⟨line.free - 1, line.order ++ [page]⟩) ∨
    ∃ front rest, page ∉ line.order ∧ line.free = 0 ∧ line.order = front :: rest ∧
      stuck front = false ∧ after = ⟨0, rest ++ [page]⟩ := by
  unfold visit at run
  split at run
  · next inside =>
      cases run
      exact .inl ⟨inside, rfl⟩
  · next outside =>
      split at run
      · next free =>
          cases run
          exact .inr (.inl ⟨outside, free, rfl⟩)
      · next full =>
          split at run
          · cases run
          · next front rest known =>
              split at run
              · cases run
              · next leaves =>
                  cases run
                  exact .inr (.inr ⟨front, rest, outside, Nat.eq_zero_of_not_pos full, known,
                    Bool.not_eq_true _ ▸ leaves, rfl⟩)

theorem visit_lt (run : line.visit stuck page = some after) (moves : stuck page = false)
    (fresh : page ∉ wanted) (blocked : ∃ other ∈ line.order, stuck other = true) :
    after.free + reach stuck wanted after.order <
        line.free + reach stuck (page :: wanted) line.order ∧
      ∃ other ∈ after.order, stuck other = true := by
  obtain ⟨other, inside, stays⟩ := blocked
  have differs : other ≠ page := by
    rintro rfl
    simp [moves] at stays
  rcases visit_cases run with
    ⟨here, rfl⟩ | ⟨-, free, rfl⟩ | ⟨front, rest, -, full, known, leaves, rfl⟩
  · have less := reach_moved_lt here moves fresh ⟨other, inside, stays⟩
    refine ⟨Nat.add_lt_add_left less _, other, ?_, stays⟩
    exact List.mem_append_left _ ((List.mem_erase_of_ne differs).mpr inside)
  · have less := reach_concat_le fresh ⟨other, inside, stays⟩
    refine ⟨?_, other, List.mem_append_left _ inside, stays⟩
    dsimp only
    omega
  · have behind : other ∈ rest := by
      rw [known] at inside
      rcases List.mem_cons.mp inside with rfl | behind
      · simp [leaves] at stays
      · exact behind
    have less := reach_concat_le fresh ⟨other, behind, stays⟩
    refine ⟨?_, other, List.mem_append_left _ behind, stays⟩
    rw [known, reach, if_neg (by simp [leaves])]
    dsimp only
    omega

/-- Pages can be visited one after the other only if there is room enough for them. -/
theorem length_le_of_visitAll (distinct : pages.Nodup)
    (moves : ∀ page ∈ pages, stuck page = false)
    (run : line.visitAll stuck pages = some after)
    (blocked : ∃ other ∈ line.order, stuck other = true) :
    pages.length ≤ line.free + reach stuck pages line.order := by
  induction pages generalizing line with
  | nil => exact Nat.zero_le _
  | cons page pages ih =>
      obtain ⟨fresh, rest⟩ := List.nodup_cons.mp distinct
      obtain ⟨here, later⟩ := List.forall_mem_cons.mp moves
      obtain ⟨between, first, others⟩ := Option.bind_eq_some_iff.mp run
      obtain ⟨less, still⟩ := visit_lt first here fresh blocked
      have enough := ih rest later others still
      rw [List.length_cons]
      omega

/-! ## Visits that cannot fail -/

theorem visit_of_room (outside : page ∉ line.order)
    (spacious : 0 < line.free + line.order.length)
    (room : (∃ other ∈ line.order, stuck other = true) →
      0 < line.free + reach stuck [] line.order) :
    ∃ after, line.visit stuck page = some after ∧
      after.free + after.order.length = line.free + line.order.length ∧
      line.free + reach stuck [] line.order ≤ after.free + reach stuck [] after.order + 1 ∧
      (∀ other ∈ after.order, other = page ∨ other ∈ line.order) := by
  by_cases free : 0 < line.free
  · refine ⟨⟨line.free - 1, line.order ++ [page]⟩, ?_, ?_, ?_, ?_⟩
    · rw [visit, if_neg outside, if_pos free]
    · simp only [List.length_append, List.length_singleton]
      omega
    · have grows : reach stuck [] line.order ≤ _ := reach_le_concat line.order page
      dsimp only
      omega
    · intro other inside
      simpa [or_comm] using inside
  · cases known : line.order with
    | nil =>
        rw [known] at spacious
        exact absurd spacious free
    | cons front rest =>
        have leaves : stuck front = false := by
          cases stays : stuck front with
          | false => rfl
          | true =>
              -- behind a stuck page nothing can make room
              have place := room ⟨front, known ▸ List.mem_cons_self, stays⟩
              rw [known, reach, stays, if_pos rfl] at place
              simp at place
              omega
        refine ⟨⟨0, rest ++ [page]⟩, ?_, ?_, ?_, ?_⟩
        · rw [known] at outside
          simp [visit, known, outside, free, leaves]
        · simp only [List.length_append, List.length_cons, List.length_nil]
          omega
        · have grows : reach stuck [] rest ≤ _ := reach_le_concat rest page
          rw [reach, leaves, if_neg Bool.false_ne_true]
          dsimp only
          omega
        · intro other inside
          rcases List.mem_append.mp inside with behind | last
          · exact .inr (List.mem_cons_of_mem _ behind)
          · exact .inl (List.mem_singleton.mp last)

theorem visitAll_of_room (distinct : pages.Nodup) (moves : ∀ page ∈ pages, stuck page = false)
    (outside : ∀ page ∈ pages, page ∉ line.order)
    (spacious : 0 < line.free + line.order.length)
    (room : (∃ other ∈ line.order, stuck other = true) →
      pages.length ≤ line.free + reach stuck [] line.order) :
    (line.visitAll stuck pages).isSome = true := by
  induction pages generalizing line with
  | nil => rfl
  | cons page pages ih =>
      obtain ⟨fresh, rest⟩ := List.nodup_cons.mp distinct
      obtain ⟨here, later⟩ := List.forall_mem_cons.mp moves
      obtain ⟨absent, others⟩ := List.forall_mem_cons.mp outside
      obtain ⟨after, visited, places, less, listed⟩ := visit_of_room absent spacious
        fun blocked => Nat.lt_of_lt_of_le (Nat.succ_pos _) (room blocked)
      have goesOn : (after.visitAll stuck pages).isSome = true := by
        apply ih rest later
        · intro other wanted inside
          rcases listed other inside with rfl | before
          · exact fresh wanted
          · exact others other wanted before
        · rw [places]
          exact spacious
        · rintro ⟨other, inside, stays⟩
          have before : other ∈ line.order := by
            refine (listed other inside).resolve_left ?_
            rintro rfl
            simp [here] at stays
          have enough := room ⟨other, before, stays⟩
          rw [List.length_cons] at enough
          omega
      rw [visitAll, List.foldlM_cons, visited]
      exact goesOn

/-! ## Pages that have left before -/

theorem reach_le_without (subset : ∀ page ∈ pages, own page = true)
    (moves : ∀ page, own page = true → stuck page = false) (order : List PageId) :
    reach stuck pages order ≤ order.countP own + reach stuck [] (order.filter (! own ·)) := by
  induction order with
  | nil => exact Nat.le_refl _
  | cons front rest ih =>
      rw [reach]
      by_cases stays : stuck front = true
      · have foreign : own front = false := by
          cases mine : own front with
          | false => rfl
          | true => exact absurd (moves front mine) (by simp [stays])
        rw [if_pos stays, List.countP_cons_of_neg (by simp [foreign])]
        apply Nat.le_add_right_of_le
        exact List.countP_mono_left fun other _ known => subset other (of_decide_eq_true known)
      · rw [if_neg stays]
        cases mine : own front with
        | true =>
            rw [List.countP_cons_of_pos mine, List.filter_cons_of_neg (by simp [mine])]
            omega
        | false =>
            rw [List.countP_cons_of_neg (by simp [mine]), List.filter_cons_of_pos (by simp [mine]),
              reach, if_neg stays]
            omega

def without (own : PageId → Bool) (line : Line) : Line :=
  ⟨line.free + line.order.countP own, line.order.filter (! own ·)⟩

theorem length_without (own : PageId → Bool) (line : Line) :
    line.order.countP own + (line.without own).order.length = line.order.length := by
  have parts := List.length_eq_countP_add_countP own (l := line.order)
  have rest : (line.order.filter (! own ·)).length = line.order.countP fun page => ¬ own page := by
    rw [← List.countP_eq_length_filter]
    simp
  rw [parts, without, rest]

/-- If pages can be visited one after the other, they can still be visited after they,
and others of their kind, have left. -/
theorem visitAll_without (distinct : pages.Nodup) (subset : ∀ page ∈ pages, own page = true)
    (moves : ∀ page, own page = true → stuck page = false)
    (spacious : 0 < line.free + line.order.length)
    (run : (line.visitAll stuck pages).isSome = true) :
    ((line.without own).visitAll stuck pages).isSome = true := by
  have movable (page : PageId) (inside : page ∈ pages) : stuck page = false :=
    moves page (subset page inside)
  apply visitAll_of_room distinct movable
  · intro page inside listed
    have foreign := (List.mem_filter.mp listed).2
    simp [subset page inside] at foreign
  · have length := length_without own line
    simp only [without] at length ⊢
    omega
  · rintro ⟨other, listed, stays⟩
    obtain ⟨after, visited⟩ := Option.isSome_iff_exists.mp run
    have enough := length_le_of_visitAll distinct movable visited
      ⟨other, (List.mem_filter.mp listed).1, stays⟩
    have kept := reach_le_without subset moves line.order
    simp only [without]
    omega

theorem visited_prefix (pages : List PageId) (line : Line) :
    visited stuck pages line <+: pages := by
  induction pages generalizing line with
  | nil => exact List.prefix_rfl
  | cons page pages ih =>
      rw [visited]
      split
      · exact List.nil_prefix
      · next after _ => exact List.prefix_cons_inj page |>.mpr (ih after)

theorem visitAll_visited (pages : List PageId) (line : Line) :
    (line.visitAll stuck (visited stuck pages line)).isSome = true := by
  induction pages generalizing line with
  | nil => rfl
  | cons page pages ih =>
      rw [visited]
      split
      · rfl
      · next after visit =>
          rw [visitAll, List.foldlM_cons, visit]
          exact ih after

theorem prefix_visited (within : wanted <+: pages)
    (run : (line.visitAll stuck wanted).isSome = true) : wanted <+: visited stuck pages line := by
  induction wanted generalizing pages line with
  | nil => exact List.nil_prefix
  | cons page wanted ih =>
      obtain ⟨rest, rfl⟩ := within
      rw [visitAll, List.foldlM_cons] at run
      rw [List.cons_append, visited]
      cases visit : line.visit stuck page with
      | none =>
          rw [visit] at run
          cases run
      | some after =>
          rw [visit] at run
          exact List.prefix_cons_inj page |>.mpr (ih (List.prefix_append wanted rest) run)

/-- No page is visited less after pages of its kind have left. -/
theorem visited_without (distinct : pages.Nodup) (subset : ∀ page ∈ pages, own page = true)
    (moves : ∀ page, own page = true → stuck page = false)
    (spacious : 0 < line.free + line.order.length) :
    visited stuck pages line <+: visited stuck pages (line.without own) := by
  have within : visited stuck pages line <+: pages := visited_prefix pages line
  apply prefix_visited within
  apply visitAll_without (distinct.sublist within.sublist) _ moves spacious
  · exact visitAll_visited pages line
  · intro page inside
    exact subset page (within.subset inside)

end Line

end TableStore
