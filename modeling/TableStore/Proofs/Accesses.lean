import TableStore.Proofs.Uses

/-!
# Accesses of pages

A page is accessed through a handle: it is fetched, something may be done to it, and the
handle is dropped.  What an access makes of the rows of a page depends on its rows alone,
so it does not matter whether the page left memory before and was read back.
-/

set_option autoImplicit false

namespace TableStore

/-- A page is fetched by a transaction and touched, and its handle is dropped. -/
structure Access where
  txn : TxnId
  page : PageId
  mode : LockMode
  touches : List Touch := []

namespace Access

/-- The page after the access.  Nothing can be done to it through a shared handle. -/
def on (page : Page) (access : Access) : Page :=
  if access.page = page.id ∧ access.mode = .exclusive then access.touches.foldl Touch.on page
  else page

/-- A page that is changed is marked as changed, by whatever transaction, and not marked
as unchanged. -/
structure Tagged (access : Access) : Prop where
  kept : ∀ txn, .mark false txn ∉ access.touches
  marked : ∀ change, .rows change ∈ access.touches → ∃ txn, .mark true txn ∈ access.touches

end Access

namespace Page

variable {a b page : Page} {table : Table} {id : PageId}

/-- The page after some accesses, had it never left memory. -/
def accessed (page : Page) (accesses : List Access) : Page := accesses.foldl Access.on page

theorem accessed_snoc (page : Page) (accesses : List Access) (last : Access) :
    page.accessed (accesses ++ [last]) = Access.on (page.accessed accesses) last := by
  rw [accessed, List.foldl_append]
  rfl

def Call.apply (call : Call) (id : PageId) (schema : Schema) (contents : Contents) : Contents :=
  match call with
  | .insert row =>
      if row.schema.alike schema then
        match contents.findIdx? Option.isNone with
        | some slot => contents.set slot (some row.values)
        | none => contents
      else contents
  | .delete row =>
      match row.location with
      | some location =>
          if location.page = id then contents.set location.slot.toNat none else contents
      | none => contents

theorem set_none_of_unused {contents : Contents} {slot : Nat}
    (unused : ∀ values, contents[slot]? ≠ some (some values)) :
    contents.set slot none = contents := by
  by_cases inside : slot < contents.length
  · have empty : contents[slot] = none := by
      cases held : contents[slot] with
      | none => rfl
      | some values => exact absurd (by rw [List.getElem?_eq_getElem inside, held]) (unused values)
    rw [← empty, List.set_getElem_self]
  · exact List.set_eq_of_length_le (Nat.le_of_not_lt inside)

theorem Sound.contents_call (sound : page.Sound) (call : Call) :
    (call.on page).contents = call.apply page.id page.schema page.contents := by
  cases call with
  | insert row =>
      simp only [Call.apply, ← sound.firstFree_eq]
      by_cases alike : row.schema.alike page.schema = true
      · cases free : page.firstFree? with
        | none => simp only [Call.on, insert, alike, free, if_true]
        | some slot =>
            obtain ⟨⟨after, placed⟩, run⟩ : ∃ result, page.insert row = .ok result := by
              simp only [insert, alike, free, if_true]
              exact ⟨_, rfl⟩
            obtain ⟨again, found, -, -, -, contents, -⟩ := sound.insert_ok run
            cases (sound.firstFree_eq.symm.trans free).symm.trans found
            simp only [Call.on, run, alike, if_true, contents]
      · simp only [Call.on, insert, alike, Bool.false_eq_true, if_false]
  | delete row =>
      cases run : page.delete row with
      | ok after =>
          obtain ⟨location, placed, here, -, -, contents, -⟩ := sound.delete_ok run
          simp only [Call.on, Call.apply, run, placed, here, if_true, contents]
      | error error =>
          simp only [Call.on, Call.apply, run]
          split
          · next location placed =>
              split
              · next here =>
                  -- an empty slot is emptied
                  have unused : ∀ values, page.contents[location.slot.toNat]? ≠
                      some (some values) := by
                    intro values found
                    have used := (sound.isUsed_iff _).mpr ⟨values, found⟩
                    simp [delete, placed, here, used] at run
                  exact (set_none_of_unused unused).symm
              · rfl
          · rfl

/-- Both pages are sound, and have rows with the same values at the same places. -/
structure Matches (a b : Page) : Prop where
  sound : a.Sound
  other : b.Sound
  id : a.id = b.id
  schema : a.schema = b.schema
  contents : a.contents = b.contents

theorem on_capture (page : Page) : ∃ image, Touch.on page .capture = { page with image } := by
  simp only [Touch.on, capture]
  cases page.encode with
  | ok image => exact ⟨image, rfl⟩
  | error error => exact ⟨page.image, rfl⟩

theorem Sound.touch (sound : page.Sound) (touch : Touch) :
    (touch.on page).Sound ∧ (touch.on page).id = page.id ∧
      (touch.on page).schema = page.schema ∧ (touch.on page).size = page.size := by
  cases touch with
  | rows change => exact sound.call change
  | mark dirty txn => exact ⟨sound.mark dirty txn, rfl, rfl, rfl⟩
  | capture =>
      obtain ⟨image, same⟩ := page.on_capture
      rw [same]
      exact ⟨⟨sound.slotCount, sound.header, sound.occupied, sound.row⟩, rfl, rfl, rfl⟩

theorem Matches.touch (same : Matches a b) (touch : Touch) :
    Matches (touch.on a) (touch.on b) := by
  obtain ⟨sound, id, schema, -⟩ := same.sound.touch touch
  obtain ⟨other, otherId, otherSchema, -⟩ := same.other.touch touch
  refine ⟨sound, other, ?_, ?_, ?_⟩
  · rw [id, otherId, same.id]
  · rw [schema, otherSchema, same.schema]
  · cases touch with
    | rows change =>
        simp only [Touch.on, same.sound.contents_call, same.other.contents_call, same.id,
          same.schema, same.contents]
    | mark dirty txn => exact same.contents
    | capture =>
        obtain ⟨image, first⟩ := a.on_capture
        obtain ⟨otherImage, second⟩ := b.on_capture
        rw [first, second]
        exact same.contents

theorem Matches.on (same : Matches a b) (access : Access) :
    Matches (Access.on a access) (Access.on b access) := by
  have all (touches : List Touch) : Matches (touches.foldl Touch.on a)
      (touches.foldl Touch.on b) := by
    induction touches generalizing a b with
    | nil => exact same
    | cons touch touches ih => exact ih (same.touch touch)
  rw [Access.on, Access.on, same.id]
  split
  · exact all access.touches
  · exact same

theorem Fits.on (fits : page.Fits table id) (access : Access) :
    (Access.on page access).Fits table id := by
  have all (touches : List Touch) : (touches.foldl Touch.on page).Fits table id := by
    induction touches generalizing page with
    | nil => exact fits
    | cons touch touches ih => exact ih (fits.touch touch)
  rw [Access.on]
  split
  · exact all access.touches
  · exact fits

theorem Fits.accessed (fits : page.Fits table id) (accesses : List Access) :
    (page.accessed accesses).Fits table id := by
  induction accesses generalizing page with
  | nil => exact fits
  | cons access accesses ih => exact ih (fits.on access)

theorem dirtiedBy_call (call : Call) : (call.on page).dirtiedBy = page.dirtiedBy := by
  cases call with
  | insert row =>
      simp only [Call.on, insert]
      split
      · next run =>
          split at run
          · split at run
            · cases run
            · cases run
              rfl
          · cases run
      · rfl
  | delete row =>
      simp only [Call.on, delete]
      split
      · next run =>
          split at run
          · cases run
          · split at run
            · cases run
              rfl
            · cases run
      · rfl

/-- A page whose mark is never taken off, and that has none in the end, was never
marked. -/
theorem unmarked {touches : List Touch} (kept : ∀ txn, .mark false txn ∉ touches)
    (clean : (touches.foldl Touch.on page).dirtiedBy = none) :
    page.dirtiedBy = none ∧ ∀ txn, .mark true txn ∉ touches := by
  induction touches generalizing page with
  | nil => exact ⟨clean, fun txn => List.not_mem_nil⟩
  | cons touch touches ih =>
      obtain ⟨before, unmarked⟩ := ih (fun txn later => kept txn (List.mem_cons_of_mem _ later)) clean
      cases touch with
      | rows change => exact ⟨(dirtiedBy_call change).symm.trans before, by simpa using unmarked⟩
      | mark dirty txn =>
          cases dirty with
          | true => cases before
          | false => exact absurd List.mem_cons_self (kept txn)
      | capture =>
          obtain ⟨image, same⟩ := page.on_capture
          rw [same] at before
          exact ⟨before, by simpa using unmarked⟩

theorem contents_of_unchanged {touches : List Touch} (unchanged : ∀ change, .rows change ∉ touches) :
    (touches.foldl Touch.on page).contents = page.contents := by
  induction touches generalizing page with
  | nil => rfl
  | cons touch touches ih =>
      refine (ih fun change later => unchanged change (List.mem_cons_of_mem _ later)).trans ?_
      cases touch with
      | rows change => exact absurd List.mem_cons_self (unchanged change)
      | mark dirty txn => rfl
      | capture =>
          obtain ⟨image, same⟩ := page.on_capture
          rw [same]
          rfl

theorem clean_before {access : Access} (tagged : access.Tagged)
    (clean : (Access.on page access).dirtiedBy = none) :
    page.dirtiedBy = none ∧ (Access.on page access).contents = page.contents := by
  rw [Access.on] at clean ⊢
  split at clean
  · next here =>
      obtain ⟨before, never⟩ := unmarked tagged.kept clean
      rw [if_pos here]
      refine ⟨before, contents_of_unchanged fun change inside => ?_⟩
      obtain ⟨txn, marked⟩ := tagged.marked change inside
      exact never txn marked
  · next elsewhere =>
      rw [if_neg elsewhere]
      exact ⟨clean, rfl⟩

end Page

end TableStore
