import TableStore.Store.Fetch

/-!
# Errors of requests for pages

A page may be missing, damaged or of a table that does not fit it, and its file may not
take what is written.  A request for a page fails only for such a reason, for want of room
in the cache, or in a deadlock; it never complains about a row or a slot.
-/

set_option autoImplicit false

namespace TableStore

/-- The error says why a page cannot be read from its file or written to it. -/
def StoreError.isOfFile : StoreError → Bool
  | .corruptPage _ _ => true
  | .schemaMismatch _ => true
  | .badPageId _ _ => true
  | .pageNotFound _ => true
  | .noSuchTable _ => true
  | .invalidSettings _ => true
  | .io _ => true
  | _ => false

/-- The error says why bytes are no page of a schema. -/
def StoreError.isOfForm : StoreError → Bool
  | .corruptPage _ _ => true
  | .schemaMismatch _ => true
  | .invalidSettings _ => true
  | _ => false

theorem StoreError.isOfFile_of_isOfForm {error : StoreError} (form : error.isOfForm = true) :
    error.isOfFile = true ∧ error.isFatal = false := by
  cases error <;> first | exact ⟨rfl, rfl⟩ | cases form

theorem error_of_bind {α β : Type} {action : Except StoreError α} {next : α → Except StoreError β}
    {error : StoreError} (run : action >>= next = .error error) :
    action = .error error ∨ ∃ value, action = .ok value ∧ next value = .error error := by
  cases action with
  | error failure =>
      cases run
      exact .inl rfl
  | ok value => exact .inr ⟨value, rfl, run⟩

variable {error : StoreError}

/-! ## Pages and their bytes -/

namespace Page

variable {id : PageId} {schema : Schema} {size : Nat}

theorem slotCount_error (run : slotCount schema size = .error error) : error.isOfForm = true := by
  unfold slotCount at run
  simp only at run
  split at run
  · cases run
    rfl
  · split at run
    · cases run
      rfl
    · split at run
      · cases run
        rfl
      · cases run

theorem decodeSlots_error {slot : Nat} {bits : List Bool} {bytes : Bytes}
    (run : decodeSlots id schema slot bits bytes = .error error) : error.isOfForm = true := by
  induction bits generalizing slot bytes with
  | nil => cases run
  | cons used bits ih =>
      rcases error_of_bind run with first | ⟨row, -, rest⟩
      · unfold decodeSlot at first
        split at first
        · split at first
          · cases first
          · cases first
            rfl
        · cases first
      · rcases error_of_bind rest with later | ⟨rows, -, done⟩
        · exact ih later
        · cases done

theorem decode_error {data : Bytes} (run : decode id schema size data = .error error) :
    error.isOfForm = true := by
  unfold decode at run
  split at run
  · cases run
    rfl
  · rcases error_of_bind run with counted | ⟨count, -, rest⟩
    · exact slotCount_error counted
    · rcases error_of_bind rest with slots | ⟨slots, -, done⟩
      · exact decodeSlots_error slots
      · cases done

theorem encode_error {page : Page} (run : page.encode = .error error) : error.isOfFile = true := by
  unfold encode at run
  split at run
  · cases run
  · cases run
    rfl

end Page

/-! ## Tables -/

namespace Table

variable {table : Table} {disk : Disk}

theorem checkPage_error {id : PageId} (run : table.checkPage id = .error error) :
    error.isOfFile = true := by
  unfold checkPage at run
  split at run
  · cases run
  · cases run
    rfl

theorem pageCount_error (run : table.pageCount disk = .error error) : error.isOfFile = true := by
  unfold pageCount at run
  split at run
  · cases run
  · cases run
    rfl

theorem readPage_error {id : PageId} (run : table.readPage disk id = .error error) :
    error.isOfFile = true := by
  rcases error_of_bind run with foreign | ⟨-, -, rest⟩
  · exact checkPage_error foreign
  · rcases error_of_bind rest with uncounted | ⟨count, -, read⟩
    · exact pageCount_error uncounted
    · split at read
      · split at read
        · exact (StoreError.isOfFile_of_isOfForm (Page.decode_error read)).1
        · cases read
          rfl
      · cases read
        rfl

theorem writePage_error {page : Page} (run : table.writePage disk page = .error error) :
    error.isOfFile = true := by
  rcases error_of_bind run with foreign | ⟨-, -, rest⟩
  · exact checkPage_error foreign
  · rcases error_of_bind rest with unencoded | ⟨data, -, written⟩
    · exact Page.encode_error unencoded
    · split at written
      · cases written
      · cases written
        rfl

end Table

theorem Catalog.table_error {catalog : Catalog} {id : TableId}
    (run : catalog.table id = .error error) : error = .noSuchTable id := by
  unfold Catalog.table at run
  split at run
  · cases run
  · cases run
    rfl

/-! ## Requests -/

namespace Store

variable {store after : Store} {id : PageId} {request : PageRequest}

theorem readPage_error (run : store.readPage id = .error error) : error.isOfFile = true := by
  rcases error_of_bind run with unregistered | ⟨table, -, read⟩
  · rw [Catalog.table_error unregistered]
    rfl
  · exact Table.readPage_error read

theorem writeBack_error {page : Page} (run : store.writeBack page = .error error) :
    error.isOfFile = true := by
  unfold writeBack at run
  split at run
  · cases run
  · rcases error_of_bind run with unregistered | ⟨table, -, rest⟩
    · rw [Catalog.table_error unregistered]
      rfl
    · rcases error_of_bind rest with unwritten | ⟨disk, -, refused⟩
      · exact Table.writePage_error unwritten
      · split at refused
        · cases refused
          rfl
        · cases refused

theorem evict_error (run : store.evict = (.error error, after)) :
    error = .poolFull ∨ error.isOfFile = true := by
  unfold evict at run
  split at run
  · cases run
    exact .inl rfl
  · simp only at run
    split at run
    · cases run
    · split at run
      · cases run
      · next failed =>
          cases run
          exact .inr (writeBack_error failed)

theorem error_of_pin (run : store.pin id = (.error error, after)) :
    error = .poolFull ∨ error.isOfFile = true := by
  unfold pin at run
  split at run
  · cases run
  · split at run
    · next unread =>
        cases run
        exact .inr (readPage_error unread)
    · split at run
      · cases run
      · split at run
        · next evicted =>
            cases run
            exact evict_error evicted
        · cases run

theorem error_of_attempt (run : store.attempt request = (.finished (.error error), after)) :
    error = .deadlock request.txn ∨ error = .poolFull ∨ error.isOfFile = true := by
  unfold attempt at run
  split at run
  · cases run
  · cases run
    exact .inl rfl
  · split at run
    · cases run
    · next unpinned =>
        cases run
        exact .inr (error_of_pin unpinned)

end Store

end TableStore
