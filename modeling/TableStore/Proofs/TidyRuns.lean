import TableStore.Proofs.Runs
import TableStore.Proofs.TidySteps

/-!
# Runs without faults and flushes

A store stays tidy as long as nobody flushes and every file takes its pages.  An
action then leaves a transaction undisturbed unless it lets this transaction change
rows or ends it.
-/

set_option autoImplicit false

namespace TableStore

namespace Action

def plain : Action → Bool
  | .flush _ => false
  | .flushAll => false
  | .fault _ => false
  | _ => true

def spares (txn : TxnId) : Action → Bool
  | .call other begun => decide (other ≠ txn) || !begun.writes
  | .commit other => decide (other ≠ txn)
  | .abort other => decide (other ≠ txn)
  | _ => true

end Action

namespace System

structure Tidy (system : System) : Prop where
  sound : system.Sound
  store : system.store.Tidy
  enters : ∀ txn operation, system.pending.get? txn = some operation →
    operation.Enters system.store txn

def ReadOnly (system : System) (txn : TxnId) : Prop :=
  ∀ operation, system.pending.get? txn = some operation → operation.writes = false

variable {system : System} {txn : TxnId}

theorem Tidy.begin (tidy : system.Tidy) {call : Call}
    (numbered : (system.begin txn call).store.Addressable) :
    (system.begin txn call).Tidy ∧ ∀ other, call.writes = false ∨ other ≠ txn →
      Store.Undisturbed other system.store (system.begin txn call).store := by
  have follows : Follows (fun _ _ => True) system (system.begin txn call) :=
    tidy.sound.begin
  cases busy : system.pending.get? txn with
  | some operation =>
      rw [begin_of_busy busy]
      exact ⟨tidy, fun other _ => .refl other _⟩
  | none =>
      rcases run : call.start txn system.store with ⟨begun, after⟩
      have pending := pending_begin busy run
      rw [begin_of_idle busy run] at numbered follows pending ⊢
      obtain ⟨reached, undisturbed, begins⟩ := tidy.store.start tidy.sound.store run numbered
      have locks : after.locks = system.store.locks :=
        (tidy.sound.store.start run).1.locks
      refine ⟨⟨follows.sound, reached, ?_⟩, undisturbed⟩
      intro other found known
      rw [pending] at known
      split at known
      · next same => exact same ▸ (begins found known).1
      · exact (tidy.enters other found known).of_modes fun id => by rw [locks]

theorem Tidy.advance (tidy : system.Tidy) (numbered : (system.advance txn).store.Addressable) :
    (system.advance txn).Tidy ∧ ∀ other, system.ReadOnly txn ∨ other ≠ txn →
      Store.Undisturbed other system.store (system.advance txn).store := by
  have follows : Follows (fun _ _ => True) system (system.advance txn) :=
    tidy.sound.advance .any
  cases busy : system.pending.get? txn with
  | none =>
      rw [advance_of_idle busy]
      exact ⟨tidy, fun other _ => .refl other _⟩
  | some operation =>
      rcases run : operation.step system.store with ⟨turn, after⟩
      have pending := pending_advance busy run
      have ready := tidy.sound.ready txn operation busy
      rw [advance_eq busy run] at numbered follows pending ⊢
      have progressed := tidy.store.stepped tidy.sound.store ready
        (tidy.enters txn operation busy) run numbered
      have turned : Store.Turned (fun _ _ => True) [] system.store txn turn after :=
        tidy.sound.store.turned ready run .any
      refine ⟨⟨follows.sound, progressed.tidy, ?_⟩, ?_⟩
      · intro other found known
        rw [pending] at known
        split at known
        · next same => exact same ▸ progressed.enters found known
        · next different =>
            exact (tidy.enters other found known).of_modes
              fun id => turned.others other id different
      · intro other either
        exact progressed.undisturbed other (either.imp_left fun readOnly => readOnly operation busy)

theorem Tidy.finish (tidy : system.Tidy) {after : Store} {event : Event}
    (sound : (system.finish txn after event).Sound)
    (ends : Store.Ends system.store after txn) (reached : after.Tidy)
    (undisturbed : ∀ other, other ≠ txn → Store.Undisturbed other system.store after) :
    (system.finish txn after event).Tidy ∧ ∀ other, other ≠ txn →
      Store.Undisturbed other system.store (system.finish txn after event).store := by
  unfold System.finish at sound ⊢
  cases busy : system.pending.get? txn with
  | some operation => exact ⟨tidy, fun other _ => .refl other _⟩
  | none =>
      simp only [busy] at sound
      refine ⟨⟨sound, reached, ?_⟩, undisturbed⟩
      intro other operation found
      apply (tidy.enters other operation found).of_modes
      intro id
      rw [ends.mode tidy.sound.store, Outline.released, if_neg (ne_of_pending busy found)]
      rfl

theorem Tidy.perform (tidy : system.Tidy) {action : Action} (plain : action.plain = true)
    (numbered : Numbered system action) :
    (system.perform action).Tidy ∧ ∀ reader, action.spares reader = true →
      system.ReadOnly reader →
        Store.Undisturbed reader system.store (system.perform action).store := by
  have sound := (tidy.sound.perform (.any system action)).sound
  cases action with
  | call other call =>
      obtain ⟨begun, undisturbed⟩ := tidy.begin numbered
      refine ⟨begun, ?_⟩
      intro reader spares _
      apply undisturbed
      rw [Action.spares, Bool.or_eq_true, decide_eq_true_eq, Bool.not_eq_true'] at spares
      exact spares.symm.imp_right Ne.symm
  | advance other =>
      obtain ⟨advanced, undisturbed⟩ := tidy.advance numbered
      refine ⟨advanced, ?_⟩
      intro reader _ readOnly
      apply undisturbed
      by_cases same : reader = other
      · exact .inl (same ▸ readOnly)
      · exact .inr same
  | drop handle =>
      rw [System.perform] at sound ⊢
      split
      · next member =>
          rw [if_pos member] at sound
          obtain ⟨unpinned, undisturbed⟩ := tidy.store.unpinned tidy.sound.store handle
          refine ⟨⟨sound, unpinned, ?_⟩, fun reader _ _ => undisturbed reader⟩
          intro other operation found
          apply (tidy.enters other operation found).of_modes
          intro id
          change (system.store.unpin handle).locks.mode? other id = _
          rw [Store.locks_unpin]
      · exact ⟨tidy, fun reader _ _ => .refl reader _⟩
  | commit other =>
      obtain ⟨reached, undisturbed⟩ := tidy.store.commit tidy.sound.store other
      obtain ⟨finished, kept⟩ :=
        tidy.finish sound (tidy.sound.store.commit other).1 reached undisturbed
      refine ⟨finished, ?_⟩
      intro reader spares _
      exact kept reader (Ne.symm (of_decide_eq_true spares))
  | abort other =>
      obtain ⟨reached, undisturbed⟩ := tidy.store.abort tidy.sound.store other
      obtain ⟨finished, kept⟩ :=
        tidy.finish sound (tidy.sound.store.abort other).1 reached undisturbed
      refine ⟨finished, ?_⟩
      intro reader spares _
      exact kept reader (Ne.symm (of_decide_eq_true spares))
  | flush page => cases plain
  | flushAll => cases plain
  | fault unwritable => cases plain

theorem Tidy.run (tidy : system.Tidy) {actions : List Action}
    (plain : ∀ action ∈ actions, action.plain = true)
    (numbered : Along Numbered system actions) : (system.run actions).Tidy := by
  induction actions generalizing system with
  | nil => exact tidy
  | cons action actions ih =>
      obtain ⟨first, rest⟩ := numbered
      obtain ⟨here, later⟩ := List.forall_mem_cons.mp plain
      exact ih (tidy.perform here first).1 later rest

theorem Fresh.tidy (fresh : system.Fresh) (writable : system.store.unwritable = ∅) :
    system.Tidy where
  sound := fresh.sound
  store := by
    refine ⟨writable, fresh.store.addressable, ?_⟩
    intro id
    have absent : (system.store.pageState id).cached = none :=
      Store.copy_of_uncached (fresh.store.uncached id)
    apply PageState.tidy_of_absent _ absent
    change system.store.unflushed.contains id = false
    rw [fresh.store.unflushed]
    rfl
  enters txn operation found := by
    rw [fresh.pending] at found
    cases found

end System

end TableStore
