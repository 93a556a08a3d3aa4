import Mathlib.Order.MinMax
import SamV71Runtime.Rtems
import SamV71Runtime.Runs

/-!
# The table of HAL semaphores

`limit` is `RT_MAX_HAL_SEMAPHORES`. What an RTEMS call answers is an argument of the
operation that makes it, so a statement for every argument holds for every outcome.
-/
namespace SamV71Runtime.Hal
open Runs

inductive SemaphoreCall where
  | create (name : RtemsName) (initialValue : ℕ) (binary : Bool) (priorityCeiling : ℕ)
  | obtain (id : RtemsId) (wait : Bool) (timeout : ℕ)
  | release (id : RtemsId)
  deriving DecidableEq, Repr

/-- The static data of `Hal.c`; the counter never passes the length of the table. -/
structure Semaphores (limit : ℕ) where
  createdSemaphoresCount : ℕ
  halSemaphoreIds : Fin limit → RtemsId
  newHalSemaphoreName : RtemsName
  count_le : createdSemaphoresCount ≤ limit

variable {limit : ℕ}

/-- `rtems_build_name('H', 0, 0, 0)` is the first name. -/
def Semaphores.initial (limit : ℕ) : Semaphores limit := ⟨0, fun _ => 0, 0x48000000, Nat.zero_le _⟩

/-- `status` is what `rtems_semaphore_create` reports and `id` what it stores in the slot.
The result is the calls made, the value returned (0 for a refusal) and the new table. -/
def semaphoreCreate (s : Semaphores limit) (status : RtemsStatusCode) (id : RtemsId) :
    List SemaphoreCall × BitVec 32 × Semaphores limit :=
  if h : limit ≤ s.createdSemaphoresCount then ([], 0, s)
  else
    let slot : Fin limit := ⟨s.createdSemaphoresCount, Nat.lt_of_not_le h⟩
    let written : Semaphores limit :=
      { s with
        halSemaphoreIds := Function.update s.halSemaphoreIds slot id
        newHalSemaphoreName := s.newHalSemaphoreName + 1 }
    if status = .successful then
      ([.create s.newHalSemaphoreName 1 true 0], written.halSemaphoreIds slot,
        { written with
          createdSemaphoresCount := s.createdSemaphoresCount + 1
          count_le := Nat.lt_of_not_le h })
    else ([.create s.newHalSemaphoreName 1 true 0], 0, written)

/-- Obtain and release share their guard and their reading of the status. -/
def guardedForward (s : Semaphores limit) (call : SemaphoreCall) (status : RtemsStatusCode) :
    List SemaphoreCall × Bool :=
  if limit ≤ s.createdSemaphoresCount then ([], false) else ([call], status = .successful)

def semaphoreObtain (s : Semaphores limit) (id : BitVec 32) (status : RtemsStatusCode) :
    List SemaphoreCall × Bool := guardedForward s (.obtain id true 0) status

def semaphoreRelease (s : Semaphores limit) (id : BitVec 32) (status : RtemsStatusCode) :
    List SemaphoreCall × Bool := guardedForward s (.release id) status

inductive SemaphoreAction where
  | create (status : RtemsStatusCode) (id : RtemsId)
  | obtain (id : BitVec 32) (status : RtemsStatusCode)
  | release (id : BitVec 32) (status : RtemsStatusCode)

/-- Obtain and release touch RTEMS objects only, never the table. -/
def semaphoreStep (s : Semaphores limit) : SemaphoreAction → Option (Semaphores limit)
  | .create status id => some (semaphoreCreate s status id).2.2
  | .obtain _ _ | .release _ _ => some s

/-- The nonzero ids handed to the caller. -/
def issuedId (s : Semaphores limit) : SemaphoreAction → Option RtemsId
  | .create status id =>
      let issued := (semaphoreCreate s status id).2.1
      if issued = 0 then none else some issued
  | .obtain _ _ | .release _ _ => none

/-- RTEMS made a semaphore, whether or not the table had room for asking it. -/
def SemaphoreAction.Creates : SemaphoreAction → Bool
  | .create .successful _ => true
  | _ => false

/-- Both operations reach RTEMS with this id and answer what RTEMS answers. -/
def Usable (s : Semaphores limit) (id : RtemsId) : Prop := ∀ status : RtemsStatusCode,
  semaphoreObtain s id status = ([.obtain id true 0], decide (status = .successful)) ∧
    semaphoreRelease s id status = ([.release id], decide (status = .successful))

theorem semaphoreCreate_count (s : Semaphores limit) (status : RtemsStatusCode) (id : RtemsId) :
    (semaphoreCreate s status id).2.2.createdSemaphoresCount =
      if status = .successful then min limit (s.createdSemaphoresCount + 1)
      else s.createdSemaphoresCount := by
  have hle := s.count_le
  unfold semaphoreCreate
  split
  · split
    · simp only
      omega
    · rfl
  · split
    · simp only
      omega
    · rfl

/-- The counter follows the creations RTEMS granted and saturates at the limit. -/
theorem run_count {as : List SemaphoreAction} {s : Semaphores limit}
    (hr : run semaphoreStep (.initial limit) as = some s) :
    s.createdSemaphoresCount = min limit (as.countP SemaphoreAction.Creates) := by
  refine run_induction
    (I := fun as s => s.createdSemaphoresCount = min limit (as.countP SemaphoreAction.Creates))
    (along_true _ as) hr (by simp [Semaphores.initial]) ?_
  intro as s a t _ ih _ hs
  rw [List.countP_append, List.countP_singleton]
  cases a with
  | create status id =>
      obtain rfl := Option.some.inj hs
      rw [semaphoreCreate_count]
      by_cases h : status = .successful
      · subst h
        simp only [SemaphoreAction.Creates, if_true]
        omega
      · have hno : SemaphoreAction.Creates (.create status id) = false := by
          cases status <;> first | rfl | exact absurd rfl h
        simp only [if_neg h, hno, ih]
        rfl
  | obtain id status =>
      obtain rfl := Option.some.inj hs
      exact ih
  | release id status =>
      obtain rfl := Option.some.inj hs
      exact ih

theorem usable_iff_count (s : Semaphores limit) (id : RtemsId) :
    Usable s id ↔ s.createdSemaphoresCount < limit := by
  constructor
  · intro h
    by_contra hfull
    have hobtain := (h .successful).1
    simp [semaphoreObtain, guardedForward, Nat.le_of_not_lt hfull] at hobtain
  · intro h status
    simp [semaphoreObtain, semaphoreRelease, guardedForward, Nat.not_le.mpr h]

/-- After any run, semaphores work exactly as long as fewer than `RT_MAX_HAL_SEMAPHORES`
creations have succeeded: the one that fills the table disables them all. -/
theorem usable_iff_table_not_full (as : List SemaphoreAction) {s : Semaphores limit}
    (hr : run semaphoreStep (.initial limit) as = some s) (id : RtemsId) :
    Usable s id ↔ as.countP SemaphoreAction.Creates < limit := by
  rw [usable_iff_count, run_count hr]
  omega

theorem first_of_eight_usable :
    ∃ s : Semaphores 8, run semaphoreStep (.initial 8) [.create .successful 7] = some s ∧
      Usable s 7 :=
  ⟨_, rfl, (usable_iff_table_not_full [.create .successful 7] rfl 7).mpr (by decide)⟩

/-- A lock taken before the last semaphore is created cannot be given back after it. -/
theorem full_table_refuses_release :
    ∃ s : Semaphores 2,
      run semaphoreStep (.initial 2)
        [.create .successful 7, .obtain 7 .successful, .create .successful 9] = some s ∧
      7 ∈ outputs semaphoreStep issuedId (.initial 2)
        [.create .successful 7, .obtain 7 .successful, .create .successful 9] ∧
      semaphoreRelease s 7 .successful = ([], false) ∧ ¬ Usable s 7 := by
  refine ⟨_, rfl, by decide, by decide, ?_⟩
  rw [usable_iff_count]
  decide

end SamV71Runtime.Hal
