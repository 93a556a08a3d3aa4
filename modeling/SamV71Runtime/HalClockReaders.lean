import Mathlib.Data.Fintype.Basic
import SamV71Runtime.HalClock
import SamV71Runtime.Runs

/-!
# Preempting readers of the runtime clock

One processor; a step is one tick of the hardware counter, or one statement of the
`do`/`while` loop of `Hal_GetElapsedTimeInNs` in some thread. The counter's passage
to 0 runs `timer_irq_handler` within the same step. `ConcurrentAccessFlag` is one
atomic boolean.
-/
namespace SamV71Runtime.Hal
open Runs

/-- The statement of the loop a thread executes next, or `outside` between two calls. -/
inductive LoopPc where
  | outside
  | resetFlag
  | loadReloads
  | readCounter
  | checkFlag
  deriving DecidableEq, Repr

/-- The locals of one call: they keep their values after the loop was left. -/
structure Reader where
  pc : LoopPc
  reloads : BitVec 32
  ticks : BitVec 16

def Reader.reading (r : Reader) : Reading := ⟨r.reloads, r.ticks⟩

structure ClockState (Tid : Type*) where
  counter : BitVec 16
  reloadsCounter : BitVec 32
  reloadsModifiedFlag : Bool
  reader : Tid → Reader

inductive ClockAction (Tid : Type*) where
  | tick
  | call (i : Tid)
  | statement (i : Tid)

variable {Tid : Type*}

/-- What the two counters show at this very moment. -/
def ClockState.reading (s : ClockState Tid) : Reading := ⟨s.reloadsCounter, s.counter⟩

/-- As `Hal_InitTimer` leaves the timer, with no call in progress. -/
def ClockState.initial : ClockState Tid := ⟨0, 0, false, fun _ => ⟨.outside, 0, 0⟩⟩

def timerIrqHandler (s : ClockState Tid) : ClockState Tid :=
  { s with reloadsCounter := s.reloadsCounter + 1, reloadsModifiedFlag := true }

def tickCounter (s : ClockState Tid) : ClockState Tid :=
  if s.counter + 1 = 0 then timerIrqHandler { s with counter := 0 }
  else { s with counter := s.counter + 1 }

theorem tickCounter_reader (s : ClockState Tid) : (tickCounter s).reader = s.reader := by
  unfold tickCounter timerIrqHandler
  split <;> rfl

/-- A tick that moves the reload count sets the flag in the same step. -/
theorem tickCounter_notifies (s : ClockState Tid) :
    (tickCounter s).reloadsModifiedFlag = true ∨
      (tickCounter s).reloadsCounter = s.reloadsCounter ∧
        (tickCounter s).reloadsModifiedFlag = s.reloadsModifiedFlag := by
  unfold tickCounter timerIrqHandler
  split
  · exact Or.inl rfl
  · exact Or.inr ⟨rfl, rfl⟩

variable [DecidableEq Tid]

def ClockState.setReader (s : ClockState Tid) (i : Tid) (r : Reader) : ClockState Tid :=
  { s with reader := Function.update s.reader i r }

@[simp] theorem setReader_reader_self (s : ClockState Tid) (i : Tid) (r : Reader) :
    (s.setReader i r).reader i = r := Function.update_self ..

theorem setReader_reader_of_ne (s : ClockState Tid) {i k : Tid} (r : Reader) (h : k ≠ i) :
    (s.setReader i r).reader k = s.reader k := Function.update_of_ne h ..

/-- One statement of the loop body, or the loop test, on behalf of thread `i`. -/
def loopStatement (s : ClockState Tid) (i : Tid) : Option (ClockState Tid) :=
  let r := s.reader i
  match r.pc with
  | .outside => none
  | .resetFlag =>
      some ({ s with reloadsModifiedFlag := false }.setReader i { r with pc := .loadReloads })
  | .loadReloads =>
      some (s.setReader i { r with pc := .readCounter, reloads := s.reloadsCounter })
  | .readCounter => some (s.setReader i { r with pc := .checkFlag, ticks := s.counter })
  | .checkFlag =>
      some (s.setReader i { r with pc := if s.reloadsModifiedFlag then .resetFlag else .outside })

def clockStep (s : ClockState Tid) : ClockAction Tid → Option (ClockState Tid)
  | .tick => some (tickCounter s)
  | .call i =>
      if (s.reader i).pc = .outside then
        some (s.setReader i { s.reader i with pc := .resetFlag })
      else none
  | .statement i => loopStatement s i

/-- A reset of the set flag erases no notice another reader still needs: none stands
at its check, and one standing at its counter read has the current reload count. -/
def KeepsNotice (s : ClockState Tid) : ClockAction Tid → Prop
  | .statement j => (s.reader j).pc = .resetFlag → s.reloadsModifiedFlag = true →
      ∀ k, k ≠ j → (s.reader k).pc ≠ .checkFlag ∧
        ((s.reader k).pc = .readCounter → (s.reader k).reloads = s.reloadsCounter)
  | _ => True

instance [Fintype Tid] (s : ClockState Tid) : (a : ClockAction Tid) → Decidable (KeepsNotice s a)
  | .tick | .call _ => isTrue trivial
  | .statement _ => inferInstanceAs (Decidable (_ → _ → ∀ _, _))

/-- What a step can do to a thread that does not move in it. -/
theorem clockStep_other {s t : ClockState Tid} {a : ClockAction Tid} {i : Tid}
    (hk : KeepsNotice s a) (hs : clockStep s a = some t) (hi : a ≠ .statement i)
    (hin : (s.reader i).pc ≠ .outside) :
    t.reader i = s.reader i ∧
      (t.reloadsModifiedFlag = true ∨
        t.reloadsCounter = s.reloadsCounter ∧
          (t.reloadsModifiedFlag = s.reloadsModifiedFlag ∨
            (s.reader i).pc ≠ .checkFlag ∧
              ((s.reader i).pc = .readCounter → (s.reader i).reloads = s.reloadsCounter))) := by
  cases a with
  | tick =>
      obtain rfl := Option.some.inj hs
      refine ⟨congrFun (tickCounter_reader s) i, ?_⟩
      exact (tickCounter_notifies s).imp_right fun h => ⟨h.1, Or.inl h.2⟩
  | call j =>
      simp only [clockStep] at hs
      split at hs
      · rename_i hout
        obtain rfl := Option.some.inj hs
        have hij : i ≠ j := fun h => hin (h ▸ hout)
        exact ⟨setReader_reader_of_ne _ _ hij, Or.inr ⟨rfl, Or.inl rfl⟩⟩
      · cases hs
  | statement j =>
      have hij : i ≠ j := fun h => hi (h ▸ rfl)
      simp only [clockStep, loopStatement] at hs
      cases hpc : (s.reader j).pc with
      | outside => simp [hpc] at hs
      | resetFlag =>
          simp only [hpc, Option.some.injEq] at hs
          subst hs
          refine ⟨setReader_reader_of_ne _ _ hij, Or.inr ⟨rfl, ?_⟩⟩
          cases hf : s.reloadsModifiedFlag with
          | false => exact Or.inl rfl
          | true => exact Or.inr (hk hpc hf i hij)
      | loadReloads | readCounter | checkFlag =>
          simp only [hpc, Option.some.injEq] at hs
          subst hs
          exact ⟨setReader_reader_of_ne _ _ hij, Or.inr ⟨rfl, Or.inl rfl⟩⟩

/-- What a reader knows before each statement, `seen` being the readings since its
call began: unless the flag is up, what it holds is not torn. -/
def ReadingSound (seen : List Reading) (s : ClockState Tid) (i : Tid) : Prop :=
  match (s.reader i).pc with
  | .readCounter => s.reloadsModifiedFlag = true ∨ (s.reader i).reloads = s.reloadsCounter
  | .checkFlag => s.reloadsModifiedFlag = true ∨ (s.reader i).reading ∈ seen
  | _ => True

theorem readingSound_other {seen : List Reading} {s t : ClockState Tid} {a : ClockAction Tid}
    {i : Tid} (h : ReadingSound seen s i) (hk : KeepsNotice s a) (hs : clockStep s a = some t)
    (hi : a ≠ .statement i) (hin : (s.reader i).pc ≠ .outside) (r : Reading) :
    ReadingSound (seen ++ [r]) t i := by
  obtain ⟨hr, hshared⟩ := clockStep_other hk hs hi hin
  unfold ReadingSound at h ⊢
  rw [hr]
  cases hpc : (s.reader i).pc with
  | outside => exact absurd hpc hin
  | resetFlag | loadReloads => trivial
  | readCounter =>
      simp only [hpc] at h ⊢
      rcases hshared with hf | ⟨hc, hf | hf⟩
      · exact Or.inl hf
      · rw [hf, hc]
        exact h
      · rw [hc]
        exact Or.inr (hf.2 hpc)
  | checkFlag =>
      simp only [hpc, List.mem_append] at h ⊢
      rcases hshared with hf | ⟨_, hf | hf⟩
      · exact Or.inl hf
      · rw [hf]
        exact h.imp_right Or.inl
      · exact absurd hpc hf.1

/-- The reader's own statements: loading makes it current, and a reading taken while it
is current is the one the counters show now. -/
theorem readingSound_self {seen : List Reading} {s t : ClockState Tid} {i : Tid}
    (h : ReadingSound seen s i) (hs : loopStatement s i = some t) :
    ReadingSound (seen ++ [t.reading]) t i := by
  unfold loopStatement at hs
  cases hpc : (s.reader i).pc with
  | outside => simp [hpc] at hs
  | resetFlag =>
      simp only [hpc, Option.some.injEq] at hs
      subst hs
      simp [ReadingSound]
  | loadReloads =>
      simp only [hpc, Option.some.injEq] at hs
      subst hs
      simp [ReadingSound, ClockState.setReader]
  | readCounter =>
      simp only [ReadingSound, hpc] at h
      simp only [hpc, Option.some.injEq] at hs
      subst hs
      simp only [ReadingSound, setReader_reader_self]
      refine h.imp id fun hc => List.mem_append_right _ ?_
      simp [Reader.reading, ClockState.reading, ClockState.setReader, hc]
  | checkFlag =>
      simp only [hpc, Option.some.injEq] at hs
      subst hs
      cases hf : s.reloadsModifiedFlag <;> simp [ReadingSound]

theorem loopStatement_leaves {s t : ClockState Tid} {i : Tid} (hs : loopStatement s i = some t)
    (hout : (t.reader i).pc = .outside) :
    (s.reader i).pc = .checkFlag ∧ s.reloadsModifiedFlag = false ∧
      (t.reader i).reading = (s.reader i).reading := by
  unfold loopStatement at hs
  cases hpc : (s.reader i).pc with
  | checkFlag =>
      simp only [hpc, Option.some.injEq] at hs
      subst hs
      cases hf : s.reloadsModifiedFlag with
      | true => simp [hf] at hout
      | false => exact ⟨rfl, rfl, by simp [Reader.reading]⟩
  | outside => simp [hpc] at hs
  | resetFlag | loadReloads | readCounter =>
      simp only [hpc, Option.some.injEq] at hs
      subst hs
      simp at hout

/-- Every moment of a call leaves the caller with a sound reading. -/
theorem readingSound_along {s₀ t : ClockState Tid} {i : Tid} {call : List (ClockAction Tid)}
    (hb : (s₀.reader i).pc = .resetFlag) (hc : Along clockStep KeepsNotice s₀ call)
    (hr : run clockStep s₀ call = some t)
    (hin : ∀ m ∈ trail clockStep s₀ call, (m.reader i).pc ≠ .outside) :
    ReadingSound ((trail clockStep s₀ call).map ClockState.reading) t i := by
  refine run_induction (I := fun as m => (∀ m ∈ trail clockStep s₀ as, (m.reader i).pc ≠ .outside) →
    ReadingSound ((trail clockStep s₀ as).map ClockState.reading) m i) hc hr ?_ ?_ hin
  · intro _
    simp [ReadingSound, hb]
  · intro as m a u hm ih hk hs hin
    rw [trail_concat hm hs] at hin ⊢
    have inside : ∀ m ∈ trail clockStep s₀ as, (m.reader i).pc ≠ .outside :=
      fun m member => hin m (List.mem_append_left _ member)
    rw [List.map_append, List.map_singleton]
    by_cases ha : a = .statement i
    · subst ha
      exact readingSound_self (ih inside) hs
    · exact readingSound_other (ih inside) hk hs ha (inside m (last_mem_trail hm)) _

theorem run_ticks {n : ℕ} (h : n < 2 ^ 16) :
    run clockStep (ClockState.initial : ClockState Tid) (List.replicate n .tick) =
      some { ClockState.initial with counter := BitVec.ofNat 16 n } := by
  induction n with
  | zero => rfl
  | succ n ih =>
      rw [List.replicate_succ', run_concat, ih (by omega), Option.bind_some]
      have hnext : BitVec.ofNat 16 n + 1 = BitVec.ofNat 16 (n + 1) := by
        rw [BitVec.ofNat_add]
        rfl
      have hne : BitVec.ofNat 16 (n + 1) ≠ 0 := by
        intro hz
        have := congrArg BitVec.toNat hz
        simp only [BitVec.toNat_ofNat, BitVec.ofNat_eq_ofNat] at this
        omega
      simp only [clockStep, tickCounter, hnext, if_neg hne]

/-- The first reader, just before the counter wraps. -/
def beforeWrap : ClockState Bool :=
  { ClockState.initial with counter := BitVec.ofNat 16 65535 }

/-- The counter wraps before the first reader reads it: the torn reading is dropped at the
check, and the second resets the flag while the first stands at its own reset. -/
def retriedCall : List (ClockAction Bool) :=
  [.statement true, .statement true, .tick, .statement true, .statement true, .call false,
    .statement false, .statement true, .statement true, .statement true]

/-- The counter wraps before the first reader loads the reload count: the second resets
the flag while the first stands at its counter read with the current count. -/
def overtakenCall : List (ClockAction Bool) :=
  [.statement true, .tick, .statement true, .call false, .statement false, .statement true,
    .statement false, .tick]

def tornCall : List (ClockAction Bool) :=
  [.statement true, .statement true, .tick, .call false, .statement false, .statement true]

end SamV71Runtime.Hal
