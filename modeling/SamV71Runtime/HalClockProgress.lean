import SamV71Runtime.TickAccounting

/-!
# Calls of the clock return

The loop of `Hal_GetElapsedTimeInNs` is run again only after a timer interrupt, whichever
threads reset the flag in between. A call that gets its turns therefore returns, in as many
statements as the interrupts during the call allow.
-/
namespace SamV71Runtime.Hal
open Runs

/-- The statements of a pass that are done. -/
def LoopPc.position : LoopPc → ℕ
  | .outside => 0
  | .resetFlag => 0
  | .loadReloads => 1
  | .readCounter => 2
  | .checkFlag => 3

variable {Tid : Type*}

def ClockAction.isStatementOf [DecidableEq Tid] (i : Tid) : ClockAction Tid → Bool
  | .statement k => decide (k = i)
  | .tick | .call _ => false

def statementsOf [DecidableEq Tid] (i : Tid) (as : List (ClockAction Tid)) : ℕ :=
  as.countP (ClockAction.isStatementOf i)

/-- The counter passes to 0. -/
def overflow (s : ClockState Tid) : ClockAction Tid → Option Unit
  | .tick => if s.counter + 1 = 0 then some () else none
  | .call _ | .statement _ => none

def interruptsIn [DecidableEq Tid] (s : ClockState Tid) (as : List (ClockAction Tid)) : ℕ :=
  (outputs clockStep overflow s as).length

/-- What a reader has done since its call: whole passes, each ended by an interrupt's notice,
and the statements of the current one, which has a notice of its own if the flag is up. -/
structure Passes (i : Tid) (statements interrupts passes : ℕ) (s : ClockState Tid) : Prop where
  spent : statements = 4 * passes + (s.reader i).pc.position
  allowed : passes ≤ interrupts
  noticed : s.reloadsModifiedFlag = true → 0 < (s.reader i).pc.position → passes < interrupts

section Steps
variable {s t : ClockState Tid} {a : ClockAction Tid} {i : Tid}
  {statements interrupts passes : ℕ}

theorem passes_tick (h : Passes i statements interrupts passes s) :
    Passes i statements (interrupts + (overflow s .tick).toList.length) passes (tickCounter s) := by
  have hreader := congrFun (tickCounter_reader s) i
  constructor
  case spent => rw [hreader, h.spent]
  case allowed => exact Nat.le_add_right_of_le h.allowed
  case noticed =>
    rw [hreader]
    unfold tickCounter overflow
    split
    · intro _ _
      exact Nat.lt_succ_of_le h.allowed
    · exact h.noticed

variable [DecidableEq Tid]

/-- A statement of another reader can only take the flag down. -/
theorem passes_other (h : Passes i statements interrupts passes s) {j : Tid} (hij : i ≠ j)
    (hs : loopStatement s j = some t) : Passes i statements interrupts passes t := by
  have hother : t.reader i = s.reader i ∧
      (t.reloadsModifiedFlag = true → s.reloadsModifiedFlag = true) := by
    unfold loopStatement at hs
    cases hpc : (s.reader j).pc with
    | outside => simp [hpc] at hs
    | resetFlag =>
        simp only [hpc, Option.some.injEq] at hs
        subst hs
        exact ⟨setReader_reader_of_ne _ _ hij, fun h => Bool.noConfusion h⟩
    | loadReloads | readCounter | checkFlag =>
        simp only [hpc, Option.some.injEq] at hs
        subst hs
        exact ⟨setReader_reader_of_ne _ _ hij, id⟩
  constructor
  case spent => rw [hother.1, h.spent]
  case allowed => exact h.allowed
  case noticed =>
    rw [hother.1]
    exact fun hflag => h.noticed (hother.2 hflag)

/-- Of the reader's own statements, the check begins another pass, for which there has been
an interrupt. -/
theorem passes_self (h : Passes i statements interrupts passes s)
    (hs : loopStatement s i = some t) (hin : (t.reader i).pc ≠ .outside) :
    ∃ passes', Passes i (statements + 1) interrupts passes' t := by
  have hstatements := h.spent
  have hpasses := h.allowed
  have hnoticed := h.noticed
  unfold loopStatement at hs
  cases hpc : (s.reader i).pc with
  | outside => simp [hpc] at hs
  | resetFlag =>
      simp only [hpc, Option.some.injEq] at hs
      subst hs
      rw [hpc] at hstatements
      refine ⟨passes, ?_, hpasses, fun hflag => Bool.noConfusion hflag⟩
      rw [hstatements, setReader_reader_self]
      rfl
  | loadReloads | readCounter =>
      simp only [hpc, Option.some.injEq] at hs
      subst hs
      rw [hpc] at hstatements hnoticed
      refine ⟨passes, ?_, hpasses, fun hflag _ => hnoticed hflag (by decide)⟩
      rw [hstatements, setReader_reader_self]
      rfl
  | checkFlag =>
      simp only [hpc, Option.some.injEq] at hs
      subst hs
      rw [hpc] at hstatements hnoticed
      rw [setReader_reader_self] at hin
      split at hin
      · rename_i hflag
        refine ⟨passes + 1, ?_, hnoticed hflag (by decide), ?_⟩
        · rw [hstatements, setReader_reader_self, if_pos hflag]
          rfl
        · rw [setReader_reader_self, if_pos hflag]
          exact fun _ hpos => absurd hpos (Nat.lt_irrefl 0)
      · exact absurd rfl hin

theorem passes_step (h : Passes i statements interrupts passes s)
    (hin : (s.reader i).pc ≠ .outside) (hs : clockStep s a = some t)
    (hout : (t.reader i).pc ≠ .outside) :
    ∃ passes', Passes i (statements + if a.isStatementOf i then 1 else 0)
      (interrupts + (overflow s a).toList.length) passes' t := by
  cases a with
  | tick =>
      obtain rfl := Option.some.inj hs
      exact ⟨passes, passes_tick h⟩
  | call j =>
      simp only [clockStep] at hs
      split at hs
      · rename_i hidle
        obtain rfl := Option.some.inj hs
        have hij : i ≠ j := fun heq => hin (heq ▸ hidle)
        refine ⟨passes, ?_, h.allowed, ?_⟩
        · rw [setReader_reader_of_ne _ _ hij]
          exact h.spent
        · rw [setReader_reader_of_ne _ _ hij]
          exact h.noticed
      · cases hs
  | statement j =>
      by_cases hij : j = i
      · subst hij
        obtain ⟨passes', h'⟩ := passes_self h hs hout
        exact ⟨passes', by simpa [ClockAction.isStatementOf, overflow] using h'⟩
      · have h' := passes_other h (Ne.symm hij) hs
        exact ⟨passes, by simpa [ClockAction.isStatementOf, overflow, hij] using h'⟩

theorem loopStatement_counter (hs : loopStatement s i = some t) : t.counter = s.counter := by
  unfold loopStatement at hs
  cases hpc : (s.reader i).pc with
  | outside => simp [hpc] at hs
  | resetFlag | loadReloads | readCounter | checkFlag =>
      simp only [hpc, Option.some.injEq] at hs
      subst hs
      rfl

/-- The counter counts the ticks since it last passed to 0. -/
theorem counter_step (hs : clockStep s a = some t) :
    65536 * (overflow s a).toList.length + t.counter.toNat =
      s.counter.toNat + if a.isTick then 1 else 0 := by
  cases a with
  | tick =>
      obtain rfl := Option.some.inj hs
      have hnext : (s.counter + 1).toNat = (s.counter.toNat + 1) % 65536 := BitVec.toNat_add ..
      have hlt := s.counter.isLt
      simp only [overflow, tickCounter, ClockAction.isTick, if_true]
      split
      · rename_i hzero
        have hwrapped : (s.counter + 1).toNat = 0 := congrArg BitVec.toNat hzero
        change 65536 * 1 + 0 = _
        omega
      · rename_i hnot
        have hsmall : (s.counter + 1).toNat ≠ 0 := fun h => hnot (BitVec.eq_of_toNat_eq h)
        change 65536 * 0 + (s.counter + 1).toNat = _
        omega
  | call j =>
      simp only [clockStep] at hs
      split at hs
      · obtain rfl := Option.some.inj hs
        exact Nat.zero_add _
      · cases hs
  | statement j =>
      have hsame := loopStatement_counter hs
      rw [hsame]
      exact Nat.zero_add _

end Steps

section Runs
variable [DecidableEq Tid] {s₀ t : ClockState Tid} {call : List (ClockAction Tid)} {i : Tid}

theorem interruptsIn_concat (a : ClockAction Tid) (hr : run clockStep s₀ call = some t) :
    interruptsIn s₀ (call ++ [a]) = interruptsIn s₀ call + (overflow t a).toList.length := by
  rw [interruptsIn, outputs_concat a hr, List.length_append, interruptsIn]

/-- A whole period of the counter lies between two interrupts. -/
theorem interruptsIn_eq (hr : run clockStep s₀ call = some t) :
    65536 * interruptsIn s₀ call + t.counter.toNat = s₀.counter.toNat + elapsedTicks call := by
  refine run_induction (I := fun call t => 65536 * interruptsIn s₀ call + t.counter.toNat =
    s₀.counter.toNat + elapsedTicks call) (along_true s₀ call) hr
    (by simp [interruptsIn, outputs, elapsedTicks]) ?_
  intro call t a u hr ih _ hs
  rw [interruptsIn_concat a hr, elapsedTicks, List.countP_append, ← elapsedTicks, List.countP_singleton]
  have hstep := counter_step hs
  omega

theorem passes_along (hb : (s₀.reader i).pc = .resetFlag) (hr : run clockStep s₀ call = some t)
    (hin : ∀ m ∈ trail clockStep s₀ call, (m.reader i).pc ≠ .outside) :
    ∃ passes, Passes i (statementsOf i call) (interruptsIn s₀ call) passes t := by
  refine run_induction (I := fun call t => (∀ m ∈ trail clockStep s₀ call, (m.reader i).pc ≠ .outside) →
    ∃ passes, Passes i (statementsOf i call) (interruptsIn s₀ call) passes t)
    (along_true s₀ call) hr ?_ ?_ hin
  · intro _
    refine ⟨0, ?_, Nat.zero_le _, ?_⟩
    · rw [hb]
      rfl
    · rw [hb]
      exact fun _ hpos => absurd hpos (Nat.lt_irrefl 0)
  · intro call m a u hm ih _ hs hin
    rw [trail_concat hm hs] at hin
    have inside : ∀ m ∈ trail clockStep s₀ call, (m.reader i).pc ≠ .outside :=
      fun m member => hin m (List.mem_append_left _ member)
    obtain ⟨passes, h⟩ := ih inside
    rw [interruptsIn_concat a hm, statementsOf, List.countP_append, ← statementsOf,
      List.countP_singleton]
    exact passes_step h (inside m (last_mem_trail hm)) hs
      (hin u (List.mem_append_right _ (List.mem_singleton_self u)))

end Runs

/-- Whatever the other readers do, a call has returned once it has been given four statements
for each passage of the counter to 0 since it began, and four more. -/
theorem call_returns [DecidableEq Tid] (i : Tid) (s₀ t : ClockState Tid) (call : List (ClockAction Tid))
    (hb : (s₀.reader i).pc = .resetFlag) (hrun : run clockStep s₀ call = some t)
    (hturns : 4 * ((s₀.counter.toNat + elapsedTicks call) / 65536 + 1) ≤ statementsOf i call) :
    ∃ m ∈ trail clockStep s₀ call, (m.reader i).pc = .outside := by
  by_contra hnever
  obtain ⟨passes, h⟩ := passes_along hb hrun fun m hm hout => hnever ⟨m, hm, hout⟩
  have hstatements := h.spent
  have hpasses := h.allowed
  have hperiods := interruptsIn_eq hrun
  have hposition : (t.reader i).pc.position ≤ 3 := by
    cases (t.reader i).pc <;> decide
  have hcounter := t.counter.isLt
  omega

/-- The counter passes to 0 behind the first reading, and the second one is kept. -/
theorem call_returns_afterWrap : ∃ m ∈ trail clockStep
      (beforeWrap.setReader true ⟨.resetFlag, 0, 0⟩)
      [.statement true, .statement true, .tick, .statement true, .statement true, .statement true,
        .statement true, .statement true, .statement true], (m.reader true).pc = .outside :=
  call_returns true _ _ _ rfl rfl (by decide)

end SamV71Runtime.Hal
