import SamV71Runtime.ActivationLogThreads

/-!
# Freezing the activation log

The freeze flag is tested at the start of a call only. A log is frozen for good, until
it is unfrozen or cleared, exactly when no call was past that test at the time.
-/
namespace SamV71Runtime.Monitor
open Runs

/-- The statements a call past its freeze test has yet to execute. -/
def CallPoint.statementsLeft : CallPoint → ℕ
  | .testFrozen => 0
  | .storeInterface => 4
  | .storeEntryType => 3
  | .storeTimestamp => 2
  | .incrementCounter => 1
  | .returned _ => 0

def CallPoint.PastTest (p : CallPoint) : Prop := p.statementsLeft ≠ 0

instance (p : CallPoint) : Decidable p.PastTest := inferInstanceAs (Decidable (_ ≠ _))

/-- Nothing is under way that could still write the log. -/
def Settled (s : ThreadState) : Prop :=
  s.log.isFrozen = true ∧ ∀ c ∈ s.calls, ¬ c.point.PastTest

/-- Neither of the two operations that end a freeze. -/
def KeepsFreeze (a : ThreadAction) : Prop := a ≠ .unfreeze ∧ a ≠ .clear

instance (a : ThreadAction) : Decidable (KeepsFreeze a) := inferInstanceAs (Decidable (_ ∧ _))

section Freeze
variable {size : BitVec 32} {s t : ThreadState} {k : ℕ} {c : IndicationCall}

theorem Settled.statement (h : Settled s) {timestamp : BitVec 64} {log : ActivationLog}
    {d : IndicationCall} (hc : c ∈ s.calls)
    (he : executeStatement size s.log c timestamp = some (log, d)) :
    log = s.log ∧ ¬ d.point.PastTest := by
  have hpast := h.2 c hc
  obtain ⟨thread, interface, entryType, point, earlier⟩ := c
  cases point with
  | testFrozen =>
      simp only [executeStatement, h.1, if_true, Option.some.injEq, Prod.mk.injEq] at he
      obtain ⟨rfl, rfl⟩ := he
      exact ⟨rfl, fun hp => hp rfl⟩
  | returned stored => cases he
  | storeInterface | storeEntryType | storeTimestamp | incrementCounter =>
      exact absurd (Nat.succ_ne_zero _) hpast

theorem threadStep_settled (h : Settled s) {a : ThreadAction} (ha : KeepsFreeze a)
    (hs : threadStep size s a = some t) : Settled t ∧ t.log = s.log := by
  cases a with
  | indicate thread interface entryType =>
      simp only [threadStep] at hs
      split at hs
      · cases hs
      · obtain rfl := Option.some.inj hs
        refine ⟨⟨h.1, fun c hc => ?_⟩, rfl⟩
        rcases List.mem_append.mp hc with hold | hnew
        · exact h.2 c hold
        · obtain rfl := List.mem_singleton.mp hnew
          exact fun hp => hp rfl
  | statement call timestamp =>
      obtain ⟨c, log, d, hk, he, rfl⟩ := threadStep_statement_cases hs
      obtain ⟨rfl, hd⟩ := h.statement (List.mem_of_getElem? hk) he
      refine ⟨⟨h.1, fun c' hc' => ?_⟩, rfl⟩
      rcases List.mem_or_eq_of_mem_set hc' with hold | rfl
      · exact h.2 c' hold
      · exact hd
  | freeze =>
      obtain rfl := Option.some.inj hs
      unfold freezeInterfaceActivationLogging
      split
      · exact ⟨h, rfl⟩
      · have hsame : { s.log with isFrozen := true } = s.log := by rw [← h.1]
        simp only [hsame]
        exact ⟨h, trivial⟩
  | unfreeze => exact absurd rfl ha.1
  | clear => exact absurd rfl ha.2
  | get =>
      obtain ⟨_, _, rfl⟩ := Option.map_eq_some_iff.mp hs
      exact ⟨h, rfl⟩

theorem run_settled (h : Settled s) {as : List ThreadAction} (ha : ∀ a ∈ as, KeepsFreeze a)
    (hr : run (threadStep size) s as = some t) : t.log = s.log := by
  have hboth : Settled t ∧ t.log = s.log := by
    refine run_invariant (I := fun u => Settled u ∧ u.log = s.log)
      (along_of_forall s ha) hr ⟨h, rfl⟩ ?_
    intro u a v hu ha hs
    obtain ⟨hv, hlog⟩ := threadStep_settled hu.1 ha hs
    exact ⟨hv, hlog.trans hu.2⟩
  exact hboth.2

theorem executeStatement_store (hsize : size ≠ 0) (log : ActivationLog) (timestamp : BitVec 64)
    {n : ℕ} (hn : c.point.statementsLeft = n + 2) :
    ∃ log' d, executeStatement size log c timestamp = some (log', d) ∧
      log'.activationEntryCounter = log.activationEntryCounter ∧
      d.point.statementsLeft = n + 1 := by
  obtain ⟨thread, interface, entryType, point, earlier⟩ := c
  cases point with
  | storeInterface | storeEntryType | storeTimestamp =>
      simp only [executeStatement, storeInterface, storeEntryType, storeTimestamp,
        storeField_of_ne log hsize, Option.map_some]
      refine ⟨_, _, rfl, rfl, ?_⟩
      simp only [CallPoint.statementsLeft] at hn ⊢
      omega
  | testFrozen | incrementCounter | returned stored =>
      simp only [CallPoint.statementsLeft] at hn
      omega

/-- A call past its test, once resumed, counts its entry. -/
theorem resumed_call_counts (hsize : size ≠ 0) (timestamp : BitVec 64) (log : ActivationLog)
    {n : ℕ} {calls : List IndicationCall} (hk : calls[k]? = some c)
    (hn : c.point.statementsLeft = n + 1) :
    ∃ t, run (threadStep size) ⟨log, calls⟩ (List.replicate (n + 1) (.statement k timestamp)) =
      some t ∧ t.log.activationEntryCounter = log.activationEntryCounter + 1 := by
  induction n generalizing log calls c with
  | zero =>
      have hpoint : c.point = .incrementCounter := by
        cases hp : c.point <;> simp [hp, CallPoint.statementsLeft] at hn ⊢
      have he : executeStatement size log c timestamp =
          some (incrementCounter log, { c with point := .returned true }) := by
        simp only [executeStatement, hpoint]
      exact ⟨_, run_statement_cons hk he [], rfl⟩
  | succ n ih =>
      obtain ⟨log', d, he, hcounter, hd⟩ := executeStatement_store hsize log timestamp hn
      obtain ⟨t, ht, hcount⟩ := ih log' (getElem?_set_call hk) hd
      refine ⟨t, ?_, hcount.trans (by rw [hcounter])⟩
      rw [List.replicate_succ, run_statement_cons hk he, ht]

/-- Whatever runs after a successful freeze, short of an unfreeze or a clear, leaves the
log as it was if and only if no call was past its freeze test. -/
theorem frozen_log_unchanged_iff (size : BitVec 32) (s : ThreadState) {log : ActivationLog}
    (hfreeze : freezeInterfaceActivationLogging size s.log = (true, log)) :
    (∀ as t, (∀ a ∈ as, KeepsFreeze a) → run (threadStep size) ⟨log, s.calls⟩ as = some t →
      t.log.activationLogBuffer = log.activationLogBuffer ∧
      t.log.activationEntryCounter = log.activationEntryCounter) ↔
      ∀ c ∈ s.calls, ¬ c.point.PastTest := by
  have hset : size ≠ 0 ∧ log.isFrozen = true := by
    unfold freezeInterfaceActivationLogging at hfreeze
    split at hfreeze
    · cases hfreeze
    · rename_i hsize
      obtain ⟨-, rfl⟩ := Prod.mk.inj hfreeze
      exact ⟨hsize, rfl⟩
  constructor
  · intro hunchanged c hc hpast
    obtain ⟨k, hk⟩ := List.mem_iff_getElem?.mp hc
    obtain ⟨n, hn⟩ := Nat.exists_eq_succ_of_ne_zero hpast
    obtain ⟨t, ht, hcount⟩ := resumed_call_counts hset.1 0 log hk hn
    have hkeeps : ∀ a ∈ List.replicate (n + 1) (ThreadAction.statement k 0), KeepsFreeze a := by
      intro a ha
      rw [List.eq_of_mem_replicate ha]
      constructor
      · intro he
        cases he
      · intro he
        cases he
    have hsame := (hunchanged _ t hkeeps ht).2
    rw [hcount] at hsame
    bv_omega
  · intro hsettled as t ha hr
    have hlog := run_settled (s := ⟨log, s.calls⟩) ⟨hset.2, hsettled⟩ ha hr
    rw [hlog]
    exact ⟨rfl, rfl⟩

end Freeze

/-- One call before its freeze test. -/
def callStarting : ThreadState :=
  ⟨{ ActivationLog.initial fun _ => emptyEntry with isFrozen := false },
    [⟨1, 5#32, .activation, .testFrozen, 0#64⟩]⟩

def frozenLog : ActivationLog := .initial fun _ => emptyEntry

def afterFreeze : List ThreadAction :=
  [.get, .statement 0 100#64, .indicate 2 6#32 .deactivation, .statement 1 200#64]

theorem callStarting_frozen :
    freezeInterfaceActivationLogging 2#32 callStarting.log = (true, frozenLog) ∧
    ∃ t, run (threadStep 2#32) ⟨frozenLog, callStarting.calls⟩ afterFreeze = some t ∧
      t.log.activationLogBuffer = frozenLog.activationLogBuffer ∧
      t.log.activationEntryCounter = frozenLog.activationEntryCounter :=
  ⟨rfl, _, rfl, (frozen_log_unchanged_iff 2#32 callStarting rfl).mpr (by decide) afterFreeze _
    (by decide) rfl⟩

/-- A freeze between the test and the first store of a call: the call goes on to store
its entry and to count it. -/
theorem frozen_log_written : ∃ s t,
    run (threadStep 2#32) ⟨.initial fun _ => emptyEntry, []⟩
      [.unfreeze, .indicate 1 5#32 .activation, .statement 0 0#64] = some s ∧
    (freezeInterfaceActivationLogging 2#32 s.log).1 = true ∧
    run (threadStep 2#32) ⟨(freezeInterfaceActivationLogging 2#32 s.log).2, s.calls⟩
      (List.replicate 4 (.statement 0 100#64)) = some t ∧
    s.log.activationEntryCounter = 0 ∧ t.log.isFrozen = true ∧
    t.log.activationEntryCounter = 1 ∧
    t.log.activationLogBuffer 0 = ⟨5#32, .activation, 100#64⟩ ∧
    t.log.activationLogBuffer 0 ≠ s.log.activationLogBuffer 0 :=
  ⟨_, _, rfl, rfl, rfl, rfl, rfl, rfl, by decide, by decide⟩

end SamV71Runtime.Monitor
