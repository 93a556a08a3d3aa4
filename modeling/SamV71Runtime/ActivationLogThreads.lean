import SamV71Runtime.ActivationLog
import SamV71Runtime.Runs

/-!
# Indications of preempting threads

One step is one statement of `handle_activation_log_cyclic_buffer`, executed for one of
the calls in progress, or one whole operation of a reader. A thread has one call in
progress at most; which call executes next is free.
-/
namespace SamV71Runtime.Monitor
open Runs

/-- The statement a call executes next. -/
inductive CallPoint where
  | testFrozen
  | storeInterface
  | storeEntryType
  | storeTimestamp
  | incrementCounter
  | returned (stored : Bool)
  deriving DecidableEq, Repr

/-- `timestamp` is what `Hal_GetElapsedTimeInNs` returned to the call. -/
structure IndicationCall where
  thread : ℕ
  interface : BitVec 32
  entryType : EntryType
  point : CallPoint
  timestamp : BitVec 64
  deriving DecidableEq, Repr

structure ThreadState where
  log : ActivationLog
  calls : List IndicationCall

def CallPoint.running : CallPoint → Bool
  | .returned _ => false
  | _ => true

inductive ThreadAction where
  | indicate (thread : ℕ) (interface : BitVec 32) (entryType : EntryType)
  | statement (call : ℕ) (timestamp : BitVec 64)
  | freeze
  | unfreeze
  | clear
  | get
  deriving DecidableEq

def executeStatement (size : BitVec 32) (log : ActivationLog) (c : IndicationCall)
    (timestamp : BitVec 64) : Option (ActivationLog × IndicationCall) :=
  match c.point with
  | .testFrozen =>
      some (log, { c with point := if log.isFrozen then .returned false else .storeInterface })
  | .storeInterface =>
      (storeInterface size log c.interface).map fun log =>
        (log, { c with point := .storeEntryType })
  | .storeEntryType =>
      (storeEntryType size log c.entryType).map fun log =>
        (log, { c with point := .storeTimestamp })
  | .storeTimestamp =>
      (storeTimestamp size log timestamp).map fun log =>
        (log, { c with point := .incrementCounter, timestamp })
  | .incrementCounter => some (incrementCounter log, { c with point := .returned true })
  | .returned _ => none

def threadStep (size : BitVec 32) (s : ThreadState) : ThreadAction → Option ThreadState
  | .indicate thread interface entryType =>
      if s.calls.any fun c => c.thread == thread && c.point.running then none
      else some { s with
        calls := s.calls ++ [⟨thread, interface, entryType, .testFrozen, 0⟩] }
  | .statement call timestamp => do
      let c ← s.calls[call]?
      let (log, c) ← executeStatement size s.log c timestamp
      some ⟨log, s.calls.set call c⟩
  | .freeze => some { s with log := (freezeInterfaceActivationLogging size s.log).2 }
  | .unfreeze => some { s with log := (unfreezeInterfaceActivationLogging size s.log).2 }
  | .clear => some { s with log := (clearInterfaceActivationLog size s.log).2 }
  | .get => (getInterfaceActivationEntryLog size s.log).map fun _ => s

section Statements
variable {size : BitVec 32} {s t : ThreadState} {k : ℕ} {c : IndicationCall}

theorem getElem?_set_call {calls : List IndicationCall} {d : IndicationCall}
    (hk : calls[k]? = some c) : (calls.set k d)[k]? = some d := by
  obtain ⟨hlt, _⟩ := List.getElem?_eq_some_iff.mp hk
  exact List.getElem?_set_self hlt

theorem run_statement_cons {timestamp : BitVec 64} {log log' : ActivationLog}
    {calls : List IndicationCall} {d : IndicationCall} (hk : calls[k]? = some c)
    (he : executeStatement size log c timestamp = some (log', d)) (as : List ThreadAction) :
    run (threadStep size) ⟨log, calls⟩ (.statement k timestamp :: as) =
      run (threadStep size) ⟨log', calls.set k d⟩ as := by
  simp only [run, threadStep, hk, he, Option.bind_eq_bind, Option.bind_some]

theorem threadStep_statement_cases {timestamp : BitVec 64}
    (hs : threadStep size s (.statement k timestamp) = some t) :
    ∃ c log d, s.calls[k]? = some c ∧ executeStatement size s.log c timestamp = some (log, d) ∧
      t = ⟨log, s.calls.set k d⟩ := by
  obtain ⟨c, hk, hs⟩ := Option.bind_eq_some_iff.mp hs
  obtain ⟨⟨log, d⟩, he, hs⟩ := Option.bind_eq_some_iff.mp hs
  exact ⟨c, log, d, hk, he, (Option.some.inj hs).symm⟩

/-- A call that no other step comes between does what the whole operation does. -/
theorem uninterrupted_call {interface : BitVec 32} {entryType : EntryType} {thread : ℕ}
    {timestamp earlier : BitVec 64} {stored : Bool} {log₀ log : ActivationLog}
    {calls : List IndicationCall}
    (hk : calls[k]? = some ⟨thread, interface, entryType, .testFrozen, earlier⟩)
    (h : handleActivationLogCyclicBuffer size log₀ interface entryType timestamp =
      some (stored, log)) :
    ∃ n d, run (threadStep size) ⟨log₀, calls⟩ (List.replicate n (.statement k timestamp)) =
      some ⟨log, calls.set k d⟩ ∧ d.point = .returned stored := by
  unfold handleActivationLogCyclicBuffer at h
  split at h
  · rename_i hfrozen
    obtain ⟨rfl, rfl⟩ := Prod.mk.inj (Option.some.inj h)
    refine ⟨1, ⟨thread, interface, entryType, .returned false, earlier⟩, ?_, rfl⟩
    exact run_statement_cons hk (by simp only [executeStatement, if_pos hfrozen]) []
  · rename_i hfrozen
    obtain ⟨log₁, h₁, h⟩ := Option.bind_eq_some_iff.mp h
    obtain ⟨log₂, h₂, h⟩ := Option.bind_eq_some_iff.mp h
    obtain ⟨log₃, h₃, h⟩ := Option.bind_eq_some_iff.mp h
    obtain ⟨rfl, rfl⟩ := Prod.mk.inj (Option.some.inj h)
    refine ⟨5, ⟨thread, interface, entryType, .returned true, timestamp⟩, ?_, rfl⟩
    let call := IndicationCall.mk thread interface entryType
    have e₀ : executeStatement size log₀ (call .testFrozen earlier) timestamp =
        some (log₀, call .storeInterface earlier) := by
      simp only [executeStatement, call, if_neg hfrozen]
    have e₁ : executeStatement size log₀ (call .storeInterface earlier) timestamp =
        some (log₁, call .storeEntryType earlier) := by
      simp only [executeStatement, call, h₁, Option.map_some]
    have e₂ : executeStatement size log₁ (call .storeEntryType earlier) timestamp =
        some (log₂, call .storeTimestamp earlier) := by
      simp only [executeStatement, call, h₂, Option.map_some]
    have e₃ : executeStatement size log₂ (call .storeTimestamp earlier) timestamp =
        some (log₃, call .incrementCounter timestamp) := by
      simp only [executeStatement, call, h₃, Option.map_some]
    have e₄ : executeStatement size log₃ (call .incrementCounter timestamp) timestamp =
        some (incrementCounter log₃, call (.returned true) timestamp) := rfl
    have hk₁ := getElem?_set_call (d := call .storeInterface earlier) hk
    have hk₂ := getElem?_set_call (d := call .storeEntryType earlier) hk₁
    have hk₃ := getElem?_set_call (d := call .storeTimestamp earlier) hk₂
    have hk₄ := getElem?_set_call (d := call .incrementCounter timestamp) hk₃
    simp only [List.replicate]
    rw [run_statement_cons hk e₀, run_statement_cons hk₁ e₁, run_statement_cons hk₂ e₂,
      run_statement_cons hk₃ e₃, run_statement_cons hk₄ e₄]
    simp only [run, List.set_set, call]

end Statements

end SamV71Runtime.Monitor
