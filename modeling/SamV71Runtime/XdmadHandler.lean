import SamV71Runtime.Runs
import SamV71Runtime.Xdmad

/-!
# One run of the DMA interrupt handler

What a channel's own registers and record ask for, and what the loop does to it, which
carries `bExec` from one channel to the next and returns at the first free channel. The
callbacks leave the driver alone.
-/
namespace SamV71Runtime.XdmaDriver
open Runs

/-- What a run of the handler finds. -/
structure HandlerInput where
  driver : Xdmad
  xdmaGlobaIntStatus : BitVec 32
  xdmaGlobalChStatus : BitVec 32
  statuses : BitVec 8 → ChannelStatus

/-- The record a pending channel ends up with, and the calls of its callback, from its own
data alone: it is done if it is disabled and its masked status ends the transfer; the
callback, if set, is called once if it is done, or enabled with its end of block. -/
def channelOutcome (enabled : Bool) (status : ChannelStatus) (iChannel : BitVec 8)
    (pCh : XdmadChannel) : XdmadChannel × List CallbackCall :=
  let done := !enabled && transferEnded status
  let blockEnded := enabled && status.interruptStatus &&& xdmacCisBis ≠ 0
  (if done then { pCh with state := .done } else pCh,
    if (done || blockEnded) && pCh.fCallback ≠ 0 then [⟨pCh.fCallback, iChannel, pCh.pArg⟩] else [])

namespace HandlerInput

section Channels
variable (s : HandlerInput) (i : ℕ)

def record : XdmadChannel := s.driver.xdmaChannels (BitVec.ofNat 8 i)

def status : ChannelStatus := s.statuses (BitVec.ofNat 8 i)

def call : CallbackCall := ⟨(s.record i).fCallback, BitVec.ofNat 8 i, (s.record i).pArg⟩

def Pending : Prop := s.xdmaGlobaIntStatus &&& channelBit (BitVec.ofNat 8 i) ≠ 0

def Enabled : Prop := s.xdmaGlobalChStatus &&& channelBit (BitVec.ofNat 8 i) ≠ 0

def Free : Prop := (s.record i).state = .free

def Ended : Prop := transferEnded (s.status i) = true

def BlockEnded : Prop := (s.status i).interruptStatus &&& xdmacCisBis ≠ 0

def HasCallback : Prop := (s.record i).fCallback ≠ 0

instance : Decidable (s.Pending i) := inferInstanceAs (Decidable (_ ≠ _))
instance : Decidable (s.Enabled i) := inferInstanceAs (Decidable (_ ≠ _))
instance : Decidable (s.Free i) := inferInstanceAs (Decidable (_ = _))
instance : Decidable (s.Ended i) := inferInstanceAs (Decidable (_ = _))
instance : Decidable (s.BlockEnded i) := inferInstanceAs (Decidable (_ ≠ _))
instance : Decidable (s.HasCallback i) := inferInstanceAs (Decidable (_ ≠ _))

def outcome : XdmadChannel × List CallbackCall :=
  channelOutcome (s.Enabled i) (s.status i) (BitVec.ofNat 8 i) (s.record i)

/-- Nothing is to be done for the channel. -/
def Idle : Prop := s.outcome i = (s.record i, [])

/-- No channel up to this one makes the handler return. -/
def Reached : Prop := ∀ k ≤ i, s.Pending k → ¬ s.Free k

/-- The last pending channel below that is disabled has ended its transfer. -/
def Stale : Prop := ∃ j < i, s.Pending j ∧ ¬ s.Enabled j ∧ s.Ended j ∧
  ∀ k < i, j < k → s.Pending k → s.Enabled k

instance : Decidable (s.Reached i) :=
  inferInstanceAs (Decidable (∀ k ≤ i, s.Pending k → ¬ s.Free k))

instance : Decidable (s.Stale i) :=
  inferInstanceAs (Decidable (∃ j < i, s.Pending j ∧ ¬ s.Enabled j ∧ s.Ended j ∧
    ∀ k < i, j < k → s.Pending k → s.Enabled k))

end Channels

/-- Every pending channel that is not free gets what its own data ask for, and no callback
that is not set is called. -/
def HandledAlone (s : HandlerInput) : Prop :=
  ∃ driver calls, xdmadHandler s.driver s.xdmaGlobaIntStatus s.xdmaGlobalChStatus s.statuses =
      some (driver, calls) ∧
    (∀ i < s.driver.numChannels.toNat, s.Pending i → ¬ s.Free i →
      (driver.xdmaChannels (BitVec.ofNat 8 i), calls.filter (·.iChannel = BitVec.ofNat 8 i)) =
        s.outcome i) ∧
    ∀ call ∈ calls, call.fCallback ≠ 0

/-- Above a free channel that is pending nothing is to be done; up to there, an enabled
channel with an end of block has a callback, and one with a callback does not follow a
disabled channel that has ended its transfer. -/
structure NoInterference (s : HandlerInput) : Prop where
  handled : ∀ i j, i < j → j < s.driver.numChannels.toNat → s.Pending i → s.Free i →
    s.Pending j → ¬ s.Free j → s.Idle j
  callbackSet : ∀ i < s.driver.numChannels.toNat, s.Reached i → s.Pending i → s.Enabled i →
    s.BlockEnded i → s.HasCallback i
  flagCleared : ∀ i < s.driver.numChannels.toNat, s.Reached i → s.Pending i → s.Enabled i →
    s.HasCallback i → ¬ s.Stale i

/-- The handler's loop between two iterations. -/
structure Progress where
  driver : Xdmad
  bExec : Bool
  returned : Bool
  calls : List CallbackCall

/-- An iteration, or nothing once the handler has returned. -/
def iteration (s : HandlerInput) (p : Progress) (i : ℕ) : Option Progress :=
  if p.returned then some p
  else
    (handleChannel p.driver s.xdmaGlobaIntStatus s.xdmaGlobalChStatus (s.status i)
      (BitVec.ofNat 8 i) p.bExec).map fun
    | .returned => { p with returned := true }
    | .continued driver bExec calls => { p with driver, bExec, calls := p.calls ++ calls }

variable {s : HandlerInput} {p : Progress} {n : ℕ}

theorem run_of_returned (h : p.returned = true) (is : List ℕ) : run s.iteration p is = some p := by
  induction is with
  | nil => rfl
  | cons i is ih => rw [run, iteration, if_pos h, Option.bind_some, ih]

theorem handleChannels_cons (gis gs : BitVec 32) (statuses : BitVec 8 → ChannelStatus)
    (c : BitVec 8) (rest : List (BitVec 8)) (d : Xdmad) (b : Bool) :
    handleChannels gis gs statuses (c :: rest) d b =
      (handleChannel d gis gs (statuses c) c b).bind fun
        | .returned => some (d, [])
        | .continued d b calls =>
            (handleChannels gis gs statuses rest d b).map fun r => (r.1, calls ++ r.2) := by
  rw [handleChannels]
  cases handleChannel d gis gs (statuses c) c b with
  | none => rfl
  | some result =>
      cases result with
      | returned => rfl
      | continued d b calls =>
          cases h : handleChannels gis gs statuses rest d b <;> simp [h]

/-- The iterations one after the other are the loop. -/
theorem run_iteration (s : HandlerInput) (d : Xdmad) (b : Bool) (cs : List CallbackCall) (is : List ℕ) :
    (run s.iteration ⟨d, b, false, cs⟩ is).map (fun p => (p.driver, p.calls)) =
      (handleChannels s.xdmaGlobaIntStatus s.xdmaGlobalChStatus s.statuses
        (is.map (BitVec.ofNat 8)) d b).map fun r => (r.1, cs ++ r.2) := by
  induction is generalizing d b cs with
  | nil => simp [run, handleChannels]
  | cons i is ih =>
      rw [List.map_cons, run, handleChannels_cons, iteration, if_neg Bool.false_ne_true, status]
      cases handleChannel d s.xdmaGlobaIntStatus s.xdmaGlobalChStatus (s.statuses (BitVec.ofNat 8 i))
          (BitVec.ofNat 8 i) b with
      | none => rfl
      | some result =>
          cases result with
          | returned => simp [run_of_returned]
          | continued d b calls =>
              simp only [Option.map_some, Option.bind_some, ih, Option.map_map]
              congr 1
              funext r
              simp [List.append_assoc]

theorem stale_succ_of_enabled (h : s.Pending n → s.Enabled n) : s.Stale (n + 1) ↔ s.Stale n := by
  constructor
  · rintro ⟨j, hj, hpending, hdisabled, hended, hrest⟩
    have hne : j ≠ n := by
      rintro rfl
      exact hdisabled (h hpending)
    exact ⟨j, by omega, hpending, hdisabled, hended, fun k hk hjk => hrest k (by omega) hjk⟩
  · rintro ⟨j, hj, hpending, hdisabled, hended, hrest⟩
    refine ⟨j, by omega, hpending, hdisabled, hended, fun k hk hjk => ?_⟩
    rcases Nat.lt_succ_iff_lt_or_eq.mp hk with hk | rfl
    · exact hrest k hk hjk
    · exact h

theorem stale_succ_of_disabled (hpending : s.Pending n) (hdisabled : ¬ s.Enabled n) :
    s.Stale (n + 1) ↔ s.Ended n := by
  constructor
  · rintro ⟨j, hj, -, -, hended, hrest⟩
    rcases Nat.lt_succ_iff_lt_or_eq.mp hj with hj | rfl
    · exact absurd (hrest n (Nat.lt_succ_self n) hj hpending) hdisabled
    · exact hended
  · intro hended
    exact ⟨n, Nat.lt_succ_self n, hpending, hdisabled, hended, fun k hk hnk => by omega⟩

/-- What the loop makes of a channel that it handles: the record is the channel's own, and
an enabled one is also called when the flag of an earlier channel is still set. -/
def made (s : HandlerInput) (i : ℕ) : XdmadChannel × List CallbackCall :=
  ((s.outcome i).1,
    if s.HasCallback i then
      if s.Enabled i then
        (if s.BlockEnded i then [s.call i] else []) ++ if s.Stale i then [s.call i] else []
      else if s.Ended i then [s.call i] else []
    else [])

/-- The callback of the channel is called although it is not set. -/
def NullCall (s : HandlerInput) (i : ℕ) : Prop :=
  s.Pending i ∧ s.Enabled i ∧ s.BlockEnded i ∧ ¬ s.HasCallback i

def Progress.view (p : Progress) (i : ℕ) : XdmadChannel × List CallbackCall :=
  (p.driver.xdmaChannels (BitVec.ofNat 8 i), p.calls.filter (·.iChannel = BitVec.ofNat 8 i))

/-- The state of the loop ahead of iteration `n`. -/
structure Progressed (s : HandlerInput) (n : ℕ) (p : Progress) : Prop where
  returned_iff : p.returned = true ↔ ∃ k < n, s.Pending k ∧ s.Free k
  flag_iff : p.returned = false → (p.bExec = true ↔ s.Stale n)
  handled : ∀ i < n, s.Pending i → s.Reached i → p.view i = s.made i
  untouched : ∀ i < 256, ¬ (i < n ∧ s.Pending i ∧ s.Reached i) → p.view i = (s.record i, [])
  callbackSet : ∀ call ∈ p.calls, call.fCallback ≠ 0

def start (s : HandlerInput) : Progress := ⟨s.driver, false, false, []⟩

theorem progressed_start_of_not_pending (s : HandlerInput) (h : ∀ i < n, ¬ s.Pending i) :
    s.Progressed n s.start := by
  constructor
  case returned_iff =>
    simp only [start, Bool.false_eq_true, false_iff, not_exists, not_and]
    exact fun k hk hpending => absurd hpending (h k hk)
  case flag_iff =>
    simp only [start, Bool.false_eq_true, false_iff, forall_const]
    rintro ⟨j, hj, hpending, -⟩
    exact h j hj hpending
  case handled => exact fun i hi hpending => absurd hpending (h i hi)
  case untouched => exact fun i _ _ => rfl
  case callbackSet => simp [start]

theorem progressed_start (s : HandlerInput) : s.Progressed 0 s.start :=
  s.progressed_start_of_not_pending fun i hi => absurd hi (Nat.not_lt_zero i)

theorem Progressed.reached_of_not_returned (hp : s.Progressed n p) (h : p.returned = false)
    (hfree : ¬ s.Free n) : s.Reached n := by
  intro k hk hpending hkfree
  rcases Nat.lt_or_eq_of_le hk with hk | rfl
  · rw [hp.returned_iff.mpr ⟨k, hk, hpending, hkfree⟩] at h
    exact Bool.noConfusion h
  · exact hfree hkfree

theorem ofNat_eq_iff {i j : ℕ} (hi : i < 256) (hj : j < 256) :
    BitVec.ofNat 8 i = BitVec.ofNat 8 j ↔ i = j := by
  rw [BitVec.toNat_inj.symm, BitVec.toNat_ofNat, BitVec.toNat_ofNat, Nat.mod_eq_of_lt hi,
    Nat.mod_eq_of_lt hj]

/-- An iteration that leaves the other channels alone, and makes of its own what it has to. -/
theorem Progressed.next (hp : s.Progressed n p) (hn : n < 256) {q : Progress}
    (hreturned : q.returned = true ↔ p.returned = true ∨ s.Pending n ∧ s.Free n)
    (hflag : q.returned = false → (q.bExec = true ↔ s.Stale (n + 1)))
    (hother : ∀ i < 256, i ≠ n → q.view i = p.view i)
    (hself : s.Pending n → s.Reached n → q.view n = s.made n)
    (hkept : ¬ (s.Pending n ∧ s.Reached n) → q.view n = p.view n)
    (hset : ∀ call ∈ q.calls, call.fCallback ≠ 0) : s.Progressed (n + 1) q := by
  constructor
  case returned_iff => rw [hreturned, hp.returned_iff, Nat.exists_lt_succ_right]
  case flag_iff => exact hflag
  case handled =>
    intro i hi hpending hreached
    rcases Nat.lt_succ_iff_lt_or_eq.mp hi with hi | rfl
    · rw [hother i (Nat.lt_trans hi hn) (Nat.ne_of_lt hi)]
      exact hp.handled i hi hpending hreached
    · exact hself hpending hreached
  case untouched =>
    intro i hi hnot
    have hold : p.view i = (s.record i, []) := by
      exact hp.untouched i hi fun ⟨hin, h⟩ => hnot ⟨Nat.lt_succ_of_lt hin, h⟩
    by_cases hne : i = n
    · subst hne
      rw [hkept fun h => hnot ⟨Nat.lt_succ_self i, h⟩, hold]
    · rw [hother i hi hne, hold]
  case callbackSet => exact hset

/-- An iteration that has nothing to do. -/
theorem Progressed.skip (hp : s.Progressed n p) (hn : n < 256)
    (h : p.returned = false → ¬ s.Pending n) (hr : p.returned = true → ¬ s.Reached n) :
    s.Progressed (n + 1) p := by
  have hnot : ¬ (s.Pending n ∧ s.Reached n) := by
    rintro ⟨hpending, hreached⟩
    cases hret : p.returned with
    | false => exact h hret hpending
    | true => exact hr hret hreached
  apply hp.next hn
  · constructor
    · exact Or.inl
    · rintro (hret | ⟨hpending, -⟩)
      · exact hret
      · cases hret : p.returned with
        | false => exact absurd hpending (h hret)
        | true => rfl
  · intro hret
    rw [hp.flag_iff hret, stale_succ_of_enabled fun hpending => absurd hpending (h hret)]
  · exact fun _ _ _ => rfl
  · exact fun hpending hreached => absurd ⟨hpending, hreached⟩ hnot
  · exact fun _ => rfl
  · exact hp.callbackSet

/-- The loop returns at a free channel. -/
theorem Progressed.leave (hp : s.Progressed n p) (hn : n < 256) (hpending : s.Pending n)
    (hfree : s.Free n) : s.Progressed (n + 1) { p with returned := true } := by
  have hnot : ¬ s.Reached n := fun h => h n (Nat.le_refl n) hpending hfree
  apply hp.next hn
  · exact iff_of_true rfl (Or.inr ⟨hpending, hfree⟩)
  · exact fun h => Bool.noConfusion h
  · exact fun _ _ _ => rfl
  · exact fun _ hreached => absurd hreached hnot
  · exact fun _ => rfl
  · exact hp.callbackSet

/-- What an iteration that handles its channel does to the loop. -/
def Progress.put (p : Progress) (i : ℕ) (record : XdmadChannel) (bExec : Bool)
    (calls : List CallbackCall) : Progress :=
  ⟨p.driver.setChannel (BitVec.ofNat 8 i) record, bExec, false, p.calls ++ calls⟩

theorem view_put_self (p : Progress) (i : ℕ) (record : XdmadChannel) (bExec : Bool)
    {calls : List CallbackCall} (hcalls : ∀ call ∈ calls, call.iChannel = BitVec.ofNat 8 i)
    (hold : (p.view i).2 = []) : (p.put i record bExec calls).view i = (record, calls) := by
  have hkept : calls.filter (·.iChannel = BitVec.ofNat 8 i) = calls := by
    exact List.filter_eq_self.mpr fun call hmem => decide_eq_true (hcalls call hmem)
  change (Function.update p.driver.xdmaChannels (BitVec.ofNat 8 i) record (BitVec.ofNat 8 i),
    (p.calls ++ calls).filter (·.iChannel = BitVec.ofNat 8 i)) = (record, calls)
  change p.calls.filter (·.iChannel = BitVec.ofNat 8 i) = [] at hold
  rw [Function.update_self, List.filter_append, hold, hkept, List.nil_append]

theorem view_put_of_ne (p : Progress) {i j : ℕ} (hi : i < 256) (hj : j < 256) (hne : j ≠ i)
    (record : XdmadChannel) (bExec : Bool) {calls : List CallbackCall}
    (hcalls : ∀ call ∈ calls, call.iChannel = BitVec.ofNat 8 i) :
    (p.put i record bExec calls).view j = p.view j := by
  have hdropped : calls.filter (·.iChannel = BitVec.ofNat 8 j) = [] := by
    apply List.filter_eq_nil_iff.mpr
    intro call hmem
    rw [hcalls call hmem, decide_eq_true_iff, ofNat_eq_iff hi hj]
    exact hne.symm
  change (Function.update p.driver.xdmaChannels (BitVec.ofNat 8 i) record (BitVec.ofNat 8 j),
    (p.calls ++ calls).filter (·.iChannel = BitVec.ofNat 8 j)) = p.view j
  rw [Function.update_of_ne fun h => hne ((ofNat_eq_iff hj hi).mp h), List.filter_append, hdropped,
    List.append_nil]
  rfl

/-- An iteration that handles its channel. -/
theorem Progressed.extend (hp : s.Progressed n p) (hn : n < 256) (hret : p.returned = false)
    (hpending : s.Pending n) (hfree : ¬ s.Free n) {record : XdmadChannel} {bExec : Bool}
    {calls : List CallbackCall} (hflag : bExec = true ↔ s.Stale (n + 1))
    (hmade : s.made n = (record, calls))
    (hcalls : ∀ call ∈ calls, call.iChannel = BitVec.ofNat 8 n ∧ call.fCallback ≠ 0) :
    s.Progressed (n + 1) (p.put n record bExec calls) := by
  have hreached := hp.reached_of_not_returned hret hfree
  have hown : ∀ call ∈ calls, call.iChannel = BitVec.ofNat 8 n := fun call hmem =>
    (hcalls call hmem).1
  apply hp.next hn
  · refine iff_of_false Bool.false_ne_true ?_
    rintro (h | ⟨-, h⟩)
    · exact Bool.noConfusion (hret.symm.trans h)
    · exact hfree h
  · exact fun _ => hflag
  · exact fun i hi hne => view_put_of_ne p hn hi hne record bExec hown
  · intro _ _
    rw [hmade, view_put_self p n record bExec hown]
    exact congrArg Prod.snd (hp.untouched n hn fun h => Nat.lt_irrefl n h.1)
  · exact fun hnot => absurd ⟨hpending, hreached⟩ hnot
  · intro call hmem
    rcases List.mem_append.mp hmem with hmem | hmem
    · exact hp.callbackSet call hmem
    · exact (hcalls call hmem).2

theorem Progressed.record_eq (hp : s.Progressed n p) (hn : n < 256) :
    p.driver.xdmaChannels (BitVec.ofNat 8 n) = s.record n := by
  exact congrArg Prod.fst (hp.untouched n hn fun h => Nat.lt_irrefl n h.1)

theorem setChannel_record (hp : s.Progressed n p) (hn : n < 256) :
    p.driver.setChannel (BitVec.ofNat 8 n) (s.record n) = p.driver := by
  rw [← hp.record_eq hn, Xdmad.setChannel, Function.update_eq_self]

theorem iteration_of_disabled (hp : s.Progressed n p) (hn : n < 256) (hret : p.returned = false)
    (hpending : s.Pending n) (hfree : ¬ s.Free n) (hdisabled : ¬ s.Enabled n) :
    s.iteration p n =
      some (p.put n (s.made n).1 (decide (s.Ended n)) (s.made n).2) := by
  have hrecord := hp.record_eq hn
  have hstate : (s.record n).state ≠ .free := hfree
  have hstatus : s.xdmaGlobalChStatus &&& channelBit (BitVec.ofNat 8 n) = 0 := by
    exact Decidable.not_not.mp hdisabled
  rw [iteration, hret, if_neg Bool.false_ne_true, handleChannel, hrecord, if_neg hpending,
    if_neg hstate, if_pos hstatus]
  cases hended : transferEnded (s.status n) with
  | true =>
      have hmade : s.made n = ({ s.record n with state := .done },
          if s.HasCallback n then [s.call n] else []) := by
        simp [made, outcome, channelOutcome, hdisabled, Ended, hended]
      rw [if_pos rfl, hmade]
      simp only [Progress.put, Xdmad.setState, hrecord, Ended, hended, decide_true]
      rfl
  | false =>
      have hmade : s.made n = (s.record n, []) := by
        simp [made, outcome, channelOutcome, hdisabled, Ended, hended]
      rw [if_neg Bool.false_ne_true, hmade]
      simp only [Progress.put, setChannel_record hp hn, Ended, hended, decide_false,
        Bool.false_eq_true]
      rfl

theorem iteration_of_enabled (hp : s.Progressed n p) (hn : n < 256) (hret : p.returned = false)
    (hpending : s.Pending n) (hfree : ¬ s.Free n) (henabled : s.Enabled n) :
    s.iteration p n =
      if s.BlockEnded n ∧ ¬ s.HasCallback n then none
      else some (p.put n (s.made n).1 p.bExec (s.made n).2) := by
  have hrecord := hp.record_eq hn
  have hstate : (s.record n).state ≠ .free := hfree
  have hmade : s.made n = (s.record n, if s.HasCallback n then
      (if s.BlockEnded n then [s.call n] else []) ++ if p.bExec then [s.call n] else []
      else []) := by
    simp [made, outcome, channelOutcome, henabled, ← hp.flag_iff hret]
  rw [iteration, hret, if_neg Bool.false_ne_true, handleChannel, hrecord, if_neg hpending,
    if_neg hstate, if_neg henabled, hmade]
  simp only [Progress.put, setChannel_record hp hn]
  by_cases hcallback : (s.record n).fCallback = 0#32
  · by_cases hblock : (s.status n).interruptStatus &&& xdmacCisBis = 0#32
    · simp [BlockEnded, HasCallback, hcallback, hblock]
    · simp [BlockEnded, HasCallback, hcallback, hblock]
  · by_cases hblock : (s.status n).interruptStatus &&& xdmacCisBis = 0#32
    · cases hexec : p.bExec <;> simp [BlockEnded, HasCallback, hcallback, hblock, call]
    · cases hexec : p.bExec <;> simp [BlockEnded, HasCallback, hcallback, hblock, call]

theorem made_calls (s : HandlerInput) (n : ℕ) :
    ∀ call ∈ (s.made n).2, call.iChannel = BitVec.ofNat 8 n ∧ call.fCallback ≠ 0 := by
  have hcall : s.HasCallback n →
      (s.call n).iChannel = BitVec.ofNat 8 n ∧ (s.call n).fCallback ≠ 0 := fun h => ⟨rfl, h⟩
  intro call hmem
  unfold made at hmem
  grind

theorem progress_step (hp : s.Progressed n p) (hn : n < 256)
    (hset : s.Reached n → ¬ s.NullCall n) :
    ∃ q, s.iteration p n = some q ∧ s.Progressed (n + 1) q := by
  cases hret : p.returned with
  | true =>
      obtain ⟨k, hk, hpending, hfree⟩ := hp.returned_iff.mp hret
      refine ⟨p, if_pos hret, hp.skip hn (fun h => ?_) fun _ hreached => ?_⟩
      · rw [hret] at h
        exact Bool.noConfusion h
      · exact hreached k (Nat.le_of_lt hk) hpending hfree
  | false =>
      by_cases hpending : s.Pending n
      · by_cases hfree : s.Free n
        · refine ⟨_, ?_, hp.leave hn hpending hfree⟩
          have hstate : (s.record n).state = .free := hfree
          rw [iteration, hret, if_neg Bool.false_ne_true, handleChannel, hp.record_eq hn,
            if_neg hpending, if_pos hstate]
          rfl
        · by_cases henabled : s.Enabled n
          · have hreached := hp.reached_of_not_returned hret hfree
            refine ⟨_, (iteration_of_enabled hp hn hret hpending hfree henabled).trans
              (if_neg fun h => hset hreached ⟨hpending, henabled, h⟩), ?_⟩
            refine hp.extend hn hret hpending hfree ?_ rfl (s.made_calls n)
            rw [hp.flag_iff hret, stale_succ_of_enabled fun _ => henabled]
          · refine ⟨_, iteration_of_disabled hp hn hret hpending hfree henabled, ?_⟩
            refine hp.extend hn hret hpending hfree ?_ rfl (s.made_calls n)
            rw [decide_eq_true_iff, stale_succ_of_disabled hpending henabled]
      · have hstatus : s.xdmaGlobaIntStatus &&& channelBit (BitVec.ofNat 8 n) = 0 := by
          exact Decidable.not_not.mp hpending
        refine ⟨p, ?_, hp.skip hn (fun _ => hpending) fun h => ?_⟩
        · rw [iteration, hret, if_neg Bool.false_ne_true, handleChannel, if_pos hstatus]
          simp [← hret]
        · rw [hret] at h
          exact Bool.noConfusion h

theorem progress_stop (hp : s.Progressed n p) (hn : n < 256) (hreached : s.Reached n)
    (hnull : s.NullCall n) : s.iteration p n = none := by
  obtain ⟨hpending, henabled, hcall⟩ := hnull
  have hfree := hreached n (Nat.le_refl n) hpending
  have hret : p.returned = false := by
    apply Bool.eq_false_iff.mpr
    intro h
    obtain ⟨k, hk, hkpending, hkfree⟩ := hp.returned_iff.mp h
    exact hreached k (Nat.le_of_lt hk) hkpending hkfree
  rw [iteration_of_enabled hp hn hret hpending hfree henabled, if_pos hcall]

/-- The loop over the first channels, as long as it calls no callback that is not set. -/
theorem progress_run (s : HandlerInput) (hn : n ≤ 256)
    (hset : ∀ i < n, s.Reached i → ¬ s.NullCall i) :
    ∃ p, run s.iteration s.start (List.range n) = some p ∧ s.Progressed n p := by
  induction n with
  | zero => exact ⟨s.start, rfl, s.progressed_start⟩
  | succ n ih =>
      obtain ⟨p, hrun, hp⟩ := ih (by omega) fun i hi => hset i (Nat.lt_succ_of_lt hi)
      obtain ⟨q, hstep, hq⟩ := progress_step hp hn (hset n (Nat.lt_succ_self n))
      refine ⟨q, ?_, hq⟩
      rw [List.range_succ]
      exact run_concat_some.mpr ⟨p, hrun, hstep⟩

theorem run_eq_none (s : HandlerInput) (hn : n ≤ 256)
    (h : ∃ i < n, s.Reached i ∧ s.NullCall i) :
    run s.iteration s.start (List.range n) = none := by
  induction n with
  | zero =>
      obtain ⟨i, hi, -⟩ := h
      exact absurd hi (Nat.not_lt_zero i)
  | succ n ih =>
      rw [List.range_succ, run_concat]
      by_cases hbelow : ∃ i < n, s.Reached i ∧ s.NullCall i
      · rw [ih (by omega) hbelow, Option.bind_none]
      · obtain ⟨i, hi, hreached, hnull⟩ := h
        obtain ⟨p, hrun, hp⟩ := s.progress_run (n := n) (by omega) fun i hi hreached hnull =>
          hbelow ⟨i, hi, hreached, hnull⟩
        have hlast : i = n := by
          rcases Nat.lt_succ_iff_lt_or_eq.mp hi with hi | rfl
          · exact absurd ⟨i, hi, hreached, hnull⟩ hbelow
          · rfl
        subst hlast
        rw [hrun, Option.bind_some, progress_stop hp hn hreached hnull]

theorem gate_and_channelBit :
    ∀ i < 24, 0xFFFFFF#32 &&& channelBit (BitVec.ofNat 8 i) = channelBit (BitVec.ofNat 8 i) := by
  decide

theorem not_pending_of_gate (s : HandlerInput) (h : s.xdmaGlobaIntStatus &&& 0xFFFFFF#32 = 0#32) :
    ∀ i < 24, ¬ s.Pending i := by
  intro i hi hpending
  apply hpending
  rw [← gate_and_channelBit i hi, ← BitVec.and_assoc, h, BitVec.zero_and]
  rfl

theorem handler_eq_run (s : HandlerInput) (h : s.xdmaGlobaIntStatus &&& 0xFFFFFF#32 ≠ 0) :
    xdmadHandler s.driver s.xdmaGlobaIntStatus s.xdmaGlobalChStatus s.statuses =
      (run s.iteration s.start (List.range s.driver.numChannels.toNat)).map
        fun p => (p.driver, p.calls) := by
  rw [xdmadHandler, if_pos h, start, run_iteration, ← Xdmad.channelNumbers]
  simp

theorem handler_progressed (s : HandlerInput) (hn : s.driver.numChannels ≤ 24)
    (hset : ∀ i < s.driver.numChannels.toNat, s.Reached i → ¬ s.NullCall i) :
    ∃ p, xdmadHandler s.driver s.xdmaGlobaIntStatus s.xdmaGlobalChStatus s.statuses =
        some (p.driver, p.calls) ∧ s.Progressed s.driver.numChannels.toNat p := by
  have hlimit : s.driver.numChannels.toNat ≤ 24 := BitVec.le_def.mp hn
  by_cases hgate : s.xdmaGlobaIntStatus &&& 0xFFFFFF#32 = 0
  · refine ⟨s.start, ?_, s.progressed_start_of_not_pending fun i hi => ?_⟩
    · rw [xdmadHandler, if_neg fun h => h hgate, start]
    · exact s.not_pending_of_gate hgate i (by omega)
  · obtain ⟨p, hrun, hp⟩ := s.progress_run (by omega) hset
    exact ⟨p, by rw [s.handler_eq_run hgate, hrun, Option.map_some], hp⟩

theorem handler_eq_none (s : HandlerInput) (hn : s.driver.numChannels ≤ 24)
    (h : ∃ i < s.driver.numChannels.toNat, s.Reached i ∧ s.NullCall i) :
    xdmadHandler s.driver s.xdmaGlobaIntStatus s.xdmaGlobalChStatus s.statuses = none := by
  have hlimit : s.driver.numChannels.toNat ≤ 24 := BitVec.le_def.mp hn
  have hgate : s.xdmaGlobaIntStatus &&& 0xFFFFFF#32 ≠ 0 := by
    intro hgate
    obtain ⟨i, hi, -, hnull⟩ := h
    exact s.not_pending_of_gate hgate i (by omega) hnull.1
  rw [s.handler_eq_run hgate, s.run_eq_none (by omega) h, Option.map_none]

theorem made_of_disabled (h : ¬ s.Enabled n) : s.made n = s.outcome n := by
  refine Prod.ext rfl ?_
  by_cases hended : s.Ended n <;> by_cases hcallback : (s.record n).fCallback = 0#32 <;>
    simp_all [made, outcome, channelOutcome, Ended, HasCallback, call]

theorem made_of_enabled (h : s.Enabled n) :
    s.made n = ((s.outcome n).1,
      (s.outcome n).2 ++ if s.HasCallback n ∧ s.Stale n then [s.call n] else []) := by
  refine Prod.ext rfl ?_
  by_cases hblock : (s.status n).interruptStatus &&& xdmacCisBis = 0#32 <;>
    by_cases hcallback : (s.record n).fCallback = 0#32 <;>
    simp [made, outcome, channelOutcome, BlockEnded, HasCallback, call, h, hblock, hcallback]

theorem made_eq_outcome_iff :
    s.made n = s.outcome n ↔ (s.Enabled n → s.HasCallback n → ¬ s.Stale n) := by
  by_cases henabled : s.Enabled n
  · rw [made_of_enabled henabled]
    constructor
    · intro h _ hcallback hstale
      have hlength := congrArg (List.length ∘ Prod.snd) h
      simp [hcallback, hstale] at hlength
    · intro h
      rw [if_neg fun hboth => h henabled hboth.1 hboth.2, List.append_nil]
  · exact iff_of_true (made_of_disabled henabled) fun h => absurd h henabled

/-- The channels are handled each on its own exactly when no channel is in the way of another. -/
theorem handledAlone_iff (s : HandlerInput) (h : s.driver.numChannels ≤ 24) :
    s.HandledAlone ↔ s.NoInterference := by
  have hlimit : s.driver.numChannels.toNat ≤ 24 := BitVec.le_def.mp h
  constructor
  · rintro ⟨driver, calls, hresult, hviews, -⟩
    have hset : ∀ i < s.driver.numChannels.toNat, s.Reached i → ¬ s.NullCall i := by
      intro i hi hreached hnull
      rw [s.handler_eq_none h ⟨i, hi, hreached, hnull⟩] at hresult
      cases hresult
    obtain ⟨p, hrun, hp⟩ := s.handler_progressed h hset
    cases hresult.symm.trans hrun
    constructor
    case handled =>
      intro i j hij hj hipending hifree hpending hfree
      refine (hviews j hj hpending hfree).symm.trans (hp.untouched j (by omega) ?_)
      exact fun hreached => hreached.2.2 i (Nat.le_of_lt hij) hipending hifree
    case callbackSet =>
      intro i hi hreached hpending henabled hblock
      by_contra hcallback
      exact hset i hi hreached ⟨hpending, henabled, hblock, hcallback⟩
    case flagCleared =>
      intro i hi hreached hpending
      apply made_eq_outcome_iff.mp
      have hfree := hreached i (Nat.le_refl i) hpending
      exact (hp.handled i hi hpending hreached).symm.trans (hviews i hi hpending hfree)
  · intro hnone
    obtain ⟨p, hrun, hp⟩ := s.handler_progressed h fun i hi hreached hnull =>
      hnull.2.2.2 (hnone.callbackSet i hi hreached hnull.1 hnull.2.1 hnull.2.2.1)
    refine ⟨p.driver, p.calls, hrun, fun i hi hpending hfree => ?_, hp.callbackSet⟩
    by_cases hreached : s.Reached i
    · have hmade : s.made i = s.outcome i :=
        made_eq_outcome_iff.mpr (hnone.flagCleared i hi hreached hpending)
      exact (hp.handled i hi hpending hreached).trans hmade
    · obtain ⟨k, hk, hkpending, hkfree⟩ : ∃ k ≤ i, s.Pending k ∧ s.Free k := by
        simpa [Reached] using hreached
      have hlt : k < i := by
        rcases Nat.lt_or_eq_of_le hk with hk | rfl
        · exact hk
        · exact absurd hkfree hfree
      have hidle := hnone.handled k i hlt hi hkpending hkfree hpending hfree
      exact (hp.untouched i (by omega) fun hall => hreached hall.2.2).trans hidle.symm

/-- Channels 0 and 1 are pending, both started and with a callback. -/
def twoPending (xdmaGlobalChStatus : BitVec 32) (statuses : BitVec 8 → ChannelStatus) :
    HandlerInput where
  driver :=
    { xdmaChannels := fun _ => { XdmadChannel.cleared with fCallback := 0x400000#32, state := .start }
      numControllers := 1
      numChannels := 2
      pollingMode := 0 }
  xdmaGlobaIntStatus := 0x3#32
  xdmaGlobalChStatus := xdmaGlobalChStatus
  statuses := statuses

/-- Channel 0 is enabled and ends a block, and channel 1 is disabled and ends its list. -/
theorem handledAlone_of_two_ends :
    (twoPending 0x1#32 fun i => if i = 0 then ⟨xdmacCisBis, xdmacCisBis⟩
      else ⟨xdmacCisLis, xdmacCisLis⟩).HandledAlone := by
  apply (handledAlone_iff _ (by decide)).mpr
  constructor
  case handled => exact fun i j _ _ _ hfree => XdmadState.noConfusion hfree
  case callbackSet => decide
  case flagCleared => decide

/-- Channel 0 is disabled and ends its list; channel 1 is enabled, with no end of block of its
own, and is called. -/
theorem not_handledAlone_after_end :
    ¬ (twoPending 0x2#32 fun i => if i = 0 then ⟨xdmacCisLis, xdmacCisLis⟩
      else ⟨xdmacCisDis, xdmacCisDis⟩).HandledAlone := by
  rintro ⟨driver, calls, hresult, hviews, -⟩
  cases hresult
  have hcalls := congrArg (List.length ∘ Prod.snd)
    (hviews 1 (by decide) (by decide) XdmadState.noConfusion)
  exact absurd hcalls (by decide)

end HandlerInput

end SamV71Runtime.XdmaDriver
