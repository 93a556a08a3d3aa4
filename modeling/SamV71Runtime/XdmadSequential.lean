import SamV71Runtime.XdmadThreads

/-!
# Calls under the lock that nothing interrupts

A thread that finds `xdmad_lock` free and is not interrupted executes its call to the end, and
does to the driver what the whole call does.
-/
namespace SamV71Runtime.XdmaDriver
open Runs

variable {Tid : Type*} [DecidableEq Tid]

/-- A thread executes statements, one after the other; what they give and free is collected. -/
inductive Executes (board : Board) (tid : Tid) :
    LockState Tid → List (BitVec 8 × Option (Grant Tid)) → LockState Tid → Prop
  | done (s : LockState Tid) : Executes board tid s [] s
  | next {s u t : LockState Tid} {events : List (BitVec 8 × Option (Grant Tid))}
      (statement : lockStatement board s tid = some u) (rest : Executes board tid u events t) :
      Executes board tid s ((lockEvent s (.statement tid)).toList ++ events) t

section Statements
variable {board : Board} {tid : Tid} {s t u : LockState Tid}
  {events later : List (BitVec 8 × Option (Grant Tid))} {bSrcID bDstID : BitVec 8}

theorem Executes.run (h : Executes board tid s events t) :
    ∃ k, run (lockStep board) s (List.replicate k (.statement tid)) = some t ∧
      outputs (lockStep board) lockEvent s (List.replicate k (.statement tid)) = events := by
  induction h with
  | done s => exact ⟨0, rfl, rfl⟩
  | @next s u t events statement rest ih =>
      obtain ⟨k, hrun, houtputs⟩ := ih
      have hstep : lockStep board s (.statement tid) = some u := statement
      refine ⟨k + 1, ?_, ?_⟩
      · rw [List.replicate_succ, Runs.run, hstep]
        exact hrun
      · rw [List.replicate_succ, outputs, hstep, Option.elim_some, houtputs]

theorem Executes.trans (h : Executes board tid s events t) (hlater : Executes board tid t later u) :
    Executes board tid s (events ++ later) u := by
  induction h with
  | done s => exact hlater
  | next statement rest ih =>
      rw [List.append_assoc]
      exact .next statement (ih hlater)

/-- A statement that gives no channel away. -/
theorem Executes.quiet (hstatement : lockStatement board s tid = some u)
    (hevent : lockEvent s (.statement tid) = none) (h : Executes board tid u events t) :
    Executes board tid s events t := by
  have hnext := Executes.next hstatement h
  rw [hevent, Option.toList_none, List.nil_append] at hnext
  exact hnext

@[simp] theorem goto_points (s : LockState Tid) (tid : Tid) (point : LockPoint) :
    (s.goto tid point).points tid = point := Function.update_self ..

@[simp] theorem goto_driver (s : LockState Tid) (tid : Tid) (point : LockPoint) :
    (s.goto tid point).driver = s.driver := rfl

/-- The stores to one record, wherever a thread makes them. -/
theorem executes_stores {j : ℕ} {point : List ChannelStore → LockPoint} {final : LockPoint}
    (hstore : ∀ (s : LockState Tid) store stores, s.points tid = point (store :: stores) →
      lockStatement board s tid = some ((s.store j store).goto tid (point stores)))
    (hend : ∀ s : LockState Tid, s.points tid = point [] →
      lockStatement board s tid = some (s.goto tid final))
    (hquiet : ∀ (s : LockState Tid) stores, s.points tid = point stores →
      lockEvent s (.statement tid) = none)
    {stores : List ChannelStore} (hpoint : s.points tid = point stores) :
    Executes board tid s [] ({ s with
      driver := s.driver.setChannel (BitVec.ofNat 8 j)
        (stores.foldl ChannelStore.apply (s.driver.xdmaChannels (BitVec.ofNat 8 j))) }.goto tid
      final) := by
  induction stores generalizing s with
  | nil =>
      have hsame : s.driver.setChannel (BitVec.ofNat 8 j)
          (s.driver.xdmaChannels (BitVec.ofNat 8 j)) = s.driver := by
        rw [Xdmad.setChannel, Function.update_eq_self]
      rw [List.foldl_nil, hsame]
      exact .quiet (hend s hpoint) (hquiet s [] hpoint) (.done _)
  | cons store stores ih =>
      refine .quiet (hstore s store stores hpoint) (hquiet s _ hpoint) ?_
      have hrest := ih (s := (s.store j store).goto tid (point stores)) (goto_points ..)
      simp only [LockState.store, LockState.goto, Xdmad.setChannel, Function.update_idem,
        Function.update_self] at hrest
      exact hrest

theorem executes_storing {i : ℕ} {stores : List ChannelStore}
    (hpoint : s.points tid = .storing bSrcID bDstID i stores) :
    Executes board tid s [] ({ s with
      driver := s.driver.setChannel (BitVec.ofNat 8 i)
        (stores.foldl ChannelStore.apply (s.driver.xdmaChannels (BitVec.ofNat 8 i))) }.goto tid
      (.returning bSrcID bDstID (BitVec.ofNat 32 i &&& 0xFF#32))) := by
  refine executes_stores ?_ ?_ ?_ hpoint
  · intro s store stores h
    rw [lockStatement, h]
  · intro s h
    rw [lockStatement, h]
  · intro s stores h
    rw [lockEvent, h]

/-- What the loop of `XDMAD_AllocateXdmacChannel` leads to from an index on. -/
def scanOutcome (board : Board) (pXdmad : Xdmad) (bSrcID bDstID : BitVec 8) :
    Option ℕ → BitVec 32 × Xdmad
  | some i =>
      (BitVec.ofNat 32 i &&& 0xFF#32, pXdmad.setChannel (BitVec.ofNat 8 i)
        (XdmadChannel.allocate board (pXdmad.xdmaChannels (BitVec.ofNat 8 i)) bSrcID bDstID))
  | none => (xdmadAllocFailed, pXdmad)

theorem executes_scanning {i m : ℕ} (hpoint : s.points tid = .scanning bSrcID bDstID i)
    (hm : i + m = s.driver.numChannels.toNat) :
    let outcome := scanOutcome board s.driver bSrcID bDstID
      ((List.range' i m).find? fun i =>
        (s.driver.xdmaChannels (BitVec.ofNat 8 i)).state == .free)
    Executes board tid s []
      ({ s with driver := outcome.2 }.goto tid (.returning bSrcID bDstID outcome.1)) := by
  induction m generalizing s i with
  | zero =>
      refine .quiet (by rw [lockStatement, hpoint]) (by rw [lockEvent, hpoint]) ?_
      rw [afterScan, if_neg (by omega)]
      exact .done _
  | succ m ih =>
      refine .quiet (by rw [lockStatement, hpoint]) (by rw [lockEvent, hpoint]) ?_
      rw [afterScan, if_pos (by omega), List.range'_succ, List.find?_cons]
      by_cases hfree : (s.driver.xdmaChannels (BitVec.ofNat 8 i)).state = .free
      · rw [if_pos hfree, hfree]
        have hstored : Executes board tid
          (s.goto tid (.storing bSrcID bDstID i (allocationStores board bSrcID bDstID))) [] _ :=
          executes_storing (goto_points ..)
        simp only [LockState.goto, Function.update_idem] at hstored ⊢
        exact hstored
      · rw [if_neg hfree, beq_eq_false_iff_ne.mpr hfree]
        have hrest := ih (s := s.goto tid (.scanning bSrcID bDstID (i + 1))) (goto_points ..)
          (by rw [goto_driver]; omega)
        simp only [LockState.goto, Function.update_idem] at hrest ⊢
        exact hrest

theorem allocateXdmacChannel_eq (pXdmad : Xdmad) :
    allocateXdmacChannel board pXdmad bSrcID bDstID =
      match afterValidation board bSrcID bDstID with
      | .scanning _ _ _ => scanOutcome board pXdmad bSrcID bDstID pXdmad.freeIndex
      | _ => (xdmadAllocFailed, pXdmad) := by
  unfold allocateXdmacChannel afterValidation
  split
  · rfl
  · split
    · rfl
    · split
      · rfl
      · cases pXdmad.freeIndex with
        | some i => rfl
        | none => rfl

/-- The channel that a reply gives away. -/
def grantOf (tid : Tid) (bSrcID bDstID : BitVec 8) (dwChannel : BitVec 32) :
    List (BitVec 8 × Option (Grant Tid)) :=
  if dwChannel = xdmadAllocFailed then [] else [(channelOf dwChannel, some ⟨tid, bSrcID, bDstID⟩)]

theorem executes_returning {dwChannel : BitVec 32}
    (hpoint : s.points tid = .returning bSrcID bDstID dwChannel) :
    Executes board tid s (grantOf tid bSrcID bDstID dwChannel)
      ({ s with owner := none }.goto tid .outside) := by
  have hnext : Executes board tid s ((lockEvent s (.statement tid)).toList ++ []) _ :=
    .next (by rw [lockStatement, hpoint]) (.done _)
  have hevents : (lockEvent s (.statement tid)).toList = grantOf tid bSrcID bDstID dwChannel := by
    rw [lockEvent, hpoint, grantOf]
    dsimp only
    split
    · rfl
    · rfl
  rw [List.append_nil, hevents] at hnext
  exact hnext

/-- From the checks to the release of the lock. -/
theorem executes_validating (hpoint : s.points tid = .validating bSrcID bDstID) :
    let reply := allocateXdmacChannel board s.driver bSrcID bDstID
    Executes board tid s (grantOf tid bSrcID bDstID reply.1)
      ({ s with driver := reply.2, owner := none }.goto tid .outside) := by
  refine .quiet (by rw [lockStatement, hpoint]) (by rw [lockEvent, hpoint]) ?_
  rw [allocateXdmacChannel_eq]
  rcases afterValidation_cases board bSrcID bDstID with hnext | hnext
  · rw [hnext]
    have hreturned : Executes board tid
        (s.goto tid (.returning bSrcID bDstID xdmadAllocFailed)) _ _ :=
      executes_returning (goto_points ..)
    simp only [LockState.goto, Function.update_idem] at hreturned ⊢
    exact hreturned
  · rw [hnext]
    have hscanned : Executes board tid (s.goto tid (.scanning bSrcID bDstID 0)) [] _ :=
      executes_scanning (goto_points ..) (Nat.zero_add _)
    dsimp only [goto_driver] at hscanned ⊢
    rw [Xdmad.freeIndex, List.range_eq_range']
    generalize scanOutcome board s.driver bSrcID bDstID _ = outcome at hscanned ⊢
    have hreturned : Executes board tid
        ({ s with driver := outcome.2 }.goto tid (.returning bSrcID bDstID outcome.1)) _ _ :=
      executes_returning (goto_points ..)
    simp only [LockState.goto, Function.update_idem] at hscanned hreturned ⊢
    exact hscanned.trans hreturned

/-- The channels that the loop of `XDMAD_Initialize` clears from an index on. -/
def Xdmad.clearedFrom (pXdmad : Xdmad) (j : ℕ) : Xdmad :=
  { pXdmad with xdmaChannels := fun c =>
      if j ≤ c.toNat ∧ c < pXdmad.numChannels then .cleared else pXdmad.xdmaChannels c }

theorem clearedFrom_end {pXdmad : Xdmad} {j : ℕ} (hj : pXdmad.numChannels.toNat ≤ j) :
    pXdmad.clearedFrom j = pXdmad := by
  have hsame : (fun c : BitVec 8 => if j ≤ c.toNat ∧ c < pXdmad.numChannels then
      XdmadChannel.cleared else pXdmad.xdmaChannels c) = pXdmad.xdmaChannels := by
    funext c
    refine if_neg fun h => ?_
    have hlt : c.toNat < pXdmad.numChannels.toNat := h.2
    omega
  rw [Xdmad.clearedFrom, hsame]

/-- The channel of an index first, then those behind it. -/
theorem clearedFrom_succ {pXdmad : Xdmad} {j : ℕ} (hj : j < pXdmad.numChannels.toNat) :
    (pXdmad.setChannel (BitVec.ofNat 8 j) .cleared).clearedFrom (j + 1) = pXdmad.clearedFrom j := by
  have hindex : (BitVec.ofNat 8 j).toNat = j := by
    have hbound := pXdmad.numChannels.isLt
    rw [BitVec.toNat_ofNat]
    omega
  unfold Xdmad.clearedFrom Xdmad.setChannel
  congr 1
  funext c
  dsimp only
  by_cases hc : c = BitVec.ofNat 8 j
  · subst hc
    rw [if_neg (by rw [hindex]; omega), Function.update_self, if_pos]
    rw [hindex, BitVec.lt_def, hindex]
    exact ⟨Nat.le_refl j, hj⟩
  · have hne : c.toNat ≠ j := fun h => hc (BitVec.eq_of_toNat_eq (h.trans hindex.symm))
    rw [Function.update_of_ne hc]
    have hiff : (j + 1 ≤ c.toNat ∧ c < pXdmad.numChannels) ↔
        (j ≤ c.toNat ∧ c < pXdmad.numChannels) := by
      refine and_congr_left fun _ => ?_
      omega
    simp only [hiff]

theorem executes_configuring {stores : List DriverStore}
    (hpoint : s.points tid = .configuring stores) :
    Executes board tid s []
      ({ s with driver := stores.foldl DriverStore.apply s.driver }.goto tid (.clearing 0)) := by
  induction stores generalizing s with
  | nil =>
      refine .quiet (by rw [lockStatement, hpoint]) (by rw [lockEvent, hpoint]) ?_
      exact .done _
  | cons store stores ih =>
      refine .quiet (by rw [lockStatement, hpoint]) (by rw [lockEvent, hpoint]) ?_
      have hrest := ih (s := { s with driver := store.apply s.driver }.goto tid
        (.configuring stores)) (goto_points ..)
      simp only [LockState.goto, Function.update_idem] at hrest ⊢
      exact hrest

theorem executes_clearingChannel {j : ℕ} {stores : List ChannelStore}
    (hpoint : s.points tid = .clearingChannel j stores) :
    Executes board tid s [] ({ s with
      driver := s.driver.setChannel (BitVec.ofNat 8 j)
        (stores.foldl ChannelStore.apply (s.driver.xdmaChannels (BitVec.ofNat 8 j))) }.goto tid
      (.clearing (j + 1))) := by
  refine executes_stores ?_ ?_ ?_ hpoint
  · intro s store stores h
    rw [lockStatement, h]
  · intro s h
    rw [lockStatement, h]
  · intro s stores h
    rw [lockEvent, h]

theorem executes_clearing {j m : ℕ} (hpoint : s.points tid = .clearing j)
    (hm : j + m = s.driver.numChannels.toNat) :
    Executes board tid s []
      ({ s with driver := s.driver.clearedFrom j }.goto tid .finishing) := by
  induction m generalizing s j with
  | zero =>
      refine .quiet (by rw [lockStatement, hpoint]) (by rw [lockEvent, hpoint]) ?_
      rw [if_neg (by omega), clearedFrom_end (by omega)]
      exact .done _
  | succ m ih =>
      refine .quiet (by rw [lockStatement, hpoint]) (by rw [lockEvent, hpoint]) ?_
      rw [if_pos (by omega)]
      have hcleared : Executes board tid (s.goto tid (.clearingChannel j clearingStores)) [] _ :=
        executes_clearingChannel (goto_points ..)
      refine hcleared.trans ?_
      rw [clearingStores_apply]
      have hrest := ih (s := { s with
        driver := s.driver.setChannel (BitVec.ofNat 8 j) .cleared }.goto tid (.clearing (j + 1)))
        (goto_points ..) (by rw [goto_driver, Xdmad.setChannel]; dsimp only; omega)
      rw [goto_driver] at hrest
      dsimp only at hrest
      rw [clearedFrom_succ (by omega)] at hrest
      simp only [LockState.goto, Function.update_idem] at hrest ⊢
      exact hrest

/-- The stores of `XDMAD_Initialize` are those of the whole call. -/
theorem configured_clearedFrom (pXdmad : Xdmad) (bPollingMode : BitVec 8) :
    ((configurationStores board bPollingMode).foldl DriverStore.apply pXdmad).clearedFrom 0 =
      (xdmadInitialize board false pXdmad bPollingMode).2 := by
  simp only [Xdmad.clearedFrom, Nat.zero_le, true_and]
  rfl

/-- From the test of `xDmad_Initialized` to the release of the lock. -/
theorem executes_checking {bPollingMode : BitVec 8} (hpoint : s.points tid = .checking bPollingMode) :
    let reply := xdmadInitialize board s.initialized s.driver bPollingMode
    Executes board tid s []
      ({ s with initialized := reply.1, driver := reply.2, owner := none }.goto tid .outside) := by
  have hleaves (s : LockState Tid) (hpoint : s.points tid = .leaving) :
      Executes board tid s [] ({ s with owner := none }.goto tid .outside) := by
    refine .quiet (by rw [lockStatement, hpoint]) (by rw [lockEvent, hpoint]) ?_
    exact .done _
  refine .quiet (by rw [lockStatement, hpoint]) (by rw [lockEvent, hpoint]) ?_
  by_cases hinit : s.initialized = true
  · rw [if_pos hinit, xdmadInitialize, if_pos hinit]
    have hleft := hleaves (s.goto tid .leaving) (goto_points ..)
    simp only [LockState.goto, Function.update_idem] at hleft ⊢
    exact hleft
  · have hreply : xdmadInitialize board s.initialized s.driver bPollingMode =
        (true, (xdmadInitialize board false s.driver bPollingMode).2) := by
      rw [Bool.eq_false_iff.mpr hinit]
      rfl
    rw [if_neg hinit, hreply, ← configured_clearedFrom]
    have hconfigured : Executes board tid
        (s.goto tid (.configuring (configurationStores board bPollingMode))) [] _ :=
      executes_configuring (goto_points ..)
    dsimp only [goto_driver] at hconfigured ⊢
    generalize (configurationStores board bPollingMode).foldl DriverStore.apply s.driver = d
      at hconfigured ⊢
    have hcleared : Executes board tid ({ s with driver := d }.goto tid (.clearing 0)) [] _ :=
      executes_clearing (goto_points ..) (Nat.zero_add _)
    have hfinished : Executes board tid
        ({ s with driver := d.clearedFrom 0 }.goto tid .finishing) []
        ({ s with initialized := true, driver := d.clearedFrom 0, owner := none }.goto tid
          .outside) := by
      refine .quiet (by rw [lockStatement, goto_points]) (by rw [lockEvent, goto_points]) ?_
      have hleft := hleaves ({ s with initialized := true, driver := d.clearedFrom 0 }.goto tid
        .leaving) (goto_points ..)
      simp only [LockState.goto, Function.update_idem] at hleft ⊢
      exact hleft
    simp only [LockState.goto, Function.update_idem] at hconfigured hcleared hfinished ⊢
    exact hconfigured.trans (hcleared.trans hfinished)

theorem run_xdmadInitialize (board : Board) (s : LockState Tid) (howner : s.owner = none)
    {bPollingMode : BitVec 8} (hpoint : s.points tid = .obtaining (.initializeDriver bPollingMode)) :
    let reply := xdmadInitialize board s.initialized s.driver bPollingMode
    ∃ k, run (lockStep board) s (.obtain tid .successful :: List.replicate k (.statement tid)) =
        some ({ s with initialized := reply.1, driver := reply.2 }.goto tid .outside) ∧
      outputs (lockStep board) lockEvent s
        (.obtain tid .successful :: List.replicate k (.statement tid)) = [] := by
  have hgranted : lockStep board s (.obtain tid .successful) =
      some ({ s with owner := some tid }.goto tid (.checking bPollingMode)) := by
    rw [lockStep, lockObtain, hpoint]
    dsimp only
    rw [if_pos rfl, LockState.acquire, howner]
  have hexecuted : Executes board tid
      ({ s with owner := some tid }.goto tid (.checking bPollingMode)) [] _ :=
    executes_checking (goto_points ..)
  obtain ⟨k, hrun, houtputs⟩ := hexecuted.run
  refine ⟨k, ?_, ?_⟩
  · rw [Runs.run, hgranted, Option.bind_some, hrun]
    simp only [LockState.goto, Function.update_idem, ← howner]
  · rw [outputs, hgranted, Option.elim_some, houtputs]
    rfl

/-- A whole `XDMAD_AllocateChannel`, given the lock or not, is the call of the driver. -/
theorem run_allocateChannel (board : Board) (s : LockState Tid) (howner : s.owner = none)
    (hpoint : s.points tid = .obtaining (.allocateChannel bSrcID bDstID))
    (obtainResult : RtemsStatusCode) :
    let reply := allocateChannel board obtainResult s.driver bSrcID bDstID
    ∃ k, run (lockStep board) s
        (.obtain tid obtainResult :: List.replicate k (.statement tid)) =
          some ({ s with driver := reply.2 }.goto tid .outside) ∧
      outputs (lockStep board) lockEvent s
        (.obtain tid obtainResult :: List.replicate k (.statement tid)) =
          grantOf tid bSrcID bDstID reply.1 := by
  unfold allocateChannel
  by_cases hresult : obtainResult = .successful
  case neg =>
    have hrefused : lockStep board s (.obtain tid obtainResult) = some (s.goto tid .outside) := by
      rw [lockStep, lockObtain, hpoint]
      exact if_neg hresult
    rw [if_neg hresult]
    exact ⟨0, by rw [Runs.run, hrefused]; rfl, by rw [outputs, hrefused]; rfl⟩
  case pos =>
    have hgranted : lockStep board s (.obtain tid obtainResult) =
        some ({ s with owner := some tid }.goto tid (.validating bSrcID bDstID)) := by
      rw [lockStep, lockObtain, hpoint]
      dsimp only
      rw [if_pos hresult, LockState.acquire, howner]
    have hexecuted : Executes board tid
        ({ s with owner := some tid }.goto tid (.validating bSrcID bDstID)) _ _ :=
      executes_validating (goto_points ..)
    obtain ⟨k, hrun, houtputs⟩ := hexecuted.run
    rw [if_pos hresult]
    refine ⟨k, ?_, ?_⟩
    · rw [Runs.run, hgranted, Option.bind_some, hrun]
      simp only [LockState.goto, Function.update_idem, ← howner]
    · rw [outputs, hgranted, Option.elim_some, houtputs]
      rfl

end Statements

/-- A call under the lock that nothing interrupts changes what the whole call changes, and
replies as it does. -/
theorem uninterrupted_lockedCall (board : Board) (s : LockState Tid) (tid : Tid)
    (howner : s.owner = none) (hpoint : s.points tid = .outside) :
    (∀ bPollingMode, ∃ k, run (lockStep board) s
      (.call tid (.initializeDriver bPollingMode) :: .obtain tid .successful ::
        List.replicate k (.statement tid)) = some { s with
          initialized := (xdmadInitialize board s.initialized s.driver bPollingMode).1
          driver := (xdmadInitialize board s.initialized s.driver bPollingMode).2 }) ∧
    ∀ bSrcID bDstID obtainResult, ∃ k, run (lockStep board) s
      (.call tid (.allocateChannel bSrcID bDstID) :: .obtain tid obtainResult ::
        List.replicate k (.statement tid)) = some { s with
          driver := (allocateChannel board obtainResult s.driver bSrcID bDstID).2 } ∧
      outputs (lockStep board) lockEvent s (.call tid (.allocateChannel bSrcID bDstID) ::
        .obtain tid obtainResult :: List.replicate k (.statement tid)) =
          grantOf tid bSrcID bDstID (allocateChannel board obtainResult s.driver bSrcID bDstID).1 := by
  have hcalled (call : LockedCall) :
      lockStep board s (.call tid call) = some (s.goto tid (.obtaining call)) := by
    rw [lockStep, hpoint]
  have hback : Function.update s.points tid .outside = s.points := by
    rw [← hpoint, Function.update_eq_self]
  constructor
  · intro bPollingMode
    obtain ⟨k, hrun, -⟩ := run_xdmadInitialize board
      (s.goto tid (.obtaining (.initializeDriver bPollingMode))) howner (goto_points ..)
    refine ⟨k, ?_⟩
    rw [Runs.run, hcalled, Option.bind_some, hrun]
    simp only [LockState.goto, Function.update_idem, hback]
  · intro bSrcID bDstID obtainResult
    obtain ⟨k, hrun, houtputs⟩ := run_allocateChannel board
      (s.goto tid (.obtaining (.allocateChannel bSrcID bDstID))) howner (goto_points ..) obtainResult
    refine ⟨k, ?_, ?_⟩
    · rw [Runs.run, hcalled, Option.bind_some, hrun]
      simp only [LockState.goto, Function.update_idem, hback]
    · rw [outputs, hcalled, Option.elim_some, houtputs]
      rfl

/-- A driver with two channels that one thread has initialized. -/
def twoChannels : LockState Unit :=
  { (.start blankDriver : LockState Unit) with
    initialized := true
    driver := (xdmadInitialize (boardWith 2) false blankDriver 0).2 }

/-- The first call of all, and the one that is given the first channel. -/
theorem uninterrupted_lockedCall_firstChannel :
    (∃ k, run (lockStep (boardWith 2)) (.start blankDriver)
      (.call () (.initializeDriver 0) :: .obtain () .successful ::
        List.replicate k (.statement ())) = some twoChannels) ∧
    ∃ k t, run (lockStep (boardWith 2)) twoChannels
      (.call () (.allocateChannel 0xFF#8 21#8) :: .obtain () .successful ::
        List.replicate k (.statement ())) = some t ∧
      t.owner = none ∧ (t.driver.xdmaChannels 0#8).state = .allocated ∧
      outputs (lockStep (boardWith 2)) lockEvent twoChannels
        (.call () (.allocateChannel 0xFF#8 21#8) :: .obtain () .successful ::
          List.replicate k (.statement ())) = [(0#8, some ⟨(), 0xFF#8, 21#8⟩)] := by
  constructor
  · exact (uninterrupted_lockedCall (boardWith 2) (.start blankDriver) () rfl rfl).1 0
  · obtain ⟨k, hrun, hevents⟩ := (uninterrupted_lockedCall (boardWith 2) twoChannels () rfl rfl).2
      0xFF#8 21#8 .successful
    exact ⟨k, _, hrun, rfl, by decide, hevents⟩

end SamV71Runtime.XdmaDriver
