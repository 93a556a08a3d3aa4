import SamV71Runtime.XdmadReports

/-!
# Transfers that interrupt only at their ends

A handler that is called for the end of a transfer finds the channel stopped, so that no end can
come between its look at the running channels and its look at this one.
-/
namespace SamV71Runtime.XdmaDriver
open KeyedLog Runs

/-- No interrupt that is enabled shows before a transfer ends. A channel is configured when it is
neither started nor running, and not started again before a handler that has found its interrupt
has looked at it. -/
def InterruptsAtEnd (s : DmaState) : DmaAction → Prop
  | .raise c interrupts => interrupts &&& (s.view c).status.interruptMask = 0
  | .finish c interrupts => (s.view c).state = .start →
      transferEnded ((s.view c).raise interrupts).status = true
  | .call (.startTransfer dwChannel) => (s.view (channelOf dwChannel)).awaited = none ∧
      s.entering.any (fun gis => gis.getLsbD (channelOf dwChannel).toNat) = false
  | .call (.configureTransfer dwChannel _ _ _ _) =>
      (s.view (channelOf dwChannel)).state ≠ .start ∧
        (s.view (channelOf dwChannel)).running = false
  | _ => True

instance (s : DmaState) : (a : DmaAction) → Decidable (InterruptsAtEnd s a)
  | .raise _ _ => inferInstanceAs (Decidable (_ = _))
  | .finish _ _ => inferInstanceAs (Decidable (_ → _))
  | .call (.startTransfer _) => inferInstanceAs (Decidable (_ ∧ _))
  | .call (.configureTransfer _ _ _ _ _) => inferInstanceAs (Decidable (_ ∧ _))
  | .call (.initializeAgain _) | .call (.allocateChannel _ _) | .call (.freeChannel _)
  | .call (.setCallback _ _ _) | .call (.prepareChannel _) | .call (.stopTransfer _)
  | .call (.isTransferDone _ _ _) | .call (.handler _ _) | .call (.iterate _)
  | .interrupt | .poll _ | .enter | .iterate => inferInstanceAs (Decidable True)

/-- Whatever channel a handler looks at, its interrupts were the end of a transfer. -/
def ReportsWhatItReads (s : DmaState) (a : DmaAction) : Prop :=
  a = .iterate → ∀ c ∈ lookedAt s.toDriverState, (s.driver.xdmaChannels c).state = .start →
    transferEvent s a = some (c, .reported)

/-- No handler has found a channel running. -/
structure FoundAtEnd (s : DmaState) : Prop where
  quiet : ∀ c < s.driver.numChannels, (s.view c).Quiet
  entering : ∀ gis ∈ s.entering, ∀ c < s.driver.numChannels, gis.getLsbD c.toNat = true →
    (s.view c).running = false
  seen : ∀ c found, (s.view c).awaited = some found → c < s.driver.numChannels ∧ found = false

/-- Only a start makes a channel run. -/
theorem Move.running {Early : ChannelView → BitVec 32 → Prop} {v v' : ChannelView}
    {event : Option TransferEvent} (hm : Move Early v event v') (hrunning : v'.running = true) :
    v.running = true ∨ event = some .started := by
  cases hm with
  | start => exact Or.inr rfl
  | finish => cases hrunning
  | _ => exact Or.inl hrunning

section Steps
variable {board : Board} {s t : DmaState} {a : DmaAction} {c : BitVec 8}
  {events : List (BitVec 8 × TransferEvent)}

theorem FoundAtEnd.followsProtocol (h : FoundAtEnd s) (hends : InterruptsAtEnd s a) :
    FollowsProtocol s a := by
  cases a with
  | call a =>
      cases a with
      | startTransfer dwChannel => exact hends.1
      | configureTransfer => exact hends
      | _ => trivial
  | finish c interrupts =>
      intro hstart
      refine ⟨hends hstart, fun hseen => ?_⟩
      cases (h.seen c true hseen).2
  | _ => trivial

theorem started_cases (h : last (transferEvent s a).toList c = some .started) :
    ∃ dwChannel, a = .call (.startTransfer dwChannel) ∧ c = channelOf dwChannel := by
  cases hevent : transferEvent s a with
  | none =>
      rw [hevent] at h
      cases h
  | some made =>
      obtain ⟨i, e⟩ := made
      rw [hevent, Option.toList_some, last_singleton] at h
      split at h
      · rename_i hown
        obtain rfl : e = .started := Option.some.inj h
        subst hown
        cases a with
        | call a =>
            cases a with
            | startTransfer dwChannel =>
                simp only [transferEvent, Outcome.granted] at hevent
                split at hevent
                · cases hevent
                  exact ⟨dwChannel, rfl, rfl⟩
                · cases hevent
            | stopTransfer dwChannel =>
                simp only [transferEvent, Outcome.granted] at hevent
                split at hevent <;> cases hevent
            | _ => cases hevent
        | iterate =>
            obtain ⟨i', -, heq⟩ := Option.map_eq_some_iff.mp hevent
            cases heq
        | _ => cases hevent
      · cases h

/-- What a handler reads first is what is pending then. -/
theorem entering_cases (h : dmaStep board s a = some t) {gis : BitVec 32}
    (hgis : gis ∈ t.entering) :
    gis ∈ s.entering ∨ gis = globalInterruptStatus s.registers ∧ t.registers = s.registers := by
  cases a with
  | call a =>
      obtain ⟨d, -, -, rfl⟩ := dmaStep_call_cases h
      exact Or.inl hgis
  | raise | finish =>
      simp only [dmaStep] at h
      split at h
      · cases h
        exact Or.inl hgis
      · cases h
  | interrupt =>
      obtain ⟨entering, rfl, hread⟩ := callHandler_cases h
      exact Or.inr ⟨hread gis hgis, rfl⟩
  | poll dwChannel =>
      rcases poll_cases h with h | rfl
      · obtain ⟨entering, rfl, hread⟩ := callHandler_cases h
        exact Or.inr ⟨hread gis hgis, rfl⟩
      · exact Or.inl hgis
  | enter =>
      obtain ⟨-, gis, -, rfl⟩ := enter_cases h
      cases hgis
  | iterate =>
      obtain ⟨d, -, rfl⟩ := Option.map_eq_some_iff.mp h
      exact Or.inl hgis

/-- What a handler finds is found when it reads the running channels. -/
theorem awaited_cases (hs : Settled s) (h : dmaStep board s a = some t) :
    (t.view c).awaited = (s.view c).awaited ∨ (t.view c).awaited = none ∨
      ∃ gis ∈ s.entering, c < s.driver.numChannels ∧ gis.getLsbD c.toNat = true ∧
        (t.view c).awaited = some (s.view c).running := by
  cases a with
  | call a =>
      obtain ⟨d, hcall, hd, rfl⟩ := dmaStep_call_cases h
      obtain ⟨-, hhandlers⟩ := driverStep_settings hs.initialized hcall hd
      left
      simp only [DmaState.view, hhandlers]
  | raise | finish =>
      simp only [dmaStep] at h
      split at h
      · cases h
        exact Or.inl rfl
      · cases h
  | interrupt =>
      obtain ⟨entering, rfl, -⟩ := callHandler_cases h
      exact Or.inl rfl
  | poll dwChannel =>
      rcases poll_cases h with h | rfl
      · obtain ⟨entering, rfl, -⟩ := callHandler_cases h
        exact Or.inl rfl
      · exact Or.inl rfl
  | enter =>
      obtain ⟨-, gis, hgis, rfl⟩ := enter_cases h
      unfold DriverState.enterHandler
      split
      · simp only [DmaState.view, List.head?_cons, Option.bind_some]
        split
        · rename_i hfound
          exact Or.inr (Or.inr ⟨gis, hgis, mem_channelNumbers.mp hfound.1, hfound.2, rfl⟩)
        · exact Or.inr (Or.inl rfl)
      · exact Or.inl rfl
  | iterate =>
      have hiterates := iterate_cases hs.single h
      generalize transferEvent s .iterate = event at hiterates
      cases hiterates with
      | leave => exact Or.inr (Or.inl rfl)
      | pass frame i rest bExec hhandlers hremaining =>
          exact (awaited_of_rest bExec hhandlers hremaining _ _ c).imp_right fun h => Or.inl h.2
      | report frame i rest bExec hhandlers hremaining =>
          exact (awaited_of_rest bExec hhandlers hremaining _ _ c).imp_right fun h => Or.inl h.2
      | look frame i rest bExec hhandlers hremaining =>
          exact (awaited_of_rest bExec hhandlers hremaining _ _ c).imp_right fun h => Or.inl h.2

theorem FoundAtEnd.step (h : FoundAtEnd s) (hreporting : Reporting s events)
    (hends : InterruptsAtEnd s a) (hstep : dmaStep board s a = some t) : FoundAtEnd t := by
  have hsettled := hreporting.settled
  have hnum := (hsettled.step hstep).2
  have hmove {c : BitVec 8} (hc : c < s.driver.numChannels) :
      Move (fun v interrupts => interrupts &&& v.status.interruptMask = 0) (s.view c)
        (last (transferEvent s a).toList c) (t.view c) := by
    refine dmaStep_move _ hsettled hc (h.followsProtocol hends) ?_ hstep
    rintro i interrupts rfl
    exact hends
  refine ⟨fun c hc => ?_, fun gis hgis c hc hbit => ?_, fun c found hawaited => ?_⟩
  · rw [hnum] at hc
    exact (hmove hc).quiet (hreporting.sound c hc) (h.quiet c hc)
  · rw [hnum] at hc
    by_contra hstopped
    have hrunning : (t.view c).running = true := (Bool.not_eq_false _).mp hstopped
    rcases entering_cases hstep hgis with hgis | ⟨rfl, hregisters⟩
    · rcases (hmove hc).running hrunning with hbefore | hevent
      · rw [h.entering gis hgis c hc hbit] at hbefore
        cases hbefore
      · obtain ⟨dwChannel, rfl, rfl⟩ := started_cases hevent
        have hnone := hends.2
        rw [Option.mem_def.mp hgis, Option.any_some, hbit] at hnone
        cases hnone
    · have hsame : (s.view c).running = true := by
        rw [← hrunning]
        exact congrArg (fun registers => (channelRegisters registers c).running) hregisters.symm
      exact h.quiet c hc hsame ((pending_iff (hsettled.lt hc)).mp hbit)
  · rw [hnum]
    rcases awaited_cases hsettled hstep with hsame | hnone | ⟨gis, hgis, hc, hbit, hfound⟩
    · exact h.seen c found (hsame.symm.trans hawaited)
    · rw [hnone] at hawaited
      cases hawaited
    · rw [hawaited, h.entering gis hgis c hc hbit] at hfound
      exact ⟨hc, Option.some.inj hfound⟩

theorem FoundAtEnd.reportsWhatItReads (h : FoundAtEnd s) (hreporting : Reporting s events) :
    ReportsWhatItReads s a := by
  rintro rfl c hlooked hstart
  cases hhandlers : s.handlers with
  | nil =>
      rw [lookedAt, hhandlers] at hlooked
      cases hlooked
  | cons frame outer =>
      have hsingle := hreporting.settled.single
      rw [hhandlers, List.length_cons] at hsingle
      obtain rfl : outer = [] := List.eq_nil_of_length_eq_zero (by omega)
      cases hremaining : frame.remaining with
      | nil =>
          simp only [lookedAt, hhandlers, hremaining] at hlooked
          cases hlooked
      | cons i rest =>
          have hstatus : s.nextStatus = channelStatus s.registers c := by
            rw [DmaState.nextStatus, Option.mem_def.mp hlooked]
            rfl
          simp only [lookedAt, hhandlers, hremaining] at hlooked
          split at hlooked
          · rename_i hall
            obtain rfl : i = c := Option.some.inj hlooked
            have hawaited := awaited_head hhandlers hremaining
            rw [if_neg hall.1] at hawaited
            obtain ⟨hc, hfound⟩ := h.seen i _ hawaited
            have hended := ((hreporting.sound i hc).ended_of_found (hfound ▸ hawaited) hstart).2.2
            have hgs : frame.xdmaGlobalChStatus &&& channelBit i = 0 :=
              and_channelBit_eq_zero_iff.mpr hfound
            simp only [transferEvent, endedChannel, hhandlers, hremaining, hstatus]
            rw [if_pos ⟨hall.1, hall.2, hgs, hended⟩]
            rfl
          · cases hlooked

theorem start_foundAtEnd (board : Board) (memory : Xdmad) (bPollingMode : BitVec 8) :
    FoundAtEnd (.start board memory bPollingMode) where
  quiet _ _ _ := not_pending_of_status rfl
  entering := nofun
  seen := nofun

end Steps

end SamV71Runtime.XdmaDriver
