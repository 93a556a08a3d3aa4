import Mathlib.Data.List.Count
import SamV71Runtime.ActivationLogThreads

/-!
# When preempting writers keep their entries whole

Every store looks the slot up anew, so an entry is whole when no other call gets to its
first store before the counter has moved on. Calls then fill consecutive slots in the
order of their increments.
-/
namespace SamV71Runtime.Monitor
open Runs RingHistory

/-- Between the first store and the increment. -/
def CallPoint.writing : CallPoint → Bool
  | .storeEntryType => true
  | .storeTimestamp => true
  | .incrementCounter => true
  | _ => false

def IndicationCall.stored (c : IndicationCall) : Bool := c.point == .returned true

def IndicationCall.entry (c : IndicationCall) : InterfaceActivationEntry :=
  ⟨c.interface, c.entryType, c.timestamp⟩

def ThreadAction.indicates : ThreadAction → Bool
  | .indicate _ _ _ => true
  | .statement _ _ => true
  | _ => false

/-- The first store of `c` comes while no call is writing, and its increment does not wrap. -/
def EntersAlone (s : ThreadState) (c : IndicationCall) : Prop :=
  (c.point = .storeInterface → ∀ d ∈ s.calls, d.point.writing = false) ∧
    (c.point = .incrementCounter → s.log.activationEntryCounter.toNat + 1 < 2 ^ 64)

instance (s : ThreadState) (c : IndicationCall) : Decidable (EntersAlone s c) :=
  inferInstanceAs (Decidable (_ ∧ _))

/-- Every statement is one of a call that enters alone. -/
def Undisturbed (s : ThreadState) : ThreadAction → Prop
  | .statement call _ => ∀ c ∈ s.calls[call]?, EntersAlone s c
  | _ => True

instance (s : ThreadState) : (a : ThreadAction) → Decidable (Undisturbed s a)
  | .statement call _ => inferInstanceAs (Decidable (∀ c ∈ s.calls[call]?, EntersAlone s c))
  | .indicate _ _ _ | .freeze | .unfreeze | .clear | .get => isTrue trivial

/-- All calls have returned, each counted and whole in a slot of its own. -/
def EntriesWhole (size : BitVec 32) (log : ActivationLog) (t : ThreadState) : Prop :=
  t.log.activationEntryCounter.toNat = log.activationEntryCounter.toNat + t.calls.length ∧
  ∃ slotOf : ℕ → ℕ,
    (∀ (k : ℕ) (c : IndicationCall), t.calls[k]? = some c →
      slotOf k < size.toNat ∧ t.log.activationLogBuffer (slotOf k) = c.entry) ∧
    ∀ j < t.calls.length, ∀ k < t.calls.length, slotOf j = slotOf k → j = k

/-- What the slot of the counter already holds of the entry of `c`. -/
def IndicationCall.Written (c : IndicationCall) (entry : InterfaceActivationEntry) : Prop :=
  match c.point with
  | .storeEntryType => entry.interface = c.interface
  | .storeTimestamp => entry.interface = c.interface ∧ entry.entryType = c.entryType
  | .incrementCounter => entry = c.entry
  | _ => True

/-- `place` numbers the stored calls in the order of their increments. -/
structure Writing (size : BitVec 32) (log : ActivationLog) (place : ℕ → ℕ) (s : ThreadState) :
    Prop where
  unfrozen : s.log.isFrozen = false
  counted : s.log.activationEntryCounter.toNat =
    log.activationEntryCounter.toNat + s.calls.countP IndicationCall.stored
  accepted : ∀ c ∈ s.calls, c.point ≠ .returned false
  alone : ∀ (j k : ℕ) (c d : IndicationCall), s.calls[j]? = some c → s.calls[k]? = some d →
    c.point.writing = true → d.point.writing = true → j = k
  written : ∀ c ∈ s.calls, c.point.writing = true →
    c.Written (s.log.activationLogBuffer (s.log.slot size))
  placed : ∀ (k : ℕ) (c : IndicationCall), s.calls[k]? = some c → c.stored = true →
    place k < s.calls.countP IndicationCall.stored ∧
    s.log.activationLogBuffer
      ((log.activationEntryCounter.toNat + place k) % size.toNat) = c.entry
  distinct : ∀ (j k : ℕ) (c d : IndicationCall), s.calls[j]? = some c → s.calls[k]? = some d →
    c.stored = true → d.stored = true → place j = place k → j = k

section Calls
variable {calls : List IndicationCall} {j k : ℕ} {c d e : IndicationCall}

theorem stored_iff : c.stored = true ↔ c.point = .returned true := beq_iff_eq

theorem stored_eq_false (hc : c.point.running = true) : c.stored = false := by
  cases hstored : c.stored with
  | false => rfl
  | true =>
      rw [stored_iff.mp hstored] at hc
      cases hc

theorem running_of_writing (hc : c.point.writing = true) : c.point.running = true := by
  cases hp : c.point with
  | returned stored =>
      rw [hp] at hc
      cases hc
  | _ => rfl

theorem executeStatement_running {size : BitVec 32} {log log' : ActivationLog}
    {timestamp : BitVec 64}
    (he : executeStatement size log c timestamp = some (log', d)) : c.point.running = true := by
  cases hp : c.point with
  | returned stored =>
      simp only [executeStatement, hp] at he
      cases he
  | _ => rfl

theorem getElem?_set_cases (hk : calls[k]? = some c) (h : (calls.set k d)[j]? = some e) :
    j = k ∧ e = d ∨ j ≠ k ∧ calls[j]? = some e := by
  by_cases hj : j = k
  · subst hj
    rw [getElem?_set_call hk] at h
    exact Or.inl ⟨rfl, (Option.some.inj h).symm⟩
  · rw [List.getElem?_set_ne (Ne.symm hj)] at h
    exact Or.inr ⟨hj, h⟩

theorem countP_set_stored (hk : calls[k]? = some c) (hc : c.stored = false) (d : IndicationCall) :
    (calls.set k d).countP IndicationCall.stored =
      calls.countP IndicationCall.stored + d.stored.toNat := by
  obtain ⟨hlt, hget⟩ := List.getElem?_eq_some_iff.mp hk
  rw [List.countP_set hlt, hget, hc]
  cases d.stored <;> simp

theorem countP_stored_lt (hk : calls[k]? = some c) (hc : c.stored = false) :
    calls.countP IndicationCall.stored < calls.length :=
  List.countP_lt_length_iff.mpr ⟨c, List.mem_of_getElem? hk, hc⟩

/-- No two calls write at once if the one that moves on does so only alone. -/
theorem alone_set (hk : calls[k]? = some c)
    (h : ∀ (i j : ℕ) (e f : IndicationCall), calls[i]? = some e → calls[j]? = some f →
      e.point.writing = true → f.point.writing = true → i = j)
    (hd : d.point.writing = true →
      ∀ (j : ℕ) (e : IndicationCall), calls[j]? = some e → e.point.writing = true → j = k)
    (i j : ℕ) (e f : IndicationCall) (hi : (calls.set k d)[i]? = some e)
    (hj : (calls.set k d)[j]? = some f) (he : e.point.writing = true)
    (hf : f.point.writing = true) : i = j := by
  rcases getElem?_set_cases hk hi with ⟨hik, rfl⟩ | ⟨-, hi'⟩
  · rcases getElem?_set_cases hk hj with ⟨hjk, -⟩ | ⟨-, hj'⟩
    · exact hik.trans hjk.symm
    · exact hik.trans (hd he j f hj' hf).symm
  · rcases getElem?_set_cases hk hj with ⟨hjk, rfl⟩ | ⟨-, hj'⟩
    · exact (hd hf i e hi' he).trans hjk.symm
    · exact h i j e f hi' hj' he hf

theorem accepted_set (h : ∀ e ∈ calls, e.point ≠ .returned false)
    (hd : d.point ≠ .returned false) (e : IndicationCall) (he : e ∈ calls.set k d) :
    e.point ≠ .returned false := by
  rcases List.mem_or_eq_of_mem_set he with he | rfl
  · exact h e he
  · exact hd

end Calls

section Writing
variable {size : BitVec 32} {log : ActivationLog} {place : ℕ → ℕ} {s t : ThreadState} {k : ℕ}
  {c : IndicationCall}

theorem Writing.slot_eq (h : Writing size log place s) :
    s.log.slot size = (log.activationEntryCounter.toNat +
      s.calls.countP IndicationCall.stored) % size.toNat := by
  rw [ActivationLog.slot, h.counted]

/-- The slot of the counter is not one of those already filled. -/
theorem Writing.slot_free (h : Writing size log place s) (hk : s.calls[k]? = some c)
    (hc : c.stored = false) (hroom : s.calls.length ≤ size.toNat) {i : ℕ}
    (hi : i < s.calls.countP IndicationCall.stored) :
    (log.activationEntryCounter.toNat + i) % size.toNat ≠ s.log.slot size := by
  have hlt := countP_stored_lt hk hc
  rw [h.slot_eq]
  exact mod_ne_mod (by omega) (by omega)

theorem Writing.indicate (h : Writing size log place s) (hc : c.point = .testFrozen) :
    Writing size log place { s with calls := s.calls ++ [c] } := by
  have hold : ∀ (j : ℕ) (d : IndicationCall), (s.calls ++ [c])[j]? = some d →
      s.calls[j]? = some d ∨ d = c := by
    intro j d hj
    rw [List.getElem?_append] at hj
    split at hj
    · exact Or.inl hj
    · exact Or.inr (List.mem_singleton.mp (List.mem_of_getElem? hj))
  have hwriting : c.point.writing = false := by rw [hc]; rfl
  have hstored : c.stored = false := stored_eq_false (by rw [hc]; rfl)
  have hcount : (s.calls ++ [c]).countP IndicationCall.stored =
      s.calls.countP IndicationCall.stored := by simp [hstored]
  constructor
  case unfrozen => exact h.unfrozen
  case counted =>
    rw [hcount]
    exact h.counted
  case accepted =>
    intro d hd
    rcases List.mem_append.mp hd with hd | hd
    · exact h.accepted d hd
    · rw [List.mem_singleton.mp hd, hc]
      intro hp
      cases hp
  case alone =>
    intro i j d e hi hj hd he
    rcases hold i d hi with hi | rfl
    · rcases hold j e hj with hj | rfl
      · exact h.alone i j d e hi hj hd he
      · exact absurd he (by simp [hwriting])
    · exact absurd hd (by simp [hwriting])
  case written =>
    intro d hd hw
    rcases List.mem_append.mp hd with hd | hd
    · exact h.written d hd hw
    · rw [List.mem_singleton.mp hd, hwriting] at hw
      cases hw
  case placed =>
    intro j d hj hd
    rw [hcount]
    rcases hold j d hj with hj | rfl
    · exact h.placed j d hj hd
    · exact absurd hd (by simp [hstored])
  case distinct =>
    intro i j d e hi hj hd he
    rcases hold i d hi with hi | rfl
    · rcases hold j e hj with hj | rfl
      · exact h.distinct i j d e hi hj hd he
      · exact absurd he (by simp [hstored])
    · exact absurd hd (by simp [hstored])

/-- A statement of an unfinished call that writes at most the slot of the counter. -/
theorem Writing.write (h : Writing size log place s) (hk : s.calls[k]? = some c)
    (hc : c.stored = false) (hroom : s.calls.length ≤ size.toNat) {d : IndicationCall}
    (hd : d.point.running = true) {entry : InterfaceActivationEntry}
    (hwrites : d.point.writing = true → d.Written entry ∧
      ∀ (j : ℕ) (e : IndicationCall), s.calls[j]? = some e → e.point.writing = true → j = k)
    (hkeeps : d.point.writing = false →
      entry = s.log.activationLogBuffer (s.log.slot size)) :
    Writing size log place
      ⟨{ s.log with
          activationLogBuffer :=
            Function.update s.log.activationLogBuffer (s.log.slot size) entry },
        s.calls.set k d⟩ := by
  have hstored : d.stored = false := stored_eq_false hd
  have hcount : (s.calls.set k d).countP IndicationCall.stored =
      s.calls.countP IndicationCall.stored := by
    rw [countP_set_stored hk hc, hstored]
    rfl
  constructor
  case unfrozen => exact h.unfrozen
  case counted =>
    rw [hcount]
    exact h.counted
  case accepted =>
    apply accepted_set h.accepted
    intro hp
    rw [hp] at hd
    cases hd
  case alone => exact alone_set hk h.alone (fun hw => (hwrites hw).2)
  case written =>
    intro e he hw
    simp only [ActivationLog.slot, Function.update_self]
    obtain ⟨j, hj⟩ := List.mem_iff_getElem?.mp he
    rcases getElem?_set_cases hk hj with ⟨-, rfl⟩ | ⟨hne, hj⟩
    · exact (hwrites hw).1
    · cases hdw : d.point.writing with
      | true => exact absurd ((hwrites hdw).2 j e hj hw) hne
      | false =>
          rw [hkeeps hdw]
          exact h.written e (List.mem_of_getElem? hj) hw
  case placed =>
    intro j e hj he
    rw [hcount]
    rcases getElem?_set_cases hk hj with ⟨-, rfl⟩ | ⟨-, hj⟩
    · exact absurd he (by simp [hstored])
    · obtain ⟨hplace, hentry⟩ := h.placed j e hj he
      refine ⟨hplace, ?_⟩
      rw [← hentry]
      exact Function.update_of_ne (h.slot_free hk hc hroom hplace) ..
  case distinct =>
    intro i j e f hi hj he hf
    rcases getElem?_set_cases hk hi with ⟨-, rfl⟩ | ⟨-, hi⟩
    · exact absurd he (by simp [hstored])
    · rcases getElem?_set_cases hk hj with ⟨-, rfl⟩ | ⟨-, hj⟩
      · exact absurd hf (by simp [hstored])
      · exact h.distinct i j e f hi hj he hf

/-- An increment makes the slot of its counter one of those filled. -/
theorem Writing.count (h : Writing size log place s) (hk : s.calls[k]? = some c)
    (hc : c.point = .incrementCounter)
    (hwrap : s.log.activationEntryCounter.toNat + 1 < 2 ^ 64) :
    Writing size log (Function.update place k (s.calls.countP IndicationCall.stored))
      ⟨incrementCounter s.log, s.calls.set k { c with point := .returned true }⟩ := by
  have hunstored : c.stored = false := stored_eq_false (by rw [hc]; rfl)
  have hcount : (s.calls.set k { c with point := .returned true }).countP IndicationCall.stored =
      s.calls.countP IndicationCall.stored + 1 := countP_set_stored hk hunstored _
  have hwriting : c.point.writing = true := by rw [hc]; rfl
  have hentry : s.log.activationLogBuffer (s.log.slot size) = c.entry := by
    have hwritten := h.written c (List.mem_of_getElem? hk) hwriting
    rw [IndicationCall.Written, hc] at hwritten
    exact hwritten
  constructor
  case unfrozen => exact h.unfrozen
  case counted =>
    have hone : (s.log.activationEntryCounter + 1).toNat =
        s.log.activationEntryCounter.toNat + 1 := by
      rw [BitVec.toNat_add]
      exact Nat.mod_eq_of_lt hwrap
    simp only [incrementCounter, hone, hcount, h.counted]
    omega
  case accepted =>
    apply accepted_set h.accepted
    intro hp
    cases hp
  case alone =>
    apply alone_set hk h.alone
    intro hw
    cases hw
  case written =>
    intro e he hw
    obtain ⟨j, hj⟩ := List.mem_iff_getElem?.mp he
    rcases getElem?_set_cases hk hj with ⟨-, rfl⟩ | ⟨hne, hj'⟩
    · cases hw
    · exact absurd (h.alone j k e c hj' hk hw hwriting) hne
  case placed =>
    intro j e hj he
    rw [hcount]
    rcases getElem?_set_cases hk hj with ⟨rfl, rfl⟩ | ⟨hne, hj'⟩
    · rw [Function.update_self]
      exact ⟨Nat.lt_succ_self _, by rw [← h.slot_eq]; exact hentry⟩
    · rw [Function.update_of_ne hne]
      obtain ⟨hplace, hplaced⟩ := h.placed j e hj' he
      exact ⟨Nat.lt_succ_of_lt hplace, hplaced⟩
  case distinct =>
    intro i j e f hi hj he hf hsame
    rcases getElem?_set_cases hk hi with ⟨hik, -⟩ | ⟨hik, hi'⟩
    · rcases getElem?_set_cases hk hj with ⟨hjk, -⟩ | ⟨hjk, hj'⟩
      · exact hik.trans hjk.symm
      · rw [hik, Function.update_self, Function.update_of_ne hjk] at hsame
        exact absurd hsame.symm (Nat.ne_of_lt (h.placed j f hj' hf).1)
    · rcases getElem?_set_cases hk hj with ⟨hjk, -⟩ | ⟨hjk, hj'⟩
      · rw [hjk, Function.update_self, Function.update_of_ne hik] at hsame
        exact absurd hsame (Nat.ne_of_lt (h.placed i e hi' he).1)
      · rw [Function.update_of_ne hik, Function.update_of_ne hjk] at hsame
        exact h.distinct i j e f hi' hj' he hf hsame

theorem Writing.store (h : Writing size log place s) (hk : s.calls[k]? = some c)
    (hc : c.stored = false) (hroom : s.calls.length ≤ size.toNat)
    {assign : InterfaceActivationEntry → InterfaceActivationEntry} {log' : ActivationLog}
    (hstore : storeField size s.log assign = some log') {d : IndicationCall}
    (hd : d.point.writing = true)
    (hwritten : d.Written (assign (s.log.activationLogBuffer (s.log.slot size))))
    (hothers : ∀ (j : ℕ) (e : IndicationCall), s.calls[j]? = some e →
      e.point.writing = true → j = k) : Writing size log place ⟨log', s.calls.set k d⟩ := by
  obtain rfl := storeField_cases hstore
  apply h.write hk hc hroom (running_of_writing hd) (fun _ => ⟨hwritten, hothers⟩)
  intro hw
  rw [hd] at hw
  cases hw

theorem Writing.statement (h : Writing size log place s) (hk : s.calls[k]? = some c)
    (hroom : s.calls.length ≤ size.toNat) (halone : EntersAlone s c) {timestamp : BitVec 64}
    {log' : ActivationLog} {d : IndicationCall}
    (he : executeStatement size s.log c timestamp = some (log', d)) :
    ∃ place', Writing size log place' ⟨log', s.calls.set k d⟩ := by
  have hc : c.stored = false := stored_eq_false (executeStatement_running he)
  have hsofar := h.written c (List.mem_of_getElem? hk)
  have hothers := fun (hw : c.point.writing = true) (j : ℕ) (e : IndicationCall)
    (hj : s.calls[j]? = some e) (hew : e.point.writing = true) => h.alone j k e c hj hk hew hw
  cases hp : c.point with
  | testFrozen =>
      simp only [executeStatement, hp, h.unfrozen] at he
      obtain ⟨rfl, rfl⟩ := Prod.mk.inj (Option.some.inj he)
      have hmove := h.write hk hc hroom (d := { c with point := .storeInterface }) rfl
        (fun hw => by cases hw) (fun _ => rfl)
      rw [Function.update_eq_self] at hmove
      exact ⟨place, hmove⟩
  | storeInterface =>
      simp only [executeStatement, hp] at he
      obtain ⟨log'', hstore, he⟩ := Option.map_eq_some_iff.mp he
      obtain ⟨rfl, rfl⟩ := Prod.mk.inj he
      refine ⟨place, h.store hk hc hroom hstore rfl rfl ?_⟩
      intro j e hj hw
      rw [halone.1 hp e (List.mem_of_getElem? hj)] at hw
      cases hw
  | storeEntryType =>
      simp only [executeStatement, hp] at he
      obtain ⟨log'', hstore, he⟩ := Option.map_eq_some_iff.mp he
      obtain ⟨rfl, rfl⟩ := Prod.mk.inj he
      rw [IndicationCall.Written, hp] at hsofar
      rw [hp] at hothers
      exact ⟨place, h.store hk hc hroom hstore rfl ⟨hsofar rfl, rfl⟩ (hothers rfl)⟩
  | storeTimestamp =>
      simp only [executeStatement, hp] at he
      obtain ⟨log'', hstore, he⟩ := Option.map_eq_some_iff.mp he
      obtain ⟨rfl, rfl⟩ := Prod.mk.inj he
      rw [IndicationCall.Written, hp] at hsofar
      rw [hp] at hothers
      obtain ⟨hinterface, htype⟩ := hsofar rfl
      refine ⟨place, h.store hk hc hroom hstore rfl ?_ (hothers rfl)⟩
      simp only [IndicationCall.Written, IndicationCall.entry, hinterface, htype]
  | incrementCounter =>
      simp only [executeStatement, hp] at he
      obtain ⟨rfl, rfl⟩ := Prod.mk.inj (Option.some.inj he)
      exact ⟨_, h.count hk hp (halone.2 hp)⟩
  | returned stored =>
      simp only [executeStatement, hp] at he
      cases he

theorem threadStep_length {a : ThreadAction} (ha : a.indicates = true)
    (hs : threadStep size s a = some t) : s.calls.length ≤ t.calls.length := by
  cases a with
  | indicate thread interface entryType =>
      simp only [threadStep] at hs
      split at hs
      · cases hs
      · obtain rfl := Option.some.inj hs
        simp only [List.length_append]
        omega
  | statement call timestamp =>
      obtain ⟨c, log', d, hk, he, rfl⟩ := threadStep_statement_cases hs
      rw [List.length_set]
  | freeze | unfreeze | clear | get => cases ha

theorem threadStep_writing (h : Writing size log place s) (hroom : s.calls.length ≤ size.toNat)
    {a : ThreadAction} (ha : a.indicates = true) (hd : Undisturbed s a)
    (hs : threadStep size s a = some t) : ∃ place', Writing size log place' t := by
  cases a with
  | indicate thread interface entryType =>
      simp only [threadStep] at hs
      split at hs
      · cases hs
      · obtain rfl := Option.some.inj hs
        exact ⟨place, h.indicate rfl⟩
  | statement call timestamp =>
      obtain ⟨c, log', d, hk, he, rfl⟩ := threadStep_statement_cases hs
      exact h.statement hk hroom (hd c hk) he
  | freeze | unfreeze | clear | get => cases ha

theorem writing_start (size : BitVec 32) (hfrozen : log.isFrozen = false) :
    Writing size log id ⟨log, []⟩ where
  unfrozen := hfrozen
  counted := rfl
  accepted c hc := by cases hc
  alone j k c d hj := by simp at hj
  written c hc := by cases hc
  placed k c hk := by simp at hk
  distinct j k c d hj := by simp at hj

theorem run_writing {as : List ThreadAction} (hfrozen : log.isFrozen = false)
    (ha : ∀ a ∈ as, a.indicates = true)
    (hd : Along (threadStep size) Undisturbed ⟨log, []⟩ as)
    (hr : run (threadStep size) ⟨log, []⟩ as = some t) (hroom : t.calls.length ≤ size.toNat) :
    ∃ place, Writing size log place t := by
  refine run_induction (I := fun as t => (∀ a ∈ as, a.indicates = true) →
    t.calls.length ≤ size.toNat → ∃ place, Writing size log place t) hd hr
    (fun _ _ => ⟨id, writing_start size hfrozen⟩) ?_ ha hroom
  intro as m a u _ ih hdm hs ha hroom
  have hlast : a.indicates = true := ha a (by simp)
  have hshorter := (threadStep_length hlast hs).trans hroom
  obtain ⟨place, h⟩ := ih (fun b hb => ha b (List.mem_append_left _ hb)) hshorter
  exact threadStep_writing h hshorter hlast hdm hs

theorem Writing.entriesWhole (h : Writing size log place t) (hroom : t.calls.length ≤ size.toNat)
    (hdone : ∀ c ∈ t.calls, c.point.running = false) : EntriesWhole size log t := by
  have hstored : ∀ c ∈ t.calls, c.stored = true := by
    intro c hc
    have haccepted := h.accepted c hc
    have hreturned := hdone c hc
    cases hp : c.point with
    | returned stored =>
        cases stored with
        | true => exact stored_iff.mpr hp
        | false => exact absurd hp haccepted
    | _ => rw [hp] at hreturned; cases hreturned
  have hcount : t.calls.countP IndicationCall.stored = t.calls.length :=
    List.countP_eq_length.mpr hstored
  refine ⟨by rw [h.counted, hcount],
    fun k => (log.activationEntryCounter.toNat + place k) % size.toNat, ?_, ?_⟩
  · intro k c hk
    obtain ⟨hlt, _⟩ := List.getElem?_eq_some_iff.mp hk
    exact ⟨Nat.mod_lt _ (by omega), (h.placed k c hk (hstored c (List.mem_of_getElem? hk))).2⟩
  · intro j hj k hk hsame
    have hcj := hstored _ (List.getElem_mem hj)
    have hck := hstored _ (List.getElem_mem hk)
    have hjlt := (h.placed j _ (List.getElem?_eq_getElem hj) hcj).1
    have hklt := (h.placed k _ (List.getElem?_eq_getElem hk) hck).1
    refine h.distinct j k _ _ (List.getElem?_eq_getElem hj) (List.getElem?_eq_getElem hk)
      hcj hck ?_
    rcases Nat.lt_trichotomy (place j) (place k) with hlt | heq | hgt
    · exact absurd hsame (mod_ne_mod (by omega) (by omega))
    · exact heq
    · exact absurd hsame.symm (mod_ne_mod (by omega) (by omega))

end Writing

/-- A run of calls whose statements all meet the condition, with as many slots as calls,
loses and mixes nothing. -/
theorem undisturbed_entries_whole {size : BitVec 32} {log : ActivationLog} {t : ThreadState}
    (as : List ThreadAction) (hfrozen : log.isFrozen = false)
    (ha : ∀ a ∈ as, a.indicates = true)
    (hd : Along (threadStep size) Undisturbed ⟨log, []⟩ as)
    (hr : run (threadStep size) ⟨log, []⟩ as = some t)
    (hroom : t.calls.length ≤ size.toNat)
    (hdone : ∀ c ∈ t.calls, c.point.running = false) : EntriesWhole size log t := by
  obtain ⟨place, h⟩ := run_writing hfrozen ha hd hr hroom
  exact h.entriesWhole hroom hdone

def openLog : ActivationLog := { ActivationLog.initial fun _ => emptyEntry with isFrozen := false }

/-- The second call passes its freeze test before the first call stores anything, and is
only resumed after the first has returned. -/
def oneAfterTheOther : List ThreadAction :=
  [.indicate 1 5#32 .activation, .indicate 2 6#32 .deactivation, .statement 0 0#64,
    .statement 1 0#64, .statement 0 0#64, .statement 0 0#64, .statement 0 100#64,
    .statement 0 0#64, .statement 1 0#64, .statement 1 0#64, .statement 1 200#64,
    .statement 1 0#64]

theorem oneAfterTheOther_whole : ∃ t,
    run (threadStep 2#32) ⟨openLog, []⟩ oneAfterTheOther = some t ∧ EntriesWhole 2#32 openLog t :=
  ⟨_, rfl, undisturbed_entries_whole oneAfterTheOther rfl (by decide) (by decide) rfl (by decide)
    (by decide)⟩

/-- The second thread preempts the first between its stores. -/
def preemptedWriter : List ThreadAction :=
  [.indicate 1 5#32 .activation, .statement 0 0#64, .statement 0 0#64,
    .indicate 2 6#32 .deactivation, .statement 1 0#64, .statement 1 0#64, .statement 1 0#64,
    .statement 1 100#64, .statement 1 0#64, .statement 0 0#64, .statement 0 200#64,
    .statement 0 0#64]

theorem preemptedWriter_mixed : ∃ t,
    run (threadStep 2#32) ⟨openLog, []⟩ preemptedWriter = some t ∧ t.calls.length ≤ 2 ∧
    (∀ a ∈ preemptedWriter, a.indicates = true) ∧ (∀ c ∈ t.calls, c.point.running = false) ∧
    ¬ EntriesWhole 2#32 openLog t := by
  have hslots : ∃ t, run (threadStep 2#32) ⟨openLog, []⟩ preemptedWriter = some t ∧
      t.calls.length ≤ 2 ∧ (∀ c ∈ t.calls, c.point.running = false) ∧
      ∃ c, t.calls[0]? = some c ∧ ∀ i < 2, t.log.activationLogBuffer i ≠ c.entry :=
    ⟨_, rfl, by decide, by decide, _, rfl, by decide⟩
  obtain ⟨t, hr, hlength, hdone, c, hc, hmixed⟩ := hslots
  refine ⟨t, hr, hlength, by decide, hdone, ?_⟩
  rintro ⟨-, slotOf, hslot, -⟩
  obtain ⟨hlt, hentry⟩ := hslot 0 c hc
  exact hmixed (slotOf 0) hlt hentry

end SamV71Runtime.Monitor
