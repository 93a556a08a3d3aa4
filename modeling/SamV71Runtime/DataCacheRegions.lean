import Mathlib.Data.List.Nodup
import Mathlib.Order.Interval.Set.Basic
import SamV71Runtime.AlignedBlocks
import SamV71Runtime.Runs

/-!
# Disabling the data cache in a region

`SamV71Core_DisableDataCacheInRegion` over a memory protection unit of 16 regions. What a
region covers, and which region governs a byte, is the architecture's; the driver that
writes the regions' registers is a parameter.
-/
namespace SamV71Runtime.SamV71Core
open AlignedBlocks Runs

inductive RegionMemoryType where
  | stronglyOrdered
  | device
  | normal

inductive RegionCachePolicy where
  | nonCacheable
  | writeBackWriteAllocate
  | writeThrough
  | writeBack

inductive RegionAccess where
  | noAccess
  | readOnly
  | readWrite

structure RegionConfig where
  address : BitVec 32
  isEnabled : Bool
  size : BitVec 32
  subregionDisableMask : BitVec 8
  isShareable : Bool
  isExecutable : Bool
  memoryType : RegionMemoryType
  innerCachePolicy : RegionCachePolicy
  outerCachePolicy : RegionCachePolicy
  privilegedAccess : RegionAccess
  unprivilegedAccess : RegionAccess

def mpuRbarAddrMask : BitVec 32 := 0xFFFFFFE0#32

namespace RegionConfig

/-- The base address register keeps the bits of its mask; sizes below 32 bytes are reserved. -/
structure Valid (config : RegionConfig) : Prop where
  address : config.address &&& ~~~mpuRbarAddrMask = 0#32
  lower : 4#32 ≤ config.size
  upper : config.size ≤ 31#32

/-- The low `size + 1` bits of the address do not matter to the region. -/
def range (config : RegionConfig) : Range := ⟨config.address.toNat, config.size.toNat + 1⟩

/-- The eighth of the region that a byte lies in. Regions below 256 bytes have none. -/
def subregion (config : RegionConfig) (byte : ℕ) : ℕ := byte / 2 ^ (config.size.toNat - 2) % 8

def Covers (config : RegionConfig) (byte : ℕ) : Prop :=
  config.isEnabled = true ∧ byte ∈ config.range.block ∧
    (config.size.toNat < 7 ∨ config.subregionDisableMask.getLsbD (config.subregion byte) = false)

instance (config : RegionConfig) (byte : ℕ) : Decidable (config.Covers byte) :=
  inferInstanceAs (Decidable (_ ∧ _ ∧ (_ ∨ _)))

def IsNonCacheable (config : RegionConfig) : Prop :=
  config.innerCachePolicy = .nonCacheable ∧ config.outerCachePolicy = .nonCacheable

end RegionConfig

abbrev Regions := BitVec 8 → RegionConfig

def defaultRegions : List (BitVec 8) :=
  [11#8, 10#8, 9#8, 8#8, 7#8, 6#8, 5#8, 4#8, 3#8, 2#8, 1#8, 0#8]

def furtherRegions : List (BitVec 8) := [15#8, 14#8, 13#8, 12#8]

/-- The region of the highest number gives a byte its attributes; without one, the
background does. -/
def governing (regions : Regions) (byte : ℕ) : Option RegionConfig :=
  ((furtherRegions ++ defaultRegions).map regions).find? fun config => config.Covers byte

/-- `Mpu_setRegionConfig` and what it leaves in the regions. -/
structure MpuDriver where
  Mpu : Type
  regions : Mpu → Regions
  setRegionConfig : Mpu → BitVec 8 → RegionConfig → Mpu
  regions_setRegionConfig : ∀ mpu region config, region ≤ 15#8 → config.Valid →
    regions (setRegionConfig mpu region config) = Function.update (regions mpu) region config

structure CoreState (driver : MpuDriver) where
  mpu : driver.Mpu
  region : BitVec 8

def CoreState.initial {driver : MpuDriver} (mpu : driver.Mpu) : CoreState driver := ⟨mpu, 15#8⟩

/-- The arguments of a call. -/
structure RegionRequest where
  address : BitVec 32
  sizeExponent : BitVec 32

/-- What the assertions on the arguments check. -/
structure RegionRequest.Asserted (request : RegionRequest) : Prop where
  address : request.address &&& ~~~mpuRbarAddrMask = 0#32
  lower : 4#32 ≤ request.sizeExponent
  upper : request.sizeExponent ≤ 31#32

instance (request : RegionRequest) : Decidable request.Asserted :=
  decidable_of_iff (request.address &&& ~~~mpuRbarAddrMask = 0#32 ∧ 4#32 ≤ request.sizeExponent ∧
    request.sizeExponent ≤ 31#32) ⟨fun ⟨a, l, u⟩ => ⟨a, l, u⟩, fun ⟨a, l, u⟩ => ⟨a, l, u⟩⟩

def RegionRequest.mpuRegionConf (request : RegionRequest) : RegionConfig where
  address := request.address
  isEnabled := true
  size := request.sizeExponent
  subregionDisableMask := 0x00#8
  isShareable := true
  isExecutable := true
  memoryType := .stronglyOrdered
  innerCachePolicy := .nonCacheable
  outerCachePolicy := .nonCacheable
  privilegedAccess := .readWrite
  unprivilegedAccess := .readWrite

/-- `none` is a failed assertion. -/
def disableDataCacheInRegion (driver : MpuDriver) (s : CoreState driver) (request : RegionRequest) :
    Option (CoreState driver) :=
  if request.Asserted ∧ 11#8 < s.region then
    some ⟨driver.setRegionConfig s.mpu s.region request.mpuRegionConf, s.region - 1#8⟩
  else none

/-- The range a call asks for. -/
def RegionRequest.requested (request : RegionRequest) : Range :=
  ⟨request.address.toNat, request.sizeExponent.toNat + 1⟩

/-- The region numbers that a sequence of calls takes. -/
def regionsTaken (driver : MpuDriver) (mpu : driver.Mpu) (requests : List RegionRequest) :
    List (BitVec 8) :=
  outputs (disableDataCacheInRegion driver) (fun s _ => some s.region) (.initial mpu) requests

structure DataCacheDisabled (driver : MpuDriver) (before after : driver.Mpu)
    (requests : List RegionRequest) : Prop where
  covered : ∀ request ∈ requests, ∃ r : BitVec 8, 11#8 < r ∧ r ≤ 15#8 ∧
    (driver.regions after r).IsNonCacheable ∧
    ∀ byte ∈ request.requested.span, (driver.regions after r).Covers byte
  nonCacheable : ∀ request ∈ requests, ∀ byte ∈ request.requested.span, ∃ config,
    governing (driver.regions after) byte = some config ∧ config.IsNonCacheable
  distinct : (regionsTaken driver before requests).Nodup
  aboveDefault : ∀ r ∈ regionsTaken driver before requests, 11#8 < r
  unchanged : ∀ byte, (∀ request ∈ requests, byte ∉ request.requested.span) →
    governing (driver.regions after) byte = governing (driver.regions before) byte

section Governing
variable {regions regions' : Regions} {byte : ℕ}

theorem find?_map_congr {α β : Type*} {p : β → Bool} {f g : α → β} (xs : List α)
    (h : ∀ x ∈ xs, f x = g x ∨ p (f x) = false ∧ p (g x) = false) :
    (xs.map f).find? p = (xs.map g).find? p := by
  induction xs with
  | nil => rfl
  | cons x xs ih =>
      have hxs := ih fun y hy => h y (List.mem_cons_of_mem x hy)
      rw [List.map_cons, List.map_cons, List.find?_cons, List.find?_cons, hxs]
      rcases h x List.mem_cons_self with hx | ⟨hf, hg⟩
      · rw [hx]
      · rw [hf, hg]

theorem le_of_mem {r : BitVec 8} (hr : r ∈ furtherRegions ++ defaultRegions) : r ≤ 15#8 := by
  have hall : (furtherRegions ++ defaultRegions).all (· ≤ 15#8) = true := by decide
  simpa using List.all_eq_true.mp hall r hr

theorem further_iff {r : BitVec 8} : 11#8 < r ↔ 11 < r.toNat := Iff.rfl

theorem numbered_iff {r : BitVec 8} : r ≤ 15#8 ↔ r.toNat ≤ 15 := Iff.rfl

theorem mem_furtherRegions {r : BitVec 8} (hlow : 11#8 < r) (hhigh : r ≤ 15#8) :
    r ∈ furtherRegions := by
  rw [further_iff] at hlow
  rw [numbered_iff] at hhigh
  have hr : r.toNat = 15 ∨ r.toNat = 14 ∨ r.toNat = 13 ∨ r.toNat = 12 := by omega
  simp only [furtherRegions, List.mem_cons, List.not_mem_nil, or_false, ← BitVec.toNat_inj]
  exact hr

theorem lt_of_mem_furtherRegions {r : BitVec 8} (hr : r ∈ furtherRegions) : 11#8 < r := by
  have hall : furtherRegions.all (11#8 < ·) = true := by decide
  simpa using List.all_eq_true.mp hall r hr

/-- Regions that do not cover a byte do not matter to it. -/
theorem governing_congr (h : ∀ r ≤ 15#8, regions r = regions' r ∨
    ¬ (regions r).Covers byte ∧ ¬ (regions' r).Covers byte) :
    governing regions byte = governing regions' byte := by
  apply find?_map_congr
  intro r hr
  simpa only [decide_eq_false_iff_not] using h r (le_of_mem hr)

/-- Where a region above the default ones covers a byte, one of these governs it. -/
theorem governing_of_covers {r : BitVec 8} (hlow : 11#8 < r) (hhigh : r ≤ 15#8)
    (h : (regions r).Covers byte) : ∃ s, 11#8 < s ∧ s ≤ 15#8 ∧
      (regions s).Covers byte ∧ governing regions byte = some (regions s) := by
  have hsome : ((furtherRegions.map regions).find? fun config => config.Covers byte).isSome := by
    apply List.find?_isSome.mpr
    exact ⟨regions r, List.mem_map_of_mem (mem_furtherRegions hlow hhigh), by simpa using h⟩
  obtain ⟨config, hfind⟩ := Option.isSome_iff_exists.mp hsome
  obtain ⟨s, hs, rfl⟩ := List.mem_map.mp (List.mem_of_find?_eq_some hfind)
  refine ⟨s, lt_of_mem_furtherRegions hs, le_of_mem (List.mem_append_left _ hs), ?_, ?_⟩
  · simpa using List.find?_some hfind
  · rw [governing, List.map_append, List.find?_append, hfind]
    rfl

end Governing

section Runs
variable {driver : MpuDriver} {before : driver.Mpu} {s t : CoreState driver}
  {requests : List RegionRequest} {request : RegionRequest}

theorem disableDataCacheInRegion_cases
    (h : disableDataCacheInRegion driver s request = some t) :
    request.Asserted ∧ 11#8 < s.region ∧
      t = ⟨driver.setRegionConfig s.mpu s.region request.mpuRegionConf, s.region - 1#8⟩ := by
  unfold disableDataCacheInRegion at h
  split at h
  · rename_i hassert
    exact ⟨hassert.1, hassert.2, (Option.some.inj h).symm⟩
  · cases h

theorem RegionRequest.Asserted.valid (h : request.Asserted) : request.mpuRegionConf.Valid :=
  ⟨h.address, h.lower, h.upper⟩

/-- The region of an asserted call, without subregions, covers its block. -/
theorem RegionRequest.covers_iff (request : RegionRequest) (byte : ℕ) :
    request.mpuRegionConf.Covers byte ↔ byte ∈ request.requested.block := by
  refine ⟨fun h => h.2.1, fun h => ⟨rfl, h, Or.inr ?_⟩⟩
  exact BitVec.getLsbD_zero

/-- After some calls: the `k`th one set region `15 - k`, and the other regions are as before. -/
structure Configured (before : driver.Mpu) (requests : List RegionRequest) (s : CoreState driver) :
    Prop where
  numbered : s.region.toNat + requests.length = 15
  room : 11 ≤ s.region.toNat
  asserted : ∀ request ∈ requests, request.Asserted
  configured : ∀ k request (r : BitVec 8), requests[k]? = some request → r.toNat + k = 15 →
    driver.regions s.mpu r = request.mpuRegionConf
  others : ∀ r, r ≤ s.region → driver.regions s.mpu r = driver.regions before r
  taken : ∀ r ∈ regionsTaken driver before requests, s.region < r
  distinct : (regionsTaken driver before requests).Nodup

/-- A call sets the region that the counter names, counts it down and takes its number. -/
theorem disableDataCacheInRegion_effect (h : Configured before requests s)
    (hr : run (disableDataCacheInRegion driver) (.initial before) requests = some s)
    (hs : disableDataCacheInRegion driver s request = some t) :
    request.Asserted ∧ 11 < s.region.toNat ∧ t.region.toNat = s.region.toNat - 1 ∧
      driver.regions t.mpu =
        Function.update (driver.regions s.mpu) s.region request.mpuRegionConf ∧
      regionsTaken driver before (requests ++ [request]) =
        regionsTaken driver before requests ++ [s.region] := by
  obtain ⟨hasserted, hregion, rfl⟩ := disableDataCacheInRegion_cases hs
  rw [further_iff] at hregion
  have hnumbered := h.numbered
  refine ⟨hasserted, hregion, ?_, ?_, outputs_concat request hr⟩
  · rw [BitVec.toNat_sub, BitVec.toNat_ofNat]
    omega
  · apply driver.regions_setRegionConfig
    · rw [numbered_iff]
      omega
    · exact hasserted.valid

theorem Configured.update_configured (h : Configured before requests s) {k : ℕ}
    {later : RegionRequest} {r : BitVec 8} (hk : (requests ++ [request])[k]? = some later)
    (hrk : r.toNat + k = 15) :
    Function.update (driver.regions s.mpu) s.region request.mpuRegionConf r =
      later.mpuRegionConf := by
  have hnumbered := h.numbered
  rcases Nat.lt_or_ge k requests.length with hlt | hge
  · rw [List.getElem?_append_left hlt] at hk
    have hne : r ≠ s.region := by
      rintro rfl
      omega
    rw [Function.update_of_ne hne]
    exact h.configured k later r hk hrk
  · rw [List.getElem?_append_right hge, List.getElem?_singleton] at hk
    split at hk
    · cases hk
      have heq : r = s.region := by
        apply BitVec.eq_of_toNat_eq
        omega
      rw [heq, Function.update_self]
    · cases hk

theorem Configured.next (h : Configured before requests s)
    (hr : run (disableDataCacheInRegion driver) (.initial before) requests = some s)
    (hs : disableDataCacheInRegion driver s request = some t) :
    Configured before (requests ++ [request]) t := by
  obtain ⟨hasserted, hregion, hcounter, hset, htaken⟩ := disableDataCacheInRegion_effect h hr hs
  have hnumbered := h.numbered
  constructor
  case numbered =>
    rw [List.length_append, List.length_singleton]
    omega
  case room => omega
  case asserted =>
    simpa only [List.forall_mem_append, List.forall_mem_singleton] using ⟨h.asserted, hasserted⟩
  case configured =>
    intro k later r hk hrk
    rw [hset]
    exact h.update_configured hk hrk
  case others =>
    intro r hle
    rw [BitVec.le_def] at hle
    have hne : r ≠ s.region := by
      rintro rfl
      omega
    rw [hset, Function.update_of_ne hne]
    apply h.others
    rw [BitVec.le_def]
    omega
  case taken =>
    rw [htaken]
    intro r hr
    rw [BitVec.lt_def]
    rcases List.mem_append.mp hr with hr | hr
    · have hlt := h.taken r hr
      rw [BitVec.lt_def] at hlt
      omega
    · rw [List.mem_singleton.mp hr]
      omega
  case distinct =>
    rw [htaken, ← List.concat_eq_append]
    apply List.Nodup.concat ?_ h.distinct
    intro hmem
    exact BitVec.lt_irrefl _ (h.taken _ hmem)

theorem configured_initial : Configured before [] (.initial before) where
  numbered := rfl
  room := Nat.le_of_ble_eq_true rfl
  asserted request hmem := by cases hmem
  configured k request r hk := by cases hk
  others _ _ := rfl
  taken r hmem := by cases hmem
  distinct := List.nodup_nil

theorem run_configured (hr : run (disableDataCacheInRegion driver) (.initial before) requests = some s) :
    Configured before requests s := by
  apply run_induction (I := Configured before) (along_true _ requests) hr configured_initial
  intro as s request t hr h _ hs
  exact h.next hr hs

/-- A region holds what a call gave it, or what it held before. -/
theorem Configured.cases (h : Configured before requests s) {r : BitVec 8} (hr : r ≤ 15#8) :
    driver.regions s.mpu r = driver.regions before r ∨
      11#8 < r ∧ ∃ request ∈ requests, driver.regions s.mpu r = request.mpuRegionConf := by
  have hnumbered := h.numbered
  have hroom := h.room
  rw [numbered_iff] at hr
  by_cases hle : r.toNat ≤ s.region.toNat
  · exact Or.inl (h.others r (BitVec.le_def.mpr hle))
  · have hlt : 15 - r.toNat < requests.length := by omega
    refine Or.inr ⟨?_, requests[15 - r.toNat], List.getElem_mem hlt, ?_⟩
    · rw [further_iff]
      omega
    · exact h.configured _ _ r (List.getElem?_eq_getElem hlt) (by omega)

theorem Configured.region_of_mem (h : Configured before requests s) (hmem : request ∈ requests) :
    ∃ r : BitVec 8, 11#8 < r ∧ r ≤ 15#8 ∧ driver.regions s.mpu r = request.mpuRegionConf := by
  have hnumbered := h.numbered
  have hroom := h.room
  obtain ⟨k, hlt, rfl⟩ := List.getElem_of_mem hmem
  have hr : (BitVec.ofNat 8 (15 - k)).toNat = 15 - k := by
    rw [BitVec.toNat_ofNat]
    omega
  refine ⟨BitVec.ofNat 8 (15 - k), ?_, ?_, ?_⟩
  · rw [further_iff]
    omega
  · rw [numbered_iff]
    omega
  · exact h.configured k _ _ (List.getElem?_eq_getElem hlt) (by omega)

/-- With the further regions unused at first, those that cover anything are the calls'. -/
theorem Configured.request_of_covers (h : Configured before requests s)
    (hunused : ∀ r, 11#8 < r → (driver.regions before r).isEnabled = false) {r : BitVec 8}
    (hlow : 11#8 < r) (hhigh : r ≤ 15#8) {byte : ℕ} (hcovers : (driver.regions s.mpu r).Covers byte) :
    ∃ request ∈ requests, driver.regions s.mpu r = request.mpuRegionConf := by
  rcases h.cases hhigh with hsame | ⟨_, hrequest⟩
  · rw [hsame] at hcovers
    exact absurd hcovers.1 (by rw [hunused r hlow]; decide)
  · exact hrequest

/-- The ranges that a sequence of calls asks for. -/
def requestedRanges (requests : List RegionRequest) : List Range :=
  requests.map RegionRequest.requested

theorem withinAligned_of_disabled (h : Configured before requests s)
    (hunused : ∀ r, 11#8 < r → (driver.regions before r).isEnabled = false)
    (hdisabled : DataCacheDisabled driver before s.mpu requests) :
    WithinAligned (requestedRanges requests) := by
  have hbound : ∀ range ∈ requestedRanges requests, range.exponent ≤ 32 := by
    intro range hrange
    obtain ⟨request, hmem, rfl⟩ := List.mem_map.mp hrange
    have hupper := (h.asserted request hmem).upper
    rw [BitVec.le_def] at hupper
    exact Nat.succ_le_succ hupper
  apply withinAligned_of_blocks hbound
  intro range hrange
  obtain ⟨request, hmem, rfl⟩ := List.mem_map.mp hrange
  obtain ⟨r, hlow, hhigh, _, hcovers⟩ := hdisabled.covered request hmem
  obtain ⟨setter, hsetter, hconfig⟩ :=
    h.request_of_covers hunused hlow hhigh (hcovers _ request.requested.start_mem_span)
  refine ⟨setter.requested, List.mem_map_of_mem hsetter, ?_⟩
  intro byte hbyte
  have hbyte' := hcovers byte hbyte
  rw [hconfig] at hbyte'
  exact (setter.covers_iff byte).mp hbyte'

theorem covered_of_withinAligned (h : Configured before requests s)
    (haligned : WithinAligned (requestedRanges requests)) (hmem : request ∈ requests) :
    ∃ r : BitVec 8, 11#8 < r ∧ r ≤ 15#8 ∧ (driver.regions s.mpu r).IsNonCacheable ∧
      ∀ byte ∈ request.requested.span, (driver.regions s.mpu r).Covers byte := by
  obtain ⟨range, hrange, hsub⟩ := haligned.span_subset_block (List.mem_map_of_mem hmem)
  obtain ⟨setter, hsetter, rfl⟩ := List.mem_map.mp hrange
  obtain ⟨r, hlow, hhigh, hconfig⟩ := h.region_of_mem hsetter
  refine ⟨r, hlow, hhigh, ?_, ?_⟩
  · rw [hconfig]
    exact ⟨rfl, rfl⟩
  · intro byte hbyte
    rw [hconfig]
    exact (setter.covers_iff byte).mpr (hsub hbyte)

/-- The calls' regions reach no byte outside of the requested ranges. -/
theorem unchanged_of_withinAligned (h : Configured before requests s)
    (hunused : ∀ r, 11#8 < r → (driver.regions before r).isEnabled = false)
    (haligned : WithinAligned (requestedRanges requests)) {byte : ℕ}
    (houtside : ∀ request ∈ requests, byte ∉ request.requested.span) :
    governing (driver.regions s.mpu) byte = governing (driver.regions before) byte := by
  apply governing_congr
  intro r hr
  rcases h.cases hr with hsame | ⟨hlow, setter, hsetter, hconfig⟩
  · exact Or.inl hsame
  · right
    constructor
    · intro hcovers
      rw [hconfig, setter.covers_iff] at hcovers
      obtain ⟨range, hrange, hsub⟩ := haligned.block_subset_span (List.mem_map_of_mem hsetter)
      obtain ⟨request, hmem, rfl⟩ := List.mem_map.mp hrange
      exact houtside request hmem (hsub hcovers)
    · intro hcovers
      exact absurd hcovers.1 (by rw [hunused r hlow]; decide)

theorem disabled_of_withinAligned (h : Configured before requests s)
    (hunused : ∀ r, 11#8 < r → (driver.regions before r).isEnabled = false)
    (haligned : WithinAligned (requestedRanges requests)) :
    DataCacheDisabled driver before s.mpu requests where
  covered _ hmem := covered_of_withinAligned h haligned hmem
  nonCacheable request hmem byte hbyte := by
    obtain ⟨r, hlow, hhigh, _, hcovers⟩ := covered_of_withinAligned h haligned hmem
    obtain ⟨r', hlow', hhigh', hcovers', hgoverning⟩ :=
      governing_of_covers hlow hhigh (hcovers byte hbyte)
    obtain ⟨setter, _, hconfig⟩ := h.request_of_covers hunused hlow' hhigh' hcovers'
    refine ⟨_, hgoverning, ?_⟩
    rw [hconfig]
    exact ⟨rfl, rfl⟩
  distinct := h.distinct
  aboveDefault r hr := by
    have hlt := h.taken r hr
    rw [BitVec.lt_def] at hlt
    rw [further_iff]
    exact h.room.trans_lt hlt
  unchanged _ houtside := unchanged_of_withinAligned h hunused haligned houtside

end Runs

/-- The requested ranges become non-cacheable, and nothing else does, exactly when each
lies within the range of a call whose address is a multiple of its size. -/
theorem dataCacheDisabled_iff (driver : MpuDriver) (before : driver.Mpu)
    (requests : List RegionRequest) (s : CoreState driver)
    (hunused : ∀ r, 11#8 < r → (driver.regions before r).isEnabled = false)
    (hr : run (disableDataCacheInRegion driver) (.initial before) requests = some s) :
    DataCacheDisabled driver before s.mpu requests ↔ WithinAligned (requestedRanges requests) :=
  ⟨withinAligned_of_disabled (run_configured hr) hunused,
    disabled_of_withinAligned (run_configured hr) hunused⟩

/-- A unit whose regions are stored as they are set. -/
def registerFile : MpuDriver where
  Mpu := Regions
  regions := id
  setRegionConfig := Function.update
  regions_setRegionConfig _ _ _ _ _ := rfl

/-- Cached memory of 512 KiB in region 3. -/
def cachedSram : Regions := fun r =>
  { address := 0x20400000#32
    isEnabled := r == 3#8
    size := 18#32
    subregionDisableMask := 0x00#8
    isShareable := false
    isExecutable := true
    memoryType := .normal
    innerCachePolicy := .writeBackWriteAllocate
    outerCachePolicy := .writeBackWriteAllocate
    privilegedAccess := .readWrite
    unprivilegedAccess := .readWrite }

theorem cachedSram_unused {r : BitVec 8} (hr : 11#8 < r) : (cachedSram r).isEnabled = false := by
  have hne : r ≠ 3#8 := by
    rintro rfl
    exact absurd hr (by decide)
  exact beq_false_of_ne hne

/-- The second range starts within the first, off its own alignment. -/
def nestedRequests : List RegionRequest := [⟨0x20400000#32, 6#32⟩, ⟨0x20400020#32, 5#32⟩]

theorem dataCacheDisabled_nestedRequests : ∃ s,
    run (disableDataCacheInRegion registerFile) (.initial cachedSram) nestedRequests = some s ∧
    DataCacheDisabled registerFile cachedSram s.mpu nestedRequests := by
  refine ⟨_, rfl, (dataCacheDisabled_iff registerFile cachedSram nestedRequests _
    (fun _ hr => cachedSram_unused hr) rfl).mpr fun r hr => ?_⟩
  refine ⟨⟨0x20400000, 7⟩, List.mem_cons_self, by decide, ?_⟩
  rcases List.mem_cons.mp hr with rfl | hr
  · exact le_rfl
  · obtain rfl := List.mem_singleton.mp hr
    exact Set.Ico_subset_Ico (by decide) (by decide)

/-- 64 bytes from `0x20400020` on. -/
def misalignedRequest : RegionRequest := ⟨0x20400020#32, 5#32⟩

/-- The upper half of the range stays cached, and the 32 bytes below it lose their cache. -/
theorem not_dataCacheDisabled_misalignedRequest : ∃ s,
    run (disableDataCacheInRegion registerFile) (.initial cachedSram) [misalignedRequest] = some s ∧
    0x20400040 ∈ misalignedRequest.requested.span ∧
    governing s.mpu 0x20400040 = some (cachedSram 3#8) ∧
    0x20400000 ∉ misalignedRequest.requested.span ∧
    governing cachedSram 0x20400000 = some (cachedSram 3#8) ∧
    governing s.mpu 0x20400000 = some misalignedRequest.mpuRegionConf ∧
    ¬ DataCacheDisabled registerFile cachedSram s.mpu [misalignedRequest] := by
  have hmem : 0x20400040 ∈ misalignedRequest.requested.span := ⟨by decide, by decide⟩
  refine ⟨_, rfl, hmem, rfl, ?_, rfl, rfl, ?_⟩
  · exact fun h => absurd h.1 (by decide)
  · intro h
    obtain ⟨config, hgoverning, hconfig⟩ := h.nonCacheable _ List.mem_cons_self _ hmem
    cases hgoverning
    exact absurd hconfig.1 nofun

end SamV71Runtime.SamV71Core
