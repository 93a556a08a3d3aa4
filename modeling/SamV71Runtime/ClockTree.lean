import Mathlib.Tactic.NormNum
import Mathlib.Tactic.Ring
import SamV71Runtime.FloorDivision

/-!
# The main clock frequency

`extract_mck_frequency` on the SAMV71 build, on the configuration that the getters of the
power management controller return. The frequency passes through 64-bit divisions and one
multiplication, where the clock tree itself divides exactly.
-/
namespace SamV71Runtime.SamV71Core
open FloorDivision

def megaHz : BitVec 32 := 1000000#32

inductive MainckSrc where
  | xOsc
  | rcOsc

inductive RcOscFreq where
  | f4M
  | f8M
  | f12M

structure MainckConfig where
  src : MainckSrc
  rcOscFreq : RcOscFreq

/-- MULA and DIVA have 11 and 8 bits, so that `pllaMul + 1` does not wrap in C. -/
structure PllConfig where
  pllaMul : BitVec 16
  pllaDiv : BitVec 16

/-- `other` is any source but the two that the main clock frequency is derived from. -/
inductive MasterckSrc where
  | mainck
  | pllack
  | other
  deriving DecidableEq

inductive MasterckPresc where
  | presc1
  | presc2
  | presc4
  | presc8
  | presc16
  | presc32
  | presc64
  | presc3
  deriving DecidableEq

inductive MasterckDiv where
  | div1
  | div2

structure MasterckConfig where
  src : MasterckSrc
  presc : MasterckPresc
  divider : MasterckDiv

structure PmcConfig where
  mainck : MainckConfig
  pll : PllConfig
  masterck : MasterckConfig

/-- `crystal` is `MAIN_CRYSTAL_OSCILLATOR_FREQUENCY`. -/
def extractMainOscilatorFrequency (crystal : BitVec 32) (mainClockConfig : MainckConfig) : BitVec 64 :=
  match mainClockConfig.src with
  | .xOsc => crystal.setWidth 64
  | .rcOsc =>
      match mainClockConfig.rcOscFreq with
      | .f4M => (4 * megaHz).setWidth 64
      | .f8M => (8 * megaHz).setWidth 64
      | .f12M => (12 * megaHz).setWidth 64

def applyPllaConfig (masterClockConfig : MasterckConfig) (pllConfig : PllConfig)
    (mckFrequency : BitVec 64) : BitVec 64 :=
  let pllaDiv := pllConfig.pllaDiv.setWidth 64
  let pllaMul := pllConfig.pllaMul.setWidth 64
  if masterClockConfig.src = .pllack then
    if 0 < pllaDiv ∧ 0 < pllaMul then mckFrequency / pllaDiv * (pllaMul + 1)
    else if pllaDiv = 0 ∧ 0 < pllaMul then mckFrequency * (pllaMul + 1)
    else if 0 < pllaDiv ∧ pllaMul = 0 then mckFrequency / pllaDiv
    else mckFrequency
  else mckFrequency

/-- The value of `mck_frequency`, which `SamV71Core_GetMainClockFrequency` returns. -/
def extractMckFrequency (crystal : BitVec 32) (pmc : PmcConfig) : BitVec 64 :=
  let mckFrequency := extractMainOscilatorFrequency crystal pmc.mainck
  let mckFrequency := applyPllaConfig pmc.masterck pmc.pll mckFrequency
  let mckFrequency :=
    match pmc.masterck.presc with
    | .presc1 => mckFrequency
    | .presc2 => mckFrequency / 2
    | .presc4 => mckFrequency / 4
    | .presc8 => mckFrequency / 8
    | .presc16 => mckFrequency / 16
    | .presc32 => mckFrequency / 32
    | .presc64 => mckFrequency / 64
    | .presc3 => mckFrequency / 7
  match pmc.masterck.divider with
  | .div1 => mckFrequency
  | .div2 => mckFrequency / 2

def MasterckPresc.value : MasterckPresc → ℕ
  | .presc1 => 1
  | .presc2 => 2
  | .presc4 => 4
  | .presc8 => 8
  | .presc16 => 16
  | .presc32 => 32
  | .presc64 => 64
  | .presc3 => 3

/-- What the frequency is divided by for a prescaler. -/
def MasterckPresc.divisor : MasterckPresc → ℕ
  | .presc3 => 7
  | presc => presc.value

def MasterckDiv.value : MasterckDiv → ℕ
  | .div1 => 1
  | .div2 => 2

def RcOscFreq.value : RcOscFreq → ℕ
  | .f4M => 4000000
  | .f8M => 8000000
  | .f12M => 12000000

/-- The frequency of the main clock. -/
def MainckConfig.frequency (crystal : BitVec 32) (mainck : MainckConfig) : ℕ :=
  match mainck.src with
  | .xOsc => crystal.toNat
  | .rcOsc => mainck.rcOscFreq.value

/-- The multiplier field that takes part, 0 without the PLL. -/
def PmcConfig.multiplier (pmc : PmcConfig) : ℕ :=
  if pmc.masterck.src = .pllack then pmc.pll.pllaMul.toNat else 0

def PmcConfig.plla (pmc : PmcConfig) : ℕ :=
  if pmc.masterck.src = .pllack then pmc.pll.pllaDiv.toNat else 1

/-- Master clock from the main clock, or from a PLL that multiplies and divides. -/
def PmcConfig.Derived (pmc : PmcConfig) : Prop :=
  pmc.masterck.src = .mainck ∨
    pmc.masterck.src = .pllack ∧ 1 ≤ pmc.pll.pllaMul.toNat ∧ 1 ≤ pmc.pll.pllaDiv.toNat

instance (pmc : PmcConfig) : Decidable pmc.Derived := inferInstanceAs (Decidable (_ ∨ _))

/-- The frequency that the clock tree makes of `f`. -/
def PmcConfig.clock (pmc : PmcConfig) (f : ℕ) : ℚ :=
  f * (pmc.multiplier + 1 : ℕ) / pmc.plla / pmc.masterck.presc.value / pmc.masterck.divider.value

/-- The main clock frequency for a main clock of `f` hertz: never above the clock, less
than `m + 2` hertz below it, and the clock itself where every division is exact. -/
structure MatchesClock (crystal : BitVec 32) (pmc : PmcConfig) : Prop where
  notAbove : ((extractMckFrequency crystal pmc).toNat : ℚ) ≤ pmc.clock (pmc.mainck.frequency crystal)
  near : pmc.clock (pmc.mainck.frequency crystal) <
    (extractMckFrequency crystal pmc).toNat + ((pmc.multiplier + 2 : ℕ) : ℚ)
  exact : pmc.plla ∣ pmc.mainck.frequency crystal →
    pmc.masterck.presc.value ∣ pmc.mainck.frequency crystal / pmc.plla * (pmc.multiplier + 1) →
    pmc.masterck.divider.value ∣
      pmc.mainck.frequency crystal / pmc.plla * (pmc.multiplier + 1) / pmc.masterck.presc.value →
    ((extractMckFrequency crystal pmc).toNat : ℚ) = pmc.clock (pmc.mainck.frequency crystal)

section Chain
variable {crystal : BitVec 32} {pmc : PmcConfig}

theorem toNat_extractMainOscilatorFrequency (crystal : BitVec 32) (mainck : MainckConfig) :
    (extractMainOscilatorFrequency crystal mainck).toNat = mainck.frequency crystal := by
  unfold extractMainOscilatorFrequency MainckConfig.frequency
  cases mainck.src with
  | xOsc => exact BitVec.toNat_setWidth_of_le (by decide)
  | rcOsc => cases mainck.rcOscFreq <;> rfl

theorem RcOscFreq.value_lt (f : RcOscFreq) : f.value < 2 ^ 32 := by
  cases f <;> decide

theorem RcOscFreq.le_value (f : RcOscFreq) : 4000000 ≤ f.value := by
  cases f <;> decide

theorem frequency_lt (mainck : MainckConfig) : mainck.frequency crystal < 2 ^ 32 := by
  unfold MainckConfig.frequency
  cases mainck.src with
  | xOsc => exact crystal.isLt
  | rcOsc => exact mainck.rcOscFreq.value_lt

theorem plla_pos (h : pmc.Derived) : 0 < pmc.plla := by
  unfold PmcConfig.plla
  rcases h with hsrc | ⟨hsrc, -, hdiv⟩
  · rw [hsrc, if_neg (by decide)]
    decide
  · rw [if_pos hsrc]
    exact hdiv

/-- A crystal of 12 MHz and every setting of the RC oscillator are fast enough. -/
theorem large_frequency (pmc : PmcConfig) : 21 * pmc.plla ≤ pmc.mainck.frequency 12000000#32 := by
  have hplla : pmc.plla < 2 ^ 16 := by
    unfold PmcConfig.plla
    split
    · exact pmc.pll.pllaDiv.isLt
    · decide
  have hfrequency : 4000000 ≤ pmc.mainck.frequency 12000000#32 := by
    unfold MainckConfig.frequency
    cases pmc.mainck.src with
    | xOsc => exact (by decide : 4000000 ≤ (12000000#32).toNat)
    | rcOsc => exact pmc.mainck.rcOscFreq.le_value
  omega

/-- With the fields of the PLL set, the frequency is divided first and then multiplied. -/
theorem toNat_applyPllaConfig (h : pmc.Derived) {mckFrequency : BitVec 64}
    (hlt : mckFrequency.toNat < 2 ^ 32) :
    (applyPllaConfig pmc.masterck pmc.pll mckFrequency).toNat =
      mckFrequency.toNat / pmc.plla * (pmc.multiplier + 1) := by
  unfold PmcConfig.plla PmcConfig.multiplier applyPllaConfig
  rcases h with hsrc | ⟨hsrc, hmul, hdiv⟩
  · rw [hsrc, if_neg (by decide), if_neg (by decide), if_neg (by decide)]
    omega
  · have hmulWide : (pmc.pll.pllaMul.setWidth 64).toNat = pmc.pll.pllaMul.toNat :=
      BitVec.toNat_setWidth_of_le (by decide)
    have hdivWide : (pmc.pll.pllaDiv.setWidth 64).toNat = pmc.pll.pllaDiv.toNat :=
      BitVec.toNat_setWidth_of_le (by decide)
    have hset : 0 < pmc.pll.pllaDiv.setWidth 64 ∧ 0 < pmc.pll.pllaMul.setWidth 64 := by
      rw [BitVec.lt_def, BitVec.lt_def, hmulWide, hdivWide]
      exact ⟨hdiv, hmul⟩
    have hproduct : mckFrequency.toNat / pmc.pll.pllaDiv.toNat * (pmc.pll.pllaMul.toNat + 1) <
        2 ^ 32 * 2 ^ 16 :=
      Nat.mul_lt_mul_of_lt_of_le ((Nat.div_le_self _ _).trans_lt hlt) pmc.pll.pllaMul.isLt
        (by decide)
    have hnext : (pmc.pll.pllaMul.setWidth 64 + 1).toNat = pmc.pll.pllaMul.toNat + 1 := by
      have hlt := pmc.pll.pllaMul.isLt
      rw [BitVec.toNat_add, hmulWide]
      exact Nat.mod_eq_of_lt (show pmc.pll.pllaMul.toNat + 1 < 2 ^ 64 by omega)
    simp only [if_pos hsrc, if_pos hset]
    rw [BitVec.toNat_mul, BitVec.toNat_udiv, hdivWide, hnext]
    exact Nat.mod_eq_of_lt (hproduct.trans (by decide))

theorem toNat_extractMckFrequency (crystal : BitVec 32) (h : pmc.Derived) :
    (extractMckFrequency crystal pmc).toNat =
      pmc.mainck.frequency crystal / pmc.plla * (pmc.multiplier + 1) /
        pmc.masterck.presc.divisor / pmc.masterck.divider.value := by
  have hmain := toNat_extractMainOscilatorFrequency crystal pmc.mainck
  have hplla := toNat_applyPllaConfig h (hmain ▸ frequency_lt pmc.mainck)
  rw [hmain] at hplla
  unfold extractMckFrequency
  rw [← hplla]
  cases pmc.masterck.divider with
  | div1 =>
      rw [MasterckDiv.value, Nat.div_one]
      cases pmc.masterck.presc with
      | presc1 => exact (Nat.div_one _).symm
      | _ => exact BitVec.toNat_udiv
  | div2 =>
      refine BitVec.toNat_udiv.trans (congrArg (· / 2) ?_)
      cases pmc.masterck.presc with
      | presc1 => exact (Nat.div_one _).symm
      | _ => exact BitVec.toNat_udiv

theorem MasterckPresc.value_pos (presc : MasterckPresc) : 0 < presc.value := by
  cases presc <;> decide

theorem MasterckDiv.value_pos (divider : MasterckDiv) : 0 < divider.value := by
  cases divider <;> decide

theorem MasterckDiv.value_cases (divider : MasterckDiv) :
    divider.value = 1 ∨ divider.value = 2 := by
  cases divider with
  | div1 => exact Or.inl rfl
  | div2 => exact Or.inr rfl

theorem MasterckPresc.divisor_of_ne {presc : MasterckPresc} (h : presc ≠ .presc3) :
    presc.divisor = presc.value := by
  cases presc with
  | presc3 => exact absurd rfl h
  | _ => rfl

theorem matchesClock_of_ne (h : pmc.Derived) (hpresc : pmc.masterck.presc ≠ .presc3) :
    MatchesClock crystal pmc := by
  have hvalue := toNat_extractMckFrequency crystal h
  rw [MasterckPresc.divisor_of_ne hpresc] at hvalue
  have hbelow := below_chain (K := ℚ) (pmc.mainck.frequency crystal) (plla_pos h)
    (Nat.succ_pos pmc.multiplier) pmc.masterck.presc.value_pos pmc.masterck.divider.value_pos
  rw [← hvalue] at hbelow
  constructor
  case notAbove => exact hbelow.le
  case near =>
    apply hbelow.lt.trans_le
    apply add_le_add_right
    exact Nat.cast_le.mpr (Nat.le_succ _)
  case exact =>
    intro hplla hprescDvd hdivider
    have hstart := div_exact (K := ℚ) (Nat.cast_inj.mpr rfl) hplla (plla_pos h)
    have hproduct : ((pmc.mainck.frequency crystal / pmc.plla * (pmc.multiplier + 1) : ℕ) : ℚ) =
        pmc.mainck.frequency crystal * (pmc.multiplier + 1 : ℕ) / pmc.plla := by
      rw [Nat.cast_mul, hstart, mul_div_right_comm]
    have hprescaled := div_exact hproduct hprescDvd pmc.masterck.presc.value_pos
    rw [hvalue]
    exact div_exact hprescaled hdivider pmc.masterck.divider.value_pos

/-- Divided by 7 instead of 3, the frequency is less than half of what it should be. -/
theorem not_matchesClock_of_presc3 (h : pmc.Derived) (hpresc : pmc.masterck.presc = .presc3)
    (hf : 21 * pmc.plla ≤ pmc.mainck.frequency crystal) : ¬ MatchesClock crystal pmc := by
  intro hmatches
  have hnear := hmatches.near
  have hbelow := below_chain (K := ℚ) (pmc.mainck.frequency crystal) (plla_pos h)
    (Nat.succ_pos pmc.multiplier) (show 0 < 7 by decide) pmc.masterck.divider.value_pos
  have hle := hbelow.le
  have hvalue := toNat_extractMckFrequency crystal h
  rw [hpresc, MasterckPresc.divisor] at hvalue
  rw [PmcConfig.clock, hpresc, MasterckPresc.value, hvalue] at hnear
  have hplla : (0 : ℚ) < pmc.plla := Nat.cast_pos.mpr (plla_pos h)
  have hmultiplier : (0 : ℚ) ≤ pmc.multiplier := Nat.cast_nonneg _
  have hlarge : (21 : ℚ) * (pmc.multiplier + 1 : ℕ) ≤
      pmc.mainck.frequency crystal * (pmc.multiplier + 1 : ℕ) / pmc.plla := by
    rw [le_div_iff₀ hplla, mul_right_comm]
    apply mul_le_mul_of_nonneg_right _ (Nat.cast_nonneg _)
    exact_mod_cast hf
  have hdivider := pmc.masterck.divider.value_cases
  simp only [Nat.succ_eq_add_one] at hle
  generalize pmc.mainck.frequency crystal * ((pmc.multiplier + 1 : ℕ) : ℚ) / pmc.plla = x at *
  generalize pmc.masterck.divider.value = q at *
  generalize pmc.mainck.frequency crystal / pmc.plla * (pmc.multiplier + 1) / 7 / q = v at *
  push_cast at hnear hle hlarge
  rcases hdivider with rfl | rfl
  · rw [Nat.cast_one, div_one] at hnear hle
    linarith
  · rw [Nat.cast_two] at hnear hle
    linarith

end Chain

/-- Whatever the crystal, the frequency matches unless the prescaler is 3; then no crystal
of 21 hertz and more for each unit of the PLL's divider makes it match. -/
theorem matchesClock_iff (pmc : PmcConfig) (h : pmc.Derived) :
    ((∀ crystal, MatchesClock crystal pmc) ↔ pmc.masterck.presc ≠ .presc3) ∧
    ∀ crystal, 21 * pmc.plla ≤ pmc.mainck.frequency crystal →
      (MatchesClock crystal pmc ↔ pmc.masterck.presc ≠ .presc3) := by
  have hlarge (crystal : BitVec 32) (hf : 21 * pmc.plla ≤ pmc.mainck.frequency crystal) :
      MatchesClock crystal pmc ↔ pmc.masterck.presc ≠ .presc3 := by
    refine ⟨fun hmatches hpresc => ?_, matchesClock_of_ne h⟩
    exact not_matchesClock_of_presc3 h hpresc hf hmatches
  refine ⟨⟨fun hall => ?_, fun hpresc crystal => matchesClock_of_ne h hpresc⟩, hlarge⟩
  exact (hlarge 12000000#32 (large_frequency pmc)).mp (hall _)

/-- The clock settings that `SamV71Core_Init` makes. -/
def pmcConfig : PmcConfig where
  mainck := ⟨.rcOsc, .f12M⟩
  pll := ⟨24, 1⟩
  masterck := ⟨.pllack, .presc2, .div2⟩

example : extractMckFrequency 12000000#32 pmcConfig = 75000000 := by decide

theorem matchesClock_of_pmcConfig :
    (∀ crystal, MatchesClock crystal pmcConfig) ↔ pmcConfig.masterck.presc ≠ .presc3 :=
  (matchesClock_iff pmcConfig (by decide)).1

/-- The 12 MHz oscillator as master clock, prescaled by 3. -/
def prescaledBy3 : PmcConfig where
  mainck := ⟨.rcOsc, .f12M⟩
  pll := ⟨0, 0⟩
  masterck := ⟨.mainck, .presc3, .div1⟩

/-- A clock of 4 MHz is taken for one of 1714285 Hz. -/
theorem not_matchesClock_prescaledBy3 :
    prescaledBy3.Derived ∧ extractMckFrequency 12000000#32 prescaledBy3 = 1714285 ∧
    prescaledBy3.clock (prescaledBy3.mainck.frequency 12000000#32) = 4000000 ∧
    ¬ MatchesClock 12000000#32 prescaledBy3 := by
  refine ⟨by decide, by decide, ?_, ?_⟩
  · change ((12000000 : ℕ) : ℚ) * ((1 : ℕ) : ℚ) / ((1 : ℕ) : ℚ) / ((3 : ℕ) : ℚ) / ((1 : ℕ) : ℚ) = 4000000
    norm_num
  · exact not_matchesClock_of_presc3 (by decide) rfl (by decide)

end SamV71Runtime.SamV71Core
