import SamV71Runtime.CrcErrors
import SamV71Runtime.DeathReport

/-!
# What the checksum of a report detects

The generator of `calculate_crc` has a constant term and is divisible by `X + 1`, so that
bursts of up to 16 bits and odd numbers of errors change the checksum.
-/
namespace SamV71Runtime.DeathReportWriter
open Polynomial

/-- The bits in which two messages differ, counted from the most significant one. -/
def differingBits (a b : List (BitVec 8)) : Finset ℕ :=
  Crc.errorPositions (Crc.messageBits a) (Crc.messageBits b)

/-- The errors that the checksum is there for. -/
def DetectableError (a b : List (BitVec 8)) : Prop :=
  (∃ first, differingBits a b ⊆ Finset.Ico first (first + 16)) ∨ Odd (differingBits a b).card

theorem eval_one_generator : (Crc.generator crcPolynomial).eval 1 = 0 := by
  rw [generator_eq]
  simp only [eval_add, eval_pow, eval_X, one_pow, eval_one]
  decide

theorem calculateCrc_detects (a b : List (BitVec 8)) (hlength : a.length = b.length) (hne : a ≠ b)
    (herror : DetectableError a b) : calculateCrc a ≠ calculateCrc b := by
  rw [calculateCrc_eq, calculateCrc_eq]
  rcases herror with ⟨first, hburst⟩ | hodd
  · exact Crc.register_ne_of_burst (by decide) (by decide) hlength hne hburst
  · exact Crc.register_ne_of_odd (by decide) (by decide) eval_one_generator hlength hodd

theorem calculateCrc_detects_oneBit : calculateCrc [0#8, 0#8, 4#8] ≠ calculateCrc [0#8, 0#8, 0#8] :=
  calculateCrc_detects [0#8, 0#8, 4#8] [0#8, 0#8, 0#8] (by decide) (by decide)
    (Or.inr (by decide))

end SamV71Runtime.DeathReportWriter
