import SamV71Runtime.CrcDistance
import SamV71Runtime.ReportChecksum

/-!
# Reports with flipped bits

A generated report carries the checksum of its other bytes. One, two, three, or any odd
number of bits that flip in it, in the checksum or behind it, leave a report that does not.
-/
namespace SamV71Runtime.DeathReportWriter

/-- The checksum is that of the bytes behind it. -/
def Verifies (report : DeathReport) : Prop := report.checksum = calculateReportCrc report

instance (report : DeathReport) : Decidable (Verifies report) := inferInstanceAs (Decidable (_ = _))

/-- The bytes that the checksum is taken of, and the checksum behind them. -/
def checkedBytes (report : DeathReport) : List (BitVec 8) :=
  report.bytes.drop sizeofUint16 ++
    [report.checksum.extractLsb' 8 8, report.checksum.extractLsb' 0 8]

section Checked
variable {report corrupted : DeathReport}

theorem verifies_withChecksum (report : DeathReport) :
    Verifies { report with checksum := calculateReportCrc report } := by
  have hsame (checksum : BitVec 16) :
      calculateReportCrc { report with checksum } = calculateReportCrc report := by
    unfold calculateReportCrc
    rw [bytes_withChecksum report]
  rw [Verifies, hsame (calculateReportCrc report)]

theorem generateDeathReport_verifies (memory : Address → BitVec 32)
    (bspSectionRtemsstackEnd : Address) (report : DeathReport) :
    Verifies (generateDeathReport memory bspSectionRtemsstackEnd report).2 := by
  unfold generateDeathReport
  exact verifies_withChecksum _

theorem length_checkedBytes (report : DeathReport) : (checkedBytes report).length = 632 := by
  rw [checkedBytes, List.length_append, List.length_drop, length_bytes]
  rfl

/-- A report that verifies leaves the register at 0. -/
theorem Verifies.register_eq_zero (h : Verifies report) :
    Crc.register crcPolynomial crcInitialValue (checkedBytes report) = 0 := by
  have hchecksum : report.checksum =
      Crc.register crcPolynomial crcInitialValue (report.bytes.drop sizeofUint16) := by
    rw [h, calculateReportCrc, calculateCrc_eq]
  rw [checkedBytes, hchecksum]
  exact Crc.register_check ..

theorem messageBits_append (as bs : List (BitVec 8)) :
    Crc.messageBits (as ++ bs) = Crc.messageBits as ++ Crc.messageBits bs := List.flatMap_append

theorem card_differingBits_append {as bs : List (BitVec 8)} (as' bs' : List (BitVec 8))
    (h : as.length = bs.length) : (differingBits (as ++ as') (bs ++ bs')).card =
      (differingBits as bs).card + (differingBits as' bs').card := by
  rw [differingBits, messageBits_append, messageBits_append]
  apply Crc.card_errorPositions_append
  rw [Crc.length_messageBits, Crc.length_messageBits, h]

/-- As many bits differ with two bytes behind the others as with these in front. -/
theorem card_differingBits_rotate (a b a' b' : BitVec 8) {body body' : List (BitVec 8)}
    (h : body.length = body'.length) :
    (differingBits (body ++ [b, a]) (body' ++ [b', a'])).card =
      (differingBits (a :: b :: body) (a' :: b' :: body')).card := by
  have hpair (a b c d : BitVec 8) : (differingBits [a, b] [c, d]).card =
      (differingBits [a] [c]).card + (differingBits [b] [d]).card :=
    card_differingBits_append [b] [d] (show [a].length = [c].length from rfl)
  have hfront : (differingBits (a :: b :: body) (a' :: b' :: body')).card =
      (differingBits [a, b] [a', b']).card + (differingBits body body').card :=
    card_differingBits_append body body' (show [a, b].length = [a', b'].length from rfl)
  rw [card_differingBits_append _ _ h, hfront, hpair, hpair, Nat.add_comm (differingBits [b] [b']).card,
    Nat.add_comm]

theorem card_differingBits_checkedBytes (report corrupted : DeathReport) :
    (differingBits (checkedBytes report) (checkedBytes corrupted)).card =
      (differingBits report.bytes corrupted.bytes).card := by
  apply card_differingBits_rotate
  rw [List.length_drop, List.length_drop, length_bytes, length_bytes]

theorem avoidsOne_crcPolynomial :
    Crc.avoidsOne crcPolynomial 5055 (Crc.shift crcPolynomial 1) = true := by decide +kernel

/-- Two errors, or an odd number of them, leave no report that verifies. -/
theorem Verifies.not_of_errors (h : Verifies report)
    (herrors : (differingBits report.bytes corrupted.bytes).card = 2 ∨
      Odd (differingBits report.bytes corrupted.bytes).card) : ¬ Verifies corrupted := by
  intro hcorrupted
  have hlength : (checkedBytes report).length = (checkedBytes corrupted).length := by
    rw [length_checkedBytes, length_checkedBytes]
  have hsame := h.register_eq_zero.trans hcorrupted.register_eq_zero.symm
  rw [← card_differingBits_checkedBytes] at herrors
  rcases herrors with hpair | hodd
  · have hshort : 8 * (checkedBytes report).length ≤ 5055 + 1 := by rw [length_checkedBytes]
    exact Crc.register_ne_of_pair (by decide) (by decide) hlength hshort avoidsOne_crcPolynomial
      hpair hsame
  · exact Crc.register_ne_of_odd (by decide) (by decide) eval_one_generator hlength hodd hsame

end Checked

/-- Up to three bits that flip anywhere in a generated report, and any odd number of them, are
detected by its checksum. -/
theorem corruption_detected (memory : Address → BitVec 32) (bspSectionRtemsstackEnd : Address)
    (report corrupted : DeathReport)
    (herrors : (differingBits (generateDeathReport memory bspSectionRtemsstackEnd report).2.bytes
        corrupted.bytes).card ∈ Finset.Icc 1 3 ∨
      Odd (differingBits (generateDeathReport memory bspSectionRtemsstackEnd report).2.bytes
        corrupted.bytes).card) : ¬ Verifies corrupted := by
  apply (generateDeathReport_verifies memory bspSectionRtemsstackEnd report).not_of_errors
  rcases herrors with hfew | hodd
  · obtain ⟨hone, hthree⟩ := Finset.mem_Icc.mp hfew
    generalize (differingBits _ corrupted.bytes).card = count at *
    interval_cases count
    · exact Or.inr (by decide)
    · exact Or.inl rfl
    · exact Or.inr (by decide)
  · exact Or.inr hodd

theorem differingBits_self (bytes : List (BitVec 8)) : differingBits bytes bytes = ∅ := by
  simp [differingBits, Crc.errorPositions]

/-- One bit differs when a report that has not been seen is marked as seen. -/
theorem card_differingBits_seen (report : DeathReport) (h : report.wasSeen = 0) :
    (differingBits report.bytes { report with wasSeen := 1#8 }.bytes).card = 1 := by
  have hbefore : report.bytes = [report.checksum.extractLsb' 0 8, report.checksum.extractLsb' 8 8] ++
      ([report.wasSeen] ++ ([report.padding] ++ report.words.flatMap wordBytes)) := rfl
  have hafter : ({ report with wasSeen := 1#8 } : DeathReport).bytes =
      [report.checksum.extractLsb' 0 8, report.checksum.extractLsb' 8 8] ++
        ([1#8] ++ ([report.padding] ++ report.words.flatMap wordBytes)) := rfl
  have hchecksum := differingBits_self
    [report.checksum.extractLsb' 0 8, report.checksum.extractLsb' 8 8]
  have hwasSeen : (differingBits [0#8] [1#8]).card = 1 := by decide
  rw [hbefore, hafter, card_differingBits_append _ _ rfl, hchecksum, h]
  have hrest := card_differingBits_append ([report.padding] ++ report.words.flatMap wordBytes)
    ([report.padding] ++ report.words.flatMap wordBytes) (show [0#8].length = [1#8].length from rfl)
  rw [hwasSeen, differingBits_self] at hrest
  exact (Nat.zero_add _).trans hrest

/-- Marking a report as seen is such an error. -/
theorem corruption_detected_seen : ¬ Verifies
    { (generateDeathReport (fun _ => 0#32) 0x20450000#32 (.cleared 0x2044FFF0#32)).2 with
      wasSeen := 1#8 } := by
  apply corruption_detected (fun _ => 0#32) 0x20450000#32 (.cleared 0x2044FFF0#32)
  have hone := card_differingBits_seen
    (generateDeathReport (fun _ => 0#32) 0x20450000#32 (.cleared 0x2044FFF0#32)).2 rfl
  rw [hone]
  exact Or.inl (by decide)

end SamV71Runtime.DeathReportWriter
