import Mathlib.Algebra.Order.Ring.Nat
import Mathlib.Order.Interval.Set.Defs
import Mathlib.Tactic.ByContra

/-!
# Ranges and aligned blocks

A range of `2 ^ exponent` elements may start anywhere; the block of that size that holds
its first element starts at a multiple of the size. Blocks are nested or disjoint.
-/
namespace AlignedBlocks

structure Range where
  start : ℕ
  exponent : ℕ

namespace Range

def span (r : Range) : Set ℕ := Set.Ico r.start (r.start + 2 ^ r.exponent)

def block (r : Range) : Set ℕ := {x | x / 2 ^ r.exponent = r.start / 2 ^ r.exponent}

instance (r : Range) (x : ℕ) : Decidable (x ∈ r.block) := inferInstanceAs (Decidable (_ = _))

def Aligned (r : Range) : Prop := 2 ^ r.exponent ∣ r.start

instance (r : Range) : Decidable r.Aligned := inferInstanceAs (Decidable (_ ∣ _))

variable {r s : Range}

theorem start_mem_span (r : Range) : r.start ∈ r.span :=
  ⟨le_rfl, Nat.lt_add_of_pos_right (Nat.two_pow_pos r.exponent)⟩

theorem start_mem_block (r : Range) : r.start ∈ r.block := rfl

theorem Aligned.block_eq (h : r.Aligned) : r.block = r.span := by
  obtain ⟨m, hm⟩ := h
  have hpos := Nat.two_pow_pos r.exponent
  ext x
  change x / _ = r.start / _ ↔ r.start ≤ x ∧ x < r.start + _
  rw [hm, Nat.mul_div_cancel_left m hpos, Nat.div_eq_iff hpos, Nat.mul_comm m]
  omega

/-- Of two blocks that meet, the one that is not larger lies within the other. -/
theorem block_subset_of_mem {x : ℕ} (hr : x ∈ r.block) (hs : x ∈ s.block)
    (hle : r.exponent ≤ s.exponent) : r.block ⊆ s.block := by
  intro y hy
  have hcoarse (z : ℕ) : z / 2 ^ s.exponent = z / 2 ^ r.exponent / 2 ^ (s.exponent - r.exponent) := by
    rw [Nat.div_div_eq_div_mul, ← Nat.pow_add, Nat.add_sub_cancel' hle]
  change y / _ = s.start / _
  calc y / 2 ^ s.exponent
      = x / 2 ^ s.exponent := by rw [hcoarse y, hcoarse x, show y / _ = _ from hy, show x / _ = _ from hr]
    _ = s.start / 2 ^ s.exponent := hs

/-- A range that is not aligned has a multiple of its size inside, which no block of
that size or less can hold together with the start. -/
theorem exponent_lt_of_span_subset_block (hsub : r.span ⊆ s.block) (hr : ¬ r.Aligned) :
    r.exponent < s.exponent := by
  by_contra hle
  have hpos := Nat.two_pow_pos r.exponent
  have hmod : 0 < r.start % 2 ^ r.exponent :=
    Nat.pos_of_ne_zero fun h => hr (Nat.dvd_of_mod_eq_zero h)
  have hdiv := Nat.div_add_mod r.start (2 ^ r.exponent)
  have hlt := Nat.mod_lt r.start hpos
  have hnext : 2 ^ r.exponent * (r.start / 2 ^ r.exponent + 1) =
      2 ^ r.exponent * (r.start / 2 ^ r.exponent) + 2 ^ r.exponent := Nat.mul_succ ..
  have hmem : 2 ^ r.exponent * (r.start / 2 ^ r.exponent + 1) ∈ r.span := ⟨by omega, by omega⟩
  obtain ⟨m, hm⟩ := Dvd.dvd.mul_right (pow_dvd_pow 2 (Nat.le_of_not_lt hle))
    (r.start / 2 ^ r.exponent + 1)
  have hsame : 2 ^ r.exponent * (r.start / 2 ^ r.exponent + 1) / 2 ^ s.exponent =
      r.start / 2 ^ s.exponent := (hsub hmem).trans (hsub r.start_mem_span).symm
  rw [hm, Nat.mul_div_cancel_left m (Nat.two_pow_pos _)] at hsame
  have hbelow : r.start / 2 ^ s.exponent < m := Nat.div_lt_of_lt_mul (by omega)
  omega

theorem exponent_le_of_span_subset (hsub : r.span ⊆ s.span) : r.exponent ≤ s.exponent := by
  have hr := Nat.two_pow_pos r.exponent
  have hlow := (hsub r.start_mem_span).1
  have hlast : r.start + 2 ^ r.exponent - 1 ∈ r.span := ⟨by omega, by omega⟩
  have hhigh := (hsub hlast).2
  apply (Nat.pow_le_pow_iff_right Nat.one_lt_two).mp
  omega

end Range

/-- Every range lies within an aligned one. -/
def WithinAligned (ranges : List Range) : Prop :=
  ∀ r ∈ ranges, ∃ s ∈ ranges, s.Aligned ∧ r.span ⊆ s.span

variable {ranges : List Range} {bound : ℕ}

/-- Among the blocks that hold a range, a largest one is that of an aligned range. -/
theorem withinAligned_of_blocks (hbound : ∀ r ∈ ranges, r.exponent ≤ bound)
    (hblocks : ∀ r ∈ ranges, ∃ s ∈ ranges, r.span ⊆ s.block) : WithinAligned ranges := by
  intro r hr
  have hclimb (s : Range) (hs : s ∈ ranges) (hsub : r.span ⊆ s.block) :
      ∃ t ∈ ranges, t.Aligned ∧ r.span ⊆ t.span := by
    induction hroom : bound - s.exponent using Nat.strongRecOn generalizing s with
    | ind room ih =>
        by_cases haligned : s.Aligned
        · exact ⟨s, hs, haligned, haligned.block_eq ▸ hsub⟩
        · obtain ⟨t, ht, hst⟩ := hblocks s hs
          have hlt := Range.exponent_lt_of_span_subset_block hst haligned
          have hblock := Range.block_subset_of_mem s.start_mem_block (hst s.start_mem_span) hlt.le
          have hle := hbound t ht
          exact ih (bound - t.exponent) (by omega) t ht (hsub.trans hblock) rfl
  obtain ⟨s, hs, hsub⟩ := hblocks r hr
  exact hclimb s hs hsub

theorem WithinAligned.span_subset_block (h : WithinAligned ranges) {r : Range} (hr : r ∈ ranges) :
    ∃ s ∈ ranges, r.span ⊆ s.block := by
  obtain ⟨s, hs, haligned, hsub⟩ := h r hr
  exact ⟨s, hs, haligned.block_eq ▸ hsub⟩

/-- Then no block reaches outside of the ranges. -/
theorem WithinAligned.block_subset_span (h : WithinAligned ranges) {r : Range} (hr : r ∈ ranges) :
    ∃ s ∈ ranges, r.block ⊆ s.span := by
  obtain ⟨s, hs, haligned, hsub⟩ := h r hr
  refine ⟨s, hs, ?_⟩
  rw [← haligned.block_eq]
  apply Range.block_subset_of_mem r.start_mem_block
  · exact haligned.block_eq ▸ hsub r.start_mem_span
  · exact Range.exponent_le_of_span_subset hsub

end AlignedBlocks
