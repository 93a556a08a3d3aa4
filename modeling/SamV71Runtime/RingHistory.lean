import Mathlib.Data.Nat.ModEq
import Mathlib.Logic.Function.Basic

/-!
# Rings that hold the end of a history

A history is a list, newest entry first, of which a ring of `size` slots keeps as much
as it can. Entry number `n`, counted from 0, is written to slot `n % size`. The counter
may be smaller than the history is long: a machine counter wraps, and the entries
before the wrap are then no longer held.
-/
namespace RingHistory

variable {α : Type*}

/-- The `min counter size` newest entries stand where the counter says. -/
def Holds (size counter : ℕ) (slots : ℕ → α) (history : List α) : Prop :=
  ∀ k < min counter size, history[k]? = some (slots ((counter - 1 - k) % size))

/-- The entries read from slot `start` backwards, `length` of them. -/
def walkBack (size : ℕ) (slots : ℕ → α) : ℕ → ℕ → List α
  | _, 0 => []
  | start, length + 1 =>
      slots start :: walkBack size slots ((start + (size - 1)) % size) length

variable {size counter : ℕ} {slots : ℕ → α} {history : List α}

theorem holds_zero (size : ℕ) (slots : ℕ → α) (history : List α) : Holds size 0 slots history := by
  intro k hk
  rw [Nat.zero_min] at hk
  exact absurd hk (Nat.not_lt_zero k)

/-- Two entries fewer than `size` apart share no slot. -/
theorem mod_ne_mod {i j : ℕ} (hij : i < j) (hnear : j < i + size) : i % size ≠ j % size := by
  intro heq
  have hdvd := (Nat.modEq_iff_dvd' hij.le).mp heq
  exact absurd (Nat.le_of_dvd (by omega) hdvd) (by omega)

theorem Holds.push (h : Holds size counter slots history) (x : α) :
    Holds size (counter + 1) (Function.update slots (counter % size) x) (x :: history) := by
  intro k hk
  cases k with
  | zero => simp
  | succ k =>
      have hslot : (counter + 1 - 1 - (k + 1)) % size = (counter - 1 - k) % size := by
        congr 1
        omega
      have hfresh : (counter - 1 - k) % size ≠ counter % size :=
        mod_ne_mod (by omega) (by omega)
      rw [hslot, List.getElem?_cons_succ, Function.update_of_ne hfresh]
      exact h k (by omega)

theorem pred_mod {n : ℕ} (hn : 0 < n) (hsize : 0 < size) :
    (n % size + (size - 1)) % size = (n - 1) % size := by
  rw [Nat.mod_add_mod, show n + (size - 1) = n - 1 + size by omega, Nat.add_mod_right]

theorem pred_mod_of_ne {n : ℕ} (hn : n % size ≠ 0) : (n - 1) % size = n % size - 1 := by
  rcases Nat.eq_zero_or_pos size with rfl | hsize
  · simp
  · have hlt := Nat.mod_lt n hsize
    have hpos : 0 < n := Nat.pos_of_ne_zero fun hz => hn (by rw [hz, Nat.zero_mod])
    rw [← pred_mod hpos hsize, show n % size + (size - 1) = n % size - 1 + size by omega,
      Nat.add_mod_right, Nat.mod_eq_of_lt (by omega)]

theorem Holds.walkBack_drop (h : Holds size counter slots history) {length k : ℕ}
    (hk : k + length ≤ min counter size) :
    walkBack size slots ((counter - 1 - k) % size) length = (history.drop k).take length := by
  induction length generalizing k with
  | zero => rfl
  | succ length ih =>
      have hget := h k (by omega)
      rw [List.drop_eq_getElem?_toList_append, hget]
      simp only [walkBack, Option.toList_some, List.singleton_append, List.take_succ_cons]
      cases length with
      | zero => rfl
      | succ length =>
          rw [pred_mod (by omega) (by omega), Nat.sub_sub (counter - 1), ih (by omega)]

/-- Walking back from the newest slot reads the history from its newest entry. -/
theorem Holds.walkBack (h : Holds size counter slots history) {length : ℕ}
    (hlength : length ≤ min counter size) :
    walkBack size slots ((counter - 1) % size) length = history.take length :=
  h.walkBack_drop (k := 0) (by omega)

end RingHistory
