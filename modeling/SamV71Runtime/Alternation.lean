import Mathlib.Tactic.TypeStar

/-!
# Lists that alternate between two values

`Alternates a b xs`: the list is `a, b, a, ...` from its first element on. What is left
of such a list when its front is dropped starts with either of the two.
-/
namespace Alternation

variable {α β : Type*} {a b : α}

def Alternates (a b : α) : List α → Prop
  | [] => True
  | x :: xs => x = a ∧ Alternates b a xs

theorem alternates_drop {xs : List α} (h : Alternates a b xs) (n : Nat) :
    Alternates a b (xs.drop n) ∨ Alternates b a (xs.drop n) := by
  induction n generalizing a b xs with
  | zero => exact Or.inl h
  | succ n ih =>
      cases xs with
      | nil => exact Or.inl trivial
      | cons x xs => exact (ih h.2).symm

theorem Alternates.of_append {xs ys : List α} (h : Alternates a b (xs ++ ys)) :
    Alternates a b ys ∨ Alternates b a ys := by
  have hdrop := alternates_drop h xs.length
  rwa [List.drop_left] at hdrop

/-- Whole pairs before a list do not change how it alternates. -/
theorem alternates_pairs {pair : β → List α} (hpair : ∀ x, pair x = [a, b]) (xs : List β)
    {rest : List α} (h : Alternates a b rest) : Alternates a b (xs.flatMap pair ++ rest) := by
  induction xs with
  | nil => exact h
  | cons x xs ih =>
      rw [List.flatMap_cons, hpair, List.append_assoc]
      exact ⟨rfl, rfl, ih⟩

end Alternation
