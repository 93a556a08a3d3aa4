import Mathlib.Logic.Function.Basic

/-!
# Sections that a lock guards

Each thread is at a point of its program, and some points are inside the section. A thread
enters with the lock and leaves by giving it back; moving on keeps it where it is.
-/
namespace CriticalSection

variable {Tid Point : Type*} {inside : Point → Prop} {owner : Option Tid} {points : Tid → Point}
  {i : Tid} {point : Point}

/-- Inside are the owner of the lock and nobody else. -/
def Guards (inside : Point → Prop) (owner : Option Tid) (points : Tid → Point) : Prop :=
  ∀ i, inside (points i) ↔ owner = some i

theorem Guards.alone (h : Guards inside owner points) {j : Tid} (hi : inside (points i))
    (hj : inside (points j)) : i = j :=
  Option.some.inj (((h i).mp hi).symm.trans ((h j).mp hj))

variable [DecidableEq Tid]

theorem Guards.enter (h : Guards inside none points) (hpoint : inside point) :
    Guards inside (some i) (Function.update points i point) := by
  intro j
  by_cases hj : j = i
  · subst hj
    rw [Function.update_self]
    exact iff_of_true hpoint rfl
  · rw [Function.update_of_ne hj]
    refine iff_of_false (fun hinside => nomatch (h j).mp hinside) ?_
    exact fun heq => hj (Option.some.inj heq).symm

theorem Guards.move (h : Guards inside owner points) (hpoint : inside point ↔ inside (points i)) :
    Guards inside owner (Function.update points i point) := by
  intro j
  by_cases hj : j = i
  · subst hj
    rw [Function.update_self]
    exact hpoint.trans (h j)
  · rw [Function.update_of_ne hj]
    exact h j

theorem Guards.leave (h : Guards inside owner points) (hinside : inside (points i))
    (hpoint : ¬ inside point) : Guards inside none (Function.update points i point) := by
  intro j
  refine iff_of_false ?_ (Option.some_ne_none j).symm
  by_cases hj : j = i
  · subst hj
    rw [Function.update_self]
    exact hpoint
  · rw [Function.update_of_ne hj]
    exact fun hboth => hj (h.alone hboth hinside)

end CriticalSection
