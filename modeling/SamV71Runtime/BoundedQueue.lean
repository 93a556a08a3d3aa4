import Mathlib.Data.Nat.Notation

/-!
# Queues of a fixed capacity

First in, first out. The bound is part of the queue, so that a queue filled beyond its
capacity cannot be built.
-/

structure BoundedQueue (α : Type*) where
  capacity : ℕ
  items : List α
  bounded : items.length ≤ capacity

namespace BoundedQueue

variable {α : Type*} {q r : BoundedQueue α} {x : α}

def empty (capacity : ℕ) : BoundedQueue α where
  capacity := capacity
  items := []
  bounded := Nat.zero_le capacity

/-- `none` when the queue is full. -/
def push (q : BoundedQueue α) (x : α) : Option (BoundedQueue α) :=
  if h : q.items.length < q.capacity then
    some ⟨q.capacity, q.items ++ [x], by rw [List.length_append]; exact h⟩
  else none

/-- `none` when the queue is empty. -/
def pop (q : BoundedQueue α) : Option (α × BoundedQueue α) :=
  match h : q.items with
  | [] => none
  | x :: rest => some (x, ⟨q.capacity, rest, by
      have hbound := q.bounded
      rw [h, List.length_cons] at hbound
      exact Nat.le_of_succ_le hbound⟩)

theorem push_eq_none_iff : q.push x = none ↔ q.items.length = q.capacity := by
  unfold push
  split
  · rename_i hroom
    exact iff_of_false (Option.some_ne_none _) (Nat.ne_of_lt hroom)
  · rename_i hfull
    exact iff_of_true rfl (Nat.le_antisymm q.bounded (Nat.le_of_not_lt hfull))

theorem push_cases (h : q.push x = some r) :
    q.items.length < q.capacity ∧ r.capacity = q.capacity ∧ r.items = q.items ++ [x] := by
  unfold push at h
  split at h
  · rename_i hroom
    cases h
    exact ⟨hroom, rfl, rfl⟩
  · cases h

theorem pop_cases (h : q.pop = some (x, r)) :
    r.capacity = q.capacity ∧ q.items = x :: r.items := by
  unfold pop at h
  split at h
  · cases h
  · rename_i hitems
    cases h
    exact ⟨rfl, hitems⟩

end BoundedQueue
