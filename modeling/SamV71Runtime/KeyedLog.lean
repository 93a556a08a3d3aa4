import Mathlib.Data.List.Basic

/-!
# Logs of keyed entries

The entry made last under a key.
-/
namespace KeyedLog

variable {K V : Type*} [DecidableEq K]

def last (log : List (K × V)) (k : K) : Option V :=
  (log.reverse.find? fun e => e.1 = k).map Prod.snd

theorem last_append (log later : List (K × V)) (k : K) :
    last (log ++ later) k = (last later k).or (last log k) := by
  simp only [last, List.reverse_append, List.find?_append]
  cases later.reverse.find? fun e => e.1 = k with
  | none => rfl
  | some e => rfl

theorem last_singleton (e : K × V) (k : K) :
    last [e] k = if e.1 = k then some e.2 else none := by
  by_cases he : e.1 = k
  · simp [last, he]
  · simp [last, he]

theorem last_eq_none_iff {log : List (K × V)} {k : K} :
    last log k = none ↔ ∀ e ∈ log, e.1 ≠ k := by
  simp [last]

/-- What an entry under a key requires of the entry before it under that key. -/
def Ordered (R : V → Option V → Prop) (log : List (K × V)) (k : K) : Prop :=
  ∀ before v, before ++ [(k, v)] <+: log → R v (last before k)

theorem ordered_nil (R : V → Option V → Prop) (k : K) : Ordered R [] k := by
  intro before v hprefix
  exact absurd (List.prefix_nil.mp hprefix) (by simp)

theorem Ordered.append {R : V → Option V → Prop} {log : List (K × V)} {k : K}
    {entry : Option (K × V)} (h : Ordered R log k)
    (hnew : ∀ v, entry = some (k, v) → R v (last log k)) : Ordered R (log ++ entry.toList) k := by
  intro before v hprefix
  cases entry with
  | none =>
      rw [Option.toList_none, List.append_nil] at hprefix
      exact h before v hprefix
  | some made =>
      rcases List.prefix_concat_iff.mp hprefix with heq | hearlier
      · obtain ⟨rfl, hmade⟩ := List.append_inj' heq rfl
        exact hnew v (congrArg some (List.cons.inj hmade).1.symm)
      · exact h before v hearlier

end KeyedLog
