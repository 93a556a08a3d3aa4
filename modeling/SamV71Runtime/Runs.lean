import Mathlib.Data.List.Induction
import Mathlib.Logic.Function.Basic

/-!
# Finite runs of a guarded step function

`step s a` is `some t` when action `a` is enabled in `s` and leads to `t`. Every
source of nondeterminism (who moves, what a callee answers) is part of the action,
so a run is a list of actions, and an invariant is proved for one step and lifted
once, here. Nothing below depends on what is being run.
-/
namespace Runs

variable {S A O : Type*}

/-- Execute a list of actions; `none` as soon as one of them is not enabled. -/
def run (step : S → A → Option S) : S → List A → Option S
  | s, [] => some s
  | s, a :: as => (step s a).bind fun t => run step t as

/-- Every state a run passes through, the first and the last one included. -/
def trail (step : S → A → Option S) : S → List A → List S
  | s, [] => [s]
  | s, a :: as => s :: (step s a).elim [] fun t => trail step t as

/-- What an observer of single steps writes down along a run. -/
def outputs (step : S → A → Option S) (out : S → A → Option O) : S → List A → List O
  | _, [] => []
  | s, a :: as => (out s a).toList ++ (step s a).elim [] fun t => outputs step out t as

/-- `C` holds of every action at the state it is taken from. -/
def Along (step : S → A → Option S) (C : S → A → Prop) : S → List A → Prop
  | _, [] => True
  | s, a :: as => C s a ∧ (step s a).elim True fun t => Along step C t as

variable {step : S → A → Option S} {C : S → A → Prop}

instance decidableAlong [∀ s a, Decidable (C s a)] :
    (s : S) → (as : List A) → Decidable (Along step C s as)
  | _, [] => isTrue trivial
  | s, a :: as =>
      have : Decidable ((step s a).elim True fun t => Along step C t as) :=
        match step s a with
        | none => isTrue trivial
        | some t => decidableAlong t as
      inferInstanceAs (Decidable (_ ∧ _))

theorem run_append (s : S) (as bs : List A) :
    run step s (as ++ bs) = (run step s as).bind fun t => run step t bs := by
  induction as generalizing s with
  | nil => rfl
  | cons a as ih =>
      simp only [List.cons_append, run, Option.bind_assoc]
      congr 1
      funext t
      exact ih t

theorem run_concat (s : S) (as : List A) (a : A) :
    run step s (as ++ [a]) = (run step s as).bind fun t => step t a := by
  rw [run_append]
  congr 1
  funext t
  simp only [run]
  cases step t a <;> rfl

theorem run_concat_some {s u : S} {as : List A} {a : A} :
    run step s (as ++ [a]) = some u ↔ ∃ t, run step s as = some t ∧ step t a = some u := by
  rw [run_concat, Option.bind_eq_some_iff]

theorem trail_concat {s t u : S} {as : List A} {a : A} (hr : run step s as = some t)
    (hs : step t a = some u) : trail step s (as ++ [a]) = trail step s as ++ [u] := by
  induction as generalizing s with
  | nil =>
      cases hr
      simp [trail, hs]
  | cons b as ih =>
      obtain ⟨m, hm, hr⟩ := Option.bind_eq_some_iff.mp hr
      simp only [List.cons_append, trail, hm, Option.elim_some, ih hr]

theorem outputs_concat {out : S → A → Option O} {s t : S} {as : List A} (a : A)
    (hr : run step s as = some t) :
    outputs step out s (as ++ [a]) = outputs step out s as ++ (out t a).toList := by
  induction as generalizing s with
  | nil =>
      obtain rfl := Option.some.inj hr
      cases hs : step s a <;> simp [outputs, hs]
  | cons b as ih =>
      obtain ⟨m, hm, hr⟩ := Option.bind_eq_some_iff.mp hr
      simp only [List.cons_append, outputs, hm, Option.elim_some, ih hr, List.append_assoc]

theorem outputs_append {out : S → A → Option O} {s t : S} {as : List A} (bs : List A)
    (hr : run step s as = some t) :
    outputs step out s (as ++ bs) = outputs step out s as ++ outputs step out t bs := by
  induction as generalizing s with
  | nil =>
      obtain rfl := Option.some.inj hr
      rfl
  | cons a as ih =>
      obtain ⟨m, hm, hr⟩ := Option.bind_eq_some_iff.mp hr
      simp only [List.cons_append, outputs, hm, Option.elim_some, ih hr, List.append_assoc]

theorem along_append {s t : S} {as bs : List A} (hr : run step s as = some t) :
    Along step C s (as ++ bs) ↔ Along step C s as ∧ Along step C t bs := by
  induction as generalizing s with
  | nil =>
      cases hr
      simp [Along]
  | cons b as ih =>
      obtain ⟨m, hm, hr⟩ := Option.bind_eq_some_iff.mp hr
      simp only [List.cons_append, Along, hm, Option.elim_some, ih hr, and_assoc]

theorem along_true (s : S) (as : List A) : Along step (fun _ _ => True) s as := by
  induction as generalizing s with
  | nil => trivial
  | cons a as ih =>
      refine ⟨trivial, ?_⟩
      cases step s a with
      | none => trivial
      | some t => exact ih t

theorem along_of_forall {P : A → Prop} (s : S) {as : List A} (h : ∀ a ∈ as, P a) :
    Along step (fun _ a => P a) s as := by
  induction as generalizing s with
  | nil => trivial
  | cons a as ih =>
      obtain ⟨ha, has⟩ := List.forall_mem_cons.mp h
      refine ⟨ha, ?_⟩
      cases step s a with
      | none => trivial
      | some t => exact ih t has

/-- What an invariant adds to a condition that every action of a run meets. -/
theorem along_of_invariant {D : S → A → Prop} {I : S → Prop} {s : S} {as : List A}
    (hc : Along step C s as) (start : I s)
    (keep : ∀ s a t, I s → C s a → step s a = some t → I t)
    (next : ∀ s a, I s → C s a → D s a) : Along step D s as := by
  induction as generalizing s with
  | nil => trivial
  | cons a as ih =>
      obtain ⟨ha, has⟩ := hc
      refine ⟨next s a start ha, ?_⟩
      cases hs : step s a with
      | none => trivial
      | some t =>
          rw [hs] at has
          exact ih has (keep s a t start ha hs)

theorem last_mem_trail {s t : S} {as : List A} (hr : run step s as = some t) :
    t ∈ trail step s as := by
  induction as generalizing s with
  | nil =>
      cases hr
      exact List.mem_singleton_self _
  | cons a as ih =>
      obtain ⟨m, hm, hr⟩ := Option.bind_eq_some_iff.mp hr
      simp only [trail, hm, Option.elim_some, List.mem_cons]
      exact Or.inr (ih hr)

theorem outputs_eq_nil {out : S → A → Option O} {s : S} {as : List A}
    (h : Along step (fun s a => out s a = none) s as) : outputs step out s as = [] := by
  induction as generalizing s with
  | nil => rfl
  | cons a as ih =>
      obtain ⟨ha, has⟩ := h
      rw [outputs, ha, Option.toList_none, List.nil_append]
      cases hs : step s a with
      | none => rfl
      | some t =>
          rw [hs] at has
          exact ih has

/-- The induction rule for what relates the actions taken so far to the state reached.
It follows the run from its start, one action at a time, and may use that every action
met `C`. -/
theorem run_induction {s t : S} {as : List A} {I : List A → S → Prop}
    (hc : Along step C s as) (hr : run step s as = some t) (start : I [] s)
    (next : ∀ as t a u, run step s as = some t → I as t → C t a → step t a = some u →
      I (as ++ [a]) u) : I as t := by
  induction as using List.reverseRecOn generalizing t with
  | nil => cases hr; exact start
  | append_singleton as a ih =>
      obtain ⟨m, hm, hs⟩ := run_concat_some.mp hr
      obtain ⟨hp, ha⟩ := (along_append hm).mp hc
      exact next as m a t hm (ih hp hm) ha.1 hs

/-- The special case of a property of the state alone. -/
theorem run_invariant {s t : S} {as : List A} {I : S → Prop}
    (hc : Along step C s as) (hr : run step s as = some t) (start : I s)
    (keep : ∀ s a t, I s → C s a → step s a = some t → I t) : I t :=
  run_induction (I := fun _ s => I s) hc hr start fun _ s a t _ hi ha hs => keep s a t hi ha hs

/-- An invariant under which every action is enabled rules out stuck runs. -/
theorem run_total {I : S → Prop} (keep : ∀ s a, I s → ∃ t, step s a = some t ∧ I t) {s : S}
    (h : I s) (as : List A) : ∃ t, run step s as = some t ∧ I t := by
  induction as generalizing s with
  | nil => exact ⟨s, rfl, h⟩
  | cons a as ih =>
      obtain ⟨m, hm, hi⟩ := keep s a h
      obtain ⟨t, ht, hit⟩ := ih hi
      exact ⟨t, by simp only [run, hm, Option.bind_some, ht], hit⟩

end Runs
