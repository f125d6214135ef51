import Mathlib.Data.List.Induction

/-! # Runs of a partial step function

A run is `List.foldlM` in `Option`: it goes on as long as each step is possible. -/

namespace Runs

variable {σ α : Type} {step : σ → α → Option σ} {start s : σ} {acts : List α}

theorem foldlM_append_singleton {past : List α} {a : α} :
    (past ++ [a]).foldlM step start = (past.foldlM step start).bind (fun s => step s a) := by
  rw [List.foldlM_append]
  cases past.foldlM step start with
  | none => rfl
  | some s =>
      show (step s a >>= fun s' => pure s') = step s a
      exact bind_pure (step s a)

/-- What holds at the start and is kept by each step holds after a run. The steps before it may be
referred to. -/
theorem invariant {I : List α → σ → Prop} (hstart : I [] start)
    (hstep : ∀ past s a s', past.foldlM step start = some s → I past s → step s a = some s' →
      I (past ++ [a]) s') (hrun : acts.foldlM step start = some s) : I acts s := by
  induction acts using List.reverseRecOn generalizing s with
  | nil =>
      cases hrun
      exact hstart
  | append_singleton past a ih =>
      rw [foldlM_append_singleton] at hrun
      obtain ⟨s', hpast, ha⟩ := Option.bind_eq_some_iff.mp hrun
      exact hstep past s' a s hpast (ih hpast) ha

end Runs
