import TenantPlatform.Effect.Prog

/-! # The calls of a run

What a program that runs alone has called, in order, with the answers. -/

namespace Effect.Prog

variable {E : Type} {R : E → Type} {ε α β σ χ : Type} {handler : (e : E) → χ → σ → R e × σ}

def trace (handler : (e : E) → χ → σ → R e × σ) :
    Prog E R ε α → (ℕ → χ) → σ → List (Exchange E R)
  | .ret _, _, _ => []
  | .raise _, _, _ => []
  | .call e k, ω, s =>
      ⟨e, (handler e (ω 0) s).1⟩ ::
        (k (handler e (ω 0) s).1).trace handler (fun n => ω (n + 1)) (handler e (ω 0) s).2

@[simp] theorem trace_ret (a : α) (ω : ℕ → χ) (s : σ) :
    (Prog.ret a : Prog E R ε α).trace handler ω s = [] := rfl

@[simp] theorem trace_raise (x : ε) (ω : ℕ → χ) (s : σ) :
    (Prog.raise x : Prog E R ε α).trace handler ω s = [] := rfl

theorem trace_call (e : E) (k : R e → Prog E R ε α) (ω : ℕ → χ) (s : σ) :
    (Prog.call e k).trace handler ω s = ⟨e, (handler e (ω 0) s).1⟩ ::
      (k (handler e (ω 0) s).1).trace handler (fun n => ω (n + 1)) (handler e (ω 0) s).2 := rfl

@[simp] theorem trace_ofExcept (r : Except ε α) (ω : ℕ → χ) (s : σ) :
    (ofExcept r : Prog E R ε α).trace handler ω s = [] := by
  cases r with
  | ok a => rfl
  | error x => rfl

@[simp] theorem run_ofExcept (r : Except ε α) (ω : ℕ → χ) (s : σ) :
    (ofExcept r : Prog E R ε α).run handler ω s = (r, s) := by
  cases r with
  | ok a => rfl
  | error x => rfl

variable {p : Prog E R ε α} {f : α → Prog E R ε β} {ω : ℕ → χ} {s s' : σ} {a : α} {x : ε}

/-- A program that returns hands over to the next one. -/
theorem run_bind_of_ok (h : p.run handler ω s = (.ok a, s')) :
    (p >>= f).run handler ω s =
      (f a).run handler (fun n => ω (n + (p.trace handler ω s).length)) s' := by
  induction p generalizing ω s with
  | ret b =>
      cases h
      rfl
  | raise x => cases h
  | call e k ih =>
      rw [run_call] at h
      rw [call_bind, run_call, ih _ h, trace_call, List.length_cons]
      rfl

theorem trace_bind_of_ok (h : p.run handler ω s = (.ok a, s')) :
    (p >>= f).trace handler ω s = p.trace handler ω s ++
      (f a).trace handler (fun n => ω (n + (p.trace handler ω s).length)) s' := by
  induction p generalizing ω s with
  | ret b =>
      cases h
      rfl
  | raise x => cases h
  | call e k ih =>
      rw [run_call] at h
      rw [call_bind, trace_call, ih _ h, trace_call, List.length_cons]
      rfl

/-- A program that raises is the end of the whole. -/
theorem run_bind_of_error (h : p.run handler ω s = (.error x, s')) :
    (p >>= f).run handler ω s = (.error x, s') := by
  induction p generalizing ω s with
  | ret b => cases h
  | raise y =>
      cases h
      rfl
  | call e k ih =>
      rw [run_call] at h
      rw [call_bind, run_call, ih _ h]

theorem trace_bind_of_error (h : p.run handler ω s = (.error x, s')) :
    (p >>= f).trace handler ω s = p.trace handler ω s := by
  induction p generalizing ω s with
  | ret b => cases h
  | raise y => rfl
  | call e k ih =>
      rw [run_call] at h
      rw [call_bind, trace_call, ih _ h, trace_call]

end Effect.Prog
