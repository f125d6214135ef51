import TenantPlatform.Effect.Prog

/-! # Programs whose calls have fixed answers

Some calls leave the state alone and are answered the same way whatever happens. A program
of such calls can be evaluated, and a run goes through it in one step. -/

namespace Effect.Prog

variable {E : Type} {R : E → Type} {ε α β γ σ χ : Type}

/-- The result of a program each call of which has a fixed answer. -/
def eval (answer : (e : E) → R e) : Prog E R ε α → Except ε α
  | .ret a => .ok a
  | .raise x => .error x
  | .call e k => (k (answer e)).eval answer

variable {answer : (e : E) → R e}

@[simp] theorem eval_ret (a : α) : (Prog.ret a : Prog E R ε α).eval answer = .ok a := rfl

@[simp] theorem eval_raise (x : ε) : (Prog.raise x : Prog E R ε α).eval answer = .error x := rfl

@[simp] theorem eval_call (e : E) (k : R e → Prog E R ε α) :
    (Prog.call e k).eval answer = (k (answer e)).eval answer := rfl

theorem eval_bind (p : Prog E R ε α) (f : α → Prog E R ε β) :
    (p >>= f).eval answer = (p.eval answer >>= fun a => (f a).eval answer) := by
  induction p with
  | ret a => rfl
  | raise x => rfl
  | call e k ih => exact ih (answer e)

/-- A run inside `try` goes on after a program of such calls, or in the handler. -/
theorem run_try_of_uses {allowed : E → Prop} {post : α → Prop} {p : Prog E R ε α}
    (hp : p.Uses allowed post) {handler : (e : E) → χ → σ → R e × σ} {s : σ}
    (hfixed : ∀ e o, allowed e → handler e o s = (answer e, s)) (f : α → Prog E R ε β)
    (h : ε → Prog E R ε β) (g : β → Prog E R ε γ) (ω : ℕ → χ) :
    ∃ n, (tryCatch (p >>= f) h >>= g).run handler ω s =
      match p.eval answer with
      | .ok a => (tryCatch (f a) h >>= g).run handler (fun m => ω (m + n)) s
      | .error x => (h x >>= g).run handler (fun m => ω (m + n)) s := by
  induction p generalizing ω with
  | ret a => exact ⟨0, rfl⟩
  | raise x => exact ⟨0, rfl⟩
  | call e k ih =>
      obtain ⟨n, hn⟩ := ih (answer e) (hp.2 _) (fun m => ω (m + 1))
      refine ⟨n + 1, ?_⟩
      rw [eval_call]
      refine Eq.trans ?_ hn
      simp only [call_bind, tryCatch_call, run_call, hfixed e (ω 0) hp.1]

end Effect.Prog
