import TenantPlatform.Effect.Prog

/-! # Two runs side by side

Two programs that are given the same outcomes in two states. They keep in step when each
makes as many calls as the other, and the calls may differ and be answered differently on
the way. -/

namespace Effect

namespace Prog

variable {E : Type} {R : E → Type} {ε α β σ χ : Type} {handler : (e : E) → χ → σ → R e × σ}
  {ok : χ → Prop} {s s' : σ}

/-- The programs keep in step and end alike: with the same value, in states related by `Q`,
or with the same exception, in states related by `X`. -/
def Coupled (handler : (e : E) → χ → σ → R e × σ) (ok : χ → Prop) (Q : α → σ → σ → Prop)
    (X : σ → σ → Prop) : Prog E R ε α → Prog E R ε α → σ → σ → Prop
  | .ret a, .ret b, s, s' => a = b ∧ Q a s s'
  | .raise x, .raise y, s, s' => x = y ∧ X s s'
  | .call e k, .call e' k', s, s' => ∀ o, ok o →
      (k (handler e o s).1).Coupled handler ok Q X (k' (handler e' o s').1) (handler e o s).2
        (handler e' o s').2
  | _, _, _, _ => False

theorem Coupled.mono {Q Q' : α → σ → σ → Prop} {X X' : σ → σ → Prop} {p p' : Prog E R ε α}
    (h : p.Coupled handler ok Q X p' s s') (hQ : ∀ a s s', Q a s s' → Q' a s s')
    (hX : ∀ s s', X s s' → X' s s') : p.Coupled handler ok Q' X' p' s s' := by
  induction p generalizing p' s s' with
  | ret a =>
      cases p' with
      | ret b => exact ⟨h.1, hQ _ _ _ h.2⟩
      | _ => exact h
  | raise x =>
      cases p' with
      | raise y => exact ⟨h.1, hX _ _ h.2⟩
      | _ => exact h
  | call e k ih =>
      cases p' with
      | call e' k' => exact fun o ho => ih _ (h o ho)
      | _ => exact h

/-- The rule of sequence. -/
theorem Coupled.bind {M : α → σ → σ → Prop} {Q : β → σ → σ → Prop} {X : σ → σ → Prop}
    {p p' : Prog E R ε α} {f f' : α → Prog E R ε β} (hp : p.Coupled handler ok M X p' s s')
    (hf : ∀ a s s', M a s s' → (f a).Coupled handler ok Q X (f' a) s s') :
    (p >>= f).Coupled handler ok Q X (p' >>= f') s s' := by
  induction p generalizing p' s s' with
  | ret a =>
      cases p' with
      | ret b =>
          obtain ⟨rfl, hM⟩ := hp
          exact hf a s s' hM
      | _ => exact hp.elim
  | raise x =>
      cases p' with
      | raise y => exact hp
      | _ => exact hp.elim
  | call e k ih =>
      cases p' with
      | call e' k' => exact fun o ho => ih _ (hp o ho)
      | _ => exact hp.elim

theorem Coupled.tryCatch {Q : α → σ → σ → Prop} {X Y : σ → σ → Prop} {p p' : Prog E R ε α}
    {h h' : ε → Prog E R ε α} (hp : p.Coupled handler ok Q Y p' s s')
    (hh : ∀ x s s', Y s s' → (h x).Coupled handler ok Q X (h' x) s s') :
    (tryCatch p h).Coupled handler ok Q X (tryCatch p' h') s s' := by
  induction p generalizing p' s s' with
  | ret a =>
      cases p' with
      | ret b => exact hp
      | _ => exact hp.elim
  | raise x =>
      cases p' with
      | raise y =>
          obtain ⟨rfl, hY⟩ := hp
          exact hh x s s' hY
      | _ => exact hp.elim
  | call e k ih =>
      cases p' with
      | call e' k' => exact fun o ho => ih _ (hp o ho)
      | _ => exact hp.elim

/-- A program whose calls are answered alike in related states keeps in step with itself. -/
theorem Uses.coupled {allowed : E → Prop} {post : α → Prop} {p : Prog E R ε α}
    (hp : p.Uses allowed post) {I : σ → σ → Prop}
    (hstep : ∀ e o s s', allowed e → ok o → I s s' → (handler e o s).1 = (handler e o s').1 ∧
      I (handler e o s).2 (handler e o s').2) (h : I s s') :
    p.Coupled handler ok (fun a s s' => post a ∧ I s s') I p s s' := by
  induction p generalizing s s' with
  | ret a => exact ⟨rfl, hp, h⟩
  | raise x => exact ⟨rfl, h⟩
  | call e k ih =>
      intro o ho
      obtain ⟨hanswer, hnext⟩ := hstep e o s s' hp.1 ho h
      rw [← hanswer]
      exact ih _ (hp.2 _) hnext

/-- Programs in step have the same result. -/
theorem Coupled.run {I : σ → σ → Prop} {p p' : Prog E R ε α}
    (h : p.Coupled handler ok (fun _ => I) I p' s s') {ω : ℕ → χ} (hω : ∀ n, ok (ω n)) :
    (p.run handler ω s).1 = (p'.run handler ω s').1 ∧
      I (p.run handler ω s).2 (p'.run handler ω s').2 := by
  induction p generalizing p' s s' ω with
  | ret a =>
      cases p' with
      | ret b => exact ⟨congrArg Except.ok h.1, h.2⟩
      | _ => exact h.elim
  | raise x =>
      cases p' with
      | raise y => exact ⟨congrArg Except.error h.1, h.2⟩
      | _ => exact h.elim
  | call e k ih =>
      cases p' with
      | call e' k' => exact ih _ (h (ω 0) (hω 0)) (fun n => hω (n + 1))
      | _ => exact h.elim

end Prog

end Effect
