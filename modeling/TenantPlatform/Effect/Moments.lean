import TenantPlatform.Effect.Concurrent

/-! # Two moments of a run

What relates the trails before and after each step relates any earlier moment of a run to any
later one. -/

namespace Effect

variable {ι E : Type} {R : E → Type} {ε σ : Type} [DecidableEq ι] {S : Semantics E R σ}
  {c₀ c c' : Config ι E R ε σ}

theorem Reach.trans (h : Reach S c₀ c) (h' : Reach S c c') : Reach S c₀ c' := by
  induction h' with
  | init => exact h
  | step _ hs ih => exact ih.step hs

/-- The rule of two moments. What is known of every reachable trail may be used in the step. -/
theorem Reach.between {B : Trail ι E R σ → Prop} {Q : Trail ι E R σ → Trail ι E R σ → Prop}
    (hknown : ∀ c, Reach S c₀ c → B c.trail) (hrefl : ∀ t, Q t t)
    (htrans : ∀ t t' t'', Q t t' → Q t' t'' → Q t t'')
    (hact : ∀ t i e r s, B t → B (t.push i e r s) → S.act e t.state r s → Q t (t.push i e r s))
    (henv : ∀ t s, B t → S.env t.state s → Q t ⟨s, t.events⟩)
    (h : Reach S c₀ c) (h' : Reach S c c') : Q c.trail c'.trail := by
  induction h' with
  | init => exact hrefl _
  | @step c₁ c₂ h₁ hs ih =>
      have hc₁ := h.trans h₁
      have hnext := hknown c₂ (hc₁.step hs)
      refine htrans _ _ _ ih ?_
      cases hs with
      | @act j e k r s hp ha => exact hact c₁.trail j e r s (hknown c₁ hc₁) hnext ha
      | env he => exact henv c₁.trail _ (hknown c₁ hc₁) he

/-- A call between two moments has its own moment between them, right after its answer. -/
theorem Reach.moment (h : Reach S c c') :
    ∀ ev ∈ c'.trail.events, ev ∉ c.trail.events → ∃ m, Reach S c m ∧ Reach S m c' ∧
      m.trail.state = ev.post ∧ S.act ev.call ev.pre ev.answer ev.post := by
  induction h with
  | init => exact fun ev hev hnew => absurd hev hnew
  | @step c₁ c₂ h₁ hs ih =>
      intro ev hev hnew
      have hold : ev ∈ c₁.trail.events → ∃ m, Reach S c m ∧ Reach S m c₂ ∧
          m.trail.state = ev.post ∧ S.act ev.call ev.pre ev.answer ev.post := by
        intro hev
        obtain ⟨m, hm, hrest, hpost⟩ := ih ev hev hnew
        exact ⟨m, hm, hrest.step hs, hpost⟩
      have hlast : Reach S c c₂ := h₁.step hs
      cases hs with
      | act hp ha =>
          rcases List.mem_cons.mp hev with rfl | hev
          · exact ⟨_, hlast, .init, rfl, ha⟩
          · exact hold hev
      | env he => exact hold hev

/-- A discipline that expects nothing of the answers is kept whatever is known of them. -/
theorem Reach.keeps {pool : ι → Prog E R ε Unit} {s₀ : σ} {D : ι → Discipline E R}
    (hpool : ∀ i, (pool i).Along (D i) (fun _ _ => True) (fun _ _ => True) [])
    (hexp : ∀ i τ x, (D i).expects τ x) (hc : Reach S (Config.start pool s₀) c) (i : ι) :
    (D i).Legal (own i c.trail.events) := by
  refine (Reach.legal (D := ⟨fun _ _ => True, fun _ _ => True⟩) (fun c _ i => ?_) hpool
    (fun i τ x _ => hexp i τ x) hc i).1
  induction own i c.trail.events with
  | nil => trivial
  | cons x past ih => exact ⟨trivial, trivial, ih⟩

/-- A discipline that lets programs call what they like, and expects of an answer no more than
the semantics makes sure of. -/
theorem Reach.answers {pool : ι → Prog E R ε Unit} {s₀ : σ} {D : Discipline E R}
    (hmay : ∀ τ e, D.may τ e) (hexp : ∀ e s r s', S.act e s r s' → ∀ τ, D.expects τ ⟨e, r⟩)
    (hc : Reach S (Config.start pool s₀) c) (i : ι) : D.Legal (own i c.trail.events) := by
  have hall : ∀ x ∈ own i c.trail.events, ∀ τ, D.expects τ x := by
    intro x hx
    obtain ⟨ev, hev, -, rfl⟩ := mem_own.mp hx
    exact hexp _ _ _ _ (hc.acts ev hev)
  generalize own i c.trail.events = τ at hall
  induction τ with
  | nil => trivial
  | cons x past ih =>
      exact ⟨hmay past x.call, hall x List.mem_cons_self past,
        ih (fun y hy => hall y (List.mem_cons_of_mem x hy))⟩

end Effect
