import TenantPlatform.Effect.Concurrent

/-! # Programs in lockstep

Two programs make their calls one by one. Wherever they find the state, as long as the two states
are related, their next calls leave related states. As nothing else is assumed of the states,
other programs may run in between. -/

namespace Effect

variable {ι E : Type} {R : E → Type} {ε α β γ δ σ χ ρ : Type}

namespace Prog

/-- The programs make as many calls and end as `W` says. -/
def Lockstep (handler : (e : E) → χ → σ → R e × σ) (I : σ → σ → Prop)
    (W : Except ε α → Except ε β → Prop) : Prog E R ε α → Prog E R ε β → Prop
  | .ret a, .ret b => W (.ok a) (.ok b)
  | .ret a, .raise y => W (.ok a) (.error y)
  | .raise x, .ret b => W (.error x) (.ok b)
  | .raise x, .raise y => W (.error x) (.error y)
  | .call e k, .call e' k' => ∀ o s s', I s s' →
      I (handler e o s).2 (handler e' o s').2 ∧
        (k (handler e o s).1).Lockstep handler I W (k' (handler e' o s').1)
  | _, _ => False

/-- Two results of one kind: values that `M` relates, or the same exception. -/
def Alike (M : α → β → Prop) : Except ε α → Except ε β → Prop
  | .ok a, .ok b => M a b
  | .error x, .error y => x = y
  | _, _ => False

theorem Alike.eq {r r' : Except ε α} (h : Alike (fun a b => a = b) r r') : r = r' := by
  cases r with
  | ok a =>
      cases r' with
      | ok b => exact congrArg Except.ok h
      | error y => exact h.elim
  | error x =>
      cases r' with
      | ok b => exact h.elim
      | error y => exact congrArg Except.error h

variable {handler : (e : E) → χ → σ → R e × σ} {I : σ → σ → Prop}

/-- The rule of sequence. -/
theorem Lockstep.bind {M : α → β → Prop} {W : Except ε γ → Except ε δ → Prop}
    {p : Prog E R ε α} {p' : Prog E R ε β} {f : α → Prog E R ε γ} {f' : β → Prog E R ε δ}
    (hp : p.Lockstep handler I (Alike M) p') (hW : ∀ x, W (.error x) (.error x))
    (hf : ∀ a b, M a b → (f a).Lockstep handler I W (f' b)) :
    (p >>= f).Lockstep handler I W (p' >>= f') := by
  induction p generalizing p' with
  | ret a =>
      cases p' with
      | ret b => exact hf a b hp
      | _ => exact hp.elim
  | raise x =>
      cases p' with
      | raise y =>
          obtain rfl : x = y := hp
          exact hW x
      | _ => exact hp.elim
  | call e k ih =>
      cases p' with
      | call e' k' => exact fun o s s' hI => ⟨(hp o s s' hI).1, ih _ (hp o s s' hI).2⟩
      | _ => exact hp.elim

/-- The rule of exception handlers. -/
theorem Lockstep.tryCatch {M : α → β → Prop} {p : Prog E R ε α} {p' : Prog E R ε β}
    {h : ε → Prog E R ε α} {h' : ε → Prog E R ε β} (hp : p.Lockstep handler I (Alike M) p')
    (hh : ∀ x, (h x).Lockstep handler I (Alike M) (h' x)) :
    (tryCatch p h).Lockstep handler I (Alike M) (tryCatch p' h') := by
  induction p generalizing p' with
  | ret a =>
      cases p' with
      | ret b => exact hp
      | _ => exact hp.elim
  | raise x =>
      cases p' with
      | raise y =>
          obtain rfl : x = y := hp
          exact hh x
      | _ => exact hp.elim
  | call e k ih =>
      cases p' with
      | call e' k' => exact fun o s s' hI => ⟨(hp o s s' hI).1, ih _ (hp o s s' hI).2⟩
      | _ => exact hp.elim

/-- A program whose calls are answered alike in related states keeps in step with itself. -/
theorem Uses.lockstep {allowed : E → Prop} {post : α → Prop} {p : Prog E R ε α}
    (hp : p.Uses allowed post)
    (hstep : ∀ e o s s', allowed e → I s s' → (handler e o s).1 = (handler e o s').1 ∧
      I (handler e o s).2 (handler e o s').2) :
    p.Lockstep handler I (Alike (fun a b => a = b)) p := by
  induction p with
  | ret a => rfl
  | raise x => rfl
  | call e k ih =>
      intro o s s' hI
      obtain ⟨hanswer, hnext⟩ := hstep e o s s' hp.1 hI
      rw [← hanswer]
      exact ⟨hnext, ih _ (hp.2 _)⟩

/-- Of two programs in lockstep both make a call next, or none does. -/
theorem Lockstep.calls {W : Except ε α → Except ε β → Prop} {p : Prog E R ε α} {p' : Prog E R ε β}
    (h : p.Lockstep handler I W p') :
    (∃ e k e' k', p = .call e k ∧ p' = .call e' k' ∧ ∀ o s s', I s s' →
      I (handler e o s).2 (handler e' o s').2 ∧
        (k (handler e o s).1).Lockstep handler I W (k' (handler e' o s').1)) ∨
      (∀ e k, p ≠ .call e k) ∧ ∀ e k, p' ≠ .call e k := by
  cases p with
  | call e k =>
      cases p' with
      | call e' k' => exact .inl ⟨e, k, e', k', rfl, rfl, h⟩
      | _ => exact h.elim
  | ret a =>
      cases p' with
      | call e' k' => exact h.elim
      | _ => exact .inr ⟨nofun, nofun⟩
  | raise x =>
      cases p' with
      | call e' k' => exact h.elim
      | _ => exact .inr ⟨nofun, nofun⟩

/-- Programs in lockstep that run alone. -/
theorem Lockstep.run {W : Except ε α → Except ε β → Prop} {p : Prog E R ε α} {p' : Prog E R ε β}
    (h : p.Lockstep handler I W p') {ω : ℕ → χ} {s s' : σ} (hI : I s s') :
    W (p.run handler ω s).1 (p'.run handler ω s').1 ∧
      I (p.run handler ω s).2 (p'.run handler ω s').2 := by
  induction p generalizing p' s s' ω with
  | ret a =>
      cases p' with
      | call e' k' => exact h.elim
      | _ => exact ⟨h, hI⟩
  | raise x =>
      cases p' with
      | call e' k' => exact h.elim
      | _ => exact ⟨h, hI⟩
  | call e k ih =>
      cases p' with
      | call e' k' =>
          obtain ⟨hnext, hrest⟩ := h (ω 0) s s' hI
          exact ih _ hrest hnext
      | _ => exact h.elim

end Prog

/-! ## Pools -/

/-- Runs a schedule in which the state may also change without a call, as `outside` says. -/
def play [DecidableEq ι] (handler : (e : E) → χ → σ → R e × σ) (outside : ρ → σ → σ) :
    List (ι × χ ⊕ ρ) → Config ι E R ε σ → Config ι E R ε σ
  | [], c => c
  | .inl entry :: rest, c => play handler outside rest (drive handler [entry] c)
  | .inr x :: rest, c => play handler outside rest ⟨c.pool, outside x c.trail.state, c.trail.events⟩

section Play

variable [DecidableEq ι] {handler : (e : E) → χ → σ → R e × σ} {outside : ρ → σ → σ}
  {I : σ → σ → Prop}

/-- What is played is a run. -/
theorem Reach.play {env : σ → σ → Prop} (henv : ∀ x s, env s (outside x s))
    {c₀ c : Config ι E R ε σ} (turns : List (ι × χ ⊕ ρ))
    (h : Reach (Semantics.ofHandler handler env) c₀ c) :
    Reach (Semantics.ofHandler handler env) c₀ (Effect.play handler outside turns c) := by
  induction turns generalizing c with
  | nil => exact h
  | cons turn rest ih =>
      cases turn with
      | inl entry => exact ih (h.drive [entry])
      | inr x => exact ih (h.step (.env (henv x _)))

/-- Two pools at related states, program by program in lockstep. -/
structure Config.Lockstep (handler : (e : E) → χ → σ → R e × σ) (I : σ → σ → Prop)
    (c c' : Config ι E R ε σ) : Prop where
  state : I c.trail.state c'.trail.state
  pool : ∀ i, (c.pool i).Lockstep handler I (fun _ _ => True) (c'.pool i)

theorem drive_call {c : Config ι E R ε σ} {i : ι} {e : E} {k : R e → Prog E R ε Unit}
    (hpool : c.pool i = .call e k) (x : χ) :
    drive handler [(i, x)] c =
      ⟨Function.update c.pool i (k (handler e x c.trail.state).1),
        c.trail.push i e (handler e x c.trail.state).1 (handler e x c.trail.state).2⟩ := by
  simp only [drive, hpool]

theorem drive_ended {c : Config ι E R ε σ} {i : ι} (hpool : ∀ e k, c.pool i ≠ .call e k) (x : χ) :
    drive handler [(i, x)] c = c := by
  unfold drive
  split
  · rename_i e k hp
    exact absurd hp (hpool e k)
  · rfl

theorem Config.Lockstep.drive_one {c c' : Config ι E R ε σ} (h : c.Lockstep handler I c') (i : ι)
    (x : χ) : (drive handler [(i, x)] c).Lockstep handler I (drive handler [(i, x)] c') := by
  rcases (h.pool i).calls with ⟨e, k, e', k', hp, hp', hstep⟩ | ⟨hp, hp'⟩
  · rw [drive_call hp, drive_call hp']
    obtain ⟨hnext, hrest⟩ := hstep x _ _ h.state
    refine ⟨hnext, fun j => ?_⟩
    by_cases hj : j = i
    · subst hj
      simpa only [Function.update_self] using hrest
    · simpa only [Function.update_of_ne hj] using h.pool j
  · rw [drive_ended hp, drive_ended hp']
    exact h

/-- Pools in lockstep stay so whatever is played, if what happens outside keeps the states
related. -/
theorem Config.Lockstep.play {c c' : Config ι E R ε σ} (h : c.Lockstep handler I c')
    (houtside : ∀ x s s', I s s' → I (outside x s) (outside x s')) (turns : List (ι × χ ⊕ ρ)) :
    (play handler outside turns c).Lockstep handler I (play handler outside turns c') := by
  induction turns generalizing c c' with
  | nil => exact h
  | cons turn rest ih =>
      cases turn with
      | inl entry => exact ih (h.drive_one entry.1 entry.2)
      | inr x => exact ih ⟨houtside x _ _ h.state, h.pool⟩

/-! ## What threads have returned on the way

A thread may begin with a program whose value is of interest by itself, such as the response to a
request that leaves a task behind. -/

variable [DecidableEq E] {α : Type} {i : ι} {p p' : Prog E R ε α} {f f' : α → Prog E R ε Unit}
  {c c' : Config ι E R ε σ}

/-- Two threads `i` are abreast of each other in the programs that they begin with, or both are
past them. -/
inductive Config.Abreast (handler : (e : E) → χ → σ → R e × σ) (I : σ → σ → Prop) (i : ι)
    (p p' : Prog E R ε α) (f f' : α → Prog E R ε Unit) (c c' : Config ι E R ε σ) : Prop where
  | within {q q' : Prog E R ε α} (hafter : p.after (own i c.trail.events) = some q)
      (hafter' : p'.after (own i c'.trail.events) = some q')
      (hq : q.Lockstep handler I (Prog.Alike (fun a b => a = b)) q')
      (hpool : c.pool i = q >>= f) (hpool' : c'.pool i = q' >>= f')
  | past (hafter : p.after (own i c.trail.events) = none)
      (hafter' : p'.after (own i c'.trail.events) = none)

theorem Config.Abreast.returned (h : c.Abreast handler I i p p' f f' c') :
    p.returned (own i c.trail.events) = p'.returned (own i c'.trail.events) := by
  cases h with
  | past hafter hafter' => simp only [Prog.returned, hafter, hafter']
  | @within q q' hafter hafter' hq hpool hpool' =>
      simp only [Prog.returned, hafter, hafter']
      cases q with
      | ret a =>
          cases q' with
          | ret b => exact congrArg some hq
          | _ => exact hq.elim
      | raise x =>
          cases q' with
          | raise y => rfl
          | _ => exact hq.elim
      | call e k =>
          cases q' with
          | call e' k' => rfl
          | _ => exact hq.elim

theorem Config.Abreast.drive_one (h : c.Abreast handler I i p p' f f' c')
    (hpools : c.Lockstep handler I c') (j : ι) (x : χ) :
    (drive handler [(j, x)] c).Abreast handler I i p p' f f' (drive handler [(j, x)] c') := by
  rcases (hpools.pool j).calls with ⟨e, k, e', k', hp, hp', -⟩ | ⟨hp, hp'⟩
  swap
  · rw [drive_ended hp, drive_ended hp']
    exact h
  rw [drive_call hp, drive_call hp']
  by_cases hj : j = i
  swap
  · have howns : ∀ (t : Trail ι E R σ) e r s, own i (t.push j e r s).events = own i t.events :=
      fun t e r s => own_cons_of_ne (x := t.event j e r s) hj t.events
    cases h with
    | within hafter hafter' hq hpool hpool' =>
        exact .within (by rwa [howns]) (by rwa [howns]) hq
          ((Function.update_of_ne (Ne.symm hj) _ _).trans hpool)
          ((Function.update_of_ne (Ne.symm hj) _ _).trans hpool')
    | past hafter hafter' => exact .past (by rwa [howns]) (by rwa [howns])
  subst hj
  have howns : ∀ (t : Trail ι E R σ) e r s,
      own j (t.push j e r s).events = ⟨e, r⟩ :: own j t.events :=
    fun t e r s => own_cons_self (t.event j e r s) t.events
  cases h with
  | past hafter hafter' =>
      refine .past ?_ ?_
      · exact (congrArg _ (howns _ _ _ _)).trans (Prog.after_ended (by simp [hafter]) _)
      · exact (congrArg _ (howns _ _ _ _)).trans (Prog.after_ended (by simp [hafter']) _)
  | @within q q' hafter hafter' hq hpool hpool' =>
      rcases hq.calls with ⟨e₀, k₀, e₁, k₁, rfl, rfl, hstep⟩ | ⟨hq, hq'⟩
      · obtain ⟨rfl, hk⟩ := Prog.call.inj (hp.symm.trans hpool)
        obtain ⟨rfl, hk'⟩ := Prog.call.inj (hp'.symm.trans hpool')
        obtain rfl := eq_of_heq hk
        obtain rfl := eq_of_heq hk'
        exact .within ((congrArg _ (howns _ _ _ _)).trans (Prog.after_call hafter _))
          ((congrArg _ (howns _ _ _ _)).trans (Prog.after_call hafter' _))
          (hstep x _ _ hpools.state).2 (Function.update_self ..) (Function.update_self ..)
      · -- What the threads call now, they call after these programs.
        refine .past ?_ ?_
        · exact (congrArg _ (howns _ _ _ _)).trans (Prog.after_ended (by simpa [hafter]) _)
        · exact (congrArg _ (howns _ _ _ _)).trans (Prog.after_ended (by simpa [hafter']) _)

/-- Threads stay abreast whatever is played. -/
theorem Config.Abreast.play (h : c.Abreast handler I i p p' f f' c')
    (hpools : c.Lockstep handler I c')
    (houtside : ∀ x s s', I s s' → I (outside x s) (outside x s')) (turns : List (ι × χ ⊕ ρ)) :
    (play handler outside turns c).Abreast handler I i p p' f f'
      (play handler outside turns c') := by
  induction turns generalizing c c' with
  | nil => exact h
  | cons turn rest ih =>
      cases turn with
      | inl entry =>
          exact ih (h.drive_one hpools entry.1 entry.2) (hpools.drive_one entry.1 entry.2)
      | inr x =>
          refine ih ?_ ⟨houtside x _ _ hpools.state, hpools.pool⟩
          cases h with
          | within hafter hafter' hq hpool hpool' =>
              exact .within hafter hafter' hq hpool hpool'
          | past hafter hafter' => exact .past hafter hafter'

end Play

end Effect
