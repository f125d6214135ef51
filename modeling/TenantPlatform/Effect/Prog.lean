import Mathlib.Logic.Basic
import Mathlib.Tactic.Common

/-! # Programs that call an environment

A program either returns, raises, or makes one call and continues with the answer.
Nothing is said here about what a call does: that is given by a handler or a
semantics later on, so the same program can be run alone against a script of
outcomes, or interleaved with others. -/

namespace Effect

/-- `E` names the calls, `R e` is the type of the answers to `e`, `ε` the exceptions. -/
inductive Prog (E : Type) (R : E → Type) (ε α : Type) where
  | ret (a : α)
  | raise (x : ε)
  | call (e : E) (k : R e → Prog E R ε α)

/-- One call with its answer. -/
structure Exchange (E : Type) (R : E → Type) where
  call : E
  answer : R call

namespace Prog

variable {E : Type} {R : E → Type} {ε α β σ χ : Type}

protected def bind : Prog E R ε α → (α → Prog E R ε β) → Prog E R ε β
  | .ret a, f => f a
  | .raise x, _ => .raise x
  | .call e k, f => .call e (fun r => (k r).bind f)

/-- Runs the handler when the program raises, and continues unchanged otherwise. -/
protected def tryCatch : Prog E R ε α → (ε → Prog E R ε α) → Prog E R ε α
  | .ret a, _ => .ret a
  | .raise x, h => h x
  | .call e k, h => .call e (fun r => (k r).tryCatch h)

instance : Monad (Prog E R ε) where
  pure := .ret
  bind := .bind

instance : MonadExceptOf ε (Prog E R ε) where
  throw := .raise
  tryCatch := .tryCatch

/-- Raises the exception of an answer that is one. -/
def ofExcept : Except ε α → Prog E R ε α
  | .ok a => .ret a
  | .error x => .raise x

/-! ## Equations -/

@[simp] theorem pure_eq (a : α) : (pure a : Prog E R ε α) = .ret a := rfl

@[simp] theorem throw_eq (x : ε) : (throw x : Prog E R ε α) = .raise x := rfl

@[simp] theorem ret_bind (a : α) (f : α → Prog E R ε β) : (Prog.ret a >>= f) = f a := rfl

@[simp] theorem raise_bind (x : ε) (f : α → Prog E R ε β) :
    (Prog.raise x >>= f) = .raise x := rfl

@[simp] theorem call_bind (e : E) (k : R e → Prog E R ε α) (f : α → Prog E R ε β) :
    (Prog.call e k >>= f) = .call e (fun r => k r >>= f) := rfl

theorem bind_ret (p : Prog E R ε α) : p >>= .ret = p := by
  induction p with
  | ret a => rfl
  | raise x => rfl
  | call e k ih => simp only [call_bind, ih]

@[simp] theorem tryCatch_ret (a : α) (h : ε → Prog E R ε α) :
    tryCatch (Prog.ret a) h = .ret a := rfl

@[simp] theorem tryCatch_raise (x : ε) (h : ε → Prog E R ε α) :
    tryCatch (Prog.raise x) h = h x := rfl

@[simp] theorem tryCatch_call (e : E) (k : R e → Prog E R ε α) (h : ε → Prog E R ε α) :
    tryCatch (Prog.call e k) h = .call e (fun r => tryCatch (k r) h) := rfl

@[simp] theorem ofExcept_ok (a : α) : (ofExcept (.ok a) : Prog E R ε α) = .ret a := rfl

@[simp] theorem ofExcept_error (x : ε) : (ofExcept (.error x) : Prog E R ε α) = .raise x := rfl

/-! ## Running alone

`handler` decides every call from one outcome of a script `ω : ℕ → χ`, which is
consumed from the front. -/

/-- The result and the final state of a program that runs with nobody else. -/
def run (handler : (e : E) → χ → σ → R e × σ) :
    Prog E R ε α → (ℕ → χ) → σ → Except ε α × σ
  | .ret a, _, s => (.ok a, s)
  | .raise x, _, s => (.error x, s)
  | .call e k, ω, s =>
      (k (handler e (ω 0) s).1).run handler (fun n => ω (n + 1)) (handler e (ω 0) s).2

@[simp] theorem run_ret (handler : (e : E) → χ → σ → R e × σ) (a : α) (ω : ℕ → χ) (s : σ) :
    (Prog.ret a : Prog E R ε α).run handler ω s = (.ok a, s) := rfl

@[simp] theorem run_raise (handler : (e : E) → χ → σ → R e × σ) (x : ε) (ω : ℕ → χ) (s : σ) :
    (Prog.raise x : Prog E R ε α).run handler ω s = (.error x, s) := rfl

theorem run_call (handler : (e : E) → χ → σ → R e × σ) (e : E) (k : R e → Prog E R ε α)
    (ω : ℕ → χ) (s : σ) :
    (Prog.call e k).run handler ω s =
      (k (handler e (ω 0) s).1).run handler (fun n => ω (n + 1)) (handler e (ω 0) s).2 := rfl

/-! ## The calls a program can make -/

/-- Every call the program can make, whatever it is answered, is allowed, and every value
it can return satisfies `post`. -/
def Uses (allowed : E → Prop) (post : α → Prop) : Prog E R ε α → Prop
  | .ret a => post a
  | .raise _ => True
  | .call e k => allowed e ∧ ∀ r, (k r).Uses allowed post

@[simp] theorem uses_ret (allowed : E → Prop) (post : α → Prop) (a : α) :
    (Prog.ret a : Prog E R ε α).Uses allowed post ↔ post a := Iff.rfl

@[simp] theorem uses_raise (allowed : E → Prop) (post : α → Prop) (x : ε) :
    (Prog.raise x : Prog E R ε α).Uses allowed post := trivial

@[simp] theorem uses_call (allowed : E → Prop) (post : α → Prop) (e : E)
    (k : R e → Prog E R ε α) :
    (Prog.call e k).Uses allowed post ↔ allowed e ∧ ∀ r, (k r).Uses allowed post := Iff.rfl

theorem uses_bind (allowed : E → Prop) (post : β → Prop) (p : Prog E R ε α)
    (f : α → Prog E R ε β) :
    (p >>= f).Uses allowed post ↔ p.Uses allowed (fun a => (f a).Uses allowed post) := by
  induction p with
  | ret a => exact Iff.rfl
  | raise x => exact Iff.rfl
  | call e k ih => simp only [call_bind, uses_call, ih]

theorem Uses.tryCatch {allowed : E → Prop} {post : α → Prop} {p : Prog E R ε α}
    {h : ε → Prog E R ε α} (hp : p.Uses allowed post) (hh : ∀ x, (h x).Uses allowed post) :
    (tryCatch p h).Uses allowed post := by
  induction p with
  | ret a => exact hp
  | raise x => exact hh x
  | call e k ih => exact ⟨hp.1, fun r => ih r (hp.2 r)⟩

theorem Uses.mono {allowed allowed' : E → Prop} {post post' : α → Prop} {p : Prog E R ε α}
    (hp : p.Uses allowed post) (hcall : ∀ e, allowed e → allowed' e)
    (hpost : ∀ a, post a → post' a) : p.Uses allowed' post' := by
  induction p with
  | ret a => exact hpost a hp
  | raise x => trivial
  | call e k ih => exact ⟨hcall e hp.1, fun r => ih r (hp.2 r)⟩

@[simp] theorem uses_ofExcept (allowed : E → Prop) (post : α → Prop) (r : Except ε α) :
    (ofExcept r : Prog E R ε α).Uses allowed post ↔ ∀ a, r = .ok a → post a := by
  cases r <;> simp

/-- The rule of sequence. -/
theorem Uses.bind {allowed : E → Prop} {M : α → Prop} {post : β → Prop} {p : Prog E R ε α}
    {f : α → Prog E R ε β} (hp : p.Uses allowed M)
    (hf : ∀ a, M a → (f a).Uses allowed post) : (p >>= f).Uses allowed post :=
  (uses_bind allowed post p f).mpr (hp.mono (fun _ h => h) hf)

theorem uses_any (p : Prog E R ε α) : p.Uses (fun _ => True) (fun _ => True) := by
  induction p with
  | ret a => trivial
  | raise x => trivial
  | call e k ih => exact ⟨trivial, ih⟩

/-- What every allowed call preserves is preserved by a run. -/
theorem Uses.run_inv {allowed : E → Prop} {post : α → Prop} {p : Prog E R ε α}
    (hp : p.Uses allowed post) {handler : (e : E) → χ → σ → R e × σ} {I : σ → Prop}
    (hstep : ∀ e o s, allowed e → I s → I (handler e o s).2) {ω : ℕ → χ} {s : σ} (h : I s) :
    I (p.run handler ω s).2 := by
  induction p generalizing ω s with
  | ret a => exact h
  | raise x => exact h
  | call e k ih => exact ih _ (hp.2 _) (hstep e (ω 0) s hp.1 h)

/-! ## Reasoning along the history of a program

A discipline says what a program may call after the calls it has made, and what it may
expect of an answer. `p.Along D Q X τ` speaks about a program that has made the calls `τ`
and goes on as `p`: as long as the answers are as expected, it keeps the discipline, and
`Q` or `X` holds of its history when it returns or raises. -/

end Prog

/-- Histories list the latest call first. -/
structure Discipline (E : Type) (R : E → Type) where
  may : List (Exchange E R) → E → Prop
  expects : List (Exchange E R) → Exchange E R → Prop

/-- A history every call of which kept the discipline and was answered as expected. -/
def Discipline.Legal {E : Type} {R : E → Type} (D : Discipline E R) :
    List (Exchange E R) → Prop
  | [] => True
  | x :: past => D.may past x.call ∧ D.expects past x ∧ D.Legal past

theorem Discipline.Legal.of_append {E : Type} {R : E → Type} {D : Discipline E R}
    {later past : List (Exchange E R)} (h : D.Legal (later ++ past)) : D.Legal past := by
  induction later with
  | nil => exact h
  | cons x later ih => exact ih h.2.2

/-- A discipline that permits more, and expects less of the answers. -/
theorem Discipline.Legal.mono {E : Type} {R : E → Type} {D D' : Discipline E R}
    {τ : List (Exchange E R)} (h : D.Legal τ) (hmay : ∀ past e, D.may past e → D'.may past e)
    (hexp : ∀ past x, D.expects past x → D'.expects past x) : D'.Legal τ := by
  induction τ with
  | nil => trivial
  | cons x past ih => exact ⟨hmay _ _ h.1, hexp _ _ h.2.1, ih h.2.2⟩

namespace Prog

variable {E : Type} {R : E → Type} {ε α β : Type}

def Along (D : Discipline E R) (Q : α → List (Exchange E R) → Prop)
    (X : ε → List (Exchange E R) → Prop) : Prog E R ε α → List (Exchange E R) → Prop
  | .ret a, τ => Q a τ
  | .raise x, τ => X x τ
  | .call e k, τ => D.may τ e ∧ ∀ r, D.expects τ ⟨e, r⟩ → (k r).Along D Q X (⟨e, r⟩ :: τ)

section Along

variable {D : Discipline E R} {Q Q' : α → List (Exchange E R) → Prop}
  {X X' : ε → List (Exchange E R) → Prop} {τ : List (Exchange E R)}

@[simp] theorem along_ret (a : α) : (Prog.ret a).Along D Q X τ ↔ Q a τ := Iff.rfl

@[simp] theorem along_raise (x : ε) : (Prog.raise x).Along D Q X τ ↔ X x τ := Iff.rfl

theorem along_call (e : E) (k : R e → Prog E R ε α) :
    (Prog.call e k).Along D Q X τ ↔
      D.may τ e ∧ ∀ r, D.expects τ ⟨e, r⟩ → (k r).Along D Q X (⟨e, r⟩ :: τ) := Iff.rfl

theorem along_bind (p : Prog E R ε α) (f : α → Prog E R ε β)
    (Q : β → List (Exchange E R) → Prop) :
    (p >>= f).Along D Q X τ ↔ p.Along D (fun a => (f a).Along D Q X) X τ := by
  induction p generalizing τ with
  | ret a => exact Iff.rfl
  | raise x => exact Iff.rfl
  | call e k ih => simp only [call_bind, along_call, ih]

theorem along_tryCatch (p : Prog E R ε α) (h : ε → Prog E R ε α) :
    (tryCatch p h).Along D Q X τ ↔ p.Along D Q (fun x => (h x).Along D Q X) τ := by
  induction p generalizing τ with
  | ret a => exact Iff.rfl
  | raise x => exact Iff.rfl
  | call e k ih => simp only [tryCatch_call, along_call, ih]

theorem Along.mono {p : Prog E R ε α} (h : p.Along D Q X τ) (hQ : ∀ a τ, Q a τ → Q' a τ)
    (hX : ∀ x τ, X x τ → X' x τ) : p.Along D Q' X' τ := by
  induction p generalizing τ with
  | ret a => exact hQ a τ h
  | raise x => exact hX x τ h
  | call e k ih => exact ⟨h.1, fun r hr => ih r (h.2 r hr)⟩

/-- The rule of sequence. -/
theorem Along.bind {p : Prog E R ε α} {f : α → Prog E R ε β}
    {Q : β → List (Exchange E R) → Prop} {M : α → List (Exchange E R) → Prop}
    (hp : p.Along D M X τ) (hf : ∀ a τ, M a τ → (f a).Along D Q X τ) :
    (p >>= f).Along D Q X τ :=
  (along_bind p f Q).mpr (hp.mono hf (fun _ _ h => h))

/-- The rule of exception handlers. -/
theorem Along.tryCatch {p : Prog E R ε α} {h : ε → Prog E R ε α}
    {M : ε → List (Exchange E R) → Prop} (hp : p.Along D Q M τ)
    (hh : ∀ x τ, M x τ → (h x).Along D Q X τ) : (tryCatch p h).Along D Q X τ :=
  (along_tryCatch p h).mpr (hp.mono (fun _ _ h => h) hh)

/-- A program of calls that are always allowed keeps what these calls keep. -/
theorem Uses.along {allowed : E → Prop} {Q : α → Prop} {p : Prog E R ε α}
    (hp : p.Uses allowed Q) {I : List (Exchange E R) → Prop}
    (hmay : ∀ τ e, allowed e → I τ → D.may τ e)
    (hkeep : ∀ τ x, allowed x.call → I τ → D.expects τ x → I (x :: τ)) (hI : I τ) :
    p.Along D (fun a τ' => Q a ∧ I τ') (fun _ τ' => I τ') τ := by
  induction p generalizing τ with
  | ret a => exact ⟨hp, hI⟩
  | raise x => exact hI
  | call e k ih =>
      exact ⟨hmay τ e hp.1 hI, fun r hr => ih r (hp.2 r) (hkeep τ ⟨e, r⟩ hp.1 hI hr)⟩

end Along

/-! ## Following a history -/

/-- How a program goes on after the calls of a history, if it would have made them. -/
def after [DecidableEq E] (p : Prog E R ε α) : List (Exchange E R) → Option (Prog E R ε α)
  | [] => some p
  | x :: past =>
      match p.after past with
      | some (.call e k) => if h : x.call = e then some (k (h ▸ x.answer)) else none
      | _ => none

theorem after_call [DecidableEq E] {p : Prog E R ε α} {τ : List (Exchange E R)} {e : E}
    {k : R e → Prog E R ε α} (h : p.after τ = some (.call e k)) (r : R e) :
    p.after (⟨e, r⟩ :: τ) = some (k r) := by
  simp only [after, h, dif_pos]

/-- A program that makes no more calls has not come this far. -/
theorem after_ended [DecidableEq E] {p : Prog E R ε α} {τ : List (Exchange E R)}
    (h : ∀ e k, p.after τ ≠ some (.call e k)) (x : Exchange E R) : p.after (x :: τ) = none := by
  unfold after
  split
  · rename_i e k hcall
    exact absurd hcall (h e k)
  · rfl

/-- What a program has returned after the calls of a history. -/
def returned [DecidableEq E] (p : Prog E R ε α) (τ : List (Exchange E R)) : Option α :=
  match p.after τ with
  | some (.ret a) => some a
  | _ => none

/-- What holds along a program holds of how it goes on. -/
theorem Along.after [DecidableEq E] {D : Discipline E R} {Q : α → List (Exchange E R) → Prop}
    {X : ε → List (Exchange E R) → Prop} {p q : Prog E R ε α} {τ τ₀ : List (Exchange E R)}
    (hp : p.Along D Q X τ₀) (hafter : p.after τ = some q) (hlegal : D.Legal (τ ++ τ₀)) :
    q.Along D Q X (τ ++ τ₀) := by
  induction τ generalizing q with
  | nil =>
      obtain rfl := Option.some.inj hafter
      exact hp
  | cons x τ ih =>
      simp only [Prog.after] at hafter
      split at hafter
      · rename_i e k hpast
        split at hafter
        · rename_i heq
          obtain ⟨e', r⟩ := x
          obtain rfl : e' = e := heq
          obtain rfl := Option.some.inj hafter
          exact (ih hpast hlegal.2.2).2 r hlegal.2.1
        · cases hafter
      · cases hafter

theorem Along.returned [DecidableEq E] {D : Discipline E R}
    {Q : α → List (Exchange E R) → Prop} {X : ε → List (Exchange E R) → Prop} {p : Prog E R ε α}
    {τ τ₀ : List (Exchange E R)} {a : α} (hp : p.Along D Q X τ₀) (ha : p.returned τ = some a)
    (hlegal : D.Legal (τ ++ τ₀)) : Q a (τ ++ τ₀) := by
  simp only [Prog.returned] at ha
  split at ha
  · rename_i hafter
    obtain rfl := Option.some.inj ha
    exact hp.after hafter hlegal
  · cases ha

end Prog

end Effect
