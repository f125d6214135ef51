import TenantPlatform.Effect.Prog
import Mathlib.Logic.Function.Basic

/-! # Interleaved programs

A pool of programs shares one state. One step is one call of one program, or a step
of the environment. The history of all calls is kept beside the state, so that
properties of whole runs are properties of one reachable configuration. -/

namespace Effect

variable {ι E : Type} {R : E → Type} {ε σ χ : Type}

/-- What a call may answer and do to the shared state, and what may happen to the
state without a call. -/
structure Semantics (E : Type) (R : E → Type) (σ : Type) where
  act : (e : E) → σ → R e → σ → Prop
  env : σ → σ → Prop

/-- One call of the program `actor`, with the state before and after it. -/
structure Event (ι E : Type) (R : E → Type) (σ : Type) extends Exchange E R where
  actor : ι
  pre : σ
  post : σ

/-- The shared state and the calls that led to it, the latest first. -/
structure Trail (ι E : Type) (R : E → Type) (σ : Type) where
  state : σ
  events : List (Event ι E R σ)

/-- The calls of one program in a history of all, the latest first. -/
def own [DecidableEq ι] (i : ι) (events : List (Event ι E R σ)) : List (Exchange E R) :=
  (events.filter (fun ev => ev.actor = i)).map Event.toExchange

@[simp] theorem own_nil [DecidableEq ι] (i : ι) : own i ([] : List (Event ι E R σ)) = [] := rfl

@[simp] theorem own_cons_self [DecidableEq ι] (ev : Event ι E R σ)
    (events : List (Event ι E R σ)) :
    own ev.actor (ev :: events) = ev.toExchange :: own ev.actor events := by
  simp [own]

theorem own_cons_of_ne [DecidableEq ι] {i : ι} {x : Event ι E R σ} (h : x.actor ≠ i)
    (events : List (Event ι E R σ)) : own i (x :: events) = own i events := by
  simp [own, h]

theorem mem_own [DecidableEq ι] {i : ι} {events : List (Event ι E R σ)} {x : Exchange E R} :
    x ∈ own i events ↔ ∃ ev ∈ events, ev.actor = i ∧ ev.toExchange = x := by
  simp [own, and_assoc]

theorem own_append [DecidableEq ι] (i : ι) (later past : List (Event ι E R σ)) :
    own i (later ++ past) = own i later ++ own i past := by
  simp [own]

/-- A call that one program made, within the history of all. -/
theorem exists_event_of_own [DecidableEq ι] {i : ι} {events : List (Event ι E R σ)}
    {later past : List (Exchange E R)} {x : Exchange E R}
    (h : own i events = later ++ x :: past) :
    ∃ after ev before, events = after ++ ev :: before ∧ ev.actor = i ∧ ev.toExchange = x ∧
      own i after = later ∧ own i before = past := by
  induction events generalizing later with
  | nil => simp at h
  | cons ev events ih =>
      by_cases hi : ev.actor = i
      · subst hi
        rw [own_cons_self] at h
        cases later with
        | nil =>
            obtain ⟨hx, hpast⟩ := List.cons.inj h
            exact ⟨[], ev, events, rfl, rfl, hx, rfl, hpast⟩
        | cons y later =>
            obtain ⟨hy, hrest⟩ := List.cons.inj h
            obtain ⟨after, ev', before, rfl, hactor, hx, hafter, hbefore⟩ := ih hrest
            refine ⟨ev :: after, ev', before, rfl, hactor, hx, ?_, hbefore⟩
            rw [own_cons_self, hafter, hy]
      · rw [own_cons_of_ne hi] at h
        obtain ⟨after, ev', before, rfl, hactor, hx, hafter, hbefore⟩ := ih h
        refine ⟨ev :: after, ev', before, rfl, hactor, hx, ?_, hbefore⟩
        rw [own_cons_of_ne hi, hafter]

/-- What one program alone contributes to a history can be read off its own calls. -/
theorem filterMap_own [DecidableEq ι] {β : Type} {i : ι} {events : List (Event ι E R σ)}
    {f : Exchange E R → Option β} (h : ∀ ev ∈ events, ev.actor ≠ i → f ev.toExchange = none) :
    events.filterMap (fun ev => f ev.toExchange) = (own i events).filterMap f := by
  induction events with
  | nil => rfl
  | cons ev events ih =>
      have ih := ih (fun ev' hev' => h ev' (List.mem_cons_of_mem _ hev'))
      by_cases hi : ev.actor = i
      · subst hi
        rw [own_cons_self, List.filterMap_cons, List.filterMap_cons, ih]
      · rw [own_cons_of_ne hi, List.filterMap_cons, h ev List.mem_cons_self hi, ih]

/-- The event of a call of `i`. -/
def Trail.event (t : Trail ι E R σ) (i : ι) (e : E) (r : R e) (s : σ) : Event ι E R σ :=
  ⟨⟨e, r⟩, i, t.state, s⟩

/-- The trail after one more call. -/
def Trail.push (t : Trail ι E R σ) (i : ι) (e : E) (r : R e) (s : σ) : Trail ι E R σ :=
  ⟨s, t.event i e r s :: t.events⟩

@[simp] theorem Trail.push_state (t : Trail ι E R σ) (i : ι) (e : E) (r : R e) (s : σ) :
    (t.push i e r s).state = s := rfl

@[simp] theorem Trail.push_events (t : Trail ι E R σ) (i : ι) (e : E) (r : R e) (s : σ) :
    (t.push i e r s).events = t.event i e r s :: t.events := rfl

/-! ## Configurations and reachability -/

structure Config (ι E : Type) (R : E → Type) (ε σ : Type) where
  pool : ι → Prog E R ε Unit
  trail : Trail ι E R σ

/-- Every program is at its start and nothing has been called. -/
def Config.start (pool : ι → Prog E R ε Unit) (s : σ) : Config ι E R ε σ := ⟨pool, s, []⟩

/-- The program has returned or raised. -/
def Config.Ended (c : Config ι E R ε σ) (i : ι) : Prop :=
  (∃ a, c.pool i = .ret a) ∨ ∃ x, c.pool i = .raise x

instance (c : Config ι E R ε σ) (i : ι) : Decidable (c.Ended i) :=
  match h : c.pool i with
  | .ret a => isTrue (.inl ⟨a, h⟩)
  | .raise x => isTrue (.inr ⟨x, h⟩)
  | .call _ _ => isFalse (by rintro (⟨a, ha⟩ | ⟨x, hx⟩) <;> simp_all)

/-- A program that has ended has left a history that its ends allow. -/
theorem Config.Ended.fin {D : Discipline E R} {fin : List (Exchange E R) → Prop}
    {c : Config ι E R ε σ} {i : ι} (hi : c.Ended i) {τ : List (Exchange E R)}
    (h : (c.pool i).Along D (fun _ => fin) (fun _ => fin) τ) : fin τ := by
  rcases hi with ⟨a, ha⟩ | ⟨x, hx⟩
  · rw [ha] at h
    exact h
  · rw [hx] at h
    exact h

inductive Step [DecidableEq ι] (S : Semantics E R σ) :
    Config ι E R ε σ → Config ι E R ε σ → Prop where
  | act {c : Config ι E R ε σ} {i : ι} {e : E} {k : R e → Prog E R ε Unit} {r : R e} {s : σ}
      (hpool : c.pool i = .call e k) (hact : S.act e c.trail.state r s) :
      Step S c ⟨Function.update c.pool i (k r), c.trail.push i e r s⟩
  | env {c : Config ι E R ε σ} {s : σ} (henv : S.env c.trail.state s) :
      Step S c ⟨c.pool, s, c.trail.events⟩

/-- The configurations that some interleaving reaches from `c₀`. -/
inductive Reach [DecidableEq ι] (S : Semantics E R σ) (c₀ : Config ι E R ε σ) :
    Config ι E R ε σ → Prop where
  | init : Reach S c₀ c₀
  | step {c c' : Config ι E R ε σ} : Reach S c₀ c → Step S c c' → Reach S c₀ c'

/-! ## From the discipline of each program to invariants of the whole -/

section Rules

variable [DecidableEq ι] {S : Semantics E R σ} {pool : ι → Prog E R ε Unit} {s₀ : σ}

/-- Programs that keep a discipline are answered as they expect, if an invariant of the
whole makes it so whenever all have kept the discipline so far. -/
theorem Reach.sound {D : Discipline E R} {fin : List (Exchange E R) → Prop}
    {P : Trail ι E R σ → Prop}
    (hpool : ∀ i, (pool i).Along D (fun _ => fin) (fun _ => fin) []) (hinit : P ⟨s₀, []⟩)
    (hact : ∀ t i e r s, P t → D.may (own i t.events) e → S.act e t.state r s →
      D.expects (own i t.events) ⟨e, r⟩ ∧ P (t.push i e r s))
    (henv : ∀ t s, P t → S.env t.state s → P ⟨s, t.events⟩)
    {c : Config ι E R ε σ} (hc : Reach S (Config.start pool s₀) c) :
    P c.trail ∧ ∀ i, D.Legal (own i c.trail.events) ∧
      (c.pool i).Along D (fun _ => fin) (fun _ => fin) (own i c.trail.events) := by
  induction hc with
  | init => exact ⟨hinit, fun i => ⟨trivial, hpool i⟩⟩
  | @step c _ _ hs ih =>
      obtain ⟨hP, hown⟩ := ih
      cases hs with
      | @act j e k r s hp ha =>
          obtain ⟨hlegal, halong⟩ := hown j
          rw [hp] at halong
          obtain ⟨hexp, hP'⟩ := hact c.trail j e r s hP halong.1 ha
          refine ⟨hP', fun i => ?_⟩
          by_cases hj : j = i
          · subst hj
            have heq : own j (c.trail.push j e r s).events = ⟨e, r⟩ :: own j c.trail.events :=
              own_cons_self (c.trail.event j e r s) c.trail.events
            simp only [Function.update_self, heq]
            exact ⟨⟨halong.1, hexp, hlegal⟩, halong.2 r hexp⟩
          · have heq : own i (c.trail.push j e r s).events = own i c.trail.events :=
              own_cons_of_ne (x := c.trail.event j e r s) hj c.trail.events
            simpa only [Function.update_of_ne (Ne.symm hj), heq] using hown i
      | env he => exact ⟨henv c.trail _ hP he, hown⟩

/-- A further discipline for each program, which expects no more of the answers than one that
is known to be kept. -/
theorem Reach.legal {D : Discipline E R} {D' : ι → Discipline E R}
    (hknown : ∀ c, Reach S (Config.start pool s₀) c → ∀ i, D.Legal (own i c.trail.events))
    (hpool : ∀ i, (pool i).Along (D' i) (fun _ _ => True) (fun _ _ => True) [])
    (hexp : ∀ i τ x, D.expects τ x → (D' i).expects τ x) {c : Config ι E R ε σ}
    (hc : Reach S (Config.start pool s₀) c) :
    ∀ i, (D' i).Legal (own i c.trail.events) ∧
      (c.pool i).Along (D' i) (fun _ _ => True) (fun _ _ => True) (own i c.trail.events) := by
  induction hc with
  | init => exact fun i => ⟨trivial, hpool i⟩
  | @step c _ hc hs ih =>
      have hnext := hknown _ (hc.step hs)
      cases hs with
      | @act j e k r s hp ha =>
          intro i
          by_cases hj : j = i
          · subst hj
            have heq : own j (c.trail.push j e r s).events = ⟨e, r⟩ :: own j c.trail.events :=
              own_cons_self (c.trail.event j e r s) c.trail.events
            obtain ⟨hlegal, halong⟩ := ih j
            have hanswer := hnext j
            rw [hp] at halong
            simp only [heq] at hanswer
            have hexp := hexp j _ _ hanswer.2.1
            simp only [Function.update_self, heq]
            exact ⟨⟨halong.1, hexp, hlegal⟩, halong.2 r hexp⟩
          · have heq : own i (c.trail.push j e r s).events = own i c.trail.events :=
              own_cons_of_ne (x := c.trail.event j e r s) hj c.trail.events
            simpa only [Function.update_of_ne (Ne.symm hj), heq] using ih i
      | env he => exact ih

/-- The invariant rule. What is known of every reachable trail may be used in the step. -/
theorem Reach.inv {c₀ : Config ι E R ε σ} {B P : Trail ι E R σ → Prop}
    (hknown : ∀ c, Reach S c₀ c → B c.trail) (hinit : P c₀.trail)
    (hact : ∀ t i e r s, B t → B (t.push i e r s) → P t → S.act e t.state r s →
      P (t.push i e r s))
    (henv : ∀ t s, B t → P t → S.env t.state s → P ⟨s, t.events⟩)
    {c : Config ι E R ε σ} (hc : Reach S c₀ c) : P c.trail := by
  induction hc with
  | init => exact hinit
  | @step c c' hc hs ih =>
      have hnext := hknown c' (hc.step hs)
      cases hs with
      | @act j e k r s hp ha => exact hact c.trail j e r s (hknown c hc) hnext ih ha
      | env he => exact henv c.trail _ (hknown c hc) ih he

/-- The rule of events: each call has a property that can be seen when it is made. -/
theorem Reach.events {B : Trail ι E R σ → Prop} {Q : Event ι E R σ → Prop}
    (hknown : ∀ c, Reach S (Config.start pool s₀) c → B c.trail)
    (hact : ∀ t i e r s, B t → B (t.push i e r s) → S.act e t.state r s → Q (t.event i e r s))
    {c : Config ι E R ε σ} (hc : Reach S (Config.start pool s₀) c) :
    ∀ ev ∈ c.trail.events, Q ev := by
  refine Reach.inv (P := fun t => ∀ ev ∈ t.events, Q ev) hknown (fun ev hev => by cases hev) ?_
    (fun _ _ _ h _ => h) hc
  intro t i e r s hB hB' h ha ev hev
  rcases List.mem_cons.mp hev with rfl | hev
  · exact hact t i e r s hB hB' ha
  · exact h ev hev

/-- Every call in the history was answered as the semantics allows. -/
theorem Reach.acts {c : Config ι E R ε σ} (hc : Reach S (Config.start pool s₀) c) :
    ∀ ev ∈ c.trail.events, S.act ev.call ev.pre ev.answer ev.post :=
  hc.events (B := fun _ => True) (fun _ _ => trivial) (fun _ _ _ _ _ _ _ ha => ha)

end Rules

/-! ## Scripted runs -/

/-- The semantics of a handler: a call answers and does what some outcome decides. -/
def Semantics.ofHandler (handler : (e : E) → χ → σ → R e × σ) (env : σ → σ → Prop) :
    Semantics E R σ where
  act e s r s' := ∃ c, handler e c s = (r, s')
  env := env

/-- Runs a schedule: each entry lets one program make its next call with the given
outcome. Entries for programs that have ended are skipped. -/
def drive [DecidableEq ι] (handler : (e : E) → χ → σ → R e × σ) :
    List (ι × χ) → Config ι E R ε σ → Config ι E R ε σ
  | [], c => c
  | (i, x) :: rest, c =>
      match c.pool i with
      | .call e k =>
          drive handler rest ⟨Function.update c.pool i (k (handler e x c.trail.state).1),
            c.trail.push i e (handler e x c.trail.state).1 (handler e x c.trail.state).2⟩
      | _ => drive handler rest c

theorem Reach.drive [DecidableEq ι] {handler : (e : E) → χ → σ → R e × σ} {env : σ → σ → Prop}
    {c₀ c : Config ι E R ε σ} (schedule : List (ι × χ))
    (h : Reach (Semantics.ofHandler handler env) c₀ c) :
    Reach (Semantics.ofHandler handler env) c₀ (Effect.drive handler schedule c) := by
  induction schedule generalizing c with
  | nil => exact h
  | cons entry rest ih =>
      obtain ⟨i, x⟩ := entry
      unfold Effect.drive
      split
      · rename_i e k hp
        exact ih (h.step (.act hp ⟨x, rfl⟩))
      · exact ih h

end Effect
