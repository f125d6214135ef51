import Mathlib.Data.Set.Basic
import Mathlib.Tactic.Common

/-! # Guards that only add up

A guard selects subjects and allows requests. A subject that no guard selects is open; once
one does, only what some selecting guard allows is permitted. -/

structure Guard (α κ : Type) where
  selects : α → Prop
  allows : κ → Prop

namespace Guard

variable {α κ : Type} {guards : Set (Guard α κ)} {a : α} {k : κ}

/-- Some guard selects the subject. -/
def Isolated (guards : Set (Guard α κ)) (a : α) : Prop := ∃ g ∈ guards, g.selects a

def Permits (guards : Set (Guard α κ)) (a : α) (k : κ) : Prop :=
  Isolated guards a → ∃ g ∈ guards, g.selects a ∧ g.allows k

/-- What is permitted to an isolated subject satisfies a property that all allowed requests
have. -/
theorem Permits.of_isolated {P : κ → Prop} (h : Permits guards a k) (hiso : Isolated guards a)
    (hP : ∀ g ∈ guards, g.selects a → ∀ k, g.allows k → P k) : P k := by
  obtain ⟨g, hg, ha, hk⟩ := h hiso
  exact hP g hg ha k hk

end Guard
