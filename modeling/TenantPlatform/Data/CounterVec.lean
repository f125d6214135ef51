import Mathlib.Algebra.BigOperators.Group.List.Basic
import Mathlib.Algebra.GroupWithZero.Nat

/-! # Counters by label

A label's counter exists from its first increment on, and stays. -/

variable {κ : Type}

structure CounterVec (κ : Type) where
  series : List (κ × ℕ)
  nodup : (series.map Prod.fst).Nodup

namespace CounterVec

def empty : CounterVec κ := ⟨[], List.nodup_nil⟩

def labels (c : CounterVec κ) : List κ := c.series.map Prod.fst

/-- The sum over all labels. -/
def total (c : CounterVec κ) : ℕ := (c.series.map Prod.snd).sum

@[simp] theorem labels_empty : (empty : CounterVec κ).labels = [] := rfl

@[simp] theorem total_empty : (empty : CounterVec κ).total = 0 := rfl

variable [DecidableEq κ]

/-- The counter of a label, or zero. -/
def count (c : CounterVec κ) (k : κ) : ℕ := (c.series.lookup k).getD 0

@[simp] theorem count_empty (k : κ) : (empty : CounterVec κ).count k = 0 := rfl

/-! ## Increments -/

/-- `WithLabelValues(k).Inc()` on the series. -/
def bump (k : κ) : List (κ × ℕ) → List (κ × ℕ)
  | [] => [(k, 1)]
  | (j, n) :: rest => if j = k then (j, n + 1) :: rest else (j, n) :: bump k rest

theorem mem_bump {k j : κ} {series : List (κ × ℕ)} :
    j ∈ (bump k series).map Prod.fst ↔ j = k ∨ j ∈ series.map Prod.fst := by
  induction series with
  | nil => simp [bump]
  | cons head rest ih =>
      obtain ⟨l, n⟩ := head
      rw [bump]
      split
      · rename_i hl
        subst hl
        simp
      · rw [List.map_cons, List.mem_cons, ih, List.map_cons, List.mem_cons]
        exact or_left_comm

theorem nodup_bump (k : κ) {series : List (κ × ℕ)} (h : (series.map Prod.fst).Nodup) :
    ((bump k series).map Prod.fst).Nodup := by
  induction series with
  | nil => simp [bump]
  | cons head rest ih =>
      obtain ⟨l, n⟩ := head
      rw [List.map_cons, List.nodup_cons] at h
      rw [bump]
      split
      · rw [List.map_cons, List.nodup_cons]
        exact h
      · rename_i hl
        rw [List.map_cons, List.nodup_cons, mem_bump, not_or]
        exact ⟨⟨hl, h.1⟩, ih h.2⟩

theorem sum_bump (k : κ) (series : List (κ × ℕ)) :
    ((bump k series).map Prod.snd).sum = (series.map Prod.snd).sum + 1 := by
  induction series with
  | nil => simp [bump]
  | cons head rest ih =>
      rw [bump]
      split
      · simp only [List.map_cons, List.sum_cons]
        omega
      · simp only [List.map_cons, List.sum_cons, ih]
        omega

theorem lookup_bump (j k : κ) (series : List (κ × ℕ)) : ((bump k series).lookup j).getD 0 =
    (series.lookup j).getD 0 + if j = k then 1 else 0 := by
  induction series with
  | nil =>
      by_cases hj : j = k
      · simp [bump, hj]
      · simp [bump, hj, List.lookup_cons, beq_false_of_ne hj]
  | cons head rest ih =>
      obtain ⟨l, n⟩ := head
      rw [bump]
      by_cases hl : l = k
      · subst hl
        rw [if_pos rfl]
        by_cases hj : j = l
        · simp [hj]
        · simp [hj, List.lookup_cons, beq_false_of_ne hj]
      · rw [if_neg hl]
        by_cases hj : j = l
        · subst hj
          simp [hl]
        · simp only [List.lookup_cons, beq_false_of_ne hj]
          exact ih

def inc (c : CounterVec κ) (k : κ) : CounterVec κ := ⟨bump k c.series, nodup_bump k c.nodup⟩

variable (c : CounterVec κ) (k : κ)

@[simp] theorem mem_labels_inc {j : κ} : j ∈ (c.inc k).labels ↔ j = k ∨ j ∈ c.labels := mem_bump

@[simp] theorem total_inc : (c.inc k).total = c.total + 1 := sum_bump k c.series

theorem count_inc (j : κ) : (c.inc k).count j = c.count j + if j = k then 1 else 0 :=
  lookup_bump j k c.series

end CounterVec
