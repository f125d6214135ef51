import Mathlib.Data.List.Basic
import Mathlib.Data.List.Range
import Mathlib.Tactic.Common

/-! # Tables with generated keys

A key is drawn from a sequence that never goes back, so a key is not used again after
its row is gone. A sequence may skip keys, as it does after a failed insertion. -/

/-- `next` is beyond every key in use. -/
structure Table (α : Type) where
  get : ℕ → Option α
  next : ℕ
  below : ∀ id a, get id = some a → id < next

namespace Table

variable {α : Type}

def empty : Table α := ⟨fun _ => none, 1, fun _ _ h => nomatch h⟩

/-- The key the next row gets when the sequence has moved on to `want` or further. -/
def fresh (t : Table α) (want : ℕ) : ℕ := max want t.next

/-- Draws a key without adding a row. -/
def reserve (t : Table α) (want : ℕ) : Table α where
  get := t.get
  next := t.fresh want + 1
  below id a h := Nat.lt_succ_of_lt (Nat.lt_of_lt_of_le (t.below id a h) (Nat.le_max_right _ _))

def put (t : Table α) (id : ℕ) (a : α) : Table α where
  get j := if j = id then some a else t.get j
  next := max t.next (id + 1)
  below j b h := by
    split at h
    · rename_i hj
      exact Nat.lt_of_lt_of_le (by omega) (Nat.le_max_right _ _)
    · exact Nat.lt_of_lt_of_le (t.below j b h) (Nat.le_max_left _ _)

def modify (t : Table α) (id : ℕ) (f : α → α) : Table α where
  get j := if j = id then (t.get j).map f else t.get j
  next := t.next
  below j b h := by
    split at h
    · obtain ⟨a, ha, -⟩ := Option.map_eq_some_iff.mp h
      exact t.below j a ha
    · exact t.below j b h

/-- The table without the rows that fail `p`. -/
def keep (t : Table α) (p : ℕ → α → Bool) : Table α where
  get j := (t.get j).filter (p j)
  next := t.next
  below j b h := t.below j b (Option.filter_eq_some_iff.mp h).1

/-- The rows that satisfy `p`, in key order. -/
def select (t : Table α) (p : α → Bool) : List (ℕ × α) :=
  (List.range t.next).filterMap (fun id => ((t.get id).filter p).map (fun a => (id, a)))

/-! ## Lookups -/

theorem le_fresh (t : Table α) (want : ℕ) : t.next ≤ t.fresh want := Nat.le_max_right _ _

theorem get_of_next_le {t : Table α} {id : ℕ} (h : t.next ≤ id) : t.get id = none := by
  cases hg : t.get id with
  | none => rfl
  | some a => exact absurd (t.below id a hg) (Nat.not_lt.mpr h)

theorem get_fresh (t : Table α) (want : ℕ) : t.get (t.fresh want) = none :=
  get_of_next_le (t.le_fresh want)

@[simp] theorem get_empty (id : ℕ) : (empty : Table α).get id = none := rfl

@[simp] theorem get_reserve (t : Table α) (want id : ℕ) : (t.reserve want).get id = t.get id := rfl

theorem get_put (t : Table α) (id : ℕ) (a : α) (j : ℕ) :
    (t.put id a).get j = if j = id then some a else t.get j := rfl

@[simp] theorem get_put_self (t : Table α) (id : ℕ) (a : α) : (t.put id a).get id = some a := by
  simp [get_put]

theorem get_put_of_ne (t : Table α) {id j : ℕ} (a : α) (h : j ≠ id) :
    (t.put id a).get j = t.get j := by
  simp [get_put, h]

theorem get_modify (t : Table α) (id : ℕ) (f : α → α) (j : ℕ) :
    (t.modify id f).get j = if j = id then (t.get j).map f else t.get j := rfl

@[simp] theorem get_modify_self (t : Table α) (id : ℕ) (f : α → α) :
    (t.modify id f).get id = (t.get id).map f := by
  simp [get_modify]

theorem get_modify_of_ne (t : Table α) {id j : ℕ} (f : α → α) (h : j ≠ id) :
    (t.modify id f).get j = t.get j := by
  simp [get_modify, h]

theorem get_keep (t : Table α) (p : ℕ → α → Bool) (id : ℕ) :
    (t.keep p).get id = (t.get id).filter (p id) := rfl

@[simp] theorem next_reserve (t : Table α) (want : ℕ) :
    (t.reserve want).next = t.fresh want + 1 := rfl

@[simp] theorem next_modify (t : Table α) (id : ℕ) (f : α → α) : (t.modify id f).next = t.next :=
  rfl

@[simp] theorem next_keep (t : Table α) (p : ℕ → α → Bool) : (t.keep p).next = t.next := rfl

theorem next_le_put (t : Table α) (id : ℕ) (a : α) : t.next ≤ (t.put id a).next :=
  Nat.le_max_left _ _

theorem lt_next_put (t : Table α) (id : ℕ) (a : α) : id < (t.put id a).next :=
  Nat.lt_of_lt_of_le (Nat.lt_succ_self id) (Nat.le_max_right _ _)

/-! ## Selections -/

theorem mem_select (t : Table α) (p : α → Bool) (id : ℕ) (a : α) :
    (id, a) ∈ t.select p ↔ t.get id = some a ∧ p a = true := by
  simp only [select, List.mem_filterMap, List.mem_range, Option.map_eq_some_iff,
    Option.filter_eq_some_iff, Prod.mk.injEq]
  constructor
  · rintro ⟨j, -, b, hb, rfl, rfl⟩
    exact hb
  · intro h
    exact ⟨id, t.below id a h.1, a, h, rfl, rfl⟩

/-- A selection lists every key once, in order. -/
theorem select_pairwise (t : Table α) (p : α → Bool) :
    (t.select p).Pairwise (fun a b => a.1 < b.1) := by
  refine List.pairwise_lt_range.filterMap _ (fun i j hij a ha b hb => ?_)
  obtain ⟨x, -, rfl⟩ := Option.map_eq_some_iff.mp ha
  obtain ⟨y, -, rfl⟩ := Option.map_eq_some_iff.mp hb
  exact hij

/-- At most one row satisfies the condition, so at most one is selected. -/
theorem length_select_le_one {t : Table α} {p : α → Bool}
    (h : ∀ i j a b, t.get i = some a → t.get j = some b → p a = true → p b = true → i = j) :
    (t.select p).length ≤ 1 := by
  have hmem : ∀ r ∈ t.select p, t.get r.1 = some r.2 ∧ p r.2 = true :=
    fun r hr => (t.mem_select p r.1 r.2).mp hr
  match hrows : t.select p with
  | [] => simp
  | [r] => simp
  | r :: r' :: rest =>
      have hlt : r.1 < r'.1 := by
        have hpair := t.select_pairwise p
        rw [hrows] at hpair
        exact List.rel_of_pairwise_cons hpair List.mem_cons_self
      obtain ⟨hr, hpr⟩ := hmem r (by simp [hrows])
      obtain ⟨hr', hpr'⟩ := hmem r' (by simp [hrows])
      exact absurd (h _ _ _ _ hr hr' hpr hpr') hlt.ne

/-- Scanning further than the last key finds nothing more. -/
private theorem scan_eq (g : ℕ → Option (ℕ × α)) (n m : ℕ) (h : ∀ id, n ≤ id → g id = none) :
    (List.range (n + m)).filterMap g = (List.range n).filterMap g := by
  induction m with
  | zero => rfl
  | succ m ih =>
      rw [← Nat.add_assoc, List.range_succ, List.filterMap_append, ih]
      simp [h (n + m) (Nat.le_add_right n m)]

/-- A selection depends only on the rows that satisfy its condition. -/
theorem select_congr {t u : Table α} {p : α → Bool}
    (h : ∀ id, (t.get id).filter p = (u.get id).filter p) : t.select p = u.select p := by
  have hsame : (fun id => ((t.get id).filter p).map (fun a => (id, a))) =
      fun id => ((u.get id).filter p).map (fun a => (id, a)) := by
    funext id
    rw [h id]
  have hbeyond : ∀ (v : Table α) (id : ℕ), v.next ≤ id →
      ((v.get id).filter p).map (fun a => (id, a)) = none := by
    intro v id hid
    rw [get_of_next_le hid]
    rfl
  rcases Nat.le_total t.next u.next with hle | hle
  · obtain ⟨m, hm⟩ := Nat.exists_eq_add_of_le hle
    rw [select, select, hm, ← hsame, scan_eq _ _ _ (hbeyond t)]
  · obtain ⟨m, hm⟩ := Nat.exists_eq_add_of_le hle
    rw [select, select, hm, hsame, scan_eq _ _ _ (hbeyond u)]

/-! ## Adding rows -/

/-- `u` is `t` and the rows, each under a key of its own. -/
def Gains (t u : Table α) (rows : List α) : Prop :=
  ∃ ids : List ℕ, ids.length = rows.length ∧ ids.Pairwise (· < ·) ∧
    (∀ id ∈ ids, t.get id = none) ∧
    ∀ j, u.get j = ((ids.zip rows).lookup j).or (t.get j)

theorem gains_foldl_put (want : ℕ) (rows : List α) (t : Table α) :
    t.Gains (rows.foldl (fun u a => u.put (u.fresh want) a) t) rows := by
  -- the keys grow, since the sequence has passed each key that was drawn
  suffices h : ∃ ids : List ℕ, ids.length = rows.length ∧ ids.Pairwise (· < ·) ∧
      (∀ id ∈ ids, t.next ≤ id) ∧ ∀ j, (rows.foldl (fun u a => u.put (u.fresh want) a) t).get j =
        ((ids.zip rows).lookup j).or (t.get j) by
    obtain ⟨ids, hlength, hpairwise, hnext, hget⟩ := h
    exact ⟨ids, hlength, hpairwise, fun id hid => get_of_next_le (hnext id hid), hget⟩
  induction rows generalizing t with
  | nil => exact ⟨[], rfl, .nil, by simp, fun j => rfl⟩
  | cons a rows ih =>
      obtain ⟨ids, hlength, hpairwise, hnext, hget⟩ := ih (t.put (t.fresh want) a)
      have hlater : ∀ id ∈ ids, t.fresh want < id :=
        fun id hid => Nat.lt_of_lt_of_le (t.lt_next_put _ a) (hnext id hid)
      refine ⟨t.fresh want :: ids, by simp [hlength], List.pairwise_cons.mpr ⟨hlater, hpairwise⟩,
        ?_, ?_⟩
      · intro id hid
        rcases List.mem_cons.mp hid with rfl | hid
        · exact t.le_fresh want
        · exact (t.le_fresh want).trans (hlater id hid).le
      · intro j
        rw [List.foldl_cons, hget, List.zip_cons_cons, List.lookup_cons]
        by_cases hj : j = t.fresh want
        · subst hj
          have hnone : (ids.zip rows).lookup (t.fresh want) = none := by
            rw [List.lookup_eq_none_iff]
            intro p hp
            simpa using (hlater p.1 (List.of_mem_zip hp).1).ne
          simp [hnone]
        · rw [get_put_of_ne _ _ hj, beq_false_of_ne hj]

end Table
