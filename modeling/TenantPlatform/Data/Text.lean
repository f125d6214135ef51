import Mathlib.Data.List.DropRight
import Mathlib.Data.List.TakeWhile
import Mathlib.Tactic.Common

/-! # Lists cut at separators, and decimals -/

namespace List

variable {α : Type} {c : α} {xs xs' ys ys' : List α}

/-- The first separator cuts a list in one way. -/
theorem append_cons_inj (h : c ∉ xs) (h' : c ∉ xs') (heq : xs ++ c :: ys = xs' ++ c :: ys') :
    xs = xs' ∧ ys = ys' := by
  induction xs generalizing xs' with
  | nil =>
      cases xs' with
      | nil => exact ⟨rfl, (List.cons.inj heq).2⟩
      | cons x' xs' => exact absurd ((List.cons.inj heq).1 ▸ List.mem_cons_self) h'
  | cons x xs ih =>
      cases xs' with
      | nil => exact absurd ((List.cons.inj heq).1 ▸ List.mem_cons_self) h
      | cons x' xs' =>
          obtain ⟨hx, htail⟩ := List.cons.inj heq
          have hrest := ih (fun hc => h (List.mem_cons_of_mem _ hc))
            (fun hc => h' (List.mem_cons_of_mem _ hc)) htail
          exact ⟨by rw [hx, hrest.1], hrest.2⟩

section Cut

variable [DecidableEq α]

/-- What comes before the first separator, and what comes after it. -/
def cut (c : α) (xs : List α) : List α × List α :=
  (xs.takeWhile (fun x => x ≠ c), (xs.dropWhile (fun x => x ≠ c)).drop 1)

/-- What comes before the last separator, and what comes after it. -/
def cutLast (c : α) : List α → Option (List α × List α)
  | [] => none
  | x :: xs =>
      match cutLast c xs with
      | some (before, after) => some (x :: before, after)
      | none => if x = c then some ([], xs) else none

theorem decide_ne_of_notMem (h : c ∉ xs) (x : α) (hx : x ∈ xs) : decide (x ≠ c) = true :=
  decide_eq_true (ne_of_mem_of_not_mem hx h)

theorem cut_append_cons (h : c ∉ xs) (ys : List α) : cut c (xs ++ c :: ys) = (xs, ys) := by
  have hall := decide_ne_of_notMem h
  rw [cut, takeWhile_append_of_pos hall, dropWhile_append_of_pos hall]
  simp

theorem cut_of_notMem (h : c ∉ xs) : cut c xs = (xs, []) := by
  have hall := decide_ne_of_notMem h
  rw [cut, takeWhile_eq_self_iff.mpr hall, dropWhile_eq_nil_iff.mpr hall]
  rfl

theorem cut_append (h : c ∉ xs) (hys : ys = [] ∨ ys.head? = some c) :
    cut c (xs ++ ys) = (xs, ys.tail) := by
  cases ys with
  | nil => rw [append_nil, cut_of_notMem h, tail_nil]
  | cons y ys =>
      obtain rfl : y = c := by simpa using hys
      rw [cut_append_cons h, tail_cons]

theorem append_inj_of_notMem (h : c ∉ xs) (h' : c ∉ xs') (hys : ys = [] ∨ ys.head? = some c)
    (hys' : ys' = [] ∨ ys'.head? = some c) : xs ++ ys = xs' ++ ys' ↔ xs = xs' ∧ ys = ys' := by
  constructor
  · intro heq
    have hcut := cut_append h hys
    rw [heq, cut_append h' hys'] at hcut
    obtain rfl := (Prod.mk.inj hcut).1
    exact ⟨rfl, append_cancel_left heq⟩
  · rintro ⟨rfl, rfl⟩
    rfl

theorem cutLast_eq_none : cutLast c xs = none ↔ c ∉ xs := by
  induction xs with
  | nil => simp [cutLast]
  | cons x xs ih =>
      rw [cutLast, mem_cons, not_or, ← ih]
      cases hrest : cutLast c xs with
      | some cuts => simp
      | none => simp [eq_comm]

/-- The part after the last separator is the one that has no separator in it. -/
theorem cutLast_append_cons (h : c ∉ ys) (xs : List α) :
    cutLast c (xs ++ c :: ys) = some (xs, ys) := by
  induction xs with
  | nil =>
      rw [nil_append, cutLast, cutLast_eq_none.mpr h]
      exact if_pos rfl
  | cons x xs ih => rw [cons_append, cutLast, ih]

theorem of_cutLast (h : cutLast c xs = some (ys, ys')) : xs = ys ++ c :: ys' ∧ c ∉ ys' := by
  induction xs generalizing ys with
  | nil => cases h
  | cons x xs ih =>
      rw [cutLast] at h
      cases hrest : cutLast c xs with
      | some cuts =>
          obtain ⟨before, after⟩ := cuts
          rw [hrest] at h
          cases h
          obtain ⟨rfl, hafter⟩ := ih hrest
          exact ⟨rfl, hafter⟩
      | none =>
          rw [hrest] at h
          dsimp only at h
          split at h
          · rename_i hx
            cases h
            exact ⟨by rw [hx, nil_append], cutLast_eq_none.mp hrest⟩
          · cases h

/-- Splitting at all separators first yields what comes before the first one. -/
theorem length_splitOn (c : α) (xs : List α) : (xs.splitOn c).length = xs.count c + 1 := by
  induction xs with
  | nil => rfl
  | cons x xs ih =>
      rw [splitOn_cons_eq_if_modifyHead, count_cons]
      split
      · rw [length_cons, ih]
      · rw [length_modifyHead, ih, Nat.add_zero]

theorem splitOn_eq_cons (c : α) (xs : List α) : ∃ rest, xs.splitOn c = (xs.cut c).1 :: rest := by
  by_cases hc : c ∈ xs
  · obtain ⟨before, after, rfl, hbefore⟩ := eq_append_cons_of_mem hc
    rw [splitOn_append_cons_self_of_not_mem hbefore, cut_append_cons hbefore]
    exact ⟨_, rfl⟩
  · rw [splitOn_eq_singleton hc, cut_of_notMem hc]
    exact ⟨_, rfl⟩

end Cut

/-- A separator of two elements, where the second one is counted to the element after it. -/
theorem intercalate_pair (c e : α) (x : List α) (xss : List (List α)) :
    [c, e].intercalate (x :: xss) = [c].intercalate (x :: xss.map (fun xs => e :: xs)) := by
  induction xss generalizing x with
  | nil => rfl
  | cons x' xss ih =>
      rw [intercalate_cons_cons, ih, map_cons, intercalate_cons_cons, intercalate_cons_cons_left]
      simp

theorem length_le_intercalate (sep : List α) {xss : List (List α)} (h : ∀ xs ∈ xss, xs ≠ []) :
    xss.length ≤ (sep.intercalate xss).length := by
  induction xss with
  | nil => exact Nat.zero_le _
  | cons xs xss ih =>
      have hpos := length_pos_of_ne_nil (h xs mem_cons_self)
      cases xss with
      | nil =>
          rw [intercalate_singleton]
          exact hpos
      | cons ys xss =>
          have ih := ih (fun zs hzs => h zs (mem_cons_of_mem xs hzs))
          rw [intercalate_cons_cons, length_append, length_append, length_cons]
          omega

theorem forall_mem_intercalate {p : α → Prop} {sep : List α} {xss : List (List α)}
    (hsep : ∀ x ∈ sep, p x) (h : ∀ xs ∈ xss, ∀ x ∈ xs, p x) : ∀ x ∈ sep.intercalate xss, p x := by
  induction xss with
  | nil => exact fun x hx => by cases hx
  | cons xs xss ih =>
      have hrest := ih (fun zs hzs => h zs (mem_cons_of_mem xs hzs))
      cases xss with
      | nil =>
          rw [intercalate_singleton]
          exact h xs mem_cons_self
      | cons ys xss =>
          rw [intercalate_cons_cons]
          simp only [forall_mem_append]
          exact ⟨⟨h xs mem_cons_self, hsep⟩, hrest⟩

/-- An element in its place, and what putting another there or taking it out comes to. -/
theorem split_at_getElem? {l : List α} {i : ℕ} {x : α} (h : l[i]? = some x) :
    ∃ before after, l = before ++ x :: after ∧ l.eraseIdx i = before ++ after ∧
      ∀ y, l.set i y = before ++ y :: after := by
  induction l generalizing i with
  | nil => cases h
  | cons z l ih =>
      cases i with
      | zero =>
          obtain rfl : z = x := by simpa using h
          exact ⟨[], l, rfl, rfl, fun _ => rfl⟩
      | succ i =>
          obtain ⟨before, after, hl, herase, hset⟩ := ih (by simpa using h)
          refine ⟨z :: before, after, ?_, ?_, fun y => ?_⟩
          · rw [hl, List.cons_append]
          · rw [List.eraseIdx_cons_succ, herase, List.cons_append]
          · rw [List.set_cons_succ, hset, List.cons_append]

/-! ## Trimming -/

section Strip

variable {p : α → Bool}

/-- A list without the elements at both of its ends that satisfy `p`. -/
def strip (p : α → Bool) (xs : List α) : List α := (xs.dropWhile p).rdropWhile p

theorem strip_of_forall (h : ∀ x ∈ xs, p x = false) : strip p xs = xs := by
  have hdrop : xs.dropWhile p = xs := by
    cases xs with
    | nil => rfl
    | cons x xs => exact dropWhile_cons_of_neg (by simp [h x mem_cons_self])
  rw [strip, hdrop, rdropWhile_eq_self_iff]
  intro hne
  simp [h _ (getLast_mem hne)]

theorem strip_cons {x : α} (hx : p x = true) (xs : List α) : strip p (x :: xs) = strip p xs := by
  rw [strip, dropWhile_cons_of_pos hx]
  rfl

theorem strip_concat {x : α} (hx : p x = true) (xs : List α) :
    strip p (xs ++ [x]) = strip p xs := by
  rw [strip, strip, dropWhile_append]
  split
  · rename_i hall
    rw [isEmpty_iff.mp hall, dropWhile_cons_of_pos hx]
    rfl
  · rw [rdropWhile_concat_pos _ _ _ hx]

/-- What does not depend on one more element to strip, at either end, does not depend on any. -/
theorem apply_strip {β : Type} {f : List α → β} (hleft : ∀ x xs, p x = true → f (x :: xs) = f xs)
    (hright : ∀ x xs, p x = true → f (xs ++ [x]) = f xs) (xs : List α) : f (strip p xs) = f xs := by
  have hdrop : ∀ xs, f (xs.dropWhile p) = f xs := by
    intro xs
    induction xs with
    | nil => rfl
    | cons x xs ih =>
        by_cases hx : p x = true
        · rw [dropWhile_cons_of_pos hx, ih, hleft x xs hx]
        · rw [dropWhile_cons_of_neg hx]
  have hrdrop : ∀ xs, f (xs.rdropWhile p) = f xs := by
    intro xs
    induction xs using List.reverseRecOn with
    | nil => rfl
    | append_singleton xs x ih =>
        by_cases hx : p x = true
        · rw [rdropWhile_concat_pos _ _ _ hx, ih, hright x xs hx]
        · rw [rdropWhile_concat_neg _ _ _ hx]
  rw [strip, hrdrop, hdrop]

end Strip

end List

namespace Nat

theorem toList_toString (n : ℕ) : (toString n).toList = toDigits 10 n := by simp

theorem toDigits_ten_injective : Function.Injective (toDigits 10) := by
  intro a b h
  rw [← ofDigitChars_ten_toDigits (n := a), h, ofDigitChars_ten_toDigits]

theorem notMem_toDigits {c : Char} (hc : c.isDigit = false) (n : ℕ) : c ∉ toDigits 10 n := by
  intro hmem
  rw [isDigit_of_mem_toDigits (by decide) (by decide) hmem] at hc
  cases hc

end Nat
