import TenantPlatform.Data.References

/-! # What becomes of a table

A key is given out once. The row under it may change along a preorder of values, and it may
go, but nothing else is ever found under that key. -/

namespace Table

variable {α : Type} {R : α → α → Prop} {t t' t'' : Table α}

/-- What is found under an old key is what became of the row that was there. -/
structure Evolves (R : α → α → Prop) (t t' : Table α) : Prop where
  next_le : t.next ≤ t'.next
  old : ∀ id a', t'.get id = some a' → id < t.next → ∃ a, t.get id = some a ∧ R a a'

namespace Evolves

theorem refl (hR : ∀ a, R a a) (t : Table α) : t.Evolves R t :=
  ⟨le_rfl, fun _ a h _ => ⟨a, h, hR a⟩⟩

theorem trans (hR : ∀ a b c, R a b → R b c → R a c) (h : t.Evolves R t')
    (h' : t'.Evolves R t'') : t.Evolves R t'' := by
  refine ⟨h.next_le.trans h'.next_le, fun id a'' ha'' hid => ?_⟩
  obtain ⟨a', ha', hR'⟩ := h'.old id a'' ha'' (Nat.lt_of_lt_of_le hid h.next_le)
  obtain ⟨a, ha, hRa⟩ := h.old id a' ha' hid
  exact ⟨a, ha, hR a a' a'' hRa hR'⟩

/-- A row that is found at both times. -/
theorem row (h : t.Evolves R t') {id : ℕ} {a a' : α} (ha : t.get id = some a)
    (ha' : t'.get id = some a') : R a a' := by
  obtain ⟨b, hb, hR⟩ := h.old id a' ha' (t.below id a ha)
  rw [← Option.some.inj (hb.symm.trans ha)]
  exact hR

/-- A key whose row is gone stays free. -/
theorem gone (h : t.Evolves R t') {id : ℕ} (hid : id < t.next) (hnone : t.get id = none) :
    t'.get id = none := by
  cases ha' : t'.get id with
  | none => rfl
  | some a' =>
      obtain ⟨a, ha, -⟩ := h.old id a' ha' hid
      rw [hnone] at ha
      cases ha

end Evolves

/-- A write to a new key, or to a row that may become what is written. -/
theorem Writes.evolves (hR : ∀ a, R a a) {id : ℕ} {a : α} (h : t.Writes t' id a)
    (ha : t.next ≤ id ∨ ∃ old, t.get id = some old ∧ R old a) : t.Evolves R t' := by
  refine ⟨h.next_le, fun j b hb hj => ?_⟩
  rw [h.get_eq] at hb
  split at hb
  · rename_i heq
    subst heq
    obtain rfl := Option.some.inj hb
    rcases ha with hnew | ⟨old, hold, hRa⟩
    · exact absurd hj (Nat.not_lt.mpr hnew)
    · exact ⟨old, hold, hRa⟩
  · exact ⟨b, hb, hR b⟩

theorem evolves_insert (hR : ∀ a, R a a) (t : Table α) (want : ℕ) (a : α) :
    t.Evolves R (t.put (t.fresh want) a) :=
  (t.writes_put _ a).evolves hR (.inl (t.le_fresh want))

theorem evolves_update (hR : ∀ a, R a a) {id : ℕ} {a a' : α} (ha : t.get id = some a)
    (h : R a a') : t.Evolves R (t.put id a') :=
  (t.writes_put id a').evolves hR (.inr ⟨a, ha, h⟩)

theorem evolves_foldl_put (hR : ∀ a, R a a) (hRt : ∀ a b c, R a b → R b c → R a c) (want : ℕ)
    (rows : List α) (t : Table α) :
    t.Evolves R (rows.foldl (fun u a => u.put (u.fresh want) a) t) := by
  induction rows generalizing t with
  | nil => exact .refl hR t
  | cons a rows ih => exact (evolves_insert hR t want a).trans hRt (ih _)

/-! ## Rows that stay -/

/-- The rows that satisfy `p` are still there. -/
def Retains (p : α → Prop) (t t' : Table α) : Prop :=
  ∀ id a, t.get id = some a → p a → (t'.get id).isSome

variable {p : α → Prop}

theorem Retains.of_put (id : ℕ) (a : α) (t : Table α) : t.Retains p (t.put id a) := by
  intro j b hb _
  rw [get_put]
  split
  · rfl
  · exact Option.isSome_of_eq_some hb

theorem Retains.refl (t : Table α) : t.Retains p t := fun _ _ ha _ => Option.isSome_of_eq_some ha

/-- Rows that stay twice, if they keep what makes them stay. -/
theorem Retains.trans (h : t.Retains p t') (hR : t.Evolves R t')
    (hp : ∀ a a', R a a' → p a → p a') (h' : t'.Retains p t'') : t.Retains p t'' := by
  intro id a ha hpa
  obtain ⟨a', ha'⟩ := Option.isSome_iff_exists.mp (h id a ha hpa)
  exact h' id a' ha' (hp a a' (hR.row ha ha') hpa)

theorem Retains.foldl_put (want : ℕ) (rows : List α) (t : Table α) :
    t.Retains p (rows.foldl (fun u a => u.put (u.fresh want) a) t) := by
  intro id a ha _
  obtain ⟨ids, -, -, -, hget⟩ := gains_foldl_put want rows t
  rw [hget, ha]
  cases (ids.zip rows).lookup id <;> rfl

/-! ## Rows of one kind -/

/-- Every row satisfies `p`. -/
def All (p : α → Prop) (t : Table α) : Prop := ∀ id a, t.get id = some a → p a

theorem all_empty : (empty : Table α).All p := fun _ _ h => by cases h

theorem All.put (h : t.All p) {id : ℕ} {a : α} (ha : p a) : (t.put id a).All p := by
  intro j b hb
  rw [get_put] at hb
  split at hb
  · exact Option.some.inj hb ▸ ha
  · exact h j b hb

theorem All.foldl_put (h : t.All p) (want : ℕ) {rows : List α} (hrows : ∀ a ∈ rows, p a) :
    (rows.foldl (fun u a => u.put (u.fresh want) a) t).All p := by
  induction rows generalizing t with
  | nil => exact h
  | cons a rows ih =>
      exact ih (h.put (hrows a List.mem_cons_self))
        (fun b hb => hrows b (List.mem_cons_of_mem a hb))

/-- No two rows are the same thing. -/
def Unique (same : α → α → Prop) (t : Table α) : Prop :=
  ∀ i j a b, t.get i = some a → t.get j = some b → same a b → i = j

/-! ## One change -/

/-- Rows that fail `Keep` go, new rows come under keys of their own, or one row moves on. -/
inductive Step (Keep : α → Prop) (New : List α → Prop) (Move : ℕ → α → α → Prop)
    (t t' : Table α) : Prop where
  | rest (hnext : t.next ≤ t'.next)
      (hget : ∀ id a, t'.get id = some a ↔ t.get id = some a ∧ Keep a)
  | insert (hkeep : ∀ a, Keep a) (want : ℕ) (rows : List α) (hnew : New rows)
      (heq : t' = rows.foldl (fun u a => u.put (u.fresh want) a) t)
  | update (hkeep : ∀ a, Keep a) (id : ℕ) (old a : α) (hold : t.get id = some old)
      (hmove : Move id old a) (heq : t' = t.put id a)

namespace Step

variable {Keep : α → Prop} {New New' : List α → Prop} {Move Move' : ℕ → α → α → Prop}

theorem of_get (hkeep : ∀ a, Keep a) (hnext : t.next ≤ t'.next) (h : t'.get = t.get) :
    t.Step Keep New Move t' :=
  .rest hnext (fun id a => by simp [h, hkeep a])

theorem of_keep {q : ℕ → α → Bool} (hq : ∀ id a, t.get id = some a → (q id a = true ↔ Keep a)) :
    t.Step Keep New Move (t.keep q) := by
  refine .rest le_rfl (fun id a => ?_)
  rw [get_keep, Option.filter_eq_some_iff]
  exact and_congr_right (fun ha => hq id a ha)

theorem mono (h : t.Step Keep New Move t') (hnew : ∀ rows, New rows → New' rows)
    (hmove : ∀ id old a, t.get id = some old → Move id old a → Move' id old a) :
    t.Step Keep New' Move' t' := by
  cases h with
  | rest hnext hget => exact .rest hnext hget
  | insert hkeep want rows hrows heq => exact .insert hkeep want rows (hnew rows hrows) heq
  | update hkeep id old a hold hm heq =>
      exact .update hkeep id old a hold (hmove id old a hold hm) heq

theorem evolves (hR : ∀ a, R a a) (hRt : ∀ a b c, R a b → R b c → R a c)
    (h : t.Step Keep New Move t')
    (hmove : ∀ id old a, t.get id = some old → Move id old a → R old a) : t.Evolves R t' := by
  cases h with
  | rest hnext hget => exact ⟨hnext, fun id a ha _ => ⟨a, ((hget id a).mp ha).1, hR a⟩⟩
  | insert hkeep want rows hrows heq =>
      rw [heq]
      exact evolves_foldl_put hR hRt want rows t
  | update hkeep id old a hold hm heq =>
      rw [heq]
      exact evolves_update hR hold (hmove id old a hold hm)

theorem retains (h : t.Step Keep New Move t') : t.Retains Keep t' := by
  cases h with
  | rest hnext hget =>
      exact fun id a ha hk => Option.isSome_of_eq_some ((hget id a).mpr ⟨ha, hk⟩)
  | insert hkeep want rows hrows heq =>
      rw [heq]
      exact .foldl_put want rows t
  | update hkeep id old a hold hm heq =>
      rw [heq]
      exact .of_put id a t

/-- What every row has is carried over to the rows that are kept, and checked of the new. -/
theorem all {p' : α → Prop} (h : t.Step Keep New Move t') (hall : t.All p)
    (hkept : ∀ a, p a → Keep a → p' a) (hnew : ∀ rows, New rows → ∀ a ∈ rows, p' a)
    (hmove : ∀ id old a, Move id old a → Keep a → p old → p' a) : t'.All p' := by
  cases h with
  | rest hnext hget =>
      intro id a ha
      obtain ⟨ha, hk⟩ := (hget id a).mp ha
      exact hkept a (hall id a ha) hk
  | insert hkeep want rows hrows heq =>
      rw [heq]
      exact All.foldl_put (fun id a ha => hkept a (hall id a ha) (hkeep a)) want (hnew rows hrows)
  | update hkeep id old a hold hm heq =>
      rw [heq]
      exact All.put (fun j b hb => hkept b (hall j b hb) (hkeep b))
        (hmove id old a hm (hkeep a) (hall id old hold))

theorem unique {same : α → α → Prop} (h : t.Step Keep New Move t') (hu : t.Unique same)
    (hnew : ∀ rows, New rows → ∃ a, rows = [a] ∧
      ∀ id b, t.get id = some b → ¬ same a b ∧ ¬ same b a)
    (hmove : ∀ id old a b, Move id old a → (same a b → same old b) ∧ (same b a → same b old)) :
    t'.Unique same := by
  cases h with
  | rest hnext hget =>
      exact fun i j a b ha hb => hu i j a b ((hget i a).mp ha).1 ((hget j b).mp hb).1
  | insert hkeep want rows hrows heq =>
      obtain ⟨new, rfl, hfree⟩ := hnew rows hrows
      subst heq
      intro i j a b ha hb hab
      rw [List.foldl_cons, List.foldl_nil, get_put] at ha hb
      split at ha <;> split at hb
      · rename_i hi hj
        exact hi.trans hj.symm
      · obtain rfl := Option.some.inj ha
        exact absurd hab (hfree j b hb).1
      · obtain rfl := Option.some.inj hb
        exact absurd hab (hfree i a ha).2
      · exact hu i j a b ha hb hab
  | update hkeep id old new hold hm heq =>
      subst heq
      intro i j a b ha hb hab
      rw [get_put] at ha hb
      split at ha <;> split at hb
      · rename_i hi hj
        exact hi.trans hj.symm
      · rename_i hi hj
        obtain rfl := Option.some.inj ha
        exact hi.trans (hu id j old b hold hb ((hmove id old _ b hm).1 hab))
      · rename_i hi hj
        obtain rfl := Option.some.inj hb
        exact (hu i id a old ha hold ((hmove id old _ a hm).2 hab)).trans hj.symm
      · exact hu i j a b ha hb hab

end Step

end Table
