import TenantPlatform.Data.Ledger

/-! # References between tables

A row of one table names a row of another by its key, and the two share a value, such as
their owner. Rows may be added and changed as long as the shared value stays, and rows may
be removed from both sides by that value. -/

namespace Table

variable {α β γ : Type} {f : α → γ} {t t' : Table α}

/-- No row is removed, and the value of none changes. -/
structure Grows (f : α → γ) (t t' : Table α) : Prop where
  next_le : t.next ≤ t'.next
  stays : ∀ id a, t.get id = some a → ∃ a', t'.get id = some a' ∧ f a' = f a
  old : ∀ id a', t'.get id = some a' → id < t.next → ∃ a, t.get id = some a ∧ f a = f a'

theorem Grows.refl (f : α → γ) (t : Table α) : t.Grows f t :=
  ⟨le_rfl, fun _ a h => ⟨a, h, rfl⟩, fun _ a h _ => ⟨a, h, rfl⟩⟩

theorem grows_reserve (f : α → γ) (t : Table α) (want : ℕ) : t.Grows f (t.reserve want) :=
  ⟨Nat.le_succ_of_le (t.le_fresh want), fun _ a h => ⟨a, h, rfl⟩, fun _ a h _ => ⟨a, h, rfl⟩⟩

theorem grows_insert (f : α → γ) (t : Table α) (want : ℕ) (a : α) :
    t.Grows f (t.put (t.fresh want) a) where
  next_le := t.next_le_put _ a
  stays id b h := by
    have hne : id ≠ t.fresh want := by
      rintro rfl
      rw [get_fresh] at h
      cases h
    exact ⟨b, (get_put_of_ne t a hne).trans h, rfl⟩
  old id b h hlt := by
    have hne : id ≠ t.fresh want := Nat.ne_of_lt (Nat.lt_of_lt_of_le hlt (t.le_fresh want))
    rw [get_put_of_ne t a hne] at h
    exact ⟨b, h, rfl⟩

theorem grows_update {id : ℕ} {a a' : α} (ha : t.get id = some a) (hf : f a' = f a) :
    t.Grows f (t.put id a') where
  next_le := t.next_le_put id a'
  stays j b h := by
    by_cases hj : j = id
    · subst hj
      obtain rfl := Option.some.inj (ha.symm.trans h)
      exact ⟨a', get_put_self t j a', hf⟩
    · exact ⟨b, (get_put_of_ne t a' hj).trans h, rfl⟩
  old j b h _ := by
    by_cases hj : j = id
    · subst hj
      obtain rfl := Option.some.inj ((get_put_self t j a').symm.trans h)
      exact ⟨a, ha, hf.symm⟩
    · rw [get_put_of_ne t a' hj] at h
      exact ⟨b, h, rfl⟩

/-! ## What is remembered of a row -/

/-- The key has been given out, and the row under it has the value if there still is one. -/
structure Remembers (f : α → γ) (t : Table α) (id : ℕ) (v : γ) : Prop where
  lt_next : id < t.next
  value : ∀ a, t.get id = some a → f a = v

variable {id : ℕ} {v : γ}

theorem remembers_of_get {a : α} (h : t.get id = some a) : t.Remembers f id (f a) :=
  ⟨t.below id a h, fun _ hb => congrArg f (Option.some.inj (hb.symm.trans h))⟩

theorem Remembers.grows (h : t.Remembers f id v) (ht : t.Grows f t') : t'.Remembers f id v := by
  refine ⟨Nat.lt_of_lt_of_le h.lt_next ht.next_le, fun a' ha' => ?_⟩
  obtain ⟨a, ha, heq⟩ := ht.old id a' ha' h.lt_next
  rw [← heq, h.value a ha]

theorem Remembers.keep (h : t.Remembers f id v) (p : ℕ → α → Bool) :
    (t.keep p).Remembers f id v :=
  ⟨h.lt_next, fun a ha => h.value a (Option.filter_eq_some_iff.mp ha).1⟩

/-! ## References -/

/-- Every row of `u` names a row of `t` with the value it has itself. -/
def Refers (key : β → ℕ) (g : β → γ) (f : α → γ) (u : Table β) (t : Table α) : Prop :=
  ∀ id b, u.get id = some b → ∃ a, t.get (key b) = some a ∧ f a = g b

variable {key : β → ℕ} {g : β → γ} {u u' : Table β}

theorem refers_empty : Refers key g f (empty : Table β) t := fun _ _ h => by cases h

theorem Refers.grows (h : Refers key g f u t) (ht : t.Grows f t') : Refers key g f u t' := by
  intro id b hb
  obtain ⟨a, ha, heq⟩ := h id b hb
  obtain ⟨a', ha', heq'⟩ := ht.stays _ a ha
  exact ⟨a', ha', heq'.trans heq⟩

theorem Refers.put (h : Refers key g f u t) {id : ℕ} {b : β}
    (hb : ∃ a, t.get (key b) = some a ∧ f a = g b) : Refers key g f (u.put id b) t := by
  intro j b' hb'
  rw [get_put] at hb'
  split at hb'
  · exact Option.some.inj hb' ▸ hb
  · exact h j b' hb'

/-- Rows are removed from both tables by the value they share. -/
theorem Refers.keep (h : Refers key g f u t) (p : γ → Bool) :
    Refers key g f (u.keep (fun _ b => p (g b))) (t.keep (fun _ a => p (f a))) := by
  intro id b hb
  obtain ⟨hb, hp⟩ := Option.filter_eq_some_iff.mp hb
  obtain ⟨a, ha, heq⟩ := h id b hb
  exact ⟨a, Option.filter_eq_some_iff.mpr ⟨ha, (congrArg p heq).trans hp⟩, heq⟩

end Table
