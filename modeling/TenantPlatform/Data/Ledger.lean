import TenantPlatform.Data.Table

/-! # Tables whose rows have one writer each

Many writers share a table, and each row is written only by the writer that inserted it.
Rows may be deleted by anybody. What a writer remembers of its last write is then what
the table holds, as long as it holds the row at all. -/

/-- Nothing but deletions, and keys drawn without a row. -/
structure Table.Shrinks {α : Type} (t t' : Table α) : Prop where
  next_le : t.next ≤ t'.next
  get_eq : ∀ id, t'.get id = t.get id ∨ t'.get id = none

theorem Table.Shrinks.refl {α : Type} (t : Table α) : t.Shrinks t := ⟨le_rfl, fun _ => .inl rfl⟩

/-- One row is written, and nothing else changes. -/
structure Table.Writes {α : Type} (t t' : Table α) (id : ℕ) (a : α) : Prop where
  next_le : t.next ≤ t'.next
  lt_next : id < t'.next
  get_eq : ∀ j, t'.get j = if j = id then some a else t.get j

theorem Table.writes_put {α : Type} (t : Table α) (id : ℕ) (a : α) :
    t.Writes (t.put id a) id a :=
  ⟨t.next_le_put id a, t.lt_next_put id a, t.get_put id a⟩

variable {ι α : Type}

/-- `last i id` is what writer `i` last wrote to the row `id`. -/
structure Ledger (last : ι → ℕ → Option α) (t : Table α) : Prop where
  below : ∀ i id a, last i id = some a → id < t.next
  agrees : ∀ i id a, last i id = some a → t.get id = none ∨ t.get id = some a
  sole : ∀ i j id a b, last i id = some a → last j id = some b → i = j
  covered : ∀ id a, t.get id = some a → ∃ i, last i id = some a

namespace Ledger

variable {last last' : ι → ℕ → Option α} {t t' : Table α}

theorem start : Ledger (fun (_ : ι) (_ : ℕ) => none) (Table.empty : Table α) where
  below _ _ _ h := by cases h
  agrees _ _ _ h := by cases h
  sole _ _ _ _ _ h := by cases h
  covered _ _ h := by cases h

theorem shrink (h : Ledger last t) (hs : t.Shrinks t') : Ledger last t' where
  below i id a ha := Nat.lt_of_lt_of_le (h.below i id a ha) hs.next_le
  agrees i id a ha := by
    rcases hs.get_eq id with heq | hnone
    · rw [heq]
      exact h.agrees i id a ha
    · exact .inl hnone
  sole := h.sole
  covered id a ha := by
    rcases hs.get_eq id with heq | hnone
    · exact h.covered id a (heq ▸ ha)
    · rw [hnone] at ha
      cases ha

/-- A write to a row that is the writer's own, or nobody's yet. -/
theorem write {i : ι} {id : ℕ} {a : α} [DecidableEq ι] (h : Ledger last t)
    (hw : t.Writes t' id a) (hown : ∀ j b, last j id = some b → j = i)
    (hlast : ∀ j k, last' j k = if j = i ∧ k = id then some a else last j k) :
    Ledger last' t' where
  below j k b hb := by
    rw [hlast] at hb
    split at hb
    · rename_i heq
      rw [heq.2]
      exact hw.lt_next
    · exact Nat.lt_of_lt_of_le (h.below j k b hb) hw.next_le
  agrees j k b hb := by
    rw [hlast] at hb
    rw [hw.get_eq]
    by_cases hk : k = id
    · subst hk
      split at hb
      · simp [hb]
      · rename_i hne
        exact absurd ⟨hown j b hb, rfl⟩ hne
    · simp only [hk, and_false, if_false] at hb ⊢
      exact h.agrees j k b hb
  sole j j' k b b' hb hb' := by
    rw [hlast] at hb hb'
    by_cases hk : k = id
    · subst hk
      have hall : ∀ j b, (if j = i ∧ k = k then some a else last j k) = some b → j = i := by
        intro j b hb
        split at hb
        · rename_i heq
          exact heq.1
        · exact hown j b hb
      rw [hall j b hb, hall j' b' hb']
    · simp only [hk, and_false, if_false] at hb hb'
      exact h.sole j j' k b b' hb hb'
  covered k b hb := by
    rw [hw.get_eq] at hb
    by_cases hk : k = id
    · subst hk
      exact ⟨i, by rw [hlast]; simpa using hb⟩
    · rw [if_neg hk] at hb
      obtain ⟨j, hj⟩ := h.covered k b hb
      exact ⟨j, by rw [hlast]; simpa [hk] using hj⟩

/-- A fresh key is nobody's. -/
theorem fresh (h : Ledger last t) {id : ℕ} (hid : t.next ≤ id) (j : ι) : last j id = none := by
  cases hj : last j id with
  | none => rfl
  | some b => exact absurd (h.below j id b hj) (Nat.not_lt.mpr hid)

theorem owner_of_fresh (h : Ledger last t) {id : ℕ} (hid : t.next ≤ id) (i j : ι) (b : α)
    (hb : last j id = some b) : j = i := by
  rw [h.fresh hid j] at hb
  cases hb

/-- A row that a lookup finds is the one its writer remembers. -/
theorem found (h : Ledger last t) {id : ℕ} {a : α} (hget : t.get id = some a) (i : ι) (b : α)
    (hb : last i id = some b) : a = b := by
  rcases h.agrees i id b hb with hnone | hsome
  · rw [hget] at hnone
    cases hnone
  · rw [hget] at hsome
    exact Option.some.inj hsome

end Ledger
