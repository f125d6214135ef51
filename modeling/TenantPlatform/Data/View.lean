import TenantPlatform.Data.Table

/-! # Tables that share some of their rows

Two tables look the same to whoever only sees the rows that satisfy a condition. The same
notion says that a change is confined: the rows that fail the condition are shared. -/

namespace Table

variable {α : Type} {p q : α → Bool} {t u v : Table α}

/-- The rows that satisfy `p` are the same. -/
def SameRows (p : α → Bool) (t u : Table α) : Prop :=
  ∀ id, (t.get id).filter p = (u.get id).filter p

theorem SameRows.refl (p : α → Bool) (t : Table α) : t.SameRows p t := fun _ => rfl

theorem SameRows.symm (h : t.SameRows p u) : u.SameRows p t := fun id => (h id).symm

theorem SameRows.trans (h : t.SameRows p u) (h' : u.SameRows p v) : t.SameRows p v :=
  fun id => (h id).trans (h' id)

theorem SameRows.get (h : t.SameRows p u) {id : ℕ} {a : α} (ha : t.get id = some a)
    (hp : p a = true) : u.get id = some a := by
  have hid := h id
  rw [ha, Option.filter_some, if_pos hp] at hid
  exact (Option.filter_eq_some_iff.mp hid.symm).1

/-- A stronger condition sees less. -/
theorem SameRows.mono (h : t.SameRows q u)
    (ht : ∀ id a, t.get id = some a → p a = true → q a = true)
    (hu : ∀ id a, u.get id = some a → p a = true → q a = true) : t.SameRows p u := by
  intro id
  ext a
  rw [Option.filter_eq_some_iff, Option.filter_eq_some_iff]
  constructor
  · rintro ⟨ha, hp⟩
    exact ⟨h.get ha (ht id a ha hp), hp⟩
  · rintro ⟨ha, hp⟩
    exact ⟨h.symm.get ha (hu id a ha hp), hp⟩

theorem SameRows.select (h : t.SameRows p u) (hpq : ∀ a, q a = true → p a = true) :
    t.select q = u.select q :=
  select_congr (h.mono (fun _ a _ => hpq a) (fun _ a _ => hpq a))

/-- The same row is stored on both sides. -/
theorem SameRows.put (h : t.SameRows p u) (id : ℕ) (a : α) :
    (t.put id a).SameRows p (u.put id a) := by
  intro j
  rw [get_put, get_put]
  split
  · rfl
  · exact h j

theorem SameRows.reserve (h : t.SameRows p u) (want : ℕ) :
    (t.reserve want).SameRows p (u.reserve want) := h

/-- A change of a row that is not seen. -/
theorem sameRows_put {id : ℕ} {a : α} (ha : p a = false)
    (hold : ∀ b, t.get id = some b → p b = false) : t.SameRows p (t.put id a) := by
  intro j
  rw [get_put]
  split
  · rename_i hj
    subst hj
    rw [Option.filter_some, if_neg (by rw [ha]; exact Bool.false_ne_true)]
    cases hb : t.get j with
    | none => rfl
    | some b => rw [Option.filter_some, if_neg (by rw [hold b hb]; exact Bool.false_ne_true)]
  · rfl

/-- The tables give out the same key when the sequences stand at `want` or further. -/
def SameFresh (want : ℕ) (t u : Table α) : Prop := t.fresh want = u.fresh want

theorem SameFresh.put {want : ℕ} (h : t.SameFresh want u) (id : ℕ) (a : α) :
    (t.put id a).SameFresh want (u.put id a) := by
  simp only [SameFresh, fresh, Table.put] at h ⊢
  omega

theorem SameFresh.reserve {want drawn : ℕ} (hdrawn : t.SameFresh drawn u) :
    (t.reserve drawn).SameFresh want (u.reserve drawn) := by
  simp only [SameFresh, fresh, Table.reserve] at hdrawn ⊢
  rw [hdrawn]

/-! ## The same change on both sides -/

/-- Both tables are left alone, draw the same key, or store the same row, which is seen, in
the place of none that is not; or they do so several times. -/
inductive SameChange (p : α → Bool) : Table α → Table α → Table α → Table α → Prop where
  | same {t u : Table α} : SameChange p t u t u
  | reserve {t u : Table α} (want : ℕ) (h : t.SameFresh want u) :
      SameChange p t u (t.reserve want) (u.reserve want)
  | put {t u : Table α} (id : ℕ) (a : α) (ha : p a = true)
      (ht : ∀ b, t.get id = some b → p b = true) (hu : ∀ b, u.get id = some b → p b = true) :
      SameChange p t u (t.put id a) (u.put id a)
  | trans {t u t' u' t'' u'' : Table α} (h : SameChange p t u t' u')
      (h' : SameChange p t' u' t'' u'') : SameChange p t u t'' u''

namespace SameChange

variable {t' u' : Table α}

theorem sameRows (h : SameChange p t u t' u') (hrows : t.SameRows p u) : t'.SameRows p u' := by
  induction h with
  | same => exact hrows
  | reserve want h => exact hrows.reserve want
  | put id a ha ht hu => exact hrows.put id a
  | trans _ _ ih ih' => exact ih' (ih hrows)

theorem left (h : SameChange p t u t' u') (hq : ∀ a, p a = true → q a = false) :
    t.SameRows q t' := by
  induction h with
  | same => exact .refl q _
  | reserve want h => exact .refl q _
  | put id a ha ht hu => exact sameRows_put (hq a ha) (fun b hb => hq b (ht b hb))
  | trans _ _ ih ih' => exact ih.trans ih'

theorem right (h : SameChange p t u t' u') (hq : ∀ a, p a = true → q a = false) :
    u.SameRows q u' := by
  induction h with
  | same => exact .refl q _
  | reserve want h => exact .refl q _
  | put id a ha ht hu => exact sameRows_put (hq a ha) (fun b hb => hq b (hu b hb))
  | trans _ _ ih ih' => exact ih.trans ih'

theorem sameFresh {want : ℕ} (h : SameChange p t u t' u') (hfresh : t.SameFresh want u) :
    t'.SameFresh want u' := by
  induction h with
  | same => exact hfresh
  | reserve drawn h => exact h.reserve
  | put id a ha ht hu => exact hfresh.put id a
  | trans _ _ ih ih' => exact ih' (ih hfresh)

/-- A row that is seen may change, but it stays and is still seen. -/
theorem stays (h : SameChange p t u t' u') {id : ℕ} {a : α} (ha : t.get id = some a)
    (hp : p a = true) : ∃ b, t'.get id = some b ∧ p b = true := by
  induction h generalizing a with
  | same => exact ⟨a, ha, hp⟩
  | reserve want h => exact ⟨a, ha, hp⟩
  | put j b hb ht hu =>
      by_cases hj : id = j
      · exact ⟨b, by rw [get_put, if_pos hj], hb⟩
      · exact ⟨a, by rw [get_put, if_neg hj, ha], hp⟩
  | trans _ _ ih ih' =>
      obtain ⟨b, hb, hpb⟩ := ih ha hp
      exact ih' hb hpb

/-- A new row under a key that both tables give out. -/
theorem insert {want : ℕ} {a : α} (h : t.SameFresh want u) (ha : p a = true) :
    SameChange p t u (t.put (t.fresh want) a) (u.put (u.fresh want) a) := by
  have hu : u.get (t.fresh want) = none := by
    rw [show t.fresh want = u.fresh want from h, get_fresh]
  rw [← show t.fresh want = u.fresh want from h]
  refine .put _ a ha ?_ ?_
  · rw [get_fresh]
    exact fun b hb => by cases hb
  · rw [hu]
    exact fun b hb => by cases hb

/-- New rows, one after another. -/
theorem insertAll {want : ℕ} {rows : List α} (h : t.SameFresh want u)
    (hrows : ∀ a ∈ rows, p a = true) :
    SameChange p t u (rows.foldl (fun t a => t.put (t.fresh want) a) t)
      (rows.foldl (fun t a => t.put (t.fresh want) a) u) := by
  induction rows generalizing t u with
  | nil => exact .same
  | cons a rows ih =>
      have hnew := insert h (hrows a List.mem_cons_self)
      exact hnew.trans (ih (hnew.sameFresh h) (fun b hb => hrows b (List.mem_cons_of_mem a hb)))

end SameChange

end Table
