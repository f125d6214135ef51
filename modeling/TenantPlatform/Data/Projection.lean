import TenantPlatform.Data.Table

/-! # Tables seen through a function

Two tables whose rows look the same through `f`, key by key. What is done to both without
looking further keeps them so. -/

namespace Table

variable {α β : Type} {f : α → β} {t t' : Table α}

structure SameThrough (f : α → β) (t t' : Table α) : Prop where
  next : t'.next = t.next
  get : ∀ id, (t'.get id).map f = (t.get id).map f

namespace SameThrough

theorem fresh (h : t.SameThrough f t') (want : ℕ) : t'.fresh want = t.fresh want := by
  rw [Table.fresh, Table.fresh, h.next]

theorem reserve (h : t.SameThrough f t') (want : ℕ) :
    (t.reserve want).SameThrough f (t'.reserve want) :=
  ⟨by rw [next_reserve, next_reserve, h.fresh], h.get⟩

theorem put (h : t.SameThrough f t') (id : ℕ) (a : α) :
    (t.put id a).SameThrough f (t'.put id a) := by
  refine ⟨congrArg (fun n => max n (id + 1)) h.next, fun j => ?_⟩
  rw [get_put, get_put]
  split
  · rfl
  · exact h.get j

theorem keep (h : t.SameThrough f t') {p : ℕ → α → Bool} {q : ℕ → β → Bool}
    (hp : ∀ id a, p id a = q id (f a)) : (t.keep p).SameThrough f (t'.keep p) := by
  have hkeep : ∀ u : Table α, ∀ id,
      ((u.keep p).get id).map f = ((u.get id).map f).filter (q id) := by
    intro u id
    rw [get_keep]
    cases u.get id with
    | none => rfl
    | some a => by_cases hq : q id (f a) = true <;> simp [Option.filter_some, hp, hq]
  exact ⟨h.next, fun id => by rw [hkeep, hkeep, h.get id]⟩

/-- A selection that does not look further shows the same. -/
theorem select (h : t.SameThrough f t') {p : α → Bool} {q : β → Bool} (hp : ∀ a, p a = q (f a)) :
    (t'.select p).map (Prod.map (fun id => id) f) =
      (t.select p).map (Prod.map (fun id => id) f) := by
  have hselect : ∀ u : Table α, (u.select p).map (Prod.map (fun id => id) f) =
      (List.range u.next).filterMap
        (fun id => (((u.get id).map f).filter q).map (fun b => (id, b))) := by
    intro u
    rw [Table.select, List.map_filterMap]
    refine List.filterMap_congr (fun id _ => ?_)
    cases u.get id with
    | none => rfl
    | some a => by_cases hq : q (f a) = true <;> simp [Option.filter_some, hp, hq]
  rw [hselect, hselect, h.next]
  exact List.filterMap_congr (fun id _ => by rw [h.get id])

end SameThrough

end Table
