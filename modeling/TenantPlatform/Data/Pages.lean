import TenantPlatform.Data.Evolution

/-! # Reading a list in pages while it grows

The pages of a list are read one after another, and between two reads the list may get more
entries at its front. Entries that are pushed back are seen again, and none is skipped. -/

/-- One page of a list: `limit` entries, after `number` pages of that size. -/
def List.pageAt {α : Type} (l : List α) (limit number : ℕ) : List α :=
  (l.drop (number * limit)).take limit

namespace List

variable {α β : Type} {l l' : List α} {limit number j : ℕ} {x : α}

theorem map_pageAt (f : α → β) (l : List α) (limit number : ℕ) :
    (l.pageAt limit number).map f = (l.map f).pageAt limit number := by
  simp [pageAt, List.map_take, List.map_drop]

theorem mem_pageAt_of_getElem? (hx : l[j]? = some x) (hle : number * limit ≤ j)
    (hlt : j < number * limit + limit) : x ∈ l.pageAt limit number := by
  obtain ⟨d, rfl⟩ := Nat.exists_eq_add_of_le hle
  have hd : d < limit := Nat.lt_of_add_lt_add_left hlt
  refine List.mem_iff_getElem?.mpr ⟨d, ?_⟩
  rw [pageAt, List.getElem?_take_of_lt hd, List.getElem?_drop, hx]

/-- A page that is not full is the last. -/
theorem length_lt_of_pageAt (h : (l.pageAt limit number).length < limit) :
    l.length < number * limit + limit := by
  simp only [pageAt, List.length_take, List.length_drop] at h
  omega

theorem getElem?_of_suffix (h : l <:+ l') (hx : l[j]? = some x) :
    ∃ d, l'[j + d]? = some x := by
  obtain ⟨new, rfl⟩ := h
  refine ⟨new.length, ?_⟩
  rw [List.getElem?_append_right (Nat.le_add_left _ _), Nat.add_sub_cancel, hx]

/-- Page by page up to one that is not full, all that was in the list at first is seen. -/
theorem mem_some_pageAt {L : ℕ → List α} {k : ℕ} (hgrow : ∀ i < k, L i <:+ L (i + 1))
    (hlast : ((L k).pageAt limit k).length < limit) (hx : x ∈ L 0) :
    ∃ i ≤ k, x ∈ (L i).pageAt limit i := by
  -- Until it is seen, the entry stands behind the pages that have been read.
  have hbehind : ∀ i ≤ k, (∃ i' ≤ k, x ∈ (L i').pageAt limit i') ∨
      ∃ j, (L i)[j]? = some x ∧ i * limit ≤ j := by
    intro i
    induction i with
    | zero =>
        intro _
        obtain ⟨j, hj⟩ := List.mem_iff_getElem?.mp hx
        exact .inr ⟨j, hj, by omega⟩
    | succ i ih =>
        intro hi
        rcases ih (by omega) with hseen | ⟨j, hj, hle⟩
        · exact .inl hseen
        · rcases Nat.lt_or_ge j (i * limit + limit) with hlt | hge
          · exact .inl ⟨i, by omega, mem_pageAt_of_getElem? hj hle hlt⟩
          · obtain ⟨d, hd⟩ := getElem?_of_suffix (hgrow i hi) hj
            refine .inr ⟨j + d, hd, ?_⟩
            rw [Nat.succ_mul]
            omega
  rcases hbehind k le_rfl with hseen | ⟨j, hj, hle⟩
  · exact hseen
  · have hlength := length_lt_of_pageAt hlast
    have hlt : j < (L k).length := (List.getElem?_eq_some_iff.mp hj).1
    exact ⟨k, le_rfl, mem_pageAt_of_getElem? hj hle (by omega)⟩

end List

namespace Table

variable {α : Type} {R : α → α → Prop} {p : α → Bool}

theorem keys_select (t : Table α) (p : α → Bool) :
    (t.select p).map Prod.fst = (List.range t.next).filter (fun id => (t.get id).any p) := by
  rw [select, List.map_filterMap, ← List.filterMap_eq_filter]
  refine List.filterMap_congr (fun id _ => ?_)
  cases h : t.get id with
  | none => simp [Option.guard, h]
  | some a => by_cases hp : p a = true <;> simp [Option.guard, Option.filter_some, hp, h]

/-- Rows that stay keep their places, and new ones come after them. -/
theorem keys_select_prefix {t t' : Table α} (hevolves : t.Evolves R t')
    (hretains : t.Retains (fun a => p a = true) t') (hp : ∀ a a', R a a' → p a' = p a) :
    (t.select p).map Prod.fst <+: (t'.select p).map Prod.fst := by
  obtain ⟨m, hm⟩ := Nat.exists_eq_add_of_le hevolves.next_le
  rw [keys_select, keys_select, hm, List.range_add, List.filter_append]
  refine ⟨_, congrArg (· ++ _) (List.filter_congr (fun id hid => ?_))⟩
  cases h : t.get id with
  | none =>
      rw [hevolves.gone (List.mem_range.mp hid) h]
  | some a =>
      cases h' : t'.get id with
      | some a' => simp [hp a a' (hevolves.row h h')]
      | none =>
          cases hpa : p a with
          | false => simp [hpa]
          | true =>
              have hthere := hretains id a h hpa
              rw [h'] at hthere
              cases hthere

/-- The rows that satisfy `p`, the newest first, read in pages at moments of a table that
evolves. -/
theorem mem_some_page {t : ℕ → Table α} {k limit : ℕ} (hrefl : ∀ a, R a a)
    (htrans : ∀ a b c, R a b → R b c → R a c) (hp : ∀ a a', R a a' → p a' = p a)
    (hevolves : ∀ i < k, (t i).Evolves R (t (i + 1)))
    (hretains : ∀ i < k, (t i).Retains (fun a => p a = true) (t (i + 1)))
    (hlast : ((((t k).select p).reverse).pageAt limit k).length < limit)
    {id : ℕ} {a : α} (ha : (t 0).get id = some a) (hpa : p a = true) :
    ∃ i ≤ k, ∃ a', (id, a') ∈ (((t i).select p).reverse).pageAt limit i ∧ R a a' := by
  have hsince : ∀ i ≤ k, (t 0).Evolves R (t i) := by
    intro i
    induction i with
    | zero => exact fun _ => .refl hrefl _
    | succ i ih => exact fun hi => (ih (by omega)).trans htrans (hevolves i hi)
  have hkeys : id ∈ ((t 0).select p).reverse.map Prod.fst :=
    List.mem_map.mpr ⟨(id, a), List.mem_reverse.mpr ((mem_select _ _ _ _).mpr ⟨ha, hpa⟩), rfl⟩
  have hgrow : ∀ i < k, ((t i).select p).reverse.map Prod.fst <:+
      ((t (i + 1)).select p).reverse.map Prod.fst := by
    intro i hi
    rw [List.map_reverse, List.map_reverse, List.reverse_suffix]
    exact keys_select_prefix (hevolves i hi) (hretains i hi) hp
  obtain ⟨i, hi, hseen⟩ := List.mem_some_pageAt hgrow
    (by rwa [← List.map_pageAt, List.length_map]) hkeys
  rw [← List.map_pageAt] at hseen
  obtain ⟨⟨id', a'⟩, hrow, rfl⟩ := List.mem_map.mp hseen
  have hmem := List.mem_reverse.mp (List.mem_of_mem_drop (List.mem_of_mem_take hrow))
  exact ⟨i, hi, a', hrow, (hsince i hi).row ha ((mem_select _ _ _ _).mp hmem).1⟩

end Table
