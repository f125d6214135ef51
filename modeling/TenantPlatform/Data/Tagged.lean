import TenantPlatform.Data.Text

/-! # Values with a tag behind the last separator

A tag is a function of the value. If no tag contains the separator, then a tagged text can be
taken apart in one way, whatever the value contains. -/

namespace List

variable {α β : Type} {c : α} {tag : List α → List α} {s value : List α}

/-- The value, the separator, and the tag of the value. -/
def tagged (c : α) (tag : List α → List α) (value : List α) : List α := value ++ c :: tag value

variable [DecidableEq α]

/-- The value of a text whose tag is the one that belongs to it. -/
def untag (c : α) (tag : List α → List α) (s : List α) : Option (List α) :=
  match s.cutLast c with
  | none => none
  | some (value, found) => if found = tag value then some value else none

section Separated

variable (htag : ∀ value, c ∉ tag value)

include htag

theorem cutLast_tagged (value : List α) :
    (tagged c tag value).cutLast c = some (value, tag value) :=
  cutLast_append_cons (htag value) value

theorem untag_tagged (value : List α) : untag c tag (tagged c tag value) = some value := by
  rw [untag, cutLast_tagged htag]
  exact if_pos rfl

/-- Only a tagged text passes, and only with its own value. -/
theorem untag_eq_some : untag c tag s = some value ↔ s = tagged c tag value := by
  constructor
  · intro h
    unfold untag at h
    split at h
    · cases h
    · rename_i before found hcut
      split at h
      · rename_i hfound
        obtain rfl := Option.some.inj h
        rw [tagged, ← hfound]
        exact (of_cutLast hcut).1
      · cases h
  · rintro rfl
    exact untag_tagged htag value

theorem untag_eq_none : untag c tag s = none ↔ ∀ value, s ≠ tagged c tag value := by
  rw [Option.eq_none_iff_forall_ne_some]
  exact forall_congr' (fun value => not_congr (untag_eq_some htag))

theorem tagged_injective : Function.Injective (tagged c tag) := by
  intro value value' heq
  have h := untag_tagged htag value
  rw [heq, untag_tagged htag] at h
  exact (Option.some.inj h).symm

end Separated

/-! ## Two encodings of one text -/

variable [DecidableEq β] {d : β} {tag' : List β → List β} {f : List α → List β}

/-- An encoding that keeps the last separator and the tags keeps what passes. -/
theorem untag_map (hf : Function.Injective f)
    (hcut : ∀ s, (f s).cutLast d = (s.cutLast c).map (Prod.map f f))
    (htag : ∀ value, tag' (f value) = f (tag value)) (s : List α) :
    untag d tag' (f s) = (untag c tag s).map f := by
  unfold untag
  rw [hcut]
  cases hsplit : s.cutLast c with
  | none => rfl
  | some parts =>
      obtain ⟨value, found⟩ := parts
      simp only [Option.map_some, Prod.map_apply, htag, hf.eq_iff]
      split
      · rfl
      · rfl

/-- Such is any encoding by which the separator stands for itself and is in no other character. -/
theorem cutLast_flatMap {g : α → List β} (hsep : g c = [d]) (hother : ∀ x, x ≠ c → d ∉ g x)
    (s : List α) :
    (s.flatMap g).cutLast d = (s.cutLast c).map (Prod.map (flatMap g) (flatMap g)) := by
  have hnot : ∀ xs : List α, c ∉ xs → d ∉ xs.flatMap g := by
    intro xs hxs hmem
    obtain ⟨x, hx, hd⟩ := mem_flatMap.mp hmem
    exact hother x (ne_of_mem_of_not_mem hx hxs) hd
  cases hcut : s.cutLast c with
  | none =>
      rw [Option.map_none, cutLast_eq_none]
      exact hnot s (cutLast_eq_none.mp hcut)
  | some parts =>
      obtain ⟨before, after⟩ := parts
      obtain ⟨rfl, hafter⟩ := of_cutLast hcut
      rw [flatMap_append, flatMap_cons, hsep]
      exact cutLast_append_cons (hnot after hafter) (before.flatMap g)

end List
