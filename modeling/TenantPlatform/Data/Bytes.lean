import Mathlib.Data.List.Basic
import Mathlib.Tactic.Common
import TenantPlatform.Data.Text

/-! # Texts as bytes

The bytes of ASCII texts, and numbers written in decimal digits. -/

namespace Bytes

def ascii (s : List Char) : List UInt8 := s.map (fun c => c.val.toUInt8)

def isDigit (b : UInt8) : Bool := 48 ≤ b && b ≤ 57

/-- `n` without leading zeros. -/
def decimal (n : ℕ) : List UInt8 := ascii (Nat.toDigits 10 n)

/-- The number that digits denote. -/
def value (digits : List UInt8) : ℕ := digits.foldl (fun n b => 10 * n + (b.toNat - 48)) 0

/-! ## ASCII -/

theorem toNat_toUInt8 {c : Char} (h : c.toNat < 128) : c.val.toUInt8.toNat = c.toNat := by
  show c.val.toNat % 256 = c.toNat
  exact Nat.mod_eq_of_lt (Nat.lt_trans h (by decide))

/-- An ASCII text is determined by its bytes. -/
theorem ascii_inj {s s' : List Char} (h : ∀ c ∈ s, c.toNat < 128) (h' : ∀ c ∈ s', c.toNat < 128)
    (heq : ascii s = ascii s') : s = s' := by
  induction s generalizing s' with
  | nil =>
      cases s' with
      | nil => rfl
      | cons c' s' => cases heq
  | cons c s ih =>
      cases s' with
      | nil => cases heq
      | cons c' s' =>
          obtain ⟨hhead, htail⟩ := List.cons.inj heq
          have hnat := congrArg UInt8.toNat hhead
          rw [toNat_toUInt8 (h c List.mem_cons_self),
            toNat_toUInt8 (h' c' List.mem_cons_self)] at hnat
          rw [Char.toNat_inj.mp hnat, ih (fun c hc => h c (List.mem_cons_of_mem _ hc))
            (fun c hc => h' c (List.mem_cons_of_mem _ hc)) htail]

theorem utf8EncodeChar_of_lt {c : Char} (h : c.toNat < 128) :
    String.utf8EncodeChar c = [c.val.toUInt8] := by
  refine String.utf8EncodeChar_eq_singleton ?_
  have hle : c.val ≤ 127 := by
    rw [UInt32.le_iff_toNat_le]
    exact Nat.lt_succ_iff.mp h
  simp [Char.utf8Size, hle]

/-- The bytes of any other character are no ASCII bytes. -/
theorem le_of_mem_utf8EncodeChar {c : Char} {b : UInt8} (h : 128 ≤ c.toNat)
    (hb : b ∈ String.utf8EncodeChar c) : 128 ≤ b.toNat := by
  have hv : ¬ c.val.toNat ≤ 127 := Nat.not_le.mpr h
  simp only [String.utf8EncodeChar, hv, if_false] at hb
  split at hb
  · simp only [List.mem_cons, List.not_mem_nil, or_false] at hb
    rcases hb with rfl | rfl <;> simp only [UInt8.toNat_ofNat'] <;> omega
  · split at hb
    · simp only [List.mem_cons, List.not_mem_nil, or_false] at hb
      rcases hb with rfl | rfl | rfl <;> simp only [UInt8.toNat_ofNat'] <;> omega
    · simp only [List.mem_cons, List.not_mem_nil, or_false] at hb
      rcases hb with rfl | rfl | rfl | rfl <;> simp only [UInt8.toNat_ofNat'] <;> omega

/-! ## Decimals -/

theorem toNat_lt_of_isDigit {c : Char} (h : c.isDigit = true) : c.toNat < 128 := by
  have hle : c.val ≤ 57 := by
    simp only [Char.isDigit, Bool.and_eq_true, decide_eq_true_eq] at h
    exact h.2
  have : c.val.toNat ≤ 57 := hle
  show c.val.toNat < 128
  omega

theorem toNat_lt_of_mem_toDigits {c : Char} {n : ℕ} (h : c ∈ Nat.toDigits 10 n) :
    c.toNat < 128 :=
  toNat_lt_of_isDigit (Nat.isDigit_of_mem_toDigits (by decide) (by decide) h)

theorem isDigit_of_mem_decimal {b : UInt8} {n : ℕ} (h : b ∈ decimal n) : isDigit b = true := by
  obtain ⟨c, hc, rfl⟩ := List.mem_map.mp h
  have hdigit : c.isDigit = true := Nat.isDigit_of_mem_toDigits (by decide) (by decide) hc
  have hnat := toNat_toUInt8 (toNat_lt_of_isDigit hdigit)
  simp only [Char.isDigit, Bool.and_eq_true, decide_eq_true_eq, ge_iff_le,
    UInt32.le_iff_toNat_le] at hdigit
  simp only [isDigit, Bool.and_eq_true, decide_eq_true_eq, UInt8.le_iff_toNat_le, hnat]
  exact hdigit

theorem decimal_ne_nil (n : ℕ) : decimal n ≠ [] := by
  intro h
  have := Nat.length_toDigits_pos (b := 10) (n := n)
  rw [List.map_eq_nil_iff.mp h] at this
  cases this

theorem decimal_injective : Function.Injective decimal := by
  intro a b h
  exact Nat.toDigits_ten_injective (ascii_inj (fun _ => toNat_lt_of_mem_toDigits)
    (fun _ => toNat_lt_of_mem_toDigits) h)

/-- A canonical decimal denotes its number. -/
theorem value_decimal (n : ℕ) : value (decimal n) = n := by
  have hfold : value (decimal n) = Nat.ofDigitChars 10 (Nat.toDigits 10 n) 0 := by
    rw [value, decimal, ascii, List.foldl_map, Nat.ofDigitChars_eq_foldl]
    refine List.foldl_ext _ _ _ (fun m c hc => ?_)
    rw [toNat_toUInt8 (toNat_lt_of_mem_toDigits hc)]
    rfl
  rw [hfold, Nat.ofDigitChars_ten_toDigits]

end Bytes
