import TenantPlatform.Data.Text

/-! # Reading texts and numbers of JSON

A text is read in two steps: first the code units that its characters and escapes stand for, and
then the characters that the units make up, since what lies beyond 16 bits is written as two
escapes. -/

namespace Json

/-! ## Code units -/

def hexValue (c : Char) : Option ℕ :=
  if c.isDigit then some (c.toNat - 48)
  else if 'a' ≤ c ∧ c ≤ 'f' then some (c.toNat - 87)
  else if 'A' ≤ c ∧ c ≤ 'F' then some (c.toNat - 55)
  else none

/-- What stands for what after a backslash, but for `u`. -/
def escapes : List (Char × ℕ) :=
  [('"', 34), ('\\', 92), ('/', 47), ('b', 8), ('f', 12), ('n', 10), ('r', 13), ('t', 9)]

/-- The code unit at the head of a text, if that is no quote, and what follows it. -/
def readUnit : List Char → Option (ℕ × List Char)
  | '\\' :: 'u' :: a :: b :: c :: d :: rest => do
      let a ← hexValue a
      let b ← hexValue b
      let c ← hexValue c
      let d ← hexValue d
      return (a * 4096 + b * 256 + c * 16 + d, rest)
  | '\\' :: c :: rest => (escapes.lookup c).map (fun u => (u, rest))
  | c :: rest => if c = '"' ∨ c = '\\' ∨ c < ' ' then none else some (c.toNat, rest)
  | [] => none

/-- The code units up to the closing quote, and what follows it. -/
def readUnits : ℕ → List Char → Option (List ℕ × List Char)
  | 0, _ => none
  | fuel + 1, text =>
      match readUnit text with
      | some (u, rest) => (readUnits fuel rest).map (fun r => (u :: r.1, r.2))
      | none => if text.head? = some '"' then some ([], text.tail) else none

/-- The text stands for one unit, whatever follows it. -/
def Reads (text : List Char) (u : ℕ) : Prop := ∀ rest, readUnit (text ++ rest) = some (u, rest)

/-- The text stands for these units, one after another. -/
inductive Writes : List Char → List ℕ → Prop where
  | nil : Writes [] []
  | cons {text rest : List Char} {u : ℕ} {us : List ℕ} (h : Reads text u) (hrest : Writes rest us) :
      Writes (text ++ rest) (u :: us)

theorem readUnit_quote (rest : List Char) : readUnit ('"' :: rest) = none := by
  simp [readUnit]

theorem Reads.ne_nil {text : List Char} {u : ℕ} (h : Reads text u) : text ≠ [] := by
  rintro rfl
  cases h []

theorem Reads.writes {text : List Char} {u : ℕ} (h : Reads text u) : Writes text [u] := by
  have hwrites : Writes (text ++ []) [u] := .cons h .nil
  rwa [List.append_nil] at hwrites

namespace Writes

variable {text text' : List Char} {us us' : List ℕ}

theorem append (h : Writes text us) (h' : Writes text' us') :
    Writes (text ++ text') (us ++ us') := by
  induction h with
  | nil => exact h'
  | cons hu _ ih =>
      rw [List.append_assoc]
      exact .cons hu ih

theorem flatMap {α : Type} {f : α → List Char} {g : α → List ℕ} (h : ∀ a, Writes (f a) (g a))
    (xs : List α) : Writes (xs.flatMap f) (xs.flatMap g) := by
  induction xs with
  | nil => exact .nil
  | cons a xs ih => exact (h a).append ih

theorem length_le (h : Writes text us) : us.length ≤ text.length := by
  induction h with
  | nil => exact Nat.le_refl 0
  | @cons text rest u us hu _ ih =>
      have hpos := List.length_pos_of_ne_nil hu.ne_nil
      rw [List.length_cons, List.length_append]
      omega

theorem readUnits (h : Writes text us) (rest : List Char) {fuel : ℕ} (hfuel : us.length < fuel) :
    Json.readUnits fuel (text ++ '"' :: rest) = some (us, rest) := by
  induction h generalizing fuel with
  | nil =>
      obtain ⟨fuel, rfl⟩ := Nat.exists_eq_succ_of_ne_zero (Nat.ne_of_gt hfuel)
      simp [Json.readUnits, readUnit_quote]
  | cons hu _ ih =>
      obtain ⟨fuel, rfl⟩ := Nat.exists_eq_succ_of_ne_zero (Nat.ne_of_gt (Nat.zero_lt_of_lt hfuel))
      rw [List.append_assoc, Json.readUnits, hu]
      simp only [ih (Nat.lt_of_succ_lt_succ hfuel), Option.map_some]

end Writes

/-! ## Characters -/

/-- The units of a character, two of them beyond 16 bits. -/
def utf16 (c : Char) : List ℕ :=
  if c.toNat < 65536 then [c.toNat]
  else [55296 + (c.toNat - 65536) / 1024, 56320 + (c.toNat - 65536) % 1024]

def charOf (n : ℕ) : Option Char := if n.isValidChar then some (Char.ofNat n) else none

/-- The characters of units. -/
def joinUnits : List ℕ → Option (List Char)
  | [] => some []
  | [u] => (charOf u).map (fun c => [c])
  | u :: v :: us =>
      if (55296 ≤ u ∧ u < 56320) ∧ 56320 ≤ v ∧ v < 57344 then
        (charOf (65536 + (u - 55296) * 1024 + (v - 56320))).bind
          (fun c => (joinUnits us).map (fun cs => c :: cs))
      else (charOf u).bind (fun c => (joinUnits (v :: us)).map (fun cs => c :: cs))

theorem charOf_toNat (c : Char) : charOf c.toNat = some c := by
  have hvalid : c.toNat.isValidChar := c.valid
  rw [charOf, if_pos hvalid, Char.ofNat_toNat]

theorem joinUnits_cons {u : ℕ} {c : Char} (hc : charOf u = some c) (hu : ¬ (55296 ≤ u ∧ u < 56320))
    (us : List ℕ) : joinUnits (u :: us) = (joinUnits us).map (fun cs => c :: cs) := by
  cases us with
  | nil => simp [joinUnits, hc]
  | cons v us =>
      rw [joinUnits, if_neg (fun h => hu h.1), hc]
      rfl

theorem joinUnits_utf16 (cs : List Char) : joinUnits (cs.flatMap utf16) = some cs := by
  induction cs with
  | nil => rfl
  | cons c cs ih =>
      have hvalid : c.toNat < 55296 ∨ (57343 < c.toNat ∧ c.toNat < 1114112) := c.valid
      rw [List.flatMap_cons, utf16]
      split
      · rw [List.singleton_append, joinUnits_cons (charOf_toNat c) (by omega), ih]
        rfl
      · have hjoin : 65536 + (55296 + (c.toNat - 65536) / 1024 - 55296) * 1024 +
            (56320 + (c.toNat - 65536) % 1024 - 56320) = c.toNat := by omega
        rw [List.cons_append, List.singleton_append, joinUnits, if_pos (by omega), hjoin,
          charOf_toNat, ih]
        rfl

/-- A text after its opening quote, and what follows it. -/
def readText (text : List Char) : Option (List Char × List Char) := do
  let (us, rest) ← readUnits text.length text
  let cs ← joinUnits us
  return (cs, rest)

theorem readText_of_writes {text cs : List Char} (h : Writes text (cs.flatMap utf16))
    (rest : List Char) : readText (text ++ '"' :: rest) = some (cs, rest) := by
  have hfuel : (cs.flatMap utf16).length < (text ++ '"' :: rest).length := by
    have hle := h.length_le
    rw [List.length_append, List.length_cons]
    omega
  simp only [readText, h.readUnits rest hfuel, joinUnits_utf16, Option.bind_eq_bind,
    Option.bind_some, Option.pure_def]

/-! ## Numbers -/

/-- A decimal with no leading zeros, and what follows it. -/
def readNat (text : List Char) : Option (ℕ × List Char) :=
  let digits := text.takeWhile Char.isDigit
  let n := Nat.ofDigitChars 10 digits 0
  if Nat.toDigits 10 n = digits then some (n, text.dropWhile Char.isDigit) else none

def readInt : List Char → Option (ℤ × List Char)
  | '-' :: rest => (readNat rest).map (fun r => (-r.1, r.2))
  | text => (readNat text).map (fun r => (r.1, r.2))

variable {rest : List Char}

theorem readNat_toDigits (h : ∀ c ∈ rest.head?, c.isDigit = false) (n : ℕ) :
    readNat (Nat.toDigits 10 n ++ rest) = some (n, rest) := by
  have hdigits : ∀ c ∈ Nat.toDigits 10 n, c.isDigit = true :=
    fun c hc => Nat.isDigit_of_mem_toDigits (by decide) (by decide) hc
  have htake : rest.takeWhile Char.isDigit = [] ∧ rest.dropWhile Char.isDigit = rest := by
    cases rest with
    | nil => exact ⟨rfl, rfl⟩
    | cons c rest => simp [h c rfl]
  simp only [readNat, List.takeWhile_append_of_pos hdigits, List.dropWhile_append_of_pos hdigits,
    htake.1, htake.2, List.append_nil, Nat.ofDigitChars_ten_toDigits, if_true]

theorem toList_toString_negSucc (n : ℕ) :
    (toString (Int.negSucc n)).toList = '-' :: Nat.toDigits 10 (n + 1) := by
  show ("-" ++ toString (n + 1)).toList = _
  rw [String.toList_append, Nat.toList_toString]
  rfl

/-- An integer begins with a digit or a sign, and goes on with digits. -/
theorem toList_toString_int (n : ℤ) : ∃ c digits, (toString n).toList = c :: digits ∧
    (c = '-' ∨ c.isDigit = true) ∧ ∀ d ∈ digits, d.isDigit = true := by
  have hdigits : ∀ m : ℕ, ∀ c ∈ Nat.toDigits 10 m, c.isDigit = true :=
    fun m c hc => Nat.isDigit_of_mem_toDigits (by decide) (by decide) hc
  cases n with
  | ofNat n =>
      obtain ⟨c, digits, heq⟩ :=
        List.exists_cons_of_ne_nil (Nat.toDigits_ne_nil (n := n) (b := 10))
      have hall := hdigits n
      rw [heq] at hall
      exact ⟨c, digits, (Nat.toList_toString n).trans heq, .inr (hall c List.mem_cons_self),
        fun d hd => hall d (List.mem_cons_of_mem c hd)⟩
  | negSucc n => exact ⟨'-', _, toList_toString_negSucc n, .inl rfl, hdigits (n + 1)⟩

theorem readInt_toString (h : ∀ c ∈ rest.head?, c.isDigit = false) (n : ℤ) :
    readInt ((toString n).toList ++ rest) = some (n, rest) := by
  cases n with
  | ofNat n =>
      have htext : (toString (Int.ofNat n)).toList = Nat.toDigits 10 n := Nat.toList_toString n
      rw [htext, readInt]
      · rw [readNat_toDigits h]
        rfl
      · intro tail htail
        obtain ⟨c, digits, heq⟩ :=
          List.exists_cons_of_ne_nil (Nat.toDigits_ne_nil (n := n) (b := 10))
        have hc : c.isDigit = true :=
          Nat.isDigit_of_mem_toDigits (by decide) (by decide) (heq ▸ List.mem_cons_self)
        rw [heq, List.cons_append] at htail
        rw [(List.cons.inj htail).1] at hc
        cases hc
  | negSucc n =>
      rw [toList_toString_negSucc, List.cons_append, readInt, readNat_toDigits h]
      rfl

end Json
