import TenantPlatform.Verification.Proxy.Affinity

/-! # The cookie codec

A signed value is the value and its MAC behind the last dot. Values may have dots in them, and a
MAC has none. -/

namespace TenantPlatform

/-! ## Texts and their encoding -/

theorem utf8_injective : Function.Injective utf8 := by
  intro t t' h
  have hbytes : t.utf8Encode = t'.utf8Encode := congrArg List.toByteArray h
  apply String.ofList_injective
  rw [← String.toByteArray_inj, String.toByteArray_ofList, String.toByteArray_ofList, hbytes]

theorem dot_notMem_utf8EncodeChar {c : Char} (hc : c ≠ '.') : 46 ∉ String.utf8EncodeChar c := by
  intro hmem
  by_cases hlt : c.toNat < 128
  · rw [Bytes.utf8EncodeChar_of_lt hlt, List.mem_singleton] at hmem
    have hnat := congrArg UInt8.toNat hmem
    rw [Bytes.toNat_toUInt8 hlt] at hnat
    exact hc (Char.toNat_inj.mp hnat.symm)
  · have := Bytes.le_of_mem_utf8EncodeChar (Nat.not_lt.mp hlt) hmem
    exact absurd this (by decide)

/-- The last dot of a text is the last dot of its encoding. -/
theorem cutLast_utf8 (t : List Char) :
    (utf8 t).cutLast 46 = (t.cutLast '.').map (Prod.map utf8 utf8) :=
  List.cutLast_flatMap (by decide) (fun _ => dot_notMem_utf8EncodeChar) t

theorem latin1_injective : Function.Injective latin1 := by
  have hchar : ∀ b : UInt8, UInt8.ofNat (Char.ofNat b.toNat).toNat = b :=
    forall_byte (by decide +kernel)
  intro s s' h
  apply (List.map_injective_iff.mpr _) h
  intro b b' hb
  have hcode : Char.ofNat b.toNat = Char.ofNat b'.toNat := hb
  rw [← hchar b, hcode, hchar b']

theorem cutLast_latin1 (s : GoString) :
    (latin1 s).cutLast '.' = (s.cutLast 46).map (Prod.map latin1 latin1) := by
  have hother : ∀ b : UInt8, b ≠ 46 → '.' ∉ [Char.ofNat b.toNat] :=
    forall_byte (by decide +kernel)
  have hmap : latin1 = List.flatMap (fun b => [Char.ofNat b.toNat]) := by
    funext s
    rw [latin1, List.map_eq_flatMap]
  rw [hmap]
  exact List.cutLast_flatMap (by decide) hother s

/-! ## The two codecs -/

namespace StickyProxy

variable {p : StickyProxy} {s : Signer}

theorem verifyText_eq_untag : p.verifyText = List.untag '.' p.digestText := by
  funext signed
  unfold verifyText List.untag
  cases signed.cutLast '.' <;> rfl

/-- On header fields, the codec of the Node proxy is its codec for texts. -/
theorem verifyText_latin1 (signed : GoString) :
    p.verifyText (latin1 signed) = (p.verify signed).map latin1 := by
  rw [verifyText_eq_untag, verify_eq_untag]
  refine List.untag_map latin1_injective cutLast_latin1 (fun value => ?_) signed
  apply utf8_injective
  exact (utf8_latin1 (fun b hb => lt_of_mem_utf8_hexEncode hb)).symm

/-- A header field of ASCII characters is one text to both proxies. -/
theorem Shares.verify_ascii (h : p.Shares s) {signed : GoString} (hascii : ∀ b ∈ signed, b < 128) :
    p.verify signed = s.verify signed := by
  unfold verify Signer.verify
  cases hcut : signed.cutLast 46 with
  | none => rfl
  | some parts =>
      obtain ⟨value, sig⟩ := parts
      have hvalue : ∀ b ∈ value, b < 128 := by
        intro b hb
        apply hascii
        rw [(List.of_cutLast hcut).1]
        exact List.mem_append_left _ hb
      simp only [h.digest_of_ascii hvalue]

/-- The Go proxy verifies the encoding of a text as the Node proxy does the text. -/
theorem Shares.verify_utf8 (h : p.Shares s) (signed : List Char) :
    s.verify (utf8 signed) = (p.verifyText signed).map utf8 := by
  rw [verifyText_eq_untag, Signer.verify_eq_untag]
  refine List.untag_map utf8_injective cutLast_utf8 (fun value => ?_) signed
  rw [Signer.mac, digestText, h.secret, h.hmac]

theorem Shares.sign_utf8 (h : p.Shares s) (value : List Char) :
    s.sign (utf8 value) = utf8 (p.signText value) := by
  rw [Signer.sign_eq, signText, utf8_append, Signer.mac, digestText, h.secret, h.hmac]
  rfl

end StickyProxy

/-- Verifying is the inverse of signing, on every string and for every secret, and accepts
nothing else. What one proxy accepts the other one accepts, with the same value. -/
theorem cookie_codec_exact (s : Signer) (p : StickyProxy) (hshares : p.Shares s) :
    (∀ signed value, s.verify signed = some value ↔ signed = s.sign value) ∧
    (∀ signed, s.verify signed = none ↔ ∀ value, signed ≠ s.sign value) ∧
    Function.Injective s.sign ∧
    (∀ value, s.verify (s.sign value) = some value) ∧
    (∀ signed, s.verify (utf8 signed) = (p.verifyText signed).map utf8) ∧
    (∀ value, s.sign (utf8 value) = utf8 (p.signText value)) ∧
    ∀ signed, (∀ b ∈ signed, b < 128) → p.verify signed = s.verify signed := by
  refine ⟨?_, ?_, Signer.sign_injective, ?_, hshares.verify_utf8, hshares.sign_utf8, ?_⟩
  · exact fun signed value => Signer.verify_eq_some
  · exact fun signed => Signer.verify_eq_none
  · exact fun value => Signer.verify_sign
  · exact fun signed hascii => hshares.verify_ascii hascii

def sampleCookie : GoString :=
  bytes "10.244.0.5.6890247d58381d736cb6687e26f4bfedb1adf727f47092d64b6747ee4496e455"

theorem cookie_codec_exact_sample :
    sampleHandler.signer.verify sampleCookie = some (bytes "10.244.0.5") ∧
      sampleStickyProxy.verify sampleCookie = some (bytes "10.244.0.5") := by
  have hcodec := cookie_codec_exact sampleHandler.signer sampleStickyProxy ⟨rfl, rfl⟩
  have haccepted : sampleHandler.signer.verify sampleCookie = some (bytes "10.244.0.5") :=
    (hcodec.1 _ _).mpr (by decide)
  have hascii : sampleCookie.all (fun b => b < 128) = true := by decide
  refine ⟨haccepted, (hcodec.2.2.2.2.2.2 _ (fun b hb => ?_)).trans haccepted⟩
  exact of_decide_eq_true (List.all_eq_true.mp hascii b hb)

end TenantPlatform
