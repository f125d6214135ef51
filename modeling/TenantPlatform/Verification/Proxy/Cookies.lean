import TenantPlatform.Data.Tagged
import TenantPlatform.Model.Proxy.Client
import TenantPlatform.Verification.Proxy.Routing

/-! # Affinity cookies in both proxies

A cookie that one proxy makes for a pod comes back through a client as it was made, and either
proxy reads the same pod from it. -/

namespace TenantPlatform

/-! ## Plain texts -/

/-- A visible character that has no meaning in cookies. -/
def plainByte (b : UInt8) : Bool := 33 ≤ b && b < 127 && !(bytes "\",;=\\").contains b

def Plain (s : GoString) : Prop := ∀ b ∈ s, plainByte b = true

/-- The characters of IPv4 and IPv6 addresses. -/
def addressByte (b : UInt8) : Bool :=
  Bytes.isDigit b || (97 ≤ b && b ≤ 102) || (65 ≤ b && b ≤ 70) || b = 46 || b = 58

structure IsAddress (p : GoString) : Prop where
  nonempty : p ≠ []
  chars : ∀ b ∈ p, addressByte b = true

/-- The blanks of `textproto.TrimString`. -/
def goBlank (b : UInt8) : Bool := b = 32 || b = 9 || b = 10 || b = 13

theorem forall_byte {P : UInt8 → Prop} (h : ∀ n : Fin 256, P (UInt8.ofNat n)) (b : UInt8) :
    P b := by
  have := h ⟨b.toNat, b.toNat_lt⟩
  rwa [UInt8.ofNat_toNat] at this

theorem plainByte_of_addressByte : ∀ b, addressByte b = true → plainByte b = true :=
  forall_byte (by decide +kernel)

theorem validCookieValueByte_of_plainByte :
    ∀ b, plainByte b = true → validCookieValueByte b = true :=
  forall_byte (by decide +kernel)

theorem validCookiePathByte_of_plainByte :
    ∀ b, plainByte b = true → validCookiePathByte b = true :=
  forall_byte (by decide +kernel)

theorem jsBlank_of_plainByte : ∀ b, plainByte b = true → jsBlank b = false :=
  forall_byte (by decide +kernel)

theorem goBlank_of_jsBlank : ∀ b, jsBlank b = false → goBlank b = false :=
  forall_byte (by decide +kernel)

namespace Plain

variable {s s' : GoString}

theorem of_all (h : s.all plainByte = true) : Plain s := List.all_eq_true.mp h

theorem append (h : Plain s) (h' : Plain s') : Plain (s ++ s') :=
  fun b hb => (List.mem_append.mp hb).elim (h b) (h' b)

theorem of_digits {d : GoString} (hd : ∀ b ∈ d, Bytes.isDigit b = true) : Plain d := by
  intro b hb
  apply plainByte_of_addressByte
  simp [addressByte, hd b hb]

theorem notMem (h : Plain s) {b : UInt8} (hb : plainByte b = false) : b ∉ s := by
  intro hmem
  rw [h b hmem] at hb
  cases hb

theorem trimString_eq (h : Plain s) : trimString s = s :=
  List.strip_of_forall (fun b hb => goBlank_of_jsBlank b (jsBlank_of_plainByte b (h b hb)))

theorem sanitizeCookieValue_eq (h : Plain s) : sanitizeCookieValue s = s := by
  have hfilter : s.filter validCookieValueByte = s :=
    List.filter_eq_self.mpr (fun b hb => validCookieValueByte_of_plainByte b (h b hb))
  have hspace : 32 ∉ s := h.notMem (by decide)
  have hcomma : 44 ∉ s := h.notMem (by decide)
  rw [sanitizeCookieValue, hfilter]
  simp [hspace, hcomma]

theorem filter_path (h : Plain s) : s.filter validCookiePathByte = s :=
  List.filter_eq_self.mpr (fun b hb => validCookiePathByte_of_plainByte b (h b hb))

theorem parseCookieValue_eq (h : Plain s) : parseCookieValue s = some s := by
  have hquote : s.head? ≠ some 34 := fun hhead =>
    h.notMem (by decide) (List.mem_of_mem_head? (Option.mem_def.mpr hhead))
  have hunquote : unquote s = s := by simp [unquote, hquote]
  have hall : s.all validCookieValueByte = true :=
    List.all_eq_true.mpr (fun b hb => validCookieValueByte_of_plainByte b (h b hb))
  rw [parseCookieValue, hunquote, if_pos hall]

end Plain

theorem IsAddress.plain {p : GoString} (h : IsAddress p) : Plain p :=
  fun b hb => plainByte_of_addressByte b (h.chars b hb)

theorem affinityCookie_plain {d : GoString} (hd : ∀ b ∈ d, Bytes.isDigit b = true) :
    Plain (affinityCookie d) :=
  Plain.append (Plain.of_all (by decide)) (Plain.of_digits hd)

theorem affinityCookie_ne_nil (d : GoString) : affinityCookie d ≠ [] :=
  List.append_ne_nil_of_left_ne_nil (by decide) d

theorem affinityCookie_ne_proto (d : GoString) : affinityCookie d ≠ bytes "__proto__" := by
  intro heq
  have hhead := congrArg List.head? heq
  rw [affinityCookie, List.head?_append_of_ne_nil _ (by decide)] at hhead
  exact absurd hhead (by decide)

theorem affinityPath_plain {d : GoString} (hd : ∀ b ∈ d, Bytes.isDigit b = true) :
    Plain (bytes "/t/" ++ d) := by
  exact Plain.append (Plain.of_all (by decide)) (Plain.of_digits hd)

theorem affinityCookie_isToken {d : GoString} (hd : ∀ b ∈ d, Bytes.isDigit b = true) :
    isToken (affinityCookie d) = true := by
  have hname : (bytes "affinity_t").all isTokenByte = true := by decide
  have hdigits : d.all isTokenByte = true := by
    rw [List.all_eq_true]
    intro b hb
    simp [isTokenByte, hd b hb]
  rw [isToken, affinityCookie, List.all_append, hname, hdigits]
  rfl

/-! ## Signatures -/

theorem hexDigit_byte {n : ℕ} (h : n < 16) :
    addressByte (hexDigit n).val.toUInt8 = true ∧ (hexDigit n).val.toUInt8 ≠ 46 := by
  have hall : ∀ m : Fin 16,
      addressByte (hexDigit m).val.toUInt8 = true ∧ (hexDigit m).val.toUInt8 ≠ 46 := by decide
  exact hall ⟨n, h⟩

/-- A digest has the characters of addresses, but no dot. -/
theorem of_mem_utf8_hexEncode {digest : List UInt8} {b : UInt8}
    (h : b ∈ utf8 (hexEncode digest)) : addressByte b = true ∧ b ≠ 46 := by
  rw [utf8_hexEncode] at h
  obtain ⟨c, hc, rfl⟩ := List.mem_map.mp h
  simp only [hexEncode, List.mem_flatMap, List.mem_cons, List.not_mem_nil, or_false] at hc
  obtain ⟨x, -, rfl | rfl⟩ := hc
  · have hx := x.toNat_lt
    exact hexDigit_byte (by omega)
  · exact hexDigit_byte (Nat.mod_lt _ (by decide))

namespace Signer

variable {s : Signer} {value value' : GoString}

theorem sign_plain (h : IsAddress value) : Plain (s.sign value) := by
  refine Plain.append (Plain.append h.plain (Plain.of_all (by decide))) (fun b hb => ?_)
  exact plainByte_of_addressByte b (of_mem_utf8_hexEncode hb).1

theorem sign_ne_nil : s.sign value ≠ [] := by
  unfold sign
  rw [List.append_assoc]
  exact List.append_ne_nil_of_right_ne_nil _ (List.append_ne_nil_of_left_ne_nil (by decide) _)

theorem sign_eq : s.sign value = value ++ 46 :: s.mac value := by
  have hdot : bytes "." = [46] := by decide
  rw [sign, hdot, List.append_assoc]
  rfl

theorem dot_notMem_mac (value : GoString) : 46 ∉ s.mac value :=
  fun hmem => (of_mem_utf8_hexEncode hmem).2 rfl

theorem sign_eq_tagged : s.sign = List.tagged 46 s.mac := funext (fun _ => sign_eq)

theorem verify_eq_untag : s.verify = List.untag 46 s.mac := by
  funext signed
  unfold verify List.untag
  cases signed.cutLast 46 <;> rfl

theorem cutLast_sign : (s.sign value).cutLast 46 = some (value, s.mac value) := by
  rw [sign_eq_tagged, List.cutLast_tagged dot_notMem_mac]

theorem verify_sign : s.verify (s.sign value) = some value := by
  rw [verify_eq_untag, sign_eq_tagged, List.untag_tagged dot_notMem_mac]

/-- Only a signed text passes. -/
theorem verify_eq_some : s.verify value = some value' ↔ value = s.sign value' := by
  rw [verify_eq_untag, sign_eq_tagged, List.untag_eq_some dot_notMem_mac]

theorem verify_eq_none : s.verify value = none ↔ ∀ value', value ≠ s.sign value' := by
  rw [verify_eq_untag, sign_eq_tagged, List.untag_eq_none dot_notMem_mac]

theorem sign_injective : Function.Injective s.sign := by
  rw [sign_eq_tagged]
  exact List.tagged_injective dot_notMem_mac

end Signer

/-- The characters up to U+007F are their own encoding. -/
theorem utf8_latin1 {s : GoString} (h : ∀ b ∈ s, b < 128) : utf8 (latin1 s) = s := by
  have hchar : ∀ b : UInt8, b < 128 → (Char.ofNat b.toNat).toNat < 128 ∧
      (Char.ofNat b.toNat).val.toUInt8 = b := forall_byte (by decide +kernel)
  rw [utf8_ascii]
  · rw [Bytes.ascii, latin1, List.map_map]
    exact (List.map_congr_left (fun b hb => (hchar b (h b hb)).2)).trans (List.map_id' s)
  · intro c hc
    obtain ⟨b, hb, rfl⟩ := List.mem_map.mp hc
    exact (hchar b (h b hb)).1

namespace StickyProxy

variable {p : StickyProxy} {s : Signer} {value : GoString}

theorem verify_eq_untag : p.verify = List.untag 46 p.digest := by
  funext signed
  unfold verify List.untag
  cases signed.cutLast 46 <;> rfl

theorem sign_eq_tagged : p.sign = List.tagged 46 p.digest := by
  have hdot : bytes "." = [46] := by decide
  funext value
  rw [sign, hdot, List.append_assoc]
  rfl

theorem verify_eq_some {signed : GoString} :
    p.verify signed = some value ↔ signed = p.sign value := by
  have hdigest : ∀ value, 46 ∉ p.digest value := fun _ hmem => (of_mem_utf8_hexEncode hmem).2 rfl
  rw [verify_eq_untag, sign_eq_tagged, List.untag_eq_some hdigest]

/-- The two proxies have one cookie secret. -/
structure Shares (p : StickyProxy) (s : Signer) : Prop where
  secret : p.cookieSecret = s.secret
  hmac : p.hmacSha256 = s.hmacSha256

theorem Shares.digest_of_ascii (h : p.Shares s) (hascii : ∀ b ∈ value, b < 128) :
    p.digest value = s.mac value := by
  rw [digest, h.secret, h.hmac, utf8_latin1 hascii, Signer.mac]

theorem Shares.digest_eq (h : p.Shares s) (hvalue : IsAddress value) :
    p.digest value = s.mac value := by
  have hall : ∀ b, addressByte b = true → b < 128 := forall_byte (by decide +kernel)
  exact h.digest_of_ascii (fun b hb => hall b (hvalue.chars b hb))

theorem Shares.sign_eq (h : p.Shares s) (hvalue : IsAddress value) :
    p.sign value = s.sign value := by
  rw [sign, h.digest_eq hvalue, Signer.sign]

theorem Shares.verify_sign (h : p.Shares s) (hvalue : IsAddress value) :
    p.verify (s.sign value) = some value := by
  rw [verify, Signer.cutLast_sign]
  exact if_pos (h.digest_eq hvalue).symm

end StickyProxy

/-! ## The `Cookie` header -/

/-- A cookie that has another name, as the parser of either proxy reads it. -/
structure OtherPair (name pair : GoString) : Prop where
  semicolon : 59 ∉ pair
  go_ne : trimString ((trimString pair).cut 61).1 ≠ name
  node_ne : ((jsTrim pair).cut 61).1 ≠ name

namespace OtherPair

variable {name pair : GoString}

theorem readCookie_eq (h : OtherPair name pair) : readCookie name pair = none := by
  rw [readCookie]
  dsimp only
  split
  · rfl
  · simp [h.go_ne]

theorem addCookie_eq (h : OtherPair name pair) (out : GoString → Option GoString) :
    addCookie out pair name = out name := by
  obtain ⟨v, hsplit⟩ := List.splitOn_eq_cons 61 (jsTrim pair)
  rw [addCookie, hsplit]
  dsimp only
  split
  · rfl
  · exact Function.update_of_ne (Ne.symm h.node_ne) _ _

end OtherPair

section Pair

variable {name value : GoString}

theorem cookiePair_eq : cookiePair name value = name ++ 61 :: value := by
  have hequals : bytes "=" = [61] := by decide
  rw [cookiePair, hequals, List.append_assoc]
  rfl

theorem notMem_cookiePair (hname : Plain name) (hvalue : Plain value) :
    59 ∉ cookiePair name value := by
  rw [cookiePair_eq]
  intro hmem
  rcases List.mem_append.mp hmem with hmem | hmem
  · exact hname.notMem (by decide) hmem
  · rcases List.mem_cons.mp hmem with heq | hmem
    · exact absurd heq (by decide)
    · exact hvalue.notMem (by decide) hmem

theorem jsBlank_cookiePair (hname : Plain name) (hvalue : Plain value) :
    ∀ b ∈ cookiePair name value, jsBlank b = false := by
  rw [cookiePair_eq]
  intro b hb
  rcases List.mem_append.mp hb with hb | hb
  · exact jsBlank_of_plainByte b (hname b hb)
  · rcases List.mem_cons.mp hb with rfl | hb
    · decide
    · exact jsBlank_of_plainByte b (hvalue b hb)

theorem jsTrim_cookiePair (hname : Plain name) (hvalue : Plain value) :
    jsTrim (cookiePair name value) = cookiePair name value :=
  List.strip_of_forall (jsBlank_cookiePair hname hvalue)

theorem trimString_cookiePair (hname : Plain name) (hvalue : Plain value) :
    trimString (cookiePair name value) = cookiePair name value :=
  List.strip_of_forall (fun b hb => goBlank_of_jsBlank b (jsBlank_cookiePair hname hvalue b hb))

theorem cut_cookiePair (hname : Plain name) : (cookiePair name value).cut 61 = (name, value) := by
  rw [cookiePair_eq]
  exact List.cut_append_cons (hname.notMem (by decide)) value

/-- A pair of plain texts has the name that it was written with. -/
theorem otherPair_cookiePair {other : GoString} (hname : Plain name) (hvalue : Plain value)
    (hne : name ≠ other) : OtherPair other (cookiePair name value) where
  semicolon := notMem_cookiePair hname hvalue
  go_ne := by rwa [trimString_cookiePair hname hvalue, cut_cookiePair hname, hname.trimString_eq]
  node_ne := by rwa [jsTrim_cookiePair hname hvalue, cut_cookiePair hname]

theorem readCookie_cookiePair (hname : Plain name) (hvalue : Plain value)
    (htoken : isToken name = true) : readCookie name (cookiePair name value) = some value := by
  have hne : cookiePair name value ≠ [] := by
    rw [cookiePair_eq]
    simp
  rw [readCookie, trimString_cookiePair hname hvalue]
  dsimp only
  rw [if_neg hne, cut_cookiePair hname]
  simp [hname.trimString_eq, htoken, hvalue.parseCookieValue_eq]

theorem addCookie_cookiePair (hname : Plain name) (hvalue : Plain value) (hne : name ≠ [])
    (hproto : name ≠ bytes "__proto__") (out : GoString → Option GoString) :
    addCookie out (cookiePair name value) name = some value := by
  have hsplit : (cookiePair name value).splitOn 61 = name :: value.splitOn 61 := by
    rw [cookiePair_eq]
    exact List.splitOn_append_cons_self_of_not_mem (hname.notMem (by decide)) value
  rw [addCookie, jsTrim_cookiePair hname hvalue, hsplit]
  dsimp only
  rw [if_neg (by simp [hne, hproto]), Function.update_self, List.intercalate_splitOn]

end Pair

/-! ### One line -/

section Line

variable {filter : GoString} {b : UInt8}

/-- The cookies of this name in a line of the header. -/
def lineCookies (filter line : GoString) : List GoString :=
  (line.splitOn 59).filterMap (readCookie filter)

theorem lineCookies_append_cons {part : GoString} (hpart : 59 ∉ part) (rest : GoString) :
    lineCookies filter (part ++ 59 :: rest) =
      (readCookie filter part).toList ++ lineCookies filter rest := by
  rw [lineCookies, List.splitOn_append_cons_self_of_not_mem hpart, List.filterMap_cons]
  cases readCookie filter part <;> rfl

theorem lineCookies_of_notMem {line : GoString} (hline : 59 ∉ line) :
    lineCookies filter line = (readCookie filter line).toList := by
  rw [lineCookies, List.splitOn_eq_singleton hline, List.filterMap_cons]
  cases readCookie filter line <;> rfl

theorem readCookie_cons (hb : goBlank b = true) (part : GoString) :
    readCookie filter (b :: part) = readCookie filter part := by
  have htrim : trimString (b :: part) = trimString part := List.strip_cons hb part
  rw [readCookie, htrim, readCookie]

theorem readCookie_concat (hb : goBlank b = true) (part : GoString) :
    readCookie filter (part ++ [b]) = readCookie filter part := by
  have htrim : trimString (part ++ [b]) = trimString part := List.strip_concat hb part
  rw [readCookie, htrim, readCookie]

theorem ne_semicolon_of_goBlank (hb : goBlank b = true) : 59 ≠ b := by
  rintro rfl
  cases hb

theorem lineCookies_cons (hb : goBlank b = true) (line : GoString) :
    lineCookies filter (b :: line) = lineCookies filter line := by
  have hcons : ∀ {part : GoString}, 59 ∉ part → 59 ∉ b :: part := fun hpart hmem =>
    (List.mem_cons.mp hmem).elim (ne_semicolon_of_goBlank hb) hpart
  by_cases hmem : 59 ∈ line
  · obtain ⟨part, rest, rfl, hpart⟩ := List.eq_append_cons_of_mem hmem
    rw [← List.cons_append, lineCookies_append_cons (hcons hpart), lineCookies_append_cons hpart,
      readCookie_cons hb]
  · rw [lineCookies_of_notMem (hcons hmem), lineCookies_of_notMem hmem, readCookie_cons hb]

theorem lineCookies_concat (hb : goBlank b = true) (line : GoString) :
    lineCookies filter (line ++ [b]) = lineCookies filter line := by
  by_cases hmem : 59 ∈ line
  · obtain ⟨part, rest, rfl, hpart⟩ := List.eq_append_cons_of_mem hmem
    rw [List.append_assoc, List.cons_append, lineCookies_append_cons hpart,
      lineCookies_concat hb rest, lineCookies_append_cons hpart]
  · have hconcat : 59 ∉ line ++ [b] := by
      rw [List.mem_append, List.mem_singleton, not_or]
      exact ⟨hmem, ne_semicolon_of_goBlank hb⟩
    rw [lineCookies_of_notMem hconcat, lineCookies_of_notMem hmem, readCookie_concat hb]
termination_by line.length

/-- Blanks around a line are blanks around its first and its last cookie. -/
theorem lineCookies_trimString (line : GoString) :
    lineCookies filter (trimString line) = lineCookies filter line :=
  List.apply_strip (fun _ line hb => lineCookies_cons hb line)
    (fun _ line hb => lineCookies_concat hb line) line

end Line

/-! ### The whole header -/

section Header

variable {name value : GoString} {before after : List GoString}

theorem addCookie_space (out : GoString → Option GoString) (pair : GoString) :
    addCookie out (32 :: pair) = addCookie out pair := by
  have htrim : jsTrim (32 :: pair) = jsTrim pair := List.strip_cons (by decide) pair
  rw [addCookie, htrim, addCookie]

/-- Semicolons separate the cookies, and all but the first have a blank before them. -/
theorem splitOn_cookieHeader {pair : GoString} {pairs : List GoString}
    (h : ∀ x ∈ pair :: pairs, 59 ∉ x) :
    ((bytes "; ").intercalate (pair :: pairs)).splitOn 59 =
      pair :: pairs.map (fun x => 32 :: x) := by
  have hseparator : bytes "; " = [59, 32] := by decide
  rw [hseparator, List.intercalate_pair, List.splitOn_intercalate]
  · intro x hx
    rcases List.mem_cons.mp hx with rfl | hx
    · exact h x List.mem_cons_self
    · obtain ⟨y, hy, rfl⟩ := List.mem_map.mp hx
      rw [List.mem_cons, not_or]
      exact ⟨by decide, h y (List.mem_cons_of_mem _ hy)⟩
  · exact List.cons_ne_nil _ _

/-- The Go proxy counts as many cookies as are sent. -/
theorem count_cookieHeader {pair : GoString} {pairs : List GoString}
    (h : ∀ x ∈ pair :: pairs, 59 ∉ x) :
    ((bytes "; ").intercalate (pair :: pairs)).count 59 + 1 = (pair :: pairs).length := by
  rw [← List.length_splitOn, splitOn_cookieHeader h, List.length_cons, List.length_map,
    List.length_cons]

/-- The Go proxy reads each cookie of the header by itself, unless there are too many. -/
theorem readCookies_cookieHeader {pairs : List GoString} (h : ∀ x ∈ pairs, 59 ∉ x) :
    readCookies (cookieHeader pairs).toList name =
      if 3000 < pairs.length then [] else pairs.filterMap (readCookie name) := by
  cases pairs with
  | nil => rfl
  | cons pair pairs =>
      have hspace : readCookie name ∘ (fun x => 32 :: x) = readCookie name :=
        funext (fun x => readCookie_cons (by decide) x)
      have hline : ∀ line, ((trimString line).splitOn 59).filterMap (readCookie name) =
          (line.splitOn 59).filterMap (readCookie name) := lineCookies_trimString
      rw [cookieHeader, if_neg (List.cons_ne_nil _ _), Option.toList_some, readCookies,
        List.map_singleton, List.sum_singleton, count_cookieHeader h, List.flatMap_singleton, hline,
        splitOn_cookieHeader h, List.filterMap_cons, List.filterMap_map, hspace,
        List.filterMap_cons]
      rfl

/-- The Node proxy takes the cookies of the header in turn. -/
theorem parseCookies_cookieHeader {pairs : List GoString} (h : ∀ x ∈ pairs, 59 ∉ x) :
    parseCookies (cookieHeader pairs) = pairs.foldl addCookie (fun _ => none) := by
  cases pairs with
  | nil => rfl
  | cons pair pairs =>
      rw [cookieHeader, if_neg (List.cons_ne_nil _ _), parseCookies, Option.getD_some,
        splitOn_cookieHeader h, List.foldl_cons, List.foldl_map, List.foldl_cons]
      simp only [addCookie_space]

theorem foldl_addCookie {pairs : List GoString} (h : ∀ x ∈ pairs, OtherPair name x)
    (out : GoString → Option GoString) : pairs.foldl addCookie out name = out name := by
  induction pairs generalizing out with
  | nil => rfl
  | cons pair pairs ih =>
      rw [List.foldl_cons, ih (fun x hx => h x (List.mem_cons_of_mem _ hx))]
      exact (h pair List.mem_cons_self).addCookie_eq out

variable (hname : Plain name) (hvalue : Plain value)
  (hbefore : ∀ x ∈ before, OtherPair name x) (hafter : ∀ x ∈ after, OtherPair name x)

include hname hvalue hbefore hafter

theorem notMem_of_mem_pairs : ∀ x ∈ before ++ cookiePair name value :: after, 59 ∉ x := by
  intro x hx
  rcases List.mem_append.mp hx with hx | hx
  · exact (hbefore x hx).semicolon
  · rcases List.mem_cons.mp hx with rfl | hx
    · exact notMem_cookiePair hname hvalue
    · exact (hafter x hx).semicolon

/-- Whatever else a client sends, the Go proxy finds the cookie of this name, if it counts no more
than 3000. -/
theorem readCookies_sent (htoken : isToken name = true)
    (hfew : before.length + after.length < 3000) :
    readCookies (cookieHeader (before ++ cookiePair name value :: after)).toList name =
      [value] := by
  have hnone : ∀ {pairs : List GoString}, (∀ x ∈ pairs, OtherPair name x) →
      pairs.filterMap (readCookie name) = [] := fun h =>
    List.filterMap_eq_nil_iff.mpr (fun x hx => (h x hx).readCookie_eq)
  rw [readCookies_cookieHeader (notMem_of_mem_pairs hname hvalue hbefore hafter),
    if_neg (by rw [List.length_append, List.length_cons]; omega), List.filterMap_append,
    List.filterMap_cons, readCookie_cookiePair hname hvalue htoken, hnone hbefore, hnone hafter]
  rfl

/-- Of more it finds none. -/
theorem readCookies_crowded (hmany : 3000 ≤ before.length + after.length) :
    readCookies (cookieHeader (before ++ cookiePair name value :: after)).toList name = [] := by
  rw [readCookies_cookieHeader (notMem_of_mem_pairs hname hvalue hbefore hafter),
    if_pos (by rw [List.length_append, List.length_cons]; omega)]

/-- The Node proxy finds it among any number of cookies. -/
theorem parseCookies_sent (hne : name ≠ []) (hproto : name ≠ bytes "__proto__") :
    parseCookies (cookieHeader (before ++ cookiePair name value :: after)) name = some value := by
  rw [parseCookies_cookieHeader (notMem_of_mem_pairs hname hvalue hbefore hafter),
    List.foldl_append, List.foldl_cons, foldl_addCookie hafter]
  exact addCookie_cookiePair hname hvalue hne hproto _

end Header

/-! ## The `Set-Cookie` header -/

section SetCookie

variable {name value path : GoString}

theorem pathAttribute_path (hpath : Plain path) (hslash : path.head? = some 47)
    (old : Option GoString) : pathAttribute old (bytes " Path=" ++ path) = some path := by
  have hcut : (bytes " Path=" ++ path).cut 61 = (bytes " Path", path) := by
    have htext : bytes " Path=" ++ path = bytes " Path" ++ 61 :: path := by
      rw [show bytes " Path=" = bytes " Path" ++ [61] by decide, List.append_assoc]
      rfl
    rw [htext]
    exact List.cut_append_cons (by decide) path
  have hname : (trimString (bytes " Path")).map lowerByte = bytes "path" := by decide
  rw [pathAttribute, hcut]
  dsimp only
  rw [if_pos hname, hpath.trimString_eq, if_pos hslash]

/-- A client reads the name, the value and the path that were written, where no other path
follows. -/
theorem parseSetCookie_eq (texts : List GoString) (hname : Plain name) (hne : name ≠ [])
    (hvalue : Plain value) {line : GoString}
    (hline : line.splitOn 59 = cookiePair name value :: texts)
    (htexts : texts.foldl pathAttribute none = some path) :
    parseSetCookie line = some ⟨name, value, some path⟩ := by
  have hequals : 61 ∈ cookiePair name value := by
    rw [cookiePair_eq]
    simp
  rw [parseSetCookie, hline]
  dsimp only
  rw [cut_cookiePair hname, htexts]
  dsimp only
  rw [hname.trimString_eq, hvalue.trimString_eq, if_pos (by simp [hequals, hne])]

/-- The line of the Node proxy. -/
def nodeCookieLine (name value path : GoString) : GoString :=
  name ++ bytes "=" ++ value ++ bytes "; Path=" ++ path

theorem parseSetCookie_nodeCookieLine (hname : Plain name) (hne : name ≠ []) (hvalue : Plain value)
    (hpath : Plain path) (hslash : path.head? = some 47) :
    parseSetCookie (nodeCookieLine name value path) = some ⟨name, value, some path⟩ := by
  have hline : nodeCookieLine name value path =
      cookiePair name value ++ 59 :: (bytes " Path=" ++ path) := by
    rw [nodeCookieLine, show bytes "; Path=" = 59 :: bytes " Path=" by decide]
    simp [cookiePair]
  have hattribute : 59 ∉ bytes " Path=" ++ path := by
    rw [List.mem_append, not_or]
    exact ⟨by decide, hpath.notMem (by decide)⟩
  refine parseSetCookie_eq [bytes " Path=" ++ path] hname hne hvalue ?_ ?_
  · rw [hline, List.splitOn_append_cons_self_of_not_mem (notMem_cookiePair hname hvalue),
      List.splitOn_eq_singleton hattribute]
  · exact pathAttribute_path hpath hslash none

theorem parseSetCookie_cookieString (hname : Plain name) (htoken : isToken name = true)
    (hvalue : Plain value) (hpath : Plain path) (hslash : path.head? = some 47) :
    parseSetCookie (cookieString name value path) = some ⟨name, value, some path⟩ := by
  have hne : name ≠ [] := by
    rintro rfl
    cases htoken
  have hpathNe : path ≠ [] := by
    rintro rfl
    cases hslash
  have hline : cookieString name value path = cookiePair name value ++ 59 ::
      (bytes " Path=" ++ path ++ 59 :: bytes " HttpOnly; SameSite=Lax") := by
    rw [cookieString, if_pos htoken, if_neg hpathNe, hvalue.sanitizeCookieValue_eq,
      hpath.filter_path, show bytes "; Path=" = 59 :: bytes " Path=" by decide,
      show bytes "; HttpOnly; SameSite=Lax" = 59 :: bytes " HttpOnly; SameSite=Lax" by decide]
    simp [cookiePair]
  have hattribute : 59 ∉ bytes " Path=" ++ path := by
    rw [List.mem_append, not_or]
    exact ⟨by decide, hpath.notMem (by decide)⟩
  have hrest : (bytes " HttpOnly; SameSite=Lax").splitOn 59 =
      [bytes " HttpOnly", bytes " SameSite=Lax"] := by decide
  refine parseSetCookie_eq [bytes " Path=" ++ path, bytes " HttpOnly", bytes " SameSite=Lax"]
    hname hne hvalue ?_ ?_
  · rw [hline, List.splitOn_append_cons_self_of_not_mem (notMem_cookiePair hname hvalue),
      List.splitOn_append_cons_self_of_not_mem hattribute, hrest]
  · rw [List.foldl_cons, pathAttribute_path hpath hslash]
    rfl

end SetCookie

end TenantPlatform
