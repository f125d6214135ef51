import TenantPlatform.Verification.Proxy.Routing

/-! # The URL that reaches the app

The Go proxy matches the decoded path and forwards what is left of it, to be encoded anew. The
app sees the client's URL exactly where the default encoding is the one the client used. -/

namespace TenantPlatform

def isUpperHex (b : UInt8) : Bool := Bytes.isDigit b || (65 ≤ b && b ≤ 70)

/-- Every escape is one the default encoding makes, in upper case and not of a newline, and
every other byte is one it leaves alone. -/
def DefaultEncoded : GoString → Bool
  | [] => true
  | 37 :: a :: b :: rest =>
      isUpperHex a && isUpperHex b && shouldEscape (unhexByte a b) && unhexByte a b ≠ 10 &&
        DefaultEncoded rest
  | c :: rest => !shouldEscape c && DefaultEncoded rest

/-! ## Single bytes -/

theorem hex_digit (a : UInt8) (ha : ishex a = true) :
    unhex a < 16 ∧ (upperhex (unhex a) = a ↔ isUpperHex a = true) := by
  have hall : ∀ n : Fin 256, ishex (UInt8.ofNat n) = true → unhex (UInt8.ofNat n) < 16 ∧
      (upperhex (unhex (UInt8.ofNat n)) = UInt8.ofNat n ↔ isUpperHex (UInt8.ofNat n) = true) := by
    decide +kernel
  have h := hall ⟨a.toNat, a.toNat_lt⟩
  simp only [UInt8.ofNat_toNat] at h
  exact h ha

theorem toNat_unhexByte {a b : UInt8} (ha : ishex a = true) (hb : ishex b = true) :
    (unhexByte a b).toNat = unhex a * 16 + unhex b := by
  have hlt : unhex a * 16 + unhex b < 256 := by
    have := (hex_digit a ha).1
    have := (hex_digit b hb).1
    omega
  exact UInt8.toNat_ofNat_of_lt' hlt

theorem escapeByte_unhexByte {a b : UInt8} (ha : ishex a = true) (hb : ishex b = true)
    (hesc : shouldEscape (unhexByte a b) = true) :
    escapeByte (unhexByte a b) = [37, a, b] ↔ isUpperHex a = true ∧ isUpperHex b = true := by
  have hblt := (hex_digit b hb).1
  have hhigh : (unhexByte a b).toNat / 16 = unhex a := by
    rw [toNat_unhexByte ha hb]
    omega
  have hlow : (unhexByte a b).toNat % 16 = unhex b := by
    rw [toNat_unhexByte ha hb]
    omega
  rw [escapeByte, if_pos hesc, hhigh, hlow, ← (hex_digit a ha).2, ← (hex_digit b hb).2]
  simp

theorem shouldEscape_percent : shouldEscape 37 = true := by decide

theorem shouldEscape_newline : shouldEscape 10 = true := by decide

/-! ## Decoding and encoding again -/

theorem unescape_cons {c : UInt8} (hc : c ≠ 37) (rest : GoString) :
    unescape (c :: rest) = (unescape rest).map (fun s => c :: s) := by
  rw [unescape]
  · exact if_neg hc
  · exact fun _ _ _ heq => absurd heq hc

theorem defaultEncoded_cons {c : UInt8} (hc : c ≠ 37) (rest : GoString) :
    DefaultEncoded (c :: rest) = (!shouldEscape c && DefaultEncoded rest) := by
  rw [DefaultEncoded]
  exact fun _ _ _ heq => absurd heq hc

/-- Encoding gives a decoded text back exactly if it was in the default encoding. -/
theorem escape_eq_iff {s t : GoString} (h : unescape s = some t) :
    (escape t = s ∧ 10 ∉ t) ↔ DefaultEncoded s = true := by
  induction s using unescape.induct generalizing t with
  | case1 =>
      obtain rfl := Option.some.inj h
      simp [escape, DefaultEncoded]
  | case2 a b rest hhex ih =>
      -- an escape: the byte must be one that is escaped, and in these very digits
      rw [unescape, if_pos hhex] at h
      obtain ⟨t, ht, rfl⟩ := Option.map_eq_some_iff.mp h
      obtain ⟨ha, hb⟩ := Bool.and_eq_true_iff.mp hhex
      rw [DefaultEncoded, escape, List.flatMap_cons, List.mem_cons, not_or]
      by_cases hesc : shouldEscape (unhexByte a b) = true
      · have hsplit : escapeByte (unhexByte a b) ++ escape t = 37 :: a :: b :: rest ↔
            escapeByte (unhexByte a b) = [37, a, b] ∧ escape t = rest := by
          have hlength : (escapeByte (unhexByte a b)).length = [37, a, b].length := by
            rw [escapeByte, if_pos hesc]
            rfl
          refine ⟨fun heq => List.append_inj heq hlength, ?_⟩
          rintro ⟨hbyte, hrest⟩
          rw [hbyte, hrest]
          rfl
        have hrest := ih ht
        rw [show List.flatMap escapeByte t = escape t from rfl, hsplit,
          escapeByte_unhexByte ha hb hesc]
        simp only [Bool.and_eq_true, decide_eq_true_eq, ← hrest, hesc, ne_eq]
        constructor
        · rintro ⟨⟨⟨hua, hub⟩, hescape⟩, hnl, hnot⟩
          exact ⟨⟨⟨⟨hua, hub⟩, trivial⟩, fun heq => hnl heq.symm⟩, hescape, hnot⟩
        · rintro ⟨⟨⟨⟨hua, hub⟩, -⟩, hnl⟩, hescape, hnot⟩
          exact ⟨⟨⟨hua, hub⟩, hescape⟩, fun heq => hnl heq.symm, hnot⟩
      · -- the byte stays as it is, and it is no percent sign
        have hne : ¬ escapeByte (unhexByte a b) ++ List.flatMap escapeByte t =
            37 :: a :: b :: rest := by
          rw [escapeByte, if_neg hesc]
          intro heq
          rw [List.singleton_append, List.cons.injEq] at heq
          rw [heq.1] at hesc
          exact hesc shouldEscape_percent
        simp [hne, hesc]
  | case3 a b rest hhex =>
      rw [unescape, if_neg hhex] at h
      cases h
  | case4 rest hshort =>
      rw [unescape] at h
      · cases h
      · exact hshort
  | case5 c rest hshort hc ih =>
      rw [unescape_cons hc] at h
      obtain ⟨t, ht, rfl⟩ := Option.map_eq_some_iff.mp h
      have hrest := ih ht
      rw [defaultEncoded_cons hc, escape, List.flatMap_cons, List.mem_cons, not_or]
      by_cases hesc : shouldEscape c = true
      · have hne : ¬ escapeByte c ++ List.flatMap escapeByte t = c :: rest := by
          rw [escapeByte, if_pos hesc]
          intro heq
          rw [List.cons_append, List.cons.injEq] at heq
          exact hc heq.1.symm
        simp [hne, hesc]
      · have hnl : 10 ≠ c := by
          rintro rfl
          exact hesc shouldEscape_newline
        rw [escapeByte, if_neg hesc, List.singleton_append, List.cons.injEq]
        simp only [true_and, hnl, not_false_eq_true, hesc, Bool.not_false, Bool.true_and, ← hrest,
          escape]

/-- What has no escapes is left as it is. -/
theorem unescape_append {pre : GoString} (hpre : 37 ∉ pre) (rest : GoString) :
    unescape (pre ++ rest) = (unescape rest).map (fun s => pre ++ s) := by
  induction pre with
  | nil => simp
  | cons c pre ih =>
      rw [List.mem_cons, not_or] at hpre
      rw [List.cons_append, unescape_cons (Ne.symm hpre.1), ih hpre.2, Option.map_map]
      rfl

/-! ## The forwarded URL -/

section Target

variable {h : Handler} {r : GoRequest} {d rest query : GoString}

theorem unescape_target (hd : ∀ b ∈ d, Bytes.isDigit b = true) (rest : GoString) :
    unescape (bytes "/t/" ++ d ++ rest) =
      (unescape rest).map (fun s => bytes "/t/" ++ d ++ s) := by
  refine unescape_append ?_ rest
  rw [bytes_t]
  intro hmem
  rcases List.mem_append.mp hmem with hmem | hmem
  · revert hmem
    decide
  · exact absurd (hd 37 hmem) (by decide)

/-- The decoded path of a target below a tenant's prefix. -/
theorem tenantPath_of_target (hd : ∀ b ∈ d, Bytes.isDigit b = true) (hne : d ≠ [])
    (hslash : rest = [] ∨ rest.head? = some 47)
    (hurl : Url.ofTarget (bytes "/t/" ++ d ++ rest) query = some r.url) :
    ∃ decoded, unescape rest = some decoded ∧ (rest = [] ↔ decoded = []) ∧
      TenantPath r.url.path d decoded ∧ r.url.rawQuery = query := by
  obtain ⟨path, hpath, hr⟩ := Option.map_eq_some_iff.mp hurl
  rw [unescape_target hd] at hpath
  obtain ⟨decoded, hdecoded, rfl⟩ := Option.map_eq_some_iff.mp hpath
  have hstart : (rest = [] ↔ decoded = []) ∧ (decoded = [] ∨ decoded.head? = some 47) := by
    cases rest with
    | nil =>
        obtain rfl := Option.some.inj hdecoded
        simp
    | cons c rest =>
        obtain rfl : c = 47 := by simpa using hslash
        rw [unescape_cons (by decide)] at hdecoded
        obtain ⟨more, -, rfl⟩ := Option.map_eq_some_iff.mp hdecoded
        simp
  rw [← hr]
  exact ⟨decoded, hdecoded, hstart.1, ⟨rfl, hne, hd, hstart.2⟩, rfl⟩

/-- A path has one tenant and one rest only. -/
theorem TenantPath.unique {path d' rest' : GoString} (h : TenantPath path d rest)
    (h' : TenantPath path d' rest') : d = d' ∧ rest = rest' := by
  have heq : d ++ rest = d' ++ rest' := by
    have := h.eq.symm.trans h'.eq
    rwa [List.append_assoc, List.append_assoc, List.append_cancel_left_eq] at this
  have hsplit := takeWhile_digits h.digits h.slash
  rw [heq] at hsplit
  have hsplit' := takeWhile_digits h'.digits h'.slash
  exact ⟨hsplit.1.symm.trans hsplit'.1, hsplit.2.symm.trans hsplit'.2⟩

theorem TenantPath.head?_forwardPath {path forwardPath : GoString} (h : TenantPath path d rest)
    (hforward : forwardPath = if rest = [] then bytes "/" else rest) :
    forwardPath.head? = some 47 := by
  rw [hforward]
  split
  · decide
  · rename_i hrest
    exact h.slash.resolve_left hrest

theorem escapedPath_of_slash {u : Url} (hraw : u.rawPath = []) (hslash : u.path.head? = some 47) :
    u.escapedPath = escape u.path := by
  have hstar : u.path ≠ bytes "*" := by
    intro heq
    rw [heq] at hslash
    revert hslash
    decide
  rw [Url.escapedPath, hraw]
  simp [hstar]

/-- What the Go proxy makes of the rest of a target. -/
theorem escapedPath_forwarded {u : Url} {path decoded : GoString}
    (htenant : TenantPath path d decoded) (hempty : rest = [] ↔ decoded = [])
    (hraw : u.rawPath = []) (hpath : u.path = if decoded = [] then bytes "/" else decoded) :
    u.escapedPath = if rest = [] then bytes "/" else escape decoded := by
  rw [escapedPath_of_slash hraw (htenant.head?_forwardPath hpath), hpath]
  by_cases hrest : rest = []
  · rw [if_pos hrest, if_pos (hempty.mp hrest)]
    decide
  · rw [if_neg hrest, if_neg (fun hnil => hrest (hempty.mpr hnil))]

/-- The pattern's dot stands for no newline. -/
theorem route_ne_forward_of_newline {f : Forwarding} (htenant : TenantPath r.url.path d rest)
    (hnl : 10 ∈ rest) : h.route r ≠ .forward f := by
  intro hroute
  obtain ⟨rest', hpath, -⟩ := of_route_forward hroute
  obtain ⟨htenant', hnl'⟩ := tenantPath_eq_some.mp hpath
  exact hnl' ((htenant.unique htenant').2 ▸ hnl)

end Target

/-- A request for a tenant with a ready pod reaches the app with the client's path and query
exactly if the path was in the encoding that Go chooses, and no newline is in it. -/
theorem proxy_keeps_url_iff (h : Handler) {r : GoRequest} {d rest query : GoString} (hne : d ≠ [])
    (hd : ∀ b ∈ d, Bytes.isDigit b = true) (hslash : rest = [] ∨ rest.head? = some 47)
    (hurl : Url.ofTarget (bytes "/t/" ++ d ++ rest) query = some r.url)
    (hready : h.resolver (bytes "tenant-" ++ d) ≠ []) :
    (∃ f, h.route r = .forward f ∧
        f.out.escapedPath = (if rest = [] then bytes "/" else rest) ∧ f.out.rawQuery = query) ↔
      DefaultEncoded rest = true := by
  obtain ⟨decoded, hdecoded, hempty, htenant, hquery⟩ := tenantPath_of_target hd hne hslash hurl
  rw [← escape_eq_iff hdecoded]
  by_cases hnl : 10 ∈ decoded
  · -- no route at all
    refine iff_of_false ?_ (fun hpreserved => hpreserved.2 hnl)
    rintro ⟨f, hroute, -⟩
    exact route_ne_forward_of_newline htenant hnl hroute
  · obtain ⟨f, hroute, -, hpath, hraw, hrawQuery, -⟩ :=
      route_forward (h := h) (tenantPath_eq_some.mpr ⟨htenant, hnl⟩) hready
    have hescaped := escapedPath_forwarded htenant hempty hraw hpath
    have hsame : f.out.escapedPath = (if rest = [] then bytes "/" else rest) ↔
        escape decoded = rest := by
      rw [hescaped]
      by_cases hrest : rest = []
      · simp [hempty.mp hrest, hrest, escape]
      · simp [hrest]
    constructor
    · rintro ⟨f', hroute', hpath', -⟩
      obtain rfl := Routed.forward.inj (hroute.symm.trans hroute')
      exact ⟨hsame.mp hpath', hnl⟩
    · intro hpreserved
      exact ⟨f, hroute, hsame.mpr hpreserved.1, hrawQuery.trans hquery⟩

/-- An escaped slash in a segment reaches the app as a separator. -/
theorem escaped_slash_becomes_separator :
    ∃ u, Url.ofTarget (bytes "/t/3/a%2Fb") (bytes "x=1") = some u ∧
      ∃ f, (sampleHandler.over sampleCache).route ⟨u, bytes "proxy", []⟩ = .forward f ∧
        f.out.escapedPath = bytes "/a/b" ∧ f.out.escapedPath ≠ bytes "/a%2Fb" :=
  ⟨_, rfl, _, rfl, by decide, by decide⟩

/-- An escaped newline is no path of a tenant at all. -/
example : ∃ u, Url.ofTarget (bytes "/t/3/%0A") [] = some u ∧
    (sampleHandler.over sampleCache).route ⟨u, bytes "proxy", []⟩ = .notFound :=
  ⟨_, rfl, by decide⟩

theorem proxy_keeps_url_iff_sample :
    ∃ f, (sampleHandler.over sampleCache).route
        ⟨⟨[], [], bytes "/t/3/api/items", [], bytes "b=1"⟩, bytes "proxy", []⟩ = .forward f ∧
      f.out.escapedPath = bytes "/api/items" ∧ f.out.rawQuery = bytes "b=1" :=
  (proxy_keeps_url_iff (sampleHandler.over sampleCache) (by decide)
    (List.all_eq_true.mp (by decide)) (by decide)
    (show Url.ofTarget (bytes "/t/" ++ bytes "3" ++ bytes "/api/items") (bytes "b=1") = some _ by
      decide) (by decide)).mpr (by decide)

end TenantPlatform
