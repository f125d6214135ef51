import TenantPlatform.Verification.Proxy.Affinity
import TenantPlatform.Verification.Proxy.Forwarding

/-! # What the two proxies make of a request target

The Node proxy matches the target as it was sent and forwards the rest of it byte for byte. The Go
proxy parses it, redirects it if the path is not clean, matches the decoded path, and encodes what
is left anew. -/

namespace TenantPlatform

/-! ## Request targets -/

/-- The target that the Go proxy requests of a pod, if it requests any. `main.go` puts its handler
behind a `ServeMux`. -/
def Handler.upstreamTarget (h : Handler) (target host : GoString) (cookie : List GoString) :
    Option GoString :=
  (Url.parse target).bind (fun url =>
    if url.isClean then
      match h.route ⟨url, host, cookie⟩ with
      | .forward f => some f.out.requestTarget
      | _ => none
    else none)

/-- The bytes from `!` to `~`, of which both servers take a target to be made. -/
def isVisible (b : UInt8) : Bool := 33 ≤ b && b ≤ 126

/-- The target that the Node proxy requests of a pod. Node's HTTP parser itself answers 400 to a
target with a byte that is not visible, such as one from 0x80 on. -/
def StickyProxy.upstreamTarget (p : StickyProxy) (target : GoString) (cookie : Option GoString) :
    Option GoString :=
  if target.all isVisible then
    match p.route target cookie with
    | .forward u => some u.forwardPath
    | _ => none
  else none

theorem isControl_of_isVisible {b : UInt8} (h : isVisible b = true) : isControl b = false := by
  simp only [isVisible, Bool.and_eq_true, decide_eq_true_eq, UInt8.le_iff_toNat_le] at h
  simp only [isControl, Bool.or_eq_false_iff, decide_eq_false_iff_not, UInt8.lt_iff_toNat_lt,
    ← UInt8.toNat_inj]
  have h33 : (33 : UInt8).toNat = 33 := rfl
  have h126 : (126 : UInt8).toNat = 126 := rfl
  have h32 : (32 : UInt8).toNat = 32 := rfl
  have h127 : (127 : UInt8).toNat = 127 := rfl
  omega

theorem isVisible_of_isDigit {b : UInt8} (h : Bytes.isDigit b = true) : isVisible b = true := by
  simp only [Bytes.isDigit, Bool.and_eq_true, decide_eq_true_eq, UInt8.le_iff_toNat_le] at h
  simp only [isVisible, Bool.and_eq_true, decide_eq_true_eq, UInt8.le_iff_toNat_le]
  have h33 : (33 : UInt8).toNat = 33 := rfl
  have h126 : (126 : UInt8).toNat = 126 := rfl
  have h48 : (48 : UInt8).toNat = 48 := rfl
  have h57 : (57 : UInt8).toNat = 57 := rfl
  omega

/-- The part of a target before the rest is visible. -/
theorem all_isVisible {d : GoString} (hd : ∀ b ∈ d, Bytes.isDigit b = true) {rest : GoString}
    (hrest : rest.all isVisible = true) : (bytes "/t/" ++ d ++ rest).all isVisible = true := by
  have hprefix : (bytes "/t/").all isVisible = true := by decide
  have hdigits : d.all isVisible = true :=
    List.all_eq_true.mpr (fun b hb => isVisible_of_isDigit (hd b hb))
  rw [List.all_append, List.all_append, hprefix, hdigits, hrest]
  rfl

/-! ## Encodings -/

theorem notMem_escape (t : GoString) : 63 ∉ escape t := by
  have hhex : ∀ n : Fin 16, upperhex n ≠ 63 := by decide
  intro hmem
  obtain ⟨b, -, hb⟩ := List.mem_flatMap.mp hmem
  unfold escapeByte at hb
  split at hb
  · simp only [List.mem_cons, List.not_mem_nil, or_false] at hb
    have hlt : b.toNat / 16 < 16 := by
      have := b.toNat_lt
      omega
    rcases hb with hb | hb | hb
    · cases hb
    · exact hhex ⟨_, hlt⟩ hb.symm
    · exact hhex ⟨_, Nat.mod_lt _ (by decide)⟩ hb.symm
  · rename_i hesc
    rw [← List.mem_singleton.mp hb] at hesc
    exact hesc (by decide)

theorem escape_of_plain {s : GoString} (h : ∀ b ∈ s, shouldEscape b = false) : escape s = s := by
  induction s with
  | nil => rfl
  | cons b s ih =>
      have hbyte : escapeByte b = [b] := if_neg (by simp [h b List.mem_cons_self])
      rw [escape, List.flatMap_cons, hbyte]
      exact congrArg (b :: ·) (ih (fun c hc => h c (List.mem_cons_of_mem _ hc)))

theorem ishex_of_isUpperHex {a : UInt8} (h : isUpperHex a = true) : ishex a = true := by
  unfold isUpperHex at h
  unfold ishex
  simp only [Bool.or_eq_true] at h ⊢
  exact h.elim (fun h => .inl (.inl h)) .inr

theorem DefaultEncoded.unescape {s : GoString} (h : DefaultEncoded s = true) :
    ∃ t, TenantPlatform.unescape s = some t := by
  induction s using unescape.induct with
  | case1 => exact ⟨[], rfl⟩
  | case2 a b rest hhex ih =>
      rw [DefaultEncoded] at h
      obtain ⟨t, ht⟩ := ih (Bool.and_eq_true_iff.mp h).2
      exact ⟨_, by rw [TenantPlatform.unescape, if_pos hhex, ht]; rfl⟩
  | case3 a b rest hhex =>
      rw [DefaultEncoded] at h
      simp only [Bool.and_eq_true] at h
      exact absurd (Bool.and_eq_true_iff.mpr ⟨ishex_of_isUpperHex h.1.1.1.1,
        ishex_of_isUpperHex h.1.1.1.2⟩) hhex
  | case4 rest hshort =>
      rw [DefaultEncoded] at h
      · rw [shouldEscape_percent] at h
        cases h
      · exact hshort
  | case5 c rest hshort hc ih =>
      rw [defaultEncoded_cons hc] at h
      obtain ⟨t, ht⟩ := ih (Bool.and_eq_true_iff.mp h).2
      exact ⟨_, by rw [unescape_cons hc, ht]; rfl⟩

/-! ## The Node proxy -/

section Node

variable {url d rest : GoString}

/-- The patterns differ in carriage returns only. -/
theorem tenantPathRe_of_tenantPath (h : tenantPath url = some (d, rest)) (hcr : 13 ∉ rest) :
    tenantPathRe url = some (d, rest) := by
  unfold tenantPath at h
  unfold tenantPathRe
  split at h
  · rename_i hprefix
    rw [if_pos hprefix]
    dsimp only at h ⊢
    split at h
    · rename_i hmatch
      cases h
      rw [if_pos]
      simp only [Bool.and_eq_true, Bool.or_eq_true] at hmatch ⊢
      exact ⟨hmatch.1, hmatch.2.imp id (fun hrest => ⟨hrest, by simpa using hcr⟩)⟩
    · cases h
  · cases h

/-- A query right after the id is none of its paths. -/
theorem tenantPathRe_query (hd : ∀ b ∈ d, Bytes.isDigit b = true) (query : GoString) :
    tenantPathRe (bytes "/t/" ++ d ++ 63 :: query) = none := by
  cases hpath : tenantPathRe (bytes "/t/" ++ d ++ 63 :: query) with
  | none => rfl
  | some r =>
      obtain ⟨d', rest'⟩ := r
      have h := (tenantPath_eq_some.mp (tenantPath_of_tenantPathRe hpath)).1
      have heq : d ++ 63 :: query = d' ++ rest' := by
        have := h.eq
        rwa [List.append_assoc, List.append_assoc, List.append_cancel_left_eq] at this
      have hdrop := (takeWhile_digits h.digits h.slash).2
      have hmark : Bytes.isDigit 63 = false := by decide
      rw [← heq, List.dropWhile_append_of_pos hd, List.dropWhile_cons_of_neg (by simp [hmark])]
        at hdrop
      rw [← hdrop] at h
      rcases h.slash with hnil | hslash
      · cases hnil
      · cases hslash

/-- The rest of a target is forwarded as it is. -/
theorem StickyProxy.upstreamTarget_eq {p : StickyProxy} {ips : List GoString}
    (cookie : Option GoString) (hvisible : url.all isVisible = true)
    (hpath : tenantPathRe url = some (d, rest))
    (hips : p.getEndpointIPs (bytes "tenant-" ++ d) = .ok ips) (hne : ips ≠ []) :
    p.upstreamTarget url cookie = some (if rest = [] then bytes "/" else rest) := by
  unfold StickyProxy.upstreamTarget StickyProxy.route
  rw [if_pos hvisible, hpath]
  dsimp only
  rw [hips]
  dsimp only
  rw [dif_neg hne]

end Node

/-! ## The Go proxy -/

section Go

variable {h : Handler} {d rest tail : GoString}

/-- The path of a target ends at its first question mark. -/
theorem parse_target (hd : ∀ b ∈ d, Bytes.isDigit b = true) (hmark : 63 ∉ rest)
    (htail : tail = [] ∨ tail.head? = some 63) (hcontrol : (rest ++ tail).any isControl = false) :
    Url.parse (bytes "/t/" ++ d ++ (rest ++ tail)) =
      Url.ofTarget (bytes "/t/" ++ d ++ rest) tail.tail := by
  have hpath : 63 ∉ bytes "/t/" ++ d ++ rest := by
    simp only [List.mem_append, not_or]
    exact ⟨⟨by decide, fun hmem => absurd (hd 63 hmem) (by decide)⟩, hmark⟩
  have hplain : d.any isControl = false :=
    List.any_eq_false.mpr (fun b hb =>
      ne_true_of_eq_false (isControl_of_isVisible (isVisible_of_isDigit (hd b hb))))
  have hprefix : (bytes "/t/").any isControl = false := by decide
  rw [Url.parse, List.any_append, List.any_append, hprefix, hplain, hcontrol, ← List.append_assoc,
    List.cut_append hpath htail]
  rfl

/-- The Go proxy requests a target if the path is clean and decodes, to no newline. What it requests
is the decoded path, encoded, and the query, unless there is none. -/
theorem Handler.upstreamTarget_eq_some (host : GoString) (cookie : List GoString)
    (hd : ∀ b ∈ d, Bytes.isDigit b = true) (hne : d ≠ [])
    (hslash : rest = [] ∨ rest.head? = some 47) (hmark : 63 ∉ rest)
    (htail : tail = [] ∨ tail.head? = some 63) (hcontrol : (rest ++ tail).any isControl = false)
    (hready : h.resolver (bytes "tenant-" ++ d) ≠ []) (out : GoString) :
    h.upstreamTarget (bytes "/t/" ++ d ++ (rest ++ tail)) host cookie = some out ↔
      ∃ url decoded, Url.ofTarget (bytes "/t/" ++ d ++ rest) tail.tail = some url ∧
        url.isClean = true ∧ unescape rest = some decoded ∧ 10 ∉ decoded ∧
        (if rest = [] then bytes "/" else escape decoded) ++
          (if tail.tail = [] then [] else 63 :: tail.tail) = out := by
  rw [Handler.upstreamTarget, parse_target hd hmark htail hcontrol]
  cases hurl : Url.ofTarget (bytes "/t/" ++ d ++ rest) tail.tail with
  | none => simp
  | some url =>
      obtain ⟨decoded, hdecoded, hempty, htenant, hquery⟩ :=
        tenantPath_of_target (r := ⟨url, host, cookie⟩) hd hne hslash hurl
      rw [Option.bind_some, hdecoded]
      cases hclean : url.isClean with
      | false => simp [hclean]
      | true =>
          rw [if_pos rfl]
          by_cases hnl : 10 ∈ decoded
          · -- no route
            refine iff_of_false ?_ (by simp [hnl])
            split
            · rename_i f hroute
              exact absurd hroute (route_ne_forward_of_newline htenant hnl)
            · simp
          · obtain ⟨f, hroute, -, hpath, hraw, hrawQuery, -⟩ :=
              route_forward (h := h) (tenantPath_eq_some.mpr ⟨htenant, hnl⟩) hready
            rw [hroute]
            dsimp only
            rw [Url.requestTarget, escapedPath_forwarded htenant hempty hraw hpath, hrawQuery,
              hquery]
            simp [hclean, hnl]

/-- In the default encoding, the path is the one that was sent. -/
theorem escapedPath_of_defaultEncoded {url : Url} {query : GoString}
    (hd : ∀ b ∈ d, Bytes.isDigit b = true) (hdefault : DefaultEncoded rest = true)
    (hurl : Url.ofTarget (bytes "/t/" ++ d ++ rest) query = some url) :
    url.escapedPath = bytes "/t/" ++ d ++ rest := by
  obtain ⟨decoded, hdecoded⟩ := DefaultEncoded.unescape hdefault
  have hescape := ((escape_eq_iff hdecoded).mpr hdefault).1
  have hprefix : escape (bytes "/t/" ++ d) = bytes "/t/" ++ d := by
    refine escape_of_plain (fun b hb => ?_)
    rcases List.mem_append.mp hb with hb | hb
    · have hplain : (bytes "/t/").all (fun b => !shouldEscape b) = true := by decide
      simpa using List.all_eq_true.mp hplain b hb
    · simp [shouldEscape, hd b hb]
  have hpath : escape (bytes "/t/" ++ d ++ decoded) = bytes "/t/" ++ d ++ rest := by
    rw [escape, List.flatMap_append]
    exact congrArg₂ (· ++ ·) hprefix hescape
  rw [Url.ofTarget, unescape_target hd, hdecoded] at hurl
  cases hurl
  rw [escapedPath_of_slash (if_pos hpath) (by rw [bytes_t]; rfl)]
  exact hpath

theorem isClean_of_defaultEncoded (hd : ∀ b ∈ d, Bytes.isDigit b = true)
    (hdefault : DefaultEncoded rest = true) (query : GoString) :
    (∃ url, Url.ofTarget (bytes "/t/" ++ d ++ rest) query = some url ∧ url.isClean = true) ↔
      cleanPath (bytes "/t/" ++ d ++ rest) = bytes "/t/" ++ d ++ rest := by
  obtain ⟨decoded, hdecoded⟩ := DefaultEncoded.unescape hdefault
  obtain ⟨url, hurl⟩ : ∃ url, Url.ofTarget (bytes "/t/" ++ d ++ rest) query = some url := by
    rw [Url.ofTarget, unescape_target hd, hdecoded]
    exact ⟨_, rfl⟩
  have hescaped := escapedPath_of_defaultEncoded hd hdefault hurl
  rw [hurl]
  constructor
  · rintro ⟨url', heq, hclean⟩
    obtain rfl := Option.some.inj heq
    rwa [Url.isClean, hescaped, decide_eq_true_eq] at hclean
  · intro hclean
    exact ⟨url, rfl, by rwa [Url.isClean, hescaped, decide_eq_true_eq]⟩

/-- A path without a rest is clean. -/
theorem cleanPath_tenant (hd : ∀ b ∈ d, Bytes.isDigit b = true) (hne : d ≠ []) :
    cleanPath (bytes "/t/" ++ d) = bytes "/t/" ++ d := by
  have hslash : 47 ∉ d := fun hmem => absurd (hd 47 hmem) (by decide)
  have hdot : 46 ∉ d := fun hmem => absurd (hd 46 hmem) (by decide)
  have helements : (bytes "/t/" ++ d).splitOn 47 = [[], [116], d] := by
    rw [bytes_t]
    show ([] ++ 47 :: ([116] ++ 47 :: d)).splitOn 47 = _
    rw [List.splitOn_append_cons_self_of_not_mem (by simp),
      List.splitOn_append_cons_self_of_not_mem (by decide), List.splitOn_eq_singleton hslash]
  have hkept : [[], [116], d].foldl cleanElement [] = [[116], d] := by
    have hone : d ≠ bytes "." := fun heq => hdot (heq ▸ by decide)
    have htwo : d ≠ bytes ".." := fun heq => hdot (heq ▸ by decide)
    have ht : cleanElement (cleanElement [] []) [116] = [[116]] := by decide
    rw [List.foldl_cons, List.foldl_cons, List.foldl_cons, List.foldl_nil, ht, cleanElement,
      if_neg (by simp [hne, hone]), if_neg htwo]
    rfl
  have hclean : pathClean (bytes "/t/" ++ d) = bytes "/t/" ++ d := by
    rw [pathClean, helements, hkept, bytes_t]
    simp [List.intercalate]
  have hlast : (bytes "/t/" ++ d).getLast? ≠ some 47 := by
    rw [List.getLast?_append_of_ne_nil _ hne]
    exact fun heq => hslash (List.mem_of_getLast? heq)
  have hhead : (bytes "/t/" ++ d).head? = some 47 := by
    rw [bytes_t]
    rfl
  simp only [cleanPath, hhead, if_true, hclean, hlast]
  simp

end Go

/-! ## Both proxies -/

/-- A query right after the id is served by one proxy only. -/
example : (sampleHandler.over sampleCache).upstreamTarget (bytes "/t/3?x=1") (bytes "proxy") [] =
      some (bytes "/?x=1") ∧
    sampleStickyProxy.upstreamTarget (bytes "/t/3?x=1") none = none := by
  decide

/-- A byte beyond ASCII is refused by one proxy and forwarded by the other. -/
example : (sampleHandler.over sampleCache).upstreamTarget (bytes "/t/3/?" ++ [0xE9])
      (bytes "proxy") [] = some (bytes "/?" ++ [0xE9]) ∧
    sampleStickyProxy.upstreamTarget (bytes "/t/3/?" ++ [0xE9]) none = none := by
  decide

/-- A doubled slash is redirected by one proxy and forwarded by the other. -/
example : (sampleHandler.over sampleCache).upstreamTarget (bytes "/t/3//") (bytes "proxy") [] =
      none ∧
    sampleStickyProxy.upstreamTarget (bytes "/t/3//") none = some (bytes "//") := by
  decide

end TenantPlatform
