import TenantPlatform.Model.WebhookTestReceiver
import TenantPlatform.Verification.Webhooks.FanOut

/-! # What a webhook signature authenticates

The sender and the receiver build the signed message each on its own: one from an integer,
the other from the text of a header. -/

namespace TenantPlatform

/-! ## Encodings -/

theorem utf8_append (s s' : List Char) : utf8 (s ++ s') = utf8 s ++ utf8 s' := List.flatMap_append

theorem utf8_ascii {s : List Char} (h : ∀ c ∈ s, c.toNat < 128) : utf8 s = Bytes.ascii s := by
  induction s with
  | nil => rfl
  | cons c s ih =>
      rw [utf8, List.flatMap_cons, Bytes.utf8EncodeChar_of_lt (h c List.mem_cons_self)]
      exact congrArg (List.cons _) (ih (fun c hc => h c (List.mem_cons_of_mem _ hc)))

theorem hexDigit_lt {n : ℕ} (h : n < 16) : (hexDigit n).toNat < 128 := by
  have hall : ∀ m : Fin 16, (hexDigit m).toNat < 128 := by decide
  exact hall ⟨n, h⟩

theorem hexDigit_inj {m n : ℕ} (hm : m < 16) (hn : n < 16) (h : hexDigit m = hexDigit n) :
    m = n := by
  have hall : ∀ a b : Fin 16, hexDigit a = hexDigit b → a = b := by decide
  exact congrArg Fin.val (hall ⟨m, hm⟩ ⟨n, hn⟩ h)

theorem toNat_lt_of_mem_hexEncode {bytes : List UInt8} {c : Char} (h : c ∈ hexEncode bytes) :
    c.toNat < 128 := by
  simp only [hexEncode, List.mem_flatMap, List.mem_cons, List.not_mem_nil, or_false] at h
  obtain ⟨b, -, rfl | rfl⟩ := h
  · have hb := b.toNat_lt
    exact hexDigit_lt (by omega)
  · exact hexDigit_lt (Nat.mod_lt _ (by decide))

theorem hexEncode_injective : Function.Injective hexEncode := by
  intro a b h
  induction a generalizing b with
  | nil =>
      cases b with
      | nil => rfl
      | cons y b => cases h
  | cons x a ih =>
      cases b with
      | nil => cases h
      | cons y b =>
          simp only [hexEncode, List.flatMap_cons, List.cons_append, List.nil_append,
            List.cons.injEq] at h
          obtain ⟨hhigh, hlow, hrest⟩ := h
          have hx := x.toNat_lt
          have hy := y.toNat_lt
          have hhigh := hexDigit_inj (by omega) (by omega) hhigh
          have hlow := hexDigit_inj (Nat.mod_lt _ (by decide)) (Nat.mod_lt _ (by decide)) hlow
          rw [ih hrest, UInt8.toNat_inj.mp (by omega : x.toNat = y.toNat)]

theorem utf8_hexEncode (bytes : List UInt8) :
    utf8 (hexEncode bytes) = Bytes.ascii (hexEncode bytes) :=
  utf8_ascii (fun _ => toNat_lt_of_mem_hexEncode)

theorem lt_of_mem_utf8_hexEncode {bytes : List UInt8} {b : UInt8}
    (h : b ∈ utf8 (hexEncode bytes)) : b < 128 := by
  rw [utf8_hexEncode] at h
  obtain ⟨c, hc, rfl⟩ := List.mem_map.mp h
  have hlt := toNat_lt_of_mem_hexEncode hc
  rw [UInt8.lt_iff_toNat_lt, Bytes.toNat_toUInt8 hlt]
  exact hlt

theorem utf8_hexEncode_injective : Function.Injective (fun bytes => utf8 (hexEncode bytes)) := by
  intro a b h
  simp only [utf8_hexEncode] at h
  exact hexEncode_injective (Bytes.ascii_inj (fun _ => toNat_lt_of_mem_hexEncode)
    (fun _ => toNat_lt_of_mem_hexEncode) h)

theorem utf8_toString (n : ℕ) : utf8 (toString n).toList = Bytes.decimal n := by
  rw [Nat.toList_toString]
  exact utf8_ascii (fun _ => Bytes.toNat_lt_of_mem_toDigits)

/-! ## The signed message -/

/-- `f"{timestamp}.".encode() + raw_body` -/
def signedMessage (timestamp : ℕ) (rawBody : List UInt8) : List UInt8 :=
  utf8 (toString timestamp ++ ".").toList ++ rawBody

theorem signedMessage_eq (timestamp : ℕ) (rawBody : List UInt8) :
    signedMessage timestamp rawBody = Bytes.decimal timestamp ++ 46 :: rawBody := by
  have hdot : utf8 ".".toList = [46] := by decide
  rw [signedMessage, String.toList_append, utf8_append, utf8_toString, hdot, List.append_assoc]
  rfl

/-- The first dot ends the timestamp, whatever the body begins with. -/
theorem signedMessage_inj {t t' : ℕ} {body body' : List UInt8}
    (h : signedMessage t body = signedMessage t' body') : t = t' ∧ body = body' := by
  have hdot : ∀ n, 46 ∉ Bytes.decimal n := by
    intro n hmem
    have hdigit := Bytes.isDigit_of_mem_decimal hmem
    cases hdigit
  rw [signedMessage_eq, signedMessage_eq] at h
  obtain ⟨hdigits, hbody⟩ := List.append_cons_inj (hdot t) (hdot t') h
  exact ⟨Bytes.decimal_injective hdigits, hbody⟩

/-! ## The receiver -/

section Receiver

variable {py : Interpreter} {hmac : List UInt8 → List UInt8 → List UInt8} {secret : String}
  {now : ℤ} {request : WebhookRequest}

/-- The signature under a secret, as a header carries it. -/
def signatureText (hmac : List UInt8 → List UInt8 → List UInt8) (secret : String) (timestamp : ℕ)
    (rawBody : List UInt8) : List UInt8 :=
  signaturePrefix ++ utf8 (hexdigest hmac (utf8 secret.toList) (signedMessage timestamp rawBody))

theorem compareDigestBytes_eq_true {a b : List UInt8} (h : compareDigestBytes a b = .ok true) :
    a = b := by
  unfold compareDigestBytes at h
  split at h
  · simpa using h
  · cases h

theorem compareDigestBytes_self {a : List UInt8} (h : ∀ x ∈ a, x < 128) :
    compareDigestBytes a a = .ok true := by
  simpa [compareDigestBytes, List.all_eq_true] using h

theorem int_of_digits {text : List UInt8} (hdigits : ∀ b ∈ text, Bytes.isDigit b = true)
    (hlimit : ∀ limit, py.intMaxStrDigits = some limit → text.length ≤ limit) :
    py.int text = .ok (Bytes.value text) := by
  have hall : text.all Bytes.isDigit = true := List.all_eq_true.mpr hdigits
  have hany : py.intMaxStrDigits.any (fun limit => decide (limit < text.length)) = false := by
    cases hmax : py.intMaxStrDigits with
    | none => rfl
    | some limit => simpa using hlimit limit hmax
  rw [Interpreter.int, hany, Bool.and_false, if_neg Bool.false_ne_true, intOf, if_pos hall]

/-- Superscripts and overlong numbers raise. -/
theorem int_error {text : List UInt8} (h : ¬ ((∀ b ∈ text, Bytes.isDigit b = true) ∧
    ∀ limit, py.intMaxStrDigits = some limit → text.length ≤ limit)) :
    ∃ x, py.int text = .error x := by
  unfold Interpreter.int intOf
  by_cases hall : text.all Bytes.isDigit = true
  · have hany : py.intMaxStrDigits.any (fun limit => decide (limit < text.length)) = true := by
      cases hmax : py.intMaxStrDigits with
      | none => exact absurd ⟨List.all_eq_true.mp hall, by simp [hmax]⟩ h
      | some limit =>
          by_contra hle
          refine h ⟨List.all_eq_true.mp hall, ?_⟩
          intro limit' heq
          rw [hmax] at heq
          cases heq
          simpa using hle
    rw [hall, hany]
    exact ⟨_, rfl⟩
  · rw [Bool.eq_false_of_not_eq_true hall]
    exact ⟨_, rfl⟩

/-- An accepted request is signed, under the receiver's secret, with the timestamp and the body
it carries, and the timestamp is recent. -/
theorem of_doPost_ok (h : py.doPost hmac secret now request = .ok 200) :
    ∃ timestamp, py.int (request.timestamp.getD []) = .ok timestamp ∧
      (now - timestamp).natAbs ≤ replayWindowSeconds ∧
      request.signature.getD [] = signatureText hmac secret timestamp request.rawBody := by
  unfold Interpreter.doPost at h
  simp only at h
  split at h
  · cases h
  · rename_i hprefix
    split at h
    · cases h
    · cases hint : py.int (request.timestamp.getD []) with
      | error e =>
          rw [hint] at h
          cases h
      | ok timestamp =>
          rw [hint] at h
          simp only [bind, Except.bind] at h
          split at h
          · cases h
          · rename_i hrecent
            refine ⟨timestamp, rfl, Nat.not_lt.mp hrecent, ?_⟩
            obtain ⟨provided, hsig⟩ := List.isPrefixOf_iff_prefix.mp (not_not.mp hprefix)
            rw [← hsig, List.drop_left] at h
            rw [← hsig]
            cases hmatch : compareDigestBytes provided (utf8 (hexdigest hmac (utf8 secret.toList)
                (utf8 (toString timestamp ++ ".").toList ++ request.rawBody))) with
            | error e =>
                rw [hmatch] at h
                cases h
            | ok matching =>
                cases matching with
                | true => exact congrArg _ (compareDigestBytes_eq_true hmatch)
                | false =>
                    rw [hmatch] at h
                    cases h

/-- The receiver can read the timestamp back and print the body. -/
structure Readable (py : Interpreter) (timestamp : ℕ) (rawBody : List UInt8) : Prop where
  limit : ∀ limit, py.intMaxStrDigits = some limit → (Bytes.decimal timestamp).length ≤ limit
  printed : py.prints rawBody = true

/-- A request that carries what the sender sends for a timestamp and a body is accepted as
long as the timestamp is recent, if the receiver does not stumble over one of the two. -/
theorem doPost_sent_iff (timestamp : ℕ) (rawBody : List UInt8) :
    py.doPost hmac secret now ⟨some (signatureText hmac secret timestamp rawBody),
        some (utf8 (toString timestamp).toList), rawBody⟩ = .ok 200 ↔
      (now - timestamp).natAbs ≤ replayWindowSeconds ∧ Readable py timestamp rawBody := by
  have hprefix : signaturePrefix.isPrefixOf (signatureText hmac secret timestamp rawBody) = true :=
    List.isPrefixOf_iff_prefix.mpr (List.prefix_append _ _)
  have hall : ∀ b ∈ Bytes.decimal timestamp, Bytes.isDigit b = true :=
    fun b hb => Bytes.isDigit_of_mem_decimal hb
  have hdigits : strIsdigit (Bytes.decimal timestamp) = true := by
    simp only [strIsdigit, Bool.and_eq_true, Bool.not_eq_true', List.isEmpty_eq_false_iff,
      List.all_eq_true, Bool.or_eq_true]
    exact ⟨Bytes.decimal_ne_nil timestamp, fun b hb => .inl (.inl (.inl (hall b hb)))⟩
  have hmatch : compareDigestBytes (utf8 (hexdigest hmac (utf8 secret.toList)
      (signedMessage timestamp rawBody))) (utf8 (hexdigest hmac (utf8 secret.toList)
        (signedMessage timestamp rawBody))) = .ok true :=
    compareDigestBytes_self (fun x hx => lt_of_mem_utf8_hexEncode hx)
  unfold Interpreter.doPost
  simp only [Option.getD_some, utf8_toString, hprefix, hdigits, not_true_eq_false, if_false]
  by_cases hlimit : ∀ limit, py.intMaxStrDigits = some limit →
      (Bytes.decimal timestamp).length ≤ limit
  · rw [int_of_digits hall hlimit, Bytes.value_decimal]
    simp only [bind, Except.bind]
    split
    · rename_i hold
      exact iff_of_false (fun h => by cases h) (fun h => absurd h.1 (Nat.not_le.mpr hold))
    · rename_i hrecent
      have hmessage : utf8 (toString timestamp ++ ".").toList ++ rawBody =
          signedMessage timestamp rawBody := rfl
      rw [signatureText, List.drop_left, hmessage, hmatch]
      cases hprints : py.prints rawBody with
      | true => exact iff_of_true rfl ⟨Nat.not_lt.mp hrecent, hlimit, hprints⟩
      | false =>
          refine iff_of_false (fun h => by cases h) (fun h => ?_)
          rw [h.2.printed] at hprints
          cases hprints
  · obtain ⟨x, hx⟩ := @int_error py _ (fun h => hlimit h.2)
    rw [hx]
    exact iff_of_false (fun h => by cases h) (fun h => hlimit h.2.limit)

end Receiver

/-! ## From the sender to the receiver -/

/-- What a receiver gets to see of a POST. -/
def Posted.request (p : Posted) : WebhookRequest where
  signature := (p.headers.lookup "X-Platform-Signature").map (fun v => utf8 v.toList)
  timestamp := (p.headers.lookup "X-Platform-Timestamp").map (fun v => utf8 v.toList)
  rawBody := utf8 p.content.toList

/-- The request of the headers that go out for a timestamp and a body. -/
def sentRequest (cfg : Settings) (secret : String) (timestamp : ℕ) (rawBody : List UInt8) :
    WebhookRequest where
  signature := some (utf8 ("sha256=" ++ signPayload cfg secret timestamp rawBody).toList)
  timestamp := some (utf8 (toString timestamp).toList)
  rawBody := rawBody

theorem sentRequest_signature (cfg : Settings) (secret : String) (timestamp : ℕ)
    (rawBody : List UInt8) : utf8 ("sha256=" ++ signPayload cfg secret timestamp rawBody).toList =
      signatureText cfg.hmacSha256 secret timestamp rawBody := by
  have hprefix : utf8 "sha256=".toList = signaturePrefix := by decide
  rw [String.toList_append, utf8_append, hprefix, signPayload, String.toList_ofList]
  rfl

/-- Every POST of a dispatch is such a request. -/
theorem Attempt.Faithful.request {a : Attempt} {cfg : Settings} {t : ℕ} {event : String}
    {payload : Payload} (h : a.Faithful cfg t event payload) :
    a.posted.request = sentRequest cfg a.registration.signingSecret a.row.timestamp
      (utf8 (jsonDumps payload).toList) := by
  rw [Posted.request, h.headers, h.content, h.signature]
  rfl

/-- A signature authenticates the timestamp and the body: the receiver accepts what the sender
sends while it is fresh, exactly when it can read both, and, as far as HMAC does not collide,
nothing else with its signature. -/
theorem signatures_authenticate_iff (py : Interpreter) (cfg : Settings) (secret : String) :
    (∀ (timestamp : ℕ) (rawBody : List UInt8) (now : ℤ),
      (py.doPost cfg.hmacSha256 secret now (sentRequest cfg secret timestamp rawBody) = .ok 200 ↔
        (now - timestamp).natAbs ≤ 300) ↔
      ((now - timestamp).natAbs ≤ 300 → Readable py timestamp rawBody)) ∧
    (∀ (now : ℤ) (request : WebhookRequest),
      py.doPost cfg.hmacSha256 secret now request = .ok 200 →
        ∃ timestamp, py.int (request.timestamp.getD []) = .ok timestamp ∧
          request.signature.getD [] =
            signatureText cfg.hmacSha256 secret timestamp request.rawBody) ∧
    ((∀ key, Function.Injective (cfg.hmacSha256 key)) →
      ∀ (timestamp : ℕ) (rawBody : List UInt8) (now : ℤ) (request : WebhookRequest),
        request.signature.getD [] = signatureText cfg.hmacSha256 secret timestamp rawBody →
        py.doPost cfg.hmacSha256 secret now request = .ok 200 →
          py.int (request.timestamp.getD []) = .ok timestamp ∧ request.rawBody = rawBody ∧
            now ≤ timestamp + 300) ∧
    ∀ (t t' : ℕ) (body body' : List UInt8),
      signedMessage t body = signedMessage t' body' → t = t' ∧ body = body' := by
  refine ⟨?_, ?_, ?_, fun _ _ _ _ h => signedMessage_inj h⟩
  · intro timestamp rawBody now
    rw [sentRequest, sentRequest_signature, doPost_sent_iff]
    show ((now - timestamp).natAbs ≤ 300 ∧ _ ↔ _) ↔ _
    exact and_iff_left_iff_imp
  · intro now request h
    obtain ⟨timestamp, hint, -, hsig⟩ := of_doPost_ok h
    exact ⟨timestamp, hint, hsig⟩
  · intro hinj timestamp rawBody now request hissued h
    obtain ⟨timestamp', hint, hrecent, hsig⟩ := of_doPost_ok h
    have hmessage : signedMessage timestamp' request.rawBody = signedMessage timestamp rawBody :=
      hinj _ (utf8_hexEncode_injective (List.append_cancel_left (hsig.symm.trans hissued)))
    obtain ⟨rfl, rfl⟩ := signedMessage_inj hmessage
    simp only [replayWindowSeconds] at hrecent
    exact ⟨hint, rfl, by omega⟩

/-- HMAC-SHA256 of one message; every other message keeps its own bytes, and one more than a
digest has. -/
def markedHmac (body digest key message : List UInt8) : List UInt8 :=
  if key = utf8 "secret".toList ∧ message = signedMessage 1234567890 body then digest
  else List.replicate (digest.length + 1) 0 ++ message

theorem markedHmac_injective (body digest key : List UInt8) :
    Function.Injective (markedHmac body digest key) := by
  intro m m' h
  unfold markedHmac at h
  split at h
  · rename_i hm
    split at h
    · rename_i hm'
      rw [hm.2, hm'.2]
    · have hlength := congrArg List.length h
      rw [List.length_append, List.length_replicate] at hlength
      omega
  · split at h
    · have hlength := congrArg List.length h
      rw [List.length_append, List.length_replicate] at hlength
      omega
    · exact List.append_cancel_left h

def markedSettings (body digest : List UInt8) : Settings :=
  { sampleSettings with hmacSha256 := markedHmac body digest }

def sampleEvent : List UInt8 := utf8 "\x7b\"event\":\"build.succeeded\"\x7d".toList

def eventDigest : List UInt8 :=
  [69, 93, 204, 100, 75, 93, 28, 56, 105, 158, 76, 219, 208, 149, 52, 138, 31, 117, 63, 46, 70,
    54, 134, 196, 92, 235, 250, 221, 189, 241, 254, 135]

/-- A JSON text of one string, which is a lone surrogate. -/
def loneSurrogate : List UInt8 := utf8 "\"\\ud800\"".toList

def surrogateDigest : List UInt8 :=
  [245, 15, 129, 141, 124, 191, 208, 71, 245, 53, 21, 138, 56, 119, 53, 206, 55, 10, 95, 237, 3,
    203, 147, 213, 243, 249, 57, 73, 29, 83, 128, 136]

/-- The default limit of `int`, and output in UTF-8, which takes all sample bodies but one. -/
def sampleInterpreter : Interpreter := ⟨some 4300, fun body => body ≠ loneSurrogate⟩

/-- Five minutes later the signature is still good, and says what it was issued for. -/
theorem signatures_authenticate_iff_event :
    sampleInterpreter.doPost (markedSettings sampleEvent eventDigest).hmacSha256 "secret" 1234568190
        (sentRequest (markedSettings sampleEvent eventDigest) "secret" 1234567890 sampleEvent) =
      .ok 200 ∧
      sampleInterpreter.int ((sentRequest (markedSettings sampleEvent eventDigest) "secret"
        1234567890 sampleEvent).timestamp.getD []) = .ok 1234567890 := by
  have hreadable : Readable sampleInterpreter 1234567890 sampleEvent := by
    refine ⟨?_, by decide⟩
    rintro limit ⟨⟩
    decide
  have hauthentic := signatures_authenticate_iff sampleInterpreter
    (markedSettings sampleEvent eventDigest) "secret"
  have haccepted := ((hauthentic.1 1234567890 sampleEvent 1234568190).mpr
    (fun _ => hreadable)).mpr (by decide)
  exact ⟨haccepted, (hauthentic.2.2.1 (markedHmac_injective sampleEvent eventDigest) 1234567890
    sampleEvent 1234568190
      (sentRequest (markedSettings sampleEvent eventDigest) "secret" 1234567890 sampleEvent)
      (sentRequest_signature _ "secret" 1234567890 sampleEvent) haccepted).1⟩

/-- The signature is right and not a second old, and yet no 200 is sent. -/
theorem surrogate_body_is_unanswered :
    ¬ (sampleInterpreter.doPost (markedSettings loneSurrogate surrogateDigest).hmacSha256 "secret"
        1234567890 (sentRequest (markedSettings loneSurrogate surrogateDigest) "secret" 1234567890
          loneSurrogate) = .ok 200 ↔ ((1234567890 : ℤ) - (1234567890 : ℕ)).natAbs ≤ 300) := by
  rw [sentRequest, sentRequest_signature, doPost_sent_iff]
  intro h
  have hprints := (h.mpr (by decide)).2.printed
  simp [sampleInterpreter] at hprints

end TenantPlatform
