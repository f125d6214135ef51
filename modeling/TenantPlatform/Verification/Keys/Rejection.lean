import TenantPlatform.Verification.Keys.Acceptance
import TenantPlatform.Verification.Tenancy.NonInterference
import TenantPlatform.Verification.Webhooks.Signature

/-! # Credentials that are rejected

A check of a credential is to answer with a status, whatever bytes a header holds. The checks for
digits and for a signature let through a little more than what follows them can take. -/

namespace TenantPlatform

open Effect

/-! ## Key hashes are unique in every database -/

/-- The databases that statements lead to. -/
inductive Database.Reached : Database → Prop
  | empty : Database.empty.Reached
  | statement (want now : ℕ) (e : DbCall) {db : Database} (h : db.Reached) :
      (handleDb want now e db).2.Reached

section Unique

variable {db db' : Database}

theorem Database.UniqueKeyHashes.congr (h : db.UniqueKeyHashes)
    (hkeys : db'.apiKeys.get = db.apiKeys.get) : db'.UniqueKeyHashes := by
  intro id id' row row' hrow hrow'
  rw [hkeys] at hrow hrow'
  exact h id id' row row' hrow hrow'

/-- A row is put under a hash that no other row has. -/
theorem Database.UniqueKeyHashes.put (h : db.UniqueKeyHashes) {id : ℕ} {row : ApiKey}
    (hrow : ∀ j row', j ≠ id → db.apiKeys.get j = some row' → row'.keyHash ≠ row.keyHash)
    (hkeys : db'.apiKeys.get = (db.apiKeys.put id row).get) : db'.UniqueKeyHashes := by
  have hcases : ∀ j row', db'.apiKeys.get j = some row' →
      (j = id ∧ row' = row) ∨ (j ≠ id ∧ db.apiKeys.get j = some row') := by
    intro j row' hj
    rw [hkeys, Table.get_put] at hj
    split at hj
    · rename_i heq
      exact .inl ⟨heq, (Option.some.inj hj).symm⟩
    · rename_i hne
      exact .inr ⟨hne, hj⟩
  intro i j a b hi hj heq
  rcases hcases i a hi with ⟨rfl, rfl⟩ | ⟨hne, hi⟩
  · rcases hcases j b hj with ⟨rfl, -⟩ | ⟨hne', hj⟩
    · rfl
    · exact absurd heq.symm (hrow j b hne' hj)
  · rcases hcases j b hj with ⟨rfl, rfl⟩ | ⟨hne', hj⟩
    · exact absurd heq (hrow i a hne hi)
    · exact h i j a b hi hj heq

theorem Database.UniqueKeyHashes.keep (h : db.UniqueKeyHashes) {p : ℕ → ApiKey → Bool}
    (hkeys : db'.apiKeys = db.apiKeys.keep p) : db'.UniqueKeyHashes := by
  have hkept : ∀ j row, db'.apiKeys.get j = some row → db.apiKeys.get j = some row := by
    intro j row hj
    rw [hkeys, Table.get_keep, Option.filter_eq_some_iff] at hj
    exact hj.1
  intro i j a b hi hj
  exact h i j a b (hkept i a hi) (hkept j b hj)

/-- The constraint of the table survives every statement. -/
theorem Database.UniqueKeyHashes.statement (h : db.UniqueKeyHashes) (want now : ℕ) (e : DbCall) :
    (handleDb want now e db).2.UniqueKeyHashes := by
  cases e with
  | commitTenant id name ns keyName keyPrefix keyHash =>
      simp only [handleDb]
      rcases db.commitTenant_cases want now id name ns keyName keyPrefix keyHash with
        ⟨x, db', heq, hsame⟩ | ⟨tenant, row, db', heq, -, -, hhash, -, hunique, -, hkeys⟩
      · rw [heq]
        exact h.congr hsame.2
      · rw [heq]
        exact h.put (fun j row' _ hj => hhash ▸ hunique j row' hj) hkeys
  | deleteTenant id =>
      simp only [handleDb]
      rcases db.deleteTenant_cases id with ⟨x, heq⟩ | heq | ⟨db', heq, -, hkeys⟩
      · rw [heq]
        exact h
      · rw [heq]
        exact h
      · rw [heq]
        exact h.keep hkeys
  | insertApiKey tenantId name keyPrefix keyHash =>
      simp only [handleDb]
      rcases db.insertApiKey_cases want now tenantId name keyPrefix keyHash with
        ⟨x, db', heq, hsame⟩ | ⟨row, db', heq, -, hhash, -, -, hunique, -, hkeys⟩
      · rw [heq]
        exact h.congr hsame.2
      · rw [heq]
        exact h.put (fun j row' _ hj => hhash ▸ hunique j row' hj) hkeys
  | revokeApiKey id revokedAt =>
      simp only [handleDb]
      rcases db.revokeApiKey_cases id revokedAt with ⟨x, heq⟩ | ⟨old, db', heq, hold, -, hkeys⟩
      · rw [heq]
        exact h
      · rw [heq]
        refine h.put ?_ hkeys
        intro j row' hne hj hhash
        exact hne (h j id row' old hj hold hhash)
  | _ => exact h.congr (congrArg Table.get ((handleDb_sameOutside want now _ db).apiKeys rfl))

theorem Database.Reached.uniqueKeyHashes (h : db.Reached) : db.UniqueKeyHashes := by
  induction h with
  | empty =>
      intro id id' row row' hrow
      cases hrow
  | statement want now e _ ih => exact ih.statement want now e

end Unique

/-! ## The two dependencies -/

section Dependencies

variable {ω : ℕ → Outcome} {w : World}

/-- It returns exactly for the admin secret, and answers 401 to anything else. -/
def AdminChecked (adminSecretKey header : String) (ω : ℕ → Outcome) (w : World) : Prop :=
  if header = adminSecretKey then ((verifyAdmin adminSecretKey header).run handle ω w).1 = .ok ()
  else ((verifyAdmin adminSecretKey header).run handle ω w).1 =
    .error (.http 401 "Invalid admin secret")

def asciiText (s : String) : Bool := s.toList.all (fun c => c.toNat < 128)

/-- Two texts can be compared only if both are ASCII. -/
theorem adminChecked_iff {adminSecretKey header : String} (hkey : asciiText adminSecretKey = true) :
    AdminChecked adminSecretKey header ω w ↔ asciiText header = true := by
  unfold asciiText at hkey
  unfold AdminChecked verifyAdmin compareDigest asciiText
  rw [hkey, Bool.and_true]
  cases hheader : header.toList.all (fun c => decide (c.toNat < 128)) with
  | true =>
      rw [if_pos rfl]
      by_cases heq : header = adminSecretKey
      · simp [heq]
      · simp [heq, httpException]
  | false =>
      rw [if_neg Bool.false_ne_true]
      split
      · simp
      · simp

/-- A lookup of one row at most ends in one of three ways. -/
theorem verifyTenant_rejects (h : w.db.UniqueKeyHashes) (cfg : Settings) (tenantId : ℤ)
    (key : String) :
    ((verifyTenant cfg tenantId key).run handle ω w).1 = .ok () ∨
      ∃ detail, ((verifyTenant cfg tenantId key).run handle ω w).1 = .error (.http 401 detail) ∨
        ((verifyTenant cfg tenantId key).run handle ω w).1 = .error (.http 403 detail) := by
  have hlength := Database.length_lookup_le_one h (cfg.hashApiKey key)
  simp only [verifyTenant, lookupApiKey, Prog.call_bind, Prog.ret_bind, Prog.run_call, handle,
    handleDb]
  rcases hfound : w.db.lookupApiKey (cfg.hashApiKey key) with _ | ⟨⟨row, tenant⟩, _ | ⟨r, rest⟩⟩
  · exact .inr ⟨"Invalid or revoked API key", .inl (by simp [httpException])⟩
  · by_cases ht : (row.tenantId : ℤ) = tenantId
    · by_cases hactive : tenant.isActive = true
      · exact .inl (by simp [ht, hactive])
      · exact .inr ⟨"Tenant is inactive", .inr (by simp [ht, hactive, httpException])⟩
    · exact .inr ⟨"Forbidden resource", .inr (by simp [ht, httpException])⟩
  · rw [hfound] at hlength
    simp at hlength

end Dependencies

/-! ## The receiver -/

section Receiver

variable {py : Interpreter} {hmac : List UInt8 → List UInt8 → List UInt8} {secret : String}
  {now : ℤ} {request : WebhookRequest}

/-- What the receiver relies on without having checked it: each line has what the next step needs,
as far as it is reached. -/
structure Manageable (py : Interpreter) (hmac : List UInt8 → List UInt8 → List UInt8)
    (secret : String) (now : ℤ) (request : WebhookRequest) : Prop where
  digits : ∀ b ∈ request.timestamp.getD [], Bytes.isDigit b = true
  limit : ∀ limit, py.intMaxStrDigits = some limit → (request.timestamp.getD []).length ≤ limit
  ascii : (now - Bytes.value (request.timestamp.getD [])).natAbs ≤ replayWindowSeconds →
    ∀ b ∈ request.signature.getD [], b < 128
  printed : (now - Bytes.value (request.timestamp.getD [])).natAbs ≤ replayWindowSeconds →
    request.signature.getD [] = signatureText hmac secret
      (Bytes.value (request.timestamp.getD [])) request.rawBody → py.prints request.rawBody = true

/-- The status is one of the two that the receiver means to answer with. -/
def Answered (r : Except PyException ℕ) : Prop := r = .ok 200 ∨ r = .ok 401

theorem not_answered_error (x : PyException) : ¬ Answered (.error x) := by
  rintro (h | h) <;> cases h

/-- The comparison raises for a signature that is not ASCII, whatever it is compared with. -/
theorem compareDigestBytes_hex (provided digest : List UInt8) :
    compareDigestBytes provided (utf8 (hexEncode digest)) =
      if provided.all (fun x => x < 128) then .ok (provided = utf8 (hexEncode digest))
      else .error (.other "comparing strings with non-ASCII characters is not supported") := by
  have hhex : (utf8 (hexEncode digest)).all (fun x => decide (x < 128)) = true :=
    List.all_eq_true.mpr (fun x hx => decide_eq_true (lt_of_mem_utf8_hexEncode hx))
  rw [compareDigestBytes, hhex, Bool.and_true]

theorem signaturePrefix_ascii : ∀ b ∈ signaturePrefix, b < 128 := by
  have hall : signaturePrefix.all (fun b => b < 128) = true := by decide
  exact fun b hb => of_decide_eq_true (List.all_eq_true.mp hall b hb)

/-- Behind its two guards the receiver answers if and only if the request is manageable. -/
theorem answered_iff_manageable {provided : List UInt8}
    (hsig : request.signature.getD [] = signaturePrefix ++ provided)
    (hisdigit : strIsdigit (request.timestamp.getD []) = true) :
    Answered (py.doPost hmac secret now request) ↔ Manageable py hmac secret now request := by
  have hprefix : signaturePrefix.isPrefixOf (signaturePrefix ++ provided) = true :=
    List.isPrefixOf_iff_prefix.mpr (List.prefix_append _ _)
  unfold Interpreter.doPost
  simp only [hsig, hprefix, hisdigit, not_true_eq_false, if_false, List.drop_left]
  by_cases hint : (∀ b ∈ request.timestamp.getD [], Bytes.isDigit b = true) ∧
      ∀ limit, py.intMaxStrDigits = some limit → (request.timestamp.getD []).length ≤ limit
  · rw [int_of_digits hint.1 hint.2]
    generalize ht : Bytes.value (request.timestamp.getD []) = timestamp
    simp only [bind, Except.bind]
    split
    · rename_i hold
      refine iff_of_true (.inr rfl) ⟨hint.1, hint.2, fun hnow => ?_, fun hnow => ?_⟩
      · rw [ht] at hnow
        exact absurd hnow (Nat.not_le.mpr hold)
      · rw [ht] at hnow
        exact absurd hnow (Nat.not_le.mpr hold)
    · rename_i hnow
      have hnow := Nat.not_lt.mp hnow
      rw [hexdigest, compareDigestBytes_hex]
      by_cases hascii : provided.all (fun x => decide (x < 128)) = true
      · have hall : ∀ b ∈ request.signature.getD [], b < 128 := by
          rw [hsig]
          intro b hb
          rcases List.mem_append.mp hb with hb | hb
          · exact signaturePrefix_ascii b hb
          · exact of_decide_eq_true (List.all_eq_true.mp hascii b hb)
        rw [if_pos hascii]
        dsimp only
        by_cases hmatch : provided = utf8 (hexEncode (hmac (utf8 secret.toList)
            (utf8 (toString timestamp ++ ".").toList ++ request.rawBody)))
        · have hsigned : request.signature.getD [] =
              signatureText hmac secret timestamp request.rawBody := by
            rw [hsig, hmatch]
            rfl
          rw [if_pos (decide_eq_true hmatch)]
          cases hprints : py.prints request.rawBody with
          | true => exact iff_of_true (.inl rfl) ⟨hint.1, hint.2, fun _ => hall, fun _ _ => hprints⟩
          | false =>
              refine iff_of_false (not_answered_error _) (fun h => ?_)
              have := h.printed (by rw [ht]; exact hnow) (by rw [ht]; exact hsigned)
              rw [hprints] at this
              cases this
        · rw [if_neg (by simpa using hmatch)]
          refine iff_of_true (.inr rfl) ⟨hint.1, hint.2, fun _ => hall, fun _ hsigned => ?_⟩
          rw [ht, hsig] at hsigned
          exact absurd (List.append_cancel_left hsigned) hmatch
      · rw [if_neg hascii]
        refine iff_of_false (not_answered_error _) (fun h => hascii ?_)
        rw [List.all_eq_true]
        intro b hb
        apply decide_eq_true
        apply h.ascii (by rw [ht]; exact hnow)
        rw [hsig]
        exact List.mem_append_right _ hb
  · obtain ⟨x, hx⟩ := int_error hint
    rw [hx]
    exact iff_of_false (not_answered_error x) (fun h => hint ⟨h.digits, h.limit⟩)

end Receiver

/-- The admin check answers as it should to ASCII headers and no others; the tenant check always
does; and the receiver does if and only if a request that gets past its first two guards has
digits and a signature that `int` and `compare_digest` take. -/
theorem credential_checks_reject_iff (adminSecretKey : String)
    (hkey : asciiText adminSecretKey = true) (header : String) {w : World} (hdb : w.db.Reached)
    (ω : ℕ → Outcome) (cfg : Settings) (tenantId : ℤ) (key : String) (py : Interpreter)
    (hmac : List UInt8 → List UInt8 → List UInt8) (secret : String) (now : ℤ)
    (request : WebhookRequest) :
    (AdminChecked adminSecretKey header ω w ↔ asciiText header = true) ∧
    (((verifyTenant cfg tenantId key).run handle ω w).1 = .ok () ∨
      ∃ detail, ((verifyTenant cfg tenantId key).run handle ω w).1 = .error (.http 401 detail) ∨
        ((verifyTenant cfg tenantId key).run handle ω w).1 = .error (.http 403 detail)) ∧
    (Answered (py.doPost hmac secret now request) ↔
      (signaturePrefix.isPrefixOf (request.signature.getD []) = true →
        strIsdigit (request.timestamp.getD []) = true →
          Manageable py hmac secret now request)) := by
  refine ⟨adminChecked_iff hkey, verifyTenant_rejects hdb.uniqueKeyHashes cfg tenantId key, ?_⟩
  by_cases hprefix : signaturePrefix.isPrefixOf (request.signature.getD []) = true
  · by_cases hisdigit : strIsdigit (request.timestamp.getD []) = true
    · obtain ⟨provided, hsig⟩ := List.isPrefixOf_iff_prefix.mp hprefix
      rw [answered_iff_manageable hsig.symm hisdigit]
      exact ⟨fun h _ _ => h, fun h => h hprefix hisdigit⟩
    · refine iff_of_true (.inr ?_) (fun _ h => absurd h hisdigit)
      unfold Interpreter.doPost
      dsimp only
      rw [if_neg (not_not.mpr hprefix), if_pos hisdigit]
  · refine iff_of_true (.inr ?_) (fun h => absurd h hprefix)
    unfold Interpreter.doPost
    dsimp only
    rw [if_pos hprefix]

/-- A tenant and its key. -/
def keyedWorld : World where
  db :=
    (handleDb 0 0 (.commitTenant 1 "acme" (tenantNamespace 1) "primary" (keyPrefix sampleKey)
      (sampleSettings.hashApiKey sampleKey))
      (handleDb 0 0 (.flushTenant "acme" "pending") .empty).2).2
  cluster := .empty

theorem keyedWorld_reached : keyedWorld.db.Reached :=
  (Database.Reached.empty.statement 0 0 _).statement 0 0 _

/-- The key of one tenant is presented for another one, and the receiver gets a signed request. -/
theorem credential_checks_reject_iff_sample :
    AdminChecked "admin" "guest" (fun _ => .ok) keyedWorld ∧
      (∃ detail, ((verifyTenant sampleSettings 2 sampleKey).run handle (fun _ => .ok)
          keyedWorld).1 = .error (.http 401 detail) ∨
        ((verifyTenant sampleSettings 2 sampleKey).run handle (fun _ => .ok)
          keyedWorld).1 = .error (.http 403 detail)) ∧
      Answered (sampleInterpreter.doPost (markedSettings sampleEvent eventDigest).hmacSha256
        "secret" 1234568190 (sentRequest (markedSettings sampleEvent eventDigest) "secret"
          1234567890 sampleEvent)) := by
  obtain ⟨hadmin, htenant, hreceiver⟩ := credential_checks_reject_iff "admin" (by decide) "guest"
    keyedWorld_reached (fun _ => .ok) sampleSettings 2 sampleKey sampleInterpreter
    (markedSettings sampleEvent eventDigest).hmacSha256 "secret" 1234568190
    (sentRequest (markedSettings sampleEvent eventDigest) "secret" 1234567890 sampleEvent)
  refine ⟨hadmin.mpr (by decide), htenant.resolve_left (by decide +kernel),
    hreceiver.mpr (fun _ _ => ⟨?_, ?_, fun _ => ?_, fun _ _ => by decide⟩)⟩
  · decide +kernel
  · rintro limit ⟨⟩
    decide +kernel
  · decide +kernel

/-- An accent, and a superscript two for a timestamp. -/
theorem crafted_headers_crash_checks :
    ¬ AdminChecked "admin" "é" (fun _ => .ok) foreignJobWorld ∧
      ¬ Answered (Interpreter.doPost ⟨some 4300, fun _ => true⟩ (fun _ _ => []) "secret" 0
        ⟨some signaturePrefix, some [0xB2], []⟩) := by
  constructor
  · intro h
    exact absurd ((adminChecked_iff (by decide)).mp h) (by decide)
  · rintro (h | h) <;> exact absurd h (by decide)

end TenantPlatform
