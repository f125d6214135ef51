import TenantPlatform.Model.Routes
import TenantPlatform.Verification.Jobs.Tables

/-! # Operations on tenants and their keys

What the operations report is enough to say which keys stand: `Fact` is what an operator
learns from their results, and `Effect` what they do to the two tables behind it. -/

namespace TenantPlatform

open Effect

variable {cfg : Settings}

inductive KeyOp where
  | createTenant (tenantData : TenantCreate)
  | updateTenant (tenantId : ℕ) (tenantData : TenantUpdate)
  | deleteTenant (tenantId : ℕ)
  | createApiKey (tenantId : ℕ) (keyData : ApiKeyCreate)
  | revokeApiKey (tenantId : ℕ) (keyId : ℤ)

/-- A key was returned for a tenant, the row with a hash was revoked, a tenant was deleted,
or a tenant was reported active or not. -/
inductive Fact where
  | issued (tenantId : ℕ) (key : String)
  | revoked (keyHash : String)
  | deleted (tenantId : ℕ)
  | active (tenantId : ℕ) (isActive : Bool)
deriving DecidableEq, Repr

/-- What the result of the service tells. -/
def KeyOp.report (cfg : Settings) : KeyOp → Py (List Fact)
  | .createTenant tenantData => do
      let ((id, tenant), key) ← createTenantService cfg tenantData
      return [.issued id key, .active id tenant.isActive]
  | .updateTenant tenantId tenantData => do
      match ← updateTenantService tenantId tenantData with
      | some (id, tenant) => return [.active id tenant.isActive]
      | none => return []
  | .deleteTenant tenantId => do
      let deletedCount ← deleteTenantService tenantId
      return if deletedCount = 0 then [] else [.deleted tenantId]
  | .createApiKey tenantId keyData => do
      let (_, key) ← createApiKeyService cfg tenantId keyData
      return [.issued tenantId key]
  | .revokeApiKey tenantId keyId => do
      match ← revokeApiKeyService tenantId keyId with
      | some (_, row) => return [.revoked row.keyHash]
      | none => return []

/-- One operation. It tells nothing when it raises. -/
def KeyOp.run (cfg : Settings) (op : KeyOp) (ω : ℕ → Outcome) (w : World) : List Fact × World :=
  match (op.report cfg).run handle ω w with
  | (.ok facts, w') => (facts, w')
  | (.error _, w') => ([], w')

/-- Operations one after another, each with its own outcomes. The latest facts come first. -/
def keyRuns (cfg : Settings) (ops : List (KeyOp × (ℕ → Outcome))) (s : List Fact × World) :
    List Fact × World :=
  ops.foldl (fun s op => ((op.1.run cfg op.2 s.2).1 ++ s.1, (op.1.run cfg op.2 s.2).2)) s

/-! ## What the statements do -/

theorem not_of_anyRow {α : Type} {t : Table α} {p : α → Bool} (h : anyRow t p = false) {id : ℕ}
    {a : α} (ha : t.get id = some a) : p a = false := by
  cases hp : p a with
  | false => rfl
  | true =>
      have hmem := (t.mem_select p id a).mpr ⟨ha, hp⟩
      simp only [anyRow, Bool.not_eq_false', List.isEmpty_iff] at h
      rw [h] at hmem
      cases hmem

/-- The rows of tenants and keys are the same. -/
def Database.SameKeys (db db' : Database) : Prop :=
  db'.tenants.get = db.tenants.get ∧ db'.apiKeys.get = db.apiKeys.get

namespace Database

variable {db : Database}

theorem keyViolation_none {tenantId : ℕ} {name keyPrefix keyHash : String}
    (h : db.keyViolation tenantId name keyPrefix keyHash = none) {id : ℕ} {row : ApiKey}
    (hrow : db.apiKeys.get id = some row) : row.keyHash ≠ keyHash := by
  unfold keyViolation at h
  split at h
  · cases h
  · split at h
    · cases h
    · rename_i hany
      simpa using not_of_anyRow (Bool.eq_false_of_not_eq_true hany) hrow

theorem flushTenant_cases (db : Database) (want : ℕ) (name k8sNamespace : String) :
    (∃ x db', db.flushTenant want name k8sNamespace = (.error x, db') ∧ db.SameKeys db') ∨
      db.flushTenant want name k8sNamespace =
        (.ok (db.tenants.fresh want), { db with tenants := db.tenants.reserve want }) := by
  unfold flushTenant
  dsimp only
  split
  · exact .inl ⟨_, _, rfl, rfl, rfl⟩
  · split
    · exact .inl ⟨_, _, rfl, rfl, rfl⟩
    · exact .inr rfl

theorem commitTenant_cases (db : Database) (want now id : ℕ)
    (name k8sNamespace keyName keyPrefix keyHash : String) :
    (∃ x db', db.commitTenant want now id name k8sNamespace keyName keyPrefix keyHash =
      (.error x, db') ∧ db.SameKeys db') ∨
    (∃ tenant row db', db.commitTenant want now id name k8sNamespace keyName keyPrefix keyHash =
        (.ok tenant, db') ∧
      tenant.isActive = true ∧ row.tenantId = id ∧ row.keyHash = keyHash ∧ row.revokedAt = none ∧
      (∀ j row', db.apiKeys.get j = some row' → row'.keyHash ≠ keyHash) ∧
      db'.tenants.get = (db.tenants.put id tenant).get ∧
      db'.apiKeys.get = (db.apiKeys.put (db.apiKeys.fresh want) row).get) := by
  unfold commitTenant
  dsimp only
  split
  · exact .inl ⟨_, _, rfl, rfl, rfl⟩
  · split
    · exact .inl ⟨_, _, rfl, rfl, rfl⟩
    · split
      · exact .inl ⟨_, _, rfl, rfl, rfl⟩
      · rename_i hnone
        exact .inr ⟨_, ⟨id, keyName, keyPrefix, keyHash, now, none⟩, _, rfl, rfl, rfl, rfl, rfl,
          fun j row hrow => keyViolation_none hnone hrow, rfl, rfl⟩

theorem insertApiKey_cases (db : Database) (want now tenantId : ℕ)
    (name keyPrefix keyHash : String) :
    (∃ x db', db.insertApiKey want now tenantId name keyPrefix keyHash = (.error x, db') ∧
      db.SameKeys db') ∨
    (∃ row db', db.insertApiKey want now tenantId name keyPrefix keyHash =
        (.ok (db.apiKeys.fresh want, row), db') ∧
      row.tenantId = tenantId ∧ row.keyHash = keyHash ∧ row.revokedAt = none ∧
      (db.tenants.get tenantId).isSome ∧
      (∀ j row', db.apiKeys.get j = some row' → row'.keyHash ≠ keyHash) ∧
      db'.tenants.get = db.tenants.get ∧
      db'.apiKeys.get = (db.apiKeys.put (db.apiKeys.fresh want) row).get) := by
  unfold insertApiKey
  dsimp only
  split
  · exact .inl ⟨_, _, rfl, rfl, rfl⟩
  · rename_i hnone
    split
    · exact .inl ⟨_, _, rfl, rfl, rfl⟩
    · rename_i htenant
      exact .inr ⟨_, _, rfl, rfl, rfl, rfl, by simpa [Option.isSome_iff_ne_none] using htenant,
        fun j row hrow => keyViolation_none hnone hrow, rfl, rfl⟩

theorem updateTenant_cases (db : Database) (id : ℕ) (changes : TenantChanges) :
    (∃ x, db.updateTenant id changes = (.error x, db)) ∨
    (∃ tenant db', db.updateTenant id changes = (.ok tenant, db') ∧
      (db.tenants.get id).isSome ∧ db'.tenants.get = (db.tenants.put id tenant).get ∧
      db'.apiKeys.get = db.apiKeys.get) := by
  unfold updateTenant
  split
  · exact .inl ⟨_, rfl⟩
  · rename_i old hold
    split
    · exact .inl ⟨_, rfl⟩
    · dsimp only
      split
      · exact .inl ⟨_, rfl⟩
      · exact .inr ⟨_, _, rfl, Option.isSome_of_eq_some hold, rfl, rfl⟩

theorem revokeApiKey_cases (db : Database) (id revokedAt : ℕ) :
    (∃ x, db.revokeApiKey id revokedAt = (.error x, db)) ∨
    (∃ old db', db.revokeApiKey id revokedAt =
        (.ok { old with revokedAt := some revokedAt }, db') ∧
      db.apiKeys.get id = some old ∧ db'.tenants.get = db.tenants.get ∧
      db'.apiKeys.get = (db.apiKeys.put id { old with revokedAt := some revokedAt }).get) := by
  unfold revokeApiKey
  split
  · exact .inl ⟨_, rfl⟩
  · rename_i old hold
    exact .inr ⟨old, _, rfl, hold, rfl, rfl⟩

theorem deleteTenant_cases (db : Database) (id : ℕ) :
    (∃ x, db.deleteTenant id = (.error x, db)) ∨ db.deleteTenant id = (.ok 0, db) ∨
      ∃ db', db.deleteTenant id = (.ok 1, db') ∧
        db'.tenants = db.tenants.keep (fun j _ => j ≠ id) ∧
        db'.apiKeys = db.apiKeys.keep (fun _ k => k.tenantId ≠ id) := by
  unfold deleteTenant
  split
  · exact .inr (.inl rfl)
  · split
    · exact .inl ⟨_, rfl⟩
    · rename_i db' hok
      obtain ⟨htenants, hkeys, -⟩ := cascadeTenant_ok hok
      exact .inr (.inr ⟨db', rfl, htenants, hkeys⟩)

end Database

/-! ## What the operations do -/

/-- All that an operation can do to the rows of tenants and keys, with the facts it tells. -/
inductive KeyEffect (hash : String → String) (db db' : Database) : List Fact → Prop where
  | quiet (h : db.SameKeys db') : KeyEffect hash db db' []
  | created (id : ℕ) (tenant : Tenant) (keyId : ℕ) (key : String) (row : ApiKey)
      (hnew : db.tenants.get id = none) (hfresh : db.apiKeys.get keyId = none)
      (hactive : tenant.isActive = true)
      (hrow : row.tenantId = id ∧ row.keyHash = hash key ∧ row.revokedAt = none)
      (hunique : ∀ j row', db.apiKeys.get j = some row' → row'.keyHash ≠ hash key)
      (htenants : db'.tenants.get = (db.tenants.put id tenant).get)
      (hkeys : db'.apiKeys.get = (db.apiKeys.put keyId row).get) :
      KeyEffect hash db db' [.issued id key, .active id tenant.isActive]
  | updated (id : ℕ) (tenant : Tenant) (hold : (db.tenants.get id).isSome)
      (htenants : db'.tenants.get = (db.tenants.put id tenant).get)
      (hkeys : db'.apiKeys.get = db.apiKeys.get) :
      KeyEffect hash db db' [.active id tenant.isActive]
  | deleted (id : ℕ) (htenants : db'.tenants = db.tenants.keep (fun j _ => j ≠ id))
      (hkeys : db'.apiKeys = db.apiKeys.keep (fun _ k => k.tenantId ≠ id)) :
      KeyEffect hash db db' [.deleted id]
  | issued (keyId : ℕ) (key : String) (row : ApiKey) (hfresh : db.apiKeys.get keyId = none)
      (hrow : row.keyHash = hash key ∧ row.revokedAt = none)
      (htenant : (db.tenants.get row.tenantId).isSome)
      (hunique : ∀ j row', db.apiKeys.get j = some row' → row'.keyHash ≠ hash key)
      (htenants : db'.tenants.get = db.tenants.get)
      (hkeys : db'.apiKeys.get = (db.apiKeys.put keyId row).get) :
      KeyEffect hash db db' [.issued row.tenantId key]
  | revoked (keyId revokedAt : ℕ) (old : ApiKey) (hold : db.apiKeys.get keyId = some old)
      (htenants : db'.tenants.get = db.tenants.get)
      (hkeys : db'.apiKeys.get =
        (db.apiKeys.put keyId { old with revokedAt := some revokedAt }).get) :
      KeyEffect hash db db' [.revoked old.keyHash]

/-- An operation that raised tells nothing. -/
theorem keyEffect_of_error {op : KeyOp} {ω : ℕ → Outcome} {w v : World} {x : PyException}
    (h : (op.report cfg).run handle ω w = (.error x, v)) (hsame : w.db.SameKeys v.db) :
    KeyEffect cfg.hashApiKey w.db (op.run cfg ω w).2.db (op.run cfg ω w).1 := by
  rw [KeyOp.run, h]
  exact .quiet hsame

theorem keyEffect_of_ok {op : KeyOp} {ω : ℕ → Outcome} {w v : World} {facts : List Fact}
    (h : (op.report cfg).run handle ω w = (.ok facts, v))
    (heffect : KeyEffect cfg.hashApiKey w.db v.db facts) :
    KeyEffect cfg.hashApiKey w.db (op.run cfg ω w).2.db (op.run cfg ω w).1 := by
  rw [KeyOp.run, h]
  exact heffect

theorem keyEffect_run (op : KeyOp) (ω : ℕ → Outcome) (w : World) :
    KeyEffect cfg.hashApiKey w.db (op.run cfg ω w).2.db (op.run cfg ω w).1 := by
  cases op with
  | createTenant tenantData =>
      rcases w.db.flushTenant_cases (ω 0).want tenantData.name "pending" with
        ⟨x, db', hflush, hsame⟩ | hflush
      · refine keyEffect_of_error (x := x) (v := ⟨db', w.cluster⟩) ?_ hsame
        simp [KeyOp.report, createTenantService, flushTenant, Prog.run_call, handle, handleDb,
          hflush]
      · rcases Database.commitTenant_cases { w.db with tenants := w.db.tenants.reserve (ω 0).want }
          (ω 2).want (ω 2).now (w.db.tenants.fresh (ω 0).want) tenantData.name
          (tenantNamespace (w.db.tenants.fresh (ω 0).want)) "primary"
          (keyPrefix ("mtp_" ++ (ω 1).token)) (cfg.hashApiKey ("mtp_" ++ (ω 1).token)) with
          ⟨x, db', hcommit, hsame⟩ | ⟨tenant, row, db', hcommit, hactive, hid, hhash, hrevoked,
            hunique, htenants, hkeys⟩
        · refine keyEffect_of_error (x := x) (v := ⟨db', w.cluster⟩) ?_ hsame
          simp [KeyOp.report, createTenantService, generateSecureKey, flushTenant, tokenUrlsafe,
            commitTenant, Prog.run_call, handle, handleSys, handleDb, hflush, hcommit]
        · refine keyEffect_of_ok (v := ⟨db', w.cluster⟩) ?_
            (.created _ tenant _ _ row (w.db.tenants.get_fresh _) (w.db.apiKeys.get_fresh _) hactive
              ⟨hid, hhash, hrevoked⟩ hunique htenants hkeys)
          simp [KeyOp.report, createTenantService, generateSecureKey, flushTenant, tokenUrlsafe,
            commitTenant, Prog.run_call, handle, handleSys, handleDb, hflush, hcommit]
  | updateTenant tenantId tenantData =>
      cases hold : w.db.tenants.get tenantId with
      | none =>
          refine keyEffect_of_ok (v := w) ?_ (.quiet ⟨rfl, rfl⟩)
          simp [KeyOp.report, updateTenantService, getTenant, Prog.run_call, handle, handleDb, hold]
      | some old =>
          by_cases hfields : tenantData.changes = ⟨none, none⟩
          · refine keyEffect_of_error (x := .valueError "No fields were provided for update.")
              (v := w) ?_ ⟨rfl, rfl⟩
            simp [KeyOp.report, updateTenantService, getTenant, Prog.run_call, handle, handleDb,
              hold, hfields]
          · rcases w.db.updateTenant_cases tenantId tenantData.changes with
              ⟨x, heq⟩ | ⟨tenant, db', heq, hsome, htenants, hkeys⟩
            · refine keyEffect_of_error (x := x) (v := w) ?_ ⟨rfl, rfl⟩
              simp [KeyOp.report, updateTenantService, getTenant, updateTenant, Prog.run_call,
                handle, handleDb, hold, hfields, heq]
            · refine keyEffect_of_ok (v := ⟨db', w.cluster⟩) ?_
                (.updated tenantId tenant hsome htenants hkeys)
              simp [KeyOp.report, updateTenantService, getTenant, updateTenant, Prog.run_call,
                handle, handleDb, hold, hfields, heq]
  | deleteTenant tenantId =>
      rcases w.db.deleteTenant_cases tenantId with ⟨x, heq⟩ | heq | ⟨db', heq, htenants, hkeys⟩
      · refine keyEffect_of_error (x := x) (v := w) ?_ ⟨rfl, rfl⟩
        simp [KeyOp.report, deleteTenantService, deleteTenant, Prog.run_call, handle, handleDb, heq]
      · refine keyEffect_of_ok (v := w) ?_ (.quiet ⟨rfl, rfl⟩)
        simp [KeyOp.report, deleteTenantService, deleteTenant, Prog.run_call, handle, handleDb, heq]
      · refine keyEffect_of_ok (v := ⟨db', w.cluster⟩) ?_ (.deleted tenantId htenants hkeys)
        simp [KeyOp.report, deleteTenantService, deleteTenant, Prog.run_call, handle, handleDb, heq]
  | createApiKey tenantId keyData =>
      rcases w.db.insertApiKey_cases (ω 1).want (ω 1).now tenantId keyData.name
        (keyPrefix ("mtp_" ++ (ω 0).token)) (cfg.hashApiKey ("mtp_" ++ (ω 0).token)) with
        ⟨x, db', heq, hsame⟩ | ⟨row, db', heq, rfl, hhash, hrevoked, htenant, hunique, htenants,
          hkeys⟩
      · refine keyEffect_of_error (x := x) (v := ⟨db', w.cluster⟩) ?_ hsame
        simp [KeyOp.report, createApiKeyService, generateSecureKey, tokenUrlsafe, insertApiKey,
          Prog.run_call, handle, handleSys, handleDb, heq]
      · refine keyEffect_of_ok (v := ⟨db', w.cluster⟩) ?_
          (.issued _ _ row (w.db.apiKeys.get_fresh _) ⟨hhash, hrevoked⟩ htenant hunique htenants
            hkeys)
        simp [KeyOp.report, createApiKeyService, generateSecureKey, tokenUrlsafe, insertApiKey,
          Prog.run_call, handle, handleSys, handleDb, heq]
  | revokeApiKey tenantId keyId =>
      cases hfound : (lookupInt w.db.apiKeys keyId).map
          (fun r => r.filter (fun k => decide (k.2.tenantId = tenantId))) with
      | error x =>
          refine keyEffect_of_error (x := x) (v := w) ?_ ⟨rfl, rfl⟩
          simp [KeyOp.report, revokeApiKeyService, getApiKeyService, selectApiKey, Prog.run_call,
            handle, handleDb, hfound]
      | ok found =>
          cases found with
          | none =>
              refine keyEffect_of_ok (v := w) ?_ (.quiet ⟨rfl, rfl⟩)
              simp [KeyOp.report, revokeApiKeyService, getApiKeyService, selectApiKey,
                Prog.run_call, handle, handleDb, hfound]
          | some r =>
              rcases w.db.revokeApiKey_cases r.1 (ω 1).now with
                ⟨x, heq⟩ | ⟨old, db', heq, hold, htenants, hkeys⟩
              · refine keyEffect_of_error (x := x) (v := w) ?_ ⟨rfl, rfl⟩
                simp [KeyOp.report, revokeApiKeyService, getApiKeyService, selectApiKey, nowNaive,
                  revokeApiKey, Prog.run_call, handle, handleSys, handleDb, hfound, heq]
              · refine keyEffect_of_ok (v := ⟨db', w.cluster⟩) ?_
                  (.revoked r.1 (ω 1).now old hold htenants hkeys)
                simp [KeyOp.report, revokeApiKeyService, getApiKeyService, selectApiKey, nowNaive,
                  revokeApiKey, Prog.run_call, handle, handleSys, handleDb, hfound, heq]

end TenantPlatform
