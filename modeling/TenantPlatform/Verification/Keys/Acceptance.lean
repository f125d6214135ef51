import Mathlib.Data.Set.Function
import TenantPlatform.Verification.Keys.Operations

/-! # Which keys are accepted

A key stands from when it is returned until its row is revoked or its tenant is deleted.
The unrevoked rows are those of the keys that stand, whatever operations are done. -/

namespace TenantPlatform

open Effect

variable {hash : String → String}

/-- The key was issued for the tenant, and since then neither revoked nor its tenant deleted. -/
def Standing (hash : String → String) : List Fact → ℕ → String → Prop
  | [], _, _ => False
  | fact :: past, tenantId, key =>
      fact = .issued tenantId key ∨
        Standing hash past tenantId key ∧ fact ≠ .revoked (hash key) ∧ fact ≠ .deleted tenantId

/-- What was reported last of the tenant's activation. -/
def activeNow : List Fact → ℕ → Option Bool
  | [], _ => none
  | .active id isActive :: past, tenantId =>
      if id = tenantId then some isActive else activeNow past tenantId
  | _ :: past, tenantId => activeNow past tenantId

def Fact.issuedKey : Fact → Option String
  | .issued _ key => some key
  | _ => none

/-- The keys that were returned. -/
def issuedKeys (facts : List Fact) : List String := facts.filterMap Fact.issuedKey

instance decidableStanding (hash : String → String) :
    (facts : List Fact) → (tenantId : ℕ) → (key : String) →
    Decidable (Standing hash facts tenantId key)
  | [], _, _ => inferInstanceAs (Decidable False)
  | fact :: past, tenantId, key =>
      have : Decidable (Standing hash past tenantId key) :=
        decidableStanding hash past tenantId key
      inferInstanceAs (Decidable (fact = .issued tenantId key ∨
        Standing hash past tenantId key ∧ fact ≠ .revoked (hash key) ∧ fact ≠ .deleted tenantId))

/-! ## Standing keys and unrevoked rows -/

structure KeysAgree (hash : String → String) (facts : List Fact) (db : Database) : Prop where
  standing : ∀ tenantId key, Standing hash facts tenantId key → ∃ id row,
    db.apiKeys.get id = some row ∧ row.tenantId = tenantId ∧ row.keyHash = hash key ∧
      row.revokedAt = none
  issued : ∀ id row, db.apiKeys.get id = some row → row.revokedAt = none →
    ∃ key, Standing hash facts row.tenantId key ∧ row.keyHash = hash key
  unique : ∀ id id' row row', db.apiKeys.get id = some row → db.apiKeys.get id' = some row' →
    row.keyHash = row'.keyHash → id = id'
  owned : ∀ id row, db.apiKeys.get id = some row → (db.tenants.get row.tenantId).isSome
  active : ∀ id tenant, db.tenants.get id = some tenant →
    activeNow facts id = some tenant.isActive

theorem keysAgree_empty : KeysAgree hash [] .empty where
  standing _ _ h := h.elim
  issued _ _ h := by cases h
  unique _ _ _ _ h := by cases h
  owned _ _ h := by cases h
  active _ _ h := by cases h

section Step

variable {facts : List Fact} {db db' : Database} {keyId : ℕ} {row : ApiKey} {key : String}

/-- A new row, and the key it is for. -/
theorem KeysAgree.issue (h : KeysAgree hash facts db) (hrow : row.keyHash = hash key)
    (hrevoked : row.revokedAt = none) (hfresh : db.apiKeys.get keyId = none)
    (hunique : ∀ j row', db.apiKeys.get j = some row' → row'.keyHash ≠ hash key)
    (howned : ∀ id, (db.tenants.get id).isSome ∨ id = row.tenantId →
      (db'.tenants.get id).isSome)
    (hactive : ∀ id tenant, db'.tenants.get id = some tenant →
      activeNow facts id = some tenant.isActive)
    (hkeys : db'.apiKeys.get = (db.apiKeys.put keyId row).get) :
    KeysAgree hash (.issued row.tenantId key :: facts) db' := by
  have hget : ∀ j, db'.apiKeys.get j = if j = keyId then some row else db.apiKeys.get j :=
    fun j => congrFun hkeys j
  have hold : ∀ j row', db.apiKeys.get j = some row' → db'.apiKeys.get j = some row' := by
    intro j row' hj
    rw [hget, if_neg, hj]
    rintro rfl
    rw [hfresh] at hj
    cases hj
  have hcases : ∀ j row', db'.apiKeys.get j = some row' →
      (j = keyId ∧ row' = row) ∨ db.apiKeys.get j = some row' := by
    intro j row' hj
    rw [hget] at hj
    split at hj
    · rename_i heq
      exact .inl ⟨heq, (Option.some.inj hj).symm⟩
    · exact .inr hj
  constructor
  · rintro t k (heq | ⟨hstanding, -⟩)
    · obtain ⟨rfl, rfl⟩ := Fact.issued.inj heq
      exact ⟨keyId, row, by rw [hget, if_pos rfl], rfl, hrow, hrevoked⟩
    · obtain ⟨id, row', hid, hrest⟩ := h.standing t k hstanding
      exact ⟨id, row', hold id row' hid, hrest⟩
  · intro id row' hid hnone
    rcases hcases id row' hid with ⟨rfl, rfl⟩ | hid
    · exact ⟨key, .inl rfl, hrow⟩
    · obtain ⟨k, hstanding, hhash⟩ := h.issued id row' hid hnone
      exact ⟨k, .inr ⟨hstanding, by simp, by simp⟩, hhash⟩
  · intro id id' row₁ row₂ h₁ h₂ heq
    rcases hcases id row₁ h₁ with ⟨rfl, rfl⟩ | h₁
    · rcases hcases id' row₂ h₂ with ⟨rfl, -⟩ | h₂
      · rfl
      · exact absurd (heq.symm.trans hrow) (hunique id' row₂ h₂)
    · rcases hcases id' row₂ h₂ with ⟨rfl, rfl⟩ | h₂
      · exact absurd (heq.trans hrow) (hunique id row₁ h₁)
      · exact h.unique id id' row₁ row₂ h₁ h₂ heq
  · intro id row' hid
    rcases hcases id row' hid with ⟨-, rfl⟩ | hid
    · exact howned _ (.inr rfl)
    · exact howned _ (.inl (h.owned id row' hid))
  · exact hactive

theorem KeysAgree.congr (h : KeysAgree hash facts db) (hsame : db.SameKeys db') :
    KeysAgree hash facts db' := by
  obtain ⟨htenants, hkeys⟩ := hsame
  constructor
  · rw [hkeys]
    exact h.standing
  · rw [hkeys]
    exact h.issued
  · rw [hkeys]
    exact h.unique
  · rw [hkeys, htenants]
    exact h.owned
  · rw [htenants]
    exact h.active

/-- A tenant is stored, active or not. -/
theorem KeysAgree.activate {id : ℕ} {tenant : Tenant} (h : KeysAgree hash facts db)
    (htenants : db'.tenants.get = (db.tenants.put id tenant).get)
    (hkeys : db'.apiKeys.get = db.apiKeys.get) :
    KeysAgree hash (.active id tenant.isActive :: facts) db' := by
  have hget : ∀ j, db'.tenants.get j = if j = id then some tenant else db.tenants.get j :=
    fun j => congrFun htenants j
  constructor
  · rintro t k (heq | ⟨hstanding, -⟩)
    · cases heq
    · rw [hkeys]
      exact h.standing t k hstanding
  · intro j row hj hnone
    rw [hkeys] at hj
    obtain ⟨k, hstanding, hhash⟩ := h.issued j row hj hnone
    exact ⟨k, .inr ⟨hstanding, by simp, by simp⟩, hhash⟩
  · rw [hkeys]
    exact h.unique
  · intro j row hj
    rw [hkeys] at hj
    rw [hget]
    split
    · rfl
    · exact h.owned j row hj
  · intro j tenant' hj
    rw [hget] at hj
    split at hj
    · rename_i heq
      rw [activeNow, if_pos heq.symm, Option.some.inj hj]
    · rename_i hne
      rw [activeNow, if_neg (Ne.symm hne)]
      exact h.active j tenant' hj

theorem KeysAgree.delete {id : ℕ} (h : KeysAgree hash facts db)
    (htenants : db'.tenants = db.tenants.keep (fun j _ => j ≠ id))
    (hkeys : db'.apiKeys = db.apiKeys.keep (fun _ k => k.tenantId ≠ id)) :
    KeysAgree hash (.deleted id :: facts) db' := by
  have hkept : ∀ j row, db'.apiKeys.get j = some row ↔
      db.apiKeys.get j = some row ∧ row.tenantId ≠ id := by
    intro j row
    rw [hkeys, Table.get_keep, Option.filter_eq_some_iff, decide_eq_true_iff]
  have htenant : ∀ j, j ≠ id → db'.tenants.get j = db.tenants.get j := by
    intro j hj
    rw [htenants, Table.get_keep]
    cases db.tenants.get j with
    | none => rfl
    | some tenant => simp [Option.filter, hj]
  constructor
  · rintro t k (heq | ⟨hstanding, -, hne⟩)
    · cases heq
    · obtain ⟨j, row, hj, rfl, hrest⟩ := h.standing t k hstanding
      exact ⟨j, row, (hkept j row).mpr ⟨hj, fun heq => hne (by rw [heq])⟩, rfl, hrest⟩
  · intro j row hj hnone
    obtain ⟨hj, hne⟩ := (hkept j row).mp hj
    obtain ⟨k, hstanding, hhash⟩ := h.issued j row hj hnone
    exact ⟨k, .inr ⟨hstanding, by simp, fun heq => hne (Fact.deleted.inj heq).symm⟩, hhash⟩
  · intro j j' row row' hj hj'
    exact h.unique j j' row row' ((hkept j row).mp hj).1 ((hkept j' row').mp hj').1
  · intro j row hj
    obtain ⟨hj, hne⟩ := (hkept j row).mp hj
    rw [htenant _ hne]
    exact h.owned j row hj
  · intro j tenant hj
    have hne : j ≠ id := by
      rw [htenants, Table.get_keep, Option.filter_eq_some_iff, decide_eq_true_iff] at hj
      exact hj.2
    rw [htenant j hne] at hj
    exact h.active j tenant hj

/-- Only the row with the revoked hash changes, and it belongs to no other key. -/
theorem KeysAgree.revoke {old : ApiKey} {revokedAt : ℕ} (h : KeysAgree hash facts db)
    (hold : db.apiKeys.get keyId = some old) (htenants : db'.tenants.get = db.tenants.get)
    (hkeys : db'.apiKeys.get =
      (db.apiKeys.put keyId { old with revokedAt := some revokedAt }).get) :
    KeysAgree hash (.revoked old.keyHash :: facts) db' := by
  have hget : ∀ j, db'.apiKeys.get j =
      if j = keyId then some { old with revokedAt := some revokedAt } else db.apiKeys.get j :=
    fun j => congrFun hkeys j
  have hcases : ∀ j row, db'.apiKeys.get j = some row →
      (j = keyId ∧ row = { old with revokedAt := some revokedAt }) ∨
        (j ≠ keyId ∧ db.apiKeys.get j = some row) := by
    intro j row hj
    rw [hget] at hj
    split at hj
    · rename_i heq
      exact .inl ⟨heq, (Option.some.inj hj).symm⟩
    · rename_i hne
      exact .inr ⟨hne, hj⟩
  have hbefore : ∀ j row, db'.apiKeys.get j = some row → ∃ row', db.apiKeys.get j = some row' ∧
      row'.keyHash = row.keyHash ∧ row'.tenantId = row.tenantId := by
    intro j row hj
    rcases hcases j row hj with ⟨rfl, rfl⟩ | ⟨-, hj⟩
    · exact ⟨old, hold, rfl, rfl⟩
    · exact ⟨row, hj, rfl, rfl⟩
  constructor
  · rintro t k (heq | ⟨hstanding, hne, -⟩)
    · cases heq
    · obtain ⟨j, row, hj, ht, hhash, hnone⟩ := h.standing t k hstanding
      refine ⟨j, row, ?_, ht, hhash, hnone⟩
      rw [hget, if_neg, hj]
      rintro rfl
      rw [hold] at hj
      obtain rfl := Option.some.inj hj
      exact hne (by rw [hhash])
  · intro j row hj hnone
    rcases hcases j row hj with ⟨-, rfl⟩ | ⟨hne, hj⟩
    · cases hnone
    · obtain ⟨k, hstanding, hhash⟩ := h.issued j row hj hnone
      refine ⟨k, .inr ⟨hstanding, fun heq => hne ?_, by simp⟩, hhash⟩
      exact h.unique j keyId row old hj hold (hhash.trans (Fact.revoked.inj heq).symm)
  · intro j j' row row' hj hj' heq
    obtain ⟨row₁, h₁, hhash₁, -⟩ := hbefore j row hj
    obtain ⟨row₂, h₂, hhash₂, -⟩ := hbefore j' row' hj'
    exact h.unique j j' row₁ row₂ h₁ h₂ (hhash₁.trans (heq.trans hhash₂.symm))
  · intro j row hj
    obtain ⟨row', hj', -, ht⟩ := hbefore j row hj
    rw [htenants, ← ht]
    exact h.owned j row' hj'
  · rw [htenants]
    exact h.active

/-- The step lemma. -/
theorem KeysAgree.step {new : List Fact} (h : KeysAgree hash facts db)
    (he : KeyEffect hash db db' new) : KeysAgree hash (new ++ facts) db' := by
  cases he with
  | quiet hsame => exact h.congr hsame
  | created id tenant keyId key row hnew hfresh hactive hrow hunique htenants hkeys =>
      obtain ⟨rfl, hhash, hrevoked⟩ := hrow
      have hstored : KeysAgree hash (.active row.tenantId tenant.isActive :: facts)
          { db with tenants := db.tenants.put row.tenantId tenant } := h.activate rfl rfl
      refine hstored.issue hhash hrevoked hfresh hunique ?_ ?_ hkeys
      · rw [htenants]
        rintro j (hj | rfl)
        · exact hj
        · simp
      · rw [htenants]
        exact hstored.active
  | updated id tenant hold htenants hkeys => exact h.activate htenants hkeys
  | deleted id htenants hkeys => exact h.delete htenants hkeys
  | issued keyId key row hfresh hrow htenant hunique htenants hkeys =>
      refine h.issue hrow.1 hrow.2 hfresh hunique ?_ ?_ hkeys
      · rw [htenants]
        rintro j (hj | rfl)
        · exact hj
        · exact htenant
      · rw [htenants]
        exact h.active
  | revoked keyId revokedAt old hold htenants hkeys => exact h.revoke hold htenants hkeys

end Step

/-- The run lemma. -/
theorem keysAgree_runs {cfg : Settings} (ops : List (KeyOp × (ℕ → Outcome)))
    {s : List Fact × World} (h : KeysAgree cfg.hashApiKey s.1 s.2.db) :
    KeysAgree cfg.hashApiKey (keyRuns cfg ops s).1 (keyRuns cfg ops s).2.db := by
  induction ops generalizing s with
  | nil => exact h
  | cons op ops ih => exact ih (h.step (keyEffect_run op.1 op.2 s.2))

/-! ## The lookup -/

theorem mem_lookupApiKey {db : Database} {keyHash : String} {row : ApiKey} {tenant : Tenant} :
    (row, tenant) ∈ db.lookupApiKey keyHash ↔ ∃ id, db.apiKeys.get id = some row ∧
      row.keyHash = keyHash ∧ row.revokedAt = none ∧
      db.tenants.get row.tenantId = some tenant := by
  simp only [Database.lookupApiKey, List.mem_filterMap, Option.map_eq_some_iff, Prod.exists,
    Table.mem_select, Bool.and_eq_true, decide_eq_true_iff, Option.isNone_iff_eq_none,
    Prod.mk.injEq]
  constructor
  · rintro ⟨id, row', ⟨hid, hhash, hnone⟩, tenant', htenant, rfl, rfl⟩
    exact ⟨id, hid, hhash, hnone, htenant⟩
  · rintro ⟨id, hid, hhash, hnone, htenant⟩
    exact ⟨id, row, ⟨hid, hhash, hnone⟩, tenant, htenant, rfl, rfl⟩

/-- Where no two rows have one hash, a lookup finds one row at most. -/
theorem Database.length_lookup_le_one {db : Database}
    (hunique : ∀ i j a b, db.apiKeys.get i = some a → db.apiKeys.get j = some b →
      a.keyHash = b.keyHash → i = j) (keyHash : String) : (db.lookupApiKey keyHash).length ≤ 1 := by
  refine (List.length_filterMap_le _ _).trans (Table.length_select_le_one ?_)
  intro i j a b ha hb hpa hpb
  simp only [Bool.and_eq_true, decide_eq_true_iff] at hpa hpb
  exact hunique i j a b ha hb (hpa.1.trans hpb.1.symm)

theorem verifyTenant_ok_iff {cfg : Settings} {tenantId : ℤ} {key : String} {ω : ℕ → Outcome}
    {w : World} :
    ((verifyTenant cfg tenantId key).run handle ω w).1 = .ok () ↔ ∃ row tenant,
      w.db.lookupApiKey (cfg.hashApiKey key) = [(row, tenant)] ∧ (row.tenantId : ℤ) = tenantId ∧
        tenant.isActive = true := by
  simp only [verifyTenant, lookupApiKey, Prog.call_bind, Prog.ret_bind, Prog.run_call, handle,
    handleDb]
  rcases hfound : w.db.lookupApiKey (cfg.hashApiKey key) with _ | ⟨⟨row, tenant⟩, _ | ⟨r, rest⟩⟩
  · simp [httpException]
  · by_cases ht : (row.tenantId : ℤ) = tenantId
    · by_cases hactive : tenant.isActive = true
      · simp [ht, hactive]
      · simp [ht, hactive, httpException]
    · simp [ht, httpException]
  · simp

/-- The key of a row is accepted when it stands and its tenant is active. -/
theorem KeysAgree.accepts_iff {cfg : Settings} {facts : List Fact} {w : World}
    (h : KeysAgree cfg.hashApiKey facts w.db) {tenantId : ℕ} {key : String}
    (hkey : ∀ key', cfg.hashApiKey key' = cfg.hashApiKey key →
      Standing cfg.hashApiKey facts tenantId key' → key' = key) (ω : ℕ → Outcome) :
    ((verifyTenant cfg tenantId key).run handle ω w).1 = .ok () ↔
      Standing cfg.hashApiKey facts tenantId key ∧ activeNow facts tenantId = some true := by
  simp only [verifyTenant_ok_iff, Int.ofNat_inj]
  constructor
  · rintro ⟨row, tenant, hfound, rfl, hactive⟩
    obtain ⟨id, hid, hhash, hnone, htenant⟩ :=
      mem_lookupApiKey.mp (hfound ▸ List.mem_singleton.mpr rfl)
    obtain ⟨key', hstanding, hhash'⟩ := h.issued id row hid hnone
    have heq := hkey key' (hhash'.symm.trans hhash) hstanding
    exact ⟨heq ▸ hstanding, by rw [h.active _ tenant htenant, hactive]⟩
  · rintro ⟨hstanding, hactive⟩
    obtain ⟨id, row, hid, rfl, hhash, hnone⟩ := h.standing tenantId key hstanding
    obtain ⟨tenant, htenant⟩ := Option.isSome_iff_exists.mp (h.owned id row hid)
    have hmem : (row, tenant) ∈ w.db.lookupApiKey (cfg.hashApiKey key) :=
      mem_lookupApiKey.mpr ⟨id, hid, hhash, hnone, htenant⟩
    refine ⟨row, tenant, ?_, rfl, ?_⟩
    · have hlength := Database.length_lookup_le_one h.unique (cfg.hashApiKey key)
      match hfound : w.db.lookupApiKey (cfg.hashApiKey key) with
      | [] => rw [hfound] at hmem; cases hmem
      | [r] => rw [hfound] at hmem; rw [List.mem_singleton.mp hmem]
      | r :: r' :: rest => rw [hfound] at hlength; simp at hlength
    · have hnow := h.active _ tenant htenant
      rw [hactive] at hnow
      exact (Option.some.inj hnow).symm

/-! ## Keys that no longer stand -/

theorem mem_issuedKeys_of_standing {facts : List Fact} {tenantId : ℕ} {key : String}
    (h : Standing hash facts tenantId key) : .issued tenantId key ∈ facts := by
  induction facts with
  | nil => exact h.elim
  | cons fact past ih =>
      rcases h with rfl | ⟨h, -⟩
      · exact List.mem_cons_self
      · exact List.mem_cons_of_mem _ (ih h)

theorem issuedKey_mem {facts : List Fact} {tenantId : ℕ} {key : String}
    (h : .issued tenantId key ∈ facts) : key ∈ issuedKeys facts :=
  List.mem_filterMap.mpr ⟨_, h, rfl⟩

/-- What stands now has stood since it was issued. -/
theorem Standing.of_append {later past : List Fact} {tenantId : ℕ} {key : String}
    (h : Standing hash (later ++ past) tenantId key) (hkey : key ∉ issuedKeys later) :
    Standing hash past tenantId key ∧ .revoked (hash key) ∉ later ∧ .deleted tenantId ∉ later := by
  induction later with
  | nil => exact ⟨h, by simp, by simp⟩
  | cons fact later ih =>
      have hrest : key ∉ issuedKeys later := by
        intro hmem
        obtain ⟨f, hf, hfkey⟩ := List.mem_filterMap.mp hmem
        exact hkey (List.mem_filterMap.mpr ⟨f, List.mem_cons_of_mem _ hf, hfkey⟩)
      rcases h with rfl | ⟨h, hrevoked, hdeleted⟩
      · exact absurd (issuedKey_mem List.mem_cons_self) hkey
      · obtain ⟨hpast, hr, hd⟩ := ih h hrest
        refine ⟨hpast, ?_, ?_⟩
        · simpa [Ne.symm hrevoked] using hr
        · simpa [Ne.symm hdeleted] using hd

/-- The key was returned, and later on its row was revoked or its tenant deleted. -/
def Withdrawn (hash : String → String) (facts : List Fact) (key : String) : Prop :=
  ∃ later past tenantId, facts = later ++ .issued tenantId key :: past ∧
    (.revoked (hash key) ∈ later ∨ .deleted tenantId ∈ later)

theorem not_standing_of_withdrawn {facts new : List Fact} {key : String}
    (hkeys : (issuedKeys (new ++ facts)).Nodup) (h : Withdrawn hash facts key) (tenantId : ℕ) :
    ¬ Standing hash (new ++ facts) tenantId key := by
  obtain ⟨later, past, issuer, rfl, hwithdrawn⟩ := h
  intro hstanding
  rw [← List.append_assoc] at hkeys hstanding
  have hsplit : issuedKeys (new ++ later ++ .issued issuer key :: past) =
      issuedKeys (new ++ later) ++ key :: issuedKeys past := by
    simp [issuedKeys, Fact.issuedKey]
  rw [hsplit, List.nodup_middle, List.nodup_cons, List.mem_append, not_or] at hkeys
  obtain ⟨⟨hnotLater, hnotPast⟩, -⟩ := hkeys
  obtain ⟨hpast, hrevoked, hdeleted⟩ := hstanding.of_append hnotLater
  rcases hpast with heq | ⟨hpast, -⟩
  · obtain ⟨rfl, -⟩ := Fact.issued.inj heq
    rcases hwithdrawn with hmem | hmem
    · exact hrevoked (List.mem_append_right _ hmem)
    · exact hdeleted (List.mem_append_right _ hmem)
  · exact hnotPast (issuedKey_mem (mem_issuedKeys_of_standing hpast))

/-! ## All runs -/

/-- The facts told and the world reached by operations on an empty database. -/
def keysAfter (cfg : Settings) (cluster : Cluster) (ops : List (KeyOp × (ℕ → Outcome))) :
    List Fact × World :=
  keyRuns cfg ops ([], ⟨.empty, cluster⟩)

theorem keyRuns_facts (cfg : Settings) (ops : List (KeyOp × (ℕ → Outcome)))
    (s : List Fact × World) :
    ∃ new, (keyRuns cfg ops s).1 = new ++ s.1 := by
  induction ops generalizing s with
  | nil => exact ⟨[], rfl⟩
  | cons op ops ih =>
      obtain ⟨new, hnew⟩ := ih ((op.1.run cfg op.2 s.2).1 ++ s.1, (op.1.run cfg op.2 s.2).2)
      exact ⟨new ++ (op.1.run cfg op.2 s.2).1, hnew.trans (List.append_assoc _ _ _).symm⟩

/-- After any operations, a key is accepted for a tenant if and only if it stands and the
tenant is active; a lookup finds at most one row; and a key that was withdrawn is not
accepted any more, whatever is done later. -/
theorem key_accepted_iff_standing (cfg : Settings) (cluster : Cluster)
    (ops more : List (KeyOp × (ℕ → Outcome))) (key : String)
    (hkeys : (issuedKeys (keysAfter cfg cluster (ops ++ more)).1).Nodup)
    (hhash : Set.InjOn cfg.hashApiKey
      (insert key {k | k ∈ issuedKeys (keysAfter cfg cluster (ops ++ more)).1})) :
    (∀ (tenantId : ℕ) ω, ((verifyTenant cfg tenantId key).run handle ω
          (keysAfter cfg cluster (ops ++ more)).2).1 = .ok () ↔
        Standing cfg.hashApiKey (keysAfter cfg cluster (ops ++ more)).1 tenantId key ∧
          activeNow (keysAfter cfg cluster (ops ++ more)).1 tenantId = some true) ∧
      (∀ keyHash,
        ((keysAfter cfg cluster (ops ++ more)).2.db.lookupApiKey keyHash).length ≤ 1) ∧
      (Withdrawn cfg.hashApiKey (keysAfter cfg cluster ops).1 key → ∀ tenantId ω,
        ((verifyTenant cfg tenantId key).run handle ω
          (keysAfter cfg cluster (ops ++ more)).2).1 ≠ .ok ()) := by
  have hagree : KeysAgree cfg.hashApiKey (keysAfter cfg cluster (ops ++ more)).1
      (keysAfter cfg cluster (ops ++ more)).2.db :=
    keysAgree_runs _ keysAgree_empty
  have haccepts := fun tenantId => @KeysAgree.accepts_iff cfg _ _ hagree tenantId key
    (fun key' heq hstanding => hhash
      (Set.mem_insert_of_mem _ (issuedKey_mem (mem_issuedKeys_of_standing hstanding)))
      (Set.mem_insert _ _) heq)
  refine ⟨haccepts, Database.length_lookup_le_one hagree.unique,
    fun hwithdrawn tenantId ω hok => ?_⟩
  obtain ⟨new, hnew⟩ := keyRuns_facts cfg more (keysAfter cfg cluster ops)
  have hfacts : (keysAfter cfg cluster (ops ++ more)).1 =
      new ++ (keysAfter cfg cluster ops).1 := by
    rw [← hnew, keysAfter, keysAfter, keyRuns, keyRuns, keyRuns, List.foldl_append]
  rw [hfacts] at hkeys
  obtain ⟨row, tenant, -, rfl, -⟩ := verifyTenant_ok_iff.mp hok
  refine not_standing_of_withdrawn hkeys hwithdrawn row.tenantId ?_
  rw [← hfacts]
  exact ((haccepts row.tenantId ω).mp hok).1

theorem acme_fits : 1 ≤ "acme".length ∧ "acme".length ≤ 255 := by decide

/-- A tenant is created, then its key is revoked. -/
def sampleKeyOps : List (KeyOp × (ℕ → Outcome)) :=
  [(.createTenant ⟨"acme", acme_fits⟩,
      fun _ => { token := "AAAAAAAAAAAAAAAAAAAAAAAAAAAAAAAAAAAAAAAAAAA" }),
    (.revokeApiKey 1 1, fun _ => .ok)]

theorem key_accepted_iff_standing_sample :
    ((verifyTenant sampleSettings 1 "mtp_AAAAAAAAAAAAAAAAAAAAAAAAAAAAAAAAAAAAAAAAAAA").run handle
        (fun _ => .ok) (keysAfter sampleSettings .empty (sampleKeyOps.take 1 ++ [])).2).1 = .ok () ∧
      ((verifyTenant sampleSettings 1 "mtp_AAAAAAAAAAAAAAAAAAAAAAAAAAAAAAAAAAAAAAAAAAA").run handle
        (fun _ => .ok) (keysAfter sampleSettings .empty (sampleKeyOps ++ [])).2).1 ≠ .ok () := by
  have hissued : ∀ ops ∈ [sampleKeyOps.take 1, sampleKeyOps],
      issuedKeys (keysAfter sampleSettings .empty (ops ++ [])).1 =
        ["mtp_AAAAAAAAAAAAAAAAAAAAAAAAAAAAAAAAAAAAAAAAAAA"] := by decide +kernel
  have hsample := fun ops (hops : ops ∈ [sampleKeyOps.take 1, sampleKeyOps]) =>
    key_accepted_iff_standing sampleSettings .empty ops []
      "mtp_AAAAAAAAAAAAAAAAAAAAAAAAAAAAAAAAAAAAAAAAAAA" (by rw [hissued ops hops]; simp)
      (by rw [hissued ops hops]; simp)
  constructor
  · exact ((hsample (sampleKeyOps.take 1) (by simp)).1 1 _).mpr (by decide +kernel)
  · exact (hsample sampleKeyOps (by simp)).2.2
      ⟨[.revoked (sampleSettings.hashApiKey "mtp_AAAAAAAAAAAAAAAAAAAAAAAAAAAAAAAAAAAAAAAAAAA")],
        [.active 1 true], 1, by decide +kernel, by simp⟩ 1 _

end TenantPlatform
