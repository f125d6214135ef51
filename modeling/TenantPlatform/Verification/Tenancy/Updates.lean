import TenantPlatform.Verification.Jobs.Settlement
import TenantPlatform.Verification.Tenancy.Names

/-! # Updates of tenants

The schema tells an absent field from a null one, the service copies what was given, and the table
admits no null. -/

namespace TenantPlatform

open Effect

/-! ## The statement -/

/-- The fields that were given have the values given, and the others are as they were. -/
structure ChangedExactly (changes : TenantChanges) (t t' : Tenant) : Prop where
  name : ∀ value, changes.name = some value → value = some t'.name
  nameKept : changes.name = none → t'.name = t.name
  isActive : ∀ value, changes.isActive = some value → value = some t'.isActive
  isActiveKept : changes.isActive = none → t'.isActive = t.isActive
  k8sNamespace : t'.k8sNamespace = t.k8sNamespace
  createdAt : t'.createdAt = t.createdAt

/-- No field is set to null. -/
def TenantChanges.NonNull (changes : TenantChanges) : Prop :=
  changes.name ≠ some none ∧ changes.isActive ≠ some none

/-- A field that may be absent, and is not null, stands for its value or the one before. -/
theorem value_eq_of_ne_null {α : Type} {given : Option (Option α)} (h : given ≠ some none) {a : α} :
    (∀ value, given = some value → value = some ((given.bind (fun v => v)).getD a)) ∧
      (given = none → (given.bind (fun v => v)).getD a = a) := by
  match given, h with
  | none, _ => exact ⟨fun value h => (by cases h), fun _ => rfl⟩
  | some none, h => exact absurd rfl h
  | some (some b), _ => exact ⟨fun value h => (Option.some.inj h).symm, fun h => (by cases h)⟩

section Statement

variable {db : Database} {id : ℕ} {changes : TenantChanges}

theorem Database.updateTenant_null {tenant : Tenant} (hget : db.tenants.get id = some tenant)
    (hnull : ¬ changes.NonNull) :
    db.updateTenant id changes = (.error notNullViolation, db) := by
  have hsome : changes.name = some none ∨ changes.isActive = some none := by
    rw [TenantChanges.NonNull, not_and_or, not_not, not_not] at hnull
    exact hnull
  simp only [updateTenant, hget, if_pos hsome]

/-- A row that exists takes every change without a null, if its name fits then. -/
theorem Database.updateTenant_nonNull {tenant : Tenant} (hget : db.tenants.get id = some tenant)
    (hnull : changes.NonNull) (hold : fits 255 tenant.name = true)
    (hnew : ∀ name, changes.name = some (some name) → fits 255 name = true) :
    ∃ tenant', db.updateTenant id changes =
        (.ok tenant', { db with tenants := db.tenants.put id tenant' }) ∧
      ChangedExactly changes tenant tenant' := by
  have hsome : ¬ (changes.name = some none ∨ changes.isActive = some none) :=
    not_or.mpr hnull
  have hname := value_eq_of_ne_null hnull.1 (a := tenant.name)
  have hactive := value_eq_of_ne_null hnull.2 (a := tenant.isActive)
  have hfits : fits 255 ((changes.name.bind (fun v => v)).getD tenant.name) = true := by
    match hgiven : changes.name with
    | none => exact hold
    | some none => exact absurd hgiven hnull.1
    | some (some name) => exact hnew name hgiven
  refine ⟨{ tenant with
      name := (changes.name.bind (fun v => v)).getD tenant.name
      isActive := (changes.isActive.bind (fun v => v)).getD tenant.isActive }, ?_,
    hname.1, hname.2, hactive.1, hactive.2, rfl, rfl⟩
  simp only [updateTenant, hget, if_neg hsome, hfits, Bool.not_true, Bool.false_eq_true, if_false]

end Statement

/-! ## The route -/

section Route

variable {w : World} {tenantId : ℤ} {tenantData : TenantUpdate} {ω : ℕ → Outcome}

/-- It answers with the tenant, and that row alone has changed, by what was given. -/
structure Updated (tenantId : ℤ) (tenantData : TenantUpdate) (ω : ℕ → Outcome) (w : World)
    (id : ℕ) (t t' : Tenant) (db' : Database) : Prop where
  key : tenantId = (id : ℕ)
  row : w.db.tenants.get id = some t
  changed : ChangedExactly tenantData.changes t t'
  committed : db'.tenants.get id = some t'
  otherRows : ∀ j, j ≠ id → db'.tenants.get j = w.db.tenants.get j
  otherTables : w.db.SameOutside (· = .tenants) db'
  answer : (Routes.updateTenant tenantId tenantData).run handle ω w =
    (.ok (⟨200, .tenant (tenantResponse (id, t'))⟩, none), { w with db := db' })

/-- It answers with an error of the client's, and nothing has changed. -/
def Refused (tenantId : ℤ) (tenantData : TenantUpdate) (ω : ℕ → Outcome) (w : World) : Prop :=
  ∃ status detail, 400 ≤ status ∧ status < 500 ∧
    (Routes.updateTenant tenantId tenantData).run handle ω w = (.error (.http status detail), w)

def ExactOrRefused (tenantId : ℤ) (tenantData : TenantUpdate) (ω : ℕ → Outcome) (w : World) :
    Prop :=
  (∃ id t t' db', Updated tenantId tenantData ω w id t t' db') ∨ Refused tenantId tenantData ω w

/-- The id is one that the column can hold, and no field of a tenant is set to null. -/
structure Updatable (db : Database) (tenantId : ℤ) (changes : TenantChanges) : Prop where
  int32 : -2147483648 ≤ tenantId ∧ tenantId < 2147483648
  nonNull : ∀ id tenant, tenantId = (id : ℕ) → db.tenants.get id = some tenant → changes.NonNull

theorem run_updateTenant_absent {n : ℕ} (h : n < 2147483648) (hget : w.db.tenants.get n = none) :
    (Routes.updateTenant n tenantData).run handle ω w =
      (.error (.http 404 "Tenant not found"), w) := by
  simp [Routes.updateTenant, atKey_natCast h, updateTenantService, getTenant,
    Prog.run_call, handle, handleDb, hget, found, httpException]

section Present

variable {n : ℕ} {tenant : Tenant} (h : n < 2147483648)
  (hget : w.db.tenants.get n = some tenant)
include h hget

theorem run_updateTenant_empty (hempty : tenantData.changes = ⟨none, none⟩) :
    (Routes.updateTenant n tenantData).run handle ω w =
      (.error (.http 400 "No fields were provided for update."), w) := by
  simp [Routes.updateTenant, atKey_natCast h, updateTenantService, getTenant,
    Prog.run_call, handle, handleDb, hget, hempty, httpException]

theorem run_updateTenant_null (hnull : ¬ tenantData.changes.NonNull) :
    (Routes.updateTenant n tenantData).run handle ω w = (.error notNullViolation, w) := by
  have hgiven : tenantData.changes ≠ ⟨none, none⟩ := by
    intro hempty
    rw [hempty] at hnull
    exact hnull ⟨by decide, by decide⟩
  simp [Routes.updateTenant, atKey_natCast h, updateTenantService, getTenant,
    updateTenant, Prog.run_call, handle, handleDb, hget, hgiven,
    Database.updateTenant_null hget hnull, notNullViolation]

theorem run_updateTenant_ok {tenant' : Tenant} {db' : Database}
    (hgiven : tenantData.changes ≠ ⟨none, none⟩)
    (hok : w.db.updateTenant n tenantData.changes = (.ok tenant', db')) :
    (Routes.updateTenant n tenantData).run handle ω w =
      (.ok (⟨200, .tenant (tenantResponse (n, tenant'))⟩, none), { w with db := db' }) := by
  simp [Routes.updateTenant, atKey_natCast h, updateTenantService, getTenant,
    updateTenant, Prog.run_call, handle, handleDb, hget, hgiven, hok, found]

end Present

theorem run_updateTenant_negative (h : -2147483648 ≤ tenantId) (hneg : tenantId < 0) :
    (Routes.updateTenant tenantId tenantData).run handle ω w =
      (.error (.http 404 "Tenant not found"), w) := by
  simp [Routes.updateTenant, atKey_negative h hneg, found, httpException]

theorem run_updateTenant_overflow (h : ¬ (-2147483648 ≤ tenantId ∧ tenantId < 2147483648)) :
    (Routes.updateTenant tenantId tenantData).run handle ω w = (.error intOutOfRange, w) := by
  rw [Routes.updateTenant, atKey_overflow h]
  rfl

/-- A change that is neither empty nor null is committed, and nothing else. -/
theorem updated_of_nonNull {n : ℕ} {tenant : Tenant} (h : n < 2147483648)
    (hget : w.db.tenants.get n = some tenant) (hold : fits 255 tenant.name = true)
    (htext : ∀ name, tenantData.changes.name = some (some name) → '\x00' ∉ name.toList)
    (hgiven : tenantData.changes ≠ ⟨none, none⟩) (hnull : tenantData.changes.NonNull) :
    ∃ tenant' db', Updated n tenantData ω w n tenant tenant' db' := by
  have hnew : ∀ name, tenantData.changes.name = some (some name) → fits 255 name = true := by
    intro name hname
    simp [fits, (tenantData.nameLength name hname).2, htext name hname]
  obtain ⟨tenant', hok, hchanged⟩ := Database.updateTenant_nonNull hget hnull hold hnew
  have hframe := handleDb_sameOutside 0 0 (.updateTenant n tenantData.changes) w.db
  simp only [handleDb, hok] at hframe
  exact ⟨tenant', _,
    { key := rfl
      row := hget
      changed := hchanged
      committed := Table.get_put_self _ _ _
      otherRows := fun j hj => Table.get_put_of_ne _ _ hj
      otherTables := hframe
      answer := run_updateTenant_ok h hget hgiven hok }⟩

theorem not_exactOrRefused {x : PyException}
    (hrun : (Routes.updateTenant tenantId tenantData).run handle ω w = (.error x, w))
    (hx : ∀ status detail, x ≠ .http status detail) : ¬ ExactOrRefused tenantId tenantData ω w := by
  rintro (⟨id, t, t', db', h⟩ | ⟨status, detail, -, -, h⟩)
  · have h := h.answer
    rw [hrun] at h
    cases h
  · rw [hrun] at h
    cases h
    exact hx status detail rfl

theorem exactOrRefused_iff (hnames : NamesFit w.db)
    (htext : ∀ name, tenantData.changes.name = some (some name) → '\x00' ∉ name.toList) :
    ExactOrRefused tenantId tenantData ω w ↔ Updatable w.db tenantId tenantData.changes := by
  by_cases hrange : -2147483648 ≤ tenantId ∧ tenantId < 2147483648
  · by_cases hneg : tenantId < 0
    · refine iff_of_true (.inr ⟨404, _, by decide, by decide,
        run_updateTenant_negative hrange.1 hneg⟩) ⟨hrange, ?_⟩
      rintro id tenant rfl
      exact absurd hneg (not_lt.mpr (Int.natCast_nonneg id))
    · obtain ⟨n, rfl⟩ := Int.eq_ofNat_of_zero_le (not_lt.mp hneg)
      have hn : n < 2147483648 := by omega
      cases hget : w.db.tenants.get n with
      | none =>
          refine iff_of_true (.inr ⟨404, _, by decide, by decide,
            run_updateTenant_absent hn hget⟩) ⟨hrange, ?_⟩
          intro id tenant hid hrow
          rw [← Int.ofNat_inj.mp hid, hget] at hrow
          cases hrow
      | some tenant =>
          by_cases hnull : tenantData.changes.NonNull
          · refine iff_of_true ?_ ⟨hrange, fun _ _ _ _ => hnull⟩
            by_cases hgiven : tenantData.changes = ⟨none, none⟩
            · exact .inr ⟨400, _, by decide, by decide, run_updateTenant_empty hn hget hgiven⟩
            · obtain ⟨tenant', db', h⟩ :=
                updated_of_nonNull (ω := ω) hn hget (hnames n tenant hget) htext hgiven hnull
              exact .inl ⟨n, tenant, tenant', db', h⟩
          · refine iff_of_false (not_exactOrRefused (run_updateTenant_null hn hget hnull) ?_)
              (fun h => hnull (h.nonNull n tenant rfl hget))
            intro status detail h
            cases h
  · refine iff_of_false (not_exactOrRefused (run_updateTenant_overflow hrange) ?_)
      (fun h => hrange h.int32)
    intro status detail h
    cases h

end Route

/-- In every state that the platform reaches, an update is exact or refused if and only if its id
is one the column can hold and it sets no field of a tenant to null. -/
theorem update_exact_or_refused_iff {ι : Type} [DecidableEq ι] {cfg : Settings}
    {adminSecretKey : String} {requests : ι → Request} {cluster : Cluster}
    {env : World → World → Prop} {c : Config ι Call Call.Result PyException World}
    (henv : KeepsDatabase env)
    (hc : Reach (platform env) (platformStart cfg adminSecretKey requests cluster) c)
    (tenantId : ℤ) (tenantData : TenantUpdate) (ω : ℕ → Outcome)
    (htext : ∀ name, tenantData.changes.name = some (some name) → '\x00' ∉ name.toList) :
    ExactOrRefused tenantId tenantData ω c.trail.state ↔
      Updatable c.trail.state.db tenantId tenantData.changes :=
  exactOrRefused_iff (platform_namesFit henv hc) htext

/-! ## A null for a name -/

/-- A tenant was created. -/
def createdRun : Config ℕ Call Call.Result PyException World :=
  drive handle (buildSchedule.take 3) (platformStart sampleSettings "admin" sampleRequests .empty)

theorem createdRun_reach :
    Reach (platform anyCluster) (platformStart sampleSettings "admin" sampleRequests .empty)
      createdRun :=
  Reach.drive _ .init

def renamed : TenantUpdate := ⟨⟨some (some "acme 2"), none⟩, by
  intro name h
  cases h
  decide⟩

theorem update_exact_or_refused_iff_sample :
    ExactOrRefused 1 renamed (fun _ => .ok) createdRun.trail.state :=
  (update_exact_or_refused_iff anyCluster_keepsDatabase createdRun_reach 1 renamed _
    (by intro name h; cases h; decide)).mpr ⟨by decide, fun _ _ _ _ => ⟨by decide, by decide⟩⟩

def nameless : TenantUpdate := ⟨⟨some none, none⟩, by
  intro name h
  cases h⟩

theorem null_name_is_unhandled :
    ∃ c, Reach (platform anyCluster)
        (platformStart sampleSettings "admin" sampleRequests .empty) c ∧
      ¬ ExactOrRefused 1 nameless (fun _ => .ok) c.trail.state := by
  have hrow : (createdRun.trail.state.db.tenants.get 1).isSome = true := by decide +kernel
  obtain ⟨tenant, hget⟩ := Option.isSome_iff_exists.mp hrow
  refine ⟨createdRun, createdRun_reach, not_exactOrRefused
    (run_updateTenant_null (n := 1) (by decide) hget (fun h => h.1 rfl)) ?_⟩
  intro status detail h
  cases h

end TenantPlatform
