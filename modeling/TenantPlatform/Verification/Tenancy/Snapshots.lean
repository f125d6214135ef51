import TenantPlatform.Verification.Tenancy.Persistence
import TenantPlatform.Verification.Tenancy.Refusals
import TenantPlatform.Verification.Tenancy.Updates

/-! # Responses are snapshots

What a response shows of tenants, keys, builds, deployments and webhook registrations was in the
database at one moment between the request and the response, and a request that asks for rows is
shown all of them. So the responses of requests that follow one another only move on. -/

namespace TenantPlatform

open Effect

/-! ## What responses show -/

/-- A row, under its key. -/
inductive Resource where
  | tenant (id : ℕ) (row : Tenant)
  | apiKey (id : ℕ) (row : ApiKey)
  | buildJob (id : ℕ) (row : BuildJob)
  | deployment (id : ℕ) (row : Deployment)
  | webhookRegistration (id : ℕ) (row : WebhookRegistration)

def Resource.In (db : Database) : Resource → Prop
  | .tenant id row => db.tenants.get id = some row
  | .apiKey id row => db.apiKeys.get id = some row
  | .buildJob id row => db.buildJobs.get id = some row
  | .deployment id row => db.deployments.get id = some row
  | .webhookRegistration id row => db.webhookRegistrations.get id = some row

/-- A row as its response schema shows it. -/
inductive Item where
  | tenant (r : TenantResponse)
  | apiKey (r : ApiKeyResponse)
  | buildJob (id : ℕ) (row : BuildJob)
  | deployment (id : ℕ) (row : Deployment)
  | webhookRegistration (r : WebhookRegistrationResponse)
deriving DecidableEq

def Resource.item : Resource → Item
  | .tenant id row => .tenant (tenantResponse (id, row))
  | .apiKey id row => .apiKey (apiKeyResponse (id, row))
  | .buildJob id row => .buildJob id row
  | .deployment id row => .deployment id row
  | .webhookRegistration id row => .webhookRegistration (webhookRegistrationResponse (id, row))

def ResponseBody.items : ResponseBody → List Item
  | .tenant r | .tenantCreated r _ => [.tenant r]
  | .tenants rs => rs.map .tenant
  | .apiKey r | .apiKeyCreated r _ => [.apiKey r]
  | .apiKeys rs => rs.map .apiKey
  | .buildJob id row => [.buildJob id row]
  | .buildJobs rows => rows.map (fun r => .buildJob r.1 r.2)
  | .deployment id row => [.deployment id row]
  | .deployments rows => rows.map (fun r => .deployment r.1 r.2)
  | .webhookRegistration r _ => [.webhookRegistration r]
  | .webhookRegistrations rs => rs.map .webhookRegistration
  | .empty | .detail _ | .text _ => []

/-- The rows that a request asks for. -/
def Request.AsksFor : Request → Resource → Prop
  | .tenant t _ (.getApiKey keyId), .apiKey id row
  | .tenant t _ (.revokeApiKey keyId), .apiKey id row => row.tenantId = t ∧ (id : ℤ) = keyId
  | .tenant t _ .getAllApiKeys, .apiKey _ row => row.tenantId = t
  | .tenant t _ (.getBuildJob buildJobId), .buildJob id row =>
      row.tenantId = t ∧ (id : ℤ) = buildJobId
  | .tenant t _ (.getAllBuildJobs (.ok (none, 0))), .buildJob _ row => row.tenantId = t
  | .tenant t _ (.getDeployment deploymentId), .deployment id row =>
      row.tenantId = t ∧ (id : ℤ) = deploymentId
  | .tenant t _ (.getAllDeployments (.ok (none, 0))), .deployment _ row => row.tenantId = t
  | .tenant t _ .getAllWebhookRegistrations, .webhookRegistration _ row => row.tenantId = t
  | .admin _ (.getTenant tenantId), .tenant id _
  | .admin _ (.deleteTenant tenantId), .tenant id _
  | .admin _ (.updateTenant tenantId _), .tenant id _ => (id : ℤ) = tenantId
  | .admin _ .getAllTenants, .tenant _ _ => True
  | _, _ => False

/-- A response is a true answer to a request about a database, and a complete one, unless it is
none: what is not found is not there. -/
structure Request.Answered (r : Request) (reply : Response) (db : Database) : Prop where
  shown : ∀ item ∈ reply.body.items, ∃ res : Resource, res.In db ∧ res.item = item
  complete : reply.status = 200 ∨ reply.status = 404 →
    ∀ res : Resource, res.In db → r.AsksFor res → res.item ∈ reply.body.items

/-! ## Statements -/

/-- What a look-up has found. -/
def selected {α : Type} (resource : ℕ → α → Resource) :
    Except PyException (Option (ℕ × α)) → List Resource
  | .ok (some (id, row)) => [resource id row]
  | _ => []

def listed {α : Type} (resource : ℕ → α → Resource) (rows : List (ℕ × α)) : List Resource :=
  rows.map (fun r => resource r.1 r.2)

/-- The rows that a statement answers with. -/
def answered : Exchange Call Call.Result → List Resource
  | ⟨.db (.getTenant id), some row⟩ => [.tenant id row]
  | ⟨.db (.listTenants ..), rows⟩ => listed .tenant rows
  | ⟨.db (.commitTenant id ..), .ok row⟩ => [.tenant id row]
  | ⟨.db (.updateTenant id _), .ok row⟩ => [.tenant id row]
  | ⟨.db (.insertApiKey ..), .ok (id, row)⟩ => [.apiKey id row]
  | ⟨.db (.selectApiKey ..), r⟩ => selected .apiKey r
  | ⟨.db (.selectApiKeys _), rows⟩ => listed .apiKey rows
  | ⟨.db (.revokeApiKey id _), .ok row⟩ => [.apiKey id row]
  | ⟨.db (.commitBuildJob id _), .ok row⟩ => [.buildJob id row]
  | ⟨.db (.selectBuildJob ..), r⟩ => selected .buildJob r
  | ⟨.db (.selectBuildJobs ..), rows⟩ => listed .buildJob rows
  | ⟨.db (.commitDeployment id _), .ok row⟩ => [.deployment id row]
  | ⟨.db (.selectDeployment ..), r⟩ => selected .deployment r
  | ⟨.db (.selectDeployments ..), rows⟩ => listed .deployment rows
  | ⟨.db (.insertWebhookRegistration ..), .ok (id, row)⟩ => [.webhookRegistration id row]
  | ⟨.db (.selectWebhookRegistrations _), rows⟩ => listed .webhookRegistration rows
  | _ => []

/-- The rows that a statement leaves none of unmentioned. -/
def DbCall.Wants : DbCall → Resource → Prop
  | .getTenant id, .tenant id' _ | .updateTenant id _, .tenant id' _
  | .deleteTenant id, .tenant id' _ => id' = id
  | .listTenants limit offset, .tenant _ _ => limit = none ∧ offset = 0
  | .selectApiKey t keyId, .apiKey id row => row.tenantId = t ∧ (id : ℤ) = keyId
  | .selectApiKeys t, .apiKey _ row => row.tenantId = t
  | .revokeApiKey id _, .apiKey id' _ => id' = id
  | .selectBuildJob t buildJobId, .buildJob id row => row.tenantId = t ∧ (id : ℤ) = buildJobId
  | .selectBuildJobs t limit offset, .buildJob _ row =>
      limit = none ∧ offset = 0 ∧ row.tenantId = t
  | .selectDeployment t deploymentId, .deployment id row =>
      row.tenantId = t ∧ (id : ℤ) = deploymentId
  | .selectDeployments t limit offset, .deployment _ row =>
      limit = none ∧ offset = 0 ∧ row.tenantId = t
  | .selectWebhookRegistrations t, .webhookRegistration _ row => row.tenantId = t
  | _, _ => False

section Statement

variable {want now : ℕ} {db : Database}

theorem lookupInt_get {α : Type} {t : Table α} {key : ℤ} {id : ℕ} {a : α} {r : Option (ℕ × α)}
    (h : lookupInt t key = .ok r) (hget : t.get id = some a) (hid : (id : ℤ) = key) :
    r = some (id, a) := by
  subst hid
  unfold lookupInt at h
  split at h
  · cases h
    simp [hget]
  · cases h

section Select

variable {α : Type} {t : Table α} {resource : ℕ → α → Resource} {res : Resource}

/-- What a look-up among the rows of a tenant finds is there. -/
theorem in_of_selected {key : ℤ} {p : ℕ × α → Bool}
    (h : res ∈ selected resource ((lookupInt t key).map (fun r => r.filter p)))
    (hin : ∀ id a, t.get id = some a → (resource id a).In db) : res.In db := by
  rcases hlookup : lookupInt t key with x | found
  · rw [hlookup] at h
    cases h
  · rw [hlookup] at h
    simp only [Except.map] at h
    rcases hfound : found.filter p with _ | ⟨id, a⟩
    · rw [hfound] at h
      cases h
    · rw [hfound] at h
      obtain rfl := List.mem_singleton.mp h
      obtain ⟨rfl, -⟩ := Option.filter_eq_some_iff.mp hfound
      exact hin id a (lookupInt_ok hlookup).2

/-- What is there a look-up finds, unless it fails. -/
theorem selected_of_get {key : ℤ} {p : ℕ × α → Bool} {id : ℕ} {a : α}
    (hok : ∀ x, (lookupInt t key).map (fun r => r.filter p) ≠ .error x)
    (hget : t.get id = some a) (hid : (id : ℤ) = key) (hp : p (id, a) = true) :
    resource id a ∈ selected resource ((lookupInt t key).map (fun r => r.filter p)) := by
  rcases hlookup : lookupInt t key with x | found
  · rw [hlookup] at hok
    exact absurd rfl (hok x)
  · rw [lookupInt_get hlookup hget hid, Except.map, Option.filter_some, if_pos hp]
    exact List.mem_singleton_self _

theorem in_of_listed {p : α → Bool} {rows : List (ℕ × α)}
    (h : res ∈ listed resource rows) (hrows : ∀ r ∈ rows, r ∈ t.select p)
    (hin : ∀ id a, t.get id = some a → (resource id a).In db) : res.In db := by
  obtain ⟨⟨id, a⟩, hr, rfl⟩ := List.mem_map.mp h
  exact hin id a ((t.mem_select p id a).mp (hrows _ hr)).1

theorem listed_of_get {p : α → Bool} {rows : List (ℕ × α)} {id : ℕ} {a : α}
    (hrows : ∀ r ∈ t.select p, r ∈ rows) (hget : t.get id = some a) (hp : p a = true) :
    resource id a ∈ listed resource rows :=
  List.mem_map.mpr ⟨(id, a), hrows _ ((t.mem_select p id a).mpr ⟨hget, hp⟩), rfl⟩

end Select

theorem mem_page {α : Type} {limit : Option ℕ} {offset : ℕ} {rows : List α} {a : α}
    (h : a ∈ page limit offset rows) : a ∈ rows := by
  cases limit with
  | none => exact List.mem_of_mem_drop h
  | some n => exact List.mem_of_mem_drop (List.mem_of_mem_take h)

theorem get_of_put {α : Type} {t t' : Table α} {id : ℕ} {a : α}
    (h : t'.get = (t.put id a).get) : t'.get id = some a :=
  (congrFun h id).trans (t.get_put_self id a)

theorem get_deleteTenant {id : ℕ}
    (h : raised ⟨.db (.deleteTenant id), (db.deleteTenant id).1⟩ = none) :
    (db.deleteTenant id).2.tenants.get id = none := by
  unfold Database.deleteTenant at h ⊢
  cases hget : db.tenants.get id with
  | none => exact hget
  | some tenant =>
      cases hcascade : db.cascadeTenant id with
      | error x =>
          simp only [hget, hcascade] at h
          cases h
      | ok db' =>
          simp only [(Database.cascadeTenant_ok hcascade).1, Table.get_keep, hget]
          simp

/-- What a statement answers with is in the database that it leaves. -/
theorem in_of_answered (e : DbCall) {res : Resource}
    (h : res ∈ answered ⟨.db e, (handleDb want now e db).1⟩) :
    res.In (handleDb want now e db).2 := by
  cases e with
  | getTenant id =>
      cases hget : db.tenants.get id with
      | none =>
          simp only [handleDb, hget] at h
          cases h
      | some row =>
          simp only [handleDb, hget] at h
          obtain rfl := List.mem_singleton.mp h
          exact hget
  | listTenants limit offset => exact in_of_listed h (fun _ => mem_page) (fun _ _ hget => hget)
  | commitTenant id name ns keyName keyPrefix keyHash =>
      simp only [handleDb] at h ⊢
      rcases db.commitTenant_cases want now id name ns keyName keyPrefix keyHash with
        ⟨x, db', heq, -⟩ | ⟨tenant, row, db', heq, -, -, -, -, -, hget, -⟩
      · rw [heq] at h
        cases h
      · rw [heq] at h ⊢
        obtain rfl := List.mem_singleton.mp h
        exact get_of_put hget
  | updateTenant id changes =>
      simp only [handleDb] at h ⊢
      rcases db.updateTenant_cases id changes with ⟨x, heq⟩ | ⟨tenant, db', heq, -, hget, -⟩
      · rw [heq] at h
        cases h
      · rw [heq] at h ⊢
        obtain rfl := List.mem_singleton.mp h
        exact get_of_put hget
  | insertApiKey tenantId name keyPrefix keyHash =>
      simp only [handleDb] at h ⊢
      rcases db.insertApiKey_cases want now tenantId name keyPrefix keyHash with
        ⟨x, db', heq, -⟩ | ⟨row, db', heq, -, -, -, -, -, -, hget⟩
      · rw [heq] at h
        cases h
      · rw [heq] at h ⊢
        obtain rfl := List.mem_singleton.mp h
        exact get_of_put hget
  | selectApiKey tenantId keyId => exact in_of_selected h (fun _ _ hget => hget)
  | selectApiKeys tenantId => exact in_of_listed h (fun _ hr => hr) (fun _ _ hget => hget)
  | revokeApiKey id revokedAt =>
      simp only [handleDb] at h ⊢
      rcases db.revokeApiKey_cases id revokedAt with ⟨x, heq⟩ | ⟨old, db', heq, -, -, hget⟩
      · rw [heq] at h
        cases h
      · rw [heq] at h ⊢
        obtain rfl := List.mem_singleton.mp h
        exact get_of_put hget
  | commitBuildJob id changes =>
      simp only [handleDb] at h ⊢
      generalize hr : db.commitBuildJob id changes = r at h ⊢
      obtain ⟨x | row, db'⟩ := r
      · cases h
      · obtain rfl := List.mem_singleton.mp h
        exact ((Database.commitBuildJob_ok hr).1.get_eq id).trans (if_pos rfl)
  | selectBuildJob tenantId id => exact in_of_selected h (fun _ _ hget => hget)
  | selectBuildJobs tenantId limit offset =>
      exact in_of_listed h (fun _ hr => List.mem_reverse.mp (mem_page hr)) (fun _ _ hget => hget)
  | commitDeployment id status =>
      simp only [handleDb] at h ⊢
      generalize hr : db.commitDeployment now id status = r at h ⊢
      obtain ⟨x | row, db'⟩ := r
      · cases h
      · obtain rfl := List.mem_singleton.mp h
        exact ((Database.commitDeployment_ok hr).1.get_eq id).trans (if_pos rfl)
  | selectDeployment tenantId id => exact in_of_selected h (fun _ _ hget => hget)
  | selectDeployments tenantId limit offset =>
      exact in_of_listed h (fun _ hr => List.mem_reverse.mp (mem_page hr)) (fun _ _ hget => hget)
  | insertWebhookRegistration tenantId callbackUrl signingSecret =>
      simp only [handleDb, Database.insertWebhookRegistration] at h ⊢
      split at h
      · cases h
      · split at h
        · cases h
        · rename_i hfits htenant
          rw [if_neg hfits, if_neg htenant]
          obtain rfl := List.mem_singleton.mp h
          exact Table.get_put_self _ _ _
  | selectWebhookRegistrations tenantId =>
      exact in_of_listed h (fun _ hr => hr) (fun _ _ hget => hget)
  | _ => cases h

/-- What a statement wants of the database that it leaves, it answers with, if it does not
fail. -/
theorem answered_of_in (e : DbCall) (hok : raised ⟨.db e, (handleDb want now e db).1⟩ = none)
    {res : Resource} (hres : res.In (handleDb want now e db).2) (hwants : e.Wants res) :
    res ∈ answered ⟨.db e, (handleDb want now e db).1⟩ := by
  cases e with
  | getTenant id =>
      cases res with
      | tenant id' row =>
          obtain rfl : id' = id := hwants
          have hget : db.tenants.get id' = some row := hres
          simp [handleDb, hget, answered]
      | _ => exact hwants.elim
  | listTenants limit offset =>
      cases res with
      | tenant id row =>
          obtain ⟨rfl, rfl⟩ := hwants
          exact listed_of_get (fun _ hr => hr) hres rfl
      | _ => exact hwants.elim
  | updateTenant id changes =>
      cases res with
      | tenant id' row =>
          obtain rfl : id' = id := hwants
          simp only [handleDb] at hok hres ⊢
          rcases db.updateTenant_cases id' changes with ⟨x, heq⟩ | ⟨tenant, db', heq, -, hget, -⟩
          · rw [heq] at hok
            cases hok
          · rw [heq] at hres ⊢
            obtain rfl := Option.some.inj (hres.symm.trans (get_of_put hget))
            exact List.mem_singleton_self _
      | _ => exact hwants.elim
  | deleteTenant id =>
      cases res with
      | tenant id' row =>
          obtain rfl : id' = id := hwants
          have hnone : (db.deleteTenant id').2.tenants.get id' = none := get_deleteTenant hok
          exact absurd (hnone.symm.trans hres) (by simp)
      | _ => exact hwants.elim
  | selectApiKey tenantId keyId =>
      cases res with
      | apiKey id row =>
          exact selected_of_get (fun x hx => by
            simp only [handleDb, hx] at hok
            cases hok) hres hwants.2 (decide_eq_true hwants.1)
      | _ => exact hwants.elim
  | selectApiKeys tenantId =>
      cases res with
      | apiKey id row =>
          exact listed_of_get (fun _ hr => hr) hres (decide_eq_true hwants)
      | _ => exact hwants.elim
  | revokeApiKey id revokedAt =>
      cases res with
      | apiKey id' row =>
          obtain rfl : id' = id := hwants
          simp only [handleDb] at hok hres ⊢
          rcases db.revokeApiKey_cases id' revokedAt with ⟨x, heq⟩ | ⟨old, db', heq, -, -, hget⟩
          · rw [heq] at hok
            cases hok
          · rw [heq] at hres ⊢
            obtain rfl := Option.some.inj (hres.symm.trans (get_of_put hget))
            exact List.mem_singleton_self _
      | _ => exact hwants.elim
  | selectBuildJob tenantId buildJobId =>
      cases res with
      | buildJob id row =>
          exact selected_of_get (fun x hx => by
            simp only [handleDb, hx] at hok
            cases hok) hres hwants.2 (decide_eq_true hwants.1)
      | _ => exact hwants.elim
  | selectBuildJobs tenantId limit offset =>
      cases res with
      | buildJob id row =>
          obtain ⟨rfl, rfl, hn⟩ := hwants
          exact listed_of_get (fun _ => List.mem_reverse.mpr) hres (decide_eq_true hn)
      | _ => exact hwants.elim
  | selectDeployment tenantId deploymentId =>
      cases res with
      | deployment id row =>
          exact selected_of_get (fun x hx => by
            simp only [handleDb, hx] at hok
            cases hok) hres hwants.2 (decide_eq_true hwants.1)
      | _ => exact hwants.elim
  | selectDeployments tenantId limit offset =>
      cases res with
      | deployment id row =>
          obtain ⟨rfl, rfl, hn⟩ := hwants
          exact listed_of_get (fun _ => List.mem_reverse.mpr) hres (decide_eq_true hn)
      | _ => exact hwants.elim
  | selectWebhookRegistrations tenantId =>
      cases res with
      | webhookRegistration id row =>
          exact listed_of_get (fun _ hr => hr) hres (decide_eq_true hwants)
      | _ => exact hwants.elim
  | _ => cases res <;> exact hwants.elim

end Statement

/-! ## Requests -/

/-- A response that shows nothing, and says of nothing that it is not there. -/
def Request.Unsaid (r : Request) (reply : Response) : Prop :=
  reply.body.items = [] ∧
    (reply.status = 200 ∨ reply.status = 404 → ∀ res : Resource, ¬ r.AsksFor res)

/-- A response that shows what a statement has answered, of all that is asked for. -/
def Request.Grounded (r : Request) (reply : Response) (τ : History) : Prop :=
  r.Unsaid reply ∨ ∃ (e : DbCall) (ans : e.Result), ⟨.db e, ans⟩ ∈ τ ∧ raised ⟨.db e, ans⟩ = none ∧
    reply.body.items = (answered ⟨.db e, ans⟩).map Resource.item ∧
    ∀ res : Resource, r.AsksFor res → e.Wants res

theorem items_errorReply (e : PyException) : (errorReply e).1.body.items = [] := by
  cases e <;> rfl

/-- A key is found under the id that was asked for. -/
def foundAsAsked : Exchange Call Call.Result → Prop
  | ⟨.db (.selectApiKey _ keyId), .ok (some (id, _))⟩ => (id : ℤ) = keyId
  | _ => True

/-- Statements fail as the database does, and find what they look for. -/
def lookingUp : Discipline Call Call.Result :=
  ⟨fun _ _ => True, fun _ x => (∀ e, raised x = some e → e.isSql = true) ∧ foundAsAsked x⟩

section Along

variable {cfg : Settings} {τ : History} {t : ℕ} {xApiKey xAdminSecret : String}

/-- The exceptions of a handler, as the responses that they become. -/
def Request.GroundedError (r : Request) (e : PyException) (τ : History) : Prop :=
  r.Grounded (errorReply e).1 τ

/-- Of a request that asks for nothing no error says too much. -/
theorem groundedError_of_asks {r : Request} (h : ∀ res, ¬ r.AsksFor res) (e : PyException)
    (τ : History) : r.GroundedError e τ :=
  .inl ⟨items_errorReply e, fun _ => h⟩

theorem groundedError_of_isSql {r : Request} {e : PyException} (h : e.isSql = true)
    (τ : History) : r.GroundedError e τ := by
  refine .inl ⟨items_errorReply e, fun hstatus => ?_⟩
  cases e with
  | integrity text => rcases hstatus with hstatus | hstatus <;> cases hstatus
  | database text => rcases hstatus with hstatus | hstatus <;> cases hstatus
  | _ => cases h

/-- An error with another status than 404. -/
theorem groundedError_of_status {r : Request} {e : PyException}
    (h : (errorReply e).1.status ≠ 200 ∧ (errorReply e).1.status ≠ 404) (τ : History) :
    r.GroundedError e τ :=
  .inl ⟨items_errorReply e, fun hstatus => hstatus.elim (absurd · h.1) (absurd · h.2)⟩

theorem checked_grounded {α : Type} (r : Request) (body : Checked α) :
    (checked body).Along lookingUp (fun _ _ => True) r.GroundedError τ := by
  cases body with
  | ok a => trivial
  | error detail => exact .inl ⟨rfl, fun h => by rcases h with h | h <;> cases h⟩

/-- A request that asks for no more than its last statement wants, and shows its answer. -/
theorem grounded_of_last {r : Request} {reply : Response} {e : DbCall} {ans : e.Result}
    (hasks : ∀ res, r.AsksFor res → e.Wants res) (hok : raised ⟨.db e, ans⟩ = none)
    (hitems : reply.body.items = (answered ⟨.db e, ans⟩).map Resource.item) :
    r.Grounded reply (⟨.db e, ans⟩ :: τ) :=
  .inr ⟨e, ans, List.mem_cons_self, hok, hitems, hasks⟩

/-- What a request shows once it has created something. -/
theorem grounded_of_created {r : Request} (hasks : ∀ res, ¬ r.AsksFor res) {reply : Response}
    {e : DbCall} {ans : e.Result} (hmem : ⟨.db e, ans⟩ ∈ τ) (hok : raised ⟨.db e, ans⟩ = none)
    (hitems : reply.body.items = (answered ⟨.db e, ans⟩).map Resource.item) :
    r.Grounded reply τ :=
  .inr ⟨e, ans, hmem, hok, hitems, fun res h => absurd h (hasks res)⟩

theorem commitBuildJob_answers (id : ℕ) (changes : BuildJobChanges) :
    (commitBuildJob id changes).Along lookingUp
      (fun job τ' => ∃ changes, ⟨.db (.commitBuildJob id changes), .ok job⟩ ∈ τ')
      (fun _ _ => True) τ := by
  refine ⟨trivial, fun r _ => ?_⟩
  cases r with
  | error x => trivial
  | ok job => exact ⟨_, List.mem_cons_self⟩

theorem commitDeployment_answers (id : ℕ) (status : DeploymentStatus) :
    (commitDeployment id status).Along lookingUp
      (fun row τ' => ∃ status, ⟨.db (.commitDeployment id status), .ok row⟩ ∈ τ')
      (fun _ _ => True) τ := by
  refine ⟨trivial, fun r _ => ?_⟩
  cases r with
  | error x => trivial
  | ok row => exact ⟨_, List.mem_cons_self⟩

theorem createBuildJobService_grounded (buildData : BuildJobCreate) :
    (createBuildJobService cfg t buildData).Along lookingUp
      (fun o τ' => ∃ changes, ⟨.db (.commitBuildJob o.1.1 changes), .ok o.1.2⟩ ∈ τ')
      (fun _ _ => True) τ := by
  refine ⟨trivial, fun tenant _ => ?_⟩
  cases tenant with
  | none => trivial
  | some tenant =>
      refine ⟨trivial, fun r _ => ?_⟩
      rcases r with x | ⟨id, queued⟩
      · trivial
      · show (tryCatch (startBuild cfg t tenant.k8sNamespace id queued) (failBuild id) >>=
          _).Along _ _ _ _
        refine Prog.Along.bind (M := fun job τ' =>
          ∃ changes, ⟨.db (.commitBuildJob id changes), .ok job⟩ ∈ τ') ?_ ?_
        swap
        · exact fun job τ' h => h
        refine Prog.Along.tryCatch (M := fun _ _ => True) ?_
          (fun e τ' _ => ⟨trivial, fun now _ => commitBuildJob_answers id _⟩)
        exact (along_any _).bind (fun _ _ _ => (along_any _).bind (fun _ _ _ =>
          ⟨trivial, fun now _ => commitBuildJob_answers id _⟩))

theorem createDeploymentService_grounded (deployData : DeploymentCreate) :
    (createDeploymentService t deployData).Along lookingUp
      (fun o τ' => ∃ status, ⟨.db (.commitDeployment o.1.1 status), .ok o.1.2⟩ ∈ τ')
      (fun _ _ => True) τ := by
  refine ⟨trivial, fun r _ => ?_⟩
  rcases r with x | _ | ⟨buildJobId, job⟩
  · trivial
  · trivial
  · show (if _ then _ else if _ then _ else _ : Py ((ℕ × Deployment) × Option String)).Along
      _ _ _ _
    split
    · trivial
    · split
      · trivial
      · refine ⟨trivial, fun tenant _ => ⟨trivial, fun r _ => ?_⟩⟩
        rcases r with x | ⟨id, row⟩
        · trivial
        · show (tryCatch (startDeployment tenant job.imageTag id row)
            (fun _ => commitDeployment id .failed) >>= _).Along _ _ _ _
          refine Prog.Along.bind (M := fun row τ' =>
            ∃ status, ⟨.db (.commitDeployment id status), .ok row⟩ ∈ τ') ?_ ?_
          swap
          · exact fun row τ' h => h
          refine Prog.Along.tryCatch (M := fun _ _ => True) ?_
            (fun e τ' _ => commitDeployment_answers id .failed)
          cases tenant with
          | none => trivial
          | some tenant =>
              exact (along_any _).bind (fun _ _ _ => commitDeployment_answers id .deploying)

theorem TenantRequest.handle_grounded (r : TenantRequest) :
    (r.handle cfg t).Along lookingUp
      (fun reply => (Request.tenant t xApiKey r).Grounded reply.1)
      (Request.tenant t xApiKey r).GroundedError τ := by
  cases r with
  | createApiKey body =>
      have hasks : ∀ res, ¬ (Request.tenant t xApiKey (.createApiKey body)).AsksFor res :=
        fun res h => by cases res <;> exact h
      refine (checked_grounded _ body).bind (fun keyData τ1 _ => ?_)
      refine Prog.Along.bind (M := fun o τ' => ∃ name keyPrefix keyHash,
        ⟨.db (.insertApiKey t name keyPrefix keyHash), .ok o.1⟩ ∈ τ') ?_ ?_
      · refine Prog.Along.tryCatch (M := fun _ _ => True) ?_
          (fun e τ' _ => by cases e <;> exact groundedError_of_asks hasks _ _)
        refine ⟨trivial, fun token _ => ⟨trivial, fun r _ => ?_⟩⟩
        cases r with
        | error x => trivial
        | ok row => exact ⟨_, _, _, List.mem_cons_self⟩
      · rintro ⟨⟨id, row⟩, raw⟩ τ' ⟨name, keyPrefix, keyHash, hmem⟩
        exact grounded_of_created hasks hmem rfl rfl
  | createBuildJob body =>
      have hasks : ∀ res, ¬ (Request.tenant t xApiKey (.createBuildJob body)).AsksFor res :=
        fun res h => by cases res <;> exact h
      refine (checked_grounded _ body).bind (fun buildData τ1 _ => ?_)
      refine ((createBuildJobService_grounded buildData).mono (fun _ _ h => h)
        (fun e τ' _ => groundedError_of_asks hasks e τ')).bind ?_
      rintro ⟨⟨id, job⟩, ns⟩ τ' ⟨changes, hmem⟩
      exact grounded_of_created hasks hmem rfl rfl
  | createDeployment body =>
      have hasks : ∀ res, ¬ (Request.tenant t xApiKey (.createDeployment body)).AsksFor res :=
        fun res h => by cases res <;> exact h
      refine (checked_grounded _ body).bind (fun deployData τ1 _ => ?_)
      refine Prog.Along.bind (M := fun o τ' =>
        ∃ status, ⟨.db (.commitDeployment o.1.1 status), .ok o.1.2⟩ ∈ τ') ?_ ?_
      · exact (createDeploymentService_grounded deployData).tryCatch
          (fun e τ' _ => by cases e <;> exact groundedError_of_asks hasks _ _)
      · rintro ⟨⟨id, row⟩, ns⟩ τ' ⟨status, hmem⟩
        exact grounded_of_created hasks hmem rfl rfl
  | createWebhookRegistration body =>
      have hasks : ∀ res,
          ¬ (Request.tenant t xApiKey (.createWebhookRegistration body)).AsksFor res :=
        fun res h => by cases res <;> exact h
      refine (checked_grounded _ body).bind (fun regData τ1 _ => ⟨trivial, fun secret _ =>
        ⟨trivial, fun r _ => ?_⟩⟩)
      rcases r with x | ⟨id, row⟩
      · exact groundedError_of_asks hasks x _
      · exact grounded_of_created hasks List.mem_cons_self rfl rfl
  | getKubeconfig =>
      have hasks : ∀ res, ¬ (Request.tenant t xApiKey .getKubeconfig).AsksFor res :=
        fun res h => by cases res <;> exact h
      refine Prog.Along.bind (M := fun _ _ => True) ?_ (fun _ _ _ => .inl ⟨rfl, fun _ => hasks⟩)
      exact (along_any _).tryCatch
        (fun e τ' _ => by cases e <;> exact groundedError_of_asks hasks _ _)
  | revokeApiKey keyId =>
      refine ⟨trivial, fun r hr => ?_⟩
      rcases r with x | _ | ⟨id, row⟩
      · exact groundedError_of_isSql (hr.1 x rfl) _
      · exact grounded_of_last (fun res h => by cases res <;> exact h) rfl rfl
      · have hid : (id : ℤ) = keyId := hr.2
        refine ⟨trivial, fun now _ => ⟨trivial, fun r hr => ?_⟩⟩
        cases r with
        | error x => exact groundedError_of_isSql (hr.1 x rfl) _
        | ok row =>
            refine grounded_of_last (fun res h => ?_) rfl rfl
            cases res with
            | apiKey id' row' => exact Int.ofNat_inj.mp (h.2.trans hid.symm)
            | _ => exact h
  | getApiKey keyId =>
      have hasks : ∀ res, (Request.tenant t xApiKey (.getApiKey keyId)).AsksFor res →
          (DbCall.selectApiKey t keyId).Wants res := fun res h => by cases res <;> exact h
      refine ⟨trivial, fun r hr => ?_⟩
      rcases r with x | _ | ⟨id, row⟩
      · exact groundedError_of_isSql (hr.1 x rfl) _
      · exact grounded_of_last hasks rfl rfl
      · exact grounded_of_last hasks rfl rfl
  | getBuildJob buildJobId =>
      have hasks : ∀ res, (Request.tenant t xApiKey (.getBuildJob buildJobId)).AsksFor res →
          (DbCall.selectBuildJob t buildJobId).Wants res := fun res h => by cases res <;> exact h
      refine ⟨trivial, fun r hr => ?_⟩
      rcases r with x | _ | ⟨id, row⟩
      · exact groundedError_of_isSql (hr.1 x rfl) _
      · exact grounded_of_last hasks rfl rfl
      · exact grounded_of_last hasks rfl rfl
  | getDeployment deploymentId =>
      have hasks : ∀ res, (Request.tenant t xApiKey (.getDeployment deploymentId)).AsksFor res →
          (DbCall.selectDeployment t deploymentId).Wants res :=
        fun res h => by cases res <;> exact h
      refine ⟨trivial, fun r hr => ?_⟩
      rcases r with x | _ | ⟨id, row⟩
      · exact groundedError_of_isSql (hr.1 x rfl) _
      · exact grounded_of_last hasks rfl rfl
      · exact grounded_of_last hasks rfl rfl
  | getAllApiKeys =>
      refine ⟨trivial, fun rows _ =>
        grounded_of_last (fun res h => by cases res <;> exact h) rfl ?_⟩
      simp [ResponseBody.items, answered, listed, Resource.item]
  | getAllWebhookRegistrations =>
      refine ⟨trivial, fun rows _ =>
        grounded_of_last (fun res h => by cases res <;> exact h) rfl ?_⟩
      simp [ResponseBody.items, answered, listed, Resource.item]
  | getAllBuildJobs page =>
      rcases page with detail | ⟨limit, offset⟩
      · exact .inl ⟨rfl, fun h => by rcases h with h | h <;> cases h⟩
      · refine ⟨trivial, fun rows _ => grounded_of_last (fun res h => ?_) rfl ?_⟩
        · cases limit <;> cases offset <;> cases res <;> first | exact ⟨rfl, rfl, h⟩ | exact h.elim
        · simp [ResponseBody.items, answered, listed, Resource.item]
  | getAllDeployments page =>
      rcases page with detail | ⟨limit, offset⟩
      · exact .inl ⟨rfl, fun h => by rcases h with h | h <;> cases h⟩
      · refine ⟨trivial, fun rows _ => grounded_of_last (fun res h => ?_) rfl ?_⟩
        · cases limit <;> cases offset <;> cases res <;> first | exact ⟨rfl, rfl, h⟩ | exact h.elim
        · simp [ResponseBody.items, answered, listed, Resource.item]

/-- A request about the tenant with an id. -/
def Request.AsksForTenant (r : Request) (tenantId : ℤ) : Prop :=
  ∀ res, r.AsksFor res → ∃ id row, res = .tenant id row ∧ (id : ℤ) = tenantId

theorem Request.AsksForTenant.none {r : Request} {tenantId : ℤ} (h : r.AsksForTenant tenantId)
    (hneg : tenantId < 0) (res : Resource) : ¬ r.AsksFor res := by
  intro hasks
  obtain ⟨id, row, -, hid⟩ := h res hasks
  exact absurd hneg (not_lt.mpr (hid ▸ Int.natCast_nonneg id))

theorem Request.AsksForTenant.wants {r : Request} {tenantId : ℤ} (h : r.AsksForTenant tenantId)
    {id : ℕ} (hid : (id : ℤ) = tenantId) {e : DbCall} (he : ∀ row, e.Wants (.tenant id row))
    (res : Resource) (hasks : r.AsksFor res) : e.Wants res := by
  obtain ⟨id', row, rfl, hid'⟩ := h res hasks
  obtain rfl := Int.ofNat_inj.mp (hid'.trans hid.symm)
  exact he row

/-- What is said of a tenant that was found or was not. -/
def Request.GroundedTenant (r : Request) (o : Option (ℕ × Tenant)) (τ : History) : Prop :=
  o.elim (r.Grounded ⟨404, .detail "Tenant not found"⟩ τ)
    (fun tenant => r.Grounded ⟨200, .tenant (tenantResponse tenant)⟩ τ)

theorem tenant_grounded {r : Request} {o : Option (ℕ × Tenant)} (h : r.GroundedTenant o τ) :
    (do
      let tenant ← found "Tenant not found" o
      return (⟨200, .tenant (tenantResponse tenant)⟩, none) : Py Reply).Along lookingUp
        (fun reply => r.Grounded reply.1) r.GroundedError τ := by
  cases o <;> exact h

theorem AdminRequest.handle_grounded (r : AdminRequest) :
    (r.handle cfg).Along lookingUp (fun reply => (Request.admin xAdminSecret r).Grounded reply.1)
      (Request.admin xAdminSecret r).GroundedError τ := by
  cases r with
  | createTenant body =>
      have hasks : ∀ res, ¬ (Request.admin xAdminSecret (.createTenant body)).AsksFor res :=
        fun res h => by cases res <;> exact h
      refine (checked_grounded _ body).bind (fun tenantData τ1 _ => ?_)
      refine Prog.Along.bind (M := fun o τ' => ∃ ns keyName keyPrefix keyHash,
        ⟨.db (.commitTenant o.1.1 tenantData.name ns keyName keyPrefix keyHash), .ok o.1.2⟩ ∈ τ')
        ?_ ?_
      · refine Prog.Along.tryCatch (M := fun _ _ => True) ?_
          (fun e τ' _ => by cases e <;> exact groundedError_of_asks hasks _ _)
        refine ⟨trivial, fun r _ => ?_⟩
        cases r with
        | error x => trivial
        | ok id =>
            refine ⟨trivial, fun token _ => ⟨trivial, fun r _ => ?_⟩⟩
            cases r with
            | error x => trivial
            | ok tenant => exact ⟨_, _, _, _, List.mem_cons_self⟩
      · rintro ⟨⟨id, tenant⟩, raw⟩ τ' ⟨ns, keyName, keyPrefix, keyHash, hmem⟩
        exact grounded_of_created hasks hmem rfl rfl
  | getTenant tenantId =>
      have hasks : (Request.admin xAdminSecret (.getTenant tenantId)).AsksForTenant tenantId :=
        fun res h => by cases res <;> first | exact ⟨_, _, rfl, h⟩ | exact h.elim
      refine Prog.Along.bind (atKey_along (fun hneg => .inl ⟨rfl, fun _ => hasks.none hneg⟩)
        (groundedError_of_isSql rfl _) (fun id hid => ⟨trivial, fun r _ => ?_⟩))
        (fun o τ' h => tenant_grounded h)
      cases r with
      | none => exact grounded_of_last (hasks.wants hid (fun _ => rfl)) rfl rfl
      | some row => exact grounded_of_last (hasks.wants hid (fun _ => rfl)) rfl rfl
  | getAllTenants =>
      refine ⟨trivial, fun rows _ => grounded_of_last (fun res h => ?_) rfl ?_⟩
      · cases res with
        | tenant id row => exact ⟨rfl, rfl⟩
        | _ => exact h
      · simp [ResponseBody.items, answered, listed, Resource.item]
  | deleteTenant tenantId =>
      have hasks : (Request.admin xAdminSecret (.deleteTenant tenantId)).AsksForTenant tenantId :=
        fun res h => by cases res <;> first | exact ⟨_, _, rfl, h⟩ | exact h.elim
      refine Prog.Along.bind (M := fun n => (Request.admin xAdminSecret
        (.deleteTenant tenantId)).Grounded (if n = 0 then ⟨404, .detail "Tenant not found"⟩
          else ⟨204, .empty⟩)) ?_ (fun n τ' h => ?_)
      · refine atKey_along (fun hneg => .inl ⟨rfl, fun _ => hasks.none hneg⟩)
          (groundedError_of_isSql rfl _) (fun id hid => ⟨trivial, fun r hr => ?_⟩)
        rcases r with x | _ | n
        · exact groundedError_of_isSql (hr.1 x rfl) _
        · exact grounded_of_last (hasks.wants hid (fun _ => rfl)) rfl rfl
        · exact grounded_of_last (hasks.wants hid (fun _ => rfl)) rfl rfl
      · cases n <;> exact h
  | updateTenant tenantId body =>
      have hasks :
          (Request.admin xAdminSecret (.updateTenant tenantId body)).AsksForTenant tenantId :=
        fun res h => by cases res <;> first | exact ⟨_, _, rfl, h⟩ | exact h.elim
      refine (checked_grounded _ body).bind (fun tenantData τ1 _ => ?_)
      refine Prog.Along.bind ?_ (fun o τ' h => tenant_grounded h)
      refine Prog.Along.tryCatch (M := fun e _ => e.isSql = true ∨ ∃ text, e = .valueError text)
        (atKey_along (fun hneg => .inl ⟨rfl, fun _ => hasks.none hneg⟩) (.inl rfl)
          (fun id hid => ⟨trivial, fun r _ => ?_⟩)) ?_
      · cases r with
        | none => exact grounded_of_last (hasks.wants hid (fun _ => rfl)) rfl rfl
        | some tenant =>
            show (if _ then _ else _ : Py (Option (ℕ × Tenant))).Along _ _ _ _
            split
            · exact .inr ⟨_, rfl⟩
            · refine ⟨trivial, fun r hr => ?_⟩
              cases r with
              | error x => exact .inl (hr.1 x rfl)
              | ok row => exact grounded_of_last (hasks.wants hid (fun _ => rfl)) rfl rfl
      · rintro e τ' (hsql | ⟨text, rfl⟩)
        · cases e with
          | valueError text => cases hsql
          | _ => exact groundedError_of_isSql hsql τ'
        · exact .inl ⟨rfl, fun h => by rcases h with h | h <;> cases h⟩

theorem verifyTenant_grounded (r : Request) :
    (verifyTenant cfg t xApiKey).Along lookingUp (fun _ _ => True) r.GroundedError τ := by
  refine ⟨trivial, fun rows _ => ?_⟩
  rcases rows with _ | ⟨⟨apiKey, tenant⟩, _ | ⟨row, rows⟩⟩
  · exact groundedError_of_status ⟨by simp [errorReply], by simp [errorReply]⟩ _
  · show (if _ then _ else if _ then _ else _ : Py Unit).Along _ _ _ _
    split
    · exact groundedError_of_status ⟨by simp [errorReply], by simp [errorReply]⟩ _
    · split
      · exact groundedError_of_status ⟨by simp [errorReply], by simp [errorReply]⟩ _
      · trivial
  · exact groundedError_of_isSql rfl _

theorem verifyAdmin_grounded (adminSecretKey : String) (r : Request) :
    (verifyAdmin adminSecretKey xAdminSecret).Along lookingUp (fun _ _ => True) r.GroundedError
      τ := by
  refine Prog.Along.bind (M := fun _ _ => True) ?_ (fun isValid τ' _ => ?_)
  · show (if _ then _ else _ : Py Bool).Along _ _ _ _
    split
    · trivial
    · exact groundedError_of_status ⟨by simp [errorReply], by simp [errorReply]⟩ _
  · show (if _ then _ else _ : Py Unit).Along _ _ _ _
    split
    · trivial
    · exact groundedError_of_status ⟨by simp [errorReply], by simp [errorReply]⟩ _

theorem Request.serve_grounded (adminSecretKey : String) (r : Request) :
    (r.serve cfg adminSecretKey).Along lookingUp (fun reply => r.Grounded reply.1)
      (fun _ _ => True) τ := by
  refine Prog.Along.tryCatch (M := r.GroundedError) ?_ (fun e τ' h => h)
  cases r with
  | tenant t xApiKey r =>
      exact (verifyTenant_grounded _).bind (fun _ _ _ => r.handle_grounded)
  | admin xAdminSecret r =>
      exact (verifyAdmin_grounded adminSecretKey _).bind (fun _ _ _ => r.handle_grounded)

end Along

/-! ## Runs -/

section Reachable

variable {ι : Type} [DecidableEq ι] {cfg : Settings} {adminSecretKey : String}
  {requests : ι → Request} {cluster : Cluster} {env : World → World → Prop}
  {c₀ c c' : Config ι Call Call.Result PyException World} {i j : ι} {reply reply' : Reply}

/-- A response as an answer about the database of a moment between two others. -/
def SnapshotBetween (env : World → World → Prop)
    (c c' : Config ι Call Call.Result PyException World) (r : Request) (reply : Response)
    (db : Database) : Prop :=
  ∃ m, Reach (platform env) c m ∧ Reach (platform env) m c' ∧ m.trail.state.db = db ∧
    r.Answered reply db

theorem lookingUp_legal (hc : Reach (platform env)
    (platformStart cfg adminSecretKey requests cluster) c) (i : ι) :
    lookingUp.Legal (own i c.trail.events) := by
  refine hc.answers (fun _ _ => trivial) (fun e s r s' hact _ => ?_) i
  obtain ⟨o, ho⟩ := hact
  obtain rfl : (handle e o s).1 = r := congrArg Prod.fst ho
  cases e with
  | db e =>
      refine ⟨fun x hx => (raised_of_statement hx).1, ?_⟩
      cases e with
      | selectApiKey t keyId =>
          simp only [handle, handleDb]
          cases hlookup : lookupInt s.db.apiKeys keyId with
          | error x => trivial
          | ok found =>
              rcases found with _ | ⟨id, row⟩
              · trivial
              · simp only [Except.map, Option.filter_some]
                split
                · exact (lookupInt_ok hlookup).1.symm
                · trivial
      | _ => trivial
  | k8s e => exact ⟨fun x hx => (by cases hx), trivial⟩
  | sys e => exact ⟨fun x hx => (by cases hx), trivial⟩

/-- A request that begins after one moment and is answered at another is answered about the
database of a moment in between. -/
theorem snapshotBetween (hc : Reach (platform env)
      (platformStart cfg adminSecretKey requests cluster) c)
    (hc' : Reach (platform env) c c') (hbegins : own i c.trail.events = [])
    (hreply : ((requests i).serve cfg adminSecretKey).returned (own i c'.trail.events) =
      some reply) :
    ∃ db, SnapshotBetween env c c' (requests i) reply.1 db := by
  have hlegal := lookingUp_legal (hc.trans hc') i
  have hgrounded : (requests i).Grounded reply.1 (own i c'.trail.events ++ []) :=
    ((requests i).serve_grounded adminSecretKey).returned hreply (by rwa [List.append_nil])
  rw [List.append_nil] at hgrounded
  rcases hgrounded with hunsaid | ⟨e, ans, hmem, hok, hitems, hasks⟩
  · refine ⟨_, c', hc', .init, rfl, fun item hitem => ?_, fun hstatus res _ h => ?_⟩
    · rw [hunsaid.1] at hitem
      cases hitem
    · exact absurd h (hunsaid.2 hstatus res)
  · obtain ⟨ev, hev, hactor, heq⟩ := mem_own.mp hmem
    have hnew : ev ∉ c.trail.events := by
      intro hold
      have hown : ev.toExchange ∈ own i c.trail.events := mem_own.mpr ⟨ev, hold, hactor, rfl⟩
      rw [hbegins] at hown
      cases hown
    obtain ⟨m, hm, hm', hpost, o, ho⟩ := hc'.moment ev hev hnew
    obtain ⟨x, actor, pre, post⟩ := ev
    obtain rfl : x = ⟨.db e, ans⟩ := heq
    obtain rfl : (handleDb o.want o.now e pre.db).1 = ans := congrArg Prod.fst ho
    have hdb : post.db = (handleDb o.want o.now e pre.db).2 :=
      (congrArg (fun r => World.db (Prod.snd r)) ho).symm
    refine ⟨post.db, m, hm, hm', congrArg World.db hpost, ?_, ?_⟩
    · intro item hitem
      rw [hitems] at hitem
      obtain ⟨res, hres, rfl⟩ := List.mem_map.mp hitem
      exact ⟨res, hdb ▸ in_of_answered e hres, rfl⟩
    · intro _ res hres h
      rw [hitems]
      exact List.mem_map.mpr ⟨res, answered_of_in e hok (hdb ▸ hres) (hasks res h), rfl⟩

/-- A request that begins once another is answered is answered about a later database: both
responses are true and complete at a moment of their own, between beginning and response, and what
the first one shows is still there at the second moment or has moved on, unless its tenant has
gone. -/
theorem responses_move_on (henv : KeepsDatabase env)
    (hc₀ : Reach (platform env) (platformStart cfg adminSecretKey requests cluster) c₀)
    (hbegins : own i c₀.trail.events = []) (hc : Reach (platform env) c₀ c)
    (hreply : ((requests i).serve cfg adminSecretKey).returned (own i c.trail.events) = some reply)
    (hbegins' : own j c.trail.events = []) (hc' : Reach (platform env) c c')
    (hreply' : ((requests j).serve cfg adminSecretKey).returned (own j c'.trail.events) =
      some reply') :
    ∃ db db', SnapshotBetween env c₀ c (requests i) reply.1 db ∧
      SnapshotBetween env c c' (requests j) reply'.1 db' ∧ db.Later db' := by
  obtain ⟨db, hsnapshot⟩ := snapshotBetween hc₀ hc hbegins hreply
  obtain ⟨db', hsnapshot'⟩ := snapshotBetween (hc₀.trans hc) hc' hbegins' hreply'
  refine ⟨db, db', hsnapshot, hsnapshot', ?_⟩
  obtain ⟨m, hm, hmc, rfl, -⟩ := hsnapshot
  obtain ⟨m', hm', -, rfl, -⟩ := hsnapshot'
  exact rows_keep henv (hc₀.trans hm) (hmc.trans hm')

end Reachable

/-- A tenant is created, and then all tenants are listed. -/
def listedRun : Config ℕ Call Call.Result PyException World := drive handle [(5, .ok)] createdRun

/-- A build is asked for, and all tenants are listed once more. -/
def relistedRun : Config ℕ Call Call.Result PyException World :=
  drive handle [(1, .ok), (6, .ok), (1, .ok)] listedRun

theorem responses_move_on_listed :
    ∃ reply reply' db db',
      SnapshotBetween anyCluster createdRun listedRun (sampleRequests 5) reply db ∧
      SnapshotBetween anyCluster listedRun relistedRun (sampleRequests 6) reply' db' ∧
      reply.body.items = reply'.body.items ∧ db.Later db' := by
  have hlisted : ((sampleRequests 5).serve sampleSettings "admin").returned
      (own 5 listedRun.trail.events) = some (⟨200, .tenants
        [⟨1, "acme", tenantNamespace 1, 0, true⟩]⟩, none) := by decide +kernel
  have hrelisted : ((sampleRequests 6).serve sampleSettings "admin").returned
      (own 6 relistedRun.trail.events) = some (⟨200, .tenants
        [⟨1, "acme", tenantNamespace 1, 0, true⟩]⟩, none) := by decide +kernel
  have hbegins : own 5 createdRun.trail.events = [] := by decide +kernel
  have hbegins' : own 6 listedRun.trail.events = [] := by decide +kernel
  obtain ⟨db, db', hsnapshot, hsnapshot', hlater⟩ := responses_move_on anyCluster_keepsDatabase
    createdRun_reach hbegins (Reach.drive _ .init) hlisted hbegins' (Reach.drive _ .init) hrelisted
  exact ⟨_, _, db, db', hsnapshot, hsnapshot', rfl, hlater⟩

end TenantPlatform
