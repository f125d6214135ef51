import TenantPlatform.Effect.Moments
import TenantPlatform.Verification.Jobs.Settlement
import TenantPlatform.Verification.Keys.Operations

/-! # Refused requests leave no trace

A request that is answered with a status from 400 to 499 has changed no row and no object of the
cluster, and has sent nothing to anybody. Only a download of credentials may be refused with its
namespace set up, since whatever a library raises as a ValueError is answered with 400 there. -/

namespace TenantPlatform

open Effect

/-! ## Calls without a trace -/

/-- The exception that a statement came to. -/
def raised : Exchange Call Call.Result → Option PyException
  | ⟨.db (.flushTenant ..), .error x⟩ | ⟨.db (.commitTenant ..), .error x⟩
  | ⟨.db (.updateTenant ..), .error x⟩ | ⟨.db (.deleteTenant ..), .error x⟩
  | ⟨.db (.insertApiKey ..), .error x⟩ | ⟨.db (.selectApiKey ..), .error x⟩
  | ⟨.db (.revokeApiKey ..), .error x⟩ | ⟨.db (.getBuildJob ..), .error x⟩
  | ⟨.db (.insertBuildJob ..), .error x⟩ | ⟨.db (.commitBuildJob ..), .error x⟩
  | ⟨.db (.selectBuildJob ..), .error x⟩ | ⟨.db (.insertDeployment ..), .error x⟩
  | ⟨.db (.commitDeployment ..), .error x⟩ | ⟨.db (.selectDeployment ..), .error x⟩
  | ⟨.db (.insertWebhookRegistration ..), .error x⟩
  | ⟨.db (.commitWebhookDeliveries ..), .error x⟩ => some x
  | _ => none

def PyException.isSql : PyException → Bool
  | .integrity _ | .database _ => true
  | _ => false

/-- Calls that may change rows or objects, or send something. A flush draws an id and no more. -/
def Call.acts : Call → Bool
  | .db (.commitTenant ..) | .db (.updateTenant ..) | .db (.deleteTenant ..)
  | .db (.insertApiKey ..) | .db (.revokeApiKey ..) | .db (.insertBuildJob ..)
  | .db (.commitBuildJob ..) | .db (.insertDeployment ..) | .db (.commitDeployment ..)
  | .db (.insertWebhookRegistration ..) | .db (.commitWebhookDeliveries ..) => true
  | .k8s (.create ..) | .k8s (.patchDeployment ..) => true
  | .sys (.post ..) => true
  | _ => false

/-- A call that could not act, that failed in the database, or that found nothing to delete. -/
def Traceless : Exchange Call Call.Result → Prop
  | ⟨.db (.deleteTenant _), .ok n⟩ => n = 0
  | x => x.call.acts = false ∨ (raised x).isSome

/-- The same rows, whatever ids have been drawn. -/
structure Database.SameRows (db db' : Database) : Prop where
  tenants : db'.tenants.get = db.tenants.get
  apiKeys : db'.apiKeys.get = db.apiKeys.get
  buildJobs : db'.buildJobs.get = db.buildJobs.get
  deployments : db'.deployments.get = db.deployments.get
  webhookRegistrations : db'.webhookRegistrations.get = db.webhookRegistrations.get
  webhookDeliveries : db'.webhookDeliveries.get = db.webhookDeliveries.get

theorem Database.SameRows.refl (db : Database) : db.SameRows db := ⟨rfl, rfl, rfl, rfl, rfl, rfl⟩

section Statement

variable {want now : ℕ} {db : Database}

theorem isSql_of_keyViolation {tenantId : ℕ} {name keyPrefix keyHash : String} {x : PyException}
    (h : db.keyViolation tenantId name keyPrefix keyHash = some x) : x.isSql = true := by
  unfold Database.keyViolation at h
  repeat' split at h
  all_goals cases h
  all_goals rfl

theorem isSql_of_lookupInt {α : Type} {t : Table α} {id : ℤ} {x : PyException}
    (h : lookupInt t id = .error x) : x.isSql = true := by
  unfold lookupInt at h
  split at h
  · cases h
  · cases h
    rfl

theorem isSql_of_cascade {t : ℕ} {x : PyException} (h : db.cascadeTenant t = .error x) :
    x.isSql = true := by
  simp only [Database.cascadeTenant, Database.deleteBuildJobs, bind, Except.bind, pure,
    Except.pure] at h
  split at h
  · rename_i hdeleted
    cases h
    split at hdeleted
    · cases hdeleted
      rfl
    · cases hdeleted
  · cases h

/-- A statement that fails does so in the database, and changes no row. -/
theorem raised_of_statement {e : DbCall} {x : PyException}
    (h : raised ⟨.db e, (handleDb want now e db).1⟩ = some x) :
    x.isSql = true ∧ db.SameRows (handleDb want now e db).2 := by
  have hsame : db.SameRows db := .refl db
  revert h
  cases e with
  | flushTenant name ns =>
      simp only [handleDb, Database.flushTenant]
      repeat' split
      all_goals intro h; cases h <;> exact ⟨rfl, rfl, rfl, rfl, rfl, rfl, rfl⟩
  | commitTenant id name ns keyName keyPrefix keyHash =>
      simp only [handleDb, Database.commitTenant]
      split
      · intro h; cases h; exact ⟨rfl, hsame⟩
      · split
        · intro h; cases h; exact ⟨rfl, hsame⟩
        · split
          · rename_i hviolation
            intro h
            cases h
            exact ⟨isSql_of_keyViolation hviolation, rfl, rfl, rfl, rfl, rfl, rfl⟩
          · intro h; cases h
  | updateTenant id changes =>
      simp only [handleDb, Database.updateTenant]
      repeat' split
      all_goals intro h; cases h <;> exact ⟨rfl, hsame⟩
  | deleteTenant id =>
      simp only [handleDb, Database.deleteTenant]
      split
      · intro h; cases h
      · split
        · rename_i hcascade
          intro h
          cases h
          exact ⟨isSql_of_cascade hcascade, hsame⟩
        · intro h; cases h
  | insertApiKey tenantId name keyPrefix keyHash =>
      simp only [handleDb, Database.insertApiKey]
      split
      · rename_i hviolation
        intro h
        cases h
        exact ⟨isSql_of_keyViolation hviolation, rfl, rfl, rfl, rfl, rfl, rfl⟩
      · split
        all_goals intro h; cases h <;> exact ⟨rfl, rfl, rfl, rfl, rfl, rfl, rfl⟩
  | revokeApiKey id revokedAt =>
      simp only [handleDb, Database.revokeApiKey]
      split
      all_goals intro h; cases h <;> exact ⟨rfl, hsame⟩
  | insertBuildJob tenantId gitUrl gitRevision gitSubPath status =>
      simp only [handleDb, Database.insertBuildJob]
      repeat' split
      all_goals intro h; cases h <;> exact ⟨rfl, rfl, rfl, rfl, rfl, rfl, rfl⟩
  | commitBuildJob id changes =>
      simp only [handleDb, Database.commitBuildJob]
      repeat' split
      all_goals intro h; cases h <;> exact ⟨rfl, hsame⟩
  | insertDeployment tenantId buildJobId name status replicaCount =>
      simp only [handleDb, Database.insertDeployment]
      split
      all_goals intro h; cases h <;> exact ⟨rfl, rfl, rfl, rfl, rfl, rfl, rfl⟩
  | commitDeployment id status =>
      simp only [handleDb, Database.commitDeployment]
      split
      all_goals intro h; cases h <;> exact ⟨rfl, hsame⟩
  | insertWebhookRegistration tenantId callbackUrl signingSecret =>
      simp only [handleDb, Database.insertWebhookRegistration]
      repeat' split
      all_goals intro h; cases h <;> exact ⟨rfl, rfl, rfl, rfl, rfl, rfl, rfl⟩
  | commitWebhookDeliveries rows =>
      simp only [handleDb, Database.commitWebhookDeliveries]
      split
      all_goals intro h; cases h <;> exact ⟨rfl, hsame⟩
  | selectApiKey tenantId keyId =>
      simp only [handleDb]
      cases hlookup : lookupInt db.apiKeys keyId with
      | ok r => intro h; cases h
      | error y => intro h; cases h; exact ⟨isSql_of_lookupInt hlookup, hsame⟩
  | getBuildJob id =>
      simp only [handleDb]
      cases hlookup : lookupInt db.buildJobs id with
      | ok r => intro h; cases h
      | error y => intro h; cases h; exact ⟨isSql_of_lookupInt hlookup, hsame⟩
  | selectBuildJob tenantId id =>
      simp only [handleDb]
      cases hlookup : lookupInt db.buildJobs id with
      | ok r => intro h; cases h
      | error y => intro h; cases h; exact ⟨isSql_of_lookupInt hlookup, hsame⟩
  | selectDeployment tenantId id =>
      simp only [handleDb]
      cases hlookup : lookupInt db.deployments id with
      | ok r => intro h; cases h
      | error y => intro h; cases h; exact ⟨isSql_of_lookupInt hlookup, hsame⟩
  | _ => intro h; cases h

theorem sameRows_of_reads {e : DbCall} (h : (Call.db e).acts = false) :
    db.SameRows (handleDb want now e db).2 := by
  cases e with
  | flushTenant name ns =>
      simp only [handleDb, Database.flushTenant]
      repeat' split
      all_goals exact ⟨rfl, rfl, rfl, rfl, rfl, rfl⟩
  | _ => first | exact .refl db | cases h

theorem sameRows_of_none_deleted {id : ℕ} (h : (db.deleteTenant id).1 = .ok 0) :
    db.SameRows (db.deleteTenant id).2 := by
  rcases db.deleteTenant_cases id with ⟨x, heq⟩ | heq | ⟨db', heq, -⟩
  · rw [heq]
    exact .refl db
  · rw [heq]
    exact .refl db
  · rw [heq] at h
    cases h

end Statement

/-! ## The discipline -/

/-- Failures of statements are those of the database. -/
def failsInDatabase : Discipline Call Call.Result :=
  ⟨fun _ _ => True, fun _ x => ∀ e, raised x = some e → e.isSql = true⟩

def Response.refused (r : Response) : Bool := 400 ≤ r.status && r.status < 500

/-- The exception becomes a response with a status from 400 to 499. -/
def PyException.refuses (e : PyException) : Bool := (errorReply e).1.refused

theorem refuses_of_isSql {e : PyException} (h : e.isSql = true) : e.refuses = false := by
  cases e with
  | integrity text => rfl
  | database text => rfl
  | _ => cases h

/-- No call so far has left a trace. -/
def Clean (τ : History) : Prop := ∀ x ∈ τ, Traceless x

theorem clean_nil : Clean [] := fun _ hx => by cases hx

theorem Clean.cons {τ : History} (h : Clean τ) {x : Exchange Call Call.Result}
    (hx : Traceless x) : Clean (x :: τ) := by
  intro y hy
  rcases List.mem_cons.mp hy with rfl | hy
  · exact hx
  · exact h y hy

theorem traceless_of_not_acts {x : Exchange Call Call.Result} (h : x.call.acts = false) :
    Traceless x := by
  obtain ⟨e, r⟩ := x
  cases e with
  | db e =>
      cases e with
      | deleteTenant id => cases h
      | _ => exact .inl h
  | _ => exact .inl h

theorem traceless_cases {x : Exchange Call Call.Result} (h : Traceless x) :
    (∃ id, x = ⟨.db (.deleteTenant id), .ok 0⟩) ∨ x.call.acts = false ∨ (raised x).isSome := by
  unfold Traceless at h
  split at h
  · rename_i id n
    subst h
    exact .inl ⟨id, rfl⟩
  · exact .inr h

section Along

variable {cfg : Settings} {τ : History}

theorem along_clean {α : Type} {p : Py α} {Q : α → Prop}
    (hp : p.Uses (fun e => e.acts = false) Q) (h : Clean τ) :
    p.Along failsInDatabase (fun a τ' => Q a ∧ Clean τ') (fun _ τ' => Clean τ') τ :=
  hp.along (fun _ _ _ _ => trivial) (fun _ _ hx h _ => h.cons (traceless_of_not_acts hx)) h

/-- Whatever follows, under a discipline that permits every call. -/
theorem along_any {expects : History → Exchange Call Call.Result → Prop} {α : Type} (p : Py α) :
    p.Along ⟨fun _ _ => True, expects⟩ (fun _ _ => True) (fun _ _ => True) τ :=
  (p.uses_any.along (I := fun _ => True) (fun _ _ _ _ => trivial) (fun _ _ _ _ _ => trivial)
    trivial).mono (fun _ _ _ => trivial) (fun _ _ _ => trivial)

/-- A refusal leaves a clean history. -/
def RefusedClean (reply : Reply) (τ : History) : Prop := reply.1.refused = true → Clean τ

def RaisedClean (e : PyException) (τ : History) : Prop := e.refuses = true → Clean τ

theorem raisedClean_of_isSql {e : PyException} (h : e.isSql = true) (τ : History) :
    RaisedClean e τ := by
  intro hrefuses
  rw [refuses_of_isSql h] at hrefuses
  cases hrefuses

theorem handle_clean_of_uses {p : Py Reply} (hp : p.Uses (fun e => e.acts = false) (fun _ => True))
    (h : Clean τ) : p.Along failsInDatabase RefusedClean RaisedClean τ :=
  (along_clean hp h).mono (fun _ _ h _ => h.2) (fun _ _ h _ => h)

theorem checked_clean {α : Type} (body : Checked α) (h : Clean τ) :
    (checked body).Along failsInDatabase (fun _ τ' => Clean τ') RaisedClean τ :=
  (along_clean (checked_uses body) h).mono (fun _ _ h => h.2) (fun _ _ h _ => h)

/-- A row's insertion: it fails without a trace, or what follows is no refusal. -/
theorem mapSqlErrors_clean {α : Type} {onIntegrity onOther : String} {p : Py α}
    (hp : p.Along failsInDatabase (fun _ _ => True) (fun _ τ' => Clean τ') τ) :
    (mapSqlErrors onIntegrity onOther p).Along failsInDatabase (fun _ _ => True) RaisedClean τ :=
  hp.tryCatch (fun e τ' h => by cases e <;> exact fun _ => h)

theorem createBuildJobService_clean (tenantId : ℕ) (buildData : BuildJobCreate) :
    (createBuildJobService cfg tenantId buildData).Along failsInDatabase (fun _ _ => True)
      (fun e _ => e.refuses = false) τ := by
  refine ⟨trivial, fun tenant _ => ?_⟩
  cases tenant with
  | none => rfl
  | some tenant =>
      refine ⟨trivial, fun r hr => ?_⟩
      rcases r with x | ⟨id, queued⟩
      · exact refuses_of_isSql (hr x rfl)
      · show (tryCatch (startBuild cfg tenantId tenant.k8sNamespace id queued) (failBuild id) >>=
          _).Along _ _ _ _
        refine Prog.Along.bind (M := fun _ _ => True) ?_ (fun _ _ _ => trivial)
        refine (along_any _).tryCatch (fun e τ' _ => ⟨trivial, fun now _ => ⟨trivial, ?_⟩⟩)
        intro r hr
        cases r with
        | error x => exact refuses_of_isSql (hr x rfl)
        | ok row => trivial

/-- Until the row is inserted nothing is done, and from then on no error is a refusal. -/
theorem createDeploymentService_clean (tenantId : ℕ) (deployData : DeploymentCreate)
    (h : Clean τ) :
    (createDeploymentService tenantId deployData).Along failsInDatabase (fun _ _ => True)
      (fun e τ' => Clean τ' ∨ e.isSql = true) τ := by
  refine ⟨trivial, fun r hr => ?_⟩
  have h1 : Clean (⟨.db (.getBuildJob deployData.buildJobId), r⟩ :: τ) :=
    h.cons (traceless_of_not_acts rfl)
  rcases r with x | _ | ⟨buildJobId, job⟩
  · exact .inl h1
  · exact .inl h1
  · show (if _ then _ else if _ then _ else _ : Py ((ℕ × Deployment) × Option String)).Along
      _ _ _ _
    split
    · exact .inl h1
    · split
      · exact .inl h1
      · refine ⟨trivial, fun tenant _ => ⟨trivial, fun r hr => ?_⟩⟩
        rcases r with x | ⟨id, row⟩
        · exact .inr (hr x rfl)
        · show (tryCatch (startDeployment tenant job.imageTag id row)
            (fun _ => commitDeployment id .failed) >>= _).Along _ _ _ _
          refine Prog.Along.bind (M := fun _ _ => True) ?_ (fun _ _ _ => trivial)
          refine (along_any _).tryCatch (fun e τ' _ => ⟨trivial, fun r hr => ?_⟩)
          cases r with
          | error x => exact .inr (hr x rfl)
          | ok row => trivial

theorem TenantRequest.handle_clean (tenantId : ℕ) (r : TenantRequest) (hr : r ≠ .getKubeconfig)
    (h : Clean τ) : (r.handle cfg tenantId).Along failsInDatabase RefusedClean RaisedClean τ := by
  cases r with
  | createApiKey body =>
      refine (checked_clean body h).bind (fun keyData τ1 h1 => ?_)
      refine Prog.Along.bind (M := fun _ _ => True) ?_ (fun _ _ _ hrefused => by cases hrefused)
      refine mapSqlErrors_clean ⟨trivial, fun token _ => ⟨trivial, fun r _ => ?_⟩⟩
      cases r with
      | error x => exact (h1.cons (traceless_of_not_acts rfl)).cons (.inr rfl)
      | ok row => trivial
  | createBuildJob body =>
      refine (checked_clean body h).bind (fun buildData τ1 h1 => ?_)
      refine Prog.Along.bind (M := fun _ _ => True) ?_ ?_
      · refine (createBuildJobService_clean tenantId buildData).mono (fun _ _ h => h) ?_
        intro e τ' he hrefuses
        rw [he] at hrefuses
        cases hrefuses
      · rintro ⟨⟨id, job⟩, ns⟩ τ' - hrefused
        cases hrefused
  | createDeployment body =>
      refine (checked_clean body h).bind (fun deployData τ1 h1 => ?_)
      refine Prog.Along.bind (M := fun _ _ => True) ?_ ?_
      · refine (createDeploymentService_clean tenantId deployData h1).tryCatch ?_
        rintro e τ' (hclean | hsql)
        · cases e <;> exact fun _ => hclean
        · cases e with
          | integrity text => exact raisedClean_of_isSql hsql τ'
          | database text => exact raisedClean_of_isSql hsql τ'
          | _ => cases hsql
      · rintro ⟨⟨id, row⟩, ns⟩ τ' - hrefused
        cases hrefused
  | createWebhookRegistration body =>
      refine (checked_clean body h).bind (fun regData τ1 h1 => ⟨trivial, fun secret _ =>
        ⟨trivial, fun r hr => ?_⟩⟩)
      cases r with
      | error x => exact raisedClean_of_isSql (hr x rfl) _
      | ok registration => exact fun hrefused => by cases hrefused
  | revokeApiKey keyId =>
      refine ⟨trivial, fun r hr => ?_⟩
      have h1 : Clean (⟨.db (.selectApiKey tenantId keyId), r⟩ :: τ) :=
        h.cons (traceless_of_not_acts rfl)
      rcases r with x | _ | ⟨id, row⟩
      · exact raisedClean_of_isSql (hr x rfl) _
      · exact fun _ => h1
      · refine ⟨trivial, fun now _ => ⟨trivial, fun r hr => ?_⟩⟩
        cases r with
        | error x => exact raisedClean_of_isSql (hr x rfl) _
        | ok row => exact fun hrefused => by cases hrefused
  | getKubeconfig => exact absurd rfl hr
  | getApiKey keyId =>
      refine handle_clean_of_uses ⟨rfl, fun r => ?_⟩ h
      rcases r with x | _ | row <;> trivial
  | getBuildJob buildJobId =>
      refine handle_clean_of_uses ⟨rfl, fun r => ?_⟩ h
      rcases r with x | _ | row <;> trivial
  | getDeployment deploymentId =>
      refine handle_clean_of_uses ⟨rfl, fun r => ?_⟩ h
      rcases r with x | _ | row <;> trivial
  | getAllApiKeys => exact handle_clean_of_uses ⟨rfl, fun r => trivial⟩ h
  | getAllBuildJobs page =>
      refine handle_clean_of_uses ((checked_uses page).bind (fun page _ => ?_)) h
      exact ⟨rfl, fun r => trivial⟩
  | getAllDeployments page =>
      refine handle_clean_of_uses ((checked_uses page).bind (fun page _ => ?_)) h
      exact ⟨rfl, fun r => trivial⟩
  | getAllWebhookRegistrations => exact handle_clean_of_uses ⟨rfl, fun r => trivial⟩ h

theorem AdminRequest.handle_clean (r : AdminRequest) (h : Clean τ) :
    (r.handle cfg).Along failsInDatabase RefusedClean RaisedClean τ := by
  cases r with
  | createTenant body =>
      refine (checked_clean body h).bind (fun tenantData τ1 h1 => ?_)
      refine Prog.Along.bind (M := fun _ _ => True) ?_ (fun _ _ _ hrefused => by cases hrefused)
      refine mapSqlErrors_clean ⟨trivial, fun r _ => ?_⟩
      cases r with
      | error x => exact h1.cons (.inr rfl)
      | ok id =>
          refine ⟨trivial, fun token _ => ⟨trivial, fun r _ => ?_⟩⟩
          cases r with
          | error x =>
              have h2 := h1.cons (x := ⟨.db (.flushTenant tenantData.name "pending"), .ok id⟩)
                (traceless_of_not_acts rfl)
              exact (h2.cons (traceless_of_not_acts rfl)).cons (.inr rfl)
          | ok tenant => trivial
  | getTenant tenantId =>
      refine handle_clean_of_uses (Prog.Uses.bind (M := fun _ => True)
        (atKey_uses trivial (fun id => ⟨rfl, fun r => trivial⟩)) ?_) h
      exact fun o _ => by cases o <;> trivial
  | getAllTenants => exact handle_clean_of_uses ⟨rfl, fun r => trivial⟩ h
  | deleteTenant tenantId =>
      refine Prog.Along.bind (M := fun n τ' => n = 0 → Clean τ') ?_ (fun n τ' hnone => ?_)
      · refine atKey_along (fun _ _ => h) (raisedClean_of_isSql rfl _)
          (fun id _ => ⟨trivial, fun r hr => ?_⟩)
        cases r with
        | error x => exact raisedClean_of_isSql (hr x rfl) _
        | ok n =>
            rintro rfl
            exact h.cons rfl
      · show (if _ then _ else _ : Py Reply).Along _ _ _ _
        split
        · rename_i hn
          exact fun _ => hnone hn
        · exact fun hrefused => by cases hrefused
  | updateTenant tenantId body =>
      refine (checked_clean body h).bind (fun tenantData τ1 h1 => ?_)
      refine Prog.Along.bind (M := fun o τ' => o = none → Clean τ') ?_ ?_
      · refine Prog.Along.tryCatch (M := fun e τ' => Clean τ')
          (atKey_along (fun _ _ => h1) h1 (fun id _ => ⟨trivial, fun r _ => ?_⟩))
          (fun e τ' h => by cases e <;> exact fun _ => h)
        have h2 : Clean (⟨.db (.getTenant id), r⟩ :: τ1) := h1.cons (traceless_of_not_acts rfl)
        cases r with
        | none => exact fun _ => h2
        | some tenant =>
            show (if _ then _ else _ : Py (Option (ℕ × Tenant))).Along _ _ _ _
            split
            · exact h2
            · refine ⟨trivial, fun r _ => ?_⟩
              cases r with
              | error x => exact h2.cons (.inr rfl)
              | ok tenant => exact fun hnone => by cases hnone
      · rintro (_ | tenant) τ' h2
        · exact fun _ => h2 rfl
        · exact fun hrefused => by cases hrefused

end Along

/-! ## Requests -/

/-- A download of credentials sets up what it needs before it can fail. -/
def Request.downloads : Request → Bool
  | .tenant _ _ .getKubeconfig => true
  | _ => false

theorem Request.serve_clean {cfg : Settings} (adminSecretKey : String) {r : Request}
    (hr : r.downloads = false) :
    (r.serve cfg adminSecretKey).Along failsInDatabase RefusedClean (fun _ _ => False) [] := by
  refine Prog.Along.tryCatch (M := RaisedClean) ?_ (fun e τ h hrefused => h hrefused)
  have hverified : ∀ {p : Py Unit}, p.Uses (fun e => e.acts = false) (fun _ => True) →
      p.Along failsInDatabase (fun _ τ => Clean τ) RaisedClean [] :=
    fun hp => (along_clean hp clean_nil).mono (fun _ _ h => h.2) (fun _ _ h _ => h)
  cases r with
  | tenant n xApiKey r =>
      refine (hverified (verifyTenant_uses cfg n xApiKey rfl)).bind
        (fun _ _ h => r.handle_clean n ?_ h)
      rintro rfl
      cases hr
  | admin xAdminSecret r =>
      exact (hverified (verifyAdmin_uses adminSecretKey xAdminSecret)).bind
        (fun _ _ h => r.handle_clean h)

/-! ## Runs -/

section Reachable

variable {ι : Type} [DecidableEq ι] {cfg : Settings} {adminSecretKey : String}
  {requests : ι → Request} {w : World} {env : World → World → Prop}
  {c : Config ι Call Call.Result PyException World}

/-- A call has left the world as it was, but for ids that are drawn. -/
structure NoTrace (ev : Event ι Call Call.Result World) : Prop where
  cluster : ev.post.cluster = ev.pre.cluster
  rows : ev.pre.db.SameRows ev.post.db
  silent : ∀ url content headers, ev.call ≠ .sys (.post url content headers)

omit [DecidableEq ι] in
theorem noTrace_of_traceless {ev : Event ι Call Call.Result World}
    (hact : (platform env).act ev.call ev.pre ev.answer ev.post) (h : Traceless ev.toExchange) :
    NoTrace ev := by
  obtain ⟨⟨e, r⟩, actor, pre, post⟩ := ev
  obtain ⟨o, ho⟩ := hact
  obtain rfl : (handle e o pre).1 = r := congrArg Prod.fst ho
  obtain rfl : (handle e o pre).2 = post := congrArg Prod.snd ho
  have hcases := traceless_cases h
  cases e with
  | db e =>
      refine ⟨rfl, ?_, fun _ _ _ h => by cases h⟩
      rcases hcases with ⟨id, hx⟩ | hreads | hraised
      · have hcall : Call.db e = .db (.deleteTenant id) := congrArg Exchange.call hx
        cases hcall
        have hzero : (pre.db.deleteTenant id).1 = .ok 0 := by
          injection hx
        exact sameRows_of_none_deleted hzero
      · exact sameRows_of_reads hreads
      · obtain ⟨x, hx⟩ := Option.isSome_iff_exists.mp hraised
        exact (raised_of_statement hx).2
  | k8s e =>
      rcases hcases with ⟨id, hx⟩ | hreads | hraised
      · cases hx
      · refine ⟨?_, .refl _, fun _ _ _ h => by cases h⟩
        cases e <;> first | rfl | cases hreads
      · cases hraised
  | sys e =>
      refine ⟨rfl, .refl _, ?_⟩
      rintro url content headers heq
      cases heq
      rcases hcases with ⟨id, hx⟩ | hreads | hraised
      · cases hx
      · cases hreads
      · cases hraised

/-- In every run from any state, a request that is answered with a status from 400 to 499 has left
no trace by any of its calls, unless it was a download of credentials. -/
theorem refused_requests_leave_no_trace
    (hc : Reach (platform env) (Config.start (fun i => (requests i).thread cfg adminSecretKey) w) c)
    {i : ι} (hi : (requests i).downloads = false) {reply : Reply}
    (hreply : ((requests i).serve cfg adminSecretKey).returned (own i c.trail.events) = some reply)
    (hrefused : reply.1.refused = true) :
    ∀ ev ∈ c.trail.events, ev.actor = i → NoTrace ev := by
  have hlegal : failsInDatabase.Legal (own i c.trail.events) := by
    refine hc.answers (fun _ _ => trivial) (fun e s r s' hact _ x hx => ?_) i
    obtain ⟨o, ho⟩ := hact
    cases e with
    | db e =>
        obtain rfl : (handleDb o.want o.now e s.db).1 = r := congrArg Prod.fst ho
        exact (raised_of_statement hx).1
    | k8s e => cases hx
    | sys e => cases hx
  intro ev hev hactor
  have hclean := ((requests i).serve_clean adminSecretKey hi).returned hreply
    (by rwa [List.append_nil]) hrefused
  rw [List.append_nil] at hclean
  exact noTrace_of_traceless (hc.acts ev hev)
    (hclean ev.toExchange (mem_own.mpr ⟨ev, hev, hactor, rfl⟩))

end Reachable

/-- A tenant deploys a build that is not there. -/
def undeployedRun : Config ℕ Call Call.Result PyException World :=
  drive handle (buildSchedule.take 3 ++ List.replicate 2 (2, .ok))
    (platformStart sampleSettings "admin" sampleRequests .empty)

theorem refused_requests_leave_no_trace_undeployed :
    (∃ ev ∈ undeployedRun.trail.events, ev.actor = 2) ∧
      ∀ ev ∈ undeployedRun.trail.events, ev.actor = 2 → NoTrace ev := by
  have hreply : ((sampleRequests 2).serve sampleSettings "admin").returned
      (own 2 undeployedRun.trail.events) =
        some (⟨400, .detail "build_job_id does not belong to this tenant"⟩, none) := by
    decide +kernel
  have hreach : Reach (platform anyCluster)
      (platformStart sampleSettings "admin" sampleRequests .empty) undeployedRun :=
    Reach.drive _ .init
  exact ⟨by decide +kernel, refused_requests_leave_no_trace hreach rfl hreply (by decide)⟩

end TenantPlatform
