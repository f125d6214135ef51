import TenantPlatform.Verification.Jobs.Calls
import TenantPlatform.Verification.Rollout.Controller

/-! # The life of a deployment

A third discipline of requests: a deployment's row is inserted as `pending`, and each commit
moves it one step on. Its status is the only thing that moves. -/

namespace TenantPlatform

open Effect

/-! ## The discipline -/

/-- The statuses that may come after a status. -/
def DeploymentStatus.next : DeploymentStatus → List DeploymentStatus
  | .pending => [.deploying, .failed]
  | .deploying => [.running, .failed]
  | .running | .failed | .stopped => []

/-- A history of statuses, the latest first, that began with `pending`. -/
def DeploymentLifecycle : List DeploymentStatus → Prop
  | [] => True
  | [s] => s = .pending
  | s :: s' :: past => s ∈ s'.next ∧ DeploymentLifecycle (s' :: past)

/-- A row is committed in a status that comes after the one it was left in. -/
def mayAdvance (τ : History) : Call → Prop
  | .db (.insertDeployment _ _ _ status _) => status = .pending
  | .db (.commitDeployment id status) =>
      ∃ row, lastDeployment τ id = some row ∧ status ∈ row.status.next
  | _ => True

def advancing : Discipline Call Call.Result := ⟨mayAdvance, expectsAnswer⟩

def Call.writesNoDeployment : Call → Bool
  | .db (.insertDeployment ..) | .db (.commitDeployment ..) => false
  | _ => true

theorem mayAdvance_of_writesNoDeployment {e : Call} (h : e.writesNoDeployment = true)
    (τ : History) : mayAdvance τ e := by
  cases e with
  | db e => cases e <;> trivial
  | k8s e => trivial
  | sys e => trivial

theorem writtenDeployment_of_writesNoDeployment {x : Exchange Call Call.Result}
    (h : x.call.writesNoDeployment = true) : writtenDeployment x = none := by
  obtain ⟨e, r⟩ := x
  cases e with
  | db e => cases e <;> first | rfl | cases h
  | _ => rfl

section Along

variable {α : Type} {p : Py α} {Q : α → Prop} {τ : History} {id : ℕ} {row : Deployment}

/-- Programs that write no deployment leave its row as it is. -/
theorem along_advancing (hp : p.Uses (fun e => e.writesNoDeployment = true) Q)
    (h : lastDeployment τ id = some row) :
    p.Along advancing (fun a τ' => Q a ∧ lastDeployment τ' id = some row)
      (fun _ τ' => lastDeployment τ' id = some row) τ :=
  hp.along (fun τ _ he _ => mayAdvance_of_writesNoDeployment he τ)
    (fun τ _ hx hτ _ =>
      (lastRow_cons_none (writtenDeployment_of_writesNoDeployment hx) τ id).trans hτ) h

theorem along_advancing_of_uses (hp : p.Uses (fun e => e.writesNoDeployment = true) Q) :
    p.Along advancing (fun a _ => Q a) (fun _ _ => True) τ :=
  (hp.along (I := fun _ => True) (fun τ _ he _ => mayAdvance_of_writesNoDeployment he τ)
    (fun _ _ _ _ _ => trivial) trivial).mono (fun _ _ h => h.1) (fun _ _ _ => trivial)

/-- One step of a deployment. -/
theorem commitDeployment_advances {status : DeploymentStatus}
    (h : lastDeployment τ id = some row) (hnext : status ∈ row.status.next) :
    (commitDeployment id status).Along advancing
      (fun row' τ' => row'.status = status ∧ lastDeployment τ' id = some row')
      (fun _ τ' => lastDeployment τ' id = some row) τ := by
  refine ⟨⟨row, h, hnext⟩, fun r hr => ?_⟩
  cases r with
  | error x => exact (lastRow_cons_none rfl τ id).trans h
  | ok row' =>
      obtain ⟨now, rfl⟩ := hr row h
      exact ⟨rfl, (lastRow_cons_some rfl τ id).trans (if_pos rfl)⟩

end Along

/-! ## Requests advance their deployments -/

section Serve

variable {cfg : Settings} {τ : History}

/-- A deployment that is left to a poller is under way. -/
def Advanced : Option BackgroundTask → History → Prop
  | some (.pollDeploymentUntilRunning id _ _), τ =>
      ∃ row, lastDeployment τ id = some row ∧ row.status = .deploying
  | _, _ => True

theorem startDeployment_advances {tenant : Option Tenant} {image : Option String} {id : ℕ}
    {row : Deployment} (h : lastDeployment τ id = some row) (hrow : row.status = .pending) :
    (startDeployment tenant image id row).Along advancing
      (fun row' τ' => lastDeployment τ' id = some row')
      (fun _ τ' => lastDeployment τ' id = some row) τ := by
  cases tenant with
  | none => exact h
  | some tenant =>
      refine ((along_advancing (createTenantDeployment_calls rfl rfl rfl) h).mono
        (fun _ _ h => h) (fun _ _ h => h)).bind ?_
      rintro _ τ1 ⟨-, h1⟩
      exact (commitDeployment_advances h1 (by rw [hrow]; exact List.mem_cons_self)).mono
        (fun _ _ h => h.2) (fun _ _ h => h)

theorem createDeploymentService_advances (tenantId : ℕ) (deployData : DeploymentCreate) :
    (createDeploymentService tenantId deployData).Along advancing
      (fun r τ' => Advanced
        (r.2.map (fun ns => .pollDeploymentUntilRunning r.1.1 ns r.1.2.k8sDeploymentName)) τ')
      (fun _ _ => True) τ := by
  refine ⟨trivial, fun r _ => ?_⟩
  rcases r with x | _ | ⟨buildJobId, job⟩
  · trivial
  · trivial
  · show (if _ then _ else if _ then _ else _ : Py ((ℕ × Deployment) × Option String)).Along
      _ _ _ _
    split
    · trivial
    · split
      · trivial
      · refine ⟨trivial, fun tenant _ => ⟨rfl, fun r hr => ?_⟩⟩
        rcases r with x | ⟨id, row⟩
        · trivial
        · obtain ⟨-, now, hrow⟩ := hr
          have hpending : row.status = .pending := by rw [hrow]
          have h : lastDeployment (⟨.db (.insertDeployment tenantId buildJobId tenantAppName
              .pending deployData.replicaCount), .ok (id, row)⟩ :: ⟨.db (.getTenant tenantId),
              tenant⟩ :: ⟨.db (.getBuildJob deployData.buildJobId),
              .ok (some (buildJobId, job))⟩ :: τ) id = some row :=
            (lastRow_cons_some rfl _ id).trans (if_pos rfl)
          show (tryCatch (startDeployment tenant job.imageTag id row)
            (fun _ => commitDeployment id .failed) >>= _).Along _ _ _ _
          refine Prog.Along.bind (M := fun row' τ' => lastDeployment τ' id = some row') ?_ ?_
          · refine (startDeployment_advances h hpending).tryCatch (fun _ τ1 h1 => ?_)
            exact (commitDeployment_advances h1
              (by rw [hpending]; simp [DeploymentStatus.next])).mono
              (fun _ _ h => h.2) (fun _ _ _ => trivial)
          · intro row' τ1 h1
            show Advanced (Option.map _ (if _ then _ else _)) τ1
            split
            · rename_i hdeploying
              cases tenant with
              | none => trivial
              | some tenant => exact ⟨row', h1, hdeploying⟩
            · trivial

theorem task_advances (task : BackgroundTask) (h : Advanced (some task) τ) :
    (task.run cfg).Along advancing (fun _ _ => True) (fun _ _ => True) τ := by
  cases task with
  | pollBuildUntilDone id ns =>
      exact along_advancing_of_uses (pollBuildUntilDone_calls cfg id ns (fun _ => rfl)
        (fun _ => rfl) rfl (fun _ => rfl) (fun _ => rfl) (fun _ => rfl))
  | pollDeploymentUntilRunning id ns name =>
      obtain ⟨row, h, hrow⟩ := h
      have hnext : ∀ running : Bool,
          (if running then .running else .failed) ∈ row.status.next := by
        rw [hrow]
        decide
      refine ⟨trivial, fun r _ => ?_⟩
      refine pollLoop_along (I := fun τ => lastDeployment τ id = some row)
        (J := fun _ τ => lastDeployment τ id = some row)
        (fun τ r h => ⟨trivial, (lastRow_cons_none rfl τ id).trans h⟩) (fun τ h => ?_)
        (fun running τ h => ?_) (fun τ h => ?_) _ _ _ ((lastRow_cons_none rfl τ id).trans h)
      · refine ((along_advancing (getDeploymentStatus_calls rfl) h).mono (fun _ _ h => h)
          (fun _ _ _ => trivial)).bind ?_
        rintro report τ' ⟨-, h'⟩
        show Option.elim report.running _ _
        cases report.running with
        | none => exact h'
        | some running => exact h'
      · refine ⟨trivial, fun r hr => ?_⟩
        have h1 : lastDeployment (⟨.db (.getDeployment id), r⟩ :: τ) id = some row :=
          (lastRow_cons_none rfl τ id).trans h
        cases r with
        | none => trivial
        | some loaded =>
            refine ((commitDeployment_advances h1 (hnext running)).mono (fun _ _ h => h)
              (fun _ _ _ => trivial)).bind (fun row' τ' _ => ?_)
            exact along_advancing_of_uses (dispatchTenantWebhooks_calls cfg (fun _ _ => rfl)
              (fun _ => rfl) (fun _ => rfl) _ _ _)
      · refine ⟨trivial, fun r hr => ?_⟩
        have h1 : lastDeployment (⟨.db (.getDeployment id), r⟩ :: τ) id = some row :=
          (lastRow_cons_none rfl τ id).trans h
        cases r with
        | none => trivial
        | some loaded =>
            show (if _ then _ else _ : Py Unit).Along _ _ _ _
            split
            · exact ((commitDeployment_advances h1 (hnext false)).mono (fun _ _ h => h)
                (fun _ _ _ => trivial)).bind (fun _ _ _ => trivial)
            · trivial

theorem TenantRequest.handle_advances (tenantId : ℕ) (r : TenantRequest) :
    (r.handle cfg tenantId).Along advancing (fun reply τ' => Advanced reply.2 τ')
      (fun _ _ => True) τ := by
  have hnone : ∀ {p : Py Reply},
      p.Uses (fun e => e.writesNoDeployment = true) (fun reply => reply.2 = none) →
      p.Along advancing (fun reply τ' => Advanced reply.2 τ') (fun _ _ => True) τ := by
    intro p hp
    refine (along_advancing_of_uses hp).mono ?_ (fun _ _ _ => trivial)
    rintro reply τ' hreply
    rw [hreply]
    trivial
  by_cases hplain : r.plain = true
  · refine hnone ((r.handle_uses cfg tenantId hplain).mono (fun e he => ?_) (fun _ h => h))
    cases e with
    | db e => cases e <;> first | rfl | cases he
    | _ => rfl
  · cases r with
    | createBuildJob body =>
        refine (along_advancing_of_uses (checked_uses body)).bind (fun buildData τ1 _ => ?_)
        refine ((along_advancing_of_uses (createBuildJobService_calls cfg tenantId buildData
          rfl (fun _ _ => rfl) rfl (fun _ _ _ => rfl) (fun _ _ => rfl))).mono
          (fun _ _ h => h) (fun _ _ h => h)).bind ?_
        rintro ⟨⟨id, job⟩, _ | ns⟩ τ2 -
        · trivial
        · trivial
    | createDeployment body =>
        refine (along_advancing_of_uses (checked_uses body)).bind (fun deployData τ1 _ => ?_)
        refine Prog.Along.bind (M := fun r τ' => Advanced
          (r.2.map (fun ns => .pollDeploymentUntilRunning r.1.1 ns r.1.2.k8sDeploymentName)) τ') ?_
          (fun _ _ h => h)
        exact (createDeploymentService_advances tenantId deployData).tryCatch
          (fun e _ _ => by cases e <;> trivial)
    | getKubeconfig => exact hnone (getKubeconfig_calls cfg tenantId rfl (fun _ _ => rfl) rfl)
    | _ => exact absurd rfl hplain

theorem AdminRequest.handle_writesNoDeployment (r : AdminRequest) :
    (r.handle cfg).Uses (fun e => e.writesNoDeployment = true) (fun reply => reply.2 = none) :=
  (r.handle_calls cfg).mono (fun _ he => by rcases he with ⟨_ | _ | _ | _⟩ | _ | _ | _ <;> rfl)
    (fun _ h => h)

theorem Request.thread_advances (adminSecretKey : String) (r : Request) :
    (r.thread cfg adminSecretKey).Along advancing (fun _ _ => True) (fun _ _ => True) τ := by
  refine Prog.Along.bind (M := fun reply τ' => Advanced reply.2 τ') ?_ ?_
  · refine Prog.Along.tryCatch (M := fun _ _ => True) ?_ (fun e τ' _ => ?_)
    · cases r with
      | tenant t xApiKey r =>
          refine (along_advancing_of_uses (verifyTenant_uses cfg t xApiKey rfl)).bind
            (fun _ _ _ => r.handle_advances t)
      | admin xAdminSecret r =>
          refine (along_advancing_of_uses (verifyAdmin_uses adminSecretKey xAdminSecret)).bind
            (fun _ τ1 _ => ?_)
          refine (along_advancing_of_uses r.handle_writesNoDeployment).mono
            (fun reply τ' hreply => ?_) (fun _ _ h => h)
          rw [hreply]
          trivial
    · show Advanced (errorReply e).2 τ'
      rw [errorReply_task]
      trivial
  · rintro ⟨response, task | task⟩ τ' h
    · trivial
    · exact task_advances task h

end Serve

/-! ## Rows -/

section Rows

variable {α : Type} {written : Exchange Call Call.Result → Option (ℕ × α)}

/-- The row that a call left under a key. -/
def rowUnder (written : Exchange Call Call.Result → Option (ℕ × α)) (id : ℕ)
    (x : Exchange Call Call.Result) : Option α :=
  (written x).bind (fun w => if w.1 = id then some w.2 else none)

theorem rowUnder_eq_some {id : ℕ} {x : Exchange Call Call.Result} {a : α} :
    rowUnder written id x = some a ↔ written x = some (id, a) := by
  unfold rowUnder
  cases written x with
  | none => simp
  | some w =>
      obtain ⟨j, b⟩ := w
      simp [Prod.ext_iff]

theorem lastRow_eq_head? (τ : History) (id : ℕ) :
    lastRow written τ id = (τ.filterMap (rowUnder written id)).head? := by
  induction τ with
  | nil => rfl
  | cons x τ ih =>
      cases hw : rowUnder written id x with
      | none =>
          rw [List.filterMap_cons_none hw, ← ih]
          unfold rowUnder at hw
          cases hx : written x with
          | none => exact lastRow_cons_none hx τ id
          | some w =>
              rw [hx, Option.bind_some] at hw
              split at hw
              · cases hw
              · rename_i hne
                rw [lastRow_cons_some hx, if_neg (Ne.symm hne)]
      | some a =>
          rw [List.filterMap_cons_some hw, lastRow_cons_some (rowUnder_eq_some.mp hw), if_pos rfl]
          rfl

section Owner

variable {ι : Type} [DecidableEq ι] {events : List (Event ι Call Call.Result World)} {t : Table α}
  {id : ℕ}

theorem exists_lastRow {ev : Event ι Call Call.Result World} (hev : ev ∈ events)
    (hne : rowUnder written id ev.toExchange ≠ none) :
    ∃ a, lastRow written (own ev.actor events) id = some a := by
  obtain ⟨a, ha⟩ := Option.ne_none_iff_exists'.mp hne
  have hmem : a ∈ (own ev.actor events).filterMap (rowUnder written id) :=
    List.mem_filterMap.mpr ⟨ev.toExchange, mem_own.mpr ⟨ev, hev, rfl, rfl⟩, ha⟩
  rw [lastRow_eq_head?]
  cases hrows : (own ev.actor events).filterMap (rowUnder written id) with
  | nil =>
      rw [hrows] at hmem
      cases hmem
  | cons b past => exact ⟨b, rfl⟩

/-- The rows under a key are all found in the history of their one writer. -/
theorem rowsUnder_own (h : Ledger (fun i => lastRow written (own i events)) t) {i : ι} {a : α}
    (hi : lastRow written (own i events) id = some a) :
    events.filterMap (fun ev => rowUnder written id ev.toExchange) =
      (own i events).filterMap (rowUnder written id) := by
  refine filterMap_own (fun ev hev hne => ?_)
  by_contra hsome
  obtain ⟨b, hb⟩ := exists_lastRow hev hsome
  exact hne (h.sole _ _ _ _ _ hb hi)

theorem rowsUnder_cases (h : Ledger (fun i => lastRow written (own i events)) t) (id : ℕ) :
    events.filterMap (fun ev => rowUnder written id ev.toExchange) = [] ∨
      ∃ i, events.filterMap (fun ev => rowUnder written id ev.toExchange) =
        (own i events).filterMap (rowUnder written id) := by
  by_cases hany : ∃ ev ∈ events, rowUnder written id ev.toExchange ≠ none
  · obtain ⟨ev, hev, hne⟩ := hany
    obtain ⟨a, ha⟩ := exists_lastRow hev hne
    exact .inr ⟨ev.actor, rowsUnder_own h ha⟩
  · refine .inl (List.filterMap_eq_nil_iff.mpr (fun ev hev => ?_))
    by_contra hsome
    exact hany ⟨ev, hev, hsome⟩

end Owner

end Rows

/-- What a deployment asks for, and since when. -/
def Deployment.asked (row : Deployment) : ℕ × ℕ × String × ℕ × ℕ :=
  (row.tenantId, row.buildJobId, row.k8sDeploymentName, row.replicaCount, row.createdAt)

/-- A row is inserted as pending, or it is the last one moved on. -/
theorem written_deployment_cases {τ : History} {x : Exchange Call Call.Result} {id : ℕ}
    {row : Deployment} (h : advancing.Legal (x :: τ)) (hw : writtenDeployment x = some (id, row)) :
    (lastDeployment τ id = none ∧ row.status = .pending) ∨
      ∃ old, lastDeployment τ id = some old ∧ row.status ∈ old.status.next ∧
        row.asked = old.asked := by
  obtain ⟨hmay, hexpects, -⟩ := h
  obtain ⟨e, r⟩ := x
  cases e with
  | k8s e => cases hw
  | sys e => cases hw
  | db e =>
      cases e with
      | insertDeployment n b name status replicas =>
          rcases r with x | ⟨id', row'⟩
          · cases hw
          · cases hw
            obtain ⟨hnone, now, rfl⟩ := hexpects
            exact .inl ⟨hnone, hmay⟩
      | commitDeployment id' status =>
          rcases r with x | row'
          · cases hw
          · cases hw
            obtain ⟨old, hold, hnext⟩ := hmay
            obtain ⟨now, rfl⟩ := hexpects old hold
            exact .inr ⟨old, hold, hnext, rfl⟩
      | _ => cases hw

/-- The rows that one request commits for a deployment. -/
theorem rows_of_advancing {τ : History} (h : advancing.Legal τ) (id : ℕ) :
    DeploymentLifecycle ((τ.filterMap (rowUnder writtenDeployment id)).map Deployment.status) ∧
      (τ.filterMap (rowUnder writtenDeployment id)).Pairwise
        (fun row row' => row.asked = row'.asked) := by
  induction τ with
  | nil => exact ⟨trivial, .nil⟩
  | cons x τ ih =>
      obtain ⟨hpath, hasked⟩ := ih h.2.2
      cases hw : rowUnder writtenDeployment id x with
      | none =>
          rw [List.filterMap_cons_none hw]
          exact ⟨hpath, hasked⟩
      | some row =>
          rw [List.filterMap_cons_some hw]
          rcases written_deployment_cases h (rowUnder_eq_some.mp hw) with ⟨hnone, hrow⟩ |
              ⟨old, hold, hnext, heq⟩
          · rw [lastDeployment, lastRow_eq_head?, List.head?_eq_none_iff] at hnone
            rw [hnone]
            exact ⟨hrow, List.pairwise_singleton _ _⟩
          · rw [lastDeployment, lastRow_eq_head?] at hold
            obtain ⟨past, hpast⟩ := List.head?_eq_some_iff.mp hold
            rw [hpast] at hpath hasked ⊢
            refine ⟨⟨hnext, hpath⟩, List.pairwise_cons.mpr ⟨fun row' hrow' => ?_, hasked⟩⟩
            rcases List.mem_cons.mp hrow' with rfl | hrow'
            · exact heq
            · exact heq.trans (List.rel_of_pairwise_cons hasked hrow')

/-! ## Any requests -/

section Reachable

variable {ι : Type} [DecidableEq ι] {cfg : Settings} {adminSecretKey : String}
  {requests : ι → Request} {cluster : Cluster} {env : World → World → Prop}
  {c : Config ι Call Call.Result PyException World}

theorem platform_advances (henv : KeepsDatabase env)
    (hc : Reach (platform env) (platformStart cfg adminSecretKey requests cluster) c) (i : ι) :
    advancing.Legal (own i c.trail.events) := by
  have halong : ∀ j, ((requests j).thread cfg adminSecretKey).Along advancing (fun _ _ => True)
      (fun _ _ => True) [] := fun j => (requests j).thread_advances adminSecretKey
  exact (Reach.legal (D := requestDiscipline) (fun _ hc i => (platform_sound henv hc).legal i)
    halong (fun _ _ _ hx => hx) hc i).1

/-- The rows committed for a deployment, the latest first. -/
def deploymentRows (id : ℕ) (events : List (Event ι Call Call.Result World)) : List Deployment :=
  events.filterMap (fun ev => rowUnder writtenDeployment id ev.toExchange)

/-- In every run, the rows committed for a deployment begin as `pending`, move on one step at a
time and all ask for the same, and that in the table is the last. -/
theorem deployments_live_in_order (henv : KeepsDatabase env)
    (hc : Reach (platform env) (platformStart cfg adminSecretKey requests cluster) c) (id : ℕ) :
    DeploymentLifecycle ((deploymentRows id c.trail.events).map Deployment.status) ∧
      (deploymentRows id c.trail.events).Pairwise (fun row row' => row.asked = row'.asked) ∧
      ∀ row, c.trail.state.db.deployments.get id = some row →
        (deploymentRows id c.trail.events).head? = some row := by
  have hs := (platform_sound henv hc).consistent
  have hhead : ∀ row, c.trail.state.db.deployments.get id = some row →
      (deploymentRows id c.trail.events).head? = some row := by
    intro row hget
    obtain ⟨i, hi⟩ := hs.deployments.covered id row hget
    rw [deploymentRows, rowsUnder_own hs.deployments hi, ← lastRow_eq_head?]
    exact hi
  rcases rowsUnder_cases hs.deployments id with hnil | ⟨i, hown⟩
  · refine ⟨?_, ?_, hhead⟩
    · rw [deploymentRows, hnil]
      trivial
    · rw [deploymentRows, hnil]
      exact .nil
  · obtain ⟨hpath, hasked⟩ := rows_of_advancing (platform_advances henv hc i) id
    rw [← hown] at hpath hasked
    exact ⟨hpath, hasked, hhead⟩

end Reachable

/-- A deployment that has come to run. -/
theorem deployments_live_in_order_deployed :
    DeploymentLifecycle ((deploymentRows 1 deployedRun.trail.events).map Deployment.status) ∧
      (deploymentRows 1 deployedRun.trail.events).Pairwise
        (fun row row' => row.asked = row'.asked) ∧
      ∀ row, deployedRun.trail.state.db.deployments.get 1 = some row →
        (deploymentRows 1 deployedRun.trail.events).head? = some row :=
  deployments_live_in_order (fun _ _ h => h.1.1) deployedRun_reach 1

end TenantPlatform
