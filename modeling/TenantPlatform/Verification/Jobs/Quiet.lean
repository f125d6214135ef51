import TenantPlatform.Verification.Jobs.Discipline

/-! # Requests that run no job, and the quiet parts of those that do -/

namespace TenantPlatform

open Effect

/-- Quiet calls do not end what the predicate says. -/
def Steady (I : History → Prop) : Prop :=
  ∀ x τ, x.call.quiet = true → I τ → I (x :: τ)

theorem Steady.and {I J : History → Prop} (hI : Steady I) (hJ : Steady J) :
    Steady (fun τ => I τ ∧ J τ) :=
  fun x τ hx h => ⟨hI x τ hx h.1, hJ x τ hx h.2⟩

theorem steady_mem (P : Exchange Call Call.Result → Prop) : Steady (fun τ => ∃ x ∈ τ, P x) := by
  rintro y τ - ⟨x, hx, hP⟩
  exact ⟨x, List.mem_cons_of_mem _ hx, hP⟩

theorem SetUp.cons {ns : String} {τ : History} (h : SetUp ns τ) (x : Exchange Call Call.Result) :
    SetUp ns (x :: τ) :=
  fun o ho => (h o ho).imp (fun _ hy => ⟨List.mem_cons_of_mem _ hy.1, hy.2⟩)

theorem steady_setUp (ns : String) : Steady (SetUp ns) := fun x _ _ h => h.cons x

theorem steady_lastBuild (id : ℕ) (row : BuildJob) : Steady (fun τ => lastBuild τ id = some row) :=
  fun _ τ hx h => (lastRow_cons_none (writtenBuild_of_quiet hx) τ id).trans h

theorem steady_lastDeployment (id : ℕ) (row : Deployment) :
    Steady (fun τ => lastDeployment τ id = some row) :=
  fun _ τ hx h => (lastRow_cons_none (writtenDeployment_of_quiet hx) τ id).trans h

theorem SawBuild.cons {τ : History} {id : ℕ} {row : BuildJob} (h : SawBuild τ id row)
    (x : Exchange Call Call.Result) : SawBuild (x :: τ) id row :=
  h.imp (fun _ hmem => List.mem_cons_of_mem _ hmem)

theorem Asks.cons {τ : History} {row : Deployment} {image : Option String} (h : Asks τ row image)
    (x : Exchange Call Call.Result) : Asks (x :: τ) row image :=
  ⟨h.saw.imp (fun _ hjob => ⟨hjob.1.cons x, hjob.2⟩), h.name⟩

theorem Applied.cons {τ : History} {row : Deployment} (h : Applied τ row)
    (x : Exchange Call Call.Result) : Applied (x :: τ) row := by
  obtain ⟨image, hasks, y, hy, hwrites⟩ := h
  exact ⟨image, hasks.cons x, y, List.mem_cons_of_mem _ hy, hwrites⟩

theorem steady_applied (row : Deployment) : Steady (fun τ => Applied τ row) :=
  fun x _ _ h => h.cons x

/-! ## Programs of free calls -/

theorem along_of_free {α : Type} {p : Py α} {Q : α → Prop}
    (hp : p.Uses (fun e => e.free = true) Q) {I : History → Prop} (hI : Steady I) {τ : History}
    (h : I τ) :
    p.Along requestDiscipline (fun a τ' => Q a ∧ I τ') (fun _ τ' => I τ') τ :=
  hp.along (fun τ _ he _ => mayCall_of_free he τ)
    (fun τ x hx hτ _ => hI x τ (Call.quiet_of_free hx) hτ) h

theorem found_uses {α : Type} {allowed : Call → Prop} (missing : String) (o : Option α) :
    (found missing o).Uses allowed (fun _ => True) := by
  cases o <;> trivial

theorem checked_uses {α : Type} {allowed : Call → Prop} (c : Checked α) :
    (checked c).Uses allowed (fun _ => True) := by
  cases c <;> trivial

theorem mapSqlErrors_uses {α : Type} {allowed : Call → Prop} (onIntegrity onOther : String)
    {p : Py α} (hp : p.Uses allowed (fun _ => True)) :
    (mapSqlErrors onIntegrity onOther p).Uses allowed (fun _ => True) :=
  hp.tryCatch (fun e => by cases e <;> trivial)

section AtKey

variable {α : Type} {key : ℤ} {missing : α} {statement : ℕ → Py α}

theorem atKey_natCast {n : ℕ} (h : n < 2147483648) : atKey n missing statement = statement n := by
  have hrange : -2147483648 ≤ (n : ℤ) ∧ (n : ℤ) < 2147483648 := by omega
  rw [atKey, if_pos hrange, if_pos (Int.natCast_nonneg n), Int.toNat_natCast]

theorem atKey_negative (h : -2147483648 ≤ key) (hneg : key < 0) :
    atKey key missing statement = return missing := by
  have hrange : -2147483648 ≤ key ∧ key < 2147483648 := by omega
  rw [atKey, if_pos hrange, if_neg (not_le.mpr hneg)]

theorem atKey_overflow (h : ¬ (-2147483648 ≤ key ∧ key < 2147483648)) :
    atKey key missing statement = throw intOutOfRange := by
  rw [atKey, if_neg h]

theorem atKey_uses {allowed : Call → Prop} {Q : α → Prop} (hmissing : Q missing)
    (h : ∀ id, (statement id).Uses allowed Q) : (atKey key missing statement).Uses allowed Q := by
  unfold atKey
  split
  · split
    · exact h _
    · exact hmissing
  · trivial

theorem atKey_along {D : Discipline Call Call.Result} {Q : α → History → Prop}
    {X : PyException → History → Prop} {τ : History} (hmissing : key < 0 → Q missing τ)
    (hrange : X intOutOfRange τ)
    (h : ∀ id : ℕ, (id : ℤ) = key → (statement id).Along D Q X τ) :
    (atKey key missing statement).Along D Q X τ := by
  unfold atKey
  split
  · split
    · rename_i hkey
      exact h _ (Int.toNat_of_nonneg hkey)
    · rename_i hkey
      exact hmissing (not_le.mp hkey)
  · exact hrange

end AtKey

theorem verifyTenant_uses {allowed : Call → Prop} (cfg : Settings) (tenantId : ℤ) (xApiKey : String)
    (h : allowed (.db (.lookupApiKey (cfg.hashApiKey xApiKey)))) :
    (verifyTenant cfg tenantId xApiKey).Uses allowed (fun _ => True) := by
  simp only [verifyTenant, lookupApiKey, Prog.call_bind, Prog.ret_bind, Prog.uses_call]
  refine ⟨h, fun r => ?_⟩
  split
  · trivial
  · split
    · trivial
    · split <;> trivial
  · trivial

theorem verifyAdmin_uses {allowed : Call → Prop} (adminSecretKey xAdminSecret : String) :
    (verifyAdmin adminSecretKey xAdminSecret).Uses allowed (fun _ => True) := by
  unfold verifyAdmin compareDigest
  split
  · simp only [Prog.pure_eq, Prog.ret_bind]
    split <;> trivial
  · trivial

/-! ## Requests that touch only rows other than jobs -/

theorem reply_uses {α : Type} {allowed : Call → Prop} {p : Py α}
    (hp : p.Uses allowed (fun _ => True)) (f : α → Response) :
    (p >>= fun a => (return (f a, none) : Py Reply)).Uses allowed (fun reply => reply.2 = none) :=
  hp.bind (fun _ _ => rfl)

/-- Queries that filter by the tenant, and what a webhook registration takes. -/
inductive ScopedCall (tenantId : ℕ) : Call → Prop where
  | selectApiKey (keyId : ℤ) : ScopedCall tenantId (.db (.selectApiKey tenantId keyId))
  | selectApiKeys : ScopedCall tenantId (.db (.selectApiKeys tenantId))
  | selectBuildJob (id : ℤ) : ScopedCall tenantId (.db (.selectBuildJob tenantId id))
  | selectBuildJobs (limit : Option ℕ) (offset : ℕ) :
      ScopedCall tenantId (.db (.selectBuildJobs tenantId limit offset))
  | selectDeployment (id : ℤ) : ScopedCall tenantId (.db (.selectDeployment tenantId id))
  | selectDeployments (limit : Option ℕ) (offset : ℕ) :
      ScopedCall tenantId (.db (.selectDeployments tenantId limit offset))
  | tokenUrlsafe (length : ℕ) : ScopedCall tenantId (.sys (.tokenUrlsafe length))
  | insertWebhookRegistration (callbackUrl signingSecret : String) :
      ScopedCall tenantId (.db (.insertWebhookRegistration tenantId callbackUrl signingSecret))
  | selectWebhookRegistrations : ScopedCall tenantId (.db (.selectWebhookRegistrations tenantId))

def TenantRequest.scoped : TenantRequest → Bool
  | .createApiKey _ | .revokeApiKey _ | .createBuildJob _ | .createDeployment _
  | .getKubeconfig => false
  | _ => true

theorem TenantRequest.handle_scoped (cfg : Settings) (tenantId : ℕ) {r : TenantRequest}
    (hr : r.scoped = true) :
    (r.handle cfg tenantId).Uses (ScopedCall tenantId) (fun reply => reply.2 = none) := by
  cases r with
  | getApiKey keyId =>
      refine Prog.Uses.bind (M := fun _ => True)
        ⟨.selectApiKey keyId, fun r => by cases r <;> trivial⟩ ?_
      exact fun apiKey _ => reply_uses (found_uses _ apiKey) _
  | getAllApiKeys => exact ⟨.selectApiKeys, fun r => rfl⟩
  | getBuildJob buildJobId =>
      refine Prog.Uses.bind (M := fun _ => True)
        ⟨.selectBuildJob buildJobId, fun r => by cases r <;> trivial⟩ ?_
      exact fun job _ => reply_uses (found_uses _ job) _
  | getAllBuildJobs page =>
      exact (checked_uses page).bind (fun page _ => ⟨.selectBuildJobs page.1 page.2, fun _ => rfl⟩)
  | getDeployment deploymentId =>
      refine Prog.Uses.bind (M := fun _ => True)
        ⟨.selectDeployment deploymentId, fun r => by cases r <;> trivial⟩ ?_
      exact fun row _ => reply_uses (found_uses _ row) _
  | getAllDeployments page =>
      exact (checked_uses page).bind
        (fun page _ => ⟨.selectDeployments page.1 page.2, fun _ => rfl⟩)
  | createWebhookRegistration body =>
      refine (checked_uses body).bind (fun regData _ => reply_uses ?_ _)
      exact ⟨.tokenUrlsafe 32,
        fun r => ⟨.insertWebhookRegistration regData.callbackUrl r,
          fun r => by cases r <;> trivial⟩⟩
  | getAllWebhookRegistrations => exact ⟨.selectWebhookRegistrations, fun r => rfl⟩
  | _ => cases hr

/-- Requests other than those that build, deploy or set up a namespace. -/
def TenantRequest.plain : TenantRequest → Bool
  | .createBuildJob _ | .createDeployment _ | .getKubeconfig => false
  | _ => true

theorem TenantRequest.handle_uses (cfg : Settings) (tenantId : ℕ) {r : TenantRequest}
    (hr : r.plain = true) :
    (r.handle cfg tenantId).Uses (fun e => e.free = true) (fun reply => reply.2 = none) := by
  by_cases hscoped : r.scoped = true
  · exact (r.handle_scoped cfg tenantId hscoped).mono (fun e he => by cases he <;> rfl)
      (fun _ h => h)
  · cases r with
    | createApiKey body =>
        refine (checked_uses body).bind (fun keyData _ => reply_uses (mapSqlErrors_uses _ _ ?_) _)
        exact ⟨rfl, fun r => ⟨rfl, fun r => by cases r <;> trivial⟩⟩
    | revokeApiKey keyId =>
        refine Prog.Uses.bind (M := fun _ => True) ?_
          (fun apiKey _ => reply_uses (found_uses _ apiKey) _)
        refine Prog.Uses.bind (M := fun _ => True) ⟨rfl, fun r => by cases r <;> trivial⟩ ?_
        rintro (_ | ⟨id, apiKey⟩) -
        · trivial
        · exact ⟨rfl, fun r => ⟨rfl, fun r => by cases r <;> trivial⟩⟩
    | createBuildJob body => cases hr
    | createDeployment body => cases hr
    | getKubeconfig => cases hr
    | _ => exact absurd rfl hscoped

/-! ## Setting up a namespace -/

section Setup

variable {I : History → Prop} {τ : History}

/-- An object that is created if absent has been seen, whatever the discipline. -/
theorem createIfAbsent_establishes {D : Discipline Call Call.Result} {k : Kind} {ns name : String}
    {body : Body k} (hmay : D.may τ (.k8s (.create k ns name body)))
    (hI : ∀ r, I (⟨.k8s (.create k ns name body), r⟩ :: τ)) :
    (createIfAbsent k ns name body).Along D
      (fun _ τ' => I τ' ∧ ∃ x ∈ τ', Established k ns name x) (fun _ τ' => I τ') τ := by
  refine ⟨hmay, fun r _ => ?_⟩
  cases r with
  | ok u => exact ⟨hI _, _, List.mem_cons_self, .created body⟩
  | error e =>
      show (if e.isConflict then pure () else throw e : Py Unit).Along _ _ _ _
      split
      · rename_i he
        exact ⟨hI _, _, List.mem_cons_self, .existed body e he⟩
      · exact hI _

theorem createIfAbsent_along (k : Kind) (ns name : String) (body : Body k)
    (hquiet : (Call.k8s (.create k ns name body)).quiet = true)
    (hmay : ∀ τ, I τ → mayCreate τ ns name k body) (hI : Steady I) (h : I τ) :
    (createIfAbsent k ns name body).Along requestDiscipline
      (fun _ τ' => I τ' ∧ ∃ x ∈ τ', Established k ns name x) (fun _ τ' => I τ') τ :=
  createIfAbsent_establishes (hmay τ h) (fun _ => hI _ _ hquiet h)

theorem clusterDnsIp_along (hI : Steady I) (h : I τ) :
    clusterDnsIp.Along requestDiscipline (fun _ τ' => I τ') (fun _ τ' => I τ') τ := by
  refine ⟨trivial, fun r _ => ?_⟩
  cases r with
  | ok ip => exact hI _ _ rfl h
  | error e =>
      show (if e.isApi then _ else _ : Py (Option String)).Along _ _ _ _
      split <;> exact hI _ _ rfl h

/-- A namespace that was set up to the end has all its hardening objects. -/
theorem ensureTenantNamespace_along (cfg : Settings) (ns : String) (hI : Steady I) (h : I τ) :
    (ensureTenantNamespace cfg ns).Along requestDiscipline
      (fun _ τ' => I τ' ∧ SetUp ns τ') (fun _ τ' => I τ') τ := by
  have step : ∀ {α : Type} {J K : History → Prop} {p : Py Unit} {f : Unit → Py α}
      {Q : α → History → Prop} {τ : History},
      p.Along requestDiscipline (fun _ τ' => J τ' ∧ K τ') (fun _ τ' => J τ') τ →
      (∀ τ', J τ' → I τ') →
      (∀ τ', J τ' ∧ K τ' → (f ()).Along requestDiscipline Q (fun _ τ' => I τ') τ') →
      (p >>= f).Along requestDiscipline Q (fun _ τ' => I τ') τ :=
    fun hp hJ hf => (hp.mono (fun _ _ h => h) (fun _ τ' => hJ τ')).bind (fun _ τ' => hf τ')
  have hI1 := hI.and (steady_mem (Established .ns "" ns))
  have hI2 := hI1.and (steady_mem (Established .resourceQuota ns "tenant-quota"))
  have hI3 := hI2.and (steady_mem (Established .limitRange ns "tenant-limit-range"))
  have hI4 := hI3.and (steady_mem (Established .networkPolicy ns "tenant-default-deny"))
  have hI5 := hI4.and (steady_mem (Established .secret ns registrySecretName))
  refine step (createIfAbsent_along .ns "" ns _ rfl (fun _ _ => rfl) hI h) (fun _ h => h) ?_
  intro τ1 h1
  refine step (createIfAbsent_along .resourceQuota ns _ _ rfl (fun _ _ => trivial) hI1 h1)
    (fun _ h => h.1) ?_
  intro τ2 h2
  refine step (createIfAbsent_along .limitRange ns _ _ rfl (fun _ _ => trivial) hI2 h2)
    (fun _ h => h.1.1) ?_
  intro τ3 h3
  refine ((clusterDnsIp_along hI3 h3).mono (fun _ _ h => h) (fun _ _ h => h.1.1.1)).bind ?_
  intro dnsIp τ4 h4
  refine step (createIfAbsent_along .networkPolicy ns _ _ rfl (fun _ _ => ⟨dnsIp, rfl⟩) hI3 h4)
    (fun _ h => h.1.1.1) ?_
  intro τ5 h5
  refine step (createIfAbsent_along .secret ns _ _ rfl (fun _ _ => trivial) hI4 h5)
    (fun _ h => h.1.1.1.1) ?_
  intro τ6 h6
  refine (createIfAbsent_along .serviceAccount ns _ _ rfl (fun _ _ => trivial) hI5 h6).mono
    ?_ (fun _ _ h => h.1.1.1.1.1)
  rintro _ τ7 ⟨⟨⟨⟨⟨⟨h, hns⟩, hquota⟩, hlimits⟩, hpolicy⟩, -⟩, haccount⟩
  refine ⟨h, ?_⟩
  intro o ho
  simp only [hardening, List.mem_cons, List.not_mem_nil, or_false] at ho
  rcases ho with rfl | rfl | rfl | rfl | rfl <;> assumption

theorem ensureTenantRbac_uses (ns : String) :
    (ensureTenantRbac ns).Uses (fun e => e.free = true) (fun _ => True) := by
  have hcreate : ∀ k name body, (Call.k8s (.create k ns name body)).free = true →
      (createIfAbsent k ns name body).Uses (fun e => e.free = true) (fun _ => True) := by
    intro k name body hfree
    refine Prog.Uses.tryCatch ⟨hfree, fun r => by cases r <;> trivial⟩ (fun e => ?_)
    split <;> trivial
  refine (hcreate _ _ _ rfl).bind (fun _ _ => ?_)
  refine (hcreate _ _ _ rfl).bind (fun _ _ => ?_)
  exact hcreate _ _ _ rfl

theorem mintTenantKubeconfig_uses (cfg : Settings) (ns : String) :
    (mintTenantKubeconfig cfg ns).Uses (fun e => e.free = true) (fun _ => True) := by
  refine Prog.Uses.bind (M := fun _ => True) ⟨rfl, fun r => by cases r <;> trivial⟩ (fun _ _ => ?_)
  exact Prog.Uses.bind (M := fun _ => True) ⟨rfl, fun r => by cases r <;> trivial⟩
    (fun _ _ => trivial)

theorem getTenantKubeconfigService_along (cfg : Settings) (tenantId : ℕ) (hI : Steady I)
    (h : I τ) :
    (getTenantKubeconfigService cfg tenantId).Along requestDiscipline (fun _ τ' => I τ')
      (fun _ τ' => I τ') τ := by
  refine ⟨trivial, fun r _ => ?_⟩
  have h := hI ⟨.db (.getTenant tenantId), r⟩ τ rfl h
  cases r with
  | none => exact h
  | some tenant =>
      refine (ensureTenantNamespace_along cfg tenant.k8sNamespace hI h).bind ?_
      intro _ τ1 h1
      refine ((along_of_free (ensureTenantRbac_uses tenant.k8sNamespace) hI h1.1).mono
        (fun _ _ h => h.2) (fun _ _ h => h)).bind ?_
      intro _ τ2 h2
      exact (along_of_free (mintTenantKubeconfig_uses cfg tenant.k8sNamespace) hI h2).mono
        (fun _ _ h => h.2) (fun _ _ h => h)

end Setup

/-! ## Requests of the administrator -/

theorem generateSecureKey_uses :
    generateSecureKey.Uses (fun e => e.free = true) (fun _ => True) := ⟨rfl, fun _ => trivial⟩

theorem createTenantService_along (cfg : Settings) (tenantData : TenantCreate)
    {I : History → Prop} (hI : Steady I) {τ : History} (h : I τ) :
    (createTenantService cfg tenantData).Along requestDiscipline (fun _ τ' => I τ')
      (fun _ τ' => I τ') τ := by
  refine ⟨trivial, fun r _ => ?_⟩
  have h := hI ⟨.db (.flushTenant tenantData.name "pending"), r⟩ τ rfl h
  cases r with
  | error e => exact h
  | ok id =>
      refine (along_of_free generateSecureKey_uses hI h).bind ?_
      rintro rawApiKey τ1 ⟨-, h1⟩
      refine ⟨rfl, fun r _ => ?_⟩
      cases r <;> exact hI _ _ rfl h1

/-- What the requests of the administrator call, the creation of a tenant apart. -/
inductive UpkeepCall : Call → Prop where
  | getTenant (id : ℕ) : UpkeepCall (.db (.getTenant id))
  | listTenants (limit : Option ℕ) (offset : ℕ) : UpkeepCall (.db (.listTenants limit offset))
  | updateTenant (id : ℕ) (changes : TenantChanges) : UpkeepCall (.db (.updateTenant id changes))
  | deleteTenant (id : ℕ) : UpkeepCall (.db (.deleteTenant id))

theorem updateTenantService_uses (tenantId : ℕ) (tenantData : TenantUpdate) :
    (updateTenantService tenantId tenantData).Uses UpkeepCall (fun _ => True) := by
  refine ⟨.getTenant _, fun r => ?_⟩
  cases r with
  | none => trivial
  | some tenant =>
      show (if _ then _ else _ : Py (Option (ℕ × Tenant))).Uses _ _
      split
      · trivial
      · exact ⟨.updateTenant _ _, fun r => by cases r <;> trivial⟩

theorem AdminRequest.handle_upkeep (cfg : Settings) {r : AdminRequest}
    (hr : ∀ body, r ≠ .createTenant body) :
    (r.handle cfg).Uses UpkeepCall (fun reply => reply.2 = none) := by
  cases r with
  | createTenant body => exact absurd rfl (hr body)
  | getTenant tenantId =>
      refine Prog.Uses.bind (M := fun _ => True) (atKey_uses trivial (fun id => ?_)) ?_
      · exact ⟨.getTenant _, fun r => trivial⟩
      · exact fun tenant _ => reply_uses (found_uses _ tenant) _
  | getAllTenants => exact ⟨.listTenants _ _, fun r => rfl⟩
  | deleteTenant tenantId =>
      refine Prog.Uses.bind (M := fun _ => True) (atKey_uses trivial (fun id => ?_)) ?_
      · exact ⟨.deleteTenant _, fun r => by cases r <;> trivial⟩
      · intro count _
        split <;> trivial
  | updateTenant tenantId body =>
      refine (checked_uses body).bind (fun tenantData _ => ?_)
      refine Prog.Uses.bind (M := fun _ => True) ?_
        (fun updated _ => reply_uses (found_uses _ updated) _)
      exact (atKey_uses trivial (fun id => updateTenantService_uses id tenantData)).tryCatch
        (fun e => by cases e <;> trivial)

/-- The creation of a tenant is the only one of these requests that has an order to keep. -/
theorem AdminRequest.handle_free (cfg : Settings) {r : AdminRequest}
    (hr : ∀ body, r ≠ .createTenant body) :
    (r.handle cfg).Uses (fun e => e.free = true) (fun reply => reply.2 = none) :=
  (r.handle_upkeep cfg hr).mono (fun _ he => by cases he <;> rfl) (fun _ h => h)

theorem AdminRequest.handle_along (cfg : Settings) (r : AdminRequest) {I : History → Prop}
    (hI : Steady I) {τ : History} (h : I τ) :
    (r.handle cfg).Along requestDiscipline (fun reply τ' => reply.2 = none ∧ I τ')
      (fun _ τ' => I τ') τ := by
  by_cases hr : ∀ body, r ≠ .createTenant body
  · exact along_of_free (r.handle_free cfg hr) hI h
  · obtain ⟨body, hbody⟩ := not_forall.mp hr
    obtain rfl := not_not.mp hbody
    refine (along_of_free (checked_uses body) hI h).bind ?_
    rintro tenantData τ1 ⟨-, h1⟩
    refine Prog.Along.bind (M := fun _ τ' => I τ') ?_ (fun _ _ h => ⟨rfl, h⟩)
    refine (createTenantService_along cfg tenantData hI h1).tryCatch ?_
    intro e τ2 h2
    cases e <;> exact h2

end TenantPlatform
