import TenantPlatform.Verification.Keys.Operations
import TenantPlatform.Verification.Tenancy.Scope

/-! # The names of tenants

A name is checked when its row is flushed, and the commit that follows takes the same name, so the
names in the table fit their column. -/

namespace TenantPlatform

open Effect

/-! ## What the statements do -/

def NamesFit (db : Database) : Prop :=
  ∀ id tenant, db.tenants.get id = some tenant → fits 255 tenant.name = true

section Names

variable {db db' : Database}

theorem NamesFit.congr (h : NamesFit db) (htenants : db'.tenants.get = db.tenants.get) :
    NamesFit db' := by
  rw [NamesFit, htenants]
  exact h

theorem NamesFit.put (h : NamesFit db) {id : ℕ} {tenant : Tenant}
    (hname : fits 255 tenant.name = true)
    (hput : db'.tenants.get = (db.tenants.put id tenant).get) : NamesFit db' := by
  intro j other hother
  rw [hput, Table.get_put] at hother
  split at hother
  · cases hother
    exact hname
  · exact h j other hother

theorem Database.fits_of_updateTenant {id : ℕ} {changes : TenantChanges} {tenant : Tenant}
    (h : db.updateTenant id changes = (.ok tenant, db')) : fits 255 tenant.name = true := by
  unfold updateTenant at h
  split at h
  · cases h
  · split at h
    · cases h
    · dsimp only at h
      split at h
      · cases h
      · rename_i hfits
        cases h
        simpa using hfits

theorem Database.fits_of_flushTenant {want id : ℕ} {name k8sNamespace : String}
    (h : (db.flushTenant want name k8sNamespace).1 = .ok id) : fits 255 name = true := by
  unfold flushTenant at h
  dsimp only at h
  split at h
  · cases h
  · rename_i hfits
    simp only [Bool.or_eq_true, Bool.not_eq_true', not_or, Bool.not_eq_false] at hfits
    exact hfits.1

/-- Only the commit of a new tenant takes a name unchecked. -/
theorem NamesFit.statement (h : NamesFit db) (want now : ℕ) (e : DbCall)
    (hname : ∀ id name ns keyName keyPrefix keyHash,
      e = .commitTenant id name ns keyName keyPrefix keyHash → fits 255 name = true) :
    NamesFit (handleDb want now e db).2 := by
  cases e with
  | flushTenant name ns =>
      rcases db.flushTenant_cases want name ns with ⟨x, db', heq, hsame⟩ | heq
      · simp only [handleDb, heq]
        exact h.congr hsame.1
      · simp only [handleDb, heq]
        exact h
  | commitTenant id name ns keyName keyPrefix keyHash =>
      have hname := hname id name ns keyName keyPrefix keyHash rfl
      simp only [handleDb, Database.commitTenant]
      split
      · exact h
      · split
        · exact h
        · split
          · exact h
          · refine h.put ?_ rfl
            exact hname
  | updateTenant id changes =>
      rcases db.updateTenant_cases id changes with ⟨x, heq⟩ | ⟨tenant, db', heq, -, hput, -⟩
      · simp only [handleDb, heq]
        exact h
      · simp only [handleDb, heq]
        exact h.put (Database.fits_of_updateTenant heq) hput
  | deleteTenant id =>
      rcases db.deleteTenant_cases id with ⟨x, heq⟩ | heq | ⟨db', heq, htenants, -⟩
      · simp only [handleDb, heq]
        exact h
      · simp only [handleDb, heq]
        exact h
      · simp only [handleDb, heq]
        intro j tenant hget
        rw [htenants, Table.get_keep, Option.filter_eq_some_iff] at hget
        exact h j tenant hget.1
  | _ => exact h.congr (congrArg Table.get ((handleDb_sameOutside want now _ db).tenants rfl))

end Names

/-! ## Requests commit the names they flushed -/

/-- A tenant is committed under the name that its insert was flushed with. -/
def mayCommitName (τ : History) : Call → Prop
  | .db (.commitTenant id name _ _ _ _) =>
      ∃ ns, (⟨.db (.flushTenant name ns), .ok id⟩ : Exchange Call Call.Result) ∈ τ
  | _ => True

def namingDiscipline : Discipline Call Call.Result := ⟨mayCommitName, fun _ _ => True⟩

theorem mayCommitName_of_free {e : Call} (h : e.free = true) (τ : History) : mayCommitName τ e := by
  cases e with
  | db e => cases e <;> trivial
  | sys e => trivial
  | k8s e => trivial

theorem along_naming_of_free {α : Type} {p : Py α} {Q : α → Prop}
    (hp : p.Uses (fun e => e.free = true) Q) {I : History → Prop}
    (hI : ∀ x τ, I τ → I (x :: τ)) {τ : History} (h : I τ) :
    p.Along namingDiscipline (fun a τ' => Q a ∧ I τ') (fun _ τ' => I τ') τ :=
  hp.along (fun τ _ he _ => mayCommitName_of_free he τ) (fun τ x _ hτ _ => hI x τ hτ) h

theorem createTenantService_names (cfg : Settings) (tenantData : TenantCreate) (τ : History) :
    (createTenantService cfg tenantData).Along namingDiscipline (fun _ _ => True)
      (fun _ _ => True) τ := by
  refine ⟨trivial, fun r _ => ?_⟩
  cases r with
  | error e => trivial
  | ok id =>
      refine ((along_naming_of_free generateSecureKey_uses
        (I := fun τ => (⟨.db (.flushTenant tenantData.name "pending"), .ok id⟩ :
          Exchange Call Call.Result) ∈ τ) (fun x τ h => List.mem_cons_of_mem x h)
        List.mem_cons_self).mono (fun _ _ h => h) (fun _ _ _ => trivial)).bind ?_
      rintro rawApiKey τ1 ⟨-, h1⟩
      refine ⟨⟨_, h1⟩, fun r _ => ?_⟩
      cases r <;> trivial

theorem AdminRequest.handle_names (cfg : Settings) (r : AdminRequest) (τ : History) :
    (r.handle cfg).Along namingDiscipline (fun reply _ => reply.2 = none) (fun _ _ => True) τ := by
  have hfree : ∀ {α : Type} {p : Py α} {Q : α → Prop}, p.Uses (fun e => e.free = true) Q →
      p.Along namingDiscipline (fun a _ => Q a) (fun _ _ => True) τ :=
    fun hp => (along_naming_of_free hp (I := fun _ => True) (fun _ _ _ => trivial) trivial).mono
      (fun _ _ h => h.1) (fun _ _ _ => trivial)
  by_cases hr : ∀ body, r ≠ .createTenant body
  · exact hfree (r.handle_free cfg hr)
  · obtain ⟨body, hbody⟩ := not_forall.mp hr
    obtain rfl := not_not.mp hbody
    refine (hfree (checked_uses body)).bind (fun tenantData τ1 _ => ?_)
    refine Prog.Along.bind (M := fun _ _ => True) ?_ (fun _ _ _ => rfl)
    refine (createTenantService_names cfg tenantData τ1).tryCatch ?_
    intro e τ2 _
    cases e <;> trivial

/-- What is asked of a request besides the discipline it is known to keep. -/
def Request.naming (cfg : Settings) : Request → Discipline Call Call.Result
  | .admin _ _ => namingDiscipline
  | r => scopeDiscipline cfg r

theorem Request.thread_names (cfg : Settings) (adminSecretKey : String) (r : Request) :
    (r.thread cfg adminSecretKey).Along (r.naming cfg) (fun _ _ => True) (fun _ _ => True) [] := by
  cases r with
  | tenant t xApiKey r => exact (Request.tenant t xApiKey r).thread_scoped cfg adminSecretKey
  | admin xAdminSecret r =>
      refine Prog.Along.bind (M := fun reply _ => reply.2 = none) ?_ ?_
      · refine Prog.Along.tryCatch (M := fun _ _ => True) ?_ (fun e _ _ => errorReply_task e)
        refine ((along_naming_of_free (verifyAdmin_uses adminSecretKey xAdminSecret)
          (I := fun _ => True) (fun _ _ _ => trivial) trivial).mono (fun _ _ h => h)
          (fun _ _ _ => trivial)).bind (fun _ τ _ => r.handle_names cfg τ)
      · rintro ⟨response, task⟩ τ rfl
        trivial

theorem fits_of_flushed {ι : Type} {env : World → World → Prop}
    {t : Trail ι Call Call.Result World} {i : ι} {name ns : String} {id : ℕ}
    (hacts : ∀ ev ∈ t.events, (platform env).act ev.call ev.pre ev.answer ev.post)
    (h : ∃ ev ∈ t.events, ev.actor = i ∧ ev.toExchange = ⟨.db (.flushTenant name ns), .ok id⟩) :
    fits 255 name = true := by
  obtain ⟨⟨⟨e, r⟩, actor, pre, post⟩, hev, -, hx⟩ := h
  obtain ⟨rfl, hr⟩ := Exchange.mk.inj hx
  obtain ⟨o, ho⟩ := hacts _ hev
  have hanswer : (pre.db.flushTenant o.want name ns).1 = r := congrArg Prod.fst ho
  exact Database.fits_of_flushTenant (hanswer.trans (eq_of_heq hr))

/-- The requests of tenants commit no tenant. -/
theorem naming_of_request {cfg : Settings} {r : Request} {τ : History}
    (h : (r.naming cfg).Legal τ) : namingDiscipline.Legal τ := by
  cases r with
  | tenant t xApiKey r =>
      refine h.mono (fun past e h => ?_) (fun _ _ _ => trivial)
      cases e with
      | db e => cases e <;> trivial
      | k8s e => trivial
      | sys e => trivial
  | admin xAdminSecret r => exact h

/-! ## Reachable configurations -/

section Reachable

variable {ι : Type} [DecidableEq ι] {cfg : Settings} {adminSecretKey : String}
  {requests : ι → Request} {cluster : Cluster} {env : World → World → Prop}
  {c : Config ι Call Call.Result PyException World}

theorem platform_names (henv : KeepsDatabase env)
    (hc : Reach (platform env) (platformStart cfg adminSecretKey requests cluster) c) (i : ι) :
    namingDiscipline.Legal (own i c.trail.events) := by
  refine naming_of_request (Reach.legal (D := requestDiscipline)
    (fun c hc i => (platform_sound henv hc).legal i)
    (fun i => (requests i).thread_names cfg adminSecretKey) (fun i τ x hx => ?_) hc i).1
  cases requests i with
  | tenant t xApiKey r => exact hx
  | admin xAdminSecret r => trivial

/-- The column is filled with names that were checked. -/
theorem platform_namesFit (henv : KeepsDatabase env)
    (hc : Reach (platform env) (platformStart cfg adminSecretKey requests cluster) c) :
    NamesFit c.trail.state.db := by
  refine Reach.inv (B := fun t => (∀ i, namingDiscipline.Legal (own i t.events)) ∧
      ∀ ev ∈ t.events, (platform env).act ev.call ev.pre ev.answer ev.post)
    (P := fun t => NamesFit t.state.db) (fun c hc => ⟨platform_names henv hc, hc.acts⟩) ?_ ?_ ?_ hc
  · intro id tenant hget
    cases hget
  · rintro t i e r s hpast hpush h ⟨o, ho⟩
    have hmay : mayCommitName (own i t.events) e := by
      have hlegal := hpush.1 i
      rw [own_push_self] at hlegal
      exact hlegal.1
    cases e with
    | k8s e =>
        obtain ⟨rfl, rfl⟩ := Prod.mk.inj ho
        exact h
    | sys e =>
        obtain ⟨rfl, rfl⟩ := Prod.mk.inj ho
        exact h
    | db e =>
        obtain ⟨rfl, rfl⟩ := Prod.mk.inj ho
        refine h.statement o.want o.now e ?_
        rintro id name ns keyName keyPrefix keyHash rfl
        obtain ⟨ns', hflush⟩ := hmay
        exact fits_of_flushed hpast.2 (mem_own.mp hflush)
  · intro t s _ h hs
    rw [henv _ _ hs]
    exact h

end Reachable

end TenantPlatform
