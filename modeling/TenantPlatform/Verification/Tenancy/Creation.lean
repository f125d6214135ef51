import TenantPlatform.Effect.Moments
import TenantPlatform.Verification.Keys.Operations
import TenantPlatform.Verification.Tenancy.Scope

/-! # Creating tenants

The id of a tenant is drawn when its row is flushed, and the row is there once it is committed.
In between other requests run, so an id that is drawn may have no row yet. A request commits one
tenant at most, under an id that it drew itself, so the row of a tenant is committed once. -/

namespace TenantPlatform

open Effect

/-! ## The discipline -/

/-- The id under which a call committed a new tenant. -/
def createdTenant : Exchange Call Call.Result → Option ℕ
  | ⟨.db (.commitTenant id ..), .ok _⟩ => some id
  | _ => none

/-- The id that a call drew for a tenant. -/
def drawnTenant : Exchange Call Call.Result → Option ℕ
  | ⟨.db (.flushTenant ..), .ok id⟩ => some id
  | _ => none

def Call.commitsTenant : Call → Bool
  | .db (.commitTenant ..) => true
  | _ => false

/-- A request commits one tenant, under an id that it drew. -/
def mayCreateTenant (τ : History) : Call → Prop
  | .db (.commitTenant id ..) =>
      (∃ x ∈ τ, drawnTenant x = some id) ∧ ∀ x ∈ τ, x.call.commitsTenant = false
  | _ => True

def creating : Discipline Call Call.Result := ⟨mayCreateTenant, expectsAnswer⟩

theorem mayCreateTenant_of_not_commits {e : Call} (h : e.commitsTenant = false) (τ : History) :
    mayCreateTenant τ e := by
  cases e with
  | db e => cases e <;> trivial
  | k8s e => trivial
  | sys e => trivial

theorem createdTenant_of_not_commits {x : Exchange Call Call.Result}
    (h : x.call.commitsTenant = false) : createdTenant x = none := by
  obtain ⟨e, r⟩ := x
  cases e with
  | db e => cases e <;> first | rfl | cases h
  | _ => rfl

/-- Programs that commit no tenant. -/
theorem along_creating {α : Type} {p : Py α} {Q : α → Prop} {τ : History}
    (hp : p.Uses (fun e => e.commitsTenant = false) Q)
    (h : ∀ x ∈ τ, x.call.commitsTenant = false) :
    p.Along creating (fun a τ' => Q a ∧ ∀ x ∈ τ', x.call.commitsTenant = false)
      (fun _ _ => True) τ :=
  (hp.along (I := fun τ => ∀ x ∈ τ, x.call.commitsTenant = false)
    (fun τ _ he _ => mayCreateTenant_of_not_commits he τ)
    (fun τ x hx hτ _ y hy => by
      rcases List.mem_cons.mp hy with rfl | hy
      · exact hx
      · exact hτ y hy) h).mono (fun _ _ h => h) (fun _ _ _ => trivial)

theorem createTenantService_creates (cfg : Settings) (tenantData : TenantCreate) {τ : History}
    (h : ∀ x ∈ τ, x.call.commitsTenant = false) :
    (createTenantService cfg tenantData).Along creating (fun _ _ => True) (fun _ _ => True) τ := by
  refine ⟨trivial, fun r _ => ?_⟩
  cases r with
  | error x => trivial
  | ok id =>
      refine ⟨trivial, fun token _ =>
        ⟨⟨⟨_, .tail _ (.head _), rfl⟩, fun x hx => ?_⟩, fun r _ => ?_⟩⟩
      · rcases List.mem_cons.mp hx with rfl | hx
        · rfl
        · rcases List.mem_cons.mp hx with rfl | hx
          · rfl
          · exact h x hx
      · cases r <;> trivial

/-- Requests other than those of tenants that are created. -/
theorem AdminRequest.handle_creates (cfg : Settings) (r : AdminRequest) {τ : History}
    (h : ∀ x ∈ τ, x.call.commitsTenant = false) :
    (r.handle cfg).Along creating (fun reply _ => reply.2 = none) (fun _ _ => True) τ := by
  by_cases hr : ∀ body, r ≠ .createTenant body
  · refine (along_creating ((r.handle_free cfg hr).mono (fun e he => ?_) (fun _ h => h)) h).mono
      (fun _ _ h => h.1) (fun _ _ h => h)
    cases e with
    | db e => cases e <;> first | rfl | cases he
    | _ => rfl
  · obtain ⟨body, hbody⟩ := not_forall.mp hr
    obtain rfl := not_not.mp hbody
    refine (along_creating (checked_uses body) h).bind (fun tenantData τ1 h1 => ?_)
    refine Prog.Along.bind (M := fun _ _ => True) ?_ (fun _ _ _ => rfl)
    exact (createTenantService_creates cfg tenantData h1.2).tryCatch
      (fun e _ _ => by cases e <;> trivial)

/-- What is asked of a request besides the discipline it is known to keep. -/
def Request.creation (cfg : Settings) : Request → Discipline Call Call.Result
  | .admin _ _ => creating
  | r => scopeDiscipline cfg r

theorem Request.thread_creates (cfg : Settings) (adminSecretKey : String) (r : Request) :
    (r.thread cfg adminSecretKey).Along (r.creation cfg) (fun _ _ => True) (fun _ _ => True)
      [] := by
  cases r with
  | tenant t xApiKey r => exact (Request.tenant t xApiKey r).thread_scoped cfg adminSecretKey
  | admin xAdminSecret r =>
      refine Prog.Along.bind (M := fun reply _ => reply.2 = none) ?_ ?_
      · refine Prog.Along.tryCatch (M := fun _ _ => True) ?_ (fun e _ _ => errorReply_task e)
        exact (along_creating (verifyAdmin_uses adminSecretKey xAdminSecret)
          (fun x hx => by cases hx)).bind (fun _ _ h => r.handle_creates cfg h.2)
      · rintro ⟨response, task⟩ τ rfl
        trivial

theorem creating_of_request {cfg : Settings} {r : Request} {τ : History}
    (h : (r.creation cfg).Legal τ) : creating.Legal τ := by
  cases r with
  | tenant t xApiKey r =>
      refine h.mono (fun past e h => ?_) (fun _ _ h => h)
      cases e with
      | db e => cases e <;> trivial
      | k8s e => trivial
      | sys e => trivial
  | admin xAdminSecret r => exact h

/-- A tenant that a request committed had been drawn by it. -/
theorem drawn_of_created {τ : History} (h : creating.Legal τ) {x : Exchange Call Call.Result}
    (hx : x ∈ τ) {id : ℕ} (hid : createdTenant x = some id) :
    ∃ y ∈ τ, drawnTenant y = some id := by
  induction τ with
  | nil => cases hx
  | cons y τ ih =>
      rcases List.mem_cons.mp hx with rfl | hx
      · obtain ⟨e, r⟩ := x
        have hmay := h.1
        cases e with
        | k8s e => cases hid
        | sys e => cases hid
        | db e =>
            cases e with
            | commitTenant j name ns keyName keyPrefix keyHash =>
                cases r with
                | error x => cases hid
                | ok tenant =>
                    obtain rfl := Option.some.inj hid
                    obtain ⟨⟨y, hy, hdrawn⟩, -⟩ := hmay
                    exact ⟨y, List.mem_cons_of_mem _ hy, hdrawn⟩
            | _ => cases hid
      · obtain ⟨z, hz, hdrawn⟩ := ih h.2.2 hx
        exact ⟨z, List.mem_cons_of_mem y hz, hdrawn⟩

/-! ## What the statements do to tenants -/

/-- A tenant keeps its namespace and the time of its creation. -/
def Tenant.Later (a b : Tenant) : Prop :=
  b.k8sNamespace = a.k8sNamespace ∧ b.createdAt = a.createdAt

theorem Tenant.Later.refl (a : Tenant) : a.Later a := ⟨rfl, rfl⟩

theorem Tenant.Later.trans {a b c : Tenant} (h : a.Later b) (h' : b.Later c) : a.Later c :=
  ⟨h'.1.trans h.1, h'.2.trans h.2⟩

theorem Database.updateTenant_ok {db db' : Database} {id : ℕ} {changes : TenantChanges}
    {tenant : Tenant} (h : db.updateTenant id changes = (.ok tenant, db')) :
    ∃ old, db.tenants.get id = some old ∧ old.Later tenant ∧
      db'.tenants = db.tenants.put id tenant := by
  unfold updateTenant at h
  split at h
  · cases h
  · rename_i old hold
    split at h
    · cases h
    · dsimp only at h
      split at h
      · cases h
      · cases h
        exact ⟨old, hold, ⟨rfl, rfl⟩, rfl⟩

/-- A statement finds the tenants there, or commits a new one. -/
theorem tenant_of_statement {want now : ℕ} {e : DbCall} {db : Database} {id : ℕ} {a' : Tenant}
    (h : (handleDb want now e db).2.tenants.get id = some a') :
    (∃ a, db.tenants.get id = some a ∧ a.Later a') ∨
      createdTenant ⟨.db e, (handleDb want now e db).1⟩ = some id := by
  have hsame : db.tenants.get id = some a' → ∃ a, db.tenants.get id = some a ∧ a.Later a' :=
    fun h => ⟨a', h, .refl a'⟩
  cases e with
  | flushTenant name ns =>
      refine .inl (hsame ?_)
      rcases db.flushTenant_cases want name ns with ⟨x, db', heq, hrows⟩ | heq
      · simp only [handleDb, heq] at h
        rw [← hrows.1]
        exact h
      · simp only [handleDb, heq] at h
        exact h
  | commitTenant j name ns keyName keyPrefix keyHash =>
      rcases db.commitTenant_cases want now j name ns keyName keyPrefix keyHash with
        ⟨x, db', heq, hrows⟩ | ⟨tenant, row, db', heq, -, -, -, -, -, hput, -⟩
      · simp only [handleDb, heq] at h
        refine .inl (hsame ?_)
        rw [← hrows.1]
        exact h
      · simp only [handleDb, heq, hput, Table.get_put] at h ⊢
        split at h
        · rename_i hj
          exact .inr (congrArg some hj.symm)
        · exact .inl (hsame h)
  | updateTenant j changes =>
      refine .inl ?_
      rcases db.updateTenant_cases j changes with ⟨x, heq⟩ | ⟨tenant, db', heq, -⟩
      · simp only [handleDb, heq] at h
        exact hsame h
      · obtain ⟨old, hold, hlater, hput⟩ := Database.updateTenant_ok heq
        simp only [handleDb, heq, hput, Table.get_put] at h
        split at h
        · rename_i hj
          obtain rfl := Option.some.inj h
          exact ⟨old, hj ▸ hold, hlater⟩
        · exact hsame h
  | deleteTenant j =>
      refine .inl (hsame ?_)
      rcases db.deleteTenant_cases j with ⟨x, heq⟩ | heq | ⟨db', heq, hkeep, -⟩
      · simp only [handleDb, heq] at h
        exact h
      · simp only [handleDb, heq] at h
        exact h
      · simp only [handleDb, heq, hkeep, Table.get_keep] at h
        exact (Option.filter_eq_some_iff.mp h).1
  | _ =>
      rw [(handleDb_sameOutside want now _ db).tenants rfl] at h
      exact .inl (hsame h)

theorem next_tenants_le (want now : ℕ) (e : DbCall) (db : Database) :
    db.tenants.next ≤ (handleDb want now e db).2.tenants.next := by
  cases e with
  | flushTenant name ns =>
      have hle : db.tenants.next ≤ db.tenants.fresh want + 1 :=
        Nat.le_succ_of_le (db.tenants.le_fresh want)
      simp only [handleDb, Database.flushTenant]
      repeat' split
      all_goals exact hle
  | commitTenant j name ns keyName keyPrefix keyHash =>
      simp only [handleDb, Database.commitTenant]
      repeat' split
      all_goals first | exact le_rfl | exact db.tenants.next_le_put _ _
  | updateTenant j changes =>
      simp only [handleDb, Database.updateTenant]
      repeat' split
      all_goals first | exact le_rfl | exact db.tenants.next_le_put _ _
  | deleteTenant j =>
      rcases db.deleteTenant_cases j with ⟨x, heq⟩ | heq | ⟨db', heq, hkeep, -⟩
      · simp only [handleDb, heq, le_refl]
      · simp only [handleDb, heq, le_refl]
      · simp only [handleDb, heq, hkeep, Table.next_keep, le_refl]
  | _ => rw [(handleDb_sameOutside want now _ db).tenants rfl]

/-- A drawn id is new, and the sequence has passed it. -/
theorem drawn_of_statement {want now : ℕ} {e : DbCall} {db : Database} {id : ℕ}
    (h : drawnTenant ⟨.db e, (handleDb want now e db).1⟩ = some id) :
    db.tenants.next ≤ id ∧ id < (handleDb want now e db).2.tenants.next := by
  cases e with
  | flushTenant name ns =>
      rcases db.flushTenant_cases want name ns with ⟨x, db', heq, -⟩ | heq
      · simp only [handleDb, heq, drawnTenant] at h
        cases h
      · simp only [handleDb, heq, drawnTenant, Option.some.injEq] at h ⊢
        subst h
        exact ⟨db.tenants.le_fresh want, Nat.lt_succ_self _⟩
  | _ => cases h

/-! ## Runs -/

section Reachable

variable {ι : Type} [DecidableEq ι] {cfg : Settings} {adminSecretKey : String}
  {requests : ι → Request} {cluster : Cluster} {env : World → World → Prop}
  {c c' : Config ι Call Call.Result PyException World}

theorem platform_creates (henv : KeepsDatabase env)
    (hc : Reach (platform env) (platformStart cfg adminSecretKey requests cluster) c) (i : ι) :
    creating.Legal (own i c.trail.events) := by
  refine creating_of_request (Reach.legal (D := requestDiscipline)
    (fun _ hc i => (platform_sound henv hc).legal i)
    (fun i => (requests i).thread_creates cfg adminSecretKey) (fun i τ x hx => ?_) hc i).1
  cases requests i with
  | tenant t xApiKey r => exact hx
  | admin xAdminSecret r => exact hx

/-- Each id was drawn by one request, and tenants have been committed. -/
structure Creations (t : Trail ι Call Call.Result World) : Prop where
  below : ∀ i, ∀ x ∈ own i t.events, ∀ id, drawnTenant x = some id → id < t.state.db.tenants.next
  sole : ∀ i j, ∀ x ∈ own i t.events, ∀ y ∈ own j t.events, ∀ id,
    drawnTenant x = some id → drawnTenant y = some id → i = j
  covered : ∀ id a, t.state.db.tenants.get id = some a →
    ∃ ev ∈ t.events, createdTenant ev.toExchange = some id

theorem creations_reach (henv : KeepsDatabase env)
    (hc : Reach (platform env) (platformStart cfg adminSecretKey requests cluster) c) :
    Creations c.trail := by
  refine Reach.inv (B := fun _ => True) (fun _ _ => trivial) ?_ ?_ ?_ hc
  · exact ⟨fun _ _ hx => (by cases hx), fun _ _ _ hx => (by cases hx), fun _ _ h => (by cases h)⟩
  · rintro t i e r s - - h ⟨o, ho⟩
    obtain rfl : (handle e o t.state).1 = r := congrArg Prod.fst ho
    obtain rfl : (handle e o t.state).2 = s := congrArg Prod.snd ho
    have hnext : t.state.db.tenants.next ≤ (handle e o t.state).2.db.tenants.next := by
      cases e with
      | db e => exact next_tenants_le _ _ e _
      | k8s e => exact le_rfl
      | sys e => exact le_rfl
    have hdrawn : ∀ id, drawnTenant ⟨e, (handle e o t.state).1⟩ = some id →
        t.state.db.tenants.next ≤ id ∧ id < (handle e o t.state).2.db.tenants.next := by
      intro id hid
      cases e with
      | db e => exact drawn_of_statement hid
      | k8s e => cases hid
      | sys e => cases hid
    refine ⟨fun j x hx id hid => ?_, fun j k x hx y hy id hid hid' => ?_, fun id a ha => ?_⟩
    · rcases mem_own_push hx with hpast | ⟨-, rfl⟩
      · exact Nat.lt_of_lt_of_le (h.below j x hpast id hid) hnext
      · exact (hdrawn id hid).2
    · rcases mem_own_push hx with hpast | ⟨hj, rfl⟩
      · rcases mem_own_push hy with hpast' | ⟨-, rfl⟩
        · exact h.sole j k x hpast y hpast' id hid hid'
        · exact absurd (h.below j x hpast id hid) (Nat.not_lt.mpr (hdrawn id hid').1)
      · rcases mem_own_push hy with hpast' | ⟨hk, -⟩
        · exact absurd (h.below k y hpast' id hid') (Nat.not_lt.mpr (hdrawn id hid).1)
        · exact hj.trans hk.symm
    · have hold : (∃ a, t.state.db.tenants.get id = some a) →
          ∃ ev ∈ (t.push i e (handle e o t.state).1 (handle e o t.state).2).events,
            createdTenant ev.toExchange = some id := by
        rintro ⟨b, hb⟩
        obtain ⟨ev, hev, hcreated⟩ := h.covered id b hb
        exact ⟨ev, List.mem_cons_of_mem _ hev, hcreated⟩
      cases e with
      | db e =>
          rcases tenant_of_statement ha with ⟨b, hb, -⟩ | hcreated
          · exact hold ⟨b, hb⟩
          · exact ⟨_, List.mem_cons_self, hcreated⟩
      | k8s e => exact hold ⟨a, ha⟩
      | sys e => exact hold ⟨a, ha⟩
  · intro t s _ h hs
    have hdb := henv _ _ hs
    exact ⟨by rw [hdb]; exact h.below, h.sole, by rw [hdb]; exact h.covered⟩

/-- The tenants of two moments: one that had been created by the first and is found at the second
was there all along. -/
structure TenantsPersist (t t' : Trail ι Call Call.Result World) : Prop where
  created : ∀ ev ∈ t.events, ∀ id, createdTenant ev.toExchange = some id →
    ∃ ev' ∈ t'.events, createdTenant ev'.toExchange = some id
  rows : ∀ ev ∈ t.events, ∀ id, createdTenant ev.toExchange = some id → ∀ a',
    t'.state.db.tenants.get id = some a' →
      ∃ a, t.state.db.tenants.get id = some a ∧ a.Later a'

omit [DecidableEq ι] in
theorem TenantsPersist.refl (t : Trail ι Call Call.Result World) : TenantsPersist t t :=
  ⟨fun ev hev _ hid => ⟨ev, hev, hid⟩, fun _ _ _ _ a ha => ⟨a, ha, .refl a⟩⟩

omit [DecidableEq ι] in
theorem TenantsPersist.trans {t t' t'' : Trail ι Call Call.Result World}
    (h : TenantsPersist t t') (h' : TenantsPersist t' t'') : TenantsPersist t t'' := by
  refine ⟨fun ev hev id hid => ?_, fun ev hev id hid a'' ha'' => ?_⟩
  · obtain ⟨ev', hev', hid'⟩ := h.created ev hev id hid
    exact h'.created ev' hev' id hid'
  · obtain ⟨ev', hev', hid'⟩ := h.created ev hev id hid
    obtain ⟨a', ha', hlater'⟩ := h'.rows ev' hev' id hid' a'' ha''
    obtain ⟨a, ha, hlater⟩ := h.rows ev hev id hid a' ha'
    exact ⟨a, ha, hlater.trans hlater'⟩

/-- A tenant is not committed again. -/
theorem not_created_again {t : Trail ι Call Call.Result World} {i : ι} {e : Call}
    {r : Call.Result e} {s : World} {ev : Event ι Call Call.Result World} {id : ℕ}
    (hlegal : ∀ j, creating.Legal (own j (t.push i e r s).events))
    (hcreations : Creations t) (hev : ev ∈ t.events)
    (hid : createdTenant ev.toExchange = some id) : createdTenant ⟨e, r⟩ ≠ some id := by
  intro hagain
  have hmine := hlegal i
  rw [own_push_self] at hmine
  have hevown : ev.toExchange ∈ own ev.actor t.events := mem_own.mpr ⟨ev, hev, rfl, rfl⟩
  have htheirs : creating.Legal (own ev.actor t.events) := by
    by_cases hactor : ev.actor = i
    · rw [hactor]
      exact hmine.2.2
    · have h := hlegal ev.actor
      rwa [own_push_of_ne hactor] at h
  obtain ⟨x, hx, hdrawn⟩ := drawn_of_created htheirs hevown hid
  cases e with
  | k8s e => cases hagain
  | sys e => cases hagain
  | db e =>
      cases e with
      | commitTenant j name ns keyName keyPrefix keyHash =>
          cases r with
          | error x => cases hagain
          | ok tenant =>
              obtain rfl := Option.some.inj hagain
              obtain ⟨⟨y, hy, hdrawn'⟩, hnone⟩ := hmine.1
              have hactor := hcreations.sole _ _ x hx y hy _ hdrawn hdrawn'
              rw [hactor] at hevown
              have hfalse := createdTenant_of_not_commits (hnone _ hevown)
              rw [hid] at hfalse
              cases hfalse
      | _ => cases hagain

theorem tenantsPersist_act {t : Trail ι Call Call.Result World} {i : ι} {e : Call}
    {r : Call.Result e} {s : World}
    (hlegal : ∀ j, creating.Legal (own j (t.push i e r s).events)) (hcreations : Creations t)
    (hact : (platform env).act e t.state r s) : TenantsPersist t (t.push i e r s) := by
  obtain ⟨o, ho⟩ := hact
  obtain rfl : (handle e o t.state).1 = r := congrArg Prod.fst ho
  obtain rfl : (handle e o t.state).2 = s := congrArg Prod.snd ho
  refine ⟨fun ev hev id hid => ⟨ev, List.mem_cons_of_mem _ hev, hid⟩, ?_⟩
  intro ev hev id hid a' ha'
  have hnot := not_created_again hlegal hcreations hev hid
  cases e with
  | db e =>
      rcases tenant_of_statement ha' with hold | hcreated
      · exact hold
      · exact absurd hcreated hnot
  | k8s e => exact ⟨a', ha', .refl a'⟩
  | sys e => exact ⟨a', ha', .refl a'⟩

omit [DecidableEq ι] in
theorem tenantsPersist_env {t : Trail ι Call Call.Result World} {s : World}
    (hs : s.db = t.state.db) : TenantsPersist t ⟨s, t.events⟩ := by
  refine ⟨fun ev hev id hid => ⟨ev, hev, hid⟩, fun _ _ _ _ a' ha' => ⟨a', ?_, .refl a'⟩⟩
  rw [← hs]
  exact ha'

/-- Between any two moments of a run, tenants persist. -/
theorem tenants_persist (henv : KeepsDatabase env)
    (hc : Reach (platform env) (platformStart cfg adminSecretKey requests cluster) c)
    (hc' : Reach (platform env) c c') : TenantsPersist c.trail c'.trail :=
  Reach.between (B := fun t => (∀ i, creating.Legal (own i t.events)) ∧ Creations t)
    (fun _ hc => ⟨platform_creates henv hc, creations_reach henv hc⟩) TenantsPersist.refl
    (fun _ _ _ => TenantsPersist.trans)
    (fun _ _ _ _ _ hb hb' hact => tenantsPersist_act hb'.1 hb.2 hact)
    (fun _ _ _ hs => tenantsPersist_env (henv _ _ hs)) hc hc'

end Reachable

end TenantPlatform
