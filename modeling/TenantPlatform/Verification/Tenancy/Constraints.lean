import TenantPlatform.Verification.Rollout.Controller
import TenantPlatform.Verification.Tenancy.Creation
import TenantPlatform.Verification.Tenancy.Names
import TenantPlatform.Verification.Tenancy.Statements

/-! # The constraints of the tables

Every statement is checked against the constraints that the models declare, one table at a time.
That they hold between the tables as well, in every state that requests can bring about, also
rests on what the requests do before their statements. -/

namespace TenantPlatform

open Effect

/-! ## The constraints -/

/-- The rows of the five tables that belong to tenants. -/
structure Database.RowsConstrained (db : Database) : Prop where
  apiKeys : db.apiKeys.All (fun row => row.Fits ∧ db.HasTenant row.tenantId)
  keyHashes : db.apiKeys.Unique (fun a b => a.keyHash = b.keyHash)
  keyNames : db.apiKeys.Unique (fun a b => a.tenantId = b.tenantId ∧ a.name = b.name)
  buildJobs : db.buildJobs.All (fun row => row.Fits ∧ db.HasTenant row.tenantId)
  deployments : db.deployments.All
    (fun row => fits 253 row.k8sDeploymentName = true ∧ db.HasTenant row.tenantId)
  webhookRegistrations :
    db.webhookRegistrations.All (fun row => row.Fits ∧ db.HasTenant row.tenantId)
  webhookDeliveries : db.webhookDeliveries.All (fun row => row.Fits ∧ db.HasTenant row.tenantId)

/-- Columns hold what fits them, what is declared unique is, and every foreign key leads to a row,
that of a job or registration to one of the same tenant. -/
structure Database.Constrained (db : Database) : Prop extends db.RowsConstrained where
  tenants : db.tenants.All
    (fun row => fits 255 row.name = true ∧ fits 63 row.k8sNamespace = true)
  namespaces : db.tenants.Unique (fun a b => a.k8sNamespace = b.k8sNamespace)
  references : db.References

section Statement

variable {want now : ℕ} {e : DbCall} {db db' : Database}

theorem namespaceFits_statement (h : db.tenants.All (fun row => fits 63 row.k8sNamespace = true)) :
    (handleDb want now e db).2.tenants.All (fun row => fits 63 row.k8sNamespace = true) := by
  intro id a' ha'
  rcases tenant_of_statement ha' with ⟨a, ha, hlater⟩ | hcreated
  · rw [hlater.1]
    exact h id a ha
  · cases e with
    | commitTenant j name ns keyName keyPrefix keyHash =>
        simp only [handleDb, Database.commitTenant] at ha'
        split at ha'
        · exact h id a' ha'
        · rename_i hfits
          split at ha'
          · exact h id a' ha'
          · split at ha'
            · exact h id a' ha'
            · rw [Table.get_put] at ha'
              split at ha'
              · obtain rfl := Option.some.inj ha'
                simpa using hfits
              · exact h id a' ha'
    | _ => cases hcreated

theorem Database.RowsConstrained.step (h : db.RowsConstrained) (hs : db.Step e db')
    (hname : ∀ t b name status replicas, e = .insertDeployment t b name status replicas →
      name = tenantAppName) : db'.RowsConstrained := by
  constructor
  · refine hs.apiKeys.all h.apiKeys (fun row hrow hk => ⟨hrow.1, hk hrow.2⟩) ?_ ?_
    · rintro rows ⟨row, rfl, hfits, -, ht, -⟩ row' hrow'
      obtain rfl := List.mem_singleton.mp hrow'
      exact ⟨hfits, ht⟩
    · rintro id old row ⟨at', rfl⟩ hk hold
      exact ⟨⟨hold.1.name, hold.1.keyPrefix, hold.1.keyHash⟩, hk hold.2⟩
  · refine hs.apiKeys.unique h.keyHashes ?_ ?_
    · rintro rows ⟨row, rfl, -, -, -, hfree⟩
      exact ⟨row, rfl, fun id b hb => ⟨Ne.symm (hfree id b hb).1, (hfree id b hb).1⟩⟩
    · rintro id old row b ⟨at', rfl⟩
      exact ⟨fun h => h, fun h => h⟩
  · refine hs.apiKeys.unique h.keyNames ?_ ?_
    · rintro rows ⟨row, rfl, -, -, -, hfree⟩
      exact ⟨row, rfl, fun id b hb => ⟨fun hsame => (hfree id b hb).2 ⟨hsame.1.symm, hsame.2.symm⟩,
        (hfree id b hb).2⟩⟩
    · rintro id old row b ⟨at', rfl⟩
      exact ⟨fun h => h, fun h => h⟩
  · refine hs.buildJobs.all h.buildJobs (fun row hrow hk => ⟨hrow.1, hk hrow.2⟩) ?_ ?_
    · rintro rows ⟨row, rfl, hfits, ht⟩ row' hrow'
      obtain rfl := List.mem_singleton.mp hrow'
      exact ⟨hfits, ht⟩
    · rintro id old row ⟨changes, -, rfl, himage, hmessage⟩ hk hold
      exact ⟨⟨hold.1.gitUrl, hold.1.gitRevision, hold.1.gitSubPath, himage, hmessage⟩, hk hold.2⟩
  · refine hs.deployments.all h.deployments (fun row hrow hk => ⟨hrow.1, hk hrow.2⟩) ?_ ?_
    · rintro rows ⟨row, rfl, ht, heq⟩ row' hrow'
      obtain rfl := List.mem_singleton.mp hrow'
      exact ⟨by rw [hname _ _ _ _ _ heq]; decide, ht⟩
    · rintro id old row ⟨status, now', -, rfl⟩ hk hold
      exact ⟨hold.1, hk hold.2⟩
  · refine hs.webhookRegistrations.all h.webhookRegistrations
      (fun row hrow hk => ⟨hrow.1, hk hrow.2⟩) ?_ (fun _ _ _ h => h.elim)
    rintro rows ⟨row, rfl, hfits, ht⟩ row' hrow'
    obtain rfl := List.mem_singleton.mp hrow'
    exact ⟨hfits, ht⟩
  · exact hs.webhookDeliveries.all h.webhookDeliveries
      (fun row hrow hk => ⟨hrow.1, hk hrow.2⟩) (fun rows hrows => hrows) (fun _ _ _ h => h.elim)

end Statement

/-! ## Runs -/

section Reachable

variable {ι : Type} [DecidableEq ι] {cfg : Settings} {adminSecretKey : String}
  {requests : ι → Request} {cluster : Cluster} {env : World → World → Prop}
  {c : Config ι Call Call.Result PyException World}

/-- What is known of a trail before a statement is made. -/
structure Known (t : Trail ι Call Call.Result World) : Prop where
  consistent : Consistent t
  references : t.state.db.References
  legal : ∀ i, requestDiscipline.Legal (own i t.events)

theorem platform_known (henv : KeepsDatabase env)
    (hc : Reach (platform env) (platformStart cfg adminSecretKey requests cluster) c) :
    Known c.trail :=
  ⟨(platform_sound henv hc).consistent, (referencesInv_reach henv hc).references,
    (platform_sound henv hc).legal⟩

/-- The rows of tenants' tables meet their constraints in every reachable state. -/
theorem platform_rowsConstrained (henv : KeepsDatabase env)
    (hc : Reach (platform env) (platformStart cfg adminSecretKey requests cluster) c) :
    c.trail.state.db.RowsConstrained := by
  refine Reach.inv (B := Known) (P := fun t => t.state.db.RowsConstrained)
    (fun _ hc => platform_known henv hc) ?_ ?_ ?_ hc
  · exact ⟨Table.all_empty, fun _ _ _ _ h => (by cases h), fun _ _ _ _ h => (by cases h),
      Table.all_empty, Table.all_empty, Table.all_empty, Table.all_empty⟩
  · rintro t i e r s hknown hknown' h ⟨o, ho⟩
    cases e with
    | k8s e =>
        obtain ⟨rfl, rfl⟩ := Prod.mk.inj ho
        exact h
    | sys e =>
        obtain ⟨rfl, rfl⟩ := Prod.mk.inj ho
        exact h
    | db e =>
        obtain ⟨rfl, rfl⟩ := Prod.mk.inj ho
        refine h.step (database_step o.want o.now e hknown.references) ?_
        rintro n b name status replicas rfl
        have hlegal := hknown'.legal i
        rw [own_push_self] at hlegal
        exact hlegal.1.2.1
  · intro t s _ h hs
    rw [henv _ _ hs]
    exact h

theorem platform_namespaceFits (henv : KeepsDatabase env)
    (hc : Reach (platform env) (platformStart cfg adminSecretKey requests cluster) c) :
    c.trail.state.db.tenants.All (fun row => fits 63 row.k8sNamespace = true) := by
  refine Reach.inv (B := fun _ => True)
    (P := fun t => t.state.db.tenants.All (fun row => fits 63 row.k8sNamespace = true))
    (fun _ _ => trivial) Table.all_empty ?_ ?_ hc
  · rintro t i e r s - - h ⟨o, ho⟩
    cases e with
    | k8s e =>
        obtain ⟨rfl, rfl⟩ := Prod.mk.inj ho
        exact h
    | sys e =>
        obtain ⟨rfl, rfl⟩ := Prod.mk.inj ho
        exact h
    | db e =>
        obtain ⟨rfl, rfl⟩ := Prod.mk.inj ho
        exact namespaceFits_statement h
  · intro t s _ h hs
    rw [henv _ _ hs]
    exact h

/-- In every state that any requests reach, interleaved in any way, every constraint that the
tables declare holds. -/
theorem platform_constrained (henv : KeepsDatabase env)
    (hc : Reach (platform env) (platformStart cfg adminSecretKey requests cluster) c) :
    c.trail.state.db.Constrained where
  toRowsConstrained := platform_rowsConstrained henv hc
  tenants id row hrow := ⟨platform_namesFit henv hc id row hrow,
    platform_namespaceFits henv hc id row hrow⟩
  namespaces i j a b ha hb hab := by
    have hnames := (platform_sound henv hc).consistent.tenants
    have hab : a.k8sNamespace = b.k8sNamespace := hab
    rw [hnames i a ha, hnames j b hb] at hab
    exact tenantNamespace_injective hab
  references := (referencesInv_reach henv hc).references

end Reachable

/-- A tenant with two builds and a deployment of each. -/
theorem platform_constrained_redeployed : redeployedRun.trail.state.db.Constrained :=
  platform_constrained (fun _ _ h => h.1.1) redeployedRun_reach

end TenantPlatform
