import TenantPlatform.Verification.Tenancy.Constraints

/-! # A deleted tenant stays deleted

Requests of a tenant that were under way when it was deleted go on: they still insert and commit
rows, and the sequence still draws ids. None of it brings anything of the tenant back. -/

namespace TenantPlatform

open Effect

/-- The tenant whose row a call deleted. -/
def deletedTenant : Exchange Call Call.Result → Option ℕ
  | ⟨.db (.deleteTenant id), .ok (_ + 1)⟩ => some id
  | _ => none

/-- Nothing of the tenant is there. -/
structure Database.Without (db : Database) (n : ℕ) : Prop where
  tenants : db.tenants.get n = none
  apiKeys : db.apiKeys.All (fun row => row.tenantId ≠ n)
  buildJobs : db.buildJobs.All (fun row => row.tenantId ≠ n)
  deployments : db.deployments.All (fun row => row.tenantId ≠ n)
  webhookRegistrations : db.webhookRegistrations.All (fun row => row.tenantId ≠ n)
  webhookDeliveries : db.webhookDeliveries.All (fun row => row.tenantId ≠ n)

/-- Rows that lead to their tenant lead to none that is gone. -/
theorem Database.RowsConstrained.without {db : Database} (h : db.RowsConstrained) {n : ℕ}
    (hn : db.tenants.get n = none) : db.Without n := by
  have hgone : ∀ m, db.HasTenant m → m ≠ n := by
    rintro m hm rfl
    rw [HasTenant, hn] at hm
    cases hm
  exact ⟨hn, fun id row hrow => hgone _ (h.apiKeys id row hrow).2,
    fun id row hrow => hgone _ (h.buildJobs id row hrow).2,
    fun id row hrow => hgone _ (h.deployments id row hrow).2,
    fun id row hrow => hgone _ (h.webhookRegistrations id row hrow).2,
    fun id row hrow => hgone _ (h.webhookDeliveries id row hrow).2⟩

/-- A statement that deletes a tenant finds it and leaves none. -/
theorem deleted_of_statement {want now : ℕ} {e : DbCall} {db : Database} {n : ℕ}
    (h : deletedTenant ⟨.db e, (handleDb want now e db).1⟩ = some n) :
    db.HasTenant n ∧ (handleDb want now e db).2.tenants.get n = none := by
  cases e with
  | deleteTenant j =>
      rcases db.deleteTenant_cases j with ⟨x, heq⟩ | heq | ⟨db', heq, hkeep, -⟩
      · simp only [handleDb, heq, deletedTenant] at h
        cases h
      · simp only [handleDb, heq, deletedTenant] at h
        cases h
      · simp only [handleDb, heq, deletedTenant, Option.some.injEq] at h
        subst h
        refine ⟨?_, ?_⟩
        · by_contra hnone
          rw [Database.HasTenant, Option.not_isSome_iff_eq_none] at hnone
          simp only [Database.deleteTenant, hnone] at heq
          cases heq
        · simp only [handleDb, heq, hkeep, Table.get_keep]
          cases db.tenants.get j <;> simp [Option.filter_some]
  | _ => cases h

section Reachable

variable {ι : Type} [DecidableEq ι] {cfg : Settings} {adminSecretKey : String}
  {requests : ι → Request} {cluster : Cluster} {env : World → World → Prop}
  {c : Config ι Call Call.Result PyException World}

/-- What is deleted had been created, and is not there. -/
def Removals (t : Trail ι Call Call.Result World) : Prop :=
  ∀ ev ∈ t.events, ∀ n, deletedTenant ev.toExchange = some n →
    (∃ ev' ∈ t.events, createdTenant ev'.toExchange = some n) ∧ t.state.db.tenants.get n = none

theorem removals_reach (henv : KeepsDatabase env)
    (hc : Reach (platform env) (platformStart cfg adminSecretKey requests cluster) c) :
    Removals c.trail := by
  refine Reach.inv (B := fun t => (∀ i, creating.Legal (own i t.events)) ∧ Creations t)
    (fun _ hc => ⟨platform_creates henv hc, creations_reach henv hc⟩) ?_ ?_ ?_ hc
  · exact fun _ hev => by cases hev
  · rintro t i e r s ⟨-, hcreations⟩ ⟨hlegal, -⟩ h hact ev hev n hn
    rcases List.mem_cons.mp hev with rfl | hev
    · obtain ⟨o, ho⟩ := hact
      cases e with
      | k8s e => cases hn
      | sys e => cases hn
      | db e =>
          obtain ⟨rfl, rfl⟩ := Prod.mk.inj ho
          obtain ⟨hthere, hnone⟩ := deleted_of_statement hn
          obtain ⟨tenant, htenant⟩ := Option.isSome_iff_exists.mp hthere
          obtain ⟨ev', hev', hcreated⟩ := hcreations.covered n tenant htenant
          exact ⟨⟨ev', List.mem_cons_of_mem _ hev', hcreated⟩, hnone⟩
    · obtain ⟨⟨ev', hev', hcreated⟩, hnone⟩ := h ev hev n hn
      refine ⟨⟨ev', List.mem_cons_of_mem _ hev', hcreated⟩, ?_⟩
      -- Its id is not committed twice, so what is there now was there before.
      cases ha : s.db.tenants.get n with
      | none => exact ha
      | some a' =>
          obtain ⟨a, ha, -⟩ := (tenantsPersist_act hlegal hcreations hact).rows ev' hev' n
            hcreated a' ha
          rw [hnone] at ha
          cases ha
  · intro t s _ h hs ev hev n hn
    rw [henv _ _ hs]
    exact h ev hev n hn

/-- Once a tenant has been deleted, no state of the run has its row again, nor a key, build,
deployment, registration or delivery of it, whatever was under way then or is asked for later. -/
theorem deleted_tenant_stays_deleted (henv : KeepsDatabase env)
    (hc : Reach (platform env) (platformStart cfg adminSecretKey requests cluster) c)
    {ev : Event ι Call Call.Result World} (hev : ev ∈ c.trail.events) {n : ℕ}
    (hn : deletedTenant ev.toExchange = some n) : c.trail.state.db.Without n :=
  (platform_rowsConstrained henv hc).without (removals_reach henv hc ev hev n hn).2

end Reachable

/-- A tenant is deleted while its build is polled. -/
def farewellRequests : ℕ → Request
  | 2 => .admin "admin" (.deleteTenant 1)
  | i => sampleRequests i

def farewellRun : Config ℕ Call Call.Result PyException World :=
  drive handle (buildSchedule ++ [(2, .ok)] ++ List.replicate 4 (1, .ok))
    (platformStart sampleSettings "admin" farewellRequests .empty)

/-- The poller of a deleted tenant's build goes on. -/
theorem deleted_tenant_stays_deleted_polled : farewellRun.trail.state.db.Without 1 := by
  have hrun : farewellRun.trail.events.any
      (fun ev => ev.actor = 2 ∧ deletedTenant ev.toExchange = some 1) = true := by decide +kernel
  have hreach : Reach (platform anyCluster)
      (platformStart sampleSettings "admin" farewellRequests .empty) farewellRun :=
    Reach.drive _ .init
  generalize farewellRun = c at hrun hreach
  obtain ⟨ev, hev, hn⟩ := List.any_eq_true.mp hrun
  exact deleted_tenant_stays_deleted anyCluster_keepsDatabase hreach hev (of_decide_eq_true hn).2

end TenantPlatform
