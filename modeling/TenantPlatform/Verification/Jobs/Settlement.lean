import TenantPlatform.Verification.Jobs.Platform

/-! # When a poller settles its job

A poller that ends leaves its row in a terminal status, unless one of its status reads
raised: only a 404 is handled there, and nothing above catches the rest. -/

namespace TenantPlatform

open Effect

variable {ι : Type} [DecidableEq ι]

/-! ## Rows that are gone stay gone -/

/-- The row of the job does not exist. -/
def Database.Gone (db : Database) : Job → Prop
  | .build id => db.buildJobs.get id = none
  | .deployment id => db.deployments.get id = none

/-- The row of the job, if there is one, says that the job is over. -/
def Database.Settled (db : Database) : Job → Prop
  | .build id => ∀ row, row ∈ db.buildJobs.get id → row.settled
  | .deployment id => ∀ row, row ∈ db.deployments.get id → row.settled

instance (db : Database) : (j : Job) → Decidable (db.Settled j)
  | .build id => inferInstanceAs (Decidable (∀ row, row ∈ db.buildJobs.get id → row.settled))
  | .deployment id => inferInstanceAs (Decidable (∀ row, row ∈ db.deployments.get id → row.settled))

/-- The row of the job says that a poller is to settle it. -/
def Database.Active (db : Database) : Job → Prop
  | .build id => ∃ row, db.buildJobs.get id = some row ∧ row.active
  | .deployment id => ∃ row, db.deployments.get id = some row ∧ row.active

/-- The row existed once and is gone. -/
def Database.Absent (db : Database) : Job → Prop
  | .build id => db.buildJobs.get id = none ∧ id < db.buildJobs.next
  | .deployment id => db.deployments.get id = none ∧ id < db.deployments.next

theorem Database.Absent.gone {db : Database} {j : Job} (h : db.Absent j) : db.Gone j := by
  cases j with
  | build id => exact h.1
  | deployment id => exact h.1

theorem absent_of_shrinks {α : Type} {t t' : Table α} (h : t.Shrinks t') {id : ℕ}
    (hid : t.get id = none ∧ id < t.next) : t'.get id = none ∧ id < t'.next := by
  refine ⟨?_, Nat.lt_of_lt_of_le hid.2 h.next_le⟩
  rcases h.get_eq id with heq | hnone
  · rw [heq, hid.1]
  · exact hnone

theorem absent_of_writes {α : Type} {t t' : Table α} {k : ℕ} {a : α} (h : t.Writes t' k a) {id : ℕ}
    (hid : t.get id = none ∧ id < t.next) (hk : t.next ≤ k ∨ ∃ b, t.get k = some b) :
    t'.get id = none ∧ id < t'.next := by
  refine ⟨?_, Nat.lt_of_lt_of_le hid.2 h.next_le⟩
  have hne : id ≠ k := by
    rintro rfl
    rcases hk with hk | ⟨b, hb⟩
    · omega
    · rw [hid.1] at hb
      cases hb
  rw [h.get_eq, if_neg hne, hid.1]

/-- No statement brings a row back. -/
theorem absent_handleDb {want now : ℕ} {e : DbCall} {db : Database} {j : Job} (h : db.Absent j) :
    (handleDb want now e db).2.Absent j := by
  generalize hr : (handleDb want now e db).1 = r
  cases j with
  | build id =>
      cases hw : e.writtenBuild r with
      | none => exact absent_of_shrinks (buildJobs_shrinks (hr ▸ hw)) h
      | some written =>
          cases e with
          | insertBuildJob tenantId gitUrl gitRevision gitSubPath status =>
              rcases r with x | ⟨k, row⟩
              · cases hw
              · have hok := Database.insertBuildJob_ok (Prod.ext hr rfl)
                exact absent_of_writes hok.2.1 h (.inl hok.1)
          | commitBuildJob k changes =>
              cases r with
              | error x => cases hw
              | ok row =>
                  have hok := Database.commitBuildJob_ok (Prod.ext hr rfl)
                  exact absent_of_writes hok.1 h (.inr (hok.2.imp (fun _ h => h.1)))
          | _ => cases hw
  | deployment id =>
      cases hw : e.writtenDeployment r with
      | none => exact absent_of_shrinks (deployments_shrinks (hr ▸ hw)) h
      | some written =>
          cases e with
          | insertDeployment tenantId buildJobId name status replicaCount =>
              rcases r with x | ⟨k, row⟩
              · cases hw
              · have hok := Database.insertDeployment_ok (Prod.ext hr rfl)
                exact absent_of_writes hok.2.1 h (.inl hok.1)
          | commitDeployment k status =>
              cases r with
              | error x => cases hw
              | ok row =>
                  have hok := Database.commitDeployment_ok (Prod.ext hr rfl)
                  exact absent_of_writes hok.1 h (.inr (hok.2.imp (fun _ h => h.1)))
          | _ => cases hw

theorem absent_handle {e : Call} {o : Outcome} {w : World} {j : Job} (h : w.db.Absent j) :
    (handle e o w).2.db.Absent j := by
  cases e with
  | db e => exact absent_handleDb h
  | k8s e => exact h
  | sys e => exact h

theorem lookupInt_none {α : Type} {table : Table α} {id : ℕ}
    (h : lookupInt table id = .ok none) : table.get id = none := by
  unfold lookupInt at h
  split at h
  · simpa using Except.ok.inj h
  · cases h

theorem missing_build {id : ℕ} {x : Exchange Call Call.Result} (h : missing (.build id) x = true) :
    x = ⟨.db (.getBuildJob id), .ok none⟩ := by
  obtain ⟨e, r⟩ := x
  rcases e with e | e | e
  · cases e with
    | getBuildJob key =>
        rcases r with e | _ | row
        · cases h
        · obtain rfl : key = id := by simpa [missing] using h
          rfl
        · cases h
    | _ => cases h
  · cases h
  · cases h

theorem missing_deployment {id : ℕ} {x : Exchange Call Call.Result}
    (h : missing (.deployment id) x = true) : x = ⟨.db (.getDeployment id), none⟩ := by
  obtain ⟨e, r⟩ := x
  rcases e with e | e | e
  · cases e with
    | getDeployment key =>
        rcases r with _ | row
        · obtain rfl : key = id := by simpa [missing] using h
          rfl
        · cases h
    | _ => cases h
  · cases h
  · cases h

/-- A lookup of an own row that finds nothing shows that the row is gone. -/
theorem absent_of_missing {t : Trail ι Call Call.Result World} (h : Consistent t) {i : ι} {e : Call}
    {o : Outcome} {j : Job} (hm : missing j ⟨e, (handle e o t.state).1⟩ = true)
    (hown : Owned j (own i t.events)) : t.state.db.Absent j := by
  cases j with
  | build id =>
      obtain ⟨row, hrow⟩ := Option.isSome_iff_exists.mp hown
      refine ⟨?_, h.builds.below i id row hrow⟩
      have hx := missing_build hm
      obtain rfl : e = .db (.getBuildJob id) := congrArg Exchange.call hx
      have hr := eq_of_heq (Exchange.mk.inj hx).2
      simp only [handle, handleDb] at hr
      exact lookupInt_none hr
  | deployment id =>
      obtain ⟨row, hrow⟩ := Option.isSome_iff_exists.mp hown
      refine ⟨?_, h.deployments.below i id row hrow⟩
      have hx := missing_deployment hm
      obtain rfl : e = .db (.getDeployment id) := congrArg Exchange.call hx
      exact eq_of_heq (Exchange.mk.inj hx).2

section Reachable

variable {cfg : Settings} {adminSecretKey : String} {requests : ι → Request} {cluster : Cluster}
  {env : World → World → Prop} {c : Config ι Call Call.Result PyException World}

theorem foundGone_absent (henv : KeepsDatabase env)
    (hc : Reach (platform env) (platformStart cfg adminSecretKey requests cluster) c) :
    ∀ i j, FoundGone j (own i c.trail.events) → c.trail.state.db.Absent j := by
  refine Reach.inv (B := Sound) (P := fun t => ∀ i j, FoundGone j (own i t.events) →
    t.state.db.Absent j) (fun c hc => platform_sound henv hc) (fun _ _ h => h.elim) ?_ ?_ hc
  · rintro t i e r s hsound - hP ⟨o, ho⟩ k j hgone
    obtain ⟨rfl, rfl⟩ := Prod.mk.inj ho
    refine absent_handle ?_
    by_cases hk : k = i
    · subst hk
      rw [own_push_self] at hgone
      rcases hgone with ⟨hm, hown⟩ | hgone
      · exact absent_of_missing hsound.consistent hm hown
      · exact hP k j hgone
    · rw [own_push_of_ne hk] at hgone
      exact hP k j hgone
  · intro t s _ hP hs i j hgone
    rw [henv _ _ hs]
    exact hP i j hgone

/-! ## What the database holds of a finished job -/

theorem settled_of_leftSettled (h : Consistent c.trail) {i : ι} {j : Job}
    (hj : LeftSettled j (own i c.trail.events)) : c.trail.state.db.Settled j := by
  cases j with
  | build id =>
      obtain ⟨row, hlast, hrow⟩ := hj
      intro row' hget
      rw [h.builds.found hget i row hlast]
      exact hrow
  | deployment id =>
      obtain ⟨row, hlast, hrow⟩ := hj
      intro row' hget
      rw [h.deployments.found hget i row hlast]
      exact hrow

theorem BuildJob.not_settled_of_active {row : BuildJob} (h : row.active) : ¬ row.settled := by
  intro hs
  have hs := hs.1
  rw [show row.status = .building from h] at hs
  cases hs

theorem Deployment.not_settled_of_active {row : Deployment} (h : row.active) : ¬ row.settled := by
  intro hs
  have hs : row.status.terminal = true := hs
  rw [show row.status = .deploying from h] at hs
  cases hs

/-- A row left active is active as long as it exists. -/
theorem gone_of_leftActive (h : Consistent c.trail) {i : ι} {j : Job}
    (hj : LeftActive j (own i c.trail.events)) (hs : c.trail.state.db.Settled j) :
    c.trail.state.db.Gone j := by
  cases j with
  | build id =>
      obtain ⟨row, hlast, hrow⟩ := hj
      rcases h.builds.agrees i id row hlast with hnone | hsome
      · exact hnone
      · exact absurd (hs row hsome) (BuildJob.not_settled_of_active hrow)
  | deployment id =>
      obtain ⟨row, hlast, hrow⟩ := hj
      rcases h.deployments.agrees i id row hlast with hnone | hsome
      · exact hnone
      · exact absurd (hs row hsome) (Deployment.not_settled_of_active hrow)

theorem Database.Gone.settled {db : Database} {j : Job} (h : db.Gone j) : db.Settled j := by
  cases j with
  | build id =>
      intro row hrow
      rw [show db.buildJobs.get id = none from h] at hrow
      cases hrow
  | deployment id =>
      intro row hrow
      rw [show db.deployments.get id = none from h] at hrow
      cases hrow

theorem Owned.cons {j : Job} {τ : History} (h : Owned j τ) (x : Exchange Call Call.Result) :
    Owned j (x :: τ) := by
  cases j with
  | build id =>
      cases hw : writtenBuild x with
      | none => simpa only [Owned, lastBuild, lastRow_cons_none hw] using h
      | some r =>
          simp only [Owned, lastBuild, lastRow_cons_some (j := r.1) (a := r.2) hw]
          split
          · rfl
          · exact h
  | deployment id =>
      cases hw : writtenDeployment x with
      | none => simpa only [Owned, lastDeployment, lastRow_cons_none hw] using h
      | some r =>
          simp only [Owned, lastDeployment, lastRow_cons_some (j := r.1) (a := r.2) hw]
          split
          · rfl
          · exact h

/-- A poller is only entered for a job of its own request. -/
theorem owned_of_scheduled {j : Job} {τ : History} (h : requestDiscipline.Legal τ)
    (hj : ∃ x ∈ τ, scheduled j x = true) : Owned j τ := by
  induction τ with
  | nil =>
      obtain ⟨x, hx, -⟩ := hj
      cases hx
  | cons y past ih =>
      obtain ⟨x, hx, hsched⟩ := hj
      rcases List.mem_cons.mp hx with rfl | hx
      · refine Owned.cons ?_ _
        obtain ⟨hmay, -, -⟩ := h
        unfold scheduled at hsched
        split at hsched
        · obtain rfl := of_decide_eq_true hsched
          obtain ⟨row, hlast, -⟩ := hmay
          simp [Owned, hlast]
        · obtain rfl := of_decide_eq_true hsched
          obtain ⟨row, hlast, -⟩ := hmay
          simp [Owned, hlast]
        · cases hsched
      · exact (ih h.2.2 ⟨x, hx, hsched⟩).cons y

theorem exists_owner (h : Consistent c.trail) {j : Job} (hj : c.trail.state.db.Active j) :
    ∃ i, LeftActive j (own i c.trail.events) := by
  cases j with
  | build id =>
      obtain ⟨row, hget, hrow⟩ := hj
      obtain ⟨i, hi⟩ := h.builds.covered id row hget
      exact ⟨i, row, hi, hrow⟩
  | deployment id =>
      obtain ⟨row, hget, hrow⟩ := hj
      obtain ⟨i, hi⟩ := h.deployments.covered id row hget
      exact ⟨i, row, hi, hrow⟩

theorem LeftActive.owned {j : Job} {τ : History} (h : LeftActive j τ) : Owned j τ := by
  cases j with
  | build id =>
      obtain ⟨row, hlast, -⟩ := h
      simp [Owned, hlast]
  | deployment id =>
      obtain ⟨row, hlast, -⟩ := h
      simp [Owned, hlast]

/-- How the run of a request ended for its job, when all its statements went through. -/
theorem ending_of_ended (henv : KeepsDatabase env)
    (hc : Reach (platform env) (platformStart cfg adminSecretKey requests cluster) c) {i : ι}
    {j : Job} (hi : c.Ended i) (hdb : ∀ x ∈ own i c.trail.events, statementFailed x = false)
    (hown : Owned j (own i c.trail.events)) : Ending j (own i c.trail.events) := by
  rcases platform_finished henv hc hi with ⟨x, hx, hfailed⟩ | hfin
  · rw [hdb x hx] at hfailed
    cases hfailed
  · exact hfin j hown

/-- A poller that ended has settled its job, unless the row is gone, exactly when none of
its status reads raised. So a row is left active without anybody at work on it only after
such a read. -/
theorem settled_iff_no_read_raised (henv : KeepsDatabase env)
    (hc : Reach (platform env) (platformStart cfg adminSecretKey requests cluster) c) :
    (∀ i j, (∃ x ∈ own i c.trail.events, scheduled j x = true) → c.Ended i →
      (∀ x ∈ own i c.trail.events, statementFailed x = false) →
      (c.trail.state.db.Settled j ↔ c.trail.state.db.Gone j ∨
        ∀ x ∈ own i c.trail.events, statusReadRaised x = false)) ∧
    ∀ j, c.trail.state.db.Active j → ∃ i, Owned j (own i c.trail.events) ∧
      ((∀ x ∈ own i c.trail.events, statementFailed x = false) →
        (∀ x ∈ own i c.trail.events, statusReadRaised x = false) → ¬ c.Ended i) := by
  have hsound := platform_sound henv hc
  constructor
  · intro i j hsched hi hdb
    have hown := owned_of_scheduled (hsound.legal i) hsched
    constructor
    · intro hs
      cases ending_of_ended henv hc hi hdb hown with
      | unannounced a _ _ _ hunraised _ => exact .inr hunraised
      | raised _ hrow _ => exact .inl (gone_of_leftActive hsound.consistent hrow hs)
      | gone _ hunraised _ => exact .inr hunraised
      | announced a _ _ _ hunraised => exact .inr hunraised
    · rintro (hgone | hunraised)
      · exact hgone.settled
      · cases ending_of_ended henv hc hi hdb hown with
        | unannounced a _ hrow => exact settled_of_leftSettled hsound.consistent hrow
        | raised _ _ hraised =>
            obtain ⟨x, hx, hraised⟩ := hraised
            rw [hunraised x hx] at hraised
            cases hraised
        | gone _ _ hgone => exact (foundGone_absent henv hc i j hgone).gone.settled
        | announced a _ hrow => exact settled_of_leftSettled hsound.consistent hrow
  · intro j hj
    obtain ⟨i, hleft⟩ := exists_owner hsound.consistent hj
    refine ⟨i, hleft.owned, ?_⟩
    intro hdb hunraised hi
    have hsettled : c.trail.state.db.Settled j := by
      cases ending_of_ended henv hc hi hdb hleft.owned with
      | unannounced a _ hrow => exact settled_of_leftSettled hsound.consistent hrow
      | raised _ _ hraised =>
          obtain ⟨x, hx, hraised⟩ := hraised
          rw [hunraised x hx] at hraised
          cases hraised
      | gone _ _ hgone => exact (foundGone_absent henv hc i j hgone).gone.settled
      | announced a _ hrow => exact settled_of_leftSettled hsound.consistent hrow
    have hgone := gone_of_leftActive hsound.consistent hleft hsettled
    cases j with
    | build id =>
        obtain ⟨row, hget, -⟩ := hj
        rw [show c.trail.state.db.buildJobs.get id = none from hgone] at hget
        cases hget
    | deployment id =>
        obtain ⟨row, hget, -⟩ := hj
        rw [show c.trail.state.db.deployments.get id = none from hgone] at hget
        cases hget

end Reachable

/-! ## Two runs of a build -/

def sampleBuild : BuildJobCreate where
  gitUrl := "https://git.example/app"
  gitUrlLength := by decide
  gitRevisionLength := by decide
  gitSubPathLength := by simp

/-- A tenant is created, and builds and deploys twice. -/
def sampleRequests : ℕ → Request
  | 0 => .admin "admin" (.createTenant (.ok ⟨"acme", by decide⟩))
  | 1 | 3 => .tenant 1 sampleKey (.createBuildJob (.ok sampleBuild))
  | 2 => .tenant 1 sampleKey
      (.createDeployment (.ok { buildJobId := 1, replicaCountRange := by decide }))
  | 4 => .tenant 1 sampleKey
      (.createDeployment (.ok { buildJobId := 2, replicaCountRange := by decide }))
  | _ => .admin "admin" .getAllTenants

/-- The calls of a tenant's creation, and those of a build request up to the first status
read of its poller. -/
def buildSchedule : List (ℕ × Outcome) :=
  [(0, .ok), (0, { token := "AAAAAAAAAAAAAAAAAAAAAAAAAAAAAAAAAAAAAAAAAAA" }), (0, .ok)] ++
    List.replicate 15 (1, .ok)

/-- The other actors may do anything to the cluster. -/
def anyCluster (w w' : World) : Prop := w'.db = w.db

theorem anyCluster_keepsDatabase : KeepsDatabase anyCluster := fun _ _ h => h

/-- kpack reports every Image as built. -/
def builtCluster (c : Cluster) : Cluster :=
  { c with
    imageStatus := fun _ name =>
      some ⟨some [⟨some "Ready", some "True", none⟩],
        some ("registry.example/tenants@sha256:" ++ name)⟩ }

def polledRun : Config ℕ Call Call.Result PyException World :=
  drive handle buildSchedule (platformStart sampleSettings "admin" sampleRequests .empty)

/-- A build that succeeds: kpack is done before the first read. -/
def builtRun : Config ℕ Call Call.Result PyException World :=
  drive handle (List.replicate 6 (1, .ok)) ⟨polledRun.pool,
    { polledRun.trail.state with cluster := builtCluster polledRun.trail.state.cluster },
    polledRun.trail.events⟩

theorem builtRun_reach :
    Reach (platform anyCluster) (platformStart sampleSettings "admin" sampleRequests .empty)
      builtRun :=
  Reach.drive _ ((Reach.drive buildSchedule .init).step (.env rfl))

theorem builtRun_ended : builtRun.Ended 1 ∧ Owned (.build 1) (own 1 builtRun.trail.events) ∧
    (∃ x ∈ own 1 builtRun.trail.events, scheduled (.build 1) x = true) ∧
    (∃ x ∈ own 1 builtRun.trail.events, decisive x = true) ∧
    (∀ x ∈ own 1 builtRun.trail.events, statementFailed x = false) ∧
    ∀ x ∈ own 1 builtRun.trail.events, statusReadRaised x = false := by
  decide +kernel

theorem settled_iff_no_read_raised_built : builtRun.trail.state.db.Settled (.build 1) := by
  obtain ⟨hended, -, hscheduled, -, hdb, hread⟩ := builtRun_ended
  exact ((settled_iff_no_read_raised anyCluster_keepsDatabase builtRun_reach).1 1 (.build 1)
    hscheduled hended hdb).mpr (.inr hread)

def serverError : Fault := ⟨.api ⟨500, "(500)\nReason: Internal Server Error\n"⟩, false⟩

def failedReadRun : Config ℕ Call Call.Result PyException World :=
  drive handle [(1, { fault := some serverError })] polledRun

/-- One failed read, and the poller is gone while its build job says `building`. -/
theorem failed_read_leaves_building :
    ∃ c, Reach (platform (fun _ _ => False))
        (platformStart sampleSettings "admin" sampleRequests .empty) c ∧
      (∃ x ∈ own 1 c.trail.events, scheduled (.build 1) x = true) ∧ c.Ended 1 ∧
      (∀ x ∈ own 1 c.trail.events, statementFailed x = false) ∧
      ¬ c.trail.state.db.Settled (.build 1) := by
  refine ⟨failedReadRun, Reach.drive _ (Reach.drive _ .init), ?_⟩
  decide +kernel

end TenantPlatform
