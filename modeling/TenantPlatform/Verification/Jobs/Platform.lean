import TenantPlatform.Verification.Jobs.Requests
import TenantPlatform.Verification.Jobs.Tables

/-! # The platform: any requests, interleaved call by call

The rows of jobs are a ledger: each belongs to the request that inserted it. From this
every request is answered as it expects, so the discipline holds on every run. -/

namespace TenantPlatform

open Effect

variable {ι : Type} [DecidableEq ι]

/-- What the tables say agrees with what the requests last wrote. -/
structure Consistent (t : Trail ι Call Call.Result World) : Prop where
  tenants : NamesNamespaces t.state.db
  builds : Ledger (fun i => lastBuild (own i t.events)) t.state.db.buildJobs
  deployments : Ledger (fun i => lastDeployment (own i t.events)) t.state.db.deployments

/-- The other actors leave the database alone. -/
def KeepsDatabase (env : World → World → Prop) : Prop := ∀ w w', env w w' → w'.db = w.db

section Push

variable {t : Trail ι Call Call.Result World} {i : ι} {e : Call} {r : Call.Result e} {s : World}

theorem own_push_self : own i (t.push i e r s).events = ⟨e, r⟩ :: own i t.events :=
  own_cons_self (t.event i e r s) t.events

theorem own_push_of_ne {j : ι} (h : j ≠ i) :
    own j (t.push i e r s).events = own j t.events :=
  own_cons_of_ne (x := t.event i e r s) (Ne.symm h) t.events

theorem mem_own_push {j : ι} {x : Exchange Call Call.Result}
    (h : x ∈ own j (t.push i e r s).events) : x ∈ own j t.events ∨ (j = i ∧ x = ⟨e, r⟩) := by
  by_cases hj : j = i
  · subst hj
    rw [own_push_self] at h
    rcases List.mem_cons.mp h with rfl | h
    · exact .inr ⟨rfl, rfl⟩
    · exact .inl h
  · rw [own_push_of_ne hj] at h
    exact .inl h

theorem lastRow_push_none {α : Type} {f : Exchange Call Call.Result → Option (ℕ × α)}
    (h : f ⟨e, r⟩ = none) (j : ι) :
    lastRow f (own j (t.push i e r s).events) = lastRow f (own j t.events) := by
  funext id
  by_cases hj : j = i
  · subst hj
    rw [own_push_self, lastRow_cons_none h]
  · rw [own_push_of_ne hj]

theorem lastRow_push_some {α : Type} {f : Exchange Call Call.Result → Option (ℕ × α)}
    {id : ℕ} {a : α} (h : f ⟨e, r⟩ = some (id, a)) (j : ι) (k : ℕ) :
    lastRow f (own j (t.push i e r s).events) k =
      if j = i ∧ k = id then some a else lastRow f (own j t.events) k := by
  by_cases hj : j = i
  · subst hj
    rw [own_push_self, lastRow_cons_some h]
    simp
  · rw [own_push_of_ne hj]
    simp [hj]

end Push

section Act

variable {t : Trail ι Call Call.Result World} {i : ι} {want now : ℕ} {e : DbCall}

theorem lookupInt_ok {α : Type} {table : Table α} {key : ℤ} {id : ℕ} {a : α}
    (h : lookupInt table key = .ok (some (id, a))) : key = id ∧ table.get id = some a := by
  unfold lookupInt at h
  split at h
  · have h := Except.ok.inj h
    split at h
    · rename_i hpos
      obtain ⟨b, hb, heq⟩ := Option.map_eq_some_iff.mp h
      cases heq
      exact ⟨(Int.toNat_of_nonneg hpos).symm, hb⟩
    · cases h
  · cases h

theorem expectsDb_of_consistent (h : Consistent t) :
    expectsDb (own i t.events) e (handleDb want now e t.state.db).1 := by
  generalize hr : (handleDb want now e t.state.db).1 = r
  cases e with
  | getTenant id =>
      cases r with
      | none => trivial
      | some tenant => exact h.tenants id tenant hr
  | insertBuildJob tenantId gitUrl gitRevision gitSubPath status =>
      rcases r with e | ⟨id, row⟩
      · trivial
      · have hok := Database.insertBuildJob_ok (Prod.ext hr rfl)
        exact ⟨h.builds.fresh hok.1 i, now, hok.2.2⟩
  | commitBuildJob id changes =>
      cases r with
      | error e => trivial
      | ok row =>
          obtain ⟨-, old, hold, hrow⟩ := Database.commitBuildJob_ok (Prod.ext hr rfl)
          intro old' hold'
          rw [hrow, h.builds.found hold i old' hold']
  | getBuildJob key =>
      rcases r with e | _ | ⟨id, row⟩
      · trivial
      · trivial
      · obtain ⟨hkey, hget⟩ := lookupInt_ok hr
        exact ⟨hkey, h.builds.found hget i⟩
  | insertDeployment tenantId buildJobId name status replicaCount =>
      rcases r with e | ⟨id, row⟩
      · trivial
      · have hok := Database.insertDeployment_ok (Prod.ext hr rfl)
        exact ⟨h.deployments.fresh hok.1 i, now, hok.2.2⟩
  | commitDeployment id status =>
      cases r with
      | error e => trivial
      | ok row =>
          obtain ⟨-, old, hold, hrow⟩ := Database.commitDeployment_ok (Prod.ext hr rfl)
          intro old' hold'
          exact ⟨now, by rw [hrow, h.deployments.found hold i old' hold']⟩
  | getDeployment id =>
      cases r with
      | none => trivial
      | some row => exact h.deployments.found hr i
  | _ => trivial

theorem builds_act (h : Consistent t) (hmay : mayDb (own i t.events) e) {s : World}
    (hs : s.db = (handleDb want now e t.state.db).2) :
    Ledger (fun j =>
      lastBuild (own j (t.push i (.db e) (handleDb want now e t.state.db).1 s).events))
      s.db.buildJobs := by
  cases hw : e.writtenBuild (handleDb want now e t.state.db).1 with
  | none =>
      have hlast := lastRow_push_none (t := t) (i := i) (s := s) (f := writtenBuild)
        (e := .db e) (r := (handleDb want now e t.state.db).1) hw
      simp only [lastBuild, hlast, hs]
      exact h.builds.shrink (buildJobs_shrinks hw)
  | some written =>
      obtain ⟨id, row⟩ := written
      have hlast := lastRow_push_some (t := t) (i := i) (s := s) (f := writtenBuild)
        (e := .db e) (r := (handleDb want now e t.state.db).1) hw
      generalize hr : (handleDb want now e t.state.db).1 = r at hw hlast
      rw [hs]
      cases e with
      | insertBuildJob tenantId gitUrl gitRevision gitSubPath status =>
          rcases r with x | ⟨id', row'⟩
          · cases hw
          · cases hw
            have hok := Database.insertBuildJob_ok (Prod.ext hr rfl)
            exact h.builds.write hok.2.1 (h.builds.owner_of_fresh hok.1 i) hlast
      | commitBuildJob id' changes =>
          cases r with
          | error x => cases hw
          | ok row' =>
              cases hw
              have hok := Database.commitBuildJob_ok (Prod.ext hr rfl)
              obtain ⟨mine, hmine, -⟩ := hmay
              exact h.builds.write hok.1 (fun j b hb => h.builds.sole j i _ b mine hb hmine) hlast
      | _ => cases hw

theorem deployments_act (h : Consistent t) (hmay : mayDb (own i t.events) e) {s : World}
    (hs : s.db = (handleDb want now e t.state.db).2) :
    Ledger (fun j => lastDeployment
        (own j (t.push i (.db e) (handleDb want now e t.state.db).1 s).events))
      s.db.deployments := by
  cases hw : e.writtenDeployment (handleDb want now e t.state.db).1 with
  | none =>
      have hlast := lastRow_push_none (t := t) (i := i) (s := s) (f := writtenDeployment)
        (e := .db e) (r := (handleDb want now e t.state.db).1) hw
      simp only [lastDeployment, hlast, hs]
      exact h.deployments.shrink (deployments_shrinks hw)
  | some written =>
      obtain ⟨id, row⟩ := written
      have hlast := lastRow_push_some (t := t) (i := i) (s := s) (f := writtenDeployment)
        (e := .db e) (r := (handleDb want now e t.state.db).1) hw
      generalize hr : (handleDb want now e t.state.db).1 = r at hw hlast
      rw [hs]
      cases e with
      | insertDeployment tenantId buildJobId name status replicaCount =>
          rcases r with x | ⟨id', row'⟩
          · cases hw
          · cases hw
            have hok := Database.insertDeployment_ok (Prod.ext hr rfl)
            exact h.deployments.write hok.2.1 (h.deployments.owner_of_fresh hok.1 i) hlast
      | commitDeployment id' status =>
          cases r with
          | error x => cases hw
          | ok row' =>
              cases hw
              have hok := Database.commitDeployment_ok (Prod.ext hr rfl)
              obtain ⟨mine, hmine, -⟩ := hmay
              exact h.deployments.write hok.1
                (fun j b hb => h.deployments.sole j i _ b mine hb hmine) hlast
      | _ => cases hw

end Act

/-- A call that is no statement. -/
theorem Consistent.push {t : Trail ι Call Call.Result World} {i : ι} {e : Call}
    {r : Call.Result e} {s : World} (h : Consistent t) (hdb : s.db = t.state.db)
    (hb : writtenBuild ⟨e, r⟩ = none) (hd : writtenDeployment ⟨e, r⟩ = none) :
    Consistent (t.push i e r s) := by
  have hbuilds := lastRow_push_none (t := t) (i := i) (s := s) hb
  have hdeployments := lastRow_push_none (t := t) (i := i) (s := s) hd
  refine ⟨?_, ?_, ?_⟩
  · rw [Trail.push_state, hdb]
    exact h.tenants
  · simp only [lastBuild, hbuilds, Trail.push_state, hdb]
    exact h.builds
  · simp only [lastDeployment, hdeployments, Trail.push_state, hdb]
    exact h.deployments

/-- One call of a disciplined request keeps the tables consistent, and is answered as the
request expects. -/
theorem consistent_act {env : World → World → Prop} (t : Trail ι Call Call.Result World) (i : ι)
    (e : Call) (r : Call.Result e) (s : World) (h : Consistent t)
    (hmay : mayCall (own i t.events) e) (hact : (platform env).act e t.state r s) :
    expectsAnswer (own i t.events) ⟨e, r⟩ ∧ Consistent (t.push i e r s) := by
  obtain ⟨o, ho⟩ := hact
  cases e with
  | db e =>
      obtain ⟨rfl, rfl⟩ := Prod.mk.inj ho
      exact ⟨expectsDb_of_consistent h, namesNamespaces_step h.tenants hmay,
        builds_act h hmay rfl, deployments_act h hmay rfl⟩
  | k8s e =>
      obtain ⟨rfl, rfl⟩ := Prod.mk.inj ho
      exact ⟨trivial, h.push rfl rfl rfl⟩
  | sys e =>
      obtain ⟨rfl, rfl⟩ := Prod.mk.inj ho
      exact ⟨trivial, h.push rfl rfl rfl⟩

/-! ## Reachable configurations -/

/-- The control plane with the requests `requests`, before any of them has begun, on an
empty database. -/
def platformStart (cfg : Settings) (adminSecretKey : String) (requests : ι → Request)
    (cluster : Cluster) : Config ι Call Call.Result PyException World :=
  .start (fun i => (requests i).thread cfg adminSecretKey) ⟨.empty, cluster⟩

/-- What is known of a run of the control plane at every moment. -/
structure Sound (t : Trail ι Call Call.Result World) : Prop where
  consistent : Consistent t
  legal : ∀ i, requestDiscipline.Legal (own i t.events)

section Reachable

variable {cfg : Settings} {adminSecretKey : String} {requests : ι → Request} {cluster : Cluster}
  {env : World → World → Prop} {c : Config ι Call Call.Result PyException World}

theorem platform_reach (henv : KeepsDatabase env)
    (hc : Reach (platform env) (platformStart cfg adminSecretKey requests cluster) c) :
    Consistent c.trail ∧ ∀ i, requestDiscipline.Legal (own i c.trail.events) ∧
      (c.pool i).Along requestDiscipline (fun _ => Finished) (fun _ => Finished)
        (own i c.trail.events) := by
  refine Reach.sound (P := Consistent) (fun i => (requests i).thread_along cfg adminSecretKey) ?_
    consistent_act ?_ hc
  · exact ⟨(fun _ _ h => nomatch h), Ledger.start, Ledger.start⟩
  · intro t s h hs
    have hdb := henv _ _ hs
    exact ⟨by rw [hdb]; exact h.tenants, by rw [hdb]; exact h.builds,
      by rw [hdb]; exact h.deployments⟩

theorem platform_sound (henv : KeepsDatabase env)
    (hc : Reach (platform env) (platformStart cfg adminSecretKey requests cluster) c) :
    Sound c.trail :=
  ⟨(platform_reach henv hc).1, fun i => ((platform_reach henv hc).2 i).1⟩

theorem platform_finished (henv : KeepsDatabase env)
    (hc : Reach (platform env) (platformStart cfg adminSecretKey requests cluster) c) {i : ι}
    (hi : c.Ended i) : Finished (own i c.trail.events) :=
  hi.fin ((platform_reach henv hc).2 i).2

end Reachable

end TenantPlatform
