import TenantPlatform.Verification.Jobs.Announcement
import TenantPlatform.Verification.Tenancy.Scope

/-! # The life of a build job

The rows committed for a build job follow one path of statuses, and the other columns say
what the status says. One value of theirs is taken over unchecked: the image of an Image
resource that is Ready. -/

namespace TenantPlatform

open Effect

/-! ## Paths and rows -/

/-- The statuses that may come after a status. -/
def BuildStatus.next : BuildStatus → List BuildStatus
  | .queued => [.building, .failed]
  | .building => [.succeeded, .failed]
  | .succeeded | .failed => []

/-- A history of statuses, the latest first, that began with `queued`. -/
def Lifecycle : List BuildStatus → Prop
  | [] => True
  | [s] => s = .queued
  | s :: s' :: past => s ∈ s'.next ∧ Lifecycle (s' :: past)

/-- The columns say what the status says. -/
structure BuildJob.Truthful (row : BuildJob) : Prop where
  imageTag : row.imageTag.isSome ↔ row.status = .succeeded
  errorMessage : row.errorMessage.isSome ↔ row.status = .failed
  endedAt : row.endedAt.isSome ↔ row.status.terminal
  started : row.status = .building ∨ row.status = .succeeded → row.startedAt.isSome
  unstarted : row.status = .queued → row.startedAt = none

/-- An Image was read that is Ready and names no image. -/
def readyWithoutImage : Exchange Call Call.Result → Bool
  | ⟨.k8s (.readImage ..), .ok image⟩ =>
      (buildReport image).ready = some true && (buildReport image).latestImage.isNone
  | _ => false

/-- The rows of the build job `id` that a history committed, the latest first. -/
def rowsOf (id : ℕ) (x : Exchange Call Call.Result) : Option BuildJob :=
  (writtenBuild x).bind (fun w => if w.1 = id then some w.2 else none)

theorem lastBuild_eq_head? (τ : History) (id : ℕ) :
    lastBuild τ id = (τ.filterMap (rowsOf id)).head? := by
  induction τ with
  | nil => rfl
  | cons x τ ih =>
      cases hw : writtenBuild x with
      | none =>
          rw [lastBuild, lastRow_cons_none hw, List.filterMap_cons_none (by simp [rowsOf, hw])]
          exact ih
      | some w =>
          rw [lastBuild, lastRow_cons_some (j := w.1) (a := w.2) hw]
          split
          · rename_i heq
            subst heq
            rw [List.filterMap_cons_some (b := w.2) (by simp [rowsOf, hw])]
            rfl
          · rename_i hne
            rw [List.filterMap_cons_none (by simp [rowsOf, hw, Ne.symm hne])]
            exact ih

/-! ## One request -/

section Request

variable {cfg : Settings} {request : Request} {τ : History} {x : Exchange Call Call.Result}
  {id : ℕ} {row : BuildJob}

/-- A row is inserted as it is asked for, and moves on from what it was. -/
theorem written_build_cases (h : (scopeDiscipline cfg request).Legal (x :: τ))
    (hw : writtenBuild x = some (id, row)) :
    (lastBuild τ id = none ∧ ∃ n url rev sub now,
      row = ⟨n, url, rev, sub, .queued, none, none, now, none, none⟩) ∨
    ∃ old changes, lastBuild τ id = some old ∧ Moves τ old changes ∧ row = changes.apply old := by
  obtain ⟨hmay, hexpects, -⟩ := h
  obtain ⟨e, r⟩ := x
  cases e with
  | k8s e => cases hw
  | sys e => cases hw
  | db e =>
      cases e with
      | insertBuildJob n url rev sub status =>
          rcases r with x | ⟨id', row'⟩
          · cases hw
          · cases hw
            cases request with
            | admin xAdminSecret r => exact hmay.elim
            | tenant t xApiKey r =>
                obtain ⟨rfl, rfl⟩ := hmay
                obtain ⟨hnone, now, hrow⟩ := hexpects
                exact .inl ⟨hnone, n, url, rev, sub, now, hrow⟩
      | commitBuildJob id' changes =>
          rcases r with x | row'
          · cases hw
          · cases hw
            cases request with
            | admin xAdminSecret r => exact hmay.elim
            | tenant t xApiKey r =>
                obtain ⟨old, hold, hmoves⟩ := hmay
                exact .inr ⟨old, changes, hold, hmoves, hexpects old hold⟩
      | _ => cases hw

/-- A step of the life cycle. -/
theorem Moves.next {old : BuildJob} {changes : BuildJobChanges} (h : Moves τ old changes) :
    changes.status ∈ old.status.next := by
  cases h with
  | started h now =>
      rw [h]
      exact List.mem_cons_self
  | failed h message now =>
      cases hs : old.status <;> simp [hs, BuildStatus.terminal, BuildStatus.next] at h ⊢
  | succeeded h hread hready now =>
      rw [h]
      exact List.mem_cons_self

theorem Moves.truthful {old : BuildJob} {changes : BuildJobChanges} (h : Moves τ old changes)
    (hold : old.Truthful) (hread : ∀ x ∈ τ, readyWithoutImage x = false) :
    (changes.apply old).Truthful := by
  have himage : old.status.terminal = false → old.imageTag = none := by
    intro hs
    have hnot := mt hold.imageTag.mp (fun heq => by rw [heq] at hs; cases hs)
    exact Option.not_isSome_iff_eq_none.mp hnot
  have herror : old.status.terminal = false → old.errorMessage = none := by
    intro hs
    have hnot := mt hold.errorMessage.mp (fun heq => by rw [heq] at hs; cases hs)
    exact Option.not_isSome_iff_eq_none.mp hnot
  have hended : old.status.terminal = false → old.endedAt = none := by
    intro hs
    have hnot := mt hold.endedAt.mp (fun heq => by rw [hs] at heq; cases heq)
    exact Option.not_isSome_iff_eq_none.mp hnot
  cases h with
  | started h now =>
      have hs : old.status.terminal = false := by rw [h]; rfl
      constructor <;>
        simp [BuildJobChanges.apply, himage hs, herror hs, hended hs, BuildStatus.terminal]
  | failed hs message now =>
      constructor <;> simp [BuildJobChanges.apply, himage hs, BuildStatus.terminal]
  | @succeeded h image hreadImage hready now =>
      have hs : old.status.terminal = false := by rw [h]; rfl
      obtain ⟨ns, name, hmem⟩ := hreadImage
      have hsome : (buildReport image).latestImage.isSome = true := by
        have hnot := hread _ hmem
        simpa [readyWithoutImage, hready] using hnot
      have hstarted := hold.started (.inl h)
      constructor <;>
        simp [BuildJobChanges.apply, herror hs, hsome, hstarted, BuildStatus.terminal]

/-- The rows that one request commits for a build job. -/
theorem rows_of_legal (h : (scopeDiscipline cfg request).Legal τ) (id : ℕ) :
    Lifecycle ((τ.filterMap (rowsOf id)).map BuildJob.status) ∧
      ((∀ x ∈ τ, readyWithoutImage x = false) →
        ∀ row ∈ τ.filterMap (rowsOf id), row.Truthful) := by
  induction τ with
  | nil => exact ⟨trivial, fun _ row hrow => by cases hrow⟩
  | cons x τ ih =>
      obtain ⟨hpath, hrows⟩ := ih h.2.2
      cases hw : rowsOf id x with
      | none =>
          rw [List.filterMap_cons_none hw]
          exact ⟨hpath, fun hread => hrows (fun y hy => hread y (List.mem_cons_of_mem x hy))⟩
      | some row =>
          have hwritten : writtenBuild x = some (id, row) := by
            cases hb : writtenBuild x with
            | none => simp [rowsOf, hb] at hw
            | some w =>
                simp only [rowsOf, hb, Option.bind_some, Option.ite_none_right_eq_some,
                  Option.some.injEq] at hw
                rw [← hw.1, ← hw.2]
          rw [List.filterMap_cons_some hw]
          rcases written_build_cases h hwritten with ⟨hnone, n, url, rev, sub, now, rfl⟩ |
              ⟨old, changes, hold, hmoves, rfl⟩
          · rw [lastBuild_eq_head?, List.head?_eq_none_iff] at hnone
            rw [hnone]
            refine ⟨rfl, fun _ row' hrow' => ?_⟩
            obtain rfl := List.mem_singleton.mp hrow'
            constructor <;> simp [BuildStatus.terminal]
          · rw [lastBuild_eq_head?] at hold
            obtain ⟨past, hpast⟩ := List.head?_eq_some_iff.mp hold
            rw [hpast] at hpath hrows ⊢
            refine ⟨⟨hmoves.next, hpath⟩, fun hread row' hrow' => ?_⟩
            have hread := fun y hy => hread y (List.mem_cons_of_mem x hy)
            rcases List.mem_cons.mp hrow' with rfl | hrow'
            · exact hmoves.truthful (hrows hread old List.mem_cons_self) hread
            · exact hrows hread row' hrow'

end Request

/-! ## Any requests -/

section Reachable

variable {ι : Type} [DecidableEq ι] {cfg : Settings} {adminSecretKey : String}
  {requests : ι → Request} {cluster : Cluster} {env : World → World → Prop}
  {c : Config ι Call Call.Result PyException World}

/-- The rows committed for a build job, the latest first. -/
def buildRows (id : ℕ) (events : List (Event ι Call Call.Result World)) : List BuildJob :=
  events.filterMap (fun ev => rowsOf id ev.toExchange)

theorem exists_lastBuild {τ : History} {id : ℕ} (h : ∃ x ∈ τ, rowsOf id x ≠ none) :
    ∃ row, lastBuild τ id = some row := by
  obtain ⟨x, hx, hne⟩ := h
  obtain ⟨row, hrow⟩ := Option.ne_none_iff_exists'.mp hne
  have hmem : row ∈ τ.filterMap (rowsOf id) := List.mem_filterMap.mpr ⟨x, hx, hrow⟩
  rw [lastBuild_eq_head?]
  cases hrows : τ.filterMap (rowsOf id) with
  | nil =>
      rw [hrows] at hmem
      cases hmem
  | cons row' past => exact ⟨row', rfl⟩

/-- All rows of a build job are committed by the request that owns it. -/
theorem buildRows_own {t : Trail ι Call Call.Result World} (h : Consistent t) {i : ι} {id : ℕ}
    {row : BuildJob} (hi : lastBuild (own i t.events) id = some row) :
    buildRows id t.events = (own i t.events).filterMap (rowsOf id) := by
  refine filterMap_own (f := rowsOf id) (fun ev hev hne => ?_)
  by_contra hsome
  obtain ⟨row', hrow'⟩ := exists_lastBuild (τ := own ev.actor t.events)
    ⟨ev.toExchange, mem_own.mpr ⟨ev, hev, rfl, rfl⟩, hsome⟩
  exact hne (h.builds.sole _ _ _ _ _ hrow' hi)

theorem buildRows_cases {t : Trail ι Call Call.Result World} (h : Consistent t) (id : ℕ) :
    buildRows id t.events = [] ∨
      ∃ i, buildRows id t.events = (own i t.events).filterMap (rowsOf id) := by
  by_cases hrow : ∃ i row, lastBuild (own i t.events) id = some row
  · obtain ⟨i, row, hi⟩ := hrow
    exact .inr ⟨i, buildRows_own h hi⟩
  · refine .inl (List.filterMap_eq_nil_iff.mpr (fun ev hev => ?_))
    by_contra hsome
    obtain ⟨row, hi⟩ := exists_lastBuild (τ := own ev.actor t.events)
      ⟨ev.toExchange, mem_own.mpr ⟨ev, hev, rfl, rfl⟩, hsome⟩
    exact hrow ⟨ev.actor, row, hi⟩

/-- In every run in which no Image was read that is Ready without an image, every build job
keeps to the life cycle and its rows are truthful, that in the table being the last. -/
theorem build_jobs_live_truthfully (henv : KeepsDatabase env)
    (hc : Reach (platform env) (platformStart cfg adminSecretKey requests cluster) c)
    (hread : ∀ ev ∈ c.trail.events, readyWithoutImage ev.toExchange = false) (id : ℕ) :
    Lifecycle ((buildRows id c.trail.events).map BuildJob.status) ∧
      (∀ row ∈ buildRows id c.trail.events, row.Truthful) ∧
      ∀ row, c.trail.state.db.buildJobs.get id = some row →
        (buildRows id c.trail.events).head? = some row := by
  have hs := (platform_sound henv hc).consistent
  have hhead : ∀ row, c.trail.state.db.buildJobs.get id = some row →
      (buildRows id c.trail.events).head? = some row := by
    intro row hget
    obtain ⟨i, hi⟩ := hs.builds.covered id row hget
    rw [buildRows_own hs hi, ← lastBuild_eq_head?, hi]
  rcases buildRows_cases hs id with hnil | ⟨i, hown⟩
  · refine ⟨?_, ?_, hhead⟩
    · rw [hnil]
      trivial
    · rw [hnil]
      exact fun row hrow => by cases hrow
  · obtain ⟨hpath, hrows⟩ := rows_of_legal (platform_scoped henv hc i) id
    rw [← hown] at hpath hrows
    refine ⟨hpath, hrows (fun x hx => ?_), hhead⟩
    obtain ⟨ev, hev, -, rfl⟩ := mem_own.mp hx
    exact hread ev hev

end Reachable

theorem build_jobs_live_truthfully_built :
    Lifecycle ((buildRows 1 builtRun.trail.events).map BuildJob.status) ∧
      (∀ row ∈ buildRows 1 builtRun.trail.events, row.Truthful) ∧
      ∀ row, builtRun.trail.state.db.buildJobs.get 1 = some row →
        (buildRows 1 builtRun.trail.events).head? = some row :=
  build_jobs_live_truthfully anyCluster_keepsDatabase builtRun_reach (by decide +kernel) 1

/-- kpack reports every Image as ready, and names no image. -/
def namelessCluster (c : Cluster) : Cluster :=
  { c with
    imageStatus := fun _ _ => some ⟨some [⟨some "Ready", some "True", none⟩], none⟩ }

def namelessRun : Config ℕ Call Call.Result PyException World :=
  drive handle (List.replicate 6 (1, .ok)) ⟨polledRun.pool,
    { polledRun.trail.state with cluster := namelessCluster polledRun.trail.state.cluster },
    polledRun.trail.events⟩

/-- The build then succeeds without an image. -/
theorem nameless_build_succeeds :
    ∃ c, Reach (platform anyCluster)
        (platformStart sampleSettings "admin" sampleRequests .empty) c ∧
      (c.trail.state.db.buildJobs.get 1).any
        (fun row => row.status = .succeeded && row.imageTag.isNone) = true :=
  ⟨namelessRun, Reach.drive _ ((Reach.drive buildSchedule .init).step (.env rfl)),
    by decide +kernel⟩

end TenantPlatform
