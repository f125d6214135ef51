import TenantPlatform.Verification.Jobs.Settlement

/-! # Which settled jobs are announced

The poller announces a job that a read resolved. A job that could not be started, or that
timed out, is settled by a commit that nobody is told of. -/

namespace TenantPlatform

open Effect

variable {ι : Type} [DecidableEq ι]

/-- The signals of one job in a history of all, the latest first. -/
def jobSignals (j : Job) (events : List (Event ι Call Call.Result World)) : List Signal :=
  events.filterMap (fun ev => signalOf j ev.toExchange)

/-- The job is not settled, or was settled once and then announced once, as it was
committed. -/
def AnnouncedOnce (signals : List Signal) : Prop :=
  signals = [] ∨ ∃ a, signals = [.dispatched a, .settled a]

/-- Only a request that owns a job gives signals about it. -/
theorem owned_of_signal {τ : History} {x : Exchange Call Call.Result} {j : Job} {s : Signal}
    (hmay : mayCall τ x.call) (hs : signal x = some (j, s)) : Owned j τ := by
  unfold signal at hs
  split at hs
  · split at hs
    · cases hs
      obtain ⟨row, hlast, -⟩ := hmay
      simp [Owned, hlast]
    · cases hs
  · split at hs
    · cases hs
      obtain ⟨row, hlast, -⟩ := hmay
      simp [Owned, hlast]
    · cases hs
  · obtain ⟨j', hj', hown⟩ := hmay
    rw [hj'] at hs
    cases hs
    exact hown
  · cases hs

theorem owned_of_signalOf {τ : History} (h : requestDiscipline.Legal τ) {j : Job}
    (hj : ∃ x ∈ τ, signalOf j x ≠ none) : Owned j τ := by
  induction τ with
  | nil =>
      obtain ⟨x, hx, -⟩ := hj
      cases hx
  | cons y past ih =>
      refine Owned.cons ?_ y
      obtain ⟨x, hx, hne⟩ := hj
      rcases List.mem_cons.mp hx with rfl | hx
      · cases hs : signal x with
        | none => simp [signalOf, hs] at hne
        | some s =>
            have hj : s.1 = j := by
              by_contra hne'
              simp [signalOf, hs, hne'] at hne
            subst hj
            exact owned_of_signal h.1 hs
      · exact ih h.2.2 ⟨x, hx, hne⟩

theorem owner_unique {t : Trail ι Call Call.Result World} (h : Consistent t) {j : Job} {i k : ι}
    (hi : Owned j (own i t.events)) (hk : Owned j (own k t.events)) : k = i := by
  cases j with
  | build id =>
      obtain ⟨a, ha⟩ := Option.isSome_iff_exists.mp hi
      obtain ⟨b, hb⟩ := Option.isSome_iff_exists.mp hk
      exact h.builds.sole k i id b a hb ha
  | deployment id =>
      obtain ⟨a, ha⟩ := Option.isSome_iff_exists.mp hi
      obtain ⟨b, hb⟩ := Option.isSome_iff_exists.mp hk
      exact h.deployments.sole k i id b a hb ha

/-- All signals of a job come from the request that owns it. -/
theorem jobSignals_own {t : Trail ι Call Call.Result World} (h : Sound t) {j : Job} {i : ι}
    (hi : Owned j (own i t.events)) : jobSignals j t.events = signalsOf j (own i t.events) := by
  refine filterMap_own (f := signalOf j) ?_
  intro ev hev hne
  by_contra hs
  have hown : Owned j (own ev.actor t.events) :=
    owned_of_signalOf (h.legal ev.actor) ⟨ev.toExchange, mem_own.mpr ⟨ev, hev, rfl, rfl⟩, hs⟩
  exact hne (owner_unique h.consistent hi hown)

section Reachable

variable {cfg : Settings} {adminSecretKey : String} {requests : ι → Request} {cluster : Cluster}
  {env : World → World → Prop} {c : Config ι Call Call.Result PyException World}

/-- A job whose request and poller are through is announced as it should be exactly when a
status read resolved it, or its row was found gone. -/
theorem announcedOnce_iff_resolved (henv : KeepsDatabase env)
    (hc : Reach (platform env) (platformStart cfg adminSecretKey requests cluster) c) {i : ι}
    {j : Job} (hown : Owned j (own i c.trail.events)) (hi : c.Ended i)
    (hdb : ∀ x ∈ own i c.trail.events, statementFailed x = false)
    (hread : ∀ x ∈ own i c.trail.events, statusReadRaised x = false) :
    AnnouncedOnce (jobSignals j c.trail.events) ↔
      (∃ x ∈ own i c.trail.events, decisive x = true) ∨ FoundGone j (own i c.trail.events) := by
  rw [jobSignals_own (platform_sound henv hc) hown]
  cases ending_of_ended henv hc hi hdb hown with
  | unannounced a hsignals _ hundecided _ hpresent =>
      constructor
      · rintro (hnil | ⟨b, hb⟩)
        · rw [hsignals] at hnil
          cases hnil
        · rw [hsignals] at hb
          cases hb
      · rintro (⟨x, hx, hdecided⟩ | hgone)
        · rw [hundecided x hx] at hdecided
          cases hdecided
        · exact absurd hgone hpresent
  | raised _ _ hraised =>
      obtain ⟨x, hx, hraised⟩ := hraised
      rw [hread x hx] at hraised
      cases hraised
  | gone hsignals _ hgone => exact ⟨fun _ => .inr hgone, fun _ => .inl hsignals⟩
  | announced a hsignals _ hdecided _ => exact ⟨fun _ => .inl hdecided, fun _ => .inr ⟨a, hsignals⟩⟩

end Reachable

theorem announcedOnce_iff_resolved_built :
    AnnouncedOnce (jobSignals (.build 1) builtRun.trail.events) := by
  obtain ⟨hended, hown, -, hdecisive, hdb, hread⟩ := builtRun_ended
  exact (announcedOnce_iff_resolved anyCluster_keepsDatabase builtRun_reach hown hended hdb
    hread).mpr (.inl hdecisive)

/-- A build whose Image cannot be created: the row says `failed`, and the request is
through. -/
def refusedRun : Config ℕ Call Call.Result PyException World :=
  drive handle
    ([(0, .ok), (0, { token := "AAAAAAAAAAAAAAAAAAAAAAAAAAAAAAAAAAAAAAAAAAA" }), (0, .ok)] ++
      List.replicate 10 (1, .ok) ++ [(1, { fault := some serverError }), (1, .ok), (1, .ok)])
    (platformStart sampleSettings "admin" sampleRequests .empty)

/-- Its failure is never announced. -/
theorem refused_build_unannounced :
    ∃ c, Reach (platform (fun _ _ => False))
        (platformStart sampleSettings "admin" sampleRequests .empty) c ∧
      Owned (.build 1) (own 1 c.trail.events) ∧ c.Ended 1 ∧
      (∀ x ∈ own 1 c.trail.events, statementFailed x = false) ∧
      (∀ x ∈ own 1 c.trail.events, statusReadRaised x = false) ∧
      ¬ AnnouncedOnce (jobSignals (.build 1) c.trail.events) := by
  have hrun : Owned (.build 1) (own 1 refusedRun.trail.events) ∧ refusedRun.Ended 1 ∧
      (∀ x ∈ own 1 refusedRun.trail.events, statementFailed x = false) ∧
      (∀ x ∈ own 1 refusedRun.trail.events, statusReadRaised x = false) ∧
      (jobSignals (.build 1) refusedRun.trail.events).length = 1 := by
    decide +kernel
  obtain ⟨hown, hended, hdb, hread, hlength⟩ := hrun
  refine ⟨refusedRun, Reach.drive _ .init, hown, hended, hdb, hread, ?_⟩
  rintro (hnil | ⟨a, ha⟩)
  · rw [hnil] at hlength
    cases hlength
  · rw [ha] at hlength
    cases hlength

end TenantPlatform
