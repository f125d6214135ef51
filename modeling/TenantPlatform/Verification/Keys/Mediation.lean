import TenantPlatform.Effect.Moments
import TenantPlatform.Verification.Jobs.Platform
import TenantPlatform.Verification.Keys.Acceptance
import TenantPlatform.Verification.Rollout.Controller

/-! # Nothing is done without credentials

Whatever a request goes on to do, in its handler or in the background task that it leaves
behind, comes after the database has answered with its key. An admin's request does nothing
unless its secret is the platform's. -/

namespace TenantPlatform

open Effect

/-! ## The discipline -/

/-- The answer that lets a request act for its tenant. -/
def Granted (n : ℕ) (keyHash : String) (x : Exchange Call Call.Result) : Prop :=
  ∃ row tenant, x = ⟨.db (.lookupApiKey keyHash), [(row, tenant)]⟩ ∧ row.tenantId = n ∧
    tenant.isActive = true

/-- What a history has to show before a request may act. -/
def Request.Credentials (cfg : Settings) (adminSecretKey : String) : Request → History → Prop
  | .tenant n xApiKey _, τ => ∃ x ∈ τ, Granted n (cfg.hashApiKey xApiKey) x
  | .admin xAdminSecret _, _ => xAdminSecret = adminSecretKey

/-- The look-up of the key that a request presents. -/
def Request.asksForKey (cfg : Settings) : Request → Call → Prop
  | .tenant _ xApiKey _, e => e = .db (.lookupApiKey (cfg.hashApiKey xApiKey))
  | .admin .., _ => False

/-- It looks its key up, or shows credentials. -/
def Request.mediated (cfg : Settings) (adminSecretKey : String) (r : Request) :
    Discipline Call Call.Result :=
  ⟨fun τ e => r.asksForKey cfg e ∨ r.Credentials cfg adminSecretKey τ, fun _ _ => True⟩

section Along

variable {cfg : Settings} {adminSecretKey : String} {r : Request} {τ : History}

theorem Request.Credentials.cons (h : r.Credentials cfg adminSecretKey τ)
    (x : Exchange Call Call.Result) : r.Credentials cfg adminSecretKey (x :: τ) := by
  cases r with
  | admin xAdminSecret r => exact h
  | tenant n xApiKey r =>
      obtain ⟨y, hy, hgranted⟩ := h
      exact ⟨y, List.mem_cons_of_mem x hy, hgranted⟩

/-- With credentials a program may do anything. -/
theorem along_mediated {α : Type} (p : Py α) (h : r.Credentials cfg adminSecretKey τ) :
    p.Along (r.mediated cfg adminSecretKey)
      (fun _ τ' => r.Credentials cfg adminSecretKey τ')
      (fun _ τ' => r.Credentials cfg adminSecretKey τ') τ :=
  (p.uses_any.along (fun _ _ _ h => Or.inr h) (fun _ x _ h _ => h.cons x) h).mono
    (fun _ _ h => h.2) (fun _ _ h => h)

theorem verifyTenant_grants (n : ℕ) (xApiKey : String) (q : TenantRequest) :
    (verifyTenant cfg n xApiKey).Along ((Request.tenant n xApiKey q).mediated cfg adminSecretKey)
      (fun _ τ' => (Request.tenant n xApiKey q).Credentials cfg adminSecretKey τ')
      (fun _ _ => True) τ := by
  refine ⟨.inl rfl, fun rows _ => ?_⟩
  rcases rows with _ | ⟨⟨row, tenant⟩, _ | ⟨r, rest⟩⟩
  · trivial
  · show (if _ then _ else if _ then _ else _ : Py Unit).Along _ _ _ _
    split
    · trivial
    · rename_i htenant
      split
      · trivial
      · rename_i hactive
        refine ⟨_, .head _, row, tenant, rfl, Int.ofNat_inj.mp (not_not.mp htenant), ?_⟩
        simpa using hactive
  · trivial

theorem verifyAdmin_grants (xAdminSecret : String) (q : AdminRequest) :
    (verifyAdmin adminSecretKey xAdminSecret).Along
      ((Request.admin xAdminSecret q).mediated cfg adminSecretKey)
      (fun _ τ' => (Request.admin xAdminSecret q).Credentials cfg adminSecretKey τ')
      (fun _ _ => True) τ := by
  unfold verifyAdmin compareDigest
  split
  · by_cases heq : xAdminSecret = adminSecretKey
    · simp only [heq, decide_true, Prog.pure_eq, Prog.ret_bind, if_true]
      rfl
    · simp only [heq, decide_false, Prog.pure_eq, Prog.ret_bind, Bool.false_eq_true, if_false]
      trivial
  · trivial

theorem Request.handle_mediated (r : Request) :
    (r.handle cfg adminSecretKey).Along (r.mediated cfg adminSecretKey)
      (fun _ τ' => r.Credentials cfg adminSecretKey τ') (fun _ _ => True) τ := by
  cases r with
  | tenant n xApiKey q =>
      exact (verifyTenant_grants n xApiKey q).bind
        (fun _ _ h => (along_mediated _ h).mono (fun _ _ h => h) (fun _ _ _ => trivial))
  | admin xAdminSecret q =>
      exact (verifyAdmin_grants xAdminSecret q).bind
        (fun _ _ h => (along_mediated _ h).mono (fun _ _ h => h) (fun _ _ _ => trivial))

/-- A request that is turned away leaves no task behind. -/
theorem Request.thread_mediated (r : Request) :
    (r.thread cfg adminSecretKey).Along (r.mediated cfg adminSecretKey) (fun _ _ => True)
      (fun _ _ => True) τ := by
  refine Prog.Along.bind (M := fun reply τ' => reply.2 = none ∨
    r.Credentials cfg adminSecretKey τ') ?_ ?_
  · exact (r.handle_mediated.mono (fun _ _ h => .inr h) (fun _ _ h => h)).tryCatch
      (fun e _ _ => .inl (errorReply_task e))
  · rintro ⟨response, task | task⟩ τ' h
    · trivial
    · rcases h with h | h
      · cases h
      · exact (along_mediated _ h).mono (fun _ _ _ => trivial) (fun _ _ _ => trivial)

end Along

/-! ## Runs -/

/-- An unrevoked key with this hash belongs to the tenant, who is active. -/
def Database.KeyHeld (db : Database) (n : ℕ) (keyHash : String) : Prop :=
  ∃ id row tenant, db.apiKeys.get id = some row ∧ row.keyHash = keyHash ∧ row.revokedAt = none ∧
    row.tenantId = n ∧ db.tenants.get n = some tenant ∧ tenant.isActive = true

section Reachable

variable {ι : Type} [DecidableEq ι] {cfg : Settings} {adminSecretKey : String}
  {requests : ι → Request} {w : World} {env : World → World → Prop}
  {c : Config ι Call Call.Result PyException World}

/-- What entitles the request `i` to act, by the calls that have been made. -/
def Entitled (cfg : Settings) (adminSecretKey : String) (i : ι)
    (past : List (Event ι Call Call.Result World)) : Request → Prop
  | .tenant n xApiKey _ => ∃ ev ∈ past, ev.actor = i ∧
      ev.call = .db (.lookupApiKey (cfg.hashApiKey xApiKey)) ∧
      ev.pre.db.KeyHeld n (cfg.hashApiKey xApiKey)
  | .admin xAdminSecret _ => xAdminSecret = adminSecretKey

omit [DecidableEq ι] in
theorem keyHeld_of_granted {n : ℕ} {keyHash : String} {ev : Event ι Call Call.Result World}
    (h : Granted n keyHash ev.toExchange)
    (hact : (platform env).act ev.call ev.pre ev.answer ev.post) :
    ev.call = .db (.lookupApiKey keyHash) ∧ ev.pre.db.KeyHeld n keyHash := by
  obtain ⟨row, tenant, hx, rfl, hactive⟩ := h
  obtain ⟨⟨e, r⟩, actor, pre, post⟩ := ev
  cases hx
  obtain ⟨o, ho⟩ := hact
  have hrows : pre.db.lookupApiKey keyHash = [(row, tenant)] := congrArg Prod.fst ho
  have hmem : (row, tenant) ∈ pre.db.lookupApiKey keyHash := by simp [hrows]
  obtain ⟨id, hget, hhash, hnone, htenant⟩ := mem_lookupApiKey.mp hmem
  exact ⟨rfl, id, row, tenant, hget, hhash, hnone, rfl, htenant, hactive⟩

/-- In every run from any state, whatever happens beside the requests: each call of a request is
the look-up of its own key, which changes nothing, or it comes after one that found an unrevoked
key of its tenant while that was active, or the request carries the admin secret. -/
theorem requests_act_with_credentials
    (hc : Reach (platform env) (Config.start (fun i => (requests i).thread cfg adminSecretKey) w) c)
    {later past : List (Event ι Call Call.Result World)} {ev : Event ι Call Call.Result World}
    (hevents : c.trail.events = later ++ ev :: past) :
    ((requests ev.actor).asksForKey cfg ev.call ∧ ev.post = ev.pre) ∨
      Entitled cfg adminSecretKey ev.actor past (requests ev.actor) := by
  have hacts := hc.acts
  have hlegal := hc.keeps (D := fun i => (requests i).mediated cfg adminSecretKey)
    (fun i => (requests i).thread_mediated) (fun _ _ _ => trivial) ev.actor
  rw [hevents, own_append, own_cons_self] at hlegal
  rcases hlegal.of_append.1 with hasks | hcredentials
  · refine .inl ⟨hasks, ?_⟩
    have hact := hacts ev (by simp [hevents])
    cases hrequest : requests ev.actor with
    | admin xAdminSecret r =>
        rw [hrequest] at hasks
        exact hasks.elim
    | tenant n xApiKey r =>
        rw [hrequest] at hasks
        obtain ⟨⟨e, answer⟩, actor, pre, post⟩ := ev
        obtain rfl := hasks
        obtain ⟨o, ho⟩ := hact
        exact (congrArg Prod.snd ho).symm
  · refine .inr ?_
    cases hrequest : requests ev.actor with
    | admin xAdminSecret r =>
        rw [hrequest] at hcredentials
        exact hcredentials
    | tenant n xApiKey r =>
        rw [hrequest] at hcredentials
        obtain ⟨x, hx, hgranted⟩ := hcredentials
        obtain ⟨ev', hev', hactor, rfl⟩ := mem_own.mp hx
        have hact := hacts ev' (by simp [hevents, hev'])
        obtain ⟨hcall, hheld⟩ := keyHeld_of_granted hgranted hact
        exact ⟨ev', hev', hactor, hcall, hheld⟩

end Reachable

/-- The last call of a poller, long after the key was looked up. -/
theorem requests_act_with_credentials_deployed :
    ∃ c ev past, Reach (platform anyController)
        (platformStart sampleSettings "admin" sampleRequests .empty) c ∧
      c.trail.events = ev :: past ∧ ev.actor = 2 ∧
      (((sampleRequests ev.actor).asksForKey sampleSettings ev.call ∧ ev.post = ev.pre) ∨
        Entitled sampleSettings "admin" ev.actor past (sampleRequests ev.actor)) := by
  have hrun : (deployedRun.trail.events.head?).map Event.actor = some 2 := by decide +kernel
  have hreach := deployedRun_reach
  generalize deployedRun = c at hrun hreach
  obtain ⟨ev, hev, hactor⟩ := Option.map_eq_some_iff.mp hrun
  obtain ⟨past, hevents⟩ := List.head?_eq_some_iff.mp hev
  have hfirst : c.trail.events = [] ++ ev :: past := hevents
  exact ⟨c, ev, past, hreach, hevents, hactor, requests_act_with_credentials hreach hfirst⟩

end TenantPlatform
