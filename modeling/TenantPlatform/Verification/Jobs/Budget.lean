import TenantPlatform.Effect.Moments
import TenantPlatform.Verification.Jobs.Calls
import TenantPlatform.Verification.Jobs.Settlement

/-! # The budget of a poller

A fourth discipline of requests: a poller reads the cluster once after each pause, stops at the
first answer that decides, and closes its job then or when the rounds of its timeout are used
up. -/

namespace TenantPlatform

open Effect

/-! ## Rounds of the polling loop -/

/-- The rule of the polling loop, round by round: `I n` holds before round `n` and `K n` after
its pause. -/
theorem pollLoop_rounds {D : Discipline Call Call.Result} {β : Type}
    {timeout interval rounds : ℕ} {read : Py (Option β)} {resolve : β → Py Unit}
    {expire : Py Unit} {I K : ℕ → History → Prop} {J : β → History → Prop} {fin : History → Prop}
    (htimeout : timeout = rounds * interval) (hpos : 0 < interval)
    (hsleep : ∀ n τ r, n < rounds → I n τ →
      D.may τ (.sys (.sleep interval)) ∧ K n (⟨.sys (.sleep interval), r⟩ :: τ))
    (hread : ∀ n τ, n < rounds → K n τ →
      read.Along D (fun o τ' => o.elim (I (n + 1) τ') (fun b => J b τ')) (fun _ => fin) τ)
    (hresolve : ∀ b τ, J b τ → (resolve b).Along D (fun _ => fin) (fun _ => fin) τ)
    (hexpire : ∀ τ, I rounds τ → expire.Along D (fun _ => fin) (fun _ => fin) τ) (fuel : ℕ) :
    ∀ n elapsed τ, elapsed = n * interval → n ≤ rounds → rounds ≤ n + fuel → I n τ →
      (pollLoop timeout interval read resolve expire fuel elapsed).Along
        D (fun _ => fin) (fun _ => fin) τ := by
  induction fuel with
  | zero =>
      intro n elapsed τ _ hle hfuel h
      obtain rfl : n = rounds := by omega
      exact hexpire τ h
  | succ fuel ih =>
      intro n elapsed τ helapsed hle hfuel h
      unfold pollLoop
      split
      · rename_i hlt
        rw [helapsed, htimeout] at hlt
        have hlt : n < rounds := Nat.lt_of_mul_lt_mul_right hlt
        refine ⟨(hsleep n τ () hlt h).1, fun r _ => ?_⟩
        refine (hread n _ hlt (hsleep n τ r hlt h).2).bind ?_
        rintro (_ | b) τ' h'
        · exact ih (n + 1) _ τ' (by rw [helapsed, Nat.succ_mul]) hlt (by omega) h'
        · exact hresolve b τ' h'
      · rename_i hge
        rw [helapsed, htimeout] at hge
        have hge : rounds ≤ n := Nat.le_of_mul_le_mul_right (Nat.le_of_not_lt hge) hpos
        obtain rfl : n = rounds := by omega
        exact hexpire τ h

/-! ## The discipline -/

def Call.isNap : Call → Bool
  | .sys e => e.isSleep
  | _ => false

def Call.isStatusRead : Call → Bool
  | .k8s e => e.isStatusRead
  | _ => false

/-- A poller is entered. -/
def Call.isPollMark : Call → Bool
  | .sys (.mark (.pollBuildUntilDone ..)) | .sys (.mark (.pollDeploymentUntilRunning ..)) => true
  | _ => false

def naps (τ : History) : ℕ := τ.countP (fun x => x.call.isNap)

def statusReads (τ : History) : ℕ := τ.countP (fun x => x.call.isStatusRead)

/-- The cluster has given an answer that decides, or all rounds have passed. -/
def Concluded (budget : ℕ) (τ : History) : Prop :=
  (∃ x ∈ τ, decisive x = true) ∨ (naps τ = budget ∧ statusReads τ = budget)

/-- Before round `n`: one undecided read after each pause. -/
structure Round (n : ℕ) (τ : History) : Prop where
  naps : naps τ = n
  reads : statusReads τ = n
  undecided : ∀ x ∈ τ, decisive x = false

/-- After the pause of round `n`. -/
def Woken (n : ℕ) (τ : History) : Prop :=
  ∃ r past, τ = ⟨.sys (.sleep 5), r⟩ :: past ∧ Round n past

def mayPace (budget : ℕ) (τ : History) : Call → Prop
  | .sys (.sleep seconds) => seconds = 5 ∧ ∃ n < budget, Round n τ
  | .k8s (.readImage ..) | .k8s (.readDeployment ..) => ∃ n < budget, Woken n τ
  | .db (.commitBuildJob ..) | .db (.commitDeployment ..) =>
      (∃ x ∈ τ, x.call.isPollMark = true) → Concluded budget τ
  | _ => True

def pacing (budget : ℕ) : Discipline Call Call.Result := ⟨mayPace budget, fun _ _ => True⟩

/-! ## Histories -/

section Cons

variable {x : Exchange Call Call.Result} {τ : History} {n budget : ℕ}

theorem naps_cons (x : Exchange Call Call.Result) (τ : History) :
    naps (x :: τ) = naps τ + if x.call.isNap then 1 else 0 := List.countP_cons

theorem statusReads_cons (x : Exchange Call Call.Result) (τ : History) :
    statusReads (x :: τ) = statusReads τ + if x.call.isStatusRead then 1 else 0 :=
  List.countP_cons

theorem isStatusRead_of_decisive (h : decisive x = true) : x.call.isStatusRead = true := by
  obtain ⟨e, r⟩ := x
  cases e with
  | k8s e => cases e <;> first | rfl | cases h
  | _ => cases h

theorem not_decisive (h : x.call.isStatusRead = false) : decisive x = false := by
  cases hx : decisive x with
  | false => rfl
  | true => rw [isStatusRead_of_decisive hx] at h; cases h

/-- Calls that are no part of a round. -/
def Call.idle (e : Call) : Prop := e.isNap = false ∧ e.isStatusRead = false

theorem Round.cons (h : Round n τ) (hx : x.call.idle) : Round n (x :: τ) := by
  refine ⟨?_, ?_, ?_⟩
  · rw [naps_cons, hx.1, h.naps]
    rfl
  · rw [statusReads_cons, hx.2, h.reads]
    rfl
  · exact fun y hy => (List.mem_cons.mp hy).elim (fun heq => heq ▸ not_decisive hx.2)
      (h.undecided y)

theorem Concluded.cons (h : Concluded budget τ) (hx : x.call.idle) : Concluded budget (x :: τ) := by
  rcases h with ⟨y, hy, hdecisive⟩ | ⟨hnaps, hreads⟩
  · exact .inl ⟨y, List.mem_cons_of_mem x hy, hdecisive⟩
  · refine .inr ⟨?_, ?_⟩
    · rw [naps_cons, hx.1, hnaps]
      rfl
    · rw [statusReads_cons, hx.2, hreads]
      rfl

/-- A read that decides nothing completes a round. -/
theorem Woken.read (h : Woken n τ) (hread : x.call.isStatusRead = true)
    (hnap : x.call.isNap = false) (hx : decisive x = false) : Round (n + 1) (x :: τ) := by
  obtain ⟨r, past, rfl, hround⟩ := h
  refine ⟨?_, ?_, ?_⟩
  · rw [naps_cons, naps_cons, hnap, hround.naps]
    rfl
  · rw [statusReads_cons, statusReads_cons, hread, hround.reads]
    rfl
  · intro y hy
    rcases List.mem_cons.mp hy with rfl | hy
    · exact hx
    · rcases List.mem_cons.mp hy with rfl | hy
      · rfl
      · exact hround.undecided y hy

end Cons

/-- What a history that keeps the budget shows. -/
structure Paced (budget : ℕ) (τ : History) : Prop where
  rounds : naps τ ≤ budget ∧ statusReads τ ≤ budget
  pauses : ∀ x ∈ τ, ∀ seconds, x.call = .sys (.sleep seconds) → seconds = 5
  spaced : ∀ later x past, τ = later ++ x :: past → x.call.isStatusRead = true →
    ∃ n, Woken n past
  concluded : ∀ later x past, τ = later ++ x :: past →
    ((∃ id changes, x.call = .db (.commitBuildJob id changes)) ∨
      ∃ id status, x.call = .db (.commitDeployment id status)) →
    (∃ y ∈ past, y.call.isPollMark = true) → Concluded budget past

theorem paced_of_legal {budget : ℕ} {τ : History} (h : (pacing budget).Legal τ) :
    Paced budget τ := by
  refine ⟨?_, ?_, ?_, ?_⟩
  · induction τ with
    | nil => exact ⟨Nat.zero_le _, Nat.zero_le _⟩
    | cons x τ ih =>
        obtain ⟨hmay, -, hlegal⟩ := h
        obtain ⟨hnaps, hreads⟩ := ih hlegal
        obtain ⟨e, r⟩ := x
        rw [naps_cons, statusReads_cons]
        cases e with
        | db e => exact ⟨hnaps, hreads⟩
        | sys e =>
            cases e with
            | sleep seconds =>
                obtain ⟨-, n, hn, hround⟩ := hmay
                exact ⟨by rw [hround.naps]; exact hn, hreads⟩
            | _ => exact ⟨hnaps, hreads⟩
        | k8s e =>
            cases hread : e.isStatusRead with
            | false =>
                refine ⟨hnaps, ?_⟩
                simp only [Call.isStatusRead, hread]
                exact hreads
            | true =>
                have hwoken : ∃ n < budget, Woken n τ := by
                  cases e <;> first | exact hmay | cases hread
                obtain ⟨n, hn, s, past, rfl, hround⟩ := hwoken
                refine ⟨hnaps, ?_⟩
                simp only [Call.isStatusRead, hread]
                rw [statusReads_cons, hround.reads]
                exact hn
  · intro x hx seconds hcall
    obtain ⟨later, past, rfl⟩ := List.append_of_mem hx
    obtain ⟨hmay, -, -⟩ := h.of_append
    rw [hcall] at hmay
    exact hmay.1
  · rintro later x past rfl hread
    obtain ⟨hmay, -, -⟩ := h.of_append
    obtain ⟨e, r⟩ := x
    have hwoken : ∃ n < budget, Woken n past := by
      cases e with
      | k8s e => cases e <;> first | exact hmay | cases hread
      | _ => cases hread
    exact hwoken.imp (fun n hn => hn.2)
  · rintro later x past rfl hcommit hpoll
    obtain ⟨hmay, -, -⟩ := h.of_append
    rcases hcommit with ⟨id, changes, hcall⟩ | ⟨id, status, hcall⟩
    · rw [hcall] at hmay
      exact hmay hpoll
    · rw [hcall] at hmay
      exact hmay hpoll

/-! ## Requests keep their budget -/

/-- Calls before the poller is entered. -/
def Call.starting (e : Call) : Bool := !e.isNap && !e.isStatusRead && !e.isPollMark

theorem Call.idle_of_starting {e : Call} (h : e.starting = true) : e.idle := by
  simp only [Call.starting, Bool.and_eq_true, Bool.not_eq_true'] at h
  exact h.1

def Fresh (τ : History) : Prop := ∀ x ∈ τ, x.call.starting = true

theorem Fresh.round {τ : History} (h : Fresh τ) : Round 0 τ := by
  induction τ with
  | nil => exact ⟨rfl, rfl, fun x hx => by cases hx⟩
  | cons x τ ih =>
      have hround := ih (fun y hy => h y (List.mem_cons_of_mem x hy))
      exact hround.cons (Call.idle_of_starting (h x List.mem_cons_self))

section Along

variable {α : Type} {p : Py α} {Q : α → Prop} {τ : History} {n budget : ℕ}

theorem along_fresh (hp : p.Uses (fun e => e.starting = true) Q) (h : Fresh τ) :
    p.Along (pacing budget) (fun a τ' => Q a ∧ Fresh τ') (fun _ τ' => Fresh τ') τ := by
  refine hp.along (fun τ e he hfresh => ?_) (fun τ x hx hfresh _ => ?_) h
  · have hunmarked : ¬ ∃ x ∈ τ, x.call.isPollMark = true := by
      rintro ⟨x, hx, hmark⟩
      have hstarting := hfresh x hx
      simp [Call.starting, hmark] at hstarting
    cases e with
    | db e => cases e <;> first | trivial | exact fun hmark => absurd hmark hunmarked
    | k8s e => cases e <;> trivial
    | sys e => cases e <;> trivial
  · exact fun y hy => (List.mem_cons.mp hy).elim (fun heq => heq ▸ hx) (hfresh y)

theorem along_concluded (hp : p.Uses Call.idle (fun _ => True)) (h : Concluded budget τ) :
    p.Along (pacing budget) (fun _ _ => True) (fun _ _ => True) τ := by
  refine (hp.along (fun τ e he hconcluded => ?_) (fun τ x hx h _ => h.cons hx) h).mono
    (fun _ _ _ => trivial) (fun _ _ _ => trivial)
  cases e with
  | db e => cases e <;> first | trivial | exact fun _ => hconcluded
  | k8s e => cases e <;> first | trivial | cases he.2
  | sys e => cases e <;> first | trivial | cases he.1

theorem readBuild_paced {ns : String} {id : ℕ} (hn : n < budget) (h : Woken n τ) :
    (readBuild ns id).Along (pacing budget)
      (fun o τ' => o.elim (Round (n + 1) τ') (fun _ => Concluded budget τ'))
      (fun _ _ => True) τ := by
  refine ⟨⟨n, hn, h⟩, fun r _ => ?_⟩
  cases r with
  | error e =>
      show (((if e.isNotFound then pure none else throw e : Py (Option ImageResource)) >>= _) >>=
        _ : Py (Option (BuildReport × Bool))).Along _ _ _ _
      split
      · exact h.read rfl rfl rfl
      · trivial
  | ok image =>
      show Prog.Along _ _ _ (.ret ((buildReport image).ready.map _)) _
      cases hready : (buildReport image).ready with
      | none => exact h.read rfl rfl (by simp [decisive, hready])
      | some ready => exact .inl ⟨_, List.mem_cons_self, by simp [decisive, hready]⟩

theorem readDeployment_paced {ns name : String} (hn : n < budget) (h : Woken n τ) :
    (readDeployment ns name).Along (pacing budget)
      (fun o τ' => o.elim (Round (n + 1) τ') (fun _ => Concluded budget τ'))
      (fun _ _ => True) τ := by
  refine ⟨⟨n, hn, h⟩, fun r _ => ?_⟩
  cases r with
  | error e =>
      show (((if e.isNotFound then pure none else throw e : Py (Option DeploymentResource)) >>= _)
        >>= _ : Py (Option Bool)).Along _ _ _ _
      split
      · exact h.read rfl rfl rfl
      · trivial
  | ok deployment =>
      show Prog.Along _ _ _ (.ret (rolloutReport deployment).running) _
      cases hrunning : (rolloutReport deployment).running with
      | none => exact h.read rfl rfl (by simp [decisive, hrunning])
      | some running => exact .inl ⟨_, List.mem_cons_self, by simp [decisive, hrunning]⟩

end Along

/-- The rounds of a poller's timeout. -/
def BackgroundTask.budget : BackgroundTask → ℕ
  | .pollBuildUntilDone .. => buildPollTimeout / buildPollInterval
  | .pollDeploymentUntilRunning .. => deploymentPollTimeout / deploymentPollInterval

def TenantRequest.budget : TenantRequest → ℕ
  | .createBuildJob _ => buildPollTimeout / buildPollInterval
  | .createDeployment _ => deploymentPollTimeout / deploymentPollInterval
  | _ => 0

def Request.budget : Request → ℕ
  | .tenant _ _ r => r.budget
  | .admin _ _ => 0

section Serve

variable {cfg : Settings} {τ : History}

theorem BackgroundTask.run_paced (task : BackgroundTask) (h : Fresh τ) :
    (task.run cfg).Along (pacing task.budget) (fun _ _ => True) (fun _ _ => True) τ := by
  cases task with
  | pollBuildUntilDone id ns =>
      refine ⟨trivial, fun r _ => ?_⟩
      have hstart : Round 0 (⟨.sys (.mark (.pollBuildUntilDone id ns)), r⟩ :: τ) :=
        h.round.cons ⟨rfl, rfl⟩
      refine pollLoop_rounds (show buildPollTimeout = 180 * buildPollInterval from rfl) (by decide)
        (D := pacing 180) (I := Round) (K := Woken) (J := fun _ => Concluded 180)
        (fun n τ r hn hround => ⟨⟨rfl, n, hn, hround⟩, r, τ, rfl, hround⟩)
        (fun n τ => readBuild_paced) (fun resolved τ hτ => along_concluded ?_ hτ)
        (fun τ hτ => along_concluded ?_ (.inr ⟨hτ.naps, hτ.reads⟩)) _ 0 0 _ rfl
        (Nat.zero_le _) (by decide) hstart
      · exact resolveBuild_calls cfg id resolved (fun e he => ⟨he, rfl⟩) ⟨rfl, rfl⟩
          (fun _ => ⟨rfl, rfl⟩) (fun _ => ⟨rfl, rfl⟩) (fun _ => ⟨rfl, rfl⟩)
      · exact expireBuild_calls id ⟨rfl, rfl⟩ ⟨rfl, rfl⟩ (fun _ => ⟨rfl, rfl⟩)
  | pollDeploymentUntilRunning id ns name =>
      refine ⟨trivial, fun r _ => ?_⟩
      have hstart : Round 0 (⟨.sys (.mark (.pollDeploymentUntilRunning id ns name)), r⟩ :: τ) :=
        h.round.cons ⟨rfl, rfl⟩
      refine pollLoop_rounds
        (show deploymentPollTimeout = 36 * deploymentPollInterval from rfl) (by decide)
        (D := pacing 36) (I := Round) (K := Woken) (J := fun _ => Concluded 36)
        (fun n τ r hn hround => ⟨⟨rfl, n, hn, hround⟩, r, τ, rfl, hround⟩)
        (fun n τ => readDeployment_paced) (fun running τ hτ => along_concluded ?_ hτ)
        (fun τ hτ => along_concluded ?_ (.inr ⟨hτ.naps, hτ.reads⟩)) _ 0 0 _ rfl
        (Nat.zero_le _) (by decide) hstart
      · exact resolveDeployment_calls cfg id running (fun e he => ⟨he, rfl⟩) ⟨rfl, rfl⟩
          (fun _ => ⟨rfl, rfl⟩) (fun _ => ⟨rfl, rfl⟩) (fun _ => ⟨rfl, rfl⟩)
      · exact expireDeployment_calls id ⟨rfl, rfl⟩ (fun _ => ⟨rfl, rfl⟩)

theorem TenantRequest.handle_starting (tenantId : ℕ) (r : TenantRequest) :
    (r.handle cfg tenantId).Uses (fun e => e.starting = true) (fun reply => r.Leaves reply.2) := by
  refine (r.handle_calls cfg tenantId).mono (fun e he => ?_) (fun _ h => h)
  cases he with
  | scope h => cases h <;> rfl
  | k8s e h => simp [Call.starting, Call.isNap, Call.isStatusRead, Call.isPollMark, h]
  | _ => rfl

theorem budget_of_leaves {r : TenantRequest} {task : BackgroundTask}
    (h : r.Leaves (some task)) : task.budget = r.budget := by
  cases r <;> cases task <;> first | rfl | cases h

/-- A request and its background task keep the budget to the end. -/
theorem Request.thread_paced (adminSecretKey : String) (r : Request) :
    (r.thread cfg adminSecretKey).Along (pacing r.budget) (fun _ _ => True) (fun _ _ => True)
      [] := by
  have hfresh : Fresh [] := fun x hx => by cases hx
  refine Prog.Along.bind (M := fun reply τ => Fresh τ ∧
    ∀ task, reply.2 = some task → task.budget = r.budget) ?_ ?_
  · refine Prog.Along.tryCatch (M := fun _ τ => Fresh τ) ?_ (fun e τ h => ⟨h, fun task htask => ?_⟩)
    · cases r with
      | tenant t xApiKey r =>
          refine ((along_fresh (verifyTenant_uses cfg t xApiKey rfl) hfresh).mono
            (fun _ _ h => h) (fun _ _ h => h)).bind (fun _ τ h => ?_)
          refine (along_fresh (r.handle_starting t) h.2).mono
            (fun reply τ h => ⟨h.2, fun task htask => ?_⟩) (fun _ _ h => h)
          exact budget_of_leaves (htask ▸ h.1)
      | admin xAdminSecret r =>
          refine ((along_fresh (verifyAdmin_uses adminSecretKey xAdminSecret) hfresh).mono
            (fun _ _ h => h) (fun _ _ h => h)).bind (fun _ τ h => ?_)
          refine (along_fresh ((r.handle_calls cfg).mono (fun e he => ?_) (fun _ h => h)) h.2).mono
            (fun reply τ h => ⟨h.2, fun task htask => ?_⟩) (fun _ _ h => h)
          · rcases he with ⟨_ | _ | _ | _⟩ | _ | _ | _ <;> rfl
          · cases h.1.symm.trans htask
    · cases (errorReply_task e).symm.trans htask
  · rintro ⟨response, task | task⟩ τ ⟨h, hbudget⟩
    · trivial
    · rw [← hbudget task rfl]
      exact task.run_paced h

end Serve

/-! ## Runs -/

section Reachable

variable {ι : Type} [DecidableEq ι] {cfg : Settings} {adminSecretKey : String}
  {requests : ι → Request} {cluster : Cluster} {env : World → World → Prop}
  {c : Config ι Call Call.Result PyException World}

/-- Whatever other requests run and whatever is answered, a request and its poller keep to the
rounds of the timeout, read once after each pause of five seconds, and close the job only on an
answer that decides or after the last round. -/
theorem pollers_keep_their_budget
    (hc : Reach (platform env) (platformStart cfg adminSecretKey requests cluster) c) (i : ι) :
    Paced (requests i).budget (own i c.trail.events) :=
  paced_of_legal (Reach.keeps (fun i => (requests i).thread_paced adminSecretKey)
    (fun _ _ _ => trivial) hc i)

end Reachable

theorem pollers_keep_their_budget_built : Paced 180 (own 1 builtRun.trail.events) :=
  pollers_keep_their_budget builtRun_reach 1

end TenantPlatform
