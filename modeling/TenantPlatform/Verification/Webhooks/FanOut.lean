import TenantPlatform.Effect.Trace
import TenantPlatform.Model.WebhookDispatcher
import TenantPlatform.Verification.Jobs.History

/-! # Webhook fan-out

Every active registration of a tenant gets one POST, and every POST one row that says what
was sent and what came of it, as long as no POST raises. -/

namespace TenantPlatform

open Effect

/-! ## The body of a payload -/

/-- Equal dictionaries have one text: what counts is not the order of the entries. -/
theorem jsonDumps_perm {payload stored : Payload} (hdict : (payload.map Prod.fst).Nodup)
    (hperm : stored.Perm payload) : jsonDumps stored = jsonDumps payload := by
  have hsorted : stored.insertionSort (fun a b => a.1 ≤ b.1) =
      payload.insertionSort (fun a b => a.1 ≤ b.1) := by
    have hsort : ∀ l : Payload,
        (l.insertionSort (fun a b => a.1 ≤ b.1)).Pairwise (fun a b => a.1 ≤ b.1) := by
      have htotal : Std.Total (fun a b : String × JsonScalar => a.1 ≤ b.1) :=
        ⟨fun a b => String.le_total a.1 b.1⟩
      have htrans : IsTrans (String × JsonScalar) (fun a b => a.1 ≤ b.1) :=
        ⟨fun _ _ _ hab hbc => String.le_trans hab hbc⟩
      exact List.pairwise_insertionSort _
    refine List.Perm.eq_of_pairwise (fun a b ha hb hab hba => ?_) (hsort stored) (hsort payload) ?_
    · -- two entries of one key are one entry
      have ha : a ∈ payload := hperm.mem_iff.mp ((List.mem_insertionSort _).mp ha)
      have hb : b ∈ payload := (List.mem_insertionSort _).mp hb
      exact List.inj_on_of_nodup_map hdict ha hb (String.le_antisymm hab hba)
    · exact (List.perm_insertionSort _ _).trans (hperm.trans (List.perm_insertionSort _ _).symm)
  rw [jsonDumps, jsonDumps, hsorted]

/-! ## One attempt -/

/-- A POST and how it was answered. -/
structure Posted where
  url : String
  content : String
  headers : List (String × String)
  answer : Except PyException ℕ

def postOf : Exchange Call Call.Result → Option Posted
  | ⟨.sys (.post url content headers), answer⟩ => some ⟨url, content, headers, answer⟩
  | _ => none

/-- The rows a call commits. -/
def recordsOf : Exchange Call Call.Result → Option (List WebhookDelivery)
  | ⟨.db (.commitWebhookDeliveries rows), _⟩ => some rows
  | _ => none

structure Attempt where
  registrationId : ℕ
  registration : WebhookRegistration
  posted : Posted
  row : WebhookDelivery

/-- The registration's own POST, and a row that tells what was sent and what came back. -/
structure Attempt.Faithful (a : Attempt) (cfg : Settings) (t : ℕ) (event : String)
    (payload : Payload) : Prop where
  url : a.posted.url = a.registration.callbackUrl
  content : a.posted.content = jsonDumps payload
  headers : a.posted.headers = [("Content-Type", "application/json"),
    ("X-Platform-Signature", "sha256=" ++ a.row.signature),
    ("X-Platform-Timestamp", toString a.row.timestamp)]
  about : a.row.webhookRegistrationId = a.registrationId ∧ a.row.tenantId = t ∧
    a.row.event = event ∧ a.row.payload = payload
  status : a.row.status = .success ↔
    ∃ code, a.posted.answer = .ok code ∧ 200 ≤ code ∧ code < 300
  httpStatusCode : ∀ code, a.row.httpStatusCode = some code ↔ a.posted.answer = .ok code
  errorMessage : a.row.errorMessage = none ↔ a.row.status = .success
  signature : a.row.signature = signPayload cfg a.registration.signingSecret a.row.timestamp
    (utf8 (jsonDumps payload).toList)

/-- The row of a delivery, by the status of the response. -/
def deliveryRow (cfg : Settings) (t : ℕ) (event : String) (payload : Payload) (id : ℕ)
    (registration : WebhookRegistration) (timestamp code : ℕ) : WebhookDelivery :=
  ⟨id, t, event, payload, signPayload cfg registration.signingSecret timestamp
    (utf8 (jsonDumps payload).toList), timestamp,
    if 200 ≤ code ∧ code < 300 then .success else .failed, some code,
    if 200 ≤ code ∧ code < 300 then none
    else some ("Webhook returned non-2xx status code: " ++ toString code)⟩

/-- What a delivery makes of the answer to its POST. -/
def deliveryEnd (cfg : Settings) (t : ℕ) (event : String) (payload : Payload) (id : ℕ)
    (registration : WebhookRegistration) (timestamp : ℕ) :
    Except PyException ℕ → Except PyException WebhookDelivery
  | .ok code => .ok (deliveryRow cfg t event payload id registration timestamp code)
  | .error _ => .error multipleEvents

/-- The POST of a delivery. -/
abbrev deliveryPost (cfg : Settings) (payload : Payload) (registration : WebhookRegistration)
    (timestamp : ℕ) : SysCall :=
  .post registration.callbackUrl (jsonDumps payload)
    [("Content-Type", "application/json"),
      ("X-Platform-Signature", "sha256=" ++ signPayload cfg registration.signingSecret timestamp
        (utf8 (jsonDumps payload).toList)),
      ("X-Platform-Timestamp", toString timestamp)]

section Run

variable {cfg : Settings} {t : ℕ} {event : String} {payload : Payload} {ω : ℕ → Outcome}
  {w : World}

/-- The clock, the POST, and a row or an exception. -/
theorem deliver_eq (id : ℕ) (registration : WebhookRegistration) :
    deliver cfg t event payload id registration = (do
      let timestamp ← time
      .call (.sys (deliveryPost cfg payload registration timestamp)) (fun answer =>
        .ofExcept (deliveryEnd cfg t event payload id registration timestamp answer))) := by
  refine congrArg (Prog.call (Call.sys .time)) (funext fun timestamp => ?_)
  refine congrArg (Prog.call _) (funext fun answer => ?_)
  cases answer with
  | error e => rfl
  | ok code =>
      show (tryCatch (if 200 ≤ code ∧ code < 300 then _ else _ : Py WebhookDelivery) _ : Py _) = _
      simp only [deliveryEnd, deliveryRow]
      split
      · rfl
      · rfl

/-- The answer to the POST of a delivery. -/
def postAnswer (o : Outcome) : Except PyException ℕ := readAnswer o.fault (some o.httpStatus)

theorem deliver_run (id : ℕ) (registration : WebhookRegistration) :
    (deliver cfg t event payload id registration).run handle ω w =
      (deliveryEnd cfg t event payload id registration (ω 0).now (postAnswer (ω 1)), w) := by
  rw [deliver_eq]
  exact Prog.run_ofExcept _ _ _

theorem deliver_trace (id : ℕ) (registration : WebhookRegistration) :
    (deliver cfg t event payload id registration).trace handle ω w =
      [⟨.sys .time, (ω 0).now⟩,
        ⟨.sys (deliveryPost cfg payload registration (ω 0).now), postAnswer (ω 1)⟩] := by
  rw [deliver_eq]
  exact congrArg (fun τ => [_, _] ++ τ) (Prog.trace_ofExcept _ _ _)

theorem postAnswer_of_answered {o : Outcome} (h : o.fault = none) :
    postAnswer o = .ok o.httpStatus := by
  rw [postAnswer, h]
  rfl

theorem deliver_answered (id : ℕ) (registration : WebhookRegistration) (h : (ω 1).fault = none) :
    (deliver cfg t event payload id registration).run handle ω w =
      (.ok (deliveryRow cfg t event payload id registration (ω 0).now (ω 1).httpStatus), w) := by
  rw [deliver_run, postAnswer_of_answered h]
  rfl

theorem deliver_raises (id : ℕ) (registration : WebhookRegistration) (h : (ω 1).fault ≠ none) :
    (deliver cfg t event payload id registration).run handle ω w = (.error multipleEvents, w) := by
  obtain ⟨fault, hfault⟩ := Option.ne_none_iff_exists'.mp h
  rw [deliver_run, postAnswer, hfault]
  rfl

/-- The attempt that a response makes. -/
def attemptOf (cfg : Settings) (t : ℕ) (event : String) (payload : Payload) (id : ℕ)
    (registration : WebhookRegistration) (timestamp code : ℕ) : Attempt where
  registrationId := id
  registration := registration
  posted :=
    { url := registration.callbackUrl
      content := jsonDumps payload
      headers := [("Content-Type", "application/json"),
        ("X-Platform-Signature", "sha256=" ++ signPayload cfg registration.signingSecret timestamp
          (utf8 (jsonDumps payload).toList)),
        ("X-Platform-Timestamp", toString timestamp)]
      answer := .ok code }
  row := deliveryRow cfg t event payload id registration timestamp code

theorem faithful_attemptOf (id : ℕ) (registration : WebhookRegistration) (timestamp code : ℕ) :
    (attemptOf cfg t event payload id registration timestamp code).Faithful cfg t event
      payload := by
  refine ⟨rfl, rfl, rfl, ⟨rfl, rfl, rfl, rfl⟩, ?_, ?_, ?_, rfl⟩
  · simp [attemptOf, deliveryRow]
  · simp [attemptOf, deliveryRow]
  · simp only [attemptOf, deliveryRow]
    split
    · simp
    · simp

/-- A turn of the loop makes two calls, and goes on to the next if the POST gets a response. -/
theorem deliverAll_turn (id : ℕ) (registration : WebhookRegistration)
    (rest : List (ℕ × WebhookRegistration)) (h : (ω 1).fault = none) :
    let turns := deliverAll cfg t event payload rest >>= fun deliveries =>
      return deliveryRow cfg t event payload id registration (ω 0).now (ω 1).httpStatus ::
        deliveries
    (deliverAll cfg t event payload ((id, registration) :: rest)).run handle ω w =
        turns.run handle (fun n => ω (n + 2)) w ∧
      (deliverAll cfg t event payload ((id, registration) :: rest)).trace handle ω w =
        [⟨.sys .time, (ω 0).now⟩,
          ⟨.sys (deliveryPost cfg payload registration (ω 0).now), .ok (ω 1).httpStatus⟩] ++
          turns.trace handle (fun n => ω (n + 2)) w := by
  have hrun := @deliver_answered cfg t event payload ω w id registration h
  have htrace := @deliver_trace cfg t event payload ω w id registration
  rw [postAnswer_of_answered h] at htrace
  constructor
  · rw [deliverAll, Prog.run_bind_of_ok hrun, htrace]
    rfl
  · rw [deliverAll, Prog.trace_bind_of_ok hrun, htrace]
    rfl

/-- The loop over the registrations, when each POST gets a response. -/
theorem deliverAll_attempts (cfg : Settings) (t : ℕ) (event : String) (payload : Payload)
    (w : World) (registrations : List (ℕ × WebhookRegistration))
    (hanswered : ∀ i < registrations.length, (ω (2 * i + 1)).fault = none) :
    ∃ attempts : List Attempt,
      attempts.map (fun a => (a.registrationId, a.registration)) = registrations ∧
      (deliverAll cfg t event payload registrations).run handle ω w =
        (.ok (attempts.map Attempt.row), w) ∧
      ((deliverAll cfg t event payload registrations).trace handle ω w).filterMap postOf =
        attempts.map Attempt.posted ∧
      ((deliverAll cfg t event payload registrations).trace handle ω w).filterMap recordsOf = [] ∧
      ∀ a ∈ attempts, a.Faithful cfg t event payload := by
  induction registrations generalizing ω with
  | nil => exact ⟨[], rfl, rfl, rfl, rfl, by simp⟩
  | cons target rest ih =>
      obtain ⟨id, registration⟩ := target
      obtain ⟨attempts, rfl, hrunAll, hpostsAll, hrecordsAll, hall⟩ :=
        @ih (fun n => ω (n + 2)) (fun i hi => hanswered (i + 1) (Nat.succ_lt_succ hi))
      obtain ⟨hrun, htrace⟩ := @deliverAll_turn cfg t event payload ω w id registration
        (attempts.map (fun a => (a.registrationId, a.registration))) (hanswered 0 (Nat.succ_pos _))
      have hnil : ∀ (rows : List WebhookDelivery) (ω : ℕ → Outcome),
          (return rows : Py (List WebhookDelivery)).trace handle ω w = [] := fun _ _ => rfl
      refine ⟨attemptOf cfg t event payload id registration (ω 0).now (ω 1).httpStatus :: attempts,
        rfl, ?_, ?_, ?_, List.forall_mem_cons.mpr ⟨faithful_attemptOf _ _ _ _, hall⟩⟩
      · rw [hrun, Prog.run_bind_of_ok hrunAll]
        rfl
      · rw [htrace, Prog.trace_bind_of_ok hrunAll, hnil, List.append_nil, List.filterMap_append,
          hpostsAll]
        rfl
      · rw [htrace, Prog.trace_bind_of_ok hrunAll, hnil, List.append_nil, List.filterMap_append,
          hrecordsAll]
        rfl

/-- The loop ends at the first POST that raises, with nothing committed. -/
theorem deliverAll_raises (cfg : Settings) (t : ℕ) (event : String) (payload : Payload)
    (w : World) (registrations : List (ℕ × WebhookRegistration)) {i : ℕ}
    (hi : i < registrations.length) (hraised : (ω (2 * i + 1)).fault ≠ none) :
    (deliverAll cfg t event payload registrations).run handle ω w = (.error multipleEvents, w) ∧
      ((deliverAll cfg t event payload registrations).trace handle ω w).filterMap recordsOf =
        [] := by
  induction registrations generalizing ω i with
  | nil => cases hi
  | cons target rest ih =>
      obtain ⟨id, registration⟩ := target
      by_cases hfirst : (ω 1).fault = none
      · -- the first POST is answered, so the one that raises is among the rest
        obtain ⟨j, rfl⟩ : ∃ j, i = j + 1 := by
          cases i with
          | zero => exact absurd hfirst hraised
          | succ j => exact ⟨j, rfl⟩
        obtain ⟨hrunAll, hrecordsAll⟩ :=
          @ih (fun n => ω (n + 2)) j (Nat.lt_of_succ_lt_succ hi) hraised
        obtain ⟨hrun, htrace⟩ :=
          @deliverAll_turn cfg t event payload ω w id registration rest hfirst
        constructor
        · rw [hrun, Prog.run_bind_of_error hrunAll]
        · rw [htrace, Prog.trace_bind_of_error hrunAll, List.filterMap_append, hrecordsAll]
          rfl
      · have hrun := @deliver_raises cfg t event payload ω w id registration hfirst
        refine ⟨Prog.run_bind_of_error hrun, ?_⟩
        rw [deliverAll, Prog.trace_bind_of_error hrun, deliver_trace]
        rfl

/-- The statement at the end adds the rows, if it does not fail. -/
theorem commitWebhookDeliveries_gains {rows : List WebhookDelivery}
    (h : ((commitWebhookDeliveries rows).run handle ω w).1 = .ok ()) :
    w.db.webhookDeliveries.Gains
        ((commitWebhookDeliveries rows).run handle ω w).2.db.webhookDeliveries rows ∧
      ((commitWebhookDeliveries rows).run handle ω w).2.db.webhookRegistrations =
        w.db.webhookRegistrations := by
  have hrun : (commitWebhookDeliveries rows).run handle ω w =
      (Prog.ofExcept (w.db.commitWebhookDeliveries (ω 0).want rows).1).run handle
        (fun n => ω (n + 1))
        { w with db := (w.db.commitWebhookDeliveries (ω 0).want rows).2 } := rfl
  rw [hrun] at h ⊢
  unfold Database.commitWebhookDeliveries at h ⊢
  split
  · exact ⟨Table.gains_foldl_put _ rows _, rfl⟩
  · rename_i hbad
    rw [if_neg hbad] at h
    cases h

/-- What a dispatch has done when it returns, attempt by attempt. -/
structure FansOut (cfg : Settings) (t : ℕ) (event : String) (payload : Payload) (db : Database)
    (attempts : List Attempt) (τ : List (Exchange Call Call.Result)) (after : Database) : Prop where
  distinct : (attempts.map Attempt.registrationId).Nodup
  targets : ∀ id registration,
    (id, registration) ∈ attempts.map (fun a => (a.registrationId, a.registration)) ↔
      db.webhookRegistrations.get id = some registration ∧ registration.tenantId = t ∧
        registration.isActive = true
  posts : τ.filterMap postOf = attempts.map Attempt.posted
  commits : τ.filterMap recordsOf =
    if attempts = [] then [] else [attempts.map Attempt.row]
  rows : db.webhookDeliveries.Gains after.webhookDeliveries (attempts.map Attempt.row)
  registrations : after.webhookRegistrations = db.webhookRegistrations
  faithful : ∀ a ∈ attempts, a.Faithful cfg t event payload

/-- The registrations that a dispatch goes through. -/
def Database.activeRegistrations (db : Database) (t : ℕ) : List (ℕ × WebhookRegistration) :=
  db.webhookRegistrations.select (fun r => r.tenantId = t && r.isActive)

/-- The outcome of the POST to the registration at position `i`. A dispatch reports its entry,
selects the registrations and then looks at the clock before each POST. -/
def postOutcome (ω : ℕ → Outcome) (i : ℕ) : Outcome := ω (2 * i + 3)

/-- What `dispatch_tenant_webhooks` does after its loop. -/
def finish (registrations : List (ℕ × WebhookRegistration)) (deliveries : List WebhookDelivery) :
    Py Unit :=
  if registrations ≠ [] then commitWebhookDeliveries deliveries else pure ()

/-- The loop runs over the active registrations of the tenant. -/
theorem dispatchTenantWebhooks_begins (cfg : Settings) (t : ℕ) (event : String) (payload : Payload)
    (ω : ℕ → Outcome) (w : World) :
    let registrations := w.db.activeRegistrations t
    let rest := deliverAll cfg t event payload registrations >>= finish registrations
    (dispatchTenantWebhooks cfg t event payload).run handle ω w =
        rest.run handle (fun n => ω (n + 2)) w ∧
      (dispatchTenantWebhooks cfg t event payload).trace handle ω w =
        ⟨.sys (.mark (.dispatchTenantWebhooks t event payload)), ()⟩ ::
          ⟨.db (.selectActiveWebhookRegistrations t), registrations⟩ ::
            rest.trace handle (fun n => ω (n + 2)) w :=
  ⟨rfl, rfl⟩

theorem trace_commit (rows : List WebhookDelivery) (ω : ℕ → Outcome) (w : World) :
    (commitWebhookDeliveries rows).trace handle ω w =
      [⟨.db (.commitWebhookDeliveries rows), (w.db.commitWebhookDeliveries (ω 0).want rows).1⟩] :=
  congrArg (List.cons _) (Prog.trace_ofExcept _ _ _)

/-- The statement at the end is the only one of a dispatch that can fail. -/
theorem run_finish_of_committed {registrations : List (ℕ × WebhookRegistration)}
    {deliveries : List WebhookDelivery}
    (h : ∀ x ∈ (finish registrations deliveries).trace handle ω w, statementFailed x = false) :
    ((finish registrations deliveries).run handle ω w).1 = .ok () := by
  unfold finish at h ⊢
  split
  · rename_i hsome
    rw [if_pos hsome, trace_commit] at h
    have hcommit := h _ List.mem_cons_self
    have hrun : ((commitWebhookDeliveries deliveries).run handle ω w).1 =
        (w.db.commitWebhookDeliveries (ω 0).want deliveries).1 :=
      congrArg Prod.fst (Prog.run_ofExcept _ _ _)
    rw [hrun]
    cases hanswer : (w.db.commitWebhookDeliveries (ω 0).want deliveries).1 with
    | ok u => rfl
    | error e =>
        rw [hanswer] at hcommit
        cases hcommit
  · rfl

theorem dispatchTenantWebhooks_fansOut
    (hanswered : ∀ i < (w.db.activeRegistrations t).length, (postOutcome ω i).fault = none)
    (hdb : ∀ x ∈ (dispatchTenantWebhooks cfg t event payload).trace handle ω w,
      statementFailed x = false) :
    ∃ attempts : List Attempt,
      FansOut cfg t event payload w.db attempts
        ((dispatchTenantWebhooks cfg t event payload).trace handle ω w)
        ((dispatchTenantWebhooks cfg t event payload).run handle ω w).2.db := by
  obtain ⟨attempts, htargets, hrun, hposts, hrecords, hfaithful⟩ :=
    @deliverAll_attempts (fun n => ω (n + 2)) cfg t event payload w (w.db.activeRegistrations t)
      hanswered
  obtain ⟨hbeginRun, hbeginTrace⟩ := dispatchTenantWebhooks_begins cfg t event payload ω w
  have htrace := Prog.trace_bind_of_ok (f := finish (w.db.activeRegistrations t)) hrun
  have hok := run_finish_of_committed (fun x hx => hdb x (by
    rw [hbeginTrace, htrace]
    exact List.mem_cons_of_mem _ (List.mem_cons_of_mem _ (List.mem_append_right _ hx))))
  rw [hbeginRun, hbeginTrace, Prog.run_bind_of_ok hrun]
  have hkeys : attempts.map Attempt.registrationId =
      (w.db.activeRegistrations t).map Prod.fst := by
    rw [← htargets, List.map_map]
    rfl
  have hempty : w.db.activeRegistrations t = [] ↔ attempts = [] := by
    rw [← htargets, List.map_eq_nil_iff]
  refine ⟨attempts, ?_, ?_, ?_, ?_, ?_, ?_, hfaithful⟩
  · rw [hkeys]
    exact List.pairwise_map.mpr ((Table.select_pairwise _ _).imp (fun h => h.ne))
  · intro id registration
    rw [htargets, Database.activeRegistrations, Table.mem_select]
    simp only [Bool.and_eq_true, decide_eq_true_eq]
  · show List.filterMap postOf (Prog.trace _ _ _ _) = _
    rw [htrace, List.filterMap_append, hposts]
    by_cases hnone : attempts = []
    · rw [finish, if_neg (not_not_intro (hempty.mpr hnone))]
      exact List.append_nil _
    · rw [finish, if_pos (mt hempty.mp hnone), trace_commit]
      exact List.append_nil _
  · show List.filterMap recordsOf (Prog.trace _ _ _ _) = _
    rw [htrace, List.filterMap_append, hrecords]
    by_cases hnone : attempts = []
    · rw [finish, if_neg (not_not_intro (hempty.mpr hnone)), if_pos hnone]
      rfl
    · rw [finish, if_pos (mt hempty.mp hnone), if_neg hnone, trace_commit]
      rfl
  · by_cases hnone : attempts = []
    · rw [finish, if_neg (not_not_intro (hempty.mpr hnone)), hnone]
      exact ⟨[], rfl, .nil, by simp, fun j => rfl⟩
    · rw [finish, if_pos (mt hempty.mp hnone)] at hok ⊢
      exact (commitWebhookDeliveries_gains hok).1
  · by_cases hnone : attempts = []
    · rw [finish, if_neg (not_not_intro (hempty.mpr hnone))]
      rfl
    · rw [finish, if_pos (mt hempty.mp hnone)] at hok ⊢
      exact (commitWebhookDeliveries_gains hok).2

/-- A dispatch in which a POST raises commits no row and leaves everything as it was. -/
theorem dispatchTenantWebhooks_raises (cfg : Settings) (t : ℕ) (event : String)
    (payload : Payload) {i : ℕ} (hi : i < (w.db.activeRegistrations t).length)
    (hraised : (postOutcome ω i).fault ≠ none) :
    (dispatchTenantWebhooks cfg t event payload).run handle ω w = (.error multipleEvents, w) ∧
      ((dispatchTenantWebhooks cfg t event payload).trace handle ω w).filterMap recordsOf = [] := by
  obtain ⟨hrun, hrecords⟩ :=
    @deliverAll_raises (fun n => ω (n + 2)) cfg t event payload w _ i hi hraised
  obtain ⟨hbeginRun, hbeginTrace⟩ := dispatchTenantWebhooks_begins cfg t event payload ω w
  constructor
  · rw [hbeginRun, Prog.run_bind_of_error hrun]
  · rw [hbeginTrace, Prog.trace_bind_of_error hrun]
    exact hrecords

/-- Without a row for each attempt the deliveries are not complete. -/
theorem not_fansOut_of_raised {attempts : List Attempt} {i : ℕ}
    (hi : i < (w.db.activeRegistrations t).length) (hraised : (postOutcome ω i).fault ≠ none) :
    ¬ FansOut cfg t event payload w.db attempts
        ((dispatchTenantWebhooks cfg t event payload).trace handle ω w)
        ((dispatchTenantWebhooks cfg t event payload).run handle ω w).2.db := by
  intro h
  have hcommits := h.commits
  rw [(dispatchTenantWebhooks_raises cfg t event payload hi hraised).2] at hcommits
  have hnone : attempts = [] := by
    by_contra hsome
    rw [if_neg hsome] at hcommits
    cases hcommits
  -- yet the registration of that POST is one of the targets
  obtain ⟨hget, hmatch⟩ := (Table.mem_select _ _ _ _).mp (List.getElem_mem hi)
  rw [Bool.and_eq_true, decide_eq_true_eq] at hmatch
  have htarget := (h.targets _ _).mpr ⟨hget, hmatch⟩
  rw [hnone] at htarget
  cases htarget

end Run

/-- As statements succeed, each active registration of the tenant gets its POST and each POST
its row, from which its signature can be computed again, exactly when no POST raises. -/
theorem fans_out_iff_answered (cfg : Settings) (t : ℕ) (event : String) {payload : Payload}
    {ω : ℕ → Outcome} {w : World} (hdict : (payload.map Prod.fst).Nodup)
    (hdb : ∀ x ∈ (dispatchTenantWebhooks cfg t event payload).trace handle ω w,
      statementFailed x = false) :
    (∃ attempts : List Attempt,
      FansOut cfg t event payload w.db attempts
        ((dispatchTenantWebhooks cfg t event payload).trace handle ω w)
        ((dispatchTenantWebhooks cfg t event payload).run handle ω w).2.db ∧
      ∀ a ∈ attempts, ∀ stored : Payload, stored.Perm a.row.payload →
        signPayload cfg a.registration.signingSecret a.row.timestamp
          (utf8 (jsonDumps stored).toList) = a.row.signature) ↔
      ∀ i < (w.db.activeRegistrations t).length, (postOutcome ω i).fault = none := by
  constructor
  · rintro ⟨attempts, hfan, -⟩ i hi
    by_contra hraised
    exact not_fansOut_of_raised hi hraised hfan
  · intro hanswered
    obtain ⟨attempts, hfan⟩ := dispatchTenantWebhooks_fansOut hanswered hdb
    refine ⟨attempts, hfan, fun a ha stored hstored => ?_⟩
    have hfaithful := hfan.faithful a ha
    rw [hfaithful.about.2.2.2] at hstored
    rw [jsonDumps_perm hdict hstored, hfaithful.signature]

/-! ### Two registrations, one of which is down -/

/-- Tenant 1 has two active registrations and an inactive one; tenant 2 has one. -/
def subscribed : Database :=
  { Database.empty with
    tenants := (Table.empty.put 1 ⟨"acme", "tenant-1", 0, true⟩).put 2
      ⟨"umbrella", "tenant-2", 0, true⟩
    webhookRegistrations :=
      (((Table.empty.put 1 ⟨1, "https://acme.example/hook", "s1", 0, true⟩).put 2
        ⟨2, "https://umbrella.example/hook", "s2", 0, true⟩).put 3
          ⟨1, "https://acme.example/old", "s3", 0, false⟩).put 4
            ⟨1, "https://acme.example/down", "s4", 0, true⟩ }

def samplePayload : Payload := [("build_job_id", .int 7), ("error_message", .null)]

/-- The second POST is answered 503. -/
def secondUnavailable (n : ℕ) : Outcome := if n = 5 then { httpStatus := 503 } else .ok

theorem fans_out_iff_answered_unavailable :
    ∃ attempts : List Attempt,
      FansOut sampleSettings 1 "build.failed" samplePayload subscribed attempts
        ((dispatchTenantWebhooks sampleSettings 1 "build.failed" samplePayload).trace handle
          secondUnavailable ⟨subscribed, .empty⟩)
        ((dispatchTenantWebhooks sampleSettings 1 "build.failed" samplePayload).run handle
          secondUnavailable ⟨subscribed, .empty⟩).2.db ∧
      ∀ a ∈ attempts, ∀ stored : Payload, stored.Perm a.row.payload →
        signPayload sampleSettings a.registration.signingSecret a.row.timestamp
          (utf8 (jsonDumps stored).toList) = a.row.signature :=
  (@fans_out_iff_answered sampleSettings 1 "build.failed" samplePayload secondUnavailable
    ⟨subscribed, .empty⟩ (by decide) (by decide +kernel)).mpr (by decide +kernel)

/-- The connection to the second registration is refused. -/
def secondDown (n : ℕ) : Outcome :=
  if n = 5 then { fault := some ⟨.other "All connection attempts failed", false⟩ } else .ok

/-- The first POST has been answered, and yet not even its row is committed. -/
theorem refused_post_loses_deliveries :
    ¬ ∃ attempts : List Attempt,
      FansOut sampleSettings 1 "build.failed" samplePayload subscribed attempts
        ((dispatchTenantWebhooks sampleSettings 1 "build.failed" samplePayload).trace handle
          secondDown ⟨subscribed, .empty⟩)
        ((dispatchTenantWebhooks sampleSettings 1 "build.failed" samplePayload).run handle
          secondDown ⟨subscribed, .empty⟩).2.db := by
  rintro ⟨attempts, hfan⟩
  exact not_fansOut_of_raised (w := ⟨subscribed, .empty⟩) (i := 1) (by decide +kernel)
    (by decide) hfan

end TenantPlatform
