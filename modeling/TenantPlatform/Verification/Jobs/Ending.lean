import TenantPlatform.Verification.Jobs.Quiet

/-! # How a job can end

Until its request or its poller settles it, nothing has been heard of a job. There are
four ways in which the run that handles it can end. -/

namespace TenantPlatform

open Effect

/-- The history handles at most the job `j`, and nothing has been heard of it. -/
structure Calm (j : Job) (τ : History) : Prop where
  sole : ∀ j', Owned j' τ → j' = j
  silent : signalsOf j τ = []
  undecided : ∀ x ∈ τ, decisive x = false
  unraised : ∀ x ∈ τ, statusReadRaised x = false
  present : ¬ FoundGone j τ

/-- No job has been begun. -/
structure Idle (τ : History) : Prop where
  unowned : ∀ j, ¬ Owned j τ
  calm : ∀ j, Calm j τ
  unwritten : ∀ x ∈ τ, ∀ ns image replicas, ¬ WritesApp ns image replicas x

inductive Ending (j : Job) (τ : History) : Prop where
  | unannounced (a : Announcement) (hsignals : signalsOf j τ = [.settled a])
      (hrow : LeftSettled j τ) (hundecided : ∀ x ∈ τ, decisive x = false)
      (hunraised : ∀ x ∈ τ, statusReadRaised x = false) (hpresent : ¬ FoundGone j τ)
  | raised (hsignals : signalsOf j τ = []) (hrow : LeftActive j τ)
      (hraised : ∃ x ∈ τ, statusReadRaised x = true)
  | gone (hsignals : signalsOf j τ = []) (hunraised : ∀ x ∈ τ, statusReadRaised x = false)
      (hgone : FoundGone j τ)
  | announced (a : Announcement) (hsignals : signalsOf j τ = [.dispatched a, .settled a])
      (hrow : LeftSettled j τ) (hdecided : ∃ x ∈ τ, decisive x = true)
      (hunraised : ∀ x ∈ τ, statusReadRaised x = false)

/-- What holds when a request and its background task are through. -/
def Finished (τ : History) : Prop :=
  (∃ x ∈ τ, statementFailed x = true) ∨ ∀ j, Owned j τ → Ending j τ

/-! ## One more call -/

section Cons

variable {j : Job} {τ : History} {x : Exchange Call Call.Result}

theorem signalsOf_cons_none (h : signalOf j x = none) (τ : History) :
    signalsOf j (x :: τ) = signalsOf j τ := by
  simp [signalsOf, h]

theorem signalsOf_cons_some {s : Signal} (h : signalOf j x = some s) (τ : History) :
    signalsOf j (x :: τ) = s :: signalsOf j τ := by
  simp [signalsOf, h]

theorem Finished.of_failed (h : statementFailed x = true) (τ : History) : Finished (x :: τ) :=
  .inl ⟨x, List.mem_cons_self, h⟩

theorem forall_mem_cons_false {f : Exchange Call Call.Result → Bool} (hx : f x = false)
    (h : ∀ y ∈ τ, f y = false) : ∀ y ∈ x :: τ, f y = false := by
  intro y hy
  rcases List.mem_cons.mp hy with rfl | hy
  · exact hx
  · exact h y hy

/-- A call that is neither an announcement nor a decisive or failing read leaves all calm. -/
theorem Calm.cons (h : Calm j τ) (hsole : ∀ j', Owned j' (x :: τ) → j' = j)
    (hsignal : signalOf j x = none) (hdecisive : decisive x = false)
    (hraised : statusReadRaised x = false) (hmissing : missing j x = true → ¬ Owned j τ) :
    Calm j (x :: τ) where
  sole := hsole
  silent := (signalsOf_cons_none hsignal τ).trans h.silent
  undecided := forall_mem_cons_false hdecisive h.undecided
  unraised := forall_mem_cons_false hraised h.unraised
  present := by
    rintro (⟨hm, hown⟩ | hgone)
    · exact hmissing hm hown
    · exact h.present hgone

theorem owned_cons_of_unwritten (hb : writtenBuild x = none) (hd : writtenDeployment x = none)
    (j : Job) (τ : History) : Owned j (x :: τ) ↔ Owned j τ := by
  cases j with
  | build id => simp only [Owned, lastBuild, lastRow_cons_none hb]
  | deployment id => simp only [Owned, lastDeployment, lastRow_cons_none hd]

theorem owned_cons_of_writtenBuild {n : ℕ} {a : BuildJob} (hb : writtenBuild x = some (n, a))
    (hd : writtenDeployment x = none) (j' : Job) (τ : History) (h : Owned j' (x :: τ)) :
    j' = .build n ∨ Owned j' τ := by
  cases j' with
  | build k =>
      by_cases hk : k = n
      · exact .inl (by rw [hk])
      · simp only [Owned, lastBuild, lastRow_cons_some hb, if_neg hk] at h
        exact .inr h
  | deployment k =>
      simp only [Owned, lastDeployment, lastRow_cons_none hd] at h
      exact .inr h

theorem owned_cons_of_writtenDeployment {n : ℕ} {a : Deployment}
    (hd : writtenDeployment x = some (n, a)) (hb : writtenBuild x = none) (j' : Job)
    (τ : History) (h : Owned j' (x :: τ)) : j' = .deployment n ∨ Owned j' τ := by
  cases j' with
  | build k =>
      simp only [Owned, lastBuild, lastRow_cons_none hb] at h
      exact .inr h
  | deployment k =>
      by_cases hk : k = n
      · exact .inl (by rw [hk])
      · simp only [Owned, lastDeployment, lastRow_cons_some hd, if_neg hk] at h
        exact .inr h

/-- A call that writes no row at all. -/
theorem Calm.cons_of_unwritten (h : Calm j τ) (hb : writtenBuild x = none)
    (hd : writtenDeployment x = none) (hsignal : signalOf j x = none)
    (hdecisive : decisive x = false)
    (hraised : statusReadRaised x = false) (hmissing : missing j x = true → ¬ Owned j τ) :
    Calm j (x :: τ) :=
  h.cons (fun j' hj' => h.sole j' ((owned_cons_of_unwritten hb hd j' τ).mp hj')) hsignal hdecisive
    hraised hmissing

end Cons

theorem steady_calm (j : Job) : Steady (Calm j) :=
  fun _ _ hx h => h.cons_of_unwritten (writtenBuild_of_quiet hx) (writtenDeployment_of_quiet hx)
    (signalOf_of_quiet hx j) (statusRead_of_quiet hx).2 (statusRead_of_quiet hx).1
    (fun hm => by rw [missing_of_quiet hx j] at hm; cases hm)

theorem steady_idle : Steady Idle := by
  intro x τ hx h
  refine ⟨fun j hj => h.unowned j ((owned_cons_of_quiet hx j τ).mp hj),
    fun j => steady_calm j x τ hx (h.calm j), ?_⟩
  intro y hy
  rcases List.mem_cons.mp hy with rfl | hy
  · exact fun ns image replicas => not_writesApp_of_quiet hx ns image replicas
  · exact h.unwritten y hy

theorem idle_nil : Idle [] where
  unowned j := by cases j <;> simp [Owned, lastRow]
  calm j :=
    { sole := fun j' h => by cases j' <;> simp [Owned, lastRow] at h
      silent := rfl
      undecided := by simp
      unraised := by simp
      present := fun h => h }
  unwritten := by simp

theorem Idle.finished {τ : History} (h : Idle τ) : Finished τ :=
  .inr (fun j hj => absurd hj (h.unowned j))

/-! ## Announcing -/

section Dispatch

variable (cfg : Settings)

theorem deliver_uses {allowed : Call → Prop} (htime : allowed (.sys .time))
    (hpost : ∀ url content headers, allowed (.sys (.post url content headers))) (tenantId : ℕ)
    (event : String) (payload : Payload) (id : ℕ) (registration : WebhookRegistration) :
    (deliver cfg tenantId event payload id registration).Uses allowed
      (fun d => d.tenantId = tenantId ∧ d.webhookRegistrationId = id) := by
  refine ⟨htime, fun timestamp => ?_⟩
  refine Prog.Uses.tryCatch ⟨hpost _ _ _, fun r => ?_⟩ (fun _ => trivial)
  cases r with
  | error x => trivial
  | ok code =>
      show (if _ then _ else _ : Py WebhookDelivery).Uses _ _
      split
      · exact ⟨rfl, rfl⟩
      · exact ⟨rfl, rfl⟩

/-- Every delivery is for one of the registrations. -/
theorem deliverAll_uses {allowed : Call → Prop} (htime : allowed (.sys .time))
    (hpost : ∀ url content headers, allowed (.sys (.post url content headers))) (tenantId : ℕ)
    (event : String) (payload : Payload) (registrations : List (ℕ × WebhookRegistration)) :
    (deliverAll cfg tenantId event payload registrations).Uses allowed
      (fun ds => ∀ d ∈ ds, d.tenantId = tenantId ∧
        ∃ r ∈ registrations, r.1 = d.webhookRegistrationId) := by
  induction registrations with
  | nil => exact fun d hd => by cases hd
  | cons r rest ih =>
      refine (deliver_uses cfg htime hpost tenantId event payload r.1 r.2).bind (fun d hd => ?_)
      refine ih.bind (fun ds hds => ?_)
      intro d' hd'
      rcases List.mem_cons.mp hd' with rfl | hd'
      · exact ⟨hd.1, r, List.mem_cons_self, hd.2.symm⟩
      · obtain ⟨ht, r', hr', heq⟩ := hds d' hd'
        exact ⟨ht, r', List.mem_cons_of_mem r hr', heq⟩

/-- A dispatch for the job that has just been settled, in whatever way it ends. -/
theorem dispatchTenantWebhooks_along {j : Job} {a : Announcement} {τ : History}
    (hjob : payloadJob a.payload = some j) (hsole : ∀ j', Owned j' τ → j' = j)
    (hsignals : signalsOf j τ = [.settled a]) (hrow : LeftSettled j τ)
    (hdecided : ∃ x ∈ τ, decisive x = true) (hunraised : ∀ x ∈ τ, statusReadRaised x = false) :
    (dispatchTenantWebhooks cfg a.tenantId a.event a.payload).Along requestDiscipline
      (fun _ τ' => Finished τ') (fun _ τ' => Finished τ') τ := by
  have hown : Owned j τ := by
    cases j with
    | build id =>
        obtain ⟨row, hlast, -⟩ := hrow
        simp [Owned, hlast]
    | deployment id =>
        obtain ⟨row, hlast, -⟩ := hrow
        simp [Owned, hlast]
  -- what the rest of the dispatch, free calls only, does not change
  have hsteady : Steady (fun τ => (∀ j', Owned j' τ → j' = j) ∧
      signalsOf j τ = [.dispatched a, .settled a] ∧ LeftSettled j τ ∧
      (∃ x ∈ τ, decisive x = true) ∧ ∀ x ∈ τ, statusReadRaised x = false) := by
    rintro x τ hx ⟨hsole, hsignals, hrow, hdecided, hunraised⟩
    refine ⟨fun j' hj' => hsole j' ((owned_cons_of_quiet hx j' τ).mp hj'),
      (signalsOf_cons_none (signalOf_of_quiet hx j) τ).trans hsignals, ?_,
      steady_mem _ x τ hx hdecided, forall_mem_cons_false (statusRead_of_quiet hx).1 hunraised⟩
    cases j with
    | build id =>
        exact hrow.imp (fun row h => ⟨steady_lastBuild id row x τ hx h.1, h.2⟩)
    | deployment id =>
        exact hrow.imp (fun row h => ⟨steady_lastDeployment id row x τ hx h.1, h.2⟩)
  refine ⟨⟨j, hjob, hown⟩, fun r _ => ?_⟩
  refine (along_of_free (I := fun τ => (∀ j', Owned j' τ → j' = j) ∧
      signalsOf j τ = [.dispatched a, .settled a] ∧ LeftSettled j τ ∧
      (∃ x ∈ τ, decisive x = true) ∧ ∀ x ∈ τ, statusReadRaised x = false)
    (Q := fun _ => True) ?_ hsteady ?_).mono ?_ ?_
  · refine ⟨rfl, fun registrations => ?_⟩
    have huses := @deliverAll_uses cfg (fun e => e.free = true) rfl (fun _ _ _ => rfl)
    refine (huses _ _ _ registrations).bind (fun deliveries _ => ?_)
    show (if _ then _ else _ : Py Unit).Uses _ _
    split
    · exact ⟨rfl, fun r => by cases r <;> trivial⟩
    · trivial
  · refine ⟨fun j' hj' => hsole j' ((owned_cons_of_unwritten rfl rfl j' τ).mp hj'), ?_, ?_, ?_,
      forall_mem_cons_false rfl hunraised⟩
    · rw [signalsOf_cons_some (s := .dispatched a) (by simp [signalOf, signal, hjob]), hsignals]
    · cases j with
      | build id => exact hrow.imp (fun row h => ⟨(lastRow_cons_none rfl _ _).trans h.1, h.2⟩)
      | deployment id => exact hrow.imp (fun row h => ⟨(lastRow_cons_none rfl _ _).trans h.1, h.2⟩)
    · exact hdecided.imp (fun _ h => ⟨List.mem_cons_of_mem _ h.1, h.2⟩)
  · rintro _ τ' ⟨-, hsole, hsignals, hrow, hdecided, hunraised⟩
    exact .inr (fun j' hj' => hsole j' hj' ▸ .announced a hsignals hrow hdecided hunraised)
  · rintro _ τ' ⟨hsole, hsignals, hrow, hdecided, hunraised⟩
    exact .inr (fun j' hj' => hsole j' hj' ▸ .announced a hsignals hrow hdecided hunraised)

end Dispatch

/-! ## Polling -/

/-- The rule of the polling loop: an invariant of the reads that find nothing. -/
theorem pollLoop_along {D : Discipline Call Call.Result} {β : Type} {timeout interval : ℕ}
    {read : Py (Option β)} {resolve : β → Py Unit} {expire : Py Unit} {I : History → Prop}
    {J : β → History → Prop} {fin : History → Prop}
    (hsleep : ∀ τ r, I τ → D.may τ (.sys (.sleep interval)) ∧ I (⟨.sys (.sleep interval), r⟩ :: τ))
    (hread : ∀ τ, I τ → read.Along D (fun o τ' => o.elim (I τ') (fun b => J b τ')) (fun _ => fin) τ)
    (hresolve : ∀ b τ, J b τ → (resolve b).Along D (fun _ => fin) (fun _ => fin) τ)
    (hexpire : ∀ τ, I τ → expire.Along D (fun _ => fin) (fun _ => fin) τ) :
    ∀ fuel elapsed τ, I τ → (pollLoop timeout interval read resolve expire fuel elapsed).Along
      D (fun _ => fin) (fun _ => fin) τ := by
  intro fuel
  induction fuel with
  | zero => exact fun _ τ h => hexpire τ h
  | succ fuel ih =>
      intro elapsed τ h
      unfold pollLoop
      split
      · refine ⟨(hsleep τ () h).1, fun r _ => (hread _ (hsleep τ r h).2).bind ?_⟩
        rintro (_ | b) τ' h'
        · exact ih _ τ' h'
        · exact hresolve b τ' h'
      · exact hexpire τ h

end TenantPlatform
