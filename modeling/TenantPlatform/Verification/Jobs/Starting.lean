import TenantPlatform.Effect.Answers
import TenantPlatform.Verification.Cluster.Calls
import TenantPlatform.Verification.Jobs.Settlement

/-! # How a start ends

A service that starts a build or a deployment makes a number of cluster calls, any of which
may fail in any way. The row says afterwards how that went. -/

namespace TenantPlatform

open Effect

/-! ## What the cluster answers -/

/-- The database works as ever, and every cluster call gets the answer that is given for it. -/
def answering (reply : (e : K8sCall) → e.Result) :
    (e : Call) → Outcome → Database → e.Result × Database
  | .db e, o, db => handleDb o.want o.now e db
  | .k8s e, _, db => (reply e, db)
  | .sys e, o, db => (handleSys o e, db)

/-- The exception with which a create call that may answer 409 ends the start. -/
def refusal : Except PyException Unit → Option PyException
  | .ok () => none
  | .error e => if e.isConflict then none else some e

/-- The exception of an answer that is one. -/
def failure {α : Type} : Except PyException α → Option PyException
  | .ok _ => none
  | .error e => some e

/-- The address the DNS lookup ends with: none if the API refuses it. -/
def dnsAnswer (reply : (e : K8sCall) → e.Result) : Option String :=
  match reply (.readService "kube-system" "kube-dns") with
  | .ok ip => ip
  | .error _ => none

/-- The exception with which the DNS lookup ends the start. -/
def dnsRefusal (reply : (e : K8sCall) → e.Result) : Option PyException :=
  match reply (.readService "kube-system" "kube-dns") with
  | .ok _ => none
  | .error e => if e.isApi then none else some e

section Answers

variable (cfg : Settings) (reply : (e : K8sCall) → e.Result) (ns : String)

/-- The exception that ends `ensure_tenant_namespace`, if one does. -/
def setupRefusal : Option PyException :=
  (refusal (reply (.create .ns "" ns namespaceBody))).or <|
  (refusal (reply (.create .resourceQuota ns "tenant-quota" quotaBody))).or <|
  (refusal (reply (.create .limitRange ns "tenant-limit-range" limitRangeBody))).or <|
  (dnsRefusal reply).or <|
  (refusal (reply (.create .networkPolicy ns "tenant-default-deny"
    (networkPolicyBody (dnsAnswer reply))))).or <|
  (refusal (reply (.create .secret ns registrySecretName (secretBody cfg)))).or <|
  refusal (reply (.create .serviceAccount ns tenantServiceAccountName serviceAccountBody))

/-- The exception that ends the start of a build, if one does. -/
def buildRefusal (image : ImageBody) (name : String) : Option PyException :=
  (setupRefusal cfg reply ns).or (failure (reply (.create .image ns name image)))

/-- The create call succeeded, or the object was there. -/
def Passes (answer : Except PyException Unit) : Prop :=
  ∀ e, answer = .error e → e.isConflict = true

/-- The calls of a build's start are answered as it needs. -/
structure BuildStarts (image : ImageBody) (name : String) : Prop where
  root : Passes (reply (.create .ns "" ns namespaceBody))
  quota : Passes (reply (.create .resourceQuota ns "tenant-quota" quotaBody))
  limits : Passes (reply (.create .limitRange ns "tenant-limit-range" limitRangeBody))
  dns : ∀ e, reply (.readService "kube-system" "kube-dns") = .error e → e.isApi = true
  policy : Passes (reply (.create .networkPolicy ns "tenant-default-deny"
    (networkPolicyBody (dnsAnswer reply))))
  secret : Passes (reply (.create .secret ns registrySecretName (secretBody cfg)))
  account : Passes (reply (.create .serviceAccount ns tenantServiceAccountName
    serviceAccountBody))
  image : reply (.create .image ns name image) = .ok ()

/-- The calls of a deployment's start are answered as it needs. -/
structure DeploymentStarts (image : Option String) (replicas : ℕ) : Prop where
  deployment :
    reply (.create .deployment ns tenantAppName (deploymentBody image replicas tenantAppName)) =
        .ok () ∨
      (∃ e, reply (.create .deployment ns tenantAppName
          (deploymentBody image replicas tenantAppName)) = .error e ∧ e.isConflict = true) ∧
        reply (.patchDeployment ns tenantAppName (deploymentPatch image replicas)) = .ok ()
  service : Passes (reply (.create .service ns tenantAppName (serviceBody tenantAppName)))

end Answers

section Eval

variable {cfg : Settings} {reply : (e : K8sCall) → e.Result} {ns : String}

theorem refusal_eq_none (answer : Except PyException Unit) :
    refusal answer = none ↔ Passes answer := by
  cases answer with
  | ok u => simp [refusal, Passes]
  | error e => simp [refusal, Passes]

theorem failure_eq_none (answer : Except PyException Unit) :
    failure answer = none ↔ answer = .ok () := by
  cases answer with
  | ok u => simp [failure]
  | error e => simp [failure]

theorem dnsRefusal_eq_none :
    dnsRefusal reply = none ↔
      ∀ e, reply (.readService "kube-system" "kube-dns") = .error e → e.isApi = true := by
  unfold dnsRefusal
  cases reply (.readService "kube-system" "kube-dns") with
  | ok ip => simp
  | error e => simp

/-- A build starts exactly if nothing refuses it. -/
theorem buildRefusal_eq_none (cfg : Settings) (reply : (e : K8sCall) → e.Result) (ns : String)
    (image : ImageBody) (name : String) :
    buildRefusal cfg reply ns image name = none ↔ BuildStarts cfg reply ns image name := by
  simp only [buildRefusal, setupRefusal, Option.or_eq_none_iff, refusal_eq_none,
    dnsRefusal_eq_none, failure_eq_none]
  constructor
  · rintro ⟨⟨hroot, hquota, hlimits, hdns, hpolicy, hsecret, haccount⟩, himage⟩
    exact ⟨hroot, hquota, hlimits, hdns, hpolicy, hsecret, haccount, himage⟩
  · intro h
    exact ⟨⟨h.root, h.quota, h.limits, h.dns, h.policy, h.secret, h.account⟩, h.image⟩

/-- The answer to a call while the database is `db`. -/
def answerAt (reply : (e : K8sCall) → e.Result) (db : Database) (e : Call) : e.Result :=
  (answering reply e .ok db).1

/-- Ends with the exception if there is one. -/
def stoppedBy (x : Option PyException) : Except PyException Unit := x.elim (.ok ()) .error

theorem stoppedBy_bind (x y : Option PyException) :
    (stoppedBy x >>= fun _ => stoppedBy y) = stoppedBy (x.or y) := by
  cases x with
  | none => rfl
  | some e => rfl

variable {db : Database}

theorem eval_createIfAbsent {k : Kind} {name : String} {b : Body k} :
    (createIfAbsent k ns name b).eval (answerAt reply db) =
      stoppedBy (refusal (reply (.create k ns name b))) := by
  show (tryCatch (Prog.ofExcept (reply (.create k ns name b))) _ : Py Unit).eval _ = _
  cases reply (.create k ns name b) with
  | ok u => rfl
  | error e =>
      by_cases hconflict : e.isConflict
      · simp [refusal, stoppedBy, hconflict]
      · simp [refusal, stoppedBy, hconflict]

theorem eval_clusterDnsIp :
    clusterDnsIp.eval (answerAt reply db) =
      (stoppedBy (dnsRefusal reply) >>= fun _ => .ok (dnsAnswer reply)) := by
  unfold dnsRefusal dnsAnswer
  show (tryCatch (Prog.ofExcept (reply (.readService "kube-system" "kube-dns"))) _ :
    Py (Option String)).eval _ = _
  cases reply (.readService "kube-system" "kube-dns") with
  | ok ip => rfl
  | error e =>
      by_cases hapi : e.isApi
      · simp only [Prog.ofExcept_error, Prog.tryCatch_raise, hapi, if_true]
        rfl
      · simp only [Prog.ofExcept_error, Prog.tryCatch_raise, hapi]
        rfl

theorem eval_ensureTenantNamespace :
    (ensureTenantNamespace cfg ns).eval (answerAt reply db) =
      stoppedBy (setupRefusal cfg reply ns) := by
  unfold ensureTenantNamespace
  simp only [Prog.eval_bind, eval_createIfAbsent, eval_clusterDnsIp, bind_assoc]
  -- a successful lookup hands its address on
  show (stoppedBy _ >>= fun _ => stoppedBy _ >>= fun _ => stoppedBy _ >>= fun _ =>
    stoppedBy (dnsRefusal reply) >>= fun _ => stoppedBy (refusal (reply (.create .networkPolicy ns
      "tenant-default-deny" (networkPolicyBody (dnsAnswer reply))))) >>= fun _ =>
    stoppedBy _ >>= fun _ => stoppedBy _) = _
  simp only [stoppedBy_bind, setupRefusal]

/-- Calls of the cluster leave the database alone. -/
theorem answering_of_setupCall (reply : (e : K8sCall) → e.Result) (db : Database) {e : Call}
    (o : Outcome) (h : SetupCall cfg ns e) :
    answering reply e o db = (answerAt reply db e, db) := by
  cases h with
  | root | quota | limits | dns | policy | secret | account => rfl

/-- The setup inside a `try`: either nothing refuses it, or the handler runs. -/
theorem run_ensureTenantNamespace (cfg : Settings) (reply : (e : K8sCall) → e.Result)
    (ns : String) (db : Database) {α β : Type} (f : Unit → Py α) (h : PyException → Py α)
    (g : α → Py β) (ω : ℕ → Outcome) :
    ∃ n, (tryCatch (ensureTenantNamespace cfg ns >>= f) h >>= g).run (answering reply) ω db =
      match setupRefusal cfg reply ns with
      | none => (tryCatch (f ()) h >>= g).run (answering reply) (fun m => ω (m + n)) db
      | some e => (h e >>= g).run (answering reply) (fun m => ω (m + n)) db := by
  obtain ⟨n, hn⟩ := Prog.run_try_of_uses (ensureTenantNamespace_calls cfg ns)
    (fun e o he => answering_of_setupCall reply db o he) f h g ω
  refine ⟨n, hn.trans ?_⟩
  rw [eval_ensureTenantNamespace]
  cases setupRefusal cfg reply ns with
  | none => rfl
  | some e => rfl

end Eval

/-! ## Starting a build -/

/-- The one row a start adds says how the start went. -/
def TellsBuild (starts : Prop) (ns : String) (before : Table BuildJob)
    (r : Except PyException ((ℕ × BuildJob) × Option String) × Database) : Prop :=
  ∃ id job given, r.1 = .ok ((id, job), given) ∧ before.get id = none ∧
    r.2.buildJobs.get id = some job ∧ (∀ j, j ≠ id → r.2.buildJobs.get j = before.get j) ∧
    (starts → job.status = .building ∧ job.startedAt.isSome ∧ given = some ns) ∧
    (¬ starts → job.status = .failed ∧ job.errorMessage.isSome ∧ job.endedAt.isSome ∧
      given = none)

/-- The texts of the request can be stored. -/
def BuildJobCreate.NoNul (buildData : BuildJobCreate) : Prop :=
  noNul buildData.gitUrl = true ∧ noNul buildData.gitRevision = true ∧
    buildData.gitSubPath.all noNul = true

instance (buildData : BuildJobCreate) : Decidable buildData.NoNul :=
  inferInstanceAs (Decidable (_ ∧ _))

/-- The Image of the request. -/
def BuildJobCreate.image (buildData : BuildJobCreate) (cfg : Settings) (tenantId id : ℕ) :
    ImageBody :=
  imageBody cfg buildData.gitUrl buildData.gitRevision (imageTag tenantId id) buildData.gitSubPath

/-- The row of the request. -/
def BuildJobCreate.row (buildData : BuildJobCreate) (tenantId now : ℕ) : BuildJob :=
  ⟨tenantId, buildData.gitUrl, buildData.gitRevision, buildData.gitSubPath, .queued, none, none,
    now, none, none⟩

section Build

variable {cfg : Settings} {reply : (e : K8sCall) → e.Result} {ns : String} {ω : ℕ → Outcome}
  {db db₀ : Database} {id tenantId : ℕ} {queued : BuildJob}

theorem Database.commitBuildJob_eq (changes : BuildJobChanges)
    (hrow : db.buildJobs.get id = some queued)
    (htag : (changes.apply queued).imageTag.all (fits 512) = true) :
    db.commitBuildJob id changes =
      if (changes.apply queued).errorMessage.all noNul = true then
        (.ok (changes.apply queued),
          { db with buildJobs := db.buildJobs.put id (changes.apply queued) })
      else (.error dataError, db) := by
  unfold Database.commitBuildJob
  simp only [hrow, htag, Bool.not_true, Bool.false_or]
  cases (changes.apply queued).errorMessage.all noNul with
  | true => rfl
  | false => rfl

theorem BuildJobCreate.fits_iff (buildData : BuildJobCreate) :
    (fits 2048 buildData.gitUrl && fits 255 buildData.gitRevision &&
      buildData.gitSubPath.all (fits 1024)) = true ↔ buildData.NoNul := by
  have hsubPath : buildData.gitSubPath.all (fits 1024) = buildData.gitSubPath.all noNul := by
    cases h : buildData.gitSubPath with
    | none => rfl
    | some p => simp [fits, noNul, buildData.gitSubPathLength p h]
  simp only [hsubPath, BuildJobCreate.NoNul, fits, noNul, Bool.and_eq_true, decide_eq_true_eq,
    buildData.gitUrlLength.2, buildData.gitRevisionLength, true_and, and_assoc]

theorem Database.insertBuildJob_eq {want now : ℕ} {tenant : Tenant} (buildData : BuildJobCreate)
    (htexts : buildData.NoNul) (ht : db.tenants.get tenantId = some tenant) :
    db.insertBuildJob want now tenantId buildData.gitUrl buildData.gitRevision
        buildData.gitSubPath .queued =
      (.ok (db.buildJobs.fresh want, buildData.row tenantId now),
        { db with buildJobs :=
            db.buildJobs.put (db.buildJobs.fresh want) (buildData.row tenantId now) }) := by
  have hfits := buildData.fits_iff.mpr htexts
  simp only [Bool.and_eq_true] at hfits
  simp [Database.insertBuildJob, BuildJobCreate.row, hfits, ht]

theorem Database.insertBuildJob_nul (want now tenantId : ℕ) {buildData : BuildJobCreate}
    (htexts : ¬ buildData.NoNul) :
    ∃ x, db.insertBuildJob want now tenantId buildData.gitUrl buildData.gitRevision
        buildData.gitSubPath .queued =
      (.error x, { db with buildJobs := db.buildJobs.reserve want }) := by
  refine ⟨dataError, ?_⟩
  have hfits := mt buildData.fits_iff.mp htexts
  have hbad : (!fits 2048 buildData.gitUrl || !fits 255 buildData.gitRevision ||
      !buildData.gitSubPath.all (fits 1024)) = true := by
    rw [← Bool.not_and, ← Bool.not_and, Bool.not_eq_true', Bool.eq_false_iff]
    exact hfits
  unfold Database.insertBuildJob
  simp only [hbad, if_true]

/-- The row right after its insertion, among the rows of `db₀`. -/
structure JustQueued (db₀ db : Database) (id : ℕ) (queued : BuildJob) : Prop where
  fresh : db₀.buildJobs.get id = none
  row : db.buildJobs.get id = some queued
  others : ∀ j, j ≠ id → db.buildJobs.get j = db₀.buildJobs.get j
  untagged : queued.imageTag = none
  silent : queued.errorMessage = none

/-- What the service returns of the row it ends with. -/
def buildAnswer (ns : String) (id : ℕ) (job : BuildJob) : Py ((ℕ × BuildJob) × Option String) :=
  return ((id, job), if job.status = .building then some ns else none)

def buildingAt (now : ℕ) : BuildJobChanges := { status := .building, startedAt := some now }

def failedAt (e : PyException) (now : ℕ) : BuildJobChanges where
  status := .failed
  errorMessage := some (some ("Failed to start build: " ++ e.str))
  endedAt := some now

theorem failBuild_tells {starts : Prop} (h : JustQueued db₀ db id queued) (hstarts : ¬ starts)
    (e : PyException) :
    TellsBuild starts ns db₀.buildJobs
        ((failBuild id e >>= buildAnswer ns id).run (answering reply) ω db) ↔
      noNul ("Failed to start build: " ++ e.str) = true := by
  have hcommit := Database.commitBuildJob_eq (failedAt e (ω 0).now) h.row
    (by simp [BuildJobChanges.apply, failedAt, h.untagged])
  have hrun : (failBuild id e >>= buildAnswer ns id).run (answering reply) ω db =
      (Prog.ofExcept (db.commitBuildJob id (failedAt e (ω 0).now)).1 >>= buildAnswer ns id).run
        (answering reply) (fun n => ω (n + 2)) (db.commitBuildJob id (failedAt e (ω 0).now)).2 :=
    rfl
  have hmessage : ((failedAt e (ω 0).now).apply queued).errorMessage.all noNul =
      noNul ("Failed to start build: " ++ e.str) := rfl
  rw [hmessage] at hcommit
  rw [hrun, hcommit]
  by_cases htext : noNul ("Failed to start build: " ++ e.str) = true
  · simp only [if_pos htext]
    refine iff_of_true ⟨id, _, none, rfl, h.fresh, Table.get_put_self _ _ _, ?_, ?_, ?_⟩ htext
    · intro j hj
      exact (Table.get_put_of_ne _ _ hj).trans (h.others j hj)
    · exact fun hs => absurd hs hstarts
    · exact fun _ => ⟨rfl, rfl, rfl, rfl⟩
  · simp only [if_neg htext]
    refine iff_of_false ?_ htext
    rintro ⟨id', job, given, hret, -⟩
    cases hret

theorem commitBuilding_tells {starts : Prop} (h : JustQueued db₀ db id queued) (hstarts : starts) :
    TellsBuild starts ns db₀.buildJobs ((tryCatch (nowNaive >>= fun startedAt =>
      commitBuildJob id (buildingAt startedAt)) (failBuild id) >>= buildAnswer ns id).run
        (answering reply) ω db) := by
  have hcommit := Database.commitBuildJob_eq (buildingAt (ω 0).now) h.row
    (by simp [BuildJobChanges.apply, buildingAt, h.untagged])
  rw [if_pos (by simp [BuildJobChanges.apply, buildingAt, h.silent])] at hcommit
  have hrun : (tryCatch (nowNaive >>= fun startedAt => commitBuildJob id (buildingAt startedAt))
        (failBuild id) >>= buildAnswer ns id).run (answering reply) ω db =
      (tryCatch (Prog.ofExcept (db.commitBuildJob id (buildingAt (ω 0).now)).1) (failBuild id) >>=
        buildAnswer ns id).run (answering reply) (fun n => ω (n + 2))
          (db.commitBuildJob id (buildingAt (ω 0).now)).2 := rfl
  rw [hrun, hcommit]
  refine ⟨id, _, some ns, rfl, h.fresh, Table.get_put_self _ _ _, ?_, ?_, ?_⟩
  · intro j hj
    exact (Table.get_put_of_ne _ _ hj).trans (h.others j hj)
  · exact fun _ => ⟨rfl, rfl, rfl⟩
  · exact fun hs => absurd hstarts hs

/-- The `try` of the service and what follows it. -/
theorem startBuild_tells (h : JustQueued db₀ db id queued) :
    TellsBuild (BuildStarts cfg reply ns (imageBody cfg queued.gitUrl queued.gitRevision
        (imageTag tenantId id) queued.gitSubPath) (imageName id)) ns db₀.buildJobs
      ((tryCatch (startBuild cfg tenantId ns id queued) (failBuild id) >>=
        buildAnswer ns id).run (answering reply) ω db) ↔
    ∀ e, buildRefusal cfg reply ns (imageBody cfg queued.gitUrl queued.gitRevision
        (imageTag tenantId id) queued.gitSubPath) (imageName id) = some e →
      noNul ("Failed to start build: " ++ e.str) = true := by
  generalize himage : imageBody cfg queued.gitUrl queued.gitRevision (imageTag tenantId id)
    queued.gitSubPath = image
  have hstarts := buildRefusal_eq_none cfg reply ns image (imageName id)
  obtain ⟨n, hn⟩ := run_ensureTenantNamespace cfg reply ns db
    (fun _ => createKpackImage cfg ns (imageName id) queued.gitUrl queued.gitRevision
      (imageTag tenantId id) queued.gitSubPath >>= fun _ => nowNaive >>= fun startedAt =>
        commitBuildJob id (buildingAt startedAt)) (failBuild id) (buildAnswer ns id) ω
  have hstart : startBuild cfg tenantId ns id queued = ensureTenantNamespace cfg ns >>= fun _ =>
      createKpackImage cfg ns (imageName id) queued.gitUrl queued.gitRevision
        (imageTag tenantId id) queued.gitSubPath >>= fun _ => nowNaive >>= fun startedAt =>
          commitBuildJob id (buildingAt startedAt) := rfl
  rw [hstart, hn]
  cases hsetup : setupRefusal cfg reply ns with
  | some e =>
      have hrefusal : buildRefusal cfg reply ns image (imageName id) = some e := by
        rw [buildRefusal, hsetup, Option.some_or]
      have hnot : ¬ BuildStarts cfg reply ns image (imageName id) := by
        rw [← hstarts, hrefusal]
        exact Option.some_ne_none e
      simp only [hrefusal, Option.some.injEq, forall_eq']
      exact failBuild_tells h hnot e
  | none =>
      have hrefusal : buildRefusal cfg reply ns image (imageName id) =
          failure (reply (.create .image ns (imageName id) image)) := by
        rw [buildRefusal, hsetup, Option.none_or]
      have hrun : (tryCatch (createKpackImage cfg ns (imageName id) queued.gitUrl
          queued.gitRevision (imageTag tenantId id) queued.gitSubPath >>= fun _ =>
            nowNaive >>= fun startedAt => commitBuildJob id (buildingAt startedAt))
            (failBuild id) >>= buildAnswer ns id).run (answering reply) (fun m => ω (m + n)) db =
          (tryCatch (Prog.ofExcept (reply (.create .image ns (imageName id) image)) >>= fun _ =>
            nowNaive >>= fun startedAt => commitBuildJob id (buildingAt startedAt))
            (failBuild id) >>= buildAnswer ns id).run (answering reply)
          (fun m => ω (m + 1 + n)) db := by
        rw [← himage]
        rfl
      rw [hrun, hrefusal]
      rw [hrefusal] at hstarts
      cases hreply : reply (.create .image ns (imageName id) image) with
      | ok u =>
          rw [hreply] at hstarts
          refine iff_of_true (commitBuilding_tells h (hstarts.mp rfl)) (fun e he => ?_)
          cases he
      | error e =>
          have hnot : ¬ BuildStarts cfg reply ns image (imageName id) := by
            rw [← hstarts, hreply]
            exact Option.some_ne_none e
          simp only [failure, Option.some.injEq, forall_eq']
          exact failBuild_tells h hnot e

/-- The service, for a tenant that exists. -/
theorem createBuildJobService_tells {tenant : Tenant} (buildData : BuildJobCreate)
    (ht : db.tenants.get tenantId = some tenant) :
    TellsBuild (BuildStarts cfg reply tenant.k8sNamespace
        (buildData.image cfg tenantId (db.buildJobs.fresh (ω 1).want))
        (imageName (db.buildJobs.fresh (ω 1).want))) tenant.k8sNamespace db.buildJobs
        ((createBuildJobService cfg tenantId buildData).run (answering reply) ω db) ↔
      buildData.NoNul ∧
        ∀ e, buildRefusal cfg reply tenant.k8sNamespace
            (buildData.image cfg tenantId (db.buildJobs.fresh (ω 1).want))
            (imageName (db.buildJobs.fresh (ω 1).want)) = some e →
          noNul ("Failed to start build: " ++ e.str) = true := by
  generalize hid : db.buildJobs.fresh (ω 1).want = id
  have hrun : (createBuildJobService cfg tenantId buildData).run (answering reply) ω db =
      (Prog.ofExcept (db.insertBuildJob (ω 1).want (ω 1).now tenantId buildData.gitUrl
        buildData.gitRevision buildData.gitSubPath .queued).1 >>= fun row =>
          tryCatch (startBuild cfg tenantId tenant.k8sNamespace row.1 row.2) (failBuild row.1) >>=
            buildAnswer tenant.k8sNamespace row.1).run (answering reply) (fun n => ω (n + 2))
        (db.insertBuildJob (ω 1).want (ω 1).now tenantId buildData.gitUrl
          buildData.gitRevision buildData.gitSubPath .queued).2 := by
    unfold createBuildJobService getTenant
    rw [Prog.call_bind, Prog.run_call]
    simp only [answering, handleDb, ht]
    rfl
  rw [hrun]
  by_cases htexts : buildData.NoNul
  · rw [Database.insertBuildJob_eq buildData htexts ht, hid]
    refine (startBuild_tells (JustQueued.mk ?_ (Table.get_put_self _ _ _)
      (fun j hj => Table.get_put_of_ne _ _ hj) rfl rfl)).trans (and_iff_right htexts).symm
    rw [← hid]
    exact db.buildJobs.get_fresh (ω 1).want
  · obtain ⟨x, hx⟩ := Database.insertBuildJob_nul (ω 1).want (ω 1).now tenantId htexts
    rw [hx]
    refine iff_of_false ?_ (fun h => htexts h.1)
    rintro ⟨id', job, given, hret, -⟩
    cases hret

end Build

/-! ## Starting a deployment -/

/-- The exception that ends `create_tenant_deployment`, if one does. -/
def deploymentRefusal (reply : (e : K8sCall) → e.Result) (ns : String) (image : Option String)
    (replicas : ℕ) : Option PyException :=
  (match reply (.create .deployment ns tenantAppName
      (deploymentBody image replicas tenantAppName)) with
    | .ok () => none
    | .error e =>
        if e.isConflict then
          failure (reply (.patchDeployment ns tenantAppName (deploymentPatch image replicas)))
        else some e).or
  (refusal (reply (.create .service ns tenantAppName (serviceBody tenantAppName))))

/-- The one row a deployment adds says how its start went. -/
def TellsDeployment (starts : Prop) (ns : String) (before : Table Deployment)
    (r : Except PyException ((ℕ × Deployment) × Option String) × Database) : Prop :=
  ∃ id row given, r.1 = .ok ((id, row), given) ∧ before.get id = none ∧
    r.2.deployments.get id = some row ∧ (∀ j, j ≠ id → r.2.deployments.get j = before.get j) ∧
    (starts → row.status = .deploying ∧ given = some ns) ∧
    (¬ starts → row.status = .failed ∧ given = none)

/-- The row of the request. -/
def DeploymentCreate.row (deployData : DeploymentCreate) (tenantId buildJobId now : ℕ) :
    Deployment :=
  ⟨tenantId, buildJobId, tenantAppName, .pending, deployData.replicaCount, now, now⟩

section Deploy

variable {cfg : Settings} {reply : (e : K8sCall) → e.Result} {ns : String} {ω : ℕ → Outcome}
  {db : Database} {id tenantId replicas : ℕ} {image : Option String} {tenant : Tenant}

theorem deploymentRefusal_eq_none (reply : (e : K8sCall) → e.Result) (ns : String)
    (image : Option String) (replicas : ℕ) :
    deploymentRefusal reply ns image replicas = none ↔
      DeploymentStarts reply ns image replicas := by
  rw [deploymentRefusal, Option.or_eq_none_iff, refusal_eq_none]
  constructor
  · rintro ⟨hdeployment, hservice⟩
    refine ⟨?_, hservice⟩
    split at hdeployment
    · rename_i hcreate
      exact .inl hcreate
    · rename_i e hcreate
      split at hdeployment
      · rename_i hconflict
        exact .inr ⟨⟨e, hcreate, hconflict⟩, (failure_eq_none _).mp hdeployment⟩
      · cases hdeployment
  · rintro ⟨hcreate | ⟨⟨e, hcreate, hconflict⟩, hpatch⟩, hservice⟩
    · exact ⟨by rw [hcreate], hservice⟩
    · refine ⟨?_, hservice⟩
      rw [hcreate]
      simp only [hconflict, if_true]
      exact (failure_eq_none _).mpr hpatch

theorem eval_createTenantDeployment :
    (createTenantDeployment ns image replicas).eval (answerAt reply db) =
      stoppedBy (deploymentRefusal reply ns image replicas) := by
  unfold createTenantDeployment
  rw [Prog.eval_bind, eval_createIfAbsent, deploymentRefusal, ← stoppedBy_bind]
  congr 1
  show (tryCatch (Prog.ofExcept (reply (.create .deployment ns tenantAppName
    (deploymentBody image replicas tenantAppName)))) _ : Py Unit).eval _ = _
  cases reply (.create .deployment ns tenantAppName
      (deploymentBody image replicas tenantAppName)) with
  | ok u => rfl
  | error e =>
      by_cases hconflict : e.isConflict
      · simp only [Prog.ofExcept_error, Prog.tryCatch_raise, hconflict, if_true]
        show (Prog.ofExcept (reply (.patchDeployment ns tenantAppName
          (deploymentPatch image replicas))) : Py Unit).eval _ = _
        cases reply (.patchDeployment ns tenantAppName (deploymentPatch image replicas)) with
        | ok u => rfl
        | error e' => rfl
      · simp [hconflict, stoppedBy]

/-- Creating the application inside a `try`. -/
theorem run_createTenantDeployment (reply : (e : K8sCall) → e.Result) (ns : String)
    (image : Option String) (replicas : ℕ) (db : Database) {α β : Type} (f : Unit → Py α)
    (h : PyException → Py α) (g : α → Py β) (ω : ℕ → Outcome) :
    ∃ n, (tryCatch (createTenantDeployment ns image replicas >>= f) h >>= g).run
        (answering reply) ω db =
      match deploymentRefusal reply ns image replicas with
      | none => (tryCatch (f ()) h >>= g).run (answering reply) (fun m => ω (m + n)) db
      | some e => (h e >>= g).run (answering reply) (fun m => ω (m + n)) db := by
  have huses : (createTenantDeployment ns image replicas).Uses
      (fun e => ∃ e', e = .k8s e') (fun _ => True) :=
    createTenantDeployment_calls ⟨_, rfl⟩ ⟨_, rfl⟩ ⟨_, rfl⟩
  have hfixed : ∀ (e : Call) (o : Outcome), (∃ e', e = .k8s e') →
      answering reply e o db = (answerAt reply db e, db) := by
    rintro e o ⟨e', rfl⟩
    rfl
  obtain ⟨n, hn⟩ := Prog.run_try_of_uses huses hfixed f h g ω
  refine ⟨n, hn.trans ?_⟩
  rw [eval_createTenantDeployment]
  cases deploymentRefusal reply ns image replicas with
  | none => rfl
  | some e => rfl

theorem Database.commitDeployment_eq (now : ℕ) {row : Deployment} (status : DeploymentStatus)
    (hrow : db.deployments.get id = some row) :
    db.commitDeployment now id status =
      (.ok { row with status := status, updatedAt := now },
        { db with deployments :=
            db.deployments.put id { row with status := status, updatedAt := now } }) := by
  unfold Database.commitDeployment
  rw [hrow]

/-- What the service returns of the row it ends with. -/
def deploymentAnswer (ns : String) (id : ℕ) (row : Deployment) :
    Py ((ℕ × Deployment) × Option String) :=
  return ((id, row), if row.status = .deploying then some ns else none)

theorem startDeployment_tells {before : Table Deployment} {pending : Deployment}
    (hreplicas : pending.replicaCount = replicas) (hfresh : before.get id = none)
    (hrow : db.deployments.get id = some pending)
    (hothers : ∀ j, j ≠ id → db.deployments.get j = before.get j) :
    TellsDeployment (DeploymentStarts reply tenant.k8sNamespace image replicas)
      tenant.k8sNamespace before
      ((tryCatch (startDeployment (some tenant) image id pending)
        (fun _ => commitDeployment id .failed) >>= deploymentAnswer tenant.k8sNamespace id).run
          (answering reply) ω db) := by
  obtain ⟨n, hn⟩ := run_createTenantDeployment reply tenant.k8sNamespace image replicas db
    (fun _ => commitDeployment id .deploying) (fun _ => commitDeployment id .failed)
    (deploymentAnswer tenant.k8sNamespace id) ω
  have hstart : startDeployment (some tenant) image id pending =
      createTenantDeployment tenant.k8sNamespace image replicas >>=
        fun _ => commitDeployment id .deploying := by
    rw [← hreplicas]
    rfl
  have hput : ∀ row j, j ≠ id → (db.deployments.put id row).get j = before.get j :=
    fun row j hj => (Table.get_put_of_ne _ _ hj).trans (hothers j hj)
  have hstarts := deploymentRefusal_eq_none reply tenant.k8sNamespace image replicas
  rw [hstart, hn]
  cases hrefusal : deploymentRefusal reply tenant.k8sNamespace image replicas with
  | none =>
      have hcommit := Database.commitDeployment_eq (ω (0 + n)).now .deploying hrow
      show TellsDeployment _ _ _ ((tryCatch (Prog.ofExcept (db.commitDeployment (ω (0 + n)).now id
        .deploying).1) _ >>= deploymentAnswer tenant.k8sNamespace id).run (answering reply) _
          (db.commitDeployment (ω (0 + n)).now id .deploying).2)
      rw [hcommit]
      refine ⟨id, _, _, rfl, hfresh, Table.get_put_self _ _ _, hput _, fun _ => ⟨rfl, rfl⟩, ?_⟩
      exact fun hnot => absurd (hstarts.mp hrefusal) hnot
  | some e =>
      have hcommit := Database.commitDeployment_eq (ω (0 + n)).now .failed hrow
      show TellsDeployment _ _ _ ((Prog.ofExcept (db.commitDeployment (ω (0 + n)).now id
        .failed).1 >>= deploymentAnswer tenant.k8sNamespace id).run (answering reply) _
          (db.commitDeployment (ω (0 + n)).now id .failed).2)
      rw [hcommit]
      refine ⟨id, _, _, rfl, hfresh, Table.get_put_self _ _ _, hput _, ?_, fun _ => ⟨rfl, rfl⟩⟩
      intro hyes
      rw [hstarts.mpr hyes] at hrefusal
      cases hrefusal

/-- The service, for a succeeded build of a tenant that exists. -/
theorem createDeploymentService_tells {deployData : DeploymentCreate} {buildJobId : ℕ}
    {job : BuildJob} (ht : db.tenants.get tenantId = some tenant)
    (hjob : lookupInt db.buildJobs deployData.buildJobId = .ok (some (buildJobId, job)))
    (hown : job.tenantId = tenantId) (hready : job.status = .succeeded) :
    TellsDeployment (DeploymentStarts reply tenant.k8sNamespace job.imageTag
        deployData.replicaCount) tenant.k8sNamespace db.deployments
      ((createDeploymentService tenantId deployData).run (answering reply) ω db) := by
  have hinsert : ∀ want now, db.insertDeployment want now tenantId buildJobId tenantAppName .pending
      deployData.replicaCount = (.ok (db.deployments.fresh want,
          deployData.row tenantId buildJobId now),
        { db with
          deployments := db.deployments.put (db.deployments.fresh want)
            (deployData.row tenantId buildJobId now) }) := by
    intro want now
    have hbuild : db.buildJobs.get buildJobId = some job := (lookupInt_ok hjob).2
    simp [Database.insertDeployment, DeploymentCreate.row, ht, hbuild]
  have hrun : (createDeploymentService tenantId deployData).run (answering reply) ω db =
      (Prog.ofExcept (db.insertDeployment (ω 2).want (ω 2).now tenantId buildJobId tenantAppName
        .pending deployData.replicaCount).1 >>= fun row =>
          tryCatch (startDeployment (some tenant) job.imageTag row.1 row.2)
            (fun _ => commitDeployment row.1 .failed) >>=
              deploymentAnswer tenant.k8sNamespace row.1).run (answering reply)
        (fun n => ω (n + 3)) (db.insertDeployment (ω 2).want (ω 2).now tenantId buildJobId
          tenantAppName .pending deployData.replicaCount).2 := by
    unfold createDeploymentService getBuildJob
    rw [Prog.call_bind, Prog.run_call]
    show (Prog.run (answering reply) (Prog.ofExcept (lookupInt db.buildJobs
      deployData.buildJobId) >>= _) _ db) = _
    rw [hjob]
    simp only [Prog.ofExcept_ok, Prog.ret_bind, hown, hready, ne_eq, not_true_eq_false, if_false]
    unfold getTenant
    rw [Prog.call_bind, Prog.run_call]
    have hanswer : (answering reply (.db (.getTenant tenantId)) (ω 1) db).1 = some tenant := ht
    rw [hanswer]
    rfl
  rw [hrun, hinsert]
  exact startDeployment_tells rfl (db.deployments.get_fresh _) (Table.get_put_self _ _ _)
    (fun j hj => Table.get_put_of_ne _ _ hj)

end Deploy

/-- Every deployment of a succeeded build of the tenant says how its start went. -/
def DeploymentsTold : Prop :=
  ∀ (reply : (e : K8sCall) → e.Result) (ω : ℕ → Outcome) (db : Database) (tenantId : ℕ)
    (tenant : Tenant) (deployData : DeploymentCreate) (buildJobId : ℕ) (job : BuildJob),
    db.tenants.get tenantId = some tenant →
    lookupInt db.buildJobs deployData.buildJobId = .ok (some (buildJobId, job)) →
    job.tenantId = tenantId → job.status = .succeeded →
    TellsDeployment (DeploymentStarts reply tenant.k8sNamespace job.imageTag
        deployData.replicaCount) tenant.k8sNamespace db.deployments
      ((createDeploymentService tenantId deployData).run (answering reply) ω db)

/-- A row says how its start went, whatever the cluster answers, exactly if the texts that
go into it hold no NUL: those of the request, and that of an exception which ends the start. -/
theorem rows_tell_starts (cfg : Settings) (reply : (e : K8sCall) → e.Result) (ω : ℕ → Outcome)
    {db : Database} {tenantId : ℕ} {tenant : Tenant} (buildData : BuildJobCreate)
    (ht : db.tenants.get tenantId = some tenant) :
    (TellsBuild (BuildStarts cfg reply tenant.k8sNamespace
        (buildData.image cfg tenantId (db.buildJobs.fresh (ω 1).want))
        (imageName (db.buildJobs.fresh (ω 1).want))) tenant.k8sNamespace db.buildJobs
        ((createBuildJobService cfg tenantId buildData).run (answering reply) ω db) ∧
      DeploymentsTold) ↔
    buildData.NoNul ∧
      ∀ e, buildRefusal cfg reply tenant.k8sNamespace
          (buildData.image cfg tenantId (db.buildJobs.fresh (ω 1).want))
          (imageName (db.buildJobs.fresh (ω 1).want)) = some e →
        noNul ("Failed to start build: " ++ e.str) = true := by
  have hdeployments : DeploymentsTold :=
    fun _ _ _ _ _ _ _ _ ht hjob hown hready => createDeploymentService_tells ht hjob hown hready
  rw [createBuildJobService_tells buildData ht]
  exact and_iff_left hdeployments

/-! ### An error with a NUL -/

/-- One tenant, and no jobs. -/
def oneTenant : Database :=
  { Database.empty with tenants := Table.empty.put 1 ⟨"acme", "tenant-1", 0, true⟩ }

/-- The namespace is there; the create call of the quota fails with a given text. -/
def refusing (text : String) : (e : K8sCall) → e.Result
  | .create .resourceQuota .. => .error (.api ⟨500, text⟩)
  | .create .. => .error conflict
  | .patchDeployment .. => .error notFound
  | .readImage .. => .error notFound
  | .readDeployment .. => .error notFound
  | .readService .. => .ok none
  | .createToken .. => .error notFound

theorem rows_tell_starts_refused :
    TellsBuild (BuildStarts sampleSettings (refusing "(500)") "tenant-1"
        (sampleBuild.image sampleSettings 1 (oneTenant.buildJobs.fresh Outcome.ok.want))
        (imageName (oneTenant.buildJobs.fresh Outcome.ok.want))) "tenant-1" oneTenant.buildJobs
        ((createBuildJobService sampleSettings 1 sampleBuild).run (answering (refusing "(500)"))
          (fun _ => .ok) oneTenant) ∧
      DeploymentsTold := by
  have ht : oneTenant.tenants.get 1 = some ⟨"acme", "tenant-1", 0, true⟩ := rfl
  refine (rows_tell_starts sampleSettings (refusing "(500)") (fun _ => .ok) sampleBuild ht).mpr
    ⟨by decide +kernel, fun e he => ?_⟩
  obtain rfl := Option.some.inj he
  decide +kernel

/-- The text is written to the row, the database refuses it, and the row stays queued. -/
theorem nul_in_error_leaves_queued :
    (((createBuildJobService sampleSettings 1 sampleBuild).run
        (answering (refusing "(500)\x00")) (fun _ => .ok) oneTenant).2.buildJobs.get 1).map
          BuildJob.status = some .queued ∧
      ¬ TellsBuild (BuildStarts sampleSettings (refusing "(500)\x00") "tenant-1" (sampleBuild.image
          sampleSettings 1 1) (imageName 1)) "tenant-1" oneTenant.buildJobs
        ((createBuildJobService sampleSettings 1 sampleBuild).run
          (answering (refusing "(500)\x00")) (fun _ => .ok) oneTenant) := by
  have hraises : ((createBuildJobService sampleSettings 1 sampleBuild).run
      (answering (refusing "(500)\x00")) (fun _ => .ok) oneTenant).1 = .error dataError := by
    decide +kernel
  refine ⟨by decide +kernel, ?_⟩
  rintro ⟨id, job, given, hret, -⟩
  rw [hraises] at hret
  cases hret

end TenantPlatform
