import TenantPlatform.Verification.Jobs.Builds
import TenantPlatform.Verification.Jobs.Deployments

/-! # Every request keeps the discipline -/

namespace TenantPlatform

open Effect

variable (cfg : Settings)

/-- What a request leaves to its background task. -/
def Handed : Option BackgroundTask → History → Prop
  | some (.pollBuildUntilDone id ns), τ => HandedBuild id (some ns) τ
  | some (.pollDeploymentUntilRunning id ns name), τ => HandedDeployment id name (some ns) τ
  | none, τ => Finished τ

theorem checked_along {α : Type} (c : Checked α) {τ : History} (h : Idle τ) :
    (checked c).Along requestDiscipline (fun _ τ' => Idle τ') (fun _ τ' => Finished τ') τ :=
  (along_of_free (checked_uses c) steady_idle h).mono (fun _ _ h => h.2) (fun _ _ h => h.finished)

theorem TenantRequest.handle_along (tenantId : ℕ) (r : TenantRequest) {τ : History} (h : Idle τ) :
    (r.handle cfg tenantId).Along requestDiscipline (fun reply τ' => Handed reply.2 τ')
      (fun _ τ' => Finished τ') τ := by
  by_cases hplain : r.plain = true
  · refine (along_of_free (r.handle_uses cfg tenantId hplain) steady_idle h).mono ?_
      (fun _ _ h => h.finished)
    rintro reply τ' ⟨hnone, h'⟩
    rw [hnone]
    exact h'.finished
  · cases r with
    | createBuildJob body =>
        refine (checked_along body h).bind (fun buildData τ1 h1 => ?_)
        refine (createBuildJobService_along cfg h1).bind ?_
        rintro ⟨⟨id, job⟩, ns | ns⟩ τ2 h2
        · exact h2
        · exact h2
    | createDeployment body =>
        refine (checked_along body h).bind (fun deployData τ1 h1 => ?_)
        refine Prog.Along.bind (M := fun r τ' =>
          HandedDeployment r.1.1 r.1.2.k8sDeploymentName r.2 τ') ?_ ?_
        · refine (createDeploymentService_along h1).tryCatch ?_
          intro e τ2 h2
          cases e <;> exact h2
        · rintro ⟨⟨id, row⟩, ns | ns⟩ τ2 h2
          · exact h2
          · exact h2
    | getKubeconfig =>
        refine Prog.Along.bind (M := fun _ τ' => Idle τ') ?_ (fun _ _ h => h.finished)
        refine ((getTenantKubeconfigService_along cfg tenantId steady_idle h)).tryCatch ?_
        intro e τ1 h1
        cases e <;> exact h1.finished
    | _ => exact absurd rfl hplain

theorem Request.handle_along (adminSecretKey : String) (r : Request) {τ : History} (h : Idle τ) :
    (r.handle cfg adminSecretKey).Along requestDiscipline (fun reply τ' => Handed reply.2 τ')
      (fun _ τ' => Finished τ') τ := by
  cases r with
  | tenant tenantId xApiKey r =>
      refine ((along_of_free (verifyTenant_uses cfg tenantId xApiKey rfl) steady_idle h).mono
        (fun _ _ h => h) (fun _ _ h => h.finished)).bind ?_
      exact fun _ τ1 h1 => r.handle_along cfg tenantId h1.2
  | admin xAdminSecret r =>
      refine ((along_of_free (verifyAdmin_uses adminSecretKey xAdminSecret) steady_idle h).mono
        (fun _ _ h => h) (fun _ _ h => h.finished)).bind ?_
      intro _ τ1 h1
      refine (r.handle_along cfg steady_idle h1.2).mono ?_ (fun _ _ h => h.finished)
      rintro reply τ2 ⟨hnone, h2⟩
      rw [hnone]
      exact h2.finished

theorem errorReply_task (e : PyException) : (errorReply e).2 = none := by
  cases e <;> rfl

theorem Request.serve_along (adminSecretKey : String) (r : Request) {τ : History} (h : Idle τ) :
    (r.serve cfg adminSecretKey).Along requestDiscipline (fun reply τ' => Handed reply.2 τ')
      (fun _ τ' => Finished τ') τ := by
  refine (r.handle_along cfg adminSecretKey h).tryCatch ?_
  intro e τ1 h1
  show Handed (errorReply e).2 τ1
  rw [errorReply_task]
  exact h1

theorem BackgroundTask.run_along (task : BackgroundTask) {τ : History} (h : Handed (some task) τ) :
    (task.run cfg).Along requestDiscipline (fun _ τ' => Finished τ')
      (fun _ τ' => Finished τ') τ := by
  cases task with
  | pollBuildUntilDone id ns =>
      obtain ⟨row, hrow, rfl⟩ := h
      exact pollBuildUntilDone_along cfg hrow
  | pollDeploymentUntilRunning id ns name =>
      obtain ⟨row, hrow, rfl, rfl⟩ := h
      exact pollDeploymentUntilRunning_along cfg hrow

/-- A request and its background task keep the discipline to the end, and end as `Finished`
says. -/
theorem Request.thread_along (adminSecretKey : String) (r : Request) :
    (r.thread cfg adminSecretKey).Along requestDiscipline (fun _ τ => Finished τ)
      (fun _ τ => Finished τ) [] := by
  refine (r.serve_along cfg adminSecretKey idle_nil).bind ?_
  rintro ⟨response, task | task⟩ τ h
  · exact h
  · exact task.run_along cfg h

end TenantPlatform
