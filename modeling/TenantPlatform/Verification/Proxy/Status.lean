import TenantPlatform.Model.Proxy.Metrics

/-! # The status label

`statusWriter` keeps a status of its own beside the one that `net/http` sends. It takes the first
code for the final one, and takes no notice of a flush. -/

namespace TenantPlatform

/-- What the client gets in the end. -/
def sentStatus (calls : List WriterCall) : ℤ := (calls.foldl ServerResponse.call {}).status

/-! ## The response that is sent -/

namespace ServerResponse

variable {r : ServerResponse} {code : ℤ}

theorem call_of_final (hfinal : r.final = some code) (c : WriterCall) :
    (r.call c).final = some code := by
  cases c with
  | writeHeader => simp [call, hfinal]
  | write => simp [call, hfinal]
  | flush => simp [call, hfinal]

/-- A final status stays. -/
theorem final_foldl (hfinal : r.final = some code) (calls : List WriterCall) :
    (calls.foldl call r).final = some code := by
  induction calls generalizing r with
  | nil => exact hfinal
  | cons c calls ih =>
      rw [List.foldl_cons]
      exact ih (call_of_final hfinal c)

/-- An interim code never becomes the final status. -/
theorem informational_status (hfinal : ∀ code, r.final = some code → informational code = false)
    (calls : List WriterCall) : informational (calls.foldl call r).status = false := by
  induction calls generalizing r with
  | nil =>
      rw [List.foldl_nil, status]
      cases h : r.final with
      | none => decide
      | some code => exact hfinal code h
  | cons c calls ih =>
      rw [List.foldl_cons]
      apply ih
      intro code hcode
      cases h : r.final with
      | some code' =>
          rw [call_of_final h c] at hcode
          exact hfinal code (h.trans hcode)
      | none =>
          cases c with
          | writeHeader code' =>
              simp only [call, h, Option.isSome_none, Bool.false_eq_true, if_false] at hcode
              split at hcode
              · cases hcode
              · rename_i hinterim
                rw [← Option.some.inj hcode]
                exact Bool.eq_false_iff.mpr hinterim
          | write =>
              simp only [call, h, Option.getD_none, Option.some.injEq] at hcode
              rw [← hcode]
              decide
          | flush =>
              simp only [call, h, Option.getD_none, Option.some.injEq] at hcode
              rw [← hcode]
              decide

end ServerResponse

/-! ## The status that is recorded -/

namespace StatusWriter

variable {w : StatusWriter}

/-- The wrapper passes every call on. -/
theorem responseWriter_foldl (calls : List WriterCall) :
    (calls.foldl call w).responseWriter = calls.foldl ServerResponse.call w.responseWriter := by
  induction calls generalizing w with
  | nil => rfl
  | cons c calls ih =>
      rw [List.foldl_cons, ih, List.foldl_cons]
      congr 1
      cases c with
      | writeHeader code =>
          simp only [call, writeHeader]
          split <;> rfl
      | write => rfl
      | flush => rfl

theorem status_foldl_of_wroteHeader (hwrote : w.wroteHeader = true) (calls : List WriterCall) :
    (calls.foldl call w).status = w.status := by
  induction calls generalizing w with
  | nil => rfl
  | cons c calls ih =>
      have hkept : (w.call c).wroteHeader = true ∧ (w.call c).status = w.status := by
        cases c with
        | writeHeader code => simp [call, writeHeader, hwrote]
        | write => simp [call, write]
        | flush => simp [call, flush, hwrote]
      rw [List.foldl_cons, ih hkept.1, hkept.2]

end StatusWriter

/-! ## Flushes -/

section Flushes

variable {before : List WriterCall} (hbefore : ∀ c ∈ before, c = .flush)

include hbefore

theorem StatusWriter.foldl_flushes {w : StatusWriter} :
    (before.foldl StatusWriter.call w).status = w.status ∧
      (before.foldl StatusWriter.call w).wroteHeader = w.wroteHeader := by
  induction before generalizing w with
  | nil => exact ⟨rfl, rfl⟩
  | cons c before ih =>
      obtain rfl := hbefore c List.mem_cons_self
      rw [List.foldl_cons]
      exact ih (fun c hc => hbefore c (List.mem_cons_of_mem _ hc))

/-- The first flush sends the headers. -/
theorem ServerResponse.foldl_flushes (hne : before ≠ []) :
    (before.foldl ServerResponse.call {}).final = some 200 := by
  cases before with
  | nil => exact absurd rfl hne
  | cons c before =>
      obtain rfl := hbefore c List.mem_cons_self
      rw [List.foldl_cons]
      exact ServerResponse.final_foldl rfl before

end Flushes

/-! ## The label -/

/-- If a code comes before any data, it is a final one, and either nothing comes before it or it is
the code that a flush sends. -/
def FinalHeaderFirst (calls : List WriterCall) : Prop :=
  ∀ before code rest, calls = before ++ .writeHeader code :: rest → (∀ c ∈ before, c = .flush) →
    informational code = false ∧ (before = [] ∨ code = 200)

/-- Calls are flushes, and then perhaps another call. -/
theorem flushes_or_call (calls : List WriterCall) : (∀ c ∈ calls, c = .flush) ∨
    ∃ before c rest, calls = before ++ c :: rest ∧ (∀ c ∈ before, c = .flush) ∧ c ≠ .flush := by
  induction calls with
  | nil => exact .inl (fun _ h => by cases h)
  | cons c calls ih =>
      by_cases hc : c = .flush
      · rcases ih with hflush | ⟨before, c', rest, rfl, hbefore, hc'⟩
        · left
          intro x hx
          rcases List.mem_cons.mp hx with rfl | hx
          · exact hc
          · exact hflush x hx
        · right
          refine ⟨c :: before, c', rest, rfl, ?_, hc'⟩
          intro x hx
          rcases List.mem_cons.mp hx with rfl | hx
          · exact hc
          · exact hbefore x hx
      · exact .inr ⟨[], c, calls, rfl, fun _ h => (by cases h), hc⟩

/-- The first call that is not a flush is determined. -/
theorem first_call_unique {before before' rest rest' : List WriterCall} {c c' : WriterCall}
    (hbefore : ∀ x ∈ before, x = .flush) (hbefore' : ∀ x ∈ before', x = .flush)
    (hc : c ≠ .flush) (hc' : c' ≠ .flush) (heq : before ++ c :: rest = before' ++ c' :: rest') :
    before = before' ∧ c = c' := by
  induction before generalizing before' with
  | nil =>
      cases before' with
      | nil => exact ⟨rfl, (List.cons.inj heq).1⟩
      | cons x before' =>
          exact absurd ((List.cons.inj heq).1.trans (hbefore' x List.mem_cons_self)) hc
  | cons x before ih =>
      cases before' with
      | nil =>
          exact absurd ((List.cons.inj heq).1.symm.trans (hbefore x List.mem_cons_self)) hc'
      | cons x' before' =>
          obtain ⟨hx, hrest⟩ := List.cons.inj heq
          obtain ⟨rfl, hcall⟩ := ih (fun y hy => hbefore y (List.mem_cons_of_mem _ hy))
            (fun y hy => hbefore' y (List.mem_cons_of_mem _ hy)) hrest
          exact ⟨by rw [hx], hcall⟩

/-- Flushes send 200, and so does the end. -/
theorem sentStatus_flushes {calls : List WriterCall} (h : ∀ c ∈ calls, c = .flush) :
    sentStatus calls = 200 := by
  cases calls with
  | nil => rfl
  | cons c calls =>
      rw [sentStatus, ServerResponse.status,
        ServerResponse.foldl_flushes h (List.cons_ne_nil _ _), Option.getD_some]

theorem recorded_flushes {calls : List WriterCall} (h : ∀ c ∈ calls, c = .flush) :
    (StatusWriter.after calls).status = 200 ∧ sentStatus calls = 200 :=
  ⟨(StatusWriter.foldl_flushes h).1, sentStatus_flushes h⟩

section Header

variable {before : List WriterCall} (hbefore : ∀ c ∈ before, c = .flush) (rest : List WriterCall)

include hbefore

theorem recorded_write :
    (StatusWriter.after (before ++ .write :: rest)).status = 200 ∧
      sentStatus (before ++ .write :: rest) = 200 := by
  obtain ⟨hstatus, -⟩ := StatusWriter.foldl_flushes (w := {}) hbefore
  constructor
  · rw [StatusWriter.after, List.foldl_append, List.foldl_cons,
      StatusWriter.status_foldl_of_wroteHeader rfl]
    exact hstatus
  · have hfinal : (before.foldl ServerResponse.call {}).final.getD 200 = 200 :=
      sentStatus_flushes hbefore
    rw [sentStatus, List.foldl_append, List.foldl_cons, ServerResponse.status,
      ServerResponse.final_foldl (congrArg some hfinal), Option.getD_some]

theorem recorded_writeHeader (code : ℤ) :
    (StatusWriter.after (before ++ .writeHeader code :: rest)).status = code := by
  obtain ⟨-, hwrote⟩ := StatusWriter.foldl_flushes (w := {}) hbefore
  have hcall : ((before.foldl StatusWriter.call {}).call (.writeHeader code)).wroteHeader = true ∧
      ((before.foldl StatusWriter.call {}).call (.writeHeader code)).status = code := by
    simp only [StatusWriter.call, StatusWriter.writeHeader, hwrote, Bool.not_false, if_true,
      and_self]
  rw [StatusWriter.after, List.foldl_append, List.foldl_cons,
    StatusWriter.status_foldl_of_wroteHeader hcall.1, hcall.2]

/-- A code is what the client gets if it is final and comes in time. -/
theorem sentStatus_writeHeader (code : ℤ) :
    sentStatus (before ++ .writeHeader code :: rest) = code ↔
      informational code = false ∧ (before = [] ∨ code = 200) := by
  rw [sentStatus, List.foldl_append, List.foldl_cons]
  by_cases hne : before = []
  · subst hne
    rw [List.foldl_nil]
    cases hinterim : informational code with
    | false =>
        have hfinal : ((({} : ServerResponse).call (.writeHeader code)).final) = some code := by
          simp [ServerResponse.call, hinterim]
        rw [ServerResponse.status, ServerResponse.final_foldl hfinal]
        simp
    | true =>
        have hkept := ServerResponse.informational_status
          (r := ({} : ServerResponse).call (.writeHeader code))
          (by simp [ServerResponse.call, hinterim]) rest
        constructor
        · intro heq
          rw [heq, hinterim] at hkept
          cases hkept
        · rintro ⟨h, -⟩
          cases h
  · have hfinal := ServerResponse.foldl_flushes hbefore hne
    rw [ServerResponse.status,
      ServerResponse.final_foldl (ServerResponse.call_of_final hfinal _), Option.getD_some]
    constructor
    · rintro rfl
      exact ⟨by decide, .inr rfl⟩
    · rintro ⟨-, hnil | hcode⟩
      · exact absurd hnil hne
      · exact hcode.symm

end Header

/-- The recorded status is the one that the client gets if and only if a code comes first, or
data, or nothing at all: an interim code is taken for the final one, and so is a code that comes
after a flush. -/
theorem recorded_eq_sent_iff (calls : List WriterCall) :
    (StatusWriter.after calls).status = sentStatus calls ↔ FinalHeaderFirst calls := by
  rcases flushes_or_call calls with hflush | ⟨before, c, rest, rfl, hbefore, hc⟩
  · obtain ⟨hstatus, hsent⟩ := recorded_flushes hflush
    rw [hstatus, hsent]
    refine iff_of_true rfl ?_
    rintro before code rest rfl -
    exact absurd (hflush (.writeHeader code) (by simp)) (by simp)
  · cases c with
    | flush => exact absurd rfl hc
    | write =>
        obtain ⟨hstatus, hsent⟩ := recorded_write hbefore rest
        rw [hstatus, hsent]
        refine iff_of_true rfl ?_
        intro before' code rest' heq hbefore'
        cases (first_call_unique hbefore hbefore' hc (by simp) heq).2
    | writeHeader code =>
        rw [recorded_writeHeader hbefore, eq_comm, sentStatus_writeHeader hbefore]
        constructor
        · intro hcode before' code' rest' heq hbefore'
          obtain ⟨rfl, hcodes⟩ := first_call_unique hbefore hbefore' hc (by simp) heq
          cases hcodes
          exact hcode
        · intro hfirst
          exact hfirst before code rest rfl hbefore

/-- A call of `ServeHTTP` counts its request under the status that the client gets if and only if
the calls on its response writer begin so. -/
theorem status_label_iff (c : Serving) (m : Metrics) (calls : List WriterCall) :
    (({ c with sw := StatusWriter.after calls } : Serving).record m).requests.count
        (c.tenant, sentStatus calls) = m.requests.count (c.tenant, sentStatus calls) + 1 ↔
      FinalHeaderFirst calls := by
  rw [← recorded_eq_sent_iff, Serving.record, CounterVec.count_inc]
  by_cases heq : (StatusWriter.after calls).status = sentStatus calls
  · simp [heq]
  · simp [heq, Ne.symm heq]

/-- A pod sends early hints before its response. -/
theorem early_hints_become_the_status :
    (StatusWriter.after [.writeHeader 103, .writeHeader 200, .write]).status = 103 ∧
      sentStatus [.writeHeader 103, .writeHeader 200, .write] = 200 := by
  decide

end TenantPlatform
