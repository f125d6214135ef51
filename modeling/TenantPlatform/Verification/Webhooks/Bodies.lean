import TenantPlatform.Effect.Lockstep
import TenantPlatform.Effect.Moments
import TenantPlatform.Model.JsonLoads
import TenantPlatform.Verification.Webhooks.Secrecy

/-! # What a webhook's body says

The body that `json.dumps` writes is read back as the payload, whatever characters its texts
have, and is printable ASCII itself. So is everything that requests and pollers post. -/

namespace TenantPlatform

open Effect

/-! ## Characters -/

theorem hexValue_hexDigit {n : ℕ} (h : n < 16) : Json.hexValue (hexDigit n) = some n := by
  have hall : ∀ m : Fin 16, Json.hexValue (hexDigit m) = some m.val := by decide
  exact hall ⟨n, h⟩

theorem reads_hex4 {n : ℕ} (h : n < 65536) : Json.Reads (['\\', 'u'] ++ hex4 n) n := by
  intro rest
  have hsum : n / 4096 % 16 * 4096 + n / 256 % 16 * 256 + n / 16 % 16 * 16 + n % 16 = n := by omega
  have hdigit : ∀ m, Json.hexValue (hexDigit (m % 16)) = some (m % 16) :=
    fun m => hexValue_hexDigit (Nat.mod_lt m (by decide))
  show Json.readUnit ('\\' :: 'u' :: hexDigit (n / 4096 % 16) :: hexDigit (n / 256 % 16) ::
    hexDigit (n / 16 % 16) :: hexDigit (n % 16) :: rest) = _
  simp only [Json.readUnit, hdigit, Option.bind_eq_bind, Option.bind_some, Option.pure_def, hsum]

theorem reads_plain {c : Char} (hquote : c ≠ '"') (hbackslash : c ≠ '\\') (hprintable : ' ' ≤ c) :
    Json.Reads [c] c.toNat := by
  intro rest
  have hplain : ¬ (c = '"' ∨ c = '\\' ∨ c < ' ') := by
    rintro (h | h | h)
    · exact hquote h
    · exact hbackslash h
    · exact absurd hprintable (Char.not_le.mpr h)
  rw [List.singleton_append, Json.readUnit]
  · rw [if_neg hplain]
  · rintro _ _ _ _ _ h
    exact absurd h hbackslash
  · rintro _ _ h
    exact absurd h hbackslash

theorem reads_escape {e : Char} {u : ℕ} (hlookup : Json.escapes.lookup e = some u) (he : e ≠ 'u') :
    Json.Reads ['\\', e] u := by
  intro rest
  show Json.readUnit ('\\' :: e :: rest) = _
  rw [Json.readUnit]
  · rw [hlookup]
    rfl
  · rintro _ _ _ _ _ h
    exact absurd h he

/-- The characters that have an escape of their own. -/
def escaped : List Char := ['"', '\\', '\n', '\r', '\t', '\x08', '\x0c']

theorem jsonChar_of_notMem {c : Char} (h : c ∉ escaped) :
    jsonChar c = if ' ' ≤ c ∧ c ≤ '~' then [c]
      else if c.toNat < 65536 then ['\\', 'u'] ++ hex4 c.toNat
      else ['\\', 'u'] ++ hex4 (55296 + (c.toNat - 65536) / 1024) ++
        (['\\', 'u'] ++ hex4 (56320 + (c.toNat - 65536) % 1024)) := by
  simp only [escaped, List.mem_cons, List.not_mem_nil, or_false, not_or] at h
  obtain ⟨hquote, hbackslash, hn, hr, ht, hb, hf⟩ := h
  simp only [jsonChar, if_neg hquote, if_neg hbackslash, if_neg hn, if_neg hr, if_neg ht,
    if_neg hb, if_neg hf, List.append_assoc]

/-- What is written for a character stands for its code units. -/
theorem jsonChar_writes (c : Char) : Json.Writes (jsonChar c) (Json.utf16 c) := by
  by_cases hescaped : c ∈ escaped
  · simp only [escaped, List.mem_cons, List.not_mem_nil, or_false] at hescaped
    rcases hescaped with rfl | rfl | rfl | rfl | rfl | rfl | rfl
    · exact (reads_escape (e := '"') rfl (by decide)).writes
    · exact (reads_escape (e := '\\') rfl (by decide)).writes
    · exact (reads_escape (e := 'n') rfl (by decide)).writes
    · exact (reads_escape (e := 'r') rfl (by decide)).writes
    · exact (reads_escape (e := 't') rfl (by decide)).writes
    · exact (reads_escape (e := 'b') rfl (by decide)).writes
    · exact (reads_escape (e := 'f') rfl (by decide)).writes
  · have hvalid : c.toNat < 55296 ∨ (57343 < c.toNat ∧ c.toNat < 1114112) := c.valid
    rw [jsonChar_of_notMem hescaped, Json.utf16]
    by_cases hplain : ' ' ≤ c ∧ c ≤ '~'
    · have hbound : c.toNat ≤ 126 := hplain.2
      rw [if_pos hplain, if_pos (by omega)]
      refine (reads_plain ?_ ?_ hplain.1).writes
      · rintro rfl
        exact hescaped (by decide)
      · rintro rfl
        exact hescaped (by decide)
    · rw [if_neg hplain]
      by_cases hunit : c.toNat < 65536
      · rw [if_pos hunit, if_pos hunit]
        exact (reads_hex4 hunit).writes
      · rw [if_neg hunit, if_neg hunit]
        exact .append (reads_hex4 (by omega)).writes (reads_hex4 (by omega)).writes

theorem readText_jsonText (s : String) (rest : List Char) :
    Json.readText (s.toList.flatMap jsonChar ++ '"' :: rest) = some (s.toList, rest) :=
  Json.readText_of_writes (.flatMap jsonChar_writes s.toList) rest

/-! ## Values and entries -/

theorem loadScalar_dumps (v : JsonScalar) {rest : List Char}
    (h : ∀ c ∈ rest.head?, c.isDigit = false) : loadScalar (v.dumps ++ rest) = some (v, rest) := by
  cases v with
  | null => rfl
  | int n =>
      have hread := Json.readInt_toString h n
      obtain ⟨c, digits, hdigits, hc, -⟩ := Json.toList_toString_int n
      show loadScalar ((toString n).toList ++ rest) = _
      rw [hdigits, List.cons_append] at hread ⊢
      rw [loadScalar]
      · rw [hread]
        rfl
      · intro tail heq
        rw [(List.cons.inj heq).1] at hc
        revert hc
        decide
      · intro tail heq
        rw [(List.cons.inj heq).1] at hc
        revert hc
        decide
  | str s =>
      have htext : (JsonScalar.str s).dumps ++ rest =
          '"' :: (s.toList.flatMap jsonChar ++ '"' :: rest) := by
        simp [JsonScalar.dumps, jsonText]
      rw [htext, loadScalar, readText_jsonText]
      simp

/-- An entry of the body. -/
def entryText (e : String × JsonScalar) : List Char := jsonText e.1 ++ ": ".toList ++ e.2.dumps

theorem entryText_eq (e : String × JsonScalar) (rest : List Char) : entryText e ++ rest =
    '"' :: (e.1.toList.flatMap jsonChar ++ '"' :: ':' :: ' ' :: (e.2.dumps ++ rest)) := by
  simp [entryText, jsonText]

theorem skipBlanks_cons {c : Char} {rest : List Char}
    (h : c ≠ ' ' ∧ c ≠ '\t' ∧ c ≠ '\n' ∧ c ≠ '\r') : skipBlanks (c :: rest) = c :: rest := by
  simp [skipBlanks, h.1, h.2.1, h.2.2.1, h.2.2.2]

theorem skipBlanks_blank (rest : List Char) : skipBlanks (' ' :: rest) = skipBlanks rest := by
  simp [skipBlanks]

/-- A value begins with no blank. -/
theorem skipBlanks_dumps (v : JsonScalar) (rest : List Char) :
    skipBlanks (v.dumps ++ rest) = v.dumps ++ rest := by
  cases v with
  | null => rfl
  | int n =>
      obtain ⟨c, digits, hdigits, hc, -⟩ := Json.toList_toString_int n
      show skipBlanks ((toString n).toList ++ rest) = (toString n).toList ++ rest
      rw [hdigits]
      refine skipBlanks_cons ⟨?_, ?_, ?_, ?_⟩ <;> · rintro rfl; revert hc; decide
  | str s => exact skipBlanks_cons (by decide)

theorem loadEntry_entryText (e : String × JsonScalar) {rest : List Char}
    (h : ∀ c ∈ rest.head?, c.isDigit = false) :
    loadEntry (entryText e ++ rest) = some (e, rest) := by
  rw [entryText_eq, loadEntry, readText_jsonText]
  simp only [Option.bind_eq_bind, Option.bind_some, skipBlanks_cons (c := ':') (by decide)]
  rw [skipBlanks_blank, skipBlanks_dumps, loadScalar_dumps e.2 h]
  simp

theorem loadEntries_blank (fuel : ℕ) (rest : List Char) :
    loadEntries fuel (' ' :: rest) = loadEntries fuel rest := by
  cases fuel with
  | zero => rfl
  | succ fuel => simp only [loadEntries, skipBlanks_blank]

/-- One entry, and what the separator after it decides. -/
theorem loadEntries_entryText (e : String × JsonScalar) (fuel : ℕ) {c : Char} (rest : List Char)
    (hc : c = ',' ∨ c = '\x7d') : loadEntries (fuel + 1) (entryText e ++ c :: rest) =
      if c = ',' then (loadEntries fuel rest).map (fun r => (e :: r.1, r.2))
      else some ([e], rest) := by
  have hhead : skipBlanks (entryText e ++ c :: rest) = entryText e ++ c :: rest := by
    rw [entryText_eq]
    exact skipBlanks_cons (by decide)
  rw [loadEntries, hhead, loadEntry_entryText]
  · rcases hc with rfl | rfl
    · simp only [Option.bind_eq_bind, Option.bind_some, skipBlanks_cons (c := ',') (by decide),
        if_true]
      cases loadEntries fuel rest <;> rfl
    · simp only [Option.bind_eq_bind, Option.bind_some,
        skipBlanks_cons (c := '\x7d') (by decide)]
      rfl
  · rcases hc with rfl | rfl <;> · rintro d hd; cases hd; decide

theorem loadEntries_intercalate (e : String × JsonScalar) (es : Payload) (rest : List Char)
    {fuel : ℕ} (hfuel : es.length < fuel) :
    loadEntries fuel (", ".toList.intercalate ((e :: es).map entryText) ++ '\x7d' :: rest) =
      some (e :: es, rest) := by
  induction es generalizing e fuel with
  | nil =>
      obtain ⟨fuel, rfl⟩ := Nat.exists_eq_succ_of_ne_zero (Nat.ne_of_gt hfuel)
      rw [List.map_singleton, List.intercalate_singleton,
        loadEntries_entryText e fuel rest (.inr rfl)]
      rfl
  | cons e' es ih =>
      obtain ⟨fuel, rfl⟩ := Nat.exists_eq_succ_of_ne_zero (Nat.ne_of_gt (Nat.zero_lt_of_lt hfuel))
      have hih := ih e' (Nat.lt_of_succ_lt_succ hfuel)
      rw [List.map_cons] at hih
      have hcomma : ∀ text, ", ".toList ++ text = ',' :: ' ' :: text := fun _ => rfl
      rw [List.map_cons, List.map_cons, List.intercalate_cons_cons, List.append_assoc,
        List.append_assoc, hcomma, loadEntries_entryText e fuel _ (.inl rfl), if_pos rfl,
        loadEntries_blank, hih]
      rfl

/-! ## Bodies -/

theorem jsonDumps_eq (payload : Payload) : (jsonDumps payload).toList = '\x7b' ::
    (", ".toList.intercalate ((payload.insertionSort (fun a b => a.1 ≤ b.1)).map entryText) ++
      ['\x7d']) := by
  rw [jsonDumps, String.toList_ofList, List.append_assoc]
  rfl

theorem loadObject_intercalate (entries : Payload) :
    loadObject (", ".toList.intercalate (entries.map entryText) ++ ['\x7d']) =
      some (entries, []) := by
  cases entries with
  | nil => rfl
  | cons e es =>
      have hquote : ∃ text, ", ".toList.intercalate ((e :: es).map entryText) ++ ['\x7d'] =
          '"' :: text := by
        cases es with
        | nil => exact ⟨_, by rw [List.map_singleton, List.intercalate_singleton, entryText_eq]⟩
        | cons e' es =>
            exact ⟨_, by rw [List.map_cons, List.map_cons, List.intercalate_cons_cons,
              List.append_assoc, List.append_assoc, entryText_eq]⟩
      have hne : ∀ text ∈ (e :: es).map entryText, text ≠ [] := by
        intro text htext
        obtain ⟨e', -, rfl⟩ := List.mem_map.mp htext
        simp [entryText, jsonText]
      have hfuel : es.length < (", ".toList.intercalate ((e :: es).map entryText) ++
          ['\x7d']).length := by
        have hlength := List.length_le_intercalate ", ".toList hne
        rw [List.length_map] at hlength
        rw [List.length_append]
        exact Nat.lt_succ_of_lt hlength
      have hread := loadEntries_intercalate e es [] hfuel
      obtain ⟨text, htext⟩ := hquote
      rw [htext] at hread ⊢
      rw [loadObject, skipBlanks_cons (by decide)]
      exact hread

/-- A body is read back as the entries of its payload, in the order of their keys. -/
theorem jsonLoads_jsonDumps (payload : Payload) : jsonLoads (jsonDumps payload) =
    some (payload.insertionSort (fun a b => a.1 ≤ b.1)) := by
  rw [jsonLoads, jsonDumps_eq, skipBlanks_cons (by decide)]
  simp only [loadObject_intercalate, Option.bind_some]
  rfl

theorem jsonDumps_inj {payload payload' : Payload} (h : jsonDumps payload = jsonDumps payload') :
    payload.Perm payload' := by
  have hsorted := congrArg jsonLoads h
  rw [jsonLoads_jsonDumps, jsonLoads_jsonDumps] at hsorted
  have hperm := List.perm_insertionSort (fun a b : String × JsonScalar => a.1 ≤ b.1) payload
  rw [Option.some.inj hsorted] at hperm
  exact hperm.symm.trans (List.perm_insertionSort _ payload')

/-! ## Printable bodies -/

def printable (c : Char) : Bool := ' ' ≤ c && c ≤ '~'

theorem printable_of_isDigit {c : Char} (h : c.isDigit = true) : printable c = true := by
  simp only [Char.isDigit, Bool.and_eq_true, decide_eq_true_eq] at h
  obtain ⟨hlow, hhigh⟩ := h
  have hlow : 48 ≤ c.toNat := hlow
  have hhigh : c.toNat ≤ 57 := hhigh
  have hblank : 32 ≤ c.toNat := by omega
  have htilde : c.toNat ≤ 126 := by omega
  simp only [printable, Bool.and_eq_true, decide_eq_true_eq]
  exact ⟨hblank, htilde⟩

theorem printable_hex4 (n : ℕ) : ∀ c ∈ ['\\', 'u'] ++ hex4 n, printable c = true := by
  have hdigit : ∀ m, printable (hexDigit (m % 16)) = true := by
    intro m
    have hall : ∀ k : Fin 16, printable (hexDigit k) = true := by decide
    exact hall ⟨m % 16, Nat.mod_lt m (by decide)⟩
  have hslash : printable '\\' = true := by decide
  have hu : printable 'u' = true := by decide
  intro c hc
  simp only [hex4, List.cons_append, List.nil_append, List.mem_cons, List.not_mem_nil,
    or_false] at hc
  rcases hc with rfl | rfl | rfl | rfl | rfl | rfl
  · exact hslash
  · exact hu
  all_goals exact hdigit _

theorem printable_jsonChar (c : Char) : ∀ d ∈ jsonChar c, printable d = true := by
  by_cases hescaped : c ∈ escaped
  · have hall : escaped.all (fun c => (jsonChar c).all printable) = true := by decide
    exact List.all_eq_true.mp (List.all_eq_true.mp hall c hescaped)
  · rw [jsonChar_of_notMem hescaped]
    by_cases hplain : ' ' ≤ c ∧ c ≤ '~'
    · rw [if_pos hplain]
      intro d hd
      obtain rfl := List.mem_singleton.mp hd
      simp [printable, hplain.1, hplain.2]
    · rw [if_neg hplain]
      by_cases hunit : c.toNat < 65536
      · rw [if_pos hunit]
        exact printable_hex4 _
      · rw [if_neg hunit]
        exact fun d hd => (List.mem_append.mp hd).elim (printable_hex4 _ d) (printable_hex4 _ d)

theorem printable_jsonText (s : String) : ∀ c ∈ jsonText s, printable c = true := by
  have hquote : printable '"' = true := by decide
  intro c hc
  simp only [jsonText, List.mem_append, List.mem_singleton, List.mem_flatMap] at hc
  rcases hc with (rfl | ⟨d, -, hd⟩) | rfl
  · exact hquote
  · exact printable_jsonChar d c hd
  · exact hquote

theorem printable_dumps (v : JsonScalar) : ∀ c ∈ v.dumps, printable c = true := by
  cases v with
  | null =>
      have hnull : JsonScalar.null.dumps.all printable = true := by decide
      exact List.all_eq_true.mp hnull
  | int n =>
      obtain ⟨d, digits, hdigits, hd, hall⟩ := Json.toList_toString_int n
      intro c hc
      have hc : c ∈ (toString n).toList := hc
      rw [hdigits] at hc
      rcases List.mem_cons.mp hc with rfl | hc
      · rcases hd with rfl | hd
        · decide
        · exact printable_of_isDigit hd
      · exact printable_of_isDigit (hall c hc)
  | str s => exact printable_jsonText s

theorem printable_entryText (e : String × JsonScalar) : ∀ c ∈ entryText e, printable c = true := by
  have hcolon : (": ".toList.all printable) = true := by decide
  intro c hc
  rcases List.mem_append.mp hc with hc | hc
  · exact (List.mem_append.mp hc).elim (printable_jsonText e.1 c) (List.all_eq_true.mp hcolon c)
  · exact printable_dumps e.2 c hc

/-- A body is printable ASCII, whatever its texts hold. -/
theorem printable_jsonDumps (payload : Payload) :
    ∀ c ∈ (jsonDumps payload).toList, printable c = true := by
  have hopen : printable '\x7b' = true := by decide
  have hclose : printable '\x7d' = true := by decide
  have hcomma : (", ".toList.all printable) = true := by decide
  intro c hc
  rw [jsonDumps_eq] at hc
  rcases List.mem_cons.mp hc with rfl | hc
  · exact hopen
  rcases List.mem_append.mp hc with hc | hc
  · refine List.forall_mem_intercalate (List.all_eq_true.mp hcomma) ?_ c hc
    intro text htext
    obtain ⟨e, -, rfl⟩ := List.mem_map.mp htext
    exact printable_entryText e
  · rw [List.mem_singleton.mp hc]
    exact hclose

/-! ## Posts -/

/-- The body of an event that has been announced, each of whose keys has one value. -/
def Announced (content : String) (τ : History) : Prop :=
  ∃ t event payload, content = jsonDumps payload ∧ (payload.map Prod.fst).Nodup ∧
    ∃ x ∈ τ, x.call = .sys (.mark (.dispatchTenantWebhooks t event payload))

def mayPost (τ : History) : Call → Prop
  | .sys (.mark (.dispatchTenantWebhooks _ _ payload)) => (payload.map Prod.fst).Nodup
  | .sys (.post _ content _) => Announced content τ
  | _ => True

def posting : Discipline Call Call.Result := ⟨mayPost, fun _ _ => True⟩

/-- Calls that announce nothing, and post nothing but this body. -/
def Call.postsOnly (body : Option String) : Call → Prop
  | .sys (.mark (.dispatchTenantWebhooks ..)) => False
  | .sys (.post _ content _) => body = some content
  | _ => True

section Along

variable {α : Type} {p : Py α} {Q : α → Prop} {τ : History}

theorem along_posting (body : Option String) (hp : p.Uses (Call.postsOnly body) Q)
    (h : ∀ content ∈ body, Announced content τ) :
    p.Along posting (fun a _ => Q a) (fun _ _ => True) τ := by
  refine (hp.along (I := fun τ => ∀ content ∈ body, Announced content τ)
    (fun τ e he hτ => ?_) (fun τ x _ hτ _ content hcontent => ?_) h).mono
    (fun _ _ h => h.1) (fun _ _ _ => trivial)
  · cases e with
    | db e => trivial
    | k8s e => trivial
    | sys e =>
        cases e with
        | mark m => cases m <;> trivial
        | post url content headers => exact hτ content he
        | _ => trivial
  · obtain ⟨t, event, payload, heq, hnodup, y, hy, hmark⟩ := hτ content hcontent
    exact ⟨t, event, payload, heq, hnodup, y, List.mem_cons_of_mem x hy, hmark⟩

theorem along_silent (hp : p.Uses (Call.postsOnly none) Q) :
    p.Along posting (fun a _ => Q a) (fun _ _ => True) τ :=
  along_posting none hp (fun _ h => by cases h)

end Along

section Serve

variable {cfg : Settings} {τ : History}

theorem deliverAll_posts (tenantId : ℕ) (event : String) (payload : Payload)
    (registrations : List (ℕ × WebhookRegistration)) :
    (deliverAll cfg tenantId event payload registrations).Uses
      (Call.postsOnly (some (jsonDumps payload))) (fun _ => True) := by
  induction registrations with
  | nil => trivial
  | cons r rest ih =>
      refine Prog.Uses.bind (M := fun _ => True) ?_ (fun _ _ => ih.bind (fun _ _ => trivial))
      rw [deliver_eq]
      exact ⟨trivial, fun _ => ⟨rfl, fun r => by cases r <;> trivial⟩⟩

theorem dispatchTenantWebhooks_posting (tenantId : ℕ) (event : String) {payload : Payload}
    (h : (payload.map Prod.fst).Nodup) :
    (dispatchTenantWebhooks cfg tenantId event payload).Along posting (fun _ _ => True)
      (fun _ _ => True) τ := by
  refine ⟨h, fun r _ => along_posting (some (jsonDumps payload)) ?_ ?_⟩
  · refine ⟨trivial, fun registrations => ?_⟩
    refine (deliverAll_posts tenantId event payload registrations).bind (fun deliveries _ => ?_)
    show (if _ then _ else _ : Py Unit).Uses _ _
    split
    · exact ⟨trivial, fun r => by cases r <;> trivial⟩
    · trivial
  · rintro content ⟨⟩
    exact ⟨tenantId, event, payload, rfl, h, _, List.mem_cons_self, rfl⟩

/-- A call that neither announces nor posts, and whatever follows its answer. -/
theorem along_call {e : Call} {k : Call.Result e → Py Unit} (he : e.postsOnly none)
    (hk : ∀ r τ, (k r).Along posting (fun _ _ => True) (fun _ _ => True) τ) :
    (Prog.call e k).Along posting (fun _ _ => True) (fun _ _ => True) τ := by
  have hcall : (Prog.call e Prog.ret : Py (Call.Result e)).Uses (Call.postsOnly none)
    (fun _ => True) := ⟨he, fun _ => trivial⟩
  exact (along_silent hcall).bind (fun r τ _ => hk r τ)

theorem resolveBuild_posting (id : ℕ) (resolved : BuildReport × Bool) :
    (resolveBuild cfg id resolved).Along posting (fun _ _ => True) (fun _ _ => True) τ := by
  refine along_call trivial (fun r τ => ?_)
  rcases r with x | _ | ⟨n, loaded⟩
  · trivial
  · trivial
  · refine along_call trivial (fun endedAt τ => along_call trivial (fun r τ => ?_))
    cases r with
    | error x => trivial
    | ok row =>
        refine dispatchTenantWebhooks_posting _ _ ?_
        simp only [buildPayload, List.map_cons, List.map_nil]
        decide

theorem resolveDeployment_posting (id : ℕ) (running : Bool) :
    (resolveDeployment cfg id running).Along posting (fun _ _ => True) (fun _ _ => True) τ := by
  refine along_call trivial (fun r τ => ?_)
  cases r with
  | none => trivial
  | some loaded =>
      refine along_call trivial (fun r τ => ?_)
      cases r with
      | error x => trivial
      | ok row =>
          refine dispatchTenantWebhooks_posting _ _ ?_
          simp only [deploymentPayload, List.map_cons, List.map_nil]
          decide

theorem BackgroundTask.run_posting (task : BackgroundTask) :
    (task.run cfg).Along posting (fun _ _ => True) (fun _ _ => True) τ := by
  cases task with
  | pollBuildUntilDone id ns =>
      refine along_call trivial (fun _ τ => ?_)
      refine pollLoop_along (I := fun _ => True) (J := fun _ _ => True)
        (fun _ _ _ => ⟨trivial, trivial⟩) (fun τ _ => ?_)
        (fun resolved τ _ => resolveBuild_posting id resolved) (fun τ _ => ?_) _ _ _ trivial
      · refine (along_silent (Q := fun _ => True) ?_).mono
          (fun o _ _ => by cases o <;> trivial) (fun _ _ h => h)
        exact (getBuildStatus_calls trivial).bind (fun _ _ => trivial)
      · exact along_silent (expireBuild_calls id trivial trivial (fun _ => trivial))
  | pollDeploymentUntilRunning id ns name =>
      refine along_call trivial (fun _ τ => ?_)
      refine pollLoop_along (I := fun _ => True) (J := fun _ _ => True)
        (fun _ _ _ => ⟨trivial, trivial⟩) (fun τ _ => ?_)
        (fun running τ _ => resolveDeployment_posting id running) (fun τ _ => ?_) _ _ _ trivial
      · refine (along_silent (Q := fun _ => True) ?_).mono
          (fun o _ _ => by cases o <;> trivial) (fun _ _ h => h)
        exact (getDeploymentStatus_calls trivial).bind (fun _ _ => trivial)
      · exact along_silent (expireDeployment_calls id trivial (fun _ => trivial))

theorem Request.thread_posting (adminSecretKey : String) (r : Request) :
    (r.thread cfg adminSecretKey).Along posting (fun _ _ => True) (fun _ _ => True) τ := by
  have hserve : (r.serve cfg adminSecretKey).Uses (Call.postsOnly none) (fun _ => True) := by
    refine Prog.Uses.tryCatch ?_ (fun e => trivial)
    cases r with
    | tenant t xApiKey r =>
        refine (verifyTenant_uses cfg t xApiKey trivial).bind (fun _ _ => ?_)
        refine (r.handle_calls cfg t).mono (fun e he => ?_) (fun _ _ => trivial)
        cases he with
        | scope h => cases h <;> trivial
        | _ => trivial
    | admin xAdminSecret r =>
        refine (verifyAdmin_uses adminSecretKey xAdminSecret).bind (fun _ _ => ?_)
        refine (r.handle_calls cfg).mono (fun e he => ?_) (fun _ _ => trivial)
        rcases he with ⟨_ | _ | _ | _⟩ | _ | _ | _ <;> trivial
  refine (along_silent hserve).bind ?_
  rintro ⟨response, task | task⟩ τ -
  · trivial
  · exact task.run_posting

end Serve

/-! ## Runs -/

/-- Everything posted is printable, belongs to an event announced before, is read back as the
payload of that event, and could have been written for no other payload. -/
def PostsReadBack (τ : History) : Prop :=
  ∀ later x past url content headers, τ = later ++ x :: past →
    x.call = .sys (.post url content headers) →
    (∀ c ∈ content.toList, printable c = true) ∧
    ∃ t event payload,
      (∃ y ∈ past, y.call = .sys (.mark (.dispatchTenantWebhooks t event payload))) ∧
      (payload.map Prod.fst).Nodup ∧
      (∃ entries, jsonLoads content = some entries ∧ entries.Perm payload) ∧
      ∀ payload', jsonDumps payload' = content → payload'.Perm payload

theorem postsReadBack_of_legal {τ : History} (h : posting.Legal τ) : PostsReadBack τ := by
  rintro later x past url content headers rfl hcall
  obtain ⟨hmay, -, -⟩ := h.of_append
  rw [hcall] at hmay
  obtain ⟨t, event, payload, rfl, hnodup, hannounced⟩ := hmay
  refine ⟨printable_jsonDumps payload, t, event, payload, hannounced, hnodup, ?_,
    fun payload' => jsonDumps_inj⟩
  exact ⟨_, jsonLoads_jsonDumps payload, List.perm_insertionSort _ payload⟩

section Reachable

variable {ι : Type} [DecidableEq ι] {cfg : Settings} {adminSecretKey : String}
  {requests : ι → Request} {w : World} {env : World → World → Prop}
  {c : Config ι Call Call.Result PyException World}

/-- Whatever the database holds at first and whatever other requests run, what a request and its
poller post is read back as what they announce. -/
theorem posted_bodies_read_back (hc : Reach (platform env)
    (.start (fun i => (requests i).thread cfg adminSecretKey) w) c) (i : ι) :
    PostsReadBack (own i c.trail.events) :=
  postsReadBack_of_legal (Reach.keeps (fun i => (requests i).thread_posting adminSecretKey)
    (fun _ _ _ => trivial) hc i)

end Reachable

/-- A build that succeeds for a tenant with a registration. -/
def postedRun : Config ℕ Call Call.Result PyException World :=
  play handle outsideCluster
    (List.replicate 14 (.inl (1, .ok)) ++ [.inr builtCluster] ++ List.replicate 9 (.inl (1, .ok)))
    (.start (fun i => (sampleRequests i).thread sampleSettings "admin") (registeredWorld "s1"))

def Call.isPost : Call → Bool
  | .sys (.post ..) => true
  | _ => false

theorem posted_bodies_read_back_built :
    (∃ x ∈ own 1 postedRun.trail.events, x.call.isPost = true) ∧
      PostsReadBack (own 1 postedRun.trail.events) := by
  refine ⟨by decide +kernel, ?_⟩
  have houtside : ∀ change w, anyCluster w (outsideCluster change w) := fun _ _ => rfl
  have hreach : Reach (platform anyCluster) (.start
      (fun i => (sampleRequests i).thread sampleSettings "admin") (registeredWorld "s1"))
      postedRun := Reach.play houtside _ .init
  exact posted_bodies_read_back hreach 1

end TenantPlatform
