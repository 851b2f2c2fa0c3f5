import JobGraph.Api.Router
import JobGraph.Proofs.Json.Writing
import JobGraph.Proofs.Pipeline.Credentials
import JobGraph.Proofs.Pipeline.Failure

/-!
# Replies to submissions

A submission is answered with one of three statuses. It is the fault of the caller exactly when
its body is refused, and then no service was asked, or when the executor fails with an error that
says so. It succeeds exactly when the run does. All other failures are those of the server, and
after them the executor was given nothing unless the failure is its own.
-/

namespace JobGraph

namespace Api

variable {access : Access} {p : Pipeline} {r : Http.Request} {request : Request}
  {answer : Http.Response}

/-- The body of a submission is refused: it cannot be read, be it that it is not said to be JSON, is
too long or is no request, it has no nodes, or its graph fails the check. -/
def Refused (r : Http.Request) : Prop :=
  (∃ fault, readBody r = .error fault)
    ∨ ∃ request, readBody r = .ok request
      ∧ (request.graph.nodes = [] ∨ request.graph.check ≠ .ok ())

/-- A body that is not refused has a graph that is accepted. -/
theorem exists_of_not_refused (h : ¬ Refused r) :
  ∃ request, readBody r = .ok request ∧ request.graph.nodes ≠ []
    ∧ request.graph.accept = .ok ()
  := by
  cases hread : readBody r with
  | error fault => exact (h (.inl ⟨fault, hread⟩)).elim
  | ok request =>
    have hnodes : request.graph.nodes ≠ [] := fun hnil => h (.inr ⟨request, hread, .inl hnil⟩)
    have hcheck : request.graph.check = .ok () := by
      by_contra hcheck
      apply h (.inr ⟨request, hread, .inr hcheck⟩)
    use request, rfl, hnodes, Graph.accept_eq_ok hnodes hcheck

theorem not_refused_of_read (hread : readBody r = .ok request) (hnodes : request.graph.nodes ≠ [])
    (hcheck : request.graph.check = .ok ()) :
  ¬ Refused r
  := by
  rintro (⟨fault, hfault⟩ | ⟨request', hread', hrefused⟩)
  · cases hfault.symm.trans hread
  · cases hread'.symm.trans hread
    rcases hrefused with hnil | hne
    · apply hnodes hnil
    · apply hne hcheck

/-! ### Calls -/

/-- A run whose body is refused fails before anyone is asked. -/
theorem run_of_refused (h : Refused r) (hread : readBody r = .ok request) (p : Pipeline) :
  ∃ e, e.httpStatus = 400 ∧ p.run request = ⟨[], [], .error e⟩
  := by
  obtain ⟨fault, hfault⟩ | ⟨request', hread', hrefused⟩ := h
  · cases hread.symm.trans hfault
  · cases hread.symm.trans hread'
    obtain ⟨e, haccept⟩ := Graph.exists_of_refused hrefused
    obtain ⟨defect, rfl⟩ := Graph.exists_of_accept_error haccept
    use .invalidGraph defect.message, rfl, Pipeline.run_of_accept_error haccept

/-- A body that is refused is the fault of the caller, and no one is asked. -/
theorem submit_of_refused (h : Refused r) (p : Pipeline) :
  ∃ answer, answer.status = 400 ∧ submit p r = ⟨[], [], .ok answer⟩
  := by
  cases hread : readBody r with
  | error fault =>
    use badRequest fault.message, rfl
    rw [submit, hread]
    rfl
  | ok request =>
    rw [submit, hread]
    by_cases hnil : request.graph.nodes.isEmpty = true
    · use badRequest "No nodes provided", rfl
      simp only [if_pos hnil]
      rfl
    · obtain ⟨e, hstatus, hrun⟩ := run_of_refused h hread p
      use errorReply e.httpStatus e, hstatus
      simp only [if_neg hnil, reply, hrun]

/-- An accepted graph is run, and the reply says what came of it. -/
theorem submit_of_read (hread : readBody r = .ok request) (hnodes : request.graph.nodes ≠ []) :
  submit p r = reply emissionReply Error.httpStatus (p.run request)
  := by
  have hnil : ¬ request.graph.nodes.isEmpty = true := by simpa using hnodes
  simp only [submit, hread, if_neg hnil]

/-- A submission is answered by its call, with more headers. -/
theorem serve_submission (hmethod : r.method = "POST") (hpath : r.path = "/api/workflows/submit")
    (h : (submit p r).result = .ok answer) :
  serve access p r = ⟨(submit p r).asked, (submit p r).submitted,
    .ok (answer.withHeaders (access.headers (r.header? "origin")))⟩
  := by
  have hroute : Route.ofPath? r.path = some .submit := by
    rw [hpath]
    rfl
  have hoptions : ¬ r.method = "OPTIONS" := by
    rw [hmethod]
    decide
  have hhead : ¬ r.method = "HEAD" := by
    rw [hmethod]
    decide
  have hmember : r.method ∈ Route.submit.methods := by
    rw [hmethod]
    apply List.mem_singleton_self
  have hserve : Route.submit.serve p r = submit p r := by
    rw [Route.serve, if_neg hhead]
    rfl
  simp only [serve, hroute, if_neg hoptions, if_pos hmember, hserve]
  rw [Run.bind_of_ok h]
  simp [pure, Run.ofResult]

/-- A submission of an accepted graph is answered by the outcome of its run. -/
theorem serve_of_read (hmethod : r.method = "POST") (hpath : r.path = "/api/workflows/submit")
    (hread : readBody r = .ok request) (hnodes : request.graph.nodes ≠ []) :
  (serve access p r).submitted = (p.run request).submitted
    ∧ ∃ answer, (serve access p r).result = .ok answer
      ∧ ∀ e, (p.run request).result = .error e → answer.status = e.httpStatus
  := by
  have hsubmit := @submit_of_read p r request hread hnodes
  rw [serve_submission hmethod hpath (congrArg Run.result hsubmit), hsubmit]
  refine ⟨rfl, _, rfl, ?_⟩
  intro e he
  simp only [he]
  rfl

/-! ### Outcomes -/

/-- What can come of a submission that is answered with this status. -/
inductive Outcome (p : Pipeline) (r : Http.Request) (status : Nat) : Prop where
  /-- The body is refused, and no one is asked. -/
  | refused (hrefused : Refused r) (hasked : (submit p r).asked = [])
      (hsubmitted : (submit p r).submitted = []) (hstatus : status = 400)
  /-- The run succeeds. -/
  | succeeded {request : Request} {emission : Emission} (haccepted : ¬ Refused r)
      (hread : readBody r = .ok request) (hresult : (p.run request).result = .ok emission)
      (hsame : (submit p r).submitted = (p.run request).submitted) (hstatus : status = 200)
  /-- The run fails before anything is handed over. -/
  | failed {request : Request} {e : Error} (haccepted : ¬ Refused r)
      (hread : readBody r = .ok request) (hresult : (p.run request).result = .error e)
      (hsubmitted : (submit p r).submitted = []) (hstatus : status = 500)
  /-- The run fails through the executor. -/
  | undone {request : Request} {e : Error} {m : Manifest} (haccepted : ¬ Refused r)
      (hread : readBody r = .ok request) (hresult : (p.run request).result = .error e)
      (hsame : (submit p r).submitted = (p.run request).submitted)
      (hsubmitted : (submit p r).submitted = [m])
      (hfault : p.ExecutorFails m e) (hstatus : status = e.httpStatus)

/-- With a catalog that fails as such these are all outcomes. -/
theorem exists_outcome (hcatalog : p.catalog.FailsAsCatalog) (r : Http.Request) :
  ∃ answer, (submit p r).result = .ok answer ∧ Outcome p r answer.status
  := by
  by_cases hrefused : Refused r
  · obtain ⟨answer, hstatus, hsubmit⟩ := submit_of_refused hrefused p
    use answer
    rw [hsubmit]
    use rfl
    apply Outcome.refused hrefused _ _ hstatus <;> rw [hsubmit]
  · obtain ⟨request, hread, hnodes, haccept⟩ := exists_of_not_refused hrefused
    have hsubmit := @submit_of_read p r request hread hnodes
    have hsame : (submit p r).submitted = (p.run request).submitted := by
      rw [hsubmit]
      rfl
    rw [hsubmit]
    cases hresult : (p.run request).result with
    | ok emission =>
      use emissionReply emission
      constructor
      · rw [reply, hresult]
      · apply Outcome.succeeded hrefused hread hresult hsame
        cases emission <;> rfl
    | error e =>
      use errorReply e.httpStatus e
      constructor
      · rw [reply, hresult]
      · obtain ⟨hrefuses, hsubmitted⟩ | ⟨m, hsubmitted, hfault⟩ :=
          Pipeline.run_error_cases hresult
        · apply Outcome.failed hrefused hread hresult (hsame.trans hsubmitted)
          -- The graph is accepted, so none of the errors left blames the caller.
          obtain haccept' | ⟨-, hcontent⟩ := Pipeline.refuses_cases hcatalog hrefuses
          · cases haccept.symm.trans haccept'
          · apply hcontent.httpStatus
        · apply Outcome.undone hrefused hread hresult hsame (hsame.trans hsubmitted) hfault rfl

namespace Outcome

variable {status : Nat}

theorem status_cases (h : Outcome p r status) :
  status = 200 ∨ status = 400 ∨ status = 500
  := by
  cases h with
  | refused _ _ _ hstatus => simp [hstatus]
  | succeeded _ _ _ _ hstatus => simp [hstatus]
  | failed _ _ _ _ hstatus => simp [hstatus]
  | @undone _ e _ _ _ _ _ _ _ hstatus =>
    right
    rw [hstatus]
    apply e.httpStatus_cases

/-- A body that is refused is the fault of the caller, and no one is asked. -/
theorem of_refused (h : Outcome p r status) (hrefused : Refused r) :
  status = 400 ∧ (submit p r).asked = [] ∧ (submit p r).submitted = []
  := by
  cases h with
  | refused _ hasked hsubmitted hstatus => exact ⟨hstatus, hasked, hsubmitted⟩
  | succeeded haccepted => exact (haccepted hrefused).elim
  | failed haccepted => exact (haccepted hrefused).elim
  | undone haccepted => exact (haccepted hrefused).elim

/-- A run that failed did not succeed. -/
theorem not_exists_of_error {request : Request} {e : Error} (hread : readBody r = .ok request)
    (hresult : (p.run request).result = .error e) :
  ¬ ∃ request emission, readBody r = .ok request ∧ (p.run request).result = .ok emission
  := by
  rintro ⟨request', emission, hread', hresult'⟩
  cases hread.symm.trans hread'
  cases hresult.symm.trans hresult'

/-- A submission succeeds exactly when its run does. -/
theorem status_eq_200_iff (h : Outcome p r status) :
  status = 200 ↔ ∃ request emission, readBody r = .ok request
    ∧ (p.run request).result = .ok emission
  := by
  cases h with
  | refused hrefused _ _ hstatus =>
    constructor
    · intro hok
      cases hstatus.symm.trans hok
    · rintro ⟨request, emission, hread, hresult⟩
      obtain ⟨e, -, hrun⟩ := run_of_refused hrefused hread p
      rw [hrun] at hresult
      cases hresult
  | @succeeded request emission _ hread hresult _ hstatus =>
    constructor
    · intro _
      use request, emission
    · intro _
      apply hstatus
  | failed _ hread hresult _ hstatus =>
    apply iff_of_false _ (not_exists_of_error hread hresult)
    intro hok
    cases hstatus.symm.trans hok
  | @undone _ e _ _ hread hresult _ _ _ hstatus =>
    apply iff_of_false _ (not_exists_of_error hread hresult)
    intro hok
    obtain he | he := e.httpStatus_cases
    · cases (hstatus.trans he).symm.trans hok
    · cases (hstatus.trans he).symm.trans hok

/-- A submission is the fault of the caller when its body is refused, or when the executor says
so. -/
theorem status_eq_400_iff (h : Outcome p r status) :
  status = 400 ↔ Refused r ∨ ∃ m e, (submit p r).submitted = [m]
    ∧ (p.executor.submit m).FailsIn p.settings.executorTimeout e ∧ e.httpStatus = 400
  := by
  cases h with
  | refused hrefused _ _ hstatus => exact iff_of_true hstatus (.inl hrefused)
  | succeeded haccepted _ hresult hsame hstatus =>
    apply iff_of_false
    · intro hfault
      cases hstatus.symm.trans hfault
    · rintro (hrefused | ⟨m, e, hm, hfails, -⟩)
      · apply haccepted hrefused
      · rw [hsame] at hm
        cases hresult.symm.trans (Pipeline.result_of_failsIn hm hfails)
  | failed haccepted _ _ hsubmitted hstatus =>
    apply iff_of_false
    · intro hfault
      cases hstatus.symm.trans hfault
    · rintro (hrefused | ⟨m, e, hm, -⟩)
      · apply haccepted hrefused
      · cases hsubmitted.symm.trans hm
  | @undone _ e m haccepted _ hresult hsame hsubmitted hfault hstatus =>
    constructor
    · intro h400
      right
      obtain hfails | ⟨rfl, -⟩ := hfault
      · use m, e, hsubmitted, hfails, hstatus.symm.trans h400
      · cases hstatus.symm.trans h400
    · rintro (hrefused | ⟨m', e', hm, hfails, he⟩)
      · exact (haccepted hrefused).elim
      · rw [hsame] at hm
        cases hresult.symm.trans (Pipeline.result_of_failsIn hm hfails)
        apply hstatus.trans he

/-- A submission that fails through the server was not handed over, unless the executor failed
or was late. -/
theorem exists_of_status_eq_500 (h : Outcome p r status) (hstatus : status = 500) :
  ∃ request e, readBody r = .ok request ∧ (p.run request).result = .error e
    ∧ ((submit p r).submitted = []
      ∨ ∃ m, (submit p r).submitted = [m] ∧ p.ExecutorFails m e)
  := by
  cases h with
  | refused _ _ _ h400 => cases h400.symm.trans hstatus
  | succeeded _ _ _ _ h200 => cases h200.symm.trans hstatus
  | @failed request e _ hread hresult hsubmitted _ =>
    use request, e, hread, hresult, .inl hsubmitted
  | @undone request e m _ hread hresult _ hsubmitted hfault _ =>
    exact ⟨request, e, hread, hresult, .inr ⟨m, hsubmitted, hfault⟩⟩

end Outcome

/-! ### Statuses -/

/-- A submission is answered with one of three statuses. It is the fault of the caller exactly
when the body is refused, and then no service was asked, or when the executor fails with an error
of this status, as no executor does that fails as such. It succeeds exactly when the run does.
After any other failure nothing was handed to the executor, unless the failure is the executor's own
or that of its being late. -/
theorem serve_status (hcatalog : p.catalog.FailsAsCatalog) (hmethod : r.method = "POST")
    (hpath : r.path = "/api/workflows/submit") (access : Access) :
  ∃ answer, (serve access p r).result = .ok answer
    ∧ (answer.status = 200 ∨ answer.status = 400 ∨ answer.status = 500)
    ∧ (Refused r → answer.status = 400
        ∧ (serve access p r).asked = [] ∧ (serve access p r).submitted = [])
    ∧ (p.executor.FailsAsExecutor → (answer.status = 400 ↔ Refused r))
    ∧ (answer.status = 400 ↔ Refused r ∨ ∃ m e, (serve access p r).submitted = [m]
        ∧ (p.executor.submit m).FailsIn p.settings.executorTimeout e ∧ e.httpStatus = 400)
    ∧ (answer.status = 200 ↔ ∃ request emission, readBody r = .ok request
        ∧ (p.run request).result = .ok emission)
    ∧ (answer.status = 500 → ∃ request e, readBody r = .ok request
        ∧ (p.run request).result = .error e
        ∧ ((serve access p r).submitted = []
          ∨ ∃ m, (serve access p r).submitted = [m] ∧ p.ExecutorFails m e))
  := by
  obtain ⟨answer, hanswer, houtcome⟩ := exists_outcome hcatalog r
  rw [serve_submission hmethod hpath hanswer]
  use answer.withHeaders (access.headers (r.header? "origin")), rfl
  refine ⟨houtcome.status_cases, houtcome.of_refused, ?_, houtcome.status_eq_400_iff,
    houtcome.status_eq_200_iff, houtcome.exists_of_status_eq_500⟩
  · intro hexecutor
    apply houtcome.status_eq_400_iff.trans
    constructor
    · rintro (hrefused | ⟨m, e, -, ⟨delay, hreply, -⟩, he⟩)
      · apply hrefused
      · cases (hexecutor m delay e hreply).httpStatus.symm.trans he
    · apply Or.inl

end Api

/-- The text of a request to run the step that needs nothing. -/
def idlingText : String :=
  "\x7b\"nodes\":[\x7b\"id\":\"a\",\"template_name\":\"idle\",\"entrypoint\":\"main\"\x7d]\x7d"

/-- A submission of the step that needs nothing. -/
def idlingPosted : Http.Request where
  method := "POST"
  target := "/api/workflows/submit"
  headers := [("content-type", "application/json")]
  body := idlingText

/-- The text is read as the step, and so are its bytes. -/
theorem idlingText_read :
  Request.ofBytes idlingText = .ok ⟨idling, none, .submit⟩
  := by
  have hdraft : Json.Draft.ofText idlingText = (.object [(.string "nodes", .array
      [.object [(.string "id", .string "a"), (.string "template_name", .string "idle"),
        (.string "entrypoint", .string "main")] true] true)] true, true) := by
    cbv
  rw [Request.ofBytes, Json.readBytes, Json.textOfBytes_utf8, Json.readText, hdraft]
  cbv

/-- What is posted is read as the step. -/
theorem idlingPosted_read :
  Api.readBody idlingPosted = .ok ⟨idling, none, .submit⟩
  := by
  have hmedia : (idlingPosted.header? "content-type").any Http.isJsonMediaType = true := by cbv
  have hsize : ¬ Api.bodyLimit < idlingPosted.body.length := by decide
  have hread : Request.ofBytes idlingPosted.body = .ok ⟨idling, none, .submit⟩ := idlingText_read
  simp only [Api.readBody, hmedia, if_neg hsize, hread]
  rfl

/-- The pipeline for the step that needs nothing, with an executor of this reply. -/
def idlerReplying (reply : Reply String) : Pipeline :=
  { idler with executor := ⟨fun _ => reply⟩ }

/-- Whatever the executor replies, it is handed the step. -/
theorem exists_submitted_idlerReplying (reply : Reply String) :
  ∃ m, ((idlerReplying reply).run ⟨idling, none, .submit⟩).submitted = [m]
    ∧ (Api.serve ⟨[], 100⟩ (idlerReplying reply) idlingPosted).submitted = [m]
  := by
  obtain ⟨c, hvalid⟩ := idling_valid
  have hanalyze : ((idlerReplying reply).analyze idling).result = .ok (c, []) := hvalid
  have hrun := (@Pipeline.submitted_run_iff (idlerReplying reply) idling none .submit _).mpr
    ⟨rfl, c, hanalyze, rfl⟩
  obtain ⟨hsame, -⟩ := @Api.serve_of_read ⟨[], 100⟩ (idlerReplying reply) idlingPosted _ rfl rfl
    idlingPosted_read (List.cons_ne_nil _ _)
  exact ⟨_, hrun, hsame.trans hrun⟩

/-- The pipeline for the step that needs nothing, with an executor that takes it for malformed. -/
def mistaken : Pipeline :=
  idlerReplying (.now (.error (.parse "no workflow")))

/-- A submission that does not say what its body is. -/
def idlingUnmarked : Http.Request :=
  { idlingPosted with headers := [] }

theorem idlingUnmarked_refused :
  Api.Refused idlingUnmarked
  := .inl ⟨.mediaType, rfl⟩

/-- The step is read and its graph accepted, but it is answered as a fault of the caller when the
executor that it was handed to fails as if it had read something malformed, and when the submission
does not say that it is JSON. -/
theorem idling_blamed :
  Request.ofBytes idlingText = .ok ⟨idling, none, .submit⟩
    ∧ idling.nodes ≠ [] ∧ idling.check = .ok () ∧ idler.catalog.FailsAsCatalog
    ∧ (∃ answer m, (Api.serve ⟨[], 100⟩ mistaken idlingPosted).result = .ok answer
      ∧ answer.status = 400 ∧ (Api.serve ⟨[], 100⟩ mistaken idlingPosted).submitted = [m])
    ∧ ∃ answer, (Api.serve ⟨[], 100⟩ idler idlingUnmarked).result = .ok answer
      ∧ answer.status = 400
  := by
  refine ⟨idlingText_read, List.cons_ne_nil _ _, by cbv, TemplateFolder.catalog_failsAsCatalog _,
    ?_, ?_⟩
  · obtain ⟨m, hrun, hserved⟩ := exists_submitted_idlerReplying
      (.now (.error (.parse "no workflow")))
    have hfails : (mistaken.run ⟨idling, none, .submit⟩).result = .error (.parse "no workflow") :=
      Pipeline.result_of_failsIn hrun ⟨.zero, rfl, Nat.zero_le _⟩
    obtain ⟨-, answer, hanswer, hstatus⟩ := @Api.serve_of_read ⟨[], 100⟩ mistaken idlingPosted _
      rfl rfl idlingPosted_read (List.cons_ne_nil _ _)
    exact ⟨answer, m, hanswer, hstatus (.parse "no workflow") hfails, hserved⟩
  · obtain ⟨answer, hstatus, hsubmit⟩ := Api.submit_of_refused idlingUnmarked_refused idler
    rw [@Api.serve_submission _ idler idlingUnmarked answer rfl rfl (congrArg Run.result hsubmit)]
    exact ⟨_, rfl, hstatus⟩

/-- The step is answered with success, with the status of the executor's own failure, as a fault of
the server when the executor is late, and as one of the caller when it is not said to be JSON. -/
theorem idling_answered :
  (∃ answer, (Api.serve ⟨[], 100⟩ idler idlingPosted).result = .ok answer ∧ answer.status = 200)
    ∧ (∃ answer, (Api.serve ⟨[], 100⟩ mistaken idlingPosted).result = .ok answer
      ∧ answer.status = 400)
    ∧ (∃ answer, (Api.serve ⟨[], 100⟩ (idlerReplying .never) idlingPosted).result = .ok answer
      ∧ answer.status = 500)
    ∧ ∃ answer, (Api.serve ⟨[], 100⟩ idler idlingUnmarked).result = .ok answer
      ∧ answer.status = 400 ∧ (Api.serve ⟨[], 100⟩ idler idlingUnmarked).asked = []
  := by
  have hstatus (reply : Reply String) := @Api.serve_status (idlerReplying reply) idlingPosted
    (TemplateFolder.catalog_failsAsCatalog _) rfl rfl ⟨[], 100⟩
  refine ⟨?_, ?_, ?_, ?_⟩
  · obtain ⟨answer, hanswer, -, -, -, -, hsuccess, -⟩ := hstatus (.now (.ok "job-1"))
    obtain ⟨m, hrun, -⟩ := exists_submitted_idlerReplying (.now (.ok "job-1"))
    use answer, hanswer
    apply hsuccess.mpr ⟨_, .submitted "job-1", idlingPosted_read, ?_⟩
    rw [Pipeline.result_of_submitted hrun]
    rfl
  · obtain ⟨answer, hanswer, -, -, -, hblamed, -⟩ := hstatus (.now (.error (.parse "no workflow")))
    obtain ⟨m, -, hserved⟩ := exists_submitted_idlerReplying
      (.now (.error (.parse "no workflow")))
    use answer, hanswer
    apply hblamed.mpr (.inr ⟨m, _, hserved, ⟨.zero, rfl, Nat.zero_le _⟩, rfl⟩)
  · obtain ⟨answer, hanswer, hcases, -, -, hblamed, hsuccess, -⟩ := hstatus .never
    obtain ⟨m, hrun, -⟩ := exists_submitted_idlerReplying .never
    use answer, hanswer
    rcases hcases with h200 | h400 | h500
    · obtain ⟨request, emission, hread, hresult⟩ := hsuccess.mp h200
      cases hread.symm.trans idlingPosted_read
      rw [Pipeline.result_of_submitted hrun] at hresult
      cases hresult
    · obtain hrefused | ⟨_, _, -, ⟨delay, hnever, -⟩, -⟩ := hblamed.mp h400
      · have hcheck : idling.check = .ok () := by cbv
        have haccepted := Api.not_refused_of_read idlingPosted_read (List.cons_ne_nil _ _) hcheck
        exact (haccepted hrefused).elim
      · cases hnever
    · apply h500
  · obtain ⟨answer, hanswer, -, hrefused, -⟩ := @Api.serve_status idler idlingUnmarked
      (TemplateFolder.catalog_failsAsCatalog _) rfl rfl ⟨[], 100⟩
    obtain ⟨h400, hasked, -⟩ := hrefused idlingUnmarked_refused
    exact ⟨answer, hanswer, h400, hasked⟩

end JobGraph
