import JobGraph.Cluster.Service
import JobGraph.Proofs.Pipeline.Emission
import JobGraph.Proofs.Pipeline.Fetching
import JobGraph.Template.Folder

/-!
# How runs fail

A directory of templates and the workflow server fail with errors of their own kinds. With such
a catalog a run fails because the graph is not accepted, before any service is asked; with an
error of the catalog, for a missing entrypoint or with its violations, before anything is handed
over; or through the executor. Only the first is the fault of the caller.
-/

namespace JobGraph

/-! ### Kinds of errors -/

namespace Error

/-- The errors of catalogs. -/
inductive OfCatalog : Error → Prop where
  | templateNotFound (name : String) : OfCatalog (.templateNotFound name)
  | catalogUnavailable (reason : String) : OfCatalog (.catalogUnavailable reason)
  | config (reason : String) : OfCatalog (.config reason)

/-- The errors of executors. -/
inductive OfExecutor : Error → Prop where
  | submissionFailed (reason : String) : OfExecutor (.submissionFailed reason)

/-- The errors of accepted graphs that are not handed over. -/
inductive OfContent : Error → Prop where
  | catalog {e : Error} (h : e.OfCatalog) : OfContent e
  | entrypointNotFound (template entrypoint : String) :
      OfContent (.entrypointNotFound template entrypoint)
  | validationFailed (messages : List String) : OfContent (.validationFailed messages)

theorem OfExecutor.httpStatus {e : Error} (h : e.OfExecutor) :
  e.httpStatus = 500
  := by
  cases h
  rfl

theorem OfContent.httpStatus {e : Error} (h : e.OfContent) :
  e.httpStatus = 500
  := by
  cases h with
  | catalog h => cases h <;> rfl
  | entrypointNotFound => rfl
  | validationFailed => rfl

theorem httpStatus_cases (e : Error) :
  e.httpStatus = 400 ∨ e.httpStatus = 500
  := by
  cases e <;> simp [httpStatus]

end Error

/-! ### Services -/

namespace Reply

variable {α : Type} {reply : Reply α} {limit : Duration} {expired e : Error}

/-- The reply is a failure, and it is there within the limit. -/
def FailsIn (reply : Reply α) (limit : Duration) (e : Error) : Prop :=
  ∃ delay, reply = .after delay (.error e) ∧ delay.nanoseconds ≤ limit.nanoseconds

/-- No reply is there within the limit. -/
def Late (reply : Reply α) (limit : Duration) : Prop :=
  ∀ delay result, reply = .after delay result → limit.nanoseconds < delay.nanoseconds

/-- Whatever failure the reply is, it is of this kind. -/
def FailsWith (reply : Reply α) (kind : Error → Prop) : Prop :=
  ∀ delay e, reply = .after delay (.error e) → kind e

/-- A call fails through its reply or because there is none in time. -/
theorem result_within_eq_error_iff :
  (reply.within limit expired).result = .error e
    ↔ reply.FailsIn limit e ∨ e = expired ∧ reply.Late limit
  := by
  cases reply with
  | never => simp [within, FailsIn, Late, eq_comm]
  | after delay result =>
    rw [within]
    split
    case isTrue hle =>
      have hnot : ¬ limit.nanoseconds < delay.nanoseconds := Nat.not_lt.mpr hle
      simp [FailsIn, Late, hle, hnot]
    case isFalse hlt =>
      have hlate : limit.nanoseconds < delay.nanoseconds := Nat.not_le.mp hlt
      simp [FailsIn, Late, hlt, hlate, eq_comm]

/-- Replies at once fail with what they say. -/
theorem failsWith_now {kind : Error → Prop} {result : Except Error α}
    (h : ∀ e, result = .error e → kind e) :
  (now result).FailsWith kind
  := by
  rintro delay e heq
  cases heq
  apply h e rfl

end Reply

/-- A catalog whose failures are errors of catalogs. -/
structure Catalog.FailsAsCatalog (catalog : Catalog) : Prop where
  list : catalog.list.FailsWith Error.OfCatalog
  fetch : ∀ name, (catalog.fetch name).FailsWith Error.OfCatalog

/-- An executor whose failures are errors of executors. -/
def Executor.FailsAsExecutor (executor : Executor) : Prop :=
  ∀ m, (executor.submit m).FailsWith Error.OfExecutor

/-- A directory of templates fails as catalogs do. -/
theorem TemplateFolder.catalog_failsAsCatalog (folder : TemplateFolder) :
  folder.catalog.FailsAsCatalog
  := by
  constructor
  case list =>
    apply Reply.failsWith_now
    rintro e ⟨⟩
  case fetch =>
    intro name
    apply Reply.failsWith_now
    intro e herror
    rw [TemplateFolder.fetch] at herror
    split at herror
    · cases herror
    · cases herror
      apply Error.OfCatalog.templateNotFound

namespace Connection

variable {c : Connection} {transport : Http.Transport} {call : Http.Call} {answer : Http.Answer}
  {name : String} {e : Error}

/-- A question fails with the error of its call or of the reading of its answer. -/
theorem failsWith_ask {α : Type} {kind : Error → Prop} {refuse : Http.CallFault → Error}
    {call : Except Http.CallFault Http.Call} {read : Http.Call → Http.Answer → Except Error α}
    (hrefuse : ∀ fault, kind (refuse fault))
    (hread : ∀ call answer e, read call answer = .error e → kind e) :
  (c.ask transport refuse call read).FailsWith kind
  := by
  intro delay e heq
  cases call with
  | error fault =>
    cases heq
    apply hrefuse
  | ok call =>
    simp only [ask] at heq
    split at heq
    case h_1 =>
      cases heq
      apply hrefuse
    case h_2 answer _ =>
      obtain ⟨-, herror⟩ := Reply.after.inj heq
      apply hread call answer e herror

/-- A base that no URL can be made of is a fault of the configuration. -/
theorem ofCatalog_of_templateUrl (h : c.templateUrl name = .error e) :
  e.OfCatalog
  := by
  rw [templateUrl] at h
  split at h
  case h_1 =>
    cases h
    apply Error.OfCatalog.config
  case h_2 =>
    split at h
    case h_1 => cases h
    case h_2 =>
      cases h
      apply Error.OfCatalog.config

theorem ofCatalog_of_readTemplate (h : readTemplate name call answer = .error e) :
  e.OfCatalog
  := by
  rw [readTemplate] at h
  split at h
  case isTrue =>
    cases h
    apply Error.OfCatalog.templateNotFound
  case isFalse =>
    split at h
    case h_1 =>
      cases h
      apply Error.OfCatalog.catalogUnavailable
    case h_2 =>
      split at h
      case h_1 => cases h
      case h_2 =>
        cases h
        apply Error.OfCatalog.catalogUnavailable

theorem ofCatalog_of_readNames (h : readNames call answer = .error e) :
  e.OfCatalog
  := by
  rw [readNames] at h
  split at h
  case h_1 =>
    cases h
    apply Error.OfCatalog.catalogUnavailable
  case h_2 =>
    split at h
    case h_1 => cases h
    case h_2 =>
      cases h
      apply Error.OfCatalog.catalogUnavailable

theorem ofExecutor_of_readSubmitted (h : readSubmitted call answer = .error e) :
  e.OfExecutor
  := by
  rw [readSubmitted] at h
  split at h
  case isTrue =>
    cases h
    apply Error.OfExecutor.submissionFailed
  case isFalse =>
    split at h
    case h_1 =>
      cases h
      apply Error.OfExecutor.submissionFailed
    case h_2 =>
      split at h
      case h_1 => cases h
      case h_2 =>
        cases h
        apply Error.OfExecutor.submissionFailed

/-- The workflow server fails as catalogs do. -/
theorem catalog_failsAsCatalog (c : Connection) (transport : Http.Transport) :
  (c.catalog transport).FailsAsCatalog
  := by
  constructor
  case list =>
    simp only [catalog, Connection.list]
    apply failsWith_ask
    · intro fault
      apply Error.OfCatalog.catalogUnavailable
    · intro call answer e
      apply ofCatalog_of_readNames
  case fetch =>
    intro name
    simp only [catalog, Connection.fetch]
    split
    case isTrue =>
      apply Reply.failsWith_now
      rintro e ⟨⟩
      apply Error.OfCatalog.templateNotFound
    case isFalse =>
      split
      case h_1 e hurl =>
        apply Reply.failsWith_now
        rintro e ⟨⟩
        apply ofCatalog_of_templateUrl hurl
      case h_2 =>
        apply failsWith_ask
        · intro fault
          apply Error.OfCatalog.catalogUnavailable
        · intro call answer e
          apply ofCatalog_of_readTemplate

/-- The workflow server fails as executors do. -/
theorem executor_failsAsExecutor (c : Connection) (transport : Http.Transport) :
  (c.executor transport).FailsAsExecutor
  := by
  intro m
  simp only [executor, Connection.submit]
  apply failsWith_ask
  · intro fault
    apply Error.OfExecutor.submissionFailed
  · intro call answer e
    apply ofExecutor_of_readSubmitted

end Connection

/-! ### Runs -/

/-- A template fails with an error of the catalog, if only because it is late. -/
theorem Catalog.ofCatalog_of_fetchCall {catalog : Catalog} (h : catalog.FailsAsCatalog)
    {settings : PipelineSettings} {name : String} {e : Error}
    (herror : (catalog.fetchCall settings name).result = .error e) :
  e.OfCatalog
  := by
  obtain ⟨delay, hreply, -⟩ | ⟨rfl, -⟩ := Reply.result_within_eq_error_iff.mp herror
  · apply h.fetch name delay e hreply
  · apply Error.OfCatalog.catalogUnavailable

namespace Pipeline

/-- The executor fails in time with this error when it is given a manifest, or it is late and
this is the error that says so. -/
def ExecutorFails (p : Pipeline) (m : Manifest) (e : Error) : Prop :=
  (p.executor.submit m).FailsIn p.settings.executorTimeout e
    ∨ e = submissionTimeout p.settings ∧ (p.executor.submit m).Late p.settings.executorTimeout

variable {p : Pipeline} {g : Graph} {storage : Option StorageCredentials} {action : Action}
  {e : Error}

/-- A graph is refused because it is not accepted, or for what its nodes ask for. -/
theorem refuses_cases (hcatalog : p.catalog.FailsAsCatalog) (h : p.Refuses g e) :
  g.accept = .error e ∨ g.accept = .ok () ∧ e.OfContent
  := by
  obtain herror | ⟨c, report, hreport, -, rfl⟩ := h
  · obtain haccept | ⟨haccept, ⟨n, hn, hfetch⟩ | ⟨n, hn, t, ht, hlacking, rfl⟩⟩ :=
      analyze_error_cases herror
    · left
      apply haccept
    · right
      use haccept
      apply Error.OfContent.catalog (Catalog.ofCatalog_of_fetchCall hcatalog hfetch)
    · right
      use haccept
      apply Error.OfContent.entrypointNotFound
  · right
    obtain ⟨_, haccept, -⟩ := Run.exists_of_bind hreport
    use haccept
    apply Error.OfContent.validationFailed

/-- What is handed over fails through the executor only. -/
theorem result_submit_eq_error_iff {m : Manifest} :
  (p.submit m).result = .error e ↔ p.ExecutorFails m e
  := by
  rw [ExecutorFails, ← Reply.result_within_eq_error_iff, submit]
  cases ((p.executor.submit m).within p.settings.executorTimeout
    (submissionTimeout p.settings)).result <;> simp [Except.map]

/-- A run of a graph that is not accepted asks no one. -/
theorem run_of_accept_error (h : g.accept = .error e) :
  p.run ⟨g, storage, action⟩ = ⟨[], [], .error e⟩
  := by
  rw [run, compile, Graph.compileValid, Graph.analyze_of_refused h]
  rfl

/-- A run fails because the graph is refused, or through the executor. -/
theorem run_error_cases (h : (p.run ⟨g, storage, action⟩).result = .error e) :
  p.Refuses g e ∧ (p.run ⟨g, storage, action⟩).submitted = []
    ∨ ∃ m, (p.run ⟨g, storage, action⟩).submitted = [m] ∧ p.ExecutorFails m e
  := by
  obtain ⟨c, hvalid⟩ | ⟨e', hrefuses⟩ := p.valid_or_refuses g
  · obtain ⟨hsubmitted, hresult⟩ := @run_of_valid p g storage action c hvalid
    rw [hresult] at h
    cases action with
    | download => cases h
    | submit =>
      right
      use c.manifest p.settings.manifest storage, hsubmitted
      apply result_submit_eq_error_iff.mp h
  · left
    obtain ⟨hsubmitted, hresult⟩ := @run_of_refuses p g storage action e' hrefuses
    rw [hresult] at h
    cases h
    use hrefuses, hsubmitted

/-- The failure of the executor is that of the run. -/
theorem result_of_failsIn {m : Manifest} (hm : (p.run ⟨g, storage, action⟩).submitted = [m])
    (h : (p.executor.submit m).FailsIn p.settings.executorTimeout e) :
  (p.run ⟨g, storage, action⟩).result = .error e
  := by
  obtain ⟨rfl, -⟩ := submitted_run_iff.mp hm
  rw [result_of_submitted hm]
  apply result_submit_eq_error_iff.mpr (.inl h)

end Pipeline

end JobGraph
