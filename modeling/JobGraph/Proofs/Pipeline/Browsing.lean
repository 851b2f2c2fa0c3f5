import JobGraph.Proofs.Pipeline.Fetching

/-!
# What the browser of templates offers

A summary lists the entrypoints of a template that is found, so each of them has a spec, and no
node that runs one fails for its entrypoint. The entrypoint that a summary starts with is the
one that the template asks for: it has a spec exactly when it is one of those listed.
-/

namespace JobGraph

/-- A default that the template does not ask for itself is its first entrypoint. -/
theorem Template.defaultEntrypoint_mem {t : Template} {e : String}
    (hown : ∀ own, t.entrypoint = some own → own ∈ t.entrypoints)
    (h : t.defaultEntrypoint = some e) :
  e ∈ t.entrypoints
  := by
  rw [defaultEntrypoint] at h
  cases hentrypoint : t.entrypoint with
  | some own =>
    rw [hentrypoint] at h
    cases h
    apply hown e hentrypoint
  | none =>
    rw [hentrypoint] at h
    apply List.mem_of_head? h

namespace Pipeline

variable {p : Pipeline} {name entrypoint : String} {t : Template} {summaries : List Summary}
  {s : Summary}

/-- An entrypoint of a template that is found is resolved by it. -/
theorem spec_eq_resolve (h : (p.catalog.fetchCall p.settings name).result = .ok t) :
  (p.spec name entrypoint).result = t.resolve name entrypoint
  := by
  have hfirst : (p.catalog.template p.settings name).result = .ok t := h
  rw [spec, Run.bind_of_ok hfirst]
  rfl

/-- A summary is that of a template that is found. -/
theorem exists_of_mem_summaries (h : p.summaries.result = .ok summaries) (hs : s ∈ summaries) :
  ∃ t, (p.catalog.fetchCall p.settings s.name).result = .ok t ∧ s = t.summary s.name
  := by
  obtain ⟨names, -, h⟩ := Run.exists_of_bind h
  obtain ⟨templates, htemplates, h⟩ := Run.exists_of_bind h
  obtain ⟨found, hfound, rfl⟩ := Catalog.exists_found_of_templates htemplates
  cases h
  rw [List.map_map] at hs
  obtain ⟨name, hname, rfl⟩ := List.mem_map.mp hs
  use found name, hfound name hname
  rfl

/-- Every entrypoint that a summary lists has a spec. The one it starts with has a spec exactly
when it is among them, as it is unless the template asks for another name; otherwise it is
reported as not found. An analysis that fails for an entrypoint does so with an error of the
catalog itself, or at a node that is not made from a summary and one of its entrypoints. -/
theorem summaries_resolve (h : p.summaries.result = .ok summaries) :
  (∀ s ∈ summaries,
    (∀ e ∈ s.entrypoints, ∃ spec, (p.spec s.name e).result = .ok spec)
      ∧ (∀ e, s.defaultEntrypoint = some e →
        ((∃ spec, (p.spec s.name e).result = .ok spec) ↔ e ∈ s.entrypoints)
          ∧ (e ∉ s.entrypoints →
            (p.spec s.name e).result = .error (.entrypointNotFound s.name e)))
      ∧ ∃ t, (p.catalog.fetchCall p.settings s.name).result = .ok t
        ∧ ((∀ own, t.entrypoint = some own → own ∈ s.entrypoints) →
          ∀ e, s.defaultEntrypoint = some e → e ∈ s.entrypoints))
    ∧ ∀ g name e, (p.analyze g).result = .error (.entrypointNotFound name e) →
      (∃ n ∈ g.nodes, (p.catalog.fetchCall p.settings n.templateName).result
          = .error (.entrypointNotFound name e))
        ∨ ∃ n ∈ g.nodes, n.templateName = name ∧ n.entrypoint = e
          ∧ ∀ s ∈ summaries, s.name = name → e ∉ s.entrypoints
  := by
  constructor
  · intro s hs
    obtain ⟨t, ht, hsummary⟩ := exists_of_mem_summaries h hs
    have hspec : ∀ e, (∃ spec, (p.spec s.name e).result = .ok spec) ↔ e ∈ s.entrypoints := by
      intro e
      rw [spec_eq_resolve ht, hsummary]
      apply Template.exists_resolve_iff
    refine ⟨fun e => (hspec e).mpr, ?_, t, ht, ?_⟩
    · intro e _
      use hspec e
      intro hnot
      rw [hsummary] at hnot
      rw [spec_eq_resolve ht]
      apply Template.resolve_eq_error hnot
    · rw [hsummary]
      intro hown e
      apply Template.defaultEntrypoint_mem hown
  · intro g name e herror
    obtain haccept | ⟨-, hcatalog | ⟨n, hn, t, ht, hlacking, heq⟩⟩ := analyze_error_cases herror
    · obtain ⟨defect, hdefect⟩ := Graph.exists_of_accept_error haccept
      cases hdefect
    · left
      apply hcatalog
    · right
      cases heq
      use n, hn, rfl, rfl
      intro s hs hname
      obtain ⟨t', ht', hsummary⟩ := exists_of_mem_summaries h hs
      rw [hname, ht, Except.ok.injEq] at ht'
      rw [hsummary, ← ht']
      apply hlacking

end Pipeline

/-- A template that asks to start with an entrypoint that it does not have. -/
def trimmingAstray : Template :=
  { trimming with entrypoint := some "start" }

/-- A catalog that lists two templates. -/
def browser : Pipeline where
  catalog := ⟨.now (.ok ["stray", "trim"]), fun name =>
    .now (.ok (if name = "stray" then trimmingAstray else trimming))⟩
  executor := ⟨fun _ => .never⟩
  settings := .default

theorem browser_offers :
  browser.summaries.result = .ok [⟨"stray", ["main"], some "start"⟩, ⟨"trim", ["main"], some "main"⟩]
    ∧ (∃ spec, (browser.spec "stray" "main").result = .ok spec)
    ∧ (∃ spec, (browser.spec "trim" "main").result = .ok spec)
    ∧ (browser.spec "stray" "start").result = .error (.entrypointNotFound "stray" "start")
  := by
  have hsummaries : browser.summaries.result
      = .ok [⟨"stray", ["main"], some "start"⟩, ⟨"trim", ["main"], some "main"⟩] := rfl
  obtain ⟨hall, -⟩ := Pipeline.summaries_resolve hsummaries
  obtain ⟨hstray, hstart, -⟩ := hall ⟨"stray", ["main"], some "start"⟩ (by decide)
  obtain ⟨-, htrim, -⟩ := hall ⟨"trim", ["main"], some "main"⟩ (by decide)
  refine ⟨hsummaries, ?_, ?_, ?_⟩
  · apply hstray "main" (by decide)
  · apply (htrim "main" rfl).1.mpr (by decide)
  · apply (hstart "start" rfl).2 (by decide)

/-- What a summary starts with need not have a spec. -/
theorem browser_default_unresolved :
  ∃ summaries s e, browser.summaries.result = .ok summaries ∧ s ∈ summaries
    ∧ s.defaultEntrypoint = some e
    ∧ ¬ ∃ spec, (browser.spec s.name e).result = .ok spec
  := by
  refine ⟨[⟨"stray", ["main"], some "start"⟩, ⟨"trim", ["main"], some "main"⟩],
    ⟨"stray", ["main"], some "start"⟩, "start", rfl, by decide, rfl, ?_⟩
  rintro ⟨spec, hspec⟩
  cases hspec

end JobGraph
