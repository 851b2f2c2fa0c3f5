import JobGraph.Proofs.Maps
import JobGraph.Template.Spec
import Mathlib.Data.List.Forall2

/-!
# What the spec of an entrypoint says

The spec of an entrypoint is that of the first sub-template of this name, and there is none
exactly when no sub-template has the name. It lists what the sub-template lists, in the same
order. Of the template as a whole it depends on the last value of each parameter only.
-/

namespace JobGraph

/-! ### What is described -/

/-- The sub-template is the first one of this name. -/
def FirstNamed (subs : List SubTemplate) (name : String) (sub : SubTemplate) : Prop :=
  ∃ before after, subs = before ++ sub :: after ∧ sub.name = name ∧ ∀ s ∈ before, s.name ≠ name

/-- The value of the last of the parameters of this name, which may have none. -/
inductive LastValue (parameters : List Parameter) (name : String) : Option String → Prop
  | last {before after : List Parameter} {p : Parameter} (h : parameters = before ++ p :: after)
      (hname : p.name = name) (hlast : ∀ q ∈ after, q.name ≠ name) :
      LastValue parameters name p.default
  | absent (h : ∀ p ∈ parameters, p.name ≠ name) : LastValue parameters name none

/-- What the spec says of a parameter of a sub-template: its default is its own one, else the last
value that the template as a whole has for it. -/
structure ParamSpec.Describes (globals : List Parameter) (p : Parameter) (q : ParamSpec) :
    Prop where
  name : q.name = p.name
  own : ∀ value, p.default = some value → q.default = some value
  inherited : p.default = none → LastValue globals p.name q.default
  required : q.required = true ↔ q.default = none ∨ Text.lowercaseAscii p.name ∈ forcedParameters

/-- What the spec says of an artifact that a sub-template takes. -/
structure ArtifactSpec.Describes (a : InputArtifact) (b : ArtifactSpec) : Prop where
  name : b.name = a.name
  required : b.required = true ↔ a.optional = false

/-- What the spec says of a sub-template: it lists the same parameters, artifacts and outputs in
the same order. -/
structure Spec.Describes (globals : List Parameter) (sub : SubTemplate) (spec : Spec) : Prop where
  parameters : List.Forall₂ (ParamSpec.Describes globals) sub.parameters spec.parameters
  artifacts : List.Forall₂ ArtifactSpec.Describes sub.artifacts spec.artifacts
  outputs : spec.outputs = sub.outputs

/-! ### Names that are forced -/

theorem Text.eqIgnoringAsciiCase_iff {s t : String} :
  eqIgnoringAsciiCase s t = true ↔ lowercaseAscii s = lowercaseAscii t
  := by
  rw [eqIgnoringAsciiCase, beq_iff_eq, lowercaseAscii, lowercaseAscii, String.ofList_inj]

/-- The names that are forced are written in small letters. -/
theorem isForced_iff {name : String} :
  isForced name = true ↔ Text.lowercaseAscii name ∈ forcedParameters
  := by
  have hsmall : forcedParameters.map Text.lowercaseAscii = forcedParameters := by decide
  simp only [isForced, List.any_eq_true, Text.eqIgnoringAsciiCase_iff]
  nth_rewrite 2 [← hsmall]
  rw [List.mem_map]

namespace Template

variable {t t' : Template} {name entrypoint : String}

/-! ### Values of the template as a whole -/

/-- The last value is the one that the template has for its parameter. -/
theorem globalDefault_eq_of_lastValue {value : Option String}
    (h : LastValue t.globals name value) :
  t.globalDefault name = value
  := by
  cases h with
  | @last before after p h hname hlast =>
    have hfind : t.globals.reverse.find? (·.name = name) = some p := by
      rw [List.find?_eq_some_iff_append]
      refine ⟨decide_eq_true hname, after.reverse, before.reverse, by simp [h], ?_⟩
      intro q hq
      simpa using hlast q (List.mem_reverse.mp hq)
    rw [globalDefault, hfind]
    rfl
  | absent h =>
    have hfind : t.globals.reverse.find? (·.name = name) = none := by
      rw [List.find?_eq_none]
      intro q hq
      simpa using h q (List.mem_reverse.mp hq)
    rw [globalDefault, hfind]
    rfl

theorem lastValue_globalDefault :
  LastValue t.globals name (t.globalDefault name)
  := by
  unfold globalDefault
  cases hfind : t.globals.reverse.find? (·.name = name) with
  | some p =>
    obtain ⟨hname, after, before, heq, hlast⟩ := List.find?_eq_some_iff_append.mp hfind
    have hsplit : t.globals = before.reverse ++ p :: after.reverse := by
      rw [List.reverse_eq_iff.mp heq]
      simp
    apply LastValue.last hsplit (of_decide_eq_true hname)
    intro q hq
    simpa using hlast q (List.mem_reverse.mp hq)
  | none =>
    apply LastValue.absent
    intro q hq
    simpa using List.find?_eq_none.mp hfind q (List.mem_reverse.mpr hq)

/-- The values are those of the map to which the parameters are collected. -/
theorem globalDefault_eq_collected :
  t.globalDefault name
    = ((Dictionary.ofList (t.globals.map fun p => (p.name, p.default))).get? name).join
  := by
  have hfind : (t.globals.map fun p => (p.name, p.default)).reverse.find? (·.1 = name)
      = (t.globals.reverse.find? (·.name = name)).map fun p => (p.name, p.default) := by
    rw [← List.map_reverse, List.find?_map]
    rfl
  rw [Dictionary.get?_ofList_eq_find?, hfind, globalDefault]
  cases t.globals.reverse.find? (·.name = name) with
  | none => rfl
  | some p => rfl

/-! ### Specs -/

theorem subTemplate?_eq_some_iff {sub : SubTemplate} :
  t.subTemplate? entrypoint = some sub ↔ FirstNamed t.subTemplates entrypoint sub
  := by
  simp only [subTemplate?, List.find?_eq_some_iff_append, FirstNamed, decide_eq_true_eq,
    Bool.not_eq_true', decide_eq_false_iff_not]
  constructor
  · rintro ⟨hname, before, after, heq, hfirst⟩
    exact ⟨before, after, heq, hname, hfirst⟩
  · rintro ⟨before, after, heq, hname, hfirst⟩
    exact ⟨hname, before, after, heq, hfirst⟩

/-- The spec that a template gives a parameter is the one that describes it. -/
theorem describes_param_iff {p : Parameter} {q : ParamSpec} :
  q.Describes t.globals p ↔ t.paramSpec p = q
  := by
  constructor
  · intro h
    have hdefault : p.default.or (t.globalDefault p.name) = q.default := by
      cases hown : p.default with
      | some value => exact (h.own value hown).symm
      | none => exact globalDefault_eq_of_lastValue (h.inherited hown)
    have hrequired : (q.default.isNone || isForced p.name) = q.required := by
      rw [Bool.eq_iff_iff, h.required, Bool.or_eq_true, isForced_iff, Option.isNone_iff_eq_none]
    rw [paramSpec, hdefault, hrequired, ← h.name]
  · rintro rfl
    constructor
    case name => rfl
    case own =>
      intro value hown
      simp [paramSpec, hown]
    case inherited =>
      intro hown
      simp only [paramSpec, hown, Option.none_or]
      apply lastValue_globalDefault
    case required =>
      simp only [paramSpec, Bool.or_eq_true, isForced_iff, Option.isNone_iff_eq_none]

theorem describes_artifact_iff {a : InputArtifact} {b : ArtifactSpec} :
  b.Describes a ↔ ⟨a.name, !a.optional⟩ = b
  := by
  constructor
  · rintro ⟨hname, hrequired⟩
    rw [← Bool.not_eq_true', ← Bool.eq_iff_iff] at hrequired
    rw [← hname, ← hrequired]
  · rintro rfl
    constructor
    case name => rfl
    case required => rw [Bool.not_eq_true']

/-- A spec describes a sub-template when it lists what the template makes of its inputs. -/
theorem describes_sub_iff {sub : SubTemplate} {spec : Spec} :
  spec.Describes t.globals sub
    ↔ sub.parameters.map t.paramSpec = spec.parameters
      ∧ sub.artifacts.map (fun a => ⟨a.name, !a.optional⟩) = spec.artifacts
      ∧ spec.outputs = sub.outputs
  := by
  have hparameters : ParamSpec.Describes t.globals = fun p q => t.paramSpec p = q := by
    ext p q
    apply describes_param_iff
  have hartifacts : ArtifactSpec.Describes = fun a b => ⟨a.name, !a.optional⟩ = b := by
    ext a b
    apply describes_artifact_iff
  rw [← List.forall₂_eq_eq_eq, List.forall₂_map_left_iff, ← hparameters,
    ← List.forall₂_eq_eq_eq, List.forall₂_map_left_iff, ← hartifacts]
  constructor
  · intro h
    exact ⟨h.parameters, h.artifacts, h.outputs⟩
  · rintro ⟨hp, ha, houtputs⟩
    exact ⟨hp, ha, houtputs⟩

/-- The spec of an entrypoint describes the first sub-template of its name. -/
theorem resolve_eq_ok_iff {spec : Spec} :
  t.resolve name entrypoint = .ok spec
    ↔ ∃ sub, FirstNamed t.subTemplates entrypoint sub ∧ spec.template = name
      ∧ spec.entrypoint = entrypoint ∧ spec.Describes t.globals sub
  := by
  simp only [← subTemplate?_eq_some_iff, describes_sub_iff, resolve]
  cases t.subTemplate? entrypoint with
  | none => simp
  | some sub =>
    simp only [Except.ok.injEq, Option.some.injEq, exists_eq_left']
    constructor
    · rintro rfl
      exact ⟨rfl, rfl, rfl, rfl, rfl⟩
    · obtain ⟨own, ownEntrypoint, parameters, artifacts, outputs⟩ := spec
      rintro ⟨rfl, rfl, rfl, rfl, rfl⟩
      rfl

/-- An entrypoint has no spec exactly when no sub-template has its name. -/
theorem resolve_eq_error_iff {e : Error} :
  t.resolve name entrypoint = .error e
    ↔ (∀ sub ∈ t.subTemplates, sub.name ≠ entrypoint) ∧ e = .entrypointNotFound name entrypoint
  := by
  have hnone : t.subTemplate? entrypoint = none
      ↔ ∀ sub ∈ t.subTemplates, sub.name ≠ entrypoint := by
    simp [subTemplate?, List.find?_eq_none]
  rw [← hnone, resolve]
  cases t.subTemplate? entrypoint with
  | none => simp [eq_comm]
  | some sub => simp

/-- A name that is none of the entrypoints of a template has no spec. -/
theorem resolve_eq_error (h : entrypoint ∉ t.entrypoints) :
  t.resolve name entrypoint = .error (.entrypointNotFound name entrypoint)
  := by
  apply resolve_eq_error_iff.mpr ⟨_, rfl⟩
  rintro sub hsub rfl
  apply h (List.mem_map_of_mem hsub)

/-- The entrypoints of a template are the names that have specs. -/
theorem exists_resolve_iff :
  (∃ spec, t.resolve name entrypoint = .ok spec) ↔ entrypoint ∈ t.entrypoints
  := by
  constructor
  · rintro ⟨spec, hspec⟩
    by_contra hnot
    rw [resolve_eq_error hnot] at hspec
    cases hspec
  · intro h
    cases hresolve : t.resolve name entrypoint with
    | ok spec => use spec
    | error e =>
      obtain ⟨hnone, -⟩ := resolve_eq_error_iff.mp hresolve
      obtain ⟨sub, hsub, hname⟩ := List.mem_map.mp h
      apply absurd hname (hnone sub hsub)

/-- Templates with the same sub-template of a name and the same values for their own parameters
give it the same spec. -/
theorem resolve_congr (hsub : t'.subTemplate? entrypoint = t.subTemplate? entrypoint)
    (hdefault : ∀ parameter, t'.globalDefault parameter = t.globalDefault parameter) :
  t'.resolve name entrypoint = t.resolve name entrypoint
  := by
  have hparam : t'.paramSpec = t.paramSpec := by
    funext p
    rw [paramSpec, paramSpec, hdefault]
  rw [resolve, resolve, hsub, hparam]

/-- An entrypoint has no spec exactly when no sub-template has its name. Otherwise its spec is the
one that describes the first sub-template of this name: the parameters, artifacts and outputs are
those of the sub-template in the same order, and of the parameters of the template as a whole only
their last values count. So templates that agree in this sub-template and in these values give the
entrypoint the same spec. -/
theorem resolve_describes (t : Template) (name entrypoint : String) :
  (∀ e, t.resolve name entrypoint = .error e
      ↔ (∀ sub ∈ t.subTemplates, sub.name ≠ entrypoint)
        ∧ e = .entrypointNotFound name entrypoint)
    ∧ (∀ spec, t.resolve name entrypoint = .ok spec
      ↔ ∃ sub, FirstNamed t.subTemplates entrypoint sub ∧ spec.template = name
        ∧ spec.entrypoint = entrypoint ∧ spec.Describes t.globals sub)
    ∧ ∀ t' : Template,
      (∀ sub, FirstNamed t'.subTemplates entrypoint sub
          ↔ FirstNamed t.subTemplates entrypoint sub) →
      (∀ parameter value, LastValue t'.globals parameter value
          ↔ LastValue t.globals parameter value) →
        t'.resolve name entrypoint = t.resolve name entrypoint
  := by
  refine ⟨fun e => resolve_eq_error_iff, fun spec => resolve_eq_ok_iff, ?_⟩
  intro t' hsub hvalues
  apply resolve_congr
  · ext sub
    rw [subTemplate?_eq_some_iff, subTemplate?_eq_some_iff, hsub]
  · intro parameter
    apply globalDefault_eq_of_lastValue
    rw [hvalues]
    apply lastValue_globalDefault

-- The last of the parameters of the whole template has no value, so an earlier one does not count.
example :
  resolve "scale" ⟨none, none, [⟨"scaler", some "standard"⟩, ⟨"scaler", none⟩, ⟨"suffix", some ""⟩],
      [⟨"fit", [⟨"scaler", none⟩, ⟨"suffix", none⟩, ⟨"Data_Path", some "/in"⟩], [], []⟩]⟩ "fit"
    = .ok ⟨"scale", "fit",
      [⟨"scaler", none, true⟩, ⟨"suffix", some "", false⟩, ⟨"Data_Path", some "/in", true⟩], [], []⟩
  := by decide

end Template

end JobGraph
