import JobGraph.Error
import JobGraph.Template.Basic
import JobGraph.Text.Lowercase

/-!
# Specs of entrypoints

The spec of an entrypoint says which parameters and artifacts a node that runs it takes,
which of them must be supplied, and which artifacts it puts out. `Template.resolve` makes the
spec of an entrypoint of a template.
-/

namespace JobGraph

/-- A parameter that a node takes. -/
structure ParamSpec where
  name : String
  /-- The default in effect. -/
  default : Option String
  required : Bool
deriving DecidableEq, Repr

/-- An artifact that a node takes. -/
structure ArtifactSpec where
  name : String
  required : Bool
deriving DecidableEq, Repr

/-- The inputs and outputs of one entrypoint of a template. -/
structure Spec where
  template : String
  entrypoint : String
  parameters : List ParamSpec
  artifacts : List ArtifactSpec
  /-- The names of the output artifacts. -/
  outputs : List String
deriving DecidableEq, Repr

namespace Spec

/-- The first parameter with this name. -/
def parameter? (spec : Spec) (name : String) : Option ParamSpec :=
  spec.parameters.find? (·.name = name)

/-- Whether a parameter has this name. -/
def hasParameter (spec : Spec) (name : String) : Bool :=
  (spec.parameter? name).isSome

/-- Whether an output has this name. -/
def hasOutput (spec : Spec) (name : String) : Bool :=
  name ∈ spec.outputs

theorem hasParameter_iff {spec : Spec} {name : String} :
  spec.hasParameter name = true ↔ ∃ p ∈ spec.parameters, p.name = name
  := by
  simp [hasParameter, parameter?]

end Spec

/-- The parameters that must be supplied whatever default they have. -/
def forcedParameters : List String :=
  ["input_path", "output_path", "data_path", "input_file", "output_file"]

/-- Whether a parameter must be supplied whatever its default. The case of ASCII letters
makes no difference. -/
def isForced (name : String) : Bool :=
  forcedParameters.any (Text.eqIgnoringAsciiCase · name)

namespace Template

/-- The value of the last parameter of the whole template with this name. -/
def globalDefault (t : Template) (name : String) : Option String :=
  (t.globals.reverse.find? (·.name = name)).bind Parameter.default

/-- What a node must know of a parameter of a sub-template. -/
def paramSpec (t : Template) (p : Parameter) : ParamSpec :=
  let default := p.default.or (t.globalDefault p.name)
  ⟨p.name, default, default.isNone || isForced p.name⟩

/-- The spec of an entrypoint of a template that is filed under `name`. -/
def resolve (name : String) (t : Template) (entrypoint : String) : Except Error Spec :=
  match t.subTemplate? entrypoint with
  | none => .error (.entrypointNotFound name entrypoint)
  | some sub => .ok {
      template := name
      entrypoint
      parameters := sub.parameters.map t.paramSpec
      artifacts := sub.artifacts.map fun a => ⟨a.name, !a.optional⟩
      outputs := sub.outputs }

end Template

end JobGraph
