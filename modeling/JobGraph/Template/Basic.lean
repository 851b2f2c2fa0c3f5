/-!
# Job templates

A template has sub-templates, each of which is an entrypoint with inputs and outputs, and
parameters of its own, whose values act as defaults for those of the sub-templates.
-/

namespace JobGraph

/-- A parameter with its default, if it has one. -/
structure Parameter where
  name : String
  default : Option String
deriving DecidableEq, Repr

/-- An artifact that a sub-template takes as input. -/
structure InputArtifact where
  name : String
  optional : Bool
deriving DecidableEq, Repr

/-- An entrypoint of a template. -/
structure SubTemplate where
  name : String
  parameters : List Parameter
  artifacts : List InputArtifact
  /-- The names of its output artifacts. -/
  outputs : List String
deriving DecidableEq, Repr

/-- A template as a catalog serves it. -/
structure Template where
  name : Option String
  /-- The entrypoint it asks to start with. -/
  entrypoint : Option String
  /-- The parameters of the template as a whole. -/
  globals : List Parameter
  subTemplates : List SubTemplate
deriving DecidableEq, Repr

namespace Template

/-- The first sub-template with this name. -/
def subTemplate? (t : Template) (entrypoint : String) : Option SubTemplate :=
  t.subTemplates.find? (·.name = entrypoint)

/-- The names of all sub-templates. -/
def entrypoints (t : Template) : List String :=
  t.subTemplates.map SubTemplate.name

/-- The entrypoint that a new node starts with: the one that the template asks for, else its
first sub-template. -/
def defaultEntrypoint (t : Template) : Option String :=
  t.entrypoint.or t.entrypoints.head?

end Template

end JobGraph
