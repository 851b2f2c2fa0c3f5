import JobGraph.Proofs.Task.Linking
import JobGraph.Task.Validation

/-!
# What validation reports

The report on a linked graph in terms of its nodes. A required parameter is missing when its
node has no text for it, and a required artifact when it is neither connected nor a parameter
that has a text. That a bound artifact also supplies a parameter of its name makes no
difference: the argument is then a reference, whose text is never blank.
-/

namespace JobGraph

/-- The separator stands in the text of a reference. -/
theorem OutputRef.isBlank_text {r : OutputRef} :
  Text.isBlank r.text = false
  := by
  rw [Text.isBlank, List.all_eq_false]
  use ':'
  constructor
  · rw [OutputRef.text, String.toList_append, String.toList_append, List.mem_append,
      List.mem_append]
    exact .inl (.inr (by decide))
  · decide

namespace Node

variable {n : Node} {edges : List Edge} {specs : String → Option Spec} {name : String}

/-- Whether the node has an argument of this name that is more than white space. -/
def fills (n : Node) (name : String) : Bool :=
  match n.arguments.get? name with
  | some a => Text.trim a.text ≠ ""
  | none => false

/-- The required parameters that the node does not fill, in the order of its spec. -/
def missingParameters (n : Node) (spec : Spec) : List Violation :=
  (spec.parameters.filter fun p => p.required && !n.fills p.name).map fun p =>
    ⟨n.id, n.templateName, p.name, .parameter⟩

/-- References are not blank. -/
theorem fills_of_reference {r : OutputRef} (h : n.arguments.get? name = some (.reference r)) :
  n.fills name = true
  := by
  have hblank : ¬ Text.trim r.text = "" := by
    rw [← Text.isBlank_iff_trim_eq_empty, OutputRef.isBlank_text]
    apply Bool.false_ne_true
  simp [fills, h, Argument.text, hblank]

/-- An argument that is connected is a reference. -/
theorem fills_of_connection? {r : OutputRef} (h : n.connection? edges specs name = some r) :
  n.fills name = true
  := fills_of_reference (connection?_eq_some_iff.mp h).1

end Node

namespace Graph

variable {g : Graph} {spec : Node → Spec} {n : Node} {edges : List Edge} {name : String}
  {policy : ArtifactPolicy}

/-! ### Missing inputs of nodes -/

/-- The required artifacts of a node that no edge connects, unless it fills a parameter of
their name, in the order of its spec. -/
def missingArtifacts (g : Graph) (spec : Node → Spec) (n : Node) : List Violation :=
  ((spec n).artifacts.filter fun a =>
    a.required && !(n.connection? g.edges (g.spec? spec) a.name).isSome
      && !((spec n).hasParameter a.name && n.fills a.name)).map fun a =>
    ⟨n.id, n.templateName, a.name, .artifact⟩

/-- The inputs of a node that are missing under a policy. -/
def missingInputs (g : Graph) (spec : Node → Spec) (policy : ArtifactPolicy) (n : Node) :
    List Violation :=
  n.missingParameters (spec n) ++
    match policy with
    | .ignore => []
    | .enforce => g.missingArtifacts spec n

/-! ### Inputs of linked tasks -/

/-- A task has a value for the declared parameters that its node fills. -/
theorem hasLiteral_linkedTask :
  (g.linkedTask spec edges n).hasLiteral name = ((spec n).hasParameter name && n.fills name)
  := by
  have hget : (g.linkedTask spec edges n).parameters.get? name = (n.parameters (spec n)).get? name
    := rfl
  rw [Task.hasLiteral, hget, Node.get?_parameters, Node.fills]
  cases (spec n).hasParameter name with
  | false => rfl
  | true =>
    cases n.arguments.get? name with
    | none => rfl
    | some a =>
      rw [if_pos rfl, Option.map_some, Bool.true_and, Bool.eq_iff_iff]
      simp only [Bool.not_eq_true', ← Bool.not_eq_true, Text.isBlank_iff_trim_eq_empty,
        decide_eq_true_eq, ne_eq]

/-- A declared artifact is bound when it is connected. -/
theorem isConnected_linkedTask {a : ArtifactSpec} (ha : a ∈ (spec n).artifacts) :
  (g.linkedTask spec edges n).isConnected a.name
    = (n.connection? edges (g.spec? spec) a.name).isSome
  := by
  rw [Task.isConnected, SortedMap.contains, get?_linkedTask, if_pos (List.mem_map_of_mem ha)]

/-- A bound artifact supplies no parameter that has no text of its own. -/
theorem isSupplied_of_hasParameter (hparameter : (spec n).hasParameter name = true) :
  (g.linkedTask spec edges n).isSupplied name = (g.linkedTask spec edges n).hasLiteral name
  := by
  rw [Task.isSupplied, Bool.or_eq_left_iff_imp, hasLiteral_linkedTask, hparameter, Bool.true_and]
  intro hconnected
  -- What is connected is filled, so the parameter has a value whenever the artifact is bound.
  rw [Task.isConnected, SortedMap.contains, get?_linkedTask] at hconnected
  split at hconnected
  case isTrue =>
    obtain ⟨r, hr⟩ := Option.isSome_iff_exists.mp hconnected
    apply Node.fills_of_connection? hr
  case isFalse => cases hconnected

/-! ### Reports -/

/-- The violations of a linked task are the missing inputs of its node. -/
theorem violations_linkedTask :
  (g.linkedTask spec g.edges n).violations (spec n) policy = g.missingInputs spec policy n
  := by
  have hparameters : (((spec n).parameters.filter ParamSpec.required).map ParamSpec.name).filter
        (fun name => !(g.linkedTask spec g.edges n).isSupplied name)
      = ((spec n).parameters.filter fun p => p.required && !n.fills p.name).map ParamSpec.name := by
    rw [List.filter_map, List.filter_filter]
    apply congrArg (List.map ParamSpec.name)
    apply List.filter_congr
    intro p hp
    have hparameter := Spec.hasParameter_iff.mpr ⟨p, hp, rfl⟩
    rw [Function.comp_apply, isSupplied_of_hasParameter hparameter, hasLiteral_linkedTask,
      hparameter, Bool.true_and, Bool.and_comm]
  have hartifacts : (((spec n).artifacts.filter ArtifactSpec.required).map ArtifactSpec.name).filter
        (fun name => !(g.linkedTask spec g.edges n).isSupplied name)
      = ((spec n).artifacts.filter fun a =>
          a.required && !(n.connection? g.edges (g.spec? spec) a.name).isSome
            && !((spec n).hasParameter a.name && n.fills a.name)).map ArtifactSpec.name := by
    rw [List.filter_map, List.filter_filter]
    apply congrArg (List.map ArtifactSpec.name)
    apply List.filter_congr
    intro a ha
    rw [Function.comp_apply, Task.isSupplied, hasLiteral_linkedTask, isConnected_linkedTask ha,
      Bool.not_or, Bool.and_comm, Bool.and_assoc, Bool.and_comm (!_) (!_)]
  cases policy with
  | ignore =>
    simp only [Task.violations, hparameters, missingInputs, Node.missingParameters, List.map_map]
    rfl
  | enforce =>
    simp only [Task.violations, hparameters, hartifacts, missingInputs, Node.missingParameters,
      missingArtifacts, List.map_map]
    rfl

/-- The report on a linked graph lists the missing inputs of its nodes, node by node. -/
theorem Accepted.validate_eq (h : g.Accepted) :
  validate (g.nodes.map (g.linkedTask spec g.edges)) (g.specs spec) policy
    = g.nodes.flatMap (g.missingInputs spec policy)
  := by
  rw [validate, List.flatMap_map]
  apply List.flatMap_congr
  intro n hn
  have hspec : (g.specs spec).get? (g.linkedTask spec g.edges n).nodeId = some (spec n) := by
    rw [h.get?_specs]
    apply congrArg (Option.map spec) (h.node?_id hn)
  rw [hspec]
  apply violations_linkedTask

/-- The artifacts that are reported of a node are the required ones that are not connected,
unless a parameter of their name is filled. -/
theorem Accepted.mem_missingArtifacts_iff (h : g.Accepted) (hn : n ∈ g.nodes) :
  ⟨n.id, n.templateName, name, .artifact⟩ ∈ g.nodes.flatMap (g.missingInputs spec .enforce)
    ↔ ∃ a ∈ (spec n).artifacts, a.name = name ∧ a.required = true
      ∧ n.connection? g.edges (g.spec? spec) name = none
      ∧ ((spec n).hasParameter name && n.fills name) = false
  := by
  simp only [List.mem_flatMap, missingInputs, Node.missingParameters, missingArtifacts,
    List.mem_append, List.mem_map, List.mem_filter, Bool.and_eq_true, Bool.not_eq_true',
    Option.isSome_eq_false_iff, Option.isNone_iff_eq_none, and_assoc]
  constructor
  · rintro ⟨m, hm, ⟨p, -, -, -, hparameter⟩ | ⟨a, ha, hrequired, hnone, hunfilled, hartifact⟩⟩
    · obtain ⟨-, -, -, hkind⟩ := Violation.mk.inj hparameter
      cases hkind
    · obtain ⟨hid, -, rfl, -⟩ := Violation.mk.inj hartifact
      obtain rfl := h.eq_of_id_eq hm hn hid
      use a
  · rintro ⟨a, ha, rfl, hrequired, hnone, hunfilled⟩
    use n, hn
    right
    use a

end Graph

end JobGraph
