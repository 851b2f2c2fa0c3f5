import JobGraph.Manifest.Document
import JobGraph.Proofs.Json.Sorting

/-!
# Manifests read back

The document of a manifest leaves out lists without members. A reader that takes a field that
is absent for the empty list reads the manifest back, in whatever order the fields stand. So
different manifests have different documents.
-/

namespace JobGraph

open Json (Value)

/-! ### Reading of documents -/

namespace Json.Value

variable {α : Type}

/-- Read what a field holds. -/
def inField? (name : String) (read : Value → Option α) (v : Value) : Option α :=
  (v.field? name).bind read

/-- Read the members of the list in a field. A field that is absent has none. -/
def fieldItems? (name : String) (read : Value → Option α) (v : Value) : Option (List α) :=
  match v.field? name with
  | some field => do (← field.items?).mapM read
  | none => some []

/-- Read what has a name and one other text. -/
def named? (make : String → String → α) (field : String) (v : Value) : Option α := do
  return make (← v.inField? "name" text?) (← v.inField? field text?)

end Json.Value

open Json.Value (inField? fieldItems? named? text?)

/-- Read a task. Its arguments may be absent. -/
def ManifestTask.ofValue? (v : Value) : Option ManifestTask := do
  let arguments := (v.field? "arguments").getD (.object [])
  return {
    name := ← v.inField? "name" text?
    templateRef := ← v.inField? "templateRef" (named? TemplateRef.mk "template")
    parameters := ← arguments.fieldItems? "parameters" (named? ParameterArgument.mk "value")
    artifacts := ← arguments.fieldItems? "artifacts" (named? ArtifactArgument.mk "from")
    dependencies := ← v.fieldItems? "dependencies" text?
    env := ← v.fieldItems? "env" (named? EnvVar.mk "value") }

/-- Read a template. -/
def ManifestTemplate.ofValue? (v : Value) : Option ManifestTemplate := do
  return {
    name := ← v.inField? "name" text?
    tasks := ← v.inField? "dag" (fieldItems? "tasks" ManifestTask.ofValue?) }

/-- Read a manifest. -/
def Manifest.ofValue? (v : Value) : Option Manifest := do
  return {
    apiVersion := ← v.inField? "apiVersion" text?
    kind := ← v.inField? "kind" text?
    generateName := ← v.inField? "metadata" (inField? "generateName" text?)
    «namespace» := ← v.inField? "metadata" (inField? "namespace" text?)
    entrypoint := ← v.inField? "spec" (inField? "entrypoint" text?)
    imagePullSecrets := ← v.inField? "spec"
      (fieldItems? "imagePullSecrets" (inField? "name" text?))
    templates := ← v.inField? "spec" (fieldItems? "templates" ManifestTemplate.ofValue?) }

/-! ### The order of fields -/

namespace Json.Value

variable {α : Type} {name : String} {read : Value → Option α} {v : Value}

/-- Where the order of fields does not show in what a field holds, it does not show. -/
theorem inField?_sorted (h : ∀ w : Value, read w.sorted = read w) :
  v.sorted.inField? name read = v.inField? name read
  := by
  rw [inField?, inField?, field?_sorted]
  cases v.field? name with
  | none => rfl
  | some field => apply h

theorem fieldItems?_sorted (h : ∀ w : Value, read w.sorted = read w) :
  v.sorted.fieldItems? name read = v.fieldItems? name read
  := by
  rw [fieldItems?, fieldItems?, field?_sorted]
  cases v.field? name with
  | none => rfl
  | some field =>
    simp only [Option.map_some, items?_sorted]
    cases field.items? with
    | none => rfl
    | some items =>
      have hread : read ∘ sorted = read := funext h
      simp [List.mapM_map, hread]

theorem named?_sorted {make : String → String → α} {field : String} :
  v.sorted.named? make field = v.named? make field
  := by
  rw [named?, named?, inField?_sorted fun _ => text?_sorted, inField?_sorted fun _ => text?_sorted]

end Json.Value

open Json.Value (inField?_sorted fieldItems?_sorted named?_sorted text?_sorted)

theorem ManifestTask.ofValue?_sorted {v : Value} :
  ofValue? v.sorted = ofValue? v
  := by
  have harguments : (v.sorted.field? "arguments").getD (.object [])
      = ((v.field? "arguments").getD (.object [])).sorted := by
    rw [Value.field?_sorted]
    cases v.field? "arguments" <;> rfl
  rw [ofValue?, harguments, inField?_sorted fun _ => text?_sorted,
    inField?_sorted fun _ => named?_sorted, fieldItems?_sorted fun _ => named?_sorted,
    fieldItems?_sorted fun _ => named?_sorted, fieldItems?_sorted fun _ => text?_sorted,
    fieldItems?_sorted fun _ => named?_sorted]
  rfl

theorem ManifestTemplate.ofValue?_sorted {v : Value} :
  ofValue? v.sorted = ofValue? v
  := by
  rw [ofValue?, inField?_sorted fun _ => text?_sorted,
    inField?_sorted fun _ => fieldItems?_sorted fun _ => ManifestTask.ofValue?_sorted]
  rfl

/-- The order of fields does not show in the manifest that is read. -/
theorem Manifest.ofValue?_sorted {v : Value} :
  ofValue? v.sorted = ofValue? v
  := by
  have htext (name : String) (w : Value) :
      w.sorted.inField? name text? = w.inField? name text? :=
    inField?_sorted fun _ => text?_sorted
  rw [ofValue?, htext, htext, inField?_sorted (htext _), inField?_sorted (htext _),
    inField?_sorted (htext _), inField?_sorted fun _ => fieldItems?_sorted (htext _),
    inField?_sorted fun _ => fieldItems?_sorted fun _ => ManifestTemplate.ofValue?_sorted]
  rfl

/-! ### Documents that are written -/

section

variable {α : Type} {name own : String} {toValue : α → Value} {read : Value → Option α}
  {items : List α}

theorem mapM_map_eq_some (h : ∀ a ∈ items, read (toValue a) = some a) :
  (items.map toValue).mapM read = some items
  := by
  induction items with
  | nil => rfl
  | cons a items ih =>
    obtain ⟨ha, hitems⟩ := List.forall_mem_cons.mp h
    rw [List.map_cons, List.mapM_cons, ha, ih hitems]
    rfl

@[simp] theorem listField_nil :
  listField name toValue [] = []
  := rfl

/-- A list is in its field unless it has no members. -/
@[simp] theorem field?_listField :
  (Value.object (listField name toValue items)).field? own
    = if name = own ∧ items ≠ [] then some (.array (items.map toValue)) else none
  := by
  cases items with
  | nil => simp
  | cons a items => simp [listField]

/-- A list whose members are read back is read back from its field. -/
theorem fieldItems?_eq_some {v : Value}
    (hfield : v.field? name = (Value.object (listField name toValue items)).field? name)
    (h : ∀ a ∈ items, read (toValue a) = some a) :
  v.fieldItems? name read = some items
  := by
  rw [fieldItems?, hfield, field?_listField]
  cases items with
  | nil => simp
  | cons a items => simpa [Value.items?] using mapM_map_eq_some h

theorem named?_namedText {make : String → String → α} {field first second : String}
    (h : field ≠ "name") :
  named? make field (namedText first field second) = some (make first second)
  := by
  simp [named?, namedText, inField?, Value.field?, text?, h]

end

namespace ManifestTask

variable {t : ManifestTask} {name : String}

@[simp] theorem field?_argumentFields :
  (Value.object t.argumentFields).field? name
    = if "arguments" = name ∧ ¬ (t.parameters = [] ∧ t.artifacts = []) then
        some (.object
          (listField "parameters" (fun p => namedText p.name "value" p.value) t.parameters
            ++ listField "artifacts" (fun a => namedText a.name "from" a.source) t.artifacts))
      else none
  := by
  rw [argumentFields]
  cases t.parameters <;> cases t.artifacts <;> simp [listField]

/-- The arguments that are left out are the empty ones. -/
theorem arguments_toValue :
  (t.toValue.field? "arguments").getD (.object [])
    = .object (listField "parameters" (fun p => namedText p.name "value" p.value) t.parameters
      ++ listField "artifacts" (fun a => namedText a.name "from" a.source) t.artifacts)
  := by
  by_cases h : t.parameters = [] ∧ t.artifacts = []
  · simp [toValue, h]
  · simp [toValue, h]

/-- A task is read back from its document. -/
theorem ofValue?_toValue :
  ofValue? t.toValue = some t
  := by
  have hname : t.toValue.inField? "name" text? = some t.name := by
    simp [toValue, inField?, text?]
  have href : t.toValue.inField? "templateRef" (named? TemplateRef.mk "template")
      = some t.templateRef := by
    simp [toValue, inField?, named?_namedText]
  have hparameters : ((t.toValue.field? "arguments").getD (.object [])).fieldItems? "parameters"
      (named? ParameterArgument.mk "value") = some t.parameters := by
    rw [arguments_toValue]
    apply fieldItems?_eq_some _ fun p _ => named?_namedText (by decide)
    simp
  have hartifacts : ((t.toValue.field? "arguments").getD (.object [])).fieldItems? "artifacts"
      (named? ArtifactArgument.mk "from") = some t.artifacts := by
    rw [arguments_toValue]
    apply fieldItems?_eq_some _ fun a _ => named?_namedText (by decide)
    simp
  have hdependencies : t.toValue.fieldItems? "dependencies" text? = some t.dependencies := by
    apply @fieldItems?_eq_some _ _ Value.string
    · simp [toValue]
    · intro d _
      rfl
  have henv : t.toValue.fieldItems? "env" (named? EnvVar.mk "value") = some t.env := by
    apply fieldItems?_eq_some _ fun e _ => named?_namedText (by decide)
    simp [toValue]
  rw [ofValue?, hname, href, hparameters, hartifacts, hdependencies, henv]
  rfl

/-- The document leaves out the lists of the task that have no members, and no others. -/
structure OmitsEmpty (t : ManifestTask) : Prop where
  arguments : t.toValue.field? "arguments" = none ↔ t.parameters = [] ∧ t.artifacts = []
  parameters : t.toValue.path? ["arguments", "parameters"] = none ↔ t.parameters = []
  artifacts : t.toValue.path? ["arguments", "artifacts"] = none ↔ t.artifacts = []
  dependencies : t.toValue.field? "dependencies" = none ↔ t.dependencies = []
  env : t.toValue.field? "env" = none ↔ t.env = []

theorem omitsEmpty (t : ManifestTask) :
  t.OmitsEmpty
  := by
  constructor
  case arguments => simp [toValue]
  case dependencies => simp [toValue]
  case env => simp [toValue]
  case parameters =>
    by_cases h : t.parameters = [] ∧ t.artifacts = []
    · simp [toValue, Value.path?, h]
    · simp [toValue, Value.path?, h]
  case artifacts =>
    by_cases h : t.parameters = [] ∧ t.artifacts = []
    · simp [toValue, Value.path?, h]
    · simp [toValue, Value.path?, h]

end ManifestTask

theorem ManifestTemplate.ofValue?_toValue {t : ManifestTemplate} :
  ofValue? t.toValue = some t
  := by
  have htasks : (t.tasks.map ManifestTask.toValue).mapM ManifestTask.ofValue? = some t.tasks :=
    mapM_map_eq_some fun _ _ => ManifestTask.ofValue?_toValue
  simp [ofValue?, toValue, inField?, fieldItems?, text?, Value.items?, - List.mapM_map, htasks]

namespace Manifest

variable {m : Manifest}

/-- A manifest is read back from its document. -/
theorem ofValue?_toValue :
  ofValue? m.toValue = some m
  := by
  have hsecrets : m.toValue.inField? "spec" (fieldItems? "imagePullSecrets" (inField? "name" text?))
      = some m.imagePullSecrets := by
    simp only [toValue, toFields, inField?, Value.field?_cons, Value.field?_nil, Option.none_or]
    apply @fieldItems?_eq_some _ _ fun name => Value.object [("name", .string name)]
    · simp
    · intro name _
      simp [inField?, text?]
  have htemplates : m.toValue.inField? "spec" (fieldItems? "templates" ManifestTemplate.ofValue?)
      = some m.templates := by
    have hread : (m.templates.map ManifestTemplate.toValue).mapM ManifestTemplate.ofValue?
        = some m.templates :=
      mapM_map_eq_some fun _ _ => ManifestTemplate.ofValue?_toValue
    simp [toValue, toFields, inField?, fieldItems?, Value.items?, - List.mapM_map, hread]
  rw [ofValue?, hsecrets, htemplates]
  simp [toValue, toFields, inField?, text?]

/-- A manifest is read back from its document, in whatever order the fields stand, and the
document leaves out nothing but lists without members. So manifests with the same document are
equal. -/
theorem toValue_faithful (m m' : Manifest) :
  ofValue? m.toValue = some m
    ∧ ofValue? m.toValue.sorted = some m
    ∧ (m.toValue = m'.toValue ↔ m = m')
    ∧ (m.toValue.sorted = m'.toValue.sorted ↔ m = m')
    ∧ (m.toValue.path? ["spec", "imagePullSecrets"] = none ↔ m.imagePullSecrets = [])
    ∧ ∀ task : ManifestTask, task.OmitsEmpty
  := by
  have hsorted : ∀ m : Manifest, ofValue? m.toValue.sorted = some m := by
    intro m
    rw [ofValue?_sorted, ofValue?_toValue]
  refine ⟨ofValue?_toValue, hsorted m, ?_, ?_, ?_, ManifestTask.omitsEmpty⟩
  · constructor
    · intro h
      rw [← Option.some.injEq, ← ofValue?_toValue, h, ofValue?_toValue]
    · rintro rfl
      rfl
  · constructor
    · intro h
      rw [← Option.some.injEq, ← hsorted m, h, hsorted m']
    · rintro rfl
      rfl
  · simp [toValue, toFields, Value.path?]

end Manifest

end JobGraph
