import JobGraph.Graph.Reading
import JobGraph.Proofs.Graph.Argument
import JobGraph.Proofs.Json.Reading
import JobGraph.Proofs.Json.Writing
import JobGraph.Proofs.Maps

/-!
# Graphs read back

An argument that was read is `Faithful`: its written form is read as the argument again, with
the same text and of the same kind. A graph whose arguments are faithful is read back from the
value that it is written as, and a graph that was read has no other arguments.
-/

namespace JobGraph

open Json

/-! ### Arguments -/

namespace Argument

/-- The written form of the argument is read as the argument. -/
def Faithful (a : Argument) : Prop :=
  parse a.text = a

theorem faithful_parse {text : String} :
  (parse text).Faithful
  := congrArg parse text_parse

/-- Whatever an argument is read from, it is read from a text. -/
theorem faithful_of_read {depth : Nat} {d : Draft} {a : Argument} (h : read depth d = .ok a) :
  a.Faithful
  := by
  unfold read at h
  split at h
  all_goals cases h
  all_goals apply faithful_parse

/-- The arguments that are read join faithful ones. -/
theorem faithful_of_readAll {fields : List (Draft × Draft)} {arguments read : SortedMap Argument}
    (harguments : ∀ name a, arguments.get? name = some a → a.Faithful)
    (h : readAll fields arguments = .ok read) :
  ∀ name a, read.get? name = some a → a.Faithful
  := by
  induction fields, arguments using readAll.induct with
  | case1 arguments =>
    cases h
    apply harguments
  | case2 own d fields arguments a hread ih =>
    rw [readAll, hread] at h
    apply ih _ h
    intro name b hb
    rw [SortedMap.get?_insert] at hb
    split at hb
    case isTrue =>
      cases hb
      apply faithful_of_read hread
    case isFalse => apply harguments name b hb
  | case3 own d fields arguments fault hread =>
    rw [readAll, hread] at h
    cases h
  | case4 field fields arguments hname =>
    rw [readAll] at h
    · cases h
    · exact hname

theorem faithful_of_readMap {d : Draft} {arguments : SortedMap Argument}
    (h : readMap d = .ok arguments) :
  ∀ name a, arguments.get? name = some a → a.Faithful
  := by
  unfold readMap at h
  split at h
  case h_1 fields closed =>
    split at h
    case h_1 read hread =>
      split at h
      case isTrue =>
        cases h
        apply faithful_of_readAll _ hread
        rintro _ _ ⟨⟩
      case isFalse => cases h
    case h_2 => cases h
  case h_2 => cases h

/-- Faithful arguments are read back from their texts one by one. -/
theorem readAll_ofFields {entries : List (String × Argument)}
    (h : ∀ x ∈ entries, x.2.Faithful) {arguments : SortedMap Argument} :
  readAll (Draft.ofFields (entries.map fun (name, a) => (name, .string a.text))) arguments
    = .ok (entries.foldl (fun m (name, a) => m.insert name a) arguments)
  := by
  induction entries generalizing arguments with
  | nil => rfl
  | cons entry entries ih =>
    obtain ⟨name, a⟩ := entry
    obtain ⟨ha, hentries⟩ := List.forall_mem_cons.mp h
    have hread : read 0 (.ofValue (.string a.text)) = .ok a := congrArg Except.ok ha
    rw [List.map_cons, Draft.ofFields, readAll, hread, List.foldl_cons]
    apply ih hentries

end Argument

/-! ### Graphs -/

/-- All arguments of the node are faithful. -/
def Node.Faithful (n : Node) : Prop :=
  ∀ name a, n.arguments.get? name = some a → a.Faithful

namespace Node

/-- A node that was read has faithful arguments. -/
theorem faithful_of_read {d : Draft} {n : Node} (h : read d = .ok n) :
  n.Faithful
  := by
  obtain ⟨⟨id, templateName, entrypoint, arguments, _⟩, hrecord, h⟩ := bind_eq_ok_iff.mp h
  obtain ⟨-, -, -, hread, -⟩ := Draft.hasRead_of_readRecord hrecord
  obtain ⟨id, -, h⟩ := bind_eq_ok_iff.mp h
  obtain ⟨templateName, -, h⟩ := bind_eq_ok_iff.mp h
  obtain ⟨entrypoint, -, h⟩ := bind_eq_ok_iff.mp h
  cases h
  cases arguments with
  | none =>
    rintro _ _ ⟨⟩
  | some arguments =>
    obtain ⟨d, hd⟩ := hread arguments rfl
    apply Argument.faithful_of_readMap hd

/-- Faithful arguments are read back from the object of their texts. -/
theorem readMap_arguments {n : Node} (h : n.Faithful) :
  Argument.readMap (.object (Draft.ofFields
    (n.arguments.entries.map fun x => (x.1, .string x.2.text))) true) = .ok n.arguments
  := by
  have hentries : ∀ x ∈ n.arguments.entries, x.2.Faithful := by
    rintro ⟨name, a⟩ hx
    apply h name a (SortedMap.mem_entries_iff.mp hx)
  have hall : Argument.readAll (Draft.ofFields
      (n.arguments.entries.map fun x => (x.1, .string x.2.text))) .empty = .ok n.arguments := by
    apply (Argument.readAll_ofFields hentries).trans
    exact congrArg Except.ok SortedMap.ofList_entries
  rw [Argument.readMap, hall]
  rfl

/-- A node with faithful arguments is read back from its value. -/
theorem read_toValue {n : Node} (h : n.Faithful) :
  read (.ofValue n.toValue) = .ok n
  := by
  simp [read, toValue, Draft.ofValue, Draft.ofFields, format, Draft.readRecord,
    Schema.Fields.readNamed, Schema.Fields.fill, Draft.readName, Draft.readText,
    Schema.Format.required, Schema.Row.empty, readMap_arguments h, bind, Except.bind, pure,
    Except.pure]

/-- A node is written as texts, its arguments as texts under their names. -/
theorem numberless_toValue (n : Node) :
  n.toValue.Numberless
  := by
  apply Value.Numberless.object
  simp only [List.forall_mem_cons]
  refine ⟨.string _, .string _, .string _, .object ?_, List.forall_mem_nil _⟩
  intro field hfield
  obtain ⟨entry, -, rfl⟩ := List.mem_map.mp hfield
  apply Value.Numberless.string

end Node

namespace Edge

/-- An edge is read back from its value. -/
theorem read_toValue {e : Edge} :
  read (.ofValue e.toValue) = .ok e
  := rfl

/-- An edge is written as texts. -/
theorem numberless_toValue (e : Edge) :
  e.toValue.Numberless
  := by
  apply Value.Numberless.object
  simp only [List.forall_mem_cons]
  exact ⟨.string _, .string _, List.forall_mem_nil _⟩

end Edge

namespace Graph

/-- All arguments of all nodes are faithful. -/
def Faithful (g : Graph) : Prop :=
  ∀ n ∈ g.nodes, n.Faithful

/-- A graph that was read has faithful arguments. -/
theorem faithful_of_read {d : Draft} {g : Graph} (h : read d = .ok g) :
  g.Faithful
  := by
  obtain ⟨⟨nodes, edges, _⟩, hrecord, h⟩ := bind_eq_ok_iff.mp h
  obtain ⟨hread, -⟩ := Draft.hasRead_of_readRecord hrecord
  cases h
  cases nodes with
  | none =>
    rintro _ ⟨⟩
  | some nodes =>
    obtain ⟨d, hd⟩ := hread nodes rfl
    intro n hn
    obtain ⟨d, hd⟩ := Draft.exists_of_readItems hd n hn
    apply Node.faithful_of_read hd

/-- A graph with faithful arguments is read back from its value. -/
theorem ofValue_toValue {g : Graph} (h : g.Faithful) :
  ofValue g.toValue = .ok g
  := by
  have hnodes : Draft.readItems Node.read (.ofValue (.array (g.nodes.map Node.toValue)))
      = .ok g.nodes := Draft.readItems_ofValue fun n hn => Node.read_toValue (h n hn)
  have hedges : Draft.readItems Edge.read (.ofValue (.array (g.edges.map Edge.toValue)))
      = .ok g.edges := Draft.readItems_ofValue fun _ _ => Edge.read_toValue
  rw [Draft.ofValue] at hnodes hedges
  simp [ofValue, read, toValue, Draft.ofValue, Draft.ofFields, format, Draft.readRecord,
    Schema.Fields.readNamed, Schema.Fields.fill, Draft.readName, Schema.Row.empty, hnodes, hedges,
    bind, Except.bind, pure, Except.pure]

/-- A graph is written without numbers. -/
theorem numberless_toValue (g : Graph) :
  g.toValue.Numberless
  := by
  apply Value.Numberless.object
  simp only [List.forall_mem_cons]
  refine ⟨.array ?_, .array ?_, List.forall_mem_nil _⟩
  · intro v hv
    obtain ⟨n, -, rfl⟩ := List.mem_map.mp hv
    apply n.numberless_toValue
  · intro v hv
    obtain ⟨e, -, rfl⟩ := List.mem_map.mp hv
    apply e.numberless_toValue

/-- Whatever a graph was read from, the value of the graph and the text of this value are read as
the same graph, and every argument as an argument of the same kind with the same text. -/
theorem read_stable {d : Draft} {g : Graph} (h : read d = .ok g) :
  ofValue g.toValue = .ok g ∧ readText read g.toValue.write = .ok g ∧ g.Faithful
  := by
  have hfaithful := faithful_of_read h
  have hvalue := ofValue_toValue hfaithful
  have htext : readText read g.toValue.write = .ok g := by
    rw [readText_write g.numberless_toValue]
    apply hvalue
  exact ⟨hvalue, htext, hfaithful⟩

/-- A graph in another form than the one in which graphs are written. -/
def sketch : Value :=
  .object [("title", .string "sketch"),
    ("edges", .array [.array [.string "fit", .string "use"]]),
    ("nodes", .array [
      .array [.string "fit", .string "make", .string "main"],
      .object [("arguments", .object [("seed", .number (.int 5)), ("strict", .bool true),
          ("note", .null), ("model", .string "fit:::model")]),
        ("entrypoint", .string "main"), ("template_name", .string "take"), ("id", .string "use")]])]

/-- The graph of the sketch. -/
def sketched : Graph where
  nodes := [⟨"fit", "make", "main", .empty⟩,
    ⟨"use", "take", "main", .ofList [("model", .reference ⟨"fit", ":model"⟩),
      ("note", .literal ""), ("seed", .literal "5"), ("strict", .literal "true")]⟩]
  edges := [⟨"fit", "use"⟩]

theorem sketched_stable :
  ofValue sketch = .ok sketched ∧ ofValue sketched.toValue = .ok sketched
    ∧ readText read sketched.toValue.write = .ok sketched
  := by
  have hread : ofValue sketch = .ok sketched := by rfl
  obtain ⟨hvalue, htext, -⟩ := read_stable hread
  exact ⟨hread, hvalue, htext⟩

end Graph

end JobGraph
