/-!
# Arguments of nodes

An argument is literal text or a reference `node::output` to an output artifact of another
node. `Argument.parse` reads the written form, which splits at the first separator, and
`Argument.text` writes it.
-/

namespace JobGraph

/-- An output artifact of another node's task. -/
structure OutputRef where
  source : String
  output : String
deriving DecidableEq, Repr

/-- An argument of a node. -/
inductive Argument where
  | literal (text : String)
  | reference (target : OutputRef)
deriving DecidableEq, Repr

/-- The written form of a reference. -/
def OutputRef.text (r : OutputRef) : String :=
  r.source ++ "::" ++ r.output

/-- What stands before and behind the first `::`. -/
def splitAtSeparator : List Char → Option (List Char × List Char)
  | [] => none
  | [_] => none
  | c :: d :: rest =>
    if c = ':' ∧ d = ':' then some ([], rest)
    else (splitAtSeparator (d :: rest)).map fun (before, after) => (c :: before, after)

namespace Argument

/-- Read the written form. A text is a reference when there is text on both sides of its
first separator, and literal otherwise. -/
def parse (text : String) : Argument :=
  match splitAtSeparator text.toList with
  | some (source, output) =>
    if source.isEmpty || output.isEmpty then literal text
    else reference ⟨String.ofList source, String.ofList output⟩
  | none => literal text

/-- The written form of an argument. -/
def text : Argument → String
  | literal s => s
  | reference r => r.text

end Argument

end JobGraph
