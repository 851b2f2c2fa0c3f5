import JobGraph.Graph.Order
import JobGraph.Pipeline.Basic

/-!
# Printed output

What the command line prints of templates, specs, violations and orders.
-/

namespace JobGraph.Cli

/-- Lines of text. -/
def lines (texts : List String) : String :=
  String.join (texts.map (· ++ "\n"))

/-- A text with spaces behind it up to a width. -/
def padded (width : Nat) (text : String) : String :=
  text ++ String.ofList (List.replicate (width - text.length) ' ')

/-- A row of the table of templates. -/
def tableRow (name default entrypoints : String) : String :=
  padded 35 name ++ " " ++ padded 15 default ++ " " ++ entrypoints

/-- The table of templates. -/
def templateTable (summaries : List Summary) : String :=
  if summaries.isEmpty then "No templates available.\n"
  else
    lines (tableRow "NAME" "DEFAULT" "ENTRYPOINTS" :: String.ofList (List.replicate 80 '-') ::
      summaries.map fun s =>
        tableRow s.name (s.defaultEntrypoint.getD "-") (", ".intercalate s.entrypoints))

/-- The mark of what is required. -/
def requiredMark (required : Bool) : String :=
  if required then " (required)" else ""

/-- The line of a parameter. -/
def parameterLine (p : ParamSpec) : String :=
  "  " ++ p.name ++ requiredMark p.required ++
    (match p.default with
      | some default => " [default: " ++ default ++ "]"
      | none => "")

/-- All that an entrypoint takes and gives. -/
def specText (spec : Spec) : String :=
  lines (["Template: " ++ spec.template, "Entrypoint: " ++ spec.entrypoint, "", "Parameters:"]
    ++ spec.parameters.map parameterLine
    ++ ["Input artifacts:"]
    ++ spec.artifacts.map (fun a => "  " ++ a.name ++ requiredMark a.required)
    ++ ["Outputs:"]
    ++ spec.outputs.map (fun name => "  " ++ name))

/-- The list of violations. -/
def violationsText (violations : List Violation) : String :=
  lines ((toString violations.length ++ " problem(s) found:") ::
    violations.map fun v => "  - " ++ v.message)

/-- The order in which a graph can be executed. -/
def orderText (g : Graph) : String :=
  lines ("Graph is valid." :: "Execution order:" ::
    (g.executionOrder.zipIdx 1).map fun (id, place) => "  " ++ toString place ++ ". " ++ id)

end JobGraph.Cli
