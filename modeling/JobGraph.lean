import JobGraph.Text.Blank
import JobGraph.Text.Lowercase
import JobGraph.Decimal.Notation
import JobGraph.Decimal.Numeral
import JobGraph.Schema
import JobGraph.Json.Reading
import JobGraph.SortedMap
import JobGraph.Dictionary
import JobGraph.Graph.Check
import JobGraph.Graph.Order
import JobGraph.Task.Compilation
import JobGraph.Task.Linking
import JobGraph.Task.Validation
import JobGraph.Request.Basic
import JobGraph.Template.Reading
import JobGraph.Report
import JobGraph.Pipeline.Basic
import JobGraph.Config.Loading
import JobGraph.Cluster.Service
import JobGraph.Template.Folder
import JobGraph.Log.Pipeline
import JobGraph.Cli.Workspace
import JobGraph.Main
import JobGraph.Api.Router
import JobGraph.Proofs.Maps
import JobGraph.Proofs.Graph.Acceptance
import JobGraph.Proofs.Graph.Order
import JobGraph.Proofs.Task.Compilation
import JobGraph.Proofs.Task.Linking
import JobGraph.Proofs.Manifest.Workflow
import JobGraph.Proofs.Task.Report
import JobGraph.Proofs.Pipeline.Analysis
import JobGraph.Proofs.Pipeline.Emission
import JobGraph.Proofs.Manifest.Rearrangement
import JobGraph.Proofs.Graph.Argument
import JobGraph.Proofs.Task.Wiring
import JobGraph.Proofs.Cli.Validation
import JobGraph.Proofs.Pipeline.Dangling
import JobGraph.Proofs.Task.Extension
import JobGraph.Proofs.Text.ByteOrder
import JobGraph.Proofs.Pipeline.Fetching
import JobGraph.Proofs.Pipeline.Browsing
import JobGraph.Proofs.Pipeline.Credentials
import JobGraph.Proofs.Pipeline.Failure
import JobGraph.Proofs.Api.Submission
import JobGraph.Proofs.Graph.LeastOrder
import JobGraph.Proofs.Graph.Listing
import JobGraph.Proofs.Template.Cache
import JobGraph.Proofs.Task.Caching
import JobGraph.Proofs.Task.Correspondence
import JobGraph.Proofs.Task.Relinking
import JobGraph.Proofs.Graph.Reading
import JobGraph.Proofs.Template.Resolution
import JobGraph.Proofs.Graph.Diagnosis
import JobGraph.Proofs.Task.Repetition
import JobGraph.Proofs.Json.Sorting
import JobGraph.Proofs.Manifest.Document
import JobGraph.Proofs.Template.Folder
import JobGraph.Proofs.Api.Access
import JobGraph.Proofs.Cluster.Addresses
import JobGraph.Proofs.Graph.Traversal
