import Buildwright.Main
import Buildwright.Manifest.Tree
import Buildwright.Proofs.Build.Site
import Buildwright.Sandbox.Machine
import Buildwright.Proofs.Build.Crew
import Buildwright.Proofs.Build.Outcome
import Buildwright.Proofs.Graph.Environment
import Buildwright.Proofs.Graph.Recursion
import Buildwright.Proofs.Build.Failures
import Buildwright.Proofs.Build.Floor
import Buildwright.Proofs.Build.Outputs
import Buildwright.Proofs.Tool.Location
import Buildwright.Proofs.Graph.Harness
import Buildwright.Proofs.Graph.Locality
import Buildwright.Proofs.Build.Tests
import Buildwright.Proofs.CommandLine.Program
import Buildwright.Proofs.Build.Foreign
import Buildwright.Proofs.Graph.Catalog
import Buildwright.Proofs.Build.Headline
import Buildwright.Proofs.Graph.Contributions
import Buildwright.Proofs.Graph.Waves
import Buildwright.Proofs.Build.ReportText
import Buildwright.Proofs.Manifest.Tree
import Buildwright.Proofs.Graph.Composition
import Buildwright.Proofs.Build.References
import Buildwright.Proofs.Build.WaveOrder
import Buildwright.Proofs.Graph.HarnessEdges
import Buildwright.Proofs.Build.TestCalls
import Buildwright.Proofs.Tool.Steps
import Buildwright.Proofs.Graph.Sources
import Buildwright.Proofs.Manifest.Rules
import Buildwright.Proofs.Project.Search
import Buildwright.Proofs.CommandLine.Settings
import Buildwright.Proofs.Build.Counters
import Buildwright.Proofs.Build.Loop
import Buildwright.Proofs.Graph.Rounds
import Buildwright.Proofs.Tool.ObjectFiles
