import ReactScaffold.CommandLine.Run
import ReactScaffold.Execution.Progress
import ReactScaffold.Main
import ReactScaffold.Plan.Reading
import ReactScaffold.Proofs.Execution.Course
import ReactScaffold.Proofs.Decimal.Nearest
import ReactScaffold.Proofs.Decimal.ReadBack
import ReactScaffold.Proofs.Decimal.Numeral
import ReactScaffold.Proofs.Json.Number
import ReactScaffold.Proofs.Json.Limits
import ReactScaffold.Proofs.Json.Strings
import ReactScaffold.Proofs.Text.ReadBack
import ReactScaffold.Proofs.Json.ReadBack
import ReactScaffold.Proofs.Host.Disk
import ReactScaffold.Proofs.Session.Files
import ReactScaffold.Proofs.Manifest
import ReactScaffold.Proofs.Execution.Timeline
import ReactScaffold.Proofs.CommandLine.Directory
import ReactScaffold.Proofs.CommandLine.Timeline
import ReactScaffold.Proofs.Template.Render
import ReactScaffold.Proofs.File.Content
import ReactScaffold.Proofs.Host.Directories
import ReactScaffold.Proofs.File.Folder
import ReactScaffold.Proofs.Plan.Layout
import ReactScaffold.Proofs.Execution.Phases
import ReactScaffold.Proofs.Plan.Compile
import ReactScaffold.Proofs.Plan.Application
import ReactScaffold.Proofs.Session.Documents
import ReactScaffold.Proofs.Host.Tree
import ReactScaffold.Proofs.Execution.Steps
import ReactScaffold.Proofs.Execution.Remains
import ReactScaffold.Proofs.Execution.Lapses
import ReactScaffold.Proofs.CommandLine.Ending
import ReactScaffold.Proofs.CommandLine.Saving
import ReactScaffold.Proofs.Plan.Resumption
import ReactScaffold.Proofs.CommandLine.Preview
import ReactScaffold.Proofs.CommandLine.Confinement
import ReactScaffold.Proofs.CommandLine.Routes
import ReactScaffold.Proofs.Plan.Imports
import ReactScaffold.Proofs.Plan.Packages
import ReactScaffold.Proofs.Plan.Tailwind
import ReactScaffold.Proofs.Plan.Language
import ReactScaffold.Proofs.Dialogue.Interview
import ReactScaffold.Proofs.Dialogue.Unattended
import ReactScaffold.Proofs.Project.Gates
import ReactScaffold.Proofs.Execution.Installs
import ReactScaffold.Proofs.Execution.Fusion
import ReactScaffold.Proofs.Json.Grammar
import ReactScaffold.Proofs.Json.Soundness
import ReactScaffold.Proofs.Json.Completeness
import ReactScaffold.Proofs.Json.Excess
import ReactScaffold.Proofs.Text.Decoding
import ReactScaffold.Proofs.Session.Reading
import ReactScaffold.Proofs.Dialogue.Naming
import ReactScaffold.Proofs.Session.Processes
import ReactScaffold.Proofs.Execution.Display
import ReactScaffold.Proofs.Plan.Styling
import ReactScaffold.Proofs.Decimal.Duration
import ReactScaffold.Proofs.Text.NormalForm
import ReactScaffold.Proofs.CommandLine.Usable
import ReactScaffold.Proofs.Session.Requests
