import Plateau.Main
import Plateau.Proofs.Service
import Plateau.Proofs.Telemetry.Mirror
import Plateau.Proofs.Telemetry.RunTree
import Plateau.Proofs.Telemetry.Interference
import Plateau.Proofs.Telemetry.Completion
import Plateau.Proofs.Demonstration
import Plateau.Proofs.Diagnosis
import Plateau.Proofs.Trail
import Plateau.Proofs.Data.Fields
import Plateau.Proofs.Settings.Precedence
import Plateau.Proofs.Console.Markup
import Plateau.Proofs.Console.Print
import Plateau.Proofs.Console.Table
import Plateau.Proofs.Report.Format
import Plateau.Proofs.Report.Run
import Plateau.Proofs.Report.Document
import Plateau.Proofs.Order
import Plateau.Proofs.Checkpoint
import Plateau.Proofs.Spelling
import Plateau.Proofs.Guidance
import Plateau.Proofs.WayBack
import Plateau.Proofs.Reflection
import Plateau.Proofs.OutcomeJson
import Plateau.Proofs.Cli.Sources
import Plateau.Proofs.Cli.Emission
import Plateau.Proofs.Settings.Discovery
import Plateau.Proofs.Log.Written
import Plateau.Proofs.Telemetry.Descent
import Plateau.Proofs.Report.Positions
import Plateau.Proofs.Report.Spans
import Plateau.Proofs.Report.Timing
