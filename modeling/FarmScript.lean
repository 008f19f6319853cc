import FarmScript.Main
import FarmScript.Machine.Format
import FarmScript.Language.Format
import FarmScript.Proofs.Farm.Pose
import FarmScript.Proofs.Language.Spelling
import FarmScript.Proofs.Language.Wording
import FarmScript.Proofs.Machine.BlockEnd
import FarmScript.Proofs.Machine.Step
import FarmScript.Proofs.Machine.Run
import FarmScript.Proofs.Machine.Enclosure
import FarmScript.Proofs.Machine.Termination
import FarmScript.Proofs.Machine.Condensed
import FarmScript.Proofs.Machine.Stuttering
import FarmScript.Proofs.Structured.Node
import FarmScript.Proofs.Structured.Rendering
import FarmScript.Proofs.Structured.Simulation
import FarmScript.Proofs.Machine.Reindent
import FarmScript.Proofs.Farm.Execution
import FarmScript.Proofs.Farm.Ledger
import FarmScript.Proofs.Farm.Layout
import FarmScript.Proofs.Play.Operation
import FarmScript.Proofs.Play.Upkeep
import FarmScript.Proofs.Play.FirstStop
import FarmScript.Proofs.Machine.Endless
import FarmScript.Proofs.Play.Verdict
import FarmScript.Proofs.Play.Earnings
import FarmScript.Proofs.Play.Messages
import FarmScript.Proofs.Play.Restart
import FarmScript.Proofs.Json.Document
import FarmScript.Proofs.Play.Listener
import FarmScript.Proofs.Json.RoundTrip
import FarmScript.Proofs.Farm.RulesText
import FarmScript.Proofs.Play.Trace
import FarmScript.Proofs.Console.Drive
import FarmScript.Proofs.Tutor.Verdict
import FarmScript.Proofs.Play.Observers
import FarmScript.Proofs.Machine.Passes
import FarmScript.Proofs.Farm.CheckedWork
import FarmScript.Proofs.Machine.CheckedTick
import FarmScript.Proofs.Play.CheckedRun
import FarmScript.Proofs.Machine.Progress
import FarmScript.Proofs.Machine.Lifetime
import FarmScript.Proofs.Farm.Locality
import FarmScript.Proofs.Farm.Ripening
import FarmScript.Proofs.Machine.Control
import FarmScript.Proofs.Machine.StraightLine
import FarmScript.Proofs.Play.Splitting
import FarmScript.Proofs.Text.Searching
import FarmScript.Proofs.Text.Trimming
import FarmScript.Proofs.Text.Numerals
import FarmScript.Proofs.Text.Lines
import FarmScript.Proofs.Language.Comparison
import FarmScript.Proofs.Language.Coordinates
import FarmScript.Proofs.Language.Ranges
import FarmScript.Proofs.Language.Normalization
import FarmScript.Proofs.Tutor.Extraction
import FarmScript.Proofs.Fault.History
import FarmScript.Proofs.Farm.Growth
import FarmScript.Proofs.Console.Picture
