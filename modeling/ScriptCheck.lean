import ScriptCheck.Main
import ScriptCheck.Proofs.FailurePlace
import ScriptCheck.Proofs.Places.LineEnd
import ScriptCheck.Proofs.Places.Characters
import ScriptCheck.Proofs.SessionRun
import ScriptCheck.Proofs.Places.Stepping
import ScriptCheck.Proofs.Places.Binding
import ScriptCheck.Proofs.Places.Function
import ScriptCheck.Proofs.Places.Primary
import ScriptCheck.Proofs.Places.Expression
import ScriptCheck.Proofs.Places.Statement
import ScriptCheck.Proofs.Places.Program
import ScriptCheck.Proofs.Places.Handed
import ScriptCheck.Proofs.Answer
import ScriptCheck.Proofs.Yaml.Form
import ScriptCheck.Proofs.Yaml.Reader
import ScriptCheck.Proofs.Yaml.Quoted
import ScriptCheck.Proofs.Yaml.Plain
import ScriptCheck.Proofs.Yaml.Resolution
import ScriptCheck.Proofs.Yaml.Integer
import ScriptCheck.Proofs.Yaml.Scalar
import ScriptCheck.Proofs.Yaml.Block
import ScriptCheck.Proofs.DumpReading
import ScriptCheck.Proofs.Conversion
import ScriptCheck.Proofs.ReportReading
import ScriptCheck.Proofs.FileTree
import ScriptCheck.Proofs.LibraryCall
import ScriptCheck.Proofs.ShownLine
import ScriptCheck.Proofs.CallCourse
import ScriptCheck.Proofs.Strictness.Verdict
import ScriptCheck.Proofs.NamedLine
import ScriptCheck.Proofs.BlockHeight
import ScriptCheck.Proofs.Text.PlaceOrder
import ScriptCheck.Proofs.RecordBoundary
import ScriptCheck.Proofs.CutReport
import ScriptCheck.Proofs.Observation
import ScriptCheck.Proofs.Yaml.Folding
import ScriptCheck.Proofs.DumpLayout
import ScriptCheck.Proofs.ArgumentOrder
import ScriptCheck.Proofs.Reuse
import ScriptCheck.Proofs.Text.Decoding
import ScriptCheck.Proofs.FileLines
import ScriptCheck.Proofs.RecordReading
