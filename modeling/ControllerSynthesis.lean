import ControllerSynthesis.Json.Pointer
import ControllerSynthesis.Json.Reading
import ControllerSynthesis.Json.Writing
import ControllerSynthesis.Record.OfJson
import ControllerSynthesis.Schema.Definition
import ControllerSynthesis.Session
import ControllerSynthesis.Main
import ControllerSynthesis.Proofs.KeyMap
import ControllerSynthesis.Proofs.Version.Gate
import ControllerSynthesis.Proofs.Configuration.JavaFlags
import ControllerSynthesis.Proofs.Yaml.Place
import ControllerSynthesis.Proofs.Yaml.PlainText
import ControllerSynthesis.Proofs.Number.Digits
import ControllerSynthesis.Proofs.Yaml.Meaning
import ControllerSynthesis.Proofs.Yaml.Escapes
import ControllerSynthesis.Proofs.Yaml.QuotedText
import ControllerSynthesis.Proofs.Yaml.LiteralText
import ControllerSynthesis.Proofs.Yaml.Marks
import ControllerSynthesis.Proofs.Yaml.Scalars
import ControllerSynthesis.Proofs.Json.Integral
import ControllerSynthesis.Proofs.Yaml.Tokens
import ControllerSynthesis.Proofs.Yaml.Building
import ControllerSynthesis.Proofs.Record.AnyValue
import ControllerSynthesis.Proofs.Record.Canonical
import ControllerSynthesis.Proofs.Cluster.Canonical
import ControllerSynthesis.Proofs.Manifest.RoundTrip
import ControllerSynthesis.Proofs.Text.Lines
import ControllerSynthesis.Proofs.Yaml.Lines
import ControllerSynthesis.Proofs.Yaml.Layout
import ControllerSynthesis.Proofs.Json.Readable
import ControllerSynthesis.Proofs.Synthesis.Written
import ControllerSynthesis.Proofs.Manifest.Stream
import ControllerSynthesis.Proofs.Synthesis.Pod
import ControllerSynthesis.Proofs.Synthesis.Required
import ControllerSynthesis.Proofs.Synthesis.Log
import ControllerSynthesis.Proofs.Synthesis.Selection
import ControllerSynthesis.Proofs.Synthesis.ImageTag
import ControllerSynthesis.Proofs.Synthesis.References
import ControllerSynthesis.Proofs.Configuration.OptionEdits
import ControllerSynthesis.Proofs.CommandLine.Rendering
import ControllerSynthesis.Proofs.Synthesis.Dependence
import ControllerSynthesis.Proofs.Calendar.Days
import ControllerSynthesis.Proofs.Calendar.Reading
import ControllerSynthesis.Proofs.Cluster.Restoring
import ControllerSynthesis.Proofs.Schema.Agreement
import ControllerSynthesis.Proofs.Steps
import ControllerSynthesis.Proofs.Text.Blank
import ControllerSynthesis.Proofs.Number.Decimal
import ControllerSynthesis.Proofs.Version.Canonical
import ControllerSynthesis.Proofs.Version.Spelling
import ControllerSynthesis.Proofs.Manifest.Namespace
import ControllerSynthesis.Proofs.Record.Repetition
import ControllerSynthesis.Proofs.Record.Entries
import ControllerSynthesis.Proofs.Manifest.Kind
import ControllerSynthesis.Proofs.Record.Layout
import ControllerSynthesis.Proofs.Manifest.Words
import ControllerSynthesis.Proofs.Version.Faults
import ControllerSynthesis.Proofs.Text.Quoted
import ControllerSynthesis.Proofs.Version.Blame
import ControllerSynthesis.Proofs.Version.Padding
import ControllerSynthesis.Proofs.Synthesis.Naming
import ControllerSynthesis.Proofs.Configuration.Splitting
import ControllerSynthesis.Proofs.Synthesis.TlsChain
import ControllerSynthesis.Proofs.Synthesis.Effect
import ControllerSynthesis.Proofs.Record.Members
import ControllerSynthesis.Proofs.Record.Editing
import ControllerSynthesis.Proofs.Cluster.Defaults
import ControllerSynthesis.Proofs.Json.Numbers
import ControllerSynthesis.Proofs.Record.Integers
import ControllerSynthesis.Proofs.Cluster.Counts
import ControllerSynthesis.Proofs.Manifest.Integers
