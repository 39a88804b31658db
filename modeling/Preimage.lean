import Preimage.Main
import Preimage.Diagnostic
import Preimage.Wire.Reader
import Preimage.Proofs.Wire.Grammar
import Preimage.Proofs.Wire.Minimality
import Preimage.Proofs.Outcome.Message
import Preimage.Proofs.Outcome.Acceptance
import Preimage.Proofs.Outcome.WrittenForm
import Preimage.Proofs.Outcome.Prefixes
import Preimage.Proofs.Outcome.Retention
import Preimage.Proofs.Outcome.Verdict
import Preimage.Proofs.Outcome.Concatenation
import Preimage.Proofs.Outcome.Arrangement
import Preimage.Proofs.Outcome.Pinning
import Preimage.Proofs.Outcome.Canonicity
import Preimage.Proofs.Compiler
import Preimage.Proofs.Schema.History
import Preimage.Proofs.Text.Hex
import Preimage.Proofs.Json.Text
import Preimage.Proofs.Json.Value
import Preimage.Proofs.Json.Object
import Preimage.Proofs.Outcome.View
import Preimage.Proofs.Wire.Failure
import Preimage.Proofs.CommandLine.Validation
import Preimage.Proofs.Log.Redaction
import Preimage.Proofs.Outcome.Diagnosis
import Preimage.Proofs.Log.Disclosure
import Preimage.Proofs.Log.Concealment
import Preimage.Proofs.Outcome.Length
import Preimage.Proofs.Outcome.Growth
import Preimage.Proofs.Outcome.Settings
import Preimage.Proofs.Wire.Sequence
import Preimage.Proofs.Outcome.Wording
import Preimage.Proofs.Wire.Checked
import Preimage.Proofs.Outcome.Rounds
import Preimage.Proofs.Text.HexReading
import Preimage.Proofs.Diagnostic
import Preimage.Proofs.Wire.Bitwise
