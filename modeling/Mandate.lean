import Mandate.Audit
import Mandate.AuditId
import Mandate.Baseline
import Mandate.Binary64
import Mandate.Breaker
import Mandate.Calibration
import Mandate.CommandLine.Arguments
import Mandate.CommandLine.Session
import Mandate.Datum
import Mandate.Datum.Fields
import Mandate.Decimal.Numeral
import Mandate.Decimal.Shortest
import Mandate.Decision
import Mandate.Digest.Blake3
import Mandate.Digest.Hex
import Mandate.Document.Frame
import Mandate.Document.Governance
import Mandate.Document.Operation
import Mandate.Document.Overlay
import Mandate.Document.Report
import Mandate.Document.Settings
import Mandate.Document.Standing
import Mandate.Document.Symbol
import Mandate.Engine
import Mandate.Engine.Run
import Mandate.Failure
import Mandate.Floor
import Mandate.Frame
import Mandate.Frame.Identity
import Mandate.Gate
import Mandate.Glob
import Mandate.History
import Mandate.Instant
import Mandate.Json.Printer
import Mandate.Json.Reader
import Mandate.Keyed
import Mandate.Load
import Mandate.Main
import Mandate.Modulation
import Mandate.Ontology
import Mandate.Ontology.Standard
import Mandate.Ontology.Tokens
import Mandate.Overlay
import Mandate.Pattern
import Mandate.Proofs.Breaker.History
import Mandate.Proofs.Breaker.Run
import Mandate.Proofs.Gate.Floor
import Mandate.Proofs.Gate.OpenCircuit
import Mandate.Proofs.Gate.Ruling
import Mandate.Proofs.Scalar.Comparison
import Mandate.Proofs.Validation.Delegation
import Mandate.Proofs.Validation.Errors
import Mandate.Report
import Mandate.Resolution
import Mandate.Scalar
import Mandate.Scalar.Text
import Mandate.Sensitive
import Mandate.Sensitive.Luhn
import Mandate.Settings
import Mandate.Symbol
import Mandate.Text.Blank
import Mandate.Text.LetterCase
import Mandate.Text.Quoted
import Mandate.Text.Ranges
import Mandate.Text.Word
import Mandate.Toml.Number
import Mandate.Toml.Printer
import Mandate.Toml.Reader
import Mandate.Toml.Table
import Mandate.Toml.Text
import Mandate.Tripwire
import Mandate.Uncertainty
import Mandate.Validation
import Mandate.Proofs.Tools.Pattern
import Mandate.Proofs.Frame.Matched
import Mandate.Proofs.Tools.Delegation
import Mandate.Proofs.Validation.Validity
import Mandate.Proofs.Scalar.Exact
import Mandate.Proofs.Settings.Accepted
import Mandate.Proofs.Threshold.Factors
import Mandate.Proofs.Scalar.Logarithm
import Mandate.Proofs.Threshold.Bounds
import Mandate.Proofs.Threshold.Order
import Mandate.Proofs.Gate.Risk
import Mandate.Proofs.Standing.Calls
import Mandate.Proofs.Standing.Learning
import Mandate.Proofs.Breaker.Transitions
import Mandate.Proofs.Standing.Replay
import Mandate.Proofs.Standing.Undated
import Mandate.Proofs.Standing.Isolation
import Mandate.Proofs.Scalar.Rounding
import Mandate.Proofs.Scalar.Zero
import Mandate.Proofs.Frame.Description
import Mandate.Proofs.Standing.Faithful
import Mandate.Proofs.Tools.Expansion
import Mandate.Proofs.Ontology.Accepted
import Mandate.Proofs.Ontology.Tokens
import Mandate.Proofs.Overlay.Restriction
import Mandate.Proofs.Pattern.Language
import Mandate.Proofs.Pattern.Search
import Mandate.Proofs.Sensitive.Scan
import Mandate.Proofs.Sensitive.PaymentCard
import Mandate.Proofs.Threshold.Epistemic
import Mandate.Proofs.Uncertainty.Ensemble
import Mandate.Proofs.Validation.ForbiddenMode
import Mandate.Proofs.Calibration.Error
import Mandate.Proofs.Threshold.Broken
import Mandate.Proofs.Ontology.Written
import Mandate.Proofs.Tripwire.Reference
import Mandate.Proofs.Ontology.Noise
import Mandate.Proofs.Frame.Noise
import Mandate.Proofs.Frame.Confidence
import Mandate.Proofs.Frame.Rewritten
import Mandate.Proofs.Tools.Policy
import Mandate.Proofs.Sensitive.Complete
import Mandate.Proofs.Sensitive.Sound
import Mandate.Proofs.Breaker.Coherence
import Mandate.Proofs.Standing.Report
import Mandate.Proofs.Baseline.Run
import Mandate.Proofs.Baseline.Distance
import Mandate.Proofs.Baseline.Drift
import Mandate.Proofs.Ontology.Table
import Mandate.Proofs.Uncertainty.Decomposition
import Mandate.Proofs.Calibration.Consistency
import Mandate.Proofs.Document.ReadBack
import Mandate.Proofs.Sensitive.CheckDigit
import Mandate.Proofs.Frame.NoiseShare
import Mandate.Proofs.Frame.TokenSet
import Mandate.Proofs.Standing.Histories
import Mandate.Proofs.Ontology.Index
import Mandate.Proofs.Baseline.Reading
