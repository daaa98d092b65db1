import Descent.Failure.Exchange
import Descent.Script.Lemmas
import Descent.Session.Run
import Descent.Proofs.Frame
import Descent.Proofs.Logging
import Descent.Proofs.Invocation
import Descent.Proofs.Cursor
import Descent.Proofs.Commitment
import Descent.Proofs.Calls
import Descent.Proofs.Lexemes
import Descent.Proofs.Calculator.Derivation
import Descent.Proofs.Calculator.Lexemes
import Descent.Proofs.Calculator.Completeness
import Descent.Proofs.Calculator.Soundness
import Descent.Proofs.Calculator.Language
import Descent.Proofs.Json.Derivation
import Descent.Proofs.Json.Escapes
import Descent.Proofs.Json.Spellings
import Descent.Proofs.Json.Lexemes
import Descent.Proofs.Json.Completeness
import Descent.Proofs.Json.Soundness
import Descent.Proofs.Json.Language
import Descent.Proofs.Json.Bodies
import Descent.Proofs.Pasting
import Descent.Proofs.Anchoring
import Descent.Proofs.Nesting
import Descent.Proofs.Room
import Descent.Proofs.Calculator.Bounds
import Descent.Proofs.Json.Bounds
import Descent.Proofs.Neutrality
import Descent.Proofs.Refusal
import Descent.Proofs.Calculator.Refusal
import Descent.Proofs.Json.Refusal
import Descent.Proofs.Rejection
import Descent.Proofs.Viability
import Descent.Proofs.Calculator.Viability
import Descent.Proofs.Json.Viability
import Descent.Proofs.CorrectPrefix
import Descent.Proofs.Driving
import Descent.Proofs.Provenance
import Descent.Proofs.Agreement
import Descent.Proofs.Calculator.Agreement
import Descent.Proofs.Json.Agreement
import Descent.Proofs.Shifting
import Descent.Proofs.Diagnostics
import Descent.Proofs.Lines
import Descent.Proofs.Record
import Descent.Proofs.Terse
import Descent.Proofs.Calculator.Terse
import Descent.Proofs.Json.Terse
import Descent.Proofs.Chronicle
import Descent.Proofs.Json.Encoding
import Descent.Proofs.NormalForm
import Descent.Proofs.Reanchoring
import Descent.Proofs.Report
import Descent.Proofs.Calculator.Report
import Descent.Proofs.Json.Failing
import Descent.Proofs.Json.Unfinished
import Descent.Proofs.Json.Report
import Descent.Proofs.Json.Repetition
import Descent.Proofs.Shape
import Descent.Proofs.Places
import Descent.Proofs.Json.Insertion
import Descent.Proofs.Longest
import Descent.Proofs.Concatenation
