import MethodSig.CharSet
import MethodSig.CommandLine.Help
import MethodSig.CommandLine.Outcome
import MethodSig.CommandLine.Request
import MethodSig.DotEnv
import MethodSig.Environment
import MethodSig.Expectation
import MethodSig.Grammar
import MethodSig.Json.Literal
import MethodSig.Json.Number
import MethodSig.Json.Reader
import MethodSig.Json.Signature
import MethodSig.Json.Value
import MethodSig.Log
import MethodSig.Number.Binary64
import MethodSig.Number.Shortest
import MethodSig.Rejection
import MethodSig.Scan
import MethodSig.Settings
import MethodSig.Signature
import MethodSig.Splitter
import MethodSig.Table
import MethodSig.Text.Alphanumeric
import MethodSig.Text.Basic
import MethodSig.Text.Columns
import MethodSig.Text.Emoji
import MethodSig.Text.Glyph
import MethodSig.Text.Onset
import MethodSig.Text.Quoted
import MethodSig.Text.Ranges
import MethodSig.Text.Width
import MethodSig.Text.Wrapped
import MethodSig.Trace
import MethodSig.Main
import MethodSig.Proofs.Params
import MethodSig.Proofs.Pairing
import MethodSig.Proofs.Reading
import MethodSig.Proofs.Leftmost
import MethodSig.Proofs.Head
import MethodSig.Proofs.Surroundings
import MethodSig.Proofs.Canonical
import MethodSig.Proofs.Tokens
import MethodSig.Proofs.Pretokenized
import MethodSig.Proofs.Cutting
import MethodSig.Proofs.Outline
import MethodSig.Proofs.Assignments
import MethodSig.Proofs.LogLines
import MethodSig.Proofs.LogLevel
import MethodSig.Proofs.Arguments
import MethodSig.Proofs.Ending
import MethodSig.Proofs.Delimiters
import MethodSig.Proofs.Json.Document
import MethodSig.Proofs.Json.Literal
import MethodSig.Proofs.Json.Number
import MethodSig.Proofs.Json.Values
import MethodSig.Proofs.Json.Skipped
import MethodSig.Proofs.Json.Unique
import MethodSig.Proofs.Json.Described
import MethodSig.Proofs.Json.RoundTrip
import MethodSig.Proofs.Json.Extended
import MethodSig.Proofs.Json.Streaming
import MethodSig.Proofs.Printed
import MethodSig.Proofs.Enclosed
import MethodSig.Proofs.Separators
import MethodSig.Proofs.OnDemand
import MethodSig.Proofs.Patterns
import MethodSig.Proofs.Misses
import MethodSig.Proofs.AtEnd
import MethodSig.Proofs.Exclusive
import MethodSig.Proofs.Configured
import MethodSig.Proofs.Unforged
import MethodSig.Proofs.Rectangular
import MethodSig.Proofs.Tabulated
import MethodSig.Proofs.Arrangement
import MethodSig.Proofs.FileText
import MethodSig.Proofs.Gaps
