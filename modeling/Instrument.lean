import Instrument.Range
import Instrument.Kind
import Instrument.Number.Places
import Instrument.Number.Integer
import Instrument.Json.Writer
import Instrument.Json.Reader
import Instrument.Text.Case
import Instrument.Text.Quoted
import Instrument.Text.Utf8
import Instrument.Value
import Instrument.WireFormat.Render
import Instrument.DateFormat.Writer
import Instrument.DateFormat.Reader
import Instrument.Parameter.Basic
import Instrument.Parameter.Wire
import Instrument.Registry
import Instrument.Schema.Writer
import Instrument.Schema.Reader
import Instrument.Pattern.Matcher
import Instrument.Pattern.Reader
import Instrument.Command.Wire
import Instrument.Command.Reply
import Instrument.Transport.Datagram
import Instrument.Transport.Rpc
import Instrument.Transport.JsonRpc
import Instrument.Transport.Script
import Instrument.Transport.Any
import Instrument.Profile
import Instrument.Session
import Instrument.Loading
import Instrument.Batch
import Instrument.Console.Folder
import Instrument.Main
import Instrument.Proofs.Pattern.Language
import Instrument.Proofs.Parameter.Admission
import Instrument.Proofs.Command.Arguments
import Instrument.Proofs.Session.Operation
import Instrument.Proofs.Parameter.Fragment
import Instrument.Proofs.Pattern.Search
import Instrument.Proofs.Reply.Form
import Instrument.Proofs.Number.Integer
import Instrument.Proofs.Parameter.RoundTrip
import Instrument.Proofs.Reply.RoundTrip
import Instrument.Proofs.Reader.Ending
import Instrument.Proofs.Reader.Chunking
import Instrument.Proofs.Reader.Framing
import Instrument.Proofs.Session.Observation
import Instrument.Proofs.Session.Submission
import Instrument.Proofs.Session.Connection
import Instrument.Proofs.Session.Admission
import Instrument.Proofs.Session.Agreement
import Instrument.Proofs.Text.Utf8
import Instrument.Proofs.Transport.Channel
import Instrument.Proofs.Transport.Isolation
import Instrument.Proofs.Transport.Listener
import Instrument.Proofs.Transport.Lawful
import Instrument.Proofs.Transport.Calls
import Instrument.Proofs.Transport.Attribution
import Instrument.Proofs.Transport.Answers
import Instrument.Proofs.Profile.Reload
import Instrument.Proofs.Schema.Respelling
import Instrument.Proofs.Profile.Validity
import Instrument.Proofs.Reply.Provenance
import Instrument.Proofs.Number.Digits
import Instrument.Proofs.WireFormat.Written
import Instrument.Proofs.Parameter.Legible
import Instrument.Proofs.DateFormat.Fields
import Instrument.Proofs.DateFormat.Pieces
import Instrument.Proofs.DateFormat.Reading
import Instrument.Proofs.DateFormat.Rendering
import Instrument.Proofs.Template.Places
import Instrument.Proofs.Reader.Deadline
import Instrument.Proofs.Reader.Burst
import Instrument.Proofs.Text.Case
import Instrument.Proofs.Session.Steps
import Instrument.Proofs.Console.Batch
import Instrument.Proofs.WireFormat.Alone
import Instrument.Proofs.Parameter.Lossless
import Instrument.Proofs.Number.Numerals
import Instrument.Proofs.Parameter.Matching
import Instrument.Proofs.WireFormat.Reals
import Instrument.Proofs.Number.Words
import Instrument.Proofs.Number.Rounding
import Instrument.Proofs.Parameter.Intervals
import Instrument.Proofs.Number.Quotients
import Instrument.Proofs.Number.Nearest
import Instrument.Proofs.Number.Shortest
import Instrument.Proofs.Parameter.Ranges
import Instrument.Proofs.DateFormat.Complete
import Instrument.Proofs.DateFormat.Matching
import Instrument.Proofs.DateFormat.Translation
import Instrument.Proofs.WireFormat.Grammar
import Instrument.Proofs.Parameter.Encoding
import Instrument.Proofs.WireFormat.Integers
import Instrument.Proofs.Number.Significant
import Instrument.Proofs.WireFormat.General
import Instrument.Proofs.Number.Positional
import Instrument.Proofs.Command.Lines
import Instrument.Proofs.Profile.Registries
import Instrument.Proofs.Reply.Substance
