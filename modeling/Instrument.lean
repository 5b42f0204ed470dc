import Instrument.Call.Argument
import Instrument.Call.Decode
import Instrument.Call.Dialogue
import Instrument.Call.Encode
import Instrument.Call.Reply
import Instrument.CommandLine.Generate
import Instrument.CommandLine.Outcome
import Instrument.CommandLine.Serve
import Instrument.Decimal.FloatText
import Instrument.Decimal.Shortest
import Instrument.Device.Backing
import Instrument.Device.Basic
import Instrument.Device.Control
import Instrument.Device.Fleet
import Instrument.Device.Registers
import Instrument.Device.Scripted
import Instrument.Device.Window
import Instrument.Discovery
import Instrument.Envelope
import Instrument.Error
import Instrument.File.Path
import Instrument.File.Tree
import Instrument.Generator.Artifact
import Instrument.Generator.Marshal
import Instrument.Generator.Program
import Instrument.Generator.Run
import Instrument.Generator.Settings
import Instrument.Generator.SettingsText
import Instrument.Header.Declaration
import Instrument.Header.Method
import Instrument.Header.Parser
import Instrument.Header.Token
import Instrument.Interface.Describe
import Instrument.Interface.DeviceTable
import Instrument.Interface.Error
import Instrument.Interface.Layout
import Instrument.Interface.LengthExpression
import Instrument.Interface.Operation
import Instrument.Interface.Pragma
import Instrument.Json.Parser
import Instrument.Json.Printer
import Instrument.Json.Tree
import Instrument.Json.Value
import Instrument.Main
import Instrument.Network.Client
import Instrument.Network.Connection
import Instrument.Network.Registry
import Instrument.Network.Server
import Instrument.Network.Session
import Instrument.Signature.Catalogue
import Instrument.Signature.Document
import Instrument.SystemError
import Instrument.Text.Blank
import Instrument.Text.Case
import Instrument.Text.CodePoint
import Instrument.Text.Hidden
import Instrument.Text.Letter
import Instrument.Text.Number
import Instrument.Text.Quoted
import Instrument.Text.Utf8
import Instrument.Wire.Bytes
import Instrument.Wire.Elements
import Instrument.Wire.Payload
import Instrument.Wire.Scalar
import Instrument.Wire.ScalarType
import Instrument.Wire.TupleFormat
import Instrument.WireType
import Instrument.Proofs.Call.Transcript
import Instrument.Proofs.Interface.Described
import Instrument.Proofs.Interface.Plan
import Instrument.Proofs.Interface.Layout
import Instrument.Proofs.Call.Passing
import Instrument.Proofs.Call.Receiving
import Instrument.Proofs.Call.Decoding
import Instrument.Proofs.Call.Refusal
import Instrument.Proofs.Text.Utf8
import Instrument.Proofs.Network.Stream
import Instrument.Proofs.Network.Yields
import Instrument.Proofs.Network.Request
import Instrument.Proofs.Network.Lockstep
import Instrument.Proofs.Envelope
import Instrument.Proofs.Network.RoundTrip
import Instrument.Proofs.Call.Conforming
import Instrument.Proofs.Network.Replies
import Instrument.Proofs.Network.TextReplies
import Instrument.Proofs.Network.Alignment
import Instrument.Proofs.Call.Interruption
import Instrument.Proofs.Network.Activity
import Instrument.Proofs.Network.Truncation
import Instrument.Proofs.Device.Fleet
import Instrument.Proofs.Network.Accounts
import Instrument.Proofs.Network.Isolation
import Instrument.Proofs.Header.Lines
import Instrument.Proofs.Header.Lookahead.Bodies
import Instrument.Proofs.Header.Lookahead.Members
import Instrument.Proofs.Header.Lookahead.Places
import Instrument.Proofs.Header.Lookahead.Skipping
import Instrument.Proofs.Header.Declarations
import Instrument.Proofs.Header.Deletion
import Instrument.Proofs.Network.Handshake
import Instrument.Proofs.Network.Serving
import Instrument.Proofs.Network.RefusedTransfer
import Instrument.Proofs.Interface.Numbering
import Instrument.Proofs.Interface.OperationNames
import Instrument.Proofs.Discovery
import Instrument.Proofs.Header.Names
import Instrument.Proofs.Interface.DeviceNames
import Instrument.Proofs.Interface.Signatures
import Instrument.Proofs.Header.Annotated
import Instrument.Proofs.Interface.Annotation
import Instrument.Proofs.Interface.WrittenHeader
import Instrument.Proofs.Network.Queue
import Instrument.Proofs.Network.FetchedTable
import Instrument.Proofs.Interface.Views
import Instrument.Proofs.Generator.Rebuilding
import Instrument.Proofs.Generator.Generating
import Instrument.Proofs.Device.WindowRuns
import Instrument.Proofs.Signature.Document
import Instrument.Proofs.Call.Outcome
import Instrument.Proofs.Network.Latch
import Instrument.Proofs.Network.RepeatedRequest
import Instrument.Proofs.Network.Messages
import Instrument.Proofs.Network.Moves
import Instrument.Proofs.Call.Advancing
import Instrument.Proofs.Network.Readiness
import Instrument.Proofs.Network.Conversation
import Instrument.Proofs.Network.Taking
import Instrument.Proofs.Network.SharedServer
import Instrument.Proofs.Network.Rounds
import Instrument.Proofs.Network.InOrder
import Instrument.Proofs.Interface.Parameters
import Instrument.Proofs.Interface.TypeWords
import Instrument.Proofs.Interface.WellFormed
import Instrument.Proofs.Call.ParameterNames
import Instrument.Proofs.Call.DeclarationOrder
import Instrument.Proofs.Device.AcceptedBuffer
import Instrument.Proofs.Generator.FileNames
import Instrument.Proofs.Header.Attributes
import Instrument.Proofs.Header.InlineBodies
import Instrument.Proofs.Header.Lexemes
import Instrument.Proofs.Header.Comments
import Instrument.Proofs.Interface.CommentedLines
import Instrument.Proofs.Interface.Commented
import Instrument.Proofs.Network.Commands
import Instrument.Proofs.Wire.Payload
import Instrument.Proofs.Wire.Tuples
import Instrument.Proofs.Interface.Classified
import Instrument.Proofs.Network.Bookkeeping
import Instrument.Proofs.RowPositions
import Instrument.Proofs.CommandLine.GeneratorSettings
import Instrument.Proofs.Header.ByPosition.Loop
import Instrument.Proofs.Header.ByPosition.Tokens
import Instrument.Proofs.Header.ByPosition.Method
import Instrument.Proofs.Header.ByPosition.Skipping
import Instrument.Proofs.Header.ByPosition.Classes
import Instrument.Proofs.Text.Lines
import Instrument.Proofs.Interface.LengthExpression
import Instrument.Proofs.Header.PhysicalLines
import Instrument.Proofs.Interface.PhysicalLines
