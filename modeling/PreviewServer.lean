import PreviewServer.Command
import PreviewServer.Config
import PreviewServer.Error
import PreviewServer.Files.RequestPath
import PreviewServer.Files.Service
import PreviewServer.Files.Tree
import PreviewServer.Http.ByteRange
import PreviewServer.Http.Date
import PreviewServer.Http.Finish
import PreviewServer.Http.Header
import PreviewServer.Http.MediaType
import PreviewServer.Http.Message
import PreviewServer.Http.Status
import PreviewServer.Http.Target
import PreviewServer.Log
import PreviewServer.Main
import PreviewServer.Net.Address
import PreviewServer.Net.Listener
import PreviewServer.Net.Port
import PreviewServer.Override
import PreviewServer.Policy
import PreviewServer.Proofs.AddressText
import PreviewServer.Proofs.Arguments
import PreviewServer.Proofs.Binding
import PreviewServer.Proofs.Changes
import PreviewServer.Proofs.Characters
import PreviewServer.Proofs.CommandTrace
import PreviewServer.Proofs.Confinement
import PreviewServer.Proofs.FaultCondition
import PreviewServer.Proofs.Faults
import PreviewServer.Proofs.Idempotence
import PreviewServer.Proofs.Layers
import PreviewServer.Proofs.Messages
import PreviewServer.Proofs.NormalForm
import PreviewServer.Proofs.Numerals
import PreviewServer.Proofs.Offenders
import PreviewServer.Proofs.PassThrough
import PreviewServer.Proofs.PortGrammar
import PreviewServer.Proofs.Preflight
import PreviewServer.Proofs.Reports
import PreviewServer.Proofs.RequestLog
import PreviewServer.Proofs.RequestTargets
import PreviewServer.Proofs.ResponseHeaders
import PreviewServer.Proofs.RuleOrder
import PreviewServer.Proofs.Session
import PreviewServer.Proofs.Suggestions
import PreviewServer.Proofs.Validation
import PreviewServer.Router
import PreviewServer.Server
import PreviewServer.Text.Blanks
import PreviewServer.Text.Case
import PreviewServer.Text.Decimal
import PreviewServer.Text.Printable
import PreviewServer.Text.Quoted
import PreviewServer.Text.Utf8
