import Dialogue.Answer.Branch
import Dialogue.Answer.Email
import Dialogue.Assoc
import Dialogue.Engine.Basic
import Dialogue.Engine.Conversation
import Dialogue.Engine.Event
import Dialogue.Engine.Failure
import Dialogue.Engine.Position
import Dialogue.Engine.Response
import Dialogue.Engine.Walk
import Dialogue.Flow.Audit
import Dialogue.Flow.Basic
import Dialogue.Flow.Document
import Dialogue.Flow.Dump
import Dialogue.Flow.Entry
import Dialogue.Journal
import Dialogue.Json.Display
import Dialogue.Json.Reader
import Dialogue.Json.Template
import Dialogue.Json.Token
import Dialogue.Json.Value
import Dialogue.Number.Binary64
import Dialogue.Number.Decimal
import Dialogue.Number.Numeral
import Dialogue.Number.Places
import Dialogue.Proofs.Reply
import Dialogue.Proofs.Audit
import Dialogue.Proofs.Escape
import Dialogue.Proofs.Reload
import Dialogue.Proofs.Agreement
import Dialogue.Proofs.Saving
import Dialogue.Proofs.Rest
import Dialogue.Proofs.Trimming
import Dialogue.Proofs.Turn
import Dialogue.Proofs.Walk
import Dialogue.Schema.Checked
import Dialogue.Schema.Field
import Dialogue.Schema.Problem
import Dialogue.Schema.Scalar
import Dialogue.Service.Basic
import Dialogue.Service.Chat
import Dialogue.Service.Tally
import Dialogue.Session.Basic
import Dialogue.Session.Record
import Dialogue.Settings
import Dialogue.Text.Blank
import Dialogue.Text.CodeUnits
import Dialogue.Text.Encoding
import Dialogue.Text.Lines
import Dialogue.Text.LowerTable
import Dialogue.Text.Lowercase
import Dialogue.Text.Printable
import Dialogue.Text.Quoted
import Dialogue.Text.Ranges
import Dialogue.Text.Shift
import Dialogue.Text.Standing
import Dialogue.Text.UpperTable
import Dialogue.Text.Uppercase
import Dialogue.Proofs.Lowering
import Dialogue.Proofs.Address
import Dialogue.Proofs.Answerable
import Dialogue.Proofs.Pruning
import Dialogue.Proofs.Collected
import Dialogue.Proofs.AddressField
import Dialogue.Proofs.Locality
import Dialogue.Proofs.Restart
import Dialogue.Proofs.NormalForm
import Dialogue.Proofs.Lifecycle
import Dialogue.Proofs.Accounts
import Dialogue.Proofs.Reprompt
import Dialogue.Proofs.Refinement
import Dialogue.Proofs.Storage
import Dialogue.Proofs.Trail
import Dialogue.Proofs.Completion
import Dialogue.Proofs.Failing
import Dialogue.Proofs.Portions
import Dialogue.Proofs.Truncation
import Dialogue.Proofs.Opening
import Dialogue.Proofs.StartFindings
import Dialogue.Proofs.Grammar
import Dialogue.Proofs.Sigma
import Dialogue.Proofs.Containing
import Dialogue.Proofs.Offering
import Dialogue.Proofs.Recasing
import Dialogue.Proofs.Lowered
import Dialogue.Proofs.Onward
import Dialogue.Proofs.StepId
import Dialogue.Proofs.Reordering
import Dialogue.Proofs.Renaming
import Dialogue.Proofs.NodeByNode
import Dialogue.Proofs.Spelling
import Dialogue.Proofs.Overrun
import Dialogue.Proofs.Shape
import Dialogue.Proofs.Log
