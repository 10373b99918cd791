import Runbook.Condition
import Runbook.Data
import Runbook.Decimal.Places
import Runbook.Decimal.Reading
import Runbook.Decimal.Shortest
import Runbook.Definition
import Runbook.Definition.Decoding
import Runbook.Dependency
import Runbook.Double
import Runbook.Engine
import Runbook.Entries
import Runbook.ExecutionLog
import Runbook.Executor
import Runbook.Executor.Outline
import Runbook.Executor.Standard
import Runbook.Failure
import Runbook.Failure.Notice
import Runbook.Instant
import Runbook.Interaction
import Runbook.Json.Reader
import Runbook.Json.Strict
import Runbook.Json.Token
import Runbook.Json.Writer
import Runbook.Log
import Runbook.Log.Console
import Runbook.Log.Format
import Runbook.Log.Policy
import Runbook.Main
import Runbook.Network.Address
import Runbook.Network.Coding
import Runbook.Network.Coding.Inflate
import Runbook.Network.CompletionClient
import Runbook.Network.Cookie
import Runbook.Network.Cookie.Expiry
import Runbook.Network.Exchange
import Runbook.Network.Headers
import Runbook.Network.Hostname
import Runbook.Network.Hostname.Letters
import Runbook.Network.HttpClient
import Runbook.Network.MediaType
import Runbook.Network.Reference
import Runbook.Network.Session
import Runbook.Network.StatusCode
import Runbook.Notification
import Runbook.Notification.Delivery
import Runbook.Notification.Mail
import Runbook.Notification.Mail.Header
import Runbook.Notification.Manager
import Runbook.Number
import Runbook.Orchestrator
import Runbook.Record
import Runbook.Proofs.Dependency.Grounded
import Runbook.Proofs.Dependency.Reference
import Runbook.Proofs.Dependency.Search
import Runbook.Proofs.Schedule
import Runbook.Proofs.Schedule.Least
import Runbook.Recorder
import Runbook.Registry
import Runbook.Rehearsal
import Runbook.Rehearsal.Network
import Runbook.Request
import Runbook.Schedule
import Runbook.Schema
import Runbook.Settings
import Runbook.Store.Catalogue
import Runbook.Store.Column
import Runbook.Store.Demo
import Runbook.Store.ExecutionTable
import Runbook.Template
import Runbook.Text.Base64
import Runbook.Text.Blank
import Runbook.Text.Case
import Runbook.Text.Charset
import Runbook.Text.Charset.ByteSet
import Runbook.Text.Code
import Runbook.Text.Digit
import Runbook.Text.Lines
import Runbook.Text.Percent
import Runbook.Text.Printable
import Runbook.Text.Punycode
import Runbook.Text.Ranges
import Runbook.Text.Utf8
import Runbook.Text.Word
import Runbook.Transformation
import Runbook.Value
import Runbook.Value.Equality
import Runbook.Value.Literal
import Runbook.Value.Order
import Runbook.Web.Form
import Runbook.Web.Message
import Runbook.Web.Origins
import Runbook.Web.PathPattern
import Runbook.Web.Route
import Runbook.Web.Site
import Runbook.Proofs.Definition
import Runbook.Proofs.Engine.Reach
import Runbook.Proofs.Executor.Guard
import Runbook.Proofs.Record
import Runbook.Proofs.Engine.Loading
import Runbook.Proofs.Engine.Ending
import Runbook.Proofs.Executor.Standard
import Runbook.Proofs.Transformation
import Runbook.Proofs.Engine.Requester
import Runbook.Proofs.Engine.Isolation
import Runbook.Proofs.Recorder
import Runbook.Proofs.Data
import Runbook.Proofs.Template
import Runbook.Proofs.Template.Layout
import Runbook.Proofs.Engine.Stop
import Runbook.Proofs.Engine.Recording
import Runbook.Proofs.Engine.WriteBack
import Runbook.Proofs.Engine.Circle
import Runbook.Proofs.Engine.Results
import Runbook.Proofs.Json.Strict
import Runbook.Proofs.Web.Site
import Runbook.Proofs.Interaction.Agreement
import Runbook.Proofs.Executor.Agreement
import Runbook.Proofs.Engine.Noninterference
import Runbook.Proofs.Engine.Truncation
import Runbook.Proofs.Engine.Reordering
import Runbook.Proofs.Engine.Warning
import Runbook.Proofs.Engine.Folding
import Runbook.Proofs.Engine.Traffic
import Runbook.Proofs.Executor.Disclosure
import Runbook.Proofs.Engine.Action
import Runbook.Proofs.Engine.Interleaving
import Runbook.Proofs.Web.Submission
import Runbook.Proofs.Schema
import Runbook.Proofs.Definition.Reporting
import Runbook.Proofs.Schema.Congruence
import Runbook.Proofs.Definition.Spelling
import Runbook.Proofs.Text.Code
import Runbook.Proofs.Store.Column
import Runbook.Proofs.Store.Catalogue
import Runbook.Proofs.Store.ExecutionTable
import Runbook.Proofs.Dependency.Cycle
import Runbook.Proofs.Json.Quotation
import Runbook.Proofs.Json.Writer
import Runbook.Proofs.Json.Encodable
import Runbook.Proofs.Json.Reader
import Runbook.Proofs.Transformation.Grouping
import Runbook.Proofs.Transformation.GroupKey
import Runbook.Proofs.Transformation.Mapping
import Runbook.Proofs.Number
import Runbook.Proofs.Value.Equality
import Runbook.Proofs.Value.Order
import Runbook.Proofs.Condition
import Runbook.Proofs.Record.History
import Runbook.Proofs.Executor.Deadline
import Runbook.Proofs.Dependency.Rounds
import Runbook.Proofs.Network.Address
import Runbook.Proofs.Network.Session
import Runbook.Proofs.Network.Wording
import Runbook.Proofs.Notification.Slack
import Runbook.Proofs.Notification.Refusal
import Runbook.Proofs.Notification.Manager
