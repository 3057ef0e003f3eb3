import BrowserFlow.Action
import BrowserFlow.Callback
import BrowserFlow.Chain
import BrowserFlow.Config.BlockText
import BrowserFlow.Config.Document
import BrowserFlow.Config.DocumentError
import BrowserFlow.Config.Moment
import BrowserFlow.Config.Node
import BrowserFlow.Config.Quotation
import BrowserFlow.Config.Scalar
import BrowserFlow.Config.VariableFile
import BrowserFlow.Config.Variables
import BrowserFlow.Context
import BrowserFlow.Decimal.Layout
import BrowserFlow.Decimal.Reader
import BrowserFlow.Decimal.Shortest
import BrowserFlow.Driver.Basic
import BrowserFlow.Driver.Call
import BrowserFlow.Event
import BrowserFlow.Failure.Basic
import BrowserFlow.Failure.ErrorClass
import BrowserFlow.Failure.Kind
import BrowserFlow.Failure.Raised
import BrowserFlow.Failure.Making
import BrowserFlow.Indexing
import BrowserFlow.ItemStore
import BrowserFlow.Locator
import BrowserFlow.Log.Line
import BrowserFlow.Log.Record
import BrowserFlow.Log.Stream
import BrowserFlow.Number
import BrowserFlow.Numeral
import BrowserFlow.Proc
import BrowserFlow.Redaction
import BrowserFlow.Rehearsal.Catalog
import BrowserFlow.Rehearsal.Element
import BrowserFlow.Rehearsal.Given
import BrowserFlow.Rehearsal.Handling
import BrowserFlow.Rehearsal.Page
import BrowserFlow.Rehearsal.PageDriver
import BrowserFlow.Rehearsal.Performance
import BrowserFlow.Rehearsal.Plan
import BrowserFlow.Rehearsal.RemotePage
import BrowserFlow.Rehearsal.Request
import BrowserFlow.Rehearsal.Signature
import BrowserFlow.Remote.Command
import BrowserFlow.Remote.Driver
import BrowserFlow.Remote.Keys
import BrowserFlow.Remote.Lookup
import BrowserFlow.Remote.Start
import BrowserFlow.Remote.Work
import BrowserFlow.Selector
import BrowserFlow.Session.Brand
import BrowserFlow.Session.HostAddress
import BrowserFlow.Session.Lifetime
import BrowserFlow.Session.StartUrl
import BrowserFlow.Settings.Basic
import BrowserFlow.Settings.Coercion
import BrowserFlow.Settings.Configuration
import BrowserFlow.Settings.Sources
import BrowserFlow.Sink
import BrowserFlow.Step
import BrowserFlow.StepLine
import BrowserFlow.Steps.Act
import BrowserFlow.Steps.Assert
import BrowserFlow.Steps.Branch
import BrowserFlow.Steps.Filter
import BrowserFlow.Steps.Find
import BrowserFlow.Steps.Handover
import BrowserFlow.Steps.Probe
import BrowserFlow.Steps.Retry
import BrowserFlow.Text.Base64
import BrowserFlow.Text.Blank
import BrowserFlow.Text.Case
import BrowserFlow.Text.CaseContext
import BrowserFlow.Text.Digit
import BrowserFlow.Text.Json
import BrowserFlow.Text.LineEnd
import BrowserFlow.Text.Printable
import BrowserFlow.Text.Quoted
import BrowserFlow.Text.Search
import BrowserFlow.Value
import BrowserFlow.Value.Order
import BrowserFlow.Value.Part
import BrowserFlow.Proofs.Accompanying
import BrowserFlow.Proofs.Acting
import BrowserFlow.Proofs.AllOrNothing
import BrowserFlow.Proofs.Attempts
import BrowserFlow.Proofs.Backoff
import BrowserFlow.Proofs.Cancelling
import BrowserFlow.Proofs.Characters
import BrowserFlow.Proofs.Choosing
import BrowserFlow.Proofs.Classifying
import BrowserFlow.Proofs.Combining
import BrowserFlow.Proofs.Composing
import BrowserFlow.Proofs.Configuring
import BrowserFlow.Proofs.Dealing
import BrowserFlow.Proofs.Discretion
import BrowserFlow.Proofs.Escaping
import BrowserFlow.Proofs.Exchanges
import BrowserFlow.Proofs.Execution
import BrowserFlow.Proofs.Faults
import BrowserFlow.Proofs.Finding
import BrowserFlow.Proofs.Flow
import BrowserFlow.Proofs.Framing
import BrowserFlow.Proofs.Guarding
import BrowserFlow.Proofs.Hearing
import BrowserFlow.Proofs.Inheriting
import BrowserFlow.Proofs.Keeping
import BrowserFlow.Proofs.Leeway
import BrowserFlow.Proofs.Likeness
import BrowserFlow.Proofs.Lingering
import BrowserFlow.Proofs.Loading
import BrowserFlow.Proofs.Logging
import BrowserFlow.Proofs.Looping
import BrowserFlow.Proofs.Masking
import BrowserFlow.Proofs.Matching
import BrowserFlow.Proofs.Nesting
import BrowserFlow.Proofs.ObjectNotation
import BrowserFlow.Proofs.Opening
import BrowserFlow.Proofs.OwnErrors
import BrowserFlow.Proofs.PageValues
import BrowserFlow.Proofs.Pairing
import BrowserFlow.Proofs.Parting
import BrowserFlow.Proofs.PathBranches
import BrowserFlow.Proofs.Pausing
import BrowserFlow.Proofs.Precedence
import BrowserFlow.Proofs.Printing
import BrowserFlow.Proofs.Probing
import BrowserFlow.Proofs.Redacting
import BrowserFlow.Proofs.Regardless
import BrowserFlow.Proofs.Relaying
import BrowserFlow.Proofs.Releasing
import BrowserFlow.Proofs.Reloading
import BrowserFlow.Proofs.RemoteErrors
import BrowserFlow.Proofs.RemoteWork
import BrowserFlow.Proofs.Reporting
import BrowserFlow.Proofs.Retrying
import BrowserFlow.Proofs.Retyping
import BrowserFlow.Proofs.Running
import BrowserFlow.Proofs.SessionErrors
import BrowserFlow.Proofs.SettingUp
import BrowserFlow.Proofs.Settling
import BrowserFlow.Proofs.Sizing
import BrowserFlow.Proofs.Soundness
import BrowserFlow.Proofs.Stopping
import BrowserFlow.Proofs.Tagging
import BrowserFlow.Proofs.Telling
import BrowserFlow.Proofs.Tracing
import BrowserFlow.Proofs.Tree
import BrowserFlow.Proofs.Twinning
import BrowserFlow.Proofs.Typing
import BrowserFlow.Proofs.Varying
import BrowserFlow.Proofs.Veiling
import BrowserFlow.Proofs.Visiting
import BrowserFlow.Proofs.Work
