import TokenAuthority.Curve.Basic
import TokenAuthority.Curve.Named
import TokenAuthority.Digest.Hmac
import TokenAuthority.Digest.Sha256
import TokenAuthority.Failure
import TokenAuthority.Http.App
import TokenAuthority.Http.Exchange
import TokenAuthority.Http.Handler
import TokenAuthority.Http.Headers
import TokenAuthority.Http.Problem
import TokenAuthority.Http.Request
import TokenAuthority.Http.RequestId
import TokenAuthority.Http.Route
import TokenAuthority.Http.Status
import TokenAuthority.Http.Target
import TokenAuthority.Http.View
import TokenAuthority.Json.Basic
import TokenAuthority.Json.Encoding
import TokenAuthority.Json.Integer
import TokenAuthority.Json.Literal
import TokenAuthority.Json.Reader
import TokenAuthority.Json.Writer
import TokenAuthority.Key.Algorithm
import TokenAuthority.Key.Der
import TokenAuthority.Key.Format
import TokenAuthority.Key.Line
import TokenAuthority.Key.Loading
import TokenAuthority.Key.Pem
import TokenAuthority.Key.Unread
import TokenAuthority.Log.Event
import TokenAuthority.Log.Form
import TokenAuthority.Log.Level
import TokenAuthority.Log.Record
import TokenAuthority.Log.Template
import TokenAuthority.Machine
import TokenAuthority.Number.Binary64
import TokenAuthority.Number.DecimalReader
import TokenAuthority.Number.Modular
import TokenAuthority.Number.Numeral
import TokenAuthority.Number.Prime
import TokenAuthority.Number.Rounded
import TokenAuthority.Number.Shortest
import TokenAuthority.Octets.Base64
import TokenAuthority.Octets.Basic
import TokenAuthority.Octets.Utf8
import TokenAuthority.Proofs.Http.Concealment
import TokenAuthority.Proofs.Http.Identification
import TokenAuthority.Proofs.Http.Presenting
import TokenAuthority.Proofs.Http.RequestId
import TokenAuthority.Proofs.Http.Rotation
import TokenAuthority.Proofs.Http.Serving
import TokenAuthority.Proofs.Http.View
import TokenAuthority.Proofs.Http.Visit
import TokenAuthority.Proofs.Json.Data
import TokenAuthority.Proofs.Json.Float
import TokenAuthority.Proofs.Json.Integer
import TokenAuthority.Proofs.Json.Octets
import TokenAuthority.Proofs.Json.RoundTrip
import TokenAuthority.Proofs.Json.Text
import TokenAuthority.Proofs.Key.Loading
import TokenAuthority.Proofs.Key.Unread
import TokenAuthority.Proofs.Key.Unsupported
import TokenAuthority.Proofs.Libraries
import TokenAuthority.Proofs.Log.Record
import TokenAuthority.Proofs.Number.Binary64
import TokenAuthority.Proofs.Number.Decimal
import TokenAuthority.Proofs.Number.Hexadecimal
import TokenAuthority.Proofs.Number.Modular
import TokenAuthority.Proofs.Octets.Base64
import TokenAuthority.Proofs.Octets.Basic
import TokenAuthority.Proofs.Rsa.Signature
import TokenAuthority.Proofs.Service.Accepted
import TokenAuthority.Proofs.Service.Accounting
import TokenAuthority.Proofs.Service.Alignment
import TokenAuthority.Proofs.Service.Atomicity
import TokenAuthority.Proofs.Service.Call
import TokenAuthority.Proofs.Service.Chain
import TokenAuthority.Proofs.Service.ChainRun
import TokenAuthority.Proofs.Service.Classification
import TokenAuthority.Proofs.Service.Deadline
import TokenAuthority.Proofs.Service.Entries
import TokenAuthority.Proofs.Service.Exchange
import TokenAuthority.Proofs.Service.Expiry
import TokenAuthority.Proofs.Service.Finality
import TokenAuthority.Proofs.Service.Interchange
import TokenAuthority.Proofs.Service.Interleaving
import TokenAuthority.Proofs.Service.Interruption
import TokenAuthority.Proofs.Service.Isolation
import TokenAuthority.Proofs.Service.Issuing
import TokenAuthority.Proofs.Service.Ledger
import TokenAuthority.Proofs.Service.Plan
import TokenAuthority.Proofs.Service.Refinement
import TokenAuthority.Proofs.Service.Removal
import TokenAuthority.Proofs.Service.Rotation
import TokenAuthority.Proofs.Service.Run
import TokenAuthority.Proofs.Service.Session
import TokenAuthority.Proofs.Service.Standing
import TokenAuthority.Proofs.Service.Stillness
import TokenAuthority.Proofs.Service.StoreAccess
import TokenAuthority.Proofs.Service.StoreRun
import TokenAuthority.Proofs.Service.StoreShare
import TokenAuthority.Proofs.Service.StoreView
import TokenAuthority.Proofs.Settings.Environment
import TokenAuthority.Proofs.Settings.Failure
import TokenAuthority.Proofs.Settings.KeySource
import TokenAuthority.Proofs.Settings.Lifetime
import TokenAuthority.Proofs.Settings.Policy
import TokenAuthority.Proofs.Settings.Secret
import TokenAuthority.Proofs.Settings.Soundness
import TokenAuthority.Proofs.Store.Key
import TokenAuthority.Proofs.Store.Memory
import TokenAuthority.Proofs.Store.Paging
import TokenAuthority.Proofs.Store.Pattern
import TokenAuthority.Proofs.Store.PatternMeaning
import TokenAuthority.Proofs.Store.Remote
import TokenAuthority.Proofs.Store.Selection
import TokenAuthority.Proofs.Store.Share
import TokenAuthority.Proofs.Store.Table
import TokenAuthority.Proofs.Store.TimeLeft
import TokenAuthority.Proofs.Text.CodePoint
import TokenAuthority.Proofs.Time.Clock
import TokenAuthority.Proofs.Time.Lifetime
import TokenAuthority.Proofs.Time.Seconds
import TokenAuthority.Proofs.Token.Canonical
import TokenAuthority.Proofs.Token.Check
import TokenAuthority.Proofs.Token.Claims
import TokenAuthority.Proofs.Token.Compact
import TokenAuthority.Proofs.Token.Fault
import TokenAuthority.Proofs.Token.Id
import TokenAuthority.Proofs.Token.Identity
import TokenAuthority.Proofs.Token.Judgement
import TokenAuthority.Proofs.Token.Kinds
import TokenAuthority.Proofs.Token.Refresh
import TokenAuthority.Proofs.Token.Spelling
import TokenAuthority.Proofs.Token.UnreadKey
import TokenAuthority.Proofs.Token.Verification
import TokenAuthority.Proofs.User.Snapshot
import TokenAuthority.Rsa.Basic
import TokenAuthority.Rsa.Parts
import TokenAuthority.Rsa.Signature
import TokenAuthority.Service.Context
import TokenAuthority.Service.StoreAccess
import TokenAuthority.Service.TokenService
import TokenAuthority.Service.World
import TokenAuthority.Settings.Basic
import TokenAuthority.Settings.Environment
import TokenAuthority.Settings.Error
import TokenAuthority.Settings.FileTree
import TokenAuthority.Settings.Policy
import TokenAuthority.Store.Key
import TokenAuthority.Store.Memory
import TokenAuthority.Store.Pattern
import TokenAuthority.Store.Remote
import TokenAuthority.Store.Table
import TokenAuthority.Text.Blank
import TokenAuthority.Text.CodePoint
import TokenAuthority.Text.Digit
import TokenAuthority.Text.Literal
import TokenAuthority.Text.Printable
import TokenAuthority.Time.Calendar
import TokenAuthority.Time.Clock
import TokenAuthority.Time.Duration
import TokenAuthority.Token.Claims
import TokenAuthority.Token.Compact
import TokenAuthority.Token.Fault
import TokenAuthority.Token.Id
import TokenAuthority.Token.Identity
import TokenAuthority.Token.Refresh
import TokenAuthority.Token.Secret
import TokenAuthority.Token.UnreadKey
import TokenAuthority.User.Directory
import TokenAuthority.User.Snapshot
