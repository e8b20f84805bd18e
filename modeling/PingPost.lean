import PingPost.Auction.Bid
import PingPost.Auction.Id
import PingPost.Auction.Result
import PingPost.Auction.Status
import PingPost.Buyer.Auth
import PingPost.Buyer.Basic
import PingPost.Buyer.Registry
import PingPost.Buyer.Settings
import PingPost.Config.Basic
import PingPost.Crypto.Hmac
import PingPost.Crypto.Sha256
import PingPost.Decimal.Binary
import PingPost.Decimal.Shortest
import PingPost.Decimal.Text
import PingPost.Delivery.Basic
import PingPost.Exchange.Auction
import PingPost.Exchange.Backlog
import PingPost.Exchange.Basic
import PingPost.Exchange.Delivery
import PingPost.Exchange.Document
import PingPost.Exchange.Ping
import PingPost.Exchange.Requests
import PingPost.Exchange.Run
import PingPost.Exchange.Script
import PingPost.Http.Problem
import PingPost.Json.Codec
import PingPost.Json.Path
import PingPost.Json.Printer
import PingPost.Json.Reader
import PingPost.Json.Reading
import PingPost.Json.Value
import PingPost.Lead.Basic
import PingPost.Lead.Facts
import PingPost.Ledger.Basic
import PingPost.Monitor.Basic
import PingPost.Monitor.Threshold
import PingPost.Net.Address
import PingPost.Net.Domain
import PingPost.Net.Email
import PingPost.Net.Name
import PingPost.Net.NameTable
import PingPost.Net.Punycode
import PingPost.Net.Url
import PingPost.Pattern.Basic
import PingPost.Pattern.Bracket
import PingPost.Pattern.Escape
import PingPost.Pattern.Match
import PingPost.Pattern.OfText
import PingPost.Pattern.Program
import PingPost.Pattern.PropertyName
import PingPost.Pattern.Reader
import PingPost.Pattern.Removal
import PingPost.Phone.Number
import PingPost.Phone.Plan
import PingPost.Phone.PlanTable
import PingPost.Price.Basic
import PingPost.Proofs.Admission
import PingPost.Proofs.Amounts
import PingPost.Proofs.Answers
import PingPost.Proofs.Arithmetic
import PingPost.Proofs.Auction
import PingPost.Proofs.AuditTrail
import PingPost.Proofs.Authentication
import PingPost.Proofs.Backoff
import PingPost.Proofs.Binary64
import PingPost.Proofs.BookMoves
import PingPost.Proofs.Books
import PingPost.Proofs.Breakers
import PingPost.Proofs.Budget
import PingPost.Proofs.BuyerSeparation
import PingPost.Proofs.Calendar
import PingPost.Proofs.Calls
import PingPost.Proofs.CanonicalForms
import PingPost.Proofs.Cascade
import PingPost.Proofs.Clamp
import PingPost.Proofs.Codecs
import PingPost.Proofs.Coherence
import PingPost.Proofs.Completion
import PingPost.Proofs.Confluence
import PingPost.Proofs.Conservation
import PingPost.Proofs.Constraints
import PingPost.Proofs.Contract
import PingPost.Proofs.DateForms
import PingPost.Proofs.Documents
import PingPost.Proofs.DoubleSale
import PingPost.Proofs.Eligibility
import PingPost.Proofs.Failures
import PingPost.Proofs.Grid
import PingPost.Proofs.Handover
import PingPost.Proofs.Isolation
import PingPost.Proofs.LastingProperties
import PingPost.Proofs.Layouts
import PingPost.Proofs.LetterCase
import PingPost.Proofs.MappingOrder
import PingPost.Proofs.Matching
import PingPost.Proofs.Measurements
import PingPost.Proofs.Merging
import PingPost.Proofs.Metrics
import PingPost.Proofs.NormalForms
import PingPost.Proofs.Numerals
import PingPost.Proofs.Offers
import PingPost.Proofs.Orders
import PingPost.Proofs.Outcomes
import PingPost.Proofs.Paths
import PingPost.Proofs.Payload
import PingPost.Proofs.Pieces
import PingPost.Proofs.Pings
import PingPost.Proofs.Precedence
import PingPost.Proofs.Provenance
import PingPost.Proofs.Quoting
import PingPost.Proofs.Ranking
import PingPost.Proofs.Registration
import PingPost.Proofs.Removal
import PingPost.Proofs.Replay
import PingPost.Proofs.RetryCount
import PingPost.Proofs.Rounding
import PingPost.Proofs.Sale
import PingPost.Proofs.Sample
import PingPost.Proofs.Sanitizing
import PingPost.Proofs.Schedule
import PingPost.Proofs.Secrets
import PingPost.Proofs.Settlement
import PingPost.Proofs.SteadySweeps
import PingPost.Proofs.Sweep
import PingPost.Proofs.Timestamps
import PingPost.Proofs.TotalOrder
import PingPost.Proofs.Verdicts
import PingPost.Proofs.ZipCodes
import PingPost.Retry.Item
import PingPost.Retry.Policy
import PingPost.Table
import PingPost.Template.Aliases
import PingPost.Template.Basic
import PingPost.Template.Engine
import PingPost.Template.Error
import PingPost.Template.Evidence
import PingPost.Text.Age
import PingPost.Text.Blank
import PingPost.Text.Case
import PingPost.Text.CaseTable
import PingPost.Text.Category
import PingPost.Text.CharSet
import PingPost.Text.Class
import PingPost.Text.Composition
import PingPost.Text.Digits
import PingPost.Text.Direction
import PingPost.Text.Fold
import PingPost.Text.Hex
import PingPost.Text.Joining
import PingPost.Text.Property
import PingPost.Text.Script
import PingPost.Text.Segment
import PingPost.Text.Utf8
import PingPost.Time.Civil
import PingPost.Time.Instant
import PingPost.Time.Layout
import PingPost.Time.Text
import PingPost.Transform.Basic
import PingPost.Transform.Catalogue
import PingPost.Transform.Condition
import PingPost.Transform.Contact
import PingPost.Transform.Date
import PingPost.Transform.Number
import PingPost.Transform.Service
import PingPost.Transform.Text
import PingPost.Transform.Truth
import PingPost.Transport.Basic
import PingPost.Transport.Breaker
import PingPost.Transport.Client
import PingPost.Transport.World
import PingPost.Validation.Complaint
import PingPost.Validation.Form
import PingPost.Validation.Rule
import PingPost.Validation.Sanitize
import PingPost.Vocabulary.Basic
import PingPost.Vocabulary.Document
import PingPost.Vocabulary.Reading
import PingPost.Vocabulary.Standard
import PingPost.Webhook.Signature
