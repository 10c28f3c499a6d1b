import Gatehouse.Authority
import Gatehouse.Authority.Ceremonies
import Gatehouse.Authority.Server
import Gatehouse.Base64
import Gatehouse.Ceremony
import Gatehouse.Cipher.Keystream
import Gatehouse.Cipher.Sealed
import Gatehouse.Credential
import Gatehouse.Decimal
import Gatehouse.Entropy
import Gatehouse.Guard
import Gatehouse.Guard.Visit
import Gatehouse.Http.Folded
import Gatehouse.Http.Form
import Gatehouse.Http.MediaType
import Gatehouse.Http.Message
import Gatehouse.Http.SetCookie
import Gatehouse.Http.Target
import Gatehouse.Identity
import Gatehouse.Instant
import Gatehouse.Instant.Stamp
import Gatehouse.Json.Decode
import Gatehouse.Json.Fault
import Gatehouse.Json.Node
import Gatehouse.Json.Number
import Gatehouse.Json.Reader
import Gatehouse.Json.Value
import Gatehouse.Links
import Gatehouse.Octets
import Gatehouse.Operation
import Gatehouse.Operation.Tolerances
import Gatehouse.Presented
import Gatehouse.Proofs.Authority.Calls
import Gatehouse.Proofs.Authority.Ceremonies
import Gatehouse.Proofs.Authority.Counters
import Gatehouse.Proofs.Authority.Endings
import Gatehouse.Proofs.Authority.Enrollments
import Gatehouse.Proofs.Authority.Lifetimes
import Gatehouse.Proofs.Authority.Logins
import Gatehouse.Proofs.Authority.Logouts
import Gatehouse.Proofs.Authority.Outsiders
import Gatehouse.Proofs.Authority.Principals
import Gatehouse.Proofs.Authority.Recognition
import Gatehouse.Proofs.Authority.Requests
import Gatehouse.Proofs.Authority.Returns
import Gatehouse.Proofs.Authority.Routes
import Gatehouse.Proofs.Authority.Secrets
import Gatehouse.Proofs.Authority.Shedding
import Gatehouse.Proofs.Authority.Statements
import Gatehouse.Proofs.Authority.Visitors
import Gatehouse.Proofs.Cipher.Sealing
import Gatehouse.Proofs.Guard.Decision
import Gatehouse.Proofs.Guard.Forwarding
import Gatehouse.Proofs.Guard.Revocation
import Gatehouse.Proofs.Guard.Sorting
import Gatehouse.Proofs.Http.Cookies
import Gatehouse.Proofs.Http.Folding
import Gatehouse.Proofs.Http.Likeness
import Gatehouse.Proofs.Http.Listings
import Gatehouse.Proofs.Instant.Stamps
import Gatehouse.Proofs.Json.Acceptance
import Gatehouse.Proofs.Json.Gathering
import Gatehouse.Proofs.Json.Grammar
import Gatehouse.Proofs.Json.Numerals
import Gatehouse.Proofs.Json.Reading
import Gatehouse.Proofs.Json.Records
import Gatehouse.Proofs.Json.Spelling
import Gatehouse.Proofs.Json.Texts
import Gatehouse.Proofs.Operation.Entries
import Gatehouse.Proofs.Proxy.Checks
import Gatehouse.Proofs.Proxy.Exchange
import Gatehouse.Proofs.Proxy.Failures
import Gatehouse.Proofs.Proxy.Relaying
import Gatehouse.Proofs.Proxy.Upstream
import Gatehouse.Proofs.Proxy.Usernames
import Gatehouse.Proofs.Session.Ids
import Gatehouse.Proofs.Session.Taints
import Gatehouse.Proofs.Session.Weakening
import Gatehouse.Proofs.Store.Dealings
import Gatehouse.Proofs.Store.Effects
import Gatehouse.Proofs.Store.Integrity
import Gatehouse.Proofs.Store.Programs
import Gatehouse.Proofs.Store.Serial
import Gatehouse.Proofs.Store.Tries
import Gatehouse.Proofs.Store.UnitOfWork
import Gatehouse.Proofs.Text.Base64
import Gatehouse.Proofs.Text.Letters
import Gatehouse.Proofs.Text.Splitting
import Gatehouse.Proofs.Text.Tables
import Gatehouse.Proofs.Text.Utf8
import Gatehouse.Proofs.Token.Forms
import Gatehouse.Proofs.Token.Opening
import Gatehouse.Proofs.Token.Outcomes
import Gatehouse.Proofs.Token.Query
import Gatehouse.Proofs.Url.Characters
import Gatehouse.Proofs.Wire.Recovery
import Gatehouse.Provisional
import Gatehouse.Proxy.Check
import Gatehouse.Proxy.Client
import Gatehouse.Proxy.Inquiry
import Gatehouse.Proxy.Progress
import Gatehouse.Proxy.Server
import Gatehouse.Proxy.Verdict
import Gatehouse.Session
import Gatehouse.Session.Id
import Gatehouse.Session.Taints
import Gatehouse.Settings
import Gatehouse.Settings.Environment
import Gatehouse.Settings.Scalar
import Gatehouse.Store.Error
import Gatehouse.Store.Policy
import Gatehouse.Store.Retry
import Gatehouse.Store.Sharing
import Gatehouse.Store.State
import Gatehouse.Store.Transaction
import Gatehouse.Surroundings
import Gatehouse.Text.Blank
import Gatehouse.Text.Normal
import Gatehouse.Text.NormalTable
import Gatehouse.Text.Order
import Gatehouse.Text.Pieces
import Gatehouse.Text.Printable
import Gatehouse.Text.Quoted
import Gatehouse.Text.Ranges
import Gatehouse.Token.Envelope
import Gatehouse.Token.Key
import Gatehouse.Token.Payload
import Gatehouse.Url
import Gatehouse.Url.Domain
import Gatehouse.Url.DomainTable
import Gatehouse.Url.Host
import Gatehouse.Url.Label
import Gatehouse.Url.LabelTable
import Gatehouse.Url.Percent
import Gatehouse.Url.Punycode
import Gatehouse.Url.Reading
import Gatehouse.Wire.Account
import Gatehouse.Wire.Ceremony
import Gatehouse.Wire.Identity
import Gatehouse.Wire.Options
import Gatehouse.Wire.Status
import Gatehouse.Wire.Visit
