import Bearer.Config.Basic
import Bearer.Config.DotEnv
import Bearer.Config.Environment
import Bearer.Config.Error
import Bearer.Digest.Argon2
import Bearer.Digest.Blake2b
import Bearer.Digest.Blake3
import Bearer.Digest.Hmac
import Bearer.Digest.Sha256
import Bearer.Digest.Square
import Bearer.Digest.Words
import Bearer.Identity.Directory
import Bearer.Identity.Payload
import Bearer.Identity.Role
import Bearer.Json.Cursor
import Bearer.Json.Fault
import Bearer.Json.Numeral
import Bearer.Json.Printer
import Bearer.Json.Record
import Bearer.Json.Skipped
import Bearer.Json.Text
import Bearer.Json.Value
import Bearer.Json.Variant
import Bearer.Number.Binary64
import Bearer.Number.Shortest
import Bearer.Number.Width
import Bearer.Password.Comparator
import Bearer.Password.Phc
import Bearer.Proofs.Config.Acceptance
import Bearer.Proofs.Config.Environment
import Bearer.Proofs.Config.KeyText
import Bearer.Proofs.Config.Validity
import Bearer.Proofs.Identity.Payload
import Bearer.Proofs.Json.Layout
import Bearer.Proofs.Json.Numeral
import Bearer.Proofs.Json.Reads
import Bearer.Proofs.Json.Record
import Bearer.Proofs.Json.Skipped
import Bearer.Proofs.Json.Text
import Bearer.Proofs.Json.Yields
import Bearer.Proofs.Operation.Carried
import Bearer.Proofs.Operation.Course
import Bearer.Proofs.Operation.Exchange
import Bearer.Proofs.Operation.Fate
import Bearer.Proofs.Operation.Heard
import Bearer.Proofs.Operation.Heeding
import Bearer.Proofs.Operation.Performed
import Bearer.Proofs.Operation.Reaction
import Bearer.Proofs.Operation.Twins
import Bearer.Proofs.Password.Comparator
import Bearer.Proofs.Password.Phc
import Bearer.Proofs.Service.Calendar
import Bearer.Proofs.Service.Calls
import Bearer.Proofs.Service.Chain
import Bearer.Proofs.Service.Confined
import Bearer.Proofs.Service.Demand
import Bearer.Proofs.Service.Heeded
import Bearer.Proofs.Service.InMemory
import Bearer.Proofs.Service.InTime
import Bearer.Proofs.Service.Interrupted
import Bearer.Proofs.Service.Ledger
import Bearer.Proofs.Service.LifeCycle
import Bearer.Proofs.Service.Lifetimes
import Bearer.Proofs.Service.LogIn
import Bearer.Proofs.Service.Minting
import Bearer.Proofs.Service.Opening
import Bearer.Proofs.Service.Outlives
import Bearer.Proofs.Service.Overwritten
import Bearer.Proofs.Service.Pool
import Bearer.Proofs.Service.Retry
import Bearer.Proofs.Service.Secrets
import Bearer.Proofs.Service.Serving
import Bearer.Proofs.Service.SingleUse
import Bearer.Proofs.Service.Tampered
import Bearer.Proofs.Session.Agreement
import Bearer.Proofs.Session.Register
import Bearer.Proofs.Session.Rows
import Bearer.Proofs.Session.Shown
import Bearer.Proofs.Session.Uses
import Bearer.Proofs.Text.Base64
import Bearer.Proofs.Text.Canonical
import Bearer.Proofs.Text.Decimal
import Bearer.Proofs.Time.ManualClock
import Bearer.Proofs.Timed.Within
import Bearer.Proofs.Token.Classified
import Bearer.Proofs.Token.Codec
import Bearer.Proofs.Token.Encoded
import Bearer.Proofs.Token.Genuine
import Bearer.Proofs.Token.Rotation
import Bearer.Proofs.Token.RoundTrip
import Bearer.Proofs.Token.Sealed
import Bearer.Proofs.Token.Segments
import Bearer.Redis.Address
import Bearer.Redis.Client
import Bearer.Redis.Ipv6
import Bearer.Redis.Percent
import Bearer.Redis.Server
import Bearer.Redis.Sessions
import Bearer.Service.Calls
import Bearer.Service.Event
import Bearer.Service.LogIn
import Bearer.Service.Operation
import Bearer.Service.Tokens
import Bearer.Service.World
import Bearer.Session.Key
import Bearer.Session.Memory
import Bearer.Session.Store
import Bearer.Table
import Bearer.Text.Base64
import Bearer.Text.Blank
import Bearer.Text.CharClass
import Bearer.Text.Decimal
import Bearer.Text.Hex
import Bearer.Text.Letter
import Bearer.Text.Lossy
import Bearer.Text.Quoted
import Bearer.Text.Utf8
import Bearer.Text.Visible
import Bearer.Time.Clock
import Bearer.Time.Instant
import Bearer.Time.ManualClock
import Bearer.Time.Span
import Bearer.Timed.Basic
import Bearer.Timed.Context
import Bearer.Timed.Nested
import Bearer.Timed.Race
import Bearer.Token.Claims
import Bearer.Token.Error
import Bearer.Token.Header
import Bearer.Token.Identifier
import Bearer.Token.KeyParameters
import Bearer.Token.KeyRing
import Bearer.Token.Registered
import Bearer.Token.Signer
