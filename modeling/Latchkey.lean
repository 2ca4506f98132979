import Latchkey.Act
import Latchkey.Bytes
import Latchkey.Command.Args
import Latchkey.Command.Generate
import Latchkey.Command.Help
import Latchkey.Command.Run
import Latchkey.Crypto.ChaCha
import Latchkey.Crypto.Entropy
import Latchkey.Crypto.Hasher
import Latchkey.Crypto.Sha256
import Latchkey.Decimal.Binary64
import Latchkey.Decimal.Read
import Latchkey.Decimal.Shortest
import Latchkey.Decimal.Style
import Latchkey.Drill.Basic
import Latchkey.Drill.Parts
import Latchkey.Drill.Read
import Latchkey.Drill.RedisServer
import Latchkey.Drill.Script
import Latchkey.Drill.Spec
import Latchkey.Error
import Latchkey.Json.Basic
import Latchkey.Json.Decode
import Latchkey.Json.Draft
import Latchkey.Json.Lexer
import Latchkey.Json.Number
import Latchkey.Json.Printer
import Latchkey.Json.Reader
import Latchkey.Key.Generator
import Latchkey.Key.Id
import Latchkey.Key.Memory
import Latchkey.Key.Metadata
import Latchkey.Key.Record
import Latchkey.Key.Request
import Latchkey.Key.Store
import Latchkey.Limit.Amount
import Latchkey.Limit.Bucket
import Latchkey.Limit.Memory
import Latchkey.Limit.Rule
import Latchkey.Limit.Store
import Latchkey.Limit.Window
import Latchkey.Main
import Latchkey.Plugin.Basic
import Latchkey.Plugin.BuiltIn
import Latchkey.Plugin.Capability
import Latchkey.Plugin.Pipeline
import Latchkey.Plugin.RateLimits
import Latchkey.Plugin.UsageLimits
import Latchkey.Postgres.Config
import Latchkey.Postgres.Store
import Latchkey.Proofs.Action
import Latchkey.Proofs.Key.Consistency
import Latchkey.Proofs.Key.Descent
import Latchkey.Proofs.Key.Write
import Latchkey.Proofs.Limit.Memory
import Latchkey.Proofs.Limit.Window
import Latchkey.Proofs.Plugin.BuiltIn
import Latchkey.Proofs.Plugin.Pipeline
import Latchkey.Proofs.Plugin.RateLimit
import Latchkey.Proofs.Plugin.Turns
import Latchkey.Proofs.Service.Course
import Latchkey.Proofs.Service.Creation
import Latchkey.Proofs.Service.Frame
import Latchkey.Proofs.Service.Issued
import Latchkey.Proofs.Service.RateLimit
import Latchkey.Proofs.Service.Revocation
import Latchkey.Proofs.Service.Run
import Latchkey.Proofs.Service.Verify
import Latchkey.Proofs.Service.World
import Latchkey.Proofs.Time.Instant
import Latchkey.Redis.Config
import Latchkey.Redis.Server
import Latchkey.Redis.Store
import Latchkey.Redis.Wire
import Latchkey.Service.Assembly
import Latchkey.Service.Basic
import Latchkey.Service.Config
import Latchkey.Service.Event
import Latchkey.Service.Issue
import Latchkey.Service.Lifecycle
import Latchkey.Service.Outline
import Latchkey.Service.Sweep
import Latchkey.Service.Verify
import Latchkey.Service.World
import Latchkey.Settings.Basic
import Latchkey.Settings.Decode
import Latchkey.Settings.Fault
import Latchkey.Settings.Load
import Latchkey.Settings.Path
import Latchkey.Settings.Plain
import Latchkey.Settings.Value
import Latchkey.Table
import Latchkey.Text.Base64
import Latchkey.Text.Blank
import Latchkey.Text.Cased
import Latchkey.Text.Crockford
import Latchkey.Text.Hex
import Latchkey.Text.Lower
import Latchkey.Text.Outline
import Latchkey.Text.Pad
import Latchkey.Text.Printable
import Latchkey.Text.Quoted
import Latchkey.Text.Utf8
import Latchkey.Text.Uuid
import Latchkey.Time.Calendar
import Latchkey.Time.Instant
import Latchkey.Time.Text
import Latchkey.Url.Address
import Latchkey.Url.Basic
import Latchkey.Url.Direction
import Latchkey.Url.Domain
import Latchkey.Url.DomainCharacters
import Latchkey.Url.Host
import Latchkey.Url.Joining
import Latchkey.Url.Path
import Latchkey.Url.Percent
import Latchkey.Url.Punycode
import Latchkey.Url.Reader
import Latchkey.Proofs.Service.Stages
import Latchkey.Proofs.Key.Uses
import Latchkey.Proofs.Service.Budget
import Latchkey.Proofs.Limit.Request
import Latchkey.Proofs.Limit.WindowThread
import Latchkey.Proofs.Limit.Refill
import Latchkey.Proofs.Limit.BucketThread
import Latchkey.Proofs.Limit.Flow
import Latchkey.Proofs.Limit.Credit
import Latchkey.Proofs.Limit.Asking
import Latchkey.Proofs.Limit.Admission
import Latchkey.Proofs.Key.Expiry
import Latchkey.Proofs.Service.AutoDelete
import Latchkey.Proofs.Service.Change
import Latchkey.Proofs.Service.Failures
import Latchkey.Proofs.Service.Journal
import Latchkey.Proofs.Service.Sweep
import Latchkey.Proofs.Key.Format
import Latchkey.Proofs.Limit.Footprint
import Latchkey.Proofs.Text.Pad
import Latchkey.Proofs.Time.Calendar
import Latchkey.Proofs.Time.Text
import Latchkey.Proofs.Plugin.InMemory
import Latchkey.Proofs.Service.Footprint
import Latchkey.Proofs.Service.DigestOnly
import Latchkey.Proofs.Key.Standing
import Latchkey.Proofs.Service.EventLog
import Latchkey.Proofs.Service.Accounting
import Latchkey.Proofs.Limit.Peek
import Latchkey.Proofs.Limit.Reached
import Latchkey.Proofs.Limit.Bounds
import Latchkey.Proofs.Decimal.Nearest
import Latchkey.Proofs.Decimal.Value
import Latchkey.Proofs.Decimal.Rounding
import Latchkey.Proofs.Decimal.Arithmetic
import Latchkey.Proofs.Limit.Doubles
import Latchkey.Proofs.Limit.Retry
import Latchkey.Proofs.Limit.Served
import Latchkey.Proofs.Limit.Recorded
import Latchkey.Proofs.Plugin.BucketCheck
import Latchkey.Proofs.Limit.Account
import Latchkey.Proofs.Plugin.Verdict
import Latchkey.Proofs.Plugin.Owners
import Latchkey.Proofs.Service.Override
import Latchkey.Proofs.Redis.Lifetime
import Latchkey.Proofs.Redis.Redaction
import Latchkey.Proofs.Text.Preimages
import Latchkey.Proofs.Key.Drawing
import Latchkey.Proofs.Key.Body
import Latchkey.Proofs.Command.Minted
import Latchkey.Proofs.Plugin.Veto
import Latchkey.Proofs.Limit.Pruning
import Latchkey.Proofs.Redis.Names
import Latchkey.Proofs.Crypto.Hasher
import Latchkey.Proofs.Key.Names
