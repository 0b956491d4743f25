import Deployer.Activity
import Deployer.Address
import Deployer.Client
import Deployer.Deployment
import Deployer.Duration
import Deployer.Endpoint
import Deployer.Error
import Deployer.Event
import Deployer.Exchange
import Deployer.FileTree
import Deployer.Json.Fault
import Deployer.Json.Lexeme
import Deployer.Json.Printer
import Deployer.Json.Reader
import Deployer.Json.Record
import Deployer.Json.Skip
import Deployer.Json.Value
import Deployer.Limiter
import Deployer.Log
import Deployer.Number.Binary64
import Deployer.Number.Shortest
import Deployer.Options
import Deployer.Proofs.Limiter.Window
import Deployer.Release
import Deployer.Reply
import Deployer.Retry
import Deployer.Script
import Deployer.ServiceError
import Deployer.Session
import Deployer.Settings
import Deployer.SettingsFile
import Deployer.Text.Base64
import Deployer.Text.Blank
import Deployer.Text.Bytes
import Deployer.Text.CodeTable
import Deployer.Text.Composition
import Deployer.Text.Direction
import Deployer.Text.Joining
import Deployer.Text.Mark
import Deployer.Text.Pieces
import Deployer.Text.Printable
import Deployer.Text.Quoted
import Deployer.Url.Authority
import Deployer.Url.Basic
import Deployer.Url.Domain
import Deployer.Url.DomainMapping
import Deployer.Url.FilePath
import Deployer.Url.Host
import Deployer.Url.Ipv4
import Deployer.Url.Ipv6
import Deployer.Url.Parse
import Deployer.Url.Path
import Deployer.Url.PercentCoding
import Deployer.Url.Punycode
import Deployer.Url.Reference
import Deployer.Url.Rooted
import Deployer.Proofs.Limiter.Bucket
import Deployer.Proofs.Activity.Invariant
import Deployer.Proofs.Session.Admission
import Deployer.Proofs.Retry.Course
import Deployer.Proofs.Retry.Cancellation
import Deployer.Proofs.Retry.Uncancelled
import Deployer.Proofs.Retry.Nesting
import Deployer.Proofs.Reply.Classification
import Deployer.Proofs.Activity.Timely
import Deployer.Proofs.Session.Unserved
import Deployer.Proofs.Retry.Log
import Deployer.Proofs.Retry.Polling
import Deployer.Proofs.Exchange.Conduct
import Deployer.Proofs.Json.Lexeme
import Deployer.Proofs.Limiter.Race
import Deployer.Proofs.Json.Value
import Deployer.Proofs.Json.Skip
import Deployer.Proofs.Json.Record
import Deployer.Proofs.Reply.Decoding
import Deployer.Proofs.Url.Encoding
import Deployer.Proofs.Url.Path
import Deployer.Proofs.Address.Normalization
import Deployer.Proofs.Address.Operation
import Deployer.Proofs.Address.Agreement
import Deployer.Proofs.Activity.Coupled
import Deployer.Proofs.Session.Tracing
import Deployer.Proofs.Session.Status
import Deployer.Proofs.Reply.Encoding
import Deployer.Proofs.Address.Authority
import Deployer.Proofs.Limiter.Greedy
import Deployer.Proofs.Session.Starvation
import Deployer.Proofs.Address.Appending
import Deployer.Proofs.Url.Addresses
import Deployer.Proofs.Url.Punycode
import Deployer.Proofs.Url.Labels
import Deployer.Proofs.Url.Settled
import Deployer.Proofs.Url.Rereading
import Deployer.Proofs.Url.Ideographs
import Deployer.Proofs.Address.Idempotence
import Deployer.Proofs.Options.Construction
import Deployer.Proofs.Options.Depth
import Deployer.Proofs.Json.Spelling
import Deployer.Proofs.Json.Numeral
import Deployer.Proofs.Json.Grammar
import Deployer.Proofs.Json.Printing
import Deployer.Proofs.Json.Filling
import Deployer.Proofs.Settings.Merge
import Deployer.Proofs.Json.Reading
import Deployer.Proofs.Deployment.Canonical
import Deployer.Proofs.Settings.Writing
import Deployer.Proofs.Exchange.Credentials
import Deployer.Proofs.Reply.Diagnosis
import Deployer.Proofs.Text.Excerpt
import Deployer.Proofs.Limiter.Words
