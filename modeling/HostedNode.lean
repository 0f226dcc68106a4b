import HostedNode.Bits
import HostedNode.Cli.Args
import HostedNode.Cli.Console
import HostedNode.Cli.Failure
import HostedNode.Cli.Flow
import HostedNode.Cli.Run
import HostedNode.Config
import HostedNode.Credentials
import HostedNode.Curve.Ecdsa
import HostedNode.Curve.Modular
import HostedNode.Curve.Point
import HostedNode.Decimal.Double
import HostedNode.Decimal.Duration
import HostedNode.Decimal.Format
import HostedNode.Decimal.Nearest
import HostedNode.Decimal.Shortest
import HostedNode.Disk.Basic
import HostedNode.Disk.Path
import HostedNode.Environment
import HostedNode.Hash.Hmac
import HostedNode.Hash.Ripemd160
import HostedNode.Hash.Sha2
import HostedNode.Http.Exchange
import HostedNode.Http.Header
import HostedNode.Http.Status
import HostedNode.Http.Url
import HostedNode.Json.Basic
import HostedNode.Json.Coded
import HostedNode.Json.Decode
import HostedNode.Json.Number
import HostedNode.Json.Printer
import HostedNode.Json.Reader
import HostedNode.Key.Derivation
import HostedNode.Key.Signer
import HostedNode.Log.Entry
import HostedNode.Log.Event
import HostedNode.Log.Level
import HostedNode.Log.Stream
import HostedNode.Main
import HostedNode.Message
import HostedNode.Name
import HostedNode.NodeEvent
import HostedNode.NodeState
import HostedNode.Phrase.Encoding
import HostedNode.Phrase.Seed
import HostedNode.Phrase.WordList
import HostedNode.Provider.Command
import HostedNode.Provider.CredentialStore
import HostedNode.Provider.Error
import HostedNode.Provider.Node
import HostedNode.Provider.Report
import HostedNode.Provider.Scheduler
import HostedNode.Rpc.Connection
import HostedNode.Rpc.Envelope
import HostedNode.Rpc.Error
import HostedNode.Rpc.Script
import HostedNode.Services.Backend
import HostedNode.Services.Basic
import HostedNode.Services.Dispatcher
import HostedNode.Services.Error
import HostedNode.Services.Interleaving
import HostedNode.Services.Session
import HostedNode.Services.StandIn
import HostedNode.Settings.Basic
import HostedNode.Settings.Document
import HostedNode.Settings.Error
import HostedNode.Settings.File
import HostedNode.Storage
import HostedNode.Text.Blank
import HostedNode.Text.Case
import HostedNode.Text.Hex
import HostedNode.Text.Hidden
import HostedNode.Text.Quoted
import HostedNode.Text.Shown
import HostedNode.Text.Utf8
import HostedNode.Text.Zbase32
import HostedNode.Toml.Basic
import HostedNode.Toml.Reader
import HostedNode.Toml.Scalar
import HostedNode.Toml.Strings
import HostedNode.World
import HostedNode.Proofs.Bits
import HostedNode.Proofs.Cli.Console
import HostedNode.Proofs.Cli.Edits
import HostedNode.Proofs.Cli.Passage
import HostedNode.Proofs.Cli.Phrase
import HostedNode.Proofs.Curve.Group
import HostedNode.Proofs.Curve.Ladder
import HostedNode.Proofs.Curve.Modular
import HostedNode.Proofs.Curve.Primes
import HostedNode.Proofs.Curve.Recovery
import HostedNode.Proofs.Curve.Written
import HostedNode.Proofs.Disk.Changes
import HostedNode.Proofs.Disk.Contents
import HostedNode.Proofs.Disk.Directories
import HostedNode.Proofs.Disk.Files
import HostedNode.Proofs.Disk.Parents
import HostedNode.Proofs.Disk.Places
import HostedNode.Proofs.Disk.Retains
import HostedNode.Proofs.Hash.Sha2
import HostedNode.Proofs.Http.BadStatus
import HostedNode.Proofs.Json.Codec
import HostedNode.Proofs.Json.Fields
import HostedNode.Proofs.Json.Forms
import HostedNode.Proofs.Json.Grammar
import HostedNode.Proofs.Json.Names
import HostedNode.Proofs.Json.Plain
import HostedNode.Proofs.Json.Printed
import HostedNode.Proofs.Json.Reads
import HostedNode.Proofs.Json.Recast
import HostedNode.Proofs.Json.Record
import HostedNode.Proofs.Json.Scalar
import HostedNode.Proofs.Json.Skip
import HostedNode.Proofs.Key.Messages
import HostedNode.Proofs.Log.Stream
import HostedNode.Proofs.Phrase.Acceptance
import HostedNode.Proofs.Phrase.Encoding
import HostedNode.Proofs.Phrase.WordList
import HostedNode.Proofs.Provider.Answers
import HostedNode.Proofs.Provider.Attempts
import HostedNode.Proofs.Provider.Balances
import HostedNode.Proofs.Provider.Challenge
import HostedNode.Proofs.Provider.Command
import HostedNode.Proofs.Provider.Contacts
import HostedNode.Proofs.Provider.Exchange
import HostedNode.Proofs.Provider.Identity
import HostedNode.Proofs.Provider.Link
import HostedNode.Proofs.Provider.Precedence
import HostedNode.Proofs.Provider.Pull
import HostedNode.Proofs.Provider.Resolution
import HostedNode.Proofs.Records
import HostedNode.Proofs.Rpc.Envelope
import HostedNode.Proofs.Rpc.Reading
import HostedNode.Proofs.Rpc.Script
import HostedNode.Proofs.Rpc.Written
import HostedNode.Proofs.Secrets.Covered
import HostedNode.Proofs.Secrets.Nodes
import HostedNode.Proofs.Secrets.Records
import HostedNode.Proofs.Secrets.Runs
import HostedNode.Proofs.Secrets.Services
import HostedNode.Proofs.Secrets.Shown
import HostedNode.Proofs.Secrets.Steps
import HostedNode.Proofs.Secrets.Stores
import HostedNode.Proofs.Services.Building
import HostedNode.Proofs.Services.Delivery
import HostedNode.Proofs.Services.Footprint
import HostedNode.Proofs.Services.Latch
import HostedNode.Proofs.Services.Live
import HostedNode.Proofs.Services.Moves
import HostedNode.Proofs.Services.Ownership
import HostedNode.Proofs.Services.Quiet
import HostedNode.Proofs.Services.Replay
import HostedNode.Proofs.Services.Serial
import HostedNode.Proofs.Services.Stages
import HostedNode.Proofs.Services.Sync
import HostedNode.Proofs.Services.Verdict
import HostedNode.Proofs.Settings.Document
import HostedNode.Proofs.Settings.File
import HostedNode.Proofs.Settings.Registration
import HostedNode.Proofs.Storage.Document
import HostedNode.Proofs.Storage.Replace
import HostedNode.Proofs.Storage.Runs
import HostedNode.Proofs.Text.Blank
import HostedNode.Proofs.Text.Hex
import HostedNode.Proofs.Text.Quoted
import HostedNode.Proofs.Text.Shown
import HostedNode.Proofs.Text.Utf8
import HostedNode.Proofs.Text.Zbase32
import HostedNode.Proofs.Toml.Strings
import HostedNode.Proofs.World.Adds
import HostedNode.Proofs.World.Blind
import HostedNode.Proofs.World.Keeps
import HostedNode.Proofs.World.Mirrors
import HostedNode.Proofs.World.Outcome
