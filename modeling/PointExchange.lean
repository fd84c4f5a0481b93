import PointExchange.Abi.Decoding
import PointExchange.Abi.Encoding
import PointExchange.Address
import PointExchange.Amount
import PointExchange.Arguments.Basic
import PointExchange.Arguments.Given
import PointExchange.Arguments.Help
import PointExchange.Arguments.Parser
import PointExchange.Authorization
import PointExchange.Batch.Basic
import PointExchange.Batch.Drain
import PointExchange.Batch.Handling
import PointExchange.Bench
import PointExchange.Bytes
import PointExchange.Call
import PointExchange.Chain.Simulated
import PointExchange.Coded
import PointExchange.Config
import PointExchange.Config.Loader
import PointExchange.Contract.PointManager
import PointExchange.Contract.PointToken
import PointExchange.Crypto.Keccak
import PointExchange.Crypto.Secp256k1
import PointExchange.Crypto.Sha256
import PointExchange.Decimal.Double
import PointExchange.Decimal.Numeral
import PointExchange.Decimal.Shortest
import PointExchange.Direction
import PointExchange.EnvFile
import PointExchange.Gateway.Basic
import PointExchange.Gateway.Error
import PointExchange.Hex
import PointExchange.IndexStore
import PointExchange.IndexStore.Address
import PointExchange.Json.Access
import PointExchange.Json.Basic
import PointExchange.Json.Embedded
import PointExchange.Json.Lexer
import PointExchange.Json.Octets
import PointExchange.Json.Parser
import PointExchange.Json.Printer
import PointExchange.Json.Refusal
import PointExchange.KeyRole
import PointExchange.Ledger.Basic
import PointExchange.Ledger.Memory
import PointExchange.Lock
import PointExchange.Main
import PointExchange.Message.Basic
import PointExchange.Message.Decoder
import PointExchange.Message.Encoder
import PointExchange.Message.Request
import PointExchange.Node.Basic
import PointExchange.Node.Gateway
import PointExchange.Node.Quantity
import PointExchange.Node.Receipt
import PointExchange.Node.Scripted
import PointExchange.Outage
import PointExchange.Proofs.Abi
import PointExchange.Proofs.AllOrNothing
import PointExchange.Proofs.Amounts
import PointExchange.Proofs.Attempts
import PointExchange.Proofs.Batch
import PointExchange.Proofs.Broadcasts
import PointExchange.Proofs.Budget
import PointExchange.Proofs.Calldata
import PointExchange.Proofs.Chain
import PointExchange.Proofs.Commits
import PointExchange.Proofs.Conservation
import PointExchange.Proofs.Contract
import PointExchange.Proofs.Course
import PointExchange.Proofs.Decisions
import PointExchange.Proofs.DepositSequence
import PointExchange.Proofs.Drain
import PointExchange.Proofs.Estimates
import PointExchange.Proofs.Filtering
import PointExchange.Proofs.Flights
import PointExchange.Proofs.Frame
import PointExchange.Proofs.Gas
import PointExchange.Proofs.GivingUp
import PointExchange.Proofs.Handling
import PointExchange.Proofs.Healthy
import PointExchange.Proofs.History
import PointExchange.Proofs.Inclusion
import PointExchange.Proofs.Integrity
import PointExchange.Proofs.JsonGrammar
import PointExchange.Proofs.JsonTexts
import PointExchange.Proofs.JsonValues
import PointExchange.Proofs.Layouts
import PointExchange.Proofs.Leases
import PointExchange.Proofs.Ledger
import PointExchange.Proofs.Messages
import PointExchange.Proofs.Nonces
import PointExchange.Proofs.Outcome
import PointExchange.Proofs.Oversized
import PointExchange.Proofs.Packing
import PointExchange.Proofs.Permits
import PointExchange.Proofs.Progress
import PointExchange.Proofs.Records
import PointExchange.Proofs.Refusals
import PointExchange.Proofs.Restarts
import PointExchange.Proofs.Rotation
import PointExchange.Proofs.Rounds
import PointExchange.Proofs.Run
import PointExchange.Proofs.Sending
import PointExchange.Proofs.Serving
import PointExchange.Proofs.Settlement
import PointExchange.Proofs.Signing
import PointExchange.Proofs.Sizes
import PointExchange.Proofs.Submission
import PointExchange.Proofs.TypedData
import PointExchange.Proofs.Unhindered
import PointExchange.Proofs.Verdicts
import PointExchange.Proofs.Viability
import PointExchange.Proofs.Waiting
import PointExchange.Queue
import PointExchange.Report
import PointExchange.Rlp
import PointExchange.Run.Basic
import PointExchange.Run.Batch
import PointExchange.Run.Once
import PointExchange.Run.Permits
import PointExchange.Run.Transaction
import PointExchange.Service.LogFilter
import PointExchange.Service.Startup
import PointExchange.Service.Supervision
import PointExchange.Service.Timeline
import PointExchange.Text.Alphanumeric
import PointExchange.Text.Bidi
import PointExchange.Text.CodeTable
import PointExchange.Text.Joining
import PointExchange.Text.Lossy
import PointExchange.Text.Mark
import PointExchange.Text.Normal
import PointExchange.Text.Quoted
import PointExchange.Text.Space
import PointExchange.Text.Split
import PointExchange.Text.Unprintable
import PointExchange.Toml.Basic
import PointExchange.Toml.Document
import PointExchange.Toml.Plain
import PointExchange.Toml.Text
import PointExchange.Url.Basic
import PointExchange.Url.Domain
import PointExchange.Url.Domain.Label
import PointExchange.Url.Domain.Mapping
import PointExchange.Url.Host
import PointExchange.Url.Parser
import PointExchange.Url.Percent
import PointExchange.Url.Punycode
import PointExchange.Url.Query
import PointExchange.Uuid
