import ContractReview.Text.CaseMapping
import ContractReview.Text.Printable
import ContractReview.Text.Lines
import ContractReview.Text.Quoted
import ContractReview.Text.Search
import ContractReview.Text.Pattern
import ContractReview.Text.Utf8
import ContractReview.Digest.Sha256
import ContractReview.Number.Basic
import ContractReview.Number.Numeral
import ContractReview.Json.Reader
import ContractReview.Json.Literal
import ContractReview.Contract
import ContractReview.Fault
import ContractReview.Report
import ContractReview.Code.Delimiters
import ContractReview.Code.Rules
import ContractReview.Json.Access
import ContractReview.Evm.Slither
import ContractReview.Solana.Clippy
import ContractReview.Solana.Program
import ContractReview.Cardano.Hlint
import ContractReview.Cardano.Contract
import ContractReview.Move.Structure
import ContractReview.Opinion.Repair
import ContractReview.Opinion.Consensus
import ContractReview.Opinion.Prompt
import ContractReview.Opinion.RateLimit
import ContractReview.Opinion.Ensemble
import ContractReview.Evm.Review
import ContractReview.Solana.Review
import ContractReview.Cardano.Review
import ContractReview.Move.Review
import ContractReview.Platform.Health
import ContractReview.Review.Fallback
import ContractReview.Platform.Family
import ContractReview.Json.Writer
import ContractReview.Record.Opinion
import ContractReview.Record.Platform
import ContractReview.Settings.Yaml
import ContractReview.Settings.Basic
import ContractReview.Log
import ContractReview.Display
import ContractReview.Opinion.Assembly
import ContractReview.App
import ContractReview.Record.Rehearsal
import ContractReview.Process.Host
import ContractReview.Main
import ContractReview.Proofs.Opinion.Ensemble
import ContractReview.Proofs.Opinion.Consensus
import ContractReview.Proofs.Opinion.Votes
import ContractReview.Proofs.Review.Fallback
import ContractReview.Proofs.Review.Pipeline
import ContractReview.Proofs.Review.Merge
import ContractReview.Proofs.Finding
import ContractReview.Proofs.Platform.Stock
import ContractReview.Proofs.Review.Trail
import ContractReview.Proofs.Latest
import ContractReview.Proofs.Review.Kept
import ContractReview.Proofs.Review.Requests
import ContractReview.Proofs.Review.Overlap
import ContractReview.Proofs.Platform.Shares
import ContractReview.Proofs.Shown
import ContractReview.Proofs.Opinion.RateLimit
import ContractReview.Proofs.Opinion.Answers
import ContractReview.Proofs.Platform.Readiness
import ContractReview.Proofs.Opinion.WellFormed
import ContractReview.Proofs.Opinion.Impartial
import ContractReview.Proofs.Number.Exact
import ContractReview.Proofs.Text.CaseMapping
import ContractReview.Proofs.Number.Written
import ContractReview.Proofs.Number.Plain
import ContractReview.Proofs.Opinion.Projection
import ContractReview.Proofs.Text.Search
import ContractReview.Proofs.Json.Lexeme
import ContractReview.Proofs.Json.Spelling
import ContractReview.Proofs.Opinion.Recovery
import ContractReview.Proofs.Opinion.Blocks
import ContractReview.Proofs.Opinion.Threshold
import ContractReview.Proofs.Opinion.Retry
import ContractReview.Proofs.Opinion.Waiting
import ContractReview.Proofs.Review.Reuse
import ContractReview.Proofs.Platform.Toolchain
import ContractReview.Proofs.Process.Course
import ContractReview.Proofs.Platform.Validation
import ContractReview.Proofs.Code.Segments
import ContractReview.Proofs.Code.Rust
import ContractReview.Proofs.Json.Access
import ContractReview.Proofs.Json.Writing
import ContractReview.Proofs.Json.Writer
import ContractReview.Proofs.Text.Lines
import ContractReview.Proofs.Extent
import ContractReview.Proofs.Solana.Messages
import ContractReview.Proofs.Places
import ContractReview.Proofs.Code.Placement
import ContractReview.Proofs.Identity
import ContractReview.Proofs.Text.Matches
import ContractReview.Proofs.Move.Blocks
import ContractReview.Proofs.Move.Functions
import ContractReview.Proofs.Settings.Numbers
import ContractReview.Proofs.Settings.Texts
import ContractReview.Proofs.Evm.Sources
import ContractReview.Proofs.Review.Backoff
