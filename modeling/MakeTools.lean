import MakeTools.Catalog.Record
import MakeTools.Main
import MakeTools.Proofs.Acceptance
import MakeTools.Session
import MakeTools.Timestamp
import MakeTools.Proofs.Handover
import MakeTools.Proofs.Listing
import MakeTools.Proofs.Settable
import MakeTools.Proofs.Arguments
import MakeTools.Proofs.Supervision
import MakeTools.Proofs.Freshness
import MakeTools.Proofs.Blocks
import MakeTools.Proofs.Loading
import MakeTools.Proofs.Answers
import MakeTools.Proofs.Tokens
import MakeTools.Proofs.LineEndings
import MakeTools.Proofs.SilentLines
import MakeTools.Proofs.Appending
import MakeTools.Proofs.Exposure
import MakeTools.Proofs.Disclosure
import MakeTools.Proofs.Gate
import MakeTools.Proofs.Identifiers
import MakeTools.Proofs.Expansion
import MakeTools.Proofs.TestLines
import MakeTools.Proofs.Reports
import MakeTools.Proofs.Quoting
import MakeTools.Proofs.Hints
import MakeTools.Proofs.Schemas
import MakeTools.Proofs.Previews
import MakeTools.Proofs.Records
import MakeTools.Proofs.Startup
import MakeTools.Proofs.Refusals
import MakeTools.Proofs.SetUp
import MakeTools.Proofs.Writing
