import VerityVerifier.Library.Runs
import VerityVerifier.Library.History
import VerityVerifier.Library.Custody
import VerityVerifier.Library.Fallible
import VerityVerifier.Library.ByteString
import VerityVerifier.Library.Text
import VerityVerifier.Library.Numeral
import VerityVerifier.Library.Split
import VerityVerifier.Library.Lines
import VerityVerifier.Library.Utf8
import VerityVerifier.Library.Boundary
import VerityVerifier.Library.Hex
import VerityVerifier.Library.Percent
import VerityVerifier.Library.Der
import VerityVerifier.Library.Reader
import VerityVerifier.Library.Bounded
import VerityVerifier.Library.Ledger
import VerityVerifier.Library.Attempts
import VerityVerifier.Library.Asking
import VerityVerifier.Library.Clock
import VerityVerifier.Library.Console
import VerityVerifier.Core.Platform
import VerityVerifier.Core.Quote
import VerityVerifier.Core.Binding
import VerityVerifier.Core.Hex
import VerityVerifier.Core.Images
import VerityVerifier.Core.Reference
import VerityVerifier.Core.Version
import VerityVerifier.Core.Verdict
import VerityVerifier.Core.Disposition
import VerityVerifier.Core.Attest
import VerityVerifier.Core.Channel
import VerityVerifier.Core.Ratls
import VerityVerifier.Core.Verify
import VerityVerifier.Core.Endpoint
import VerityVerifier.Core.Report
import VerityVerifier.Core.Display
import VerityVerifier.Soundness.Judgement
import VerityVerifier.Soundness.Acceptance
import VerityVerifier.Soundness.Transcript
import VerityVerifier.Soundness.Targeted
import VerityVerifier.Soundness.Replay
import VerityVerifier.Soundness.Pinning
import VerityVerifier.Soundness.Layout
import VerityVerifier.Soundness.Unmeasured
import VerityVerifier.Soundness.Algebra
import VerityVerifier.Soundness.Boot
import VerityVerifier.Soundness.Forgery
import VerityVerifier.Soundness.Envelope
import VerityVerifier.Wasm.Bindings
import VerityVerifier.Wasm.Agreement
import VerityVerifier.Wasm.Projection
import VerityVerifier.Wasm.Checks
import VerityVerifier.Connect.Authority
import VerityVerifier.Connect.Grammar
import VerityVerifier.Connect.Suggestion
import VerityVerifier.Connect.Connector
import VerityVerifier.Connect.Handshake
import VerityVerifier.Connect.Triage
import VerityVerifier.Connect.Client
import VerityVerifier.Connect.Steps
import VerityVerifier.Connect.Trace
import VerityVerifier.Connect.Session
import VerityVerifier.Connect.Transports
import VerityVerifier.Connect.Freshness
import VerityVerifier.Connect.Ownership
import VerityVerifier.Connect.Publication
import VerityVerifier.Connect.Advice
import VerityVerifier.Connect.Request
import VerityVerifier.Connect.Addressing
import VerityVerifier.Connect.Exchange
import VerityVerifier.Connect.Deadline
import VerityVerifier.Connect.Dialling
import VerityVerifier.Retrieval.Uri
import VerityVerifier.Retrieval.Render
import VerityVerifier.Retrieval.Source
import VerityVerifier.Retrieval.Http
import VerityVerifier.Retrieval.Chain
import VerityVerifier.Retrieval.Nesting
import VerityVerifier.Retrieval.Cached
import VerityVerifier.Retrieval.Coherence
import VerityVerifier.Retrieval.Footprint
import VerityVerifier.Relay.Network
import VerityVerifier.Relay.Possession
import VerityVerifier.Runner.Decoding
import VerityVerifier.Runner.Inputs
import VerityVerifier.Runner.Attestation
import VerityVerifier.Runner.Exits
import VerityVerifier.Runner.Capture
import VerityVerifier.Runner.Connected
import VerityVerifier.Runner.Agreement
import VerityVerifier.Runner.Licence
