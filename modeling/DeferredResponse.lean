import DeferredResponse.Calendar.Lemmas
import DeferredResponse.File.Tree
import DeferredResponse.Main
import DeferredResponse.Recorder
import DeferredResponse.Proofs.Attempt
import DeferredResponse.Proofs.Body
import DeferredResponse.Proofs.Equality
import DeferredResponse.Proofs.FailFast
import DeferredResponse.Proofs.Issue
import DeferredResponse.Proofs.Recorder
import DeferredResponse.Proofs.Buffer.Coalesced
import DeferredResponse.Proofs.Buffer.Coherent
import DeferredResponse.Proofs.Buffer.Fragments
import DeferredResponse.Proofs.Buffer.Growth
import DeferredResponse.Proofs.Buffer.History
import DeferredResponse.Proofs.Buffer.Merge
import DeferredResponse.Proofs.Buffer.Moves
import DeferredResponse.Proofs.Buffer.Queries
import DeferredResponse.Proofs.Cli.Outcome
import DeferredResponse.Proofs.Config.Layout
import DeferredResponse.Proofs.Config.RoundTrip
import DeferredResponse.Proofs.Http.CookieGrammar
import DeferredResponse.Proofs.Http.CookieHeader
import DeferredResponse.Proofs.Http.CookieScope
import DeferredResponse.Proofs.Http.DateText
import DeferredResponse.Proofs.Http.Messages
import DeferredResponse.Proofs.Http.Offence
import DeferredResponse.Proofs.Http.Perform
import DeferredResponse.Proofs.Http.Program
import DeferredResponse.Proofs.Http.Queries
import DeferredResponse.Proofs.Http.Reasons
import DeferredResponse.Proofs.Http.Reference
import DeferredResponse.Proofs.Http.Sendable
import DeferredResponse.Proofs.Http.Stages
import DeferredResponse.Proofs.Http.Thinned
import DeferredResponse.Proofs.Http.Transparency
import DeferredResponse.Proofs.Page.Recover
import DeferredResponse.Proofs.Page.Render
import DeferredResponse.Proofs.Page.Response
import DeferredResponse.Proofs.Toml.Assignments
import DeferredResponse.Proofs.Toml.Layout
