import CrashQuery.Backend.Remote
import CrashQuery.Main
import CrashQuery.Proofs.Outcome
import CrashQuery.Proofs.Entries
import CrashQuery.Proofs.Query.Body
import CrashQuery.Proofs.Query.Compilation
import CrashQuery.Proofs.Query.Paging
import CrashQuery.Proofs.Query.Rejection
import CrashQuery.Proofs.Query.Limits
import CrashQuery.Proofs.Run.History
import CrashQuery.Proofs.Run.Steps
import CrashQuery.Proofs.Run.Sharing
import CrashQuery.Proofs.Store.Counting
import CrashQuery.Proofs.Store.Healing
import CrashQuery.Proofs.Store.Reference
import CrashQuery.Proofs.Text.Ends
import CrashQuery.Proofs.Text.LowerCase
import CrashQuery.Proofs.Calendar.Civil
import CrashQuery.Proofs.Calendar.Order
import CrashQuery.Proofs.Calendar.Stamps
import CrashQuery.Proofs.Calendar.RoundTrip
import CrashQuery.Proofs.Calendar.Agreement
import CrashQuery.Proofs.Calendar.Elapsed
import CrashQuery.Proofs.Index.Covering
import CrashQuery.Proofs.Index.Naming
import CrashQuery.Proofs.Index.Distinct
import CrashQuery.Proofs.Index.Chronology
import CrashQuery.Proofs.Index.Daily
import CrashQuery.Proofs.Version.Keys
import CrashQuery.Proofs.Version.Extraction
import CrashQuery.Proofs.Window.Bounds
import CrashQuery.Proofs.Window.Coverage
import CrashQuery.Proofs.Window.Overflow
import CrashQuery.Proofs.Window.Width
import CrashQuery.Proofs.Request.Defaults
import CrashQuery.Proofs.Request.Prepared
import CrashQuery.Proofs.Request.Parameter
import CrashQuery.Proofs.Request.Negation
import CrashQuery.Proofs.Request.Alternatives
import CrashQuery.Proofs.Request.Conditions
import CrashQuery.Proofs.Request.Normalized
import CrashQuery.Proofs.Request.DryRun
import CrashQuery.Proofs.Request.Steering
import CrashQuery.Proofs.Request.Searchable
import CrashQuery.Proofs.Request.Grouping
import CrashQuery.Proofs.Request.Refusal
import CrashQuery.Proofs.Request.Coercion
import CrashQuery.Proofs.Run.Causes
import CrashQuery.Proofs.Query.Paths
import CrashQuery.Proofs.Mapping.Declared
import CrashQuery.Proofs.Mapping.Drift
import CrashQuery.Proofs.Request.Provenance
import CrashQuery.Proofs.Query.Typing
import CrashQuery.Proofs.Window.Past
import CrashQuery.Proofs.Version.Arrangement
import CrashQuery.Proofs.Json.Strings
import CrashQuery.Proofs.Store.Reports
import CrashQuery.Proofs.Run.Pinned
import CrashQuery.Proofs.Results.Labels
import CrashQuery.Proofs.Results.Layouts
import CrashQuery.Proofs.Store.Ranking
import CrashQuery.Proofs.Query.Patterns
import CrashQuery.Proofs.Query.Verbatim
import CrashQuery.Proofs.Catalog.Overriding
import CrashQuery.Proofs.Request.Glyphs
import CrashQuery.Proofs.Query.Negations
