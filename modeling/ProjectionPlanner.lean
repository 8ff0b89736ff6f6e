import ProjectionPlanner.Projection
import ProjectionPlanner.Report.Recorder
import ProjectionPlanner.Plan.Explain
import ProjectionPlanner.Document.Plan
import ProjectionPlanner.Proofs.Document.RoundTrip
import ProjectionPlanner.Proofs.Types.Assignability
import ProjectionPlanner.Proofs.Path.Answers
import ProjectionPlanner.Proofs.Source.Construction
import ProjectionPlanner.Proofs.Source.Shape
import ProjectionPlanner.Proofs.Search.Shadowing
import ProjectionPlanner.Proofs.Search.Precedence
import ProjectionPlanner.Proofs.Search.Trace
import ProjectionPlanner.Proofs.Build.Typing
import ProjectionPlanner.Proofs.Build.Pairing
import ProjectionPlanner.Proofs.Build.Verdict
import ProjectionPlanner.Proofs.Build.Identity
import ProjectionPlanner.Proofs.Build.Transformation
import ProjectionPlanner.Proofs.Build.Relaxation
import ProjectionPlanner.Proofs.Build.Continuation
import ProjectionPlanner.Proofs.Build.Growth
import ProjectionPlanner.Proofs.Build.Siblings
import ProjectionPlanner.Proofs.Build.Trimming
import ProjectionPlanner.Proofs.Build.SourcePaths
import ProjectionPlanner.Proofs.Build.RequiredPaths
import ProjectionPlanner.Proofs.Build.Copies
import ProjectionPlanner.Proofs.Build.Log
import ProjectionPlanner.Proofs.Build.Invocation
import ProjectionPlanner.Proofs.Build.Causes
import ProjectionPlanner.Proofs.Report.Ledger
import ProjectionPlanner.Proofs.Report.Account
import ProjectionPlanner.Proofs.Report.Routing
import ProjectionPlanner.Proofs.Lines.Explanation
import ProjectionPlanner.Proofs.Lines.Diagnostics
import ProjectionPlanner.Proofs.Projection.Delivery
