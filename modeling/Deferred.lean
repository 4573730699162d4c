import Deferred.Check.Report
import Deferred.Check.Step
import Deferred.Json
import Deferred.Probe.Move
import Deferred.Proofs.AbsentData
import Deferred.Proofs.Absorption
import Deferred.Proofs.Containers
import Deferred.Proofs.Filters
import Deferred.Proofs.IntegerOperators
import Deferred.Proofs.JsonRoundTrip
import Deferred.Proofs.Matchers
import Deferred.Proofs.MethodTables
import Deferred.Proofs.Moves
import Deferred.Proofs.Numbering
import Deferred.Proofs.Paths
import Deferred.Proofs.Pipelines
import Deferred.Proofs.Quantifiers
import Deferred.Proofs.Comparisons
import Deferred.Proofs.Equality
import Deferred.Proofs.Readiness
import Deferred.Proofs.ReflectedOperators
import Deferred.Proofs.Relevance
import Deferred.Proofs.Rendering
import Deferred.Proofs.Reports
import Deferred.Proofs.Routes
import Deferred.Proofs.Runs
import Deferred.Proofs.SafeNavigation
import Deferred.Proofs.Splitting
import Deferred.Proofs.Stages
import Deferred.Proofs.Traversals
import Deferred.Proofs.ZeroDivisors
