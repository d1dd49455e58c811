import RecordLang.Config.Toml
import RecordLang.Error.Report
import RecordLang.Interpreter
import RecordLang.Proofs.Contents
import RecordLang.Proofs.Effect
import RecordLang.Proofs.Effect.Evaluation
import RecordLang.Proofs.Frames
import RecordLang.Proofs.Matching
import RecordLang.Proofs.Scoping.Check
import RecordLang.Proofs.Scoping.Invariant
import RecordLang.Proofs.Scoping.Soundness
import RecordLang.Proofs.Scoping.Steps
import RecordLang.Proofs.Sites
import RecordLang.Proofs.Errors
import RecordLang.Proofs.Invocation
import RecordLang.Proofs.Invocation.Coverage
import RecordLang.Proofs.Termination
import RecordLang.Proofs.Invocation.Failure
import RecordLang.Proofs.Invocation.Induction
import RecordLang.Proofs.Returns
import RecordLang.Proofs.CallTrace
import RecordLang.Proofs.HostOperations
import RecordLang.Proofs.Validity.Invariant
import RecordLang.Proofs.Validity.Steps
import RecordLang.Proofs.Validity.Evaluation
import RecordLang.Proofs.Validity.Runs
import RecordLang.Proofs.Regime
import RecordLang.Proofs.Regime.Evaluation
import RecordLang.Proofs.BlockDepth
import RecordLang.Proofs.ClassIdentity
import RecordLang.Proofs.Coupling.Region
import RecordLang.Proofs.Coupling
import RecordLang.Proofs.Coupling.Steps
import RecordLang.Proofs.Coupling.Evaluation
import RecordLang.Proofs.Isolation
import RecordLang.Proofs.Settings
import RecordLang.Proofs.Inlining
import RecordLang.Proofs.Pieces
import RecordLang.Proofs.Likeness
import RecordLang.Proofs.Likeness.Evaluation
import RecordLang.Proofs.Discipline
import RecordLang.Proofs.Growth
import RecordLang.Proofs.NameTables
import RecordLang.Proofs.Containment
import RecordLang.Proofs.Containment.Rendering
import RecordLang.Proofs.UnmentionedGlobal
import RecordLang.Proofs.Positions
import RecordLang.Proofs.Positions.Reading
import RecordLang.Proofs.Positions.Evaluation
import RecordLang.Proofs.Construction
import RecordLang.Proofs.Equality
import RecordLang.Proofs.Construction.Matching
import RecordLang.Proofs.Membership
import RecordLang.Proofs.Matching.Validation
import RecordLang.Proofs.Construction.Check
import RecordLang.Proofs.Equality.Comparing
import RecordLang.Proofs.Resemblance
import RecordLang.Proofs.Equality.Indistinguishable
import RecordLang.Proofs.Membership.Groups
import RecordLang.Proofs.LaterDefinitions
import RecordLang.Proofs.ScopeOperations
import RecordLang.Proofs.Delimiters
import RecordLang.Proofs.TypeText
import RecordLang.Proofs.TypeText.Conformance
import RecordLang.Proofs.Quoting
import RecordLang.Proofs.Doubles
import RecordLang.Proofs.Doubles.Shortest
import RecordLang.Proofs.Doubles.Text
import RecordLang.Proofs.ValueText
