import CallSpan.Scenario.Carriers
import CallSpan.Scenario.Session
import CallSpan.Scenario.Slots
import CallSpan.Scenario.Trial
import CallSpan.Proofs.Audit
import CallSpan.Proofs.Conduct
import CallSpan.Proofs.SpanLifecycle
import CallSpan.Proofs.Transparency
import CallSpan.Proofs.Growth
import CallSpan.Proofs.TextEntries
import CallSpan.Proofs.WireFormat
import CallSpan.Proofs.Injection
import CallSpan.Proofs.TraceContinuity
import CallSpan.Proofs.Rules
import CallSpan.Proofs.Composition
import CallSpan.Proofs.Parentage
import CallSpan.Proofs.Recording
import CallSpan.Proofs.Exclusion
import CallSpan.Proofs.StreamRuns
import CallSpan.Proofs.BaggageMerge
import CallSpan.Proofs.ResponseHistory
import CallSpan.Proofs.ModeAgreement
import CallSpan.Proofs.FailedOperations
import CallSpan.Proofs.BaggageCollisions
import CallSpan.Proofs.Wrappers
import CallSpan.Proofs.Renumbering
import CallSpan.Proofs.Independence
import CallSpan.Proofs.LegibleText
import CallSpan.Proofs.CarrierViews
import CallSpan.Proofs.Storing
import CallSpan.Proofs.FieldEntries
import CallSpan.Proofs.ParentOutcome
import CallSpan.Proofs.UntracedCalls
import CallSpan.Proofs.BinaryEntries
import CallSpan.Proofs.OptionFolding
import CallSpan.Proofs.TypedCalls
import CallSpan.Proofs.Correlation
import CallSpan.Proofs.Traffic
import CallSpan.Proofs.MessageOrder
import CallSpan.Proofs.MergedMetadata
