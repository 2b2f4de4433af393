import BeamRun.Proofs.Card.Sign
import BeamRun.Proofs.Card.TooWide
import BeamRun.Proofs.Column.ShortDecimals
import BeamRun.Proofs.Logging.Level
import BeamRun.Proofs.Output
import BeamRun.Proofs.Payload.Parts
import BeamRun.Proofs.Report.Envelope
import BeamRun.Proofs.Validation.Audit
import BeamRun.Proofs.Validation.Events
import BeamRun.Proofs.Validation.Layering
import BeamRun.Proofs.Validation.Placement
import BeamRun.Proofs.Validation.Policies
