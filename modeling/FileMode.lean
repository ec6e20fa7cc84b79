import FileMode.Proofs.AuditTrail
import FileMode.Proofs.BrokenWalks
import FileMode.Proofs.ClauseLaws
import FileMode.Proofs.Confinement
import FileMode.Proofs.ControlCharacters
import FileMode.Proofs.CreationMask
import FileMode.Proofs.Extension
import FileMode.Proofs.FailureReports
import FileMode.Proofs.FormRendering
import FileMode.Proofs.FormWrites
import FileMode.Proofs.Guards
import FileMode.Proofs.Idempotence
import FileMode.Proofs.Independence
import FileMode.Proofs.Joining
import FileMode.Proofs.LastWriter
import FileMode.Proofs.Messages
import FileMode.Proofs.NormalForm
import FileMode.Proofs.OctalForm
import FileMode.Proofs.PermissionWrites
import FileMode.Proofs.ReadBack
import FileMode.Proofs.Rearrangement
import FileMode.Proofs.RenderingBijection
import FileMode.Proofs.Reordering
import FileMode.Proofs.Runs
import FileMode.Proofs.Sequence
import FileMode.Proofs.Strictness
