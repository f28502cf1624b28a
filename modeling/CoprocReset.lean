import CoprocReset.Bench.Attachment
import CoprocReset.Bench.Lines
import CoprocReset.Bench.Served
import CoprocReset.Bench.Service
import CoprocReset.Main
import CoprocReset.Proofs.Controller.Alone
import CoprocReset.Proofs.Controller.Interleaving
import CoprocReset.Proofs.Lifecycle.FailSafe
import CoprocReset.Proofs.Lifecycle.Ledger
import CoprocReset.Proofs.Lifecycle.Order
import CoprocReset.Proofs.Files.Access
import CoprocReset.Proofs.Line.Sysfs
import CoprocReset.Proofs.Controller.Request
import CoprocReset.Proofs.Line.Machine
import CoprocReset.Proofs.Publisher
import CoprocReset.Proofs.Lifecycle.Launch
import CoprocReset.Proofs.Lifecycle.Running
import CoprocReset.Proofs.Lifecycle.Attribute
import CoprocReset.Proofs.Alike
import CoprocReset.Proofs.Line.Dependable
import CoprocReset.Proofs.Lifecycle.Footing
import CoprocReset.Proofs.Lifecycle.Twins
import CoprocReset.Proofs.Lifecycle.Backends
import CoprocReset.Proofs.Controller.FailStop
import CoprocReset.Proofs.Lifecycle.FailStop
import CoprocReset.Proofs.Lifecycle.Recount
import CoprocReset.Proofs.Lifecycle.FailedAttach
import CoprocReset.Proofs.Controller.Linear
import CoprocReset.Proofs.Lifecycle.Renewal
import CoprocReset.Proofs.Command
import CoprocReset.Proofs.Line.Lending
import CoprocReset.Proofs.Lifecycle.OnBus
import CoprocReset.Proofs.Client.Together
import CoprocReset.Proofs.Line.Faithful
import CoprocReset.Proofs.Controller.Store
import CoprocReset.Proofs.Files.Writes
import CoprocReset.Proofs.Line.Acquisition
import CoprocReset.Proofs.Settings.Fields
import CoprocReset.Proofs.Settings.Load
import CoprocReset.Proofs.Target.Registry
import CoprocReset.Proofs.Files.RoundTrip
import CoprocReset.Proofs.Bus.Path
import CoprocReset.Proofs.Line.Interference
