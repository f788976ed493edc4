import CandyRuntime.Agent.AuthorityClockTheorems
import CandyRuntime.Agent.CloudPlanTheorems
import CandyRuntime.Agent.FailedPrefixTheorems
import CandyRuntime.Agent.FingerprintTheorems
import CandyRuntime.Agent.LeaseRenewalTheorems
import CandyRuntime.Agent.OwnerTheorems
import CandyRuntime.Agent.PeerCoverageTheorems
import CandyRuntime.Agent.PolicyLeaseTheorems
import CandyRuntime.Agent.PrefixTextTheorems
import CandyRuntime.Agent.ReadinessTheorems
import CandyRuntime.Agent.RebindTheorems
import CandyRuntime.Agent.RegistrationTheorems
import CandyRuntime.Agent.SharedPoolTheorems
import CandyRuntime.Agent.SteeringTheorems
import CandyRuntime.CloudEnroll.SoundTheorems
import CandyRuntime.CloudSync.DeliveryTheorems
import CandyRuntime.CloudSync.IdentityTheorems
import CandyRuntime.CloudSync.ReceiptTheorems
import CandyRuntime.CloudSync.RenewalTheorems
import CandyRuntime.CloudSync.UpgradeTheorems
import CandyRuntime.NetdIpc.ReconcileTheorems
import CandyRuntime.NetdProto.CanonicalTheorems
import CandyRuntime.NetdV1.AgreementTheorems
import CandyRuntime.NetdV1.AttributeTheorems
import CandyRuntime.NetdV1.JournalRunTheorems
import CandyRuntime.NetdV1.LayoutTheorems
import CandyRuntime.NetdV1.LeakTheorems
import CandyRuntime.NetdV1.LeaseTheorems
import CandyRuntime.NetdV1.MakeBeforeBreakTheorems
import CandyRuntime.NetdV1.OrphanTheorems
import CandyRuntime.NetdV1.PolicyUpdateTheorems
import CandyRuntime.NetdV1.ResendTheorems
import CandyRuntime.NetdV2.ControlBudgetTheorems
import CandyRuntime.NetdV2.DomainTheorems
import CandyRuntime.NetdV2.LoadTheorems
import CandyRuntime.NetdV2.ValidationTheorems
import CandyRuntime.PacketPort.FrameTheorems
import CandyRuntime.PacketPort.ProgressTheorems
import CandyRuntime.Tunio.PacketControlTheorems
