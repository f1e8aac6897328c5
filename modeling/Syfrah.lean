import Syfrah.Proof.AnnounceReplay
import Syfrah.Proof.Capacity
import Syfrah.Proof.Cleanup
import Syfrah.Proof.Composite
import Syfrah.Proof.FdbReconcile
import Syfrah.Proof.GcProgress
import Syfrah.Proof.ImageRefs
import Syfrah.Proof.ImageStore
import Syfrah.Proof.InfraPorts
import Syfrah.Proof.Integrity
import Syfrah.Proof.IpamBook
import Syfrah.Proof.JoinAgreement
import Syfrah.Proof.JoinFrames
import Syfrah.Proof.JoinSignature
import Syfrah.Proof.KeyAuthority
import Syfrah.Proof.LayerPaths
import Syfrah.Proof.LogStorage
import Syfrah.Proof.Manifest
import Syfrah.Proof.MeshAddresses
import Syfrah.Proof.NameLookup
import Syfrah.Proof.NatRules
import Syfrah.Proof.NetworkRecovery
import Syfrah.Proof.NicIds
import Syfrah.Proof.PeerIndex
import Syfrah.Proof.PeerLimit
import Syfrah.Proof.Peering
import Syfrah.Proof.PidFile
import Syfrah.Proof.PinAttempts
import Syfrah.Proof.PlacementFeed
import Syfrah.Proof.Quotas
import Syfrah.Proof.RateWindow
import Syfrah.Proof.RemovedPeers
import Syfrah.Proof.Retention
import Syfrah.Proof.Rootfs
import Syfrah.Proof.Rotation
import Syfrah.Proof.Routes
import Syfrah.Proof.Scheduler
import Syfrah.Proof.SgCheck
import Syfrah.Proof.StorageMirror
import Syfrah.Proof.StoragePasses
import Syfrah.Proof.SubnetAllocator
import Syfrah.Proof.SubnetRanges
import Syfrah.Proof.Taints
import Syfrah.Proof.Timestamps
import Syfrah.Proof.VmFencing
import Syfrah.Proof.VolumeHealth
import Syfrah.Proof.VpcNetworks
import Syfrah.Proof.WgSync
