import SuderraOs.Lib.Effect
import SuderraOs.Lib.Run
import SuderraOs.Lib.Text
import SuderraOs.Ota.Version
import SuderraOs.Boot.Grub
import SuderraOs.Boot.Service
import SuderraOs.Boot.UBoot
import SuderraOs.Data.Unlock
import SuderraOs.Ota.ManifestTool
import SuderraOs.Install.EdgeRuns
import SuderraOs.Install.Target
import SuderraOs.Install.Plan
import SuderraOs.Release.CrossBinding
import SuderraOs.Evidence.Station
import SuderraOs.Evidence.SubjectGraph
import SuderraOs.Evidence.OperatorExact
import SuderraOs.Evidence.IngressRecords
import SuderraOs.Runtime.Scenario
import SuderraOs.Evidence.IngressCreate
import SuderraOs.Evidence.IngressTree
import SuderraOs.Provision.Spool
import SuderraOs.Runtime.GuestScenario
import SuderraOs.Evidence.LabInput
import SuderraOs.Publish.StagedBinding
import SuderraOs.Publish.Publication
import SuderraOs.Watchdog.Feeding
import SuderraOs.Install.TargetChoice
import SuderraOs.Install.DiskName
import SuderraOs.Install.EdgeManifest
import SuderraOs.Packages.RemoteInstall
import SuderraOs.Publish.ArtifactBindings
import SuderraOs.Evidence.OperatorStage
import SuderraOs.Evidence.ReleaseEvidence
import SuderraOs.Release.NormalizedJson
import SuderraOs.Evidence.StationOrder
import SuderraOs.Runtime.MutationInputs
import SuderraOs.Evidence.PatchSet
import SuderraOs.Evidence.ScannerReplay
import SuderraOs.Evidence.GuestFacts
import SuderraOs.Evidence.HsmSession
import SuderraOs.Runtime.Qmp
import SuderraOs.Publish.BuildEvidence
import SuderraOs.Evidence.ProvenanceBinding
import SuderraOs.Publish.VerificationRecord
import SuderraOs.Evidence.RuntimeVerdict
import SuderraOs.Evidence.ScannerCollect
import SuderraOs.Evidence.Governance
import SuderraOs.Flash.RootGuard
import SuderraOs.Flash.WrittenImage
import SuderraOs.Packages.InstallScript
import SuderraOs.Evidence.DryRunPlan
import SuderraOs.Boot.UBootSchedule
import SuderraOs.Build.MatrixText
import SuderraOs.Build.MatrixPayload
import SuderraOs.Build.MatrixReadiness
import SuderraOs.Build.MatrixShape
import SuderraOs.Build.UsbBaseIdentity
