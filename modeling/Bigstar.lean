import Bigstar.Lib.Arm
import Bigstar.Lib.Buffer
import Bigstar.Lib.CText
import Bigstar.Lib.Listing
import Bigstar.Lib.LittleEndian
import Bigstar.Lib.OrderedMap
import Bigstar.Lib.Pages
import Bigstar.Lib.Ring
import Bigstar.Lib.Run
import Bigstar.Lib.Sql
import Bigstar.Lib.TwoParty
import Bigstar.Lib.Utf8
import Bigstar.Netplay.InputTimeline
import Bigstar.Netplay.InputScript
import Bigstar.Netplay.Recording
import Bigstar.Netplay.RollbackStore
import Bigstar.Netplay.RollbackRuntime
import Bigstar.Netplay.NetplayConfig
import Bigstar.Netplay.MvlRuntime
import Bigstar.Netplay.MvlLifecycle
import Bigstar.Netplay.MvlResultLog
import Bigstar.Netplay.FrameLoop
import Bigstar.Netplay.GameRAMRollback
import Bigstar.Netplay.SessionPolicy
import Bigstar.Netplay.RomLoop
import Bigstar.Netplay.RomLoopMatch
import Bigstar.Netplay.RollbackTickTrace
import Bigstar.Netplay.InputDelivery
import Bigstar.Netplay.DelayedDelivery
import Bigstar.Netplay.PhaseRecovery
import Bigstar.Netplay.InputExchange
import Bigstar.Netplay.GameTickInputs
import Bigstar.Netplay.Proofs.InputTimelineProofs
import Bigstar.Netplay.Proofs.InputScriptProofs
import Bigstar.Netplay.Proofs.RecordingProofs
import Bigstar.Netplay.Proofs.MvlLifecycleProofs
import Bigstar.Netplay.Proofs.StartupFrameProofs
import Bigstar.Netplay.Proofs.TimelineRunProofs
import Bigstar.Netplay.Proofs.RollbackStoreProofs
import Bigstar.Netplay.Proofs.PruneProofs
import Bigstar.Netplay.Proofs.RollbackRuntimeProofs
import Bigstar.Netplay.Proofs.LockstepRefinementProofs
import Bigstar.Netplay.Proofs.PreimageProofs
import Bigstar.Netplay.Proofs.CheckpointRingProofs
import Bigstar.Netplay.Proofs.CheckpointMapProofs
import Bigstar.Netplay.Proofs.GameRAMRollbackProofs
import Bigstar.Netplay.Proofs.RomLoopProofs
import Bigstar.Netplay.Proofs.RomLoopTimelineProofs
import Bigstar.Netplay.Proofs.RomLoopRunProofs
import Bigstar.Netplay.Proofs.RomLoopMatchProofs
import Bigstar.Netplay.Proofs.RomLoopRematchProofs
import Bigstar.Netplay.Proofs.FailedCorrectionProofs
import Bigstar.Netplay.JitScratch
import Bigstar.Netplay.Proofs.JitScratchProofs
import Bigstar.Netplay.RollbackSavestate
import Bigstar.Netplay.Proofs.RollbackSavestateProofs
import Bigstar.Netplay.Proofs.ContiguousFrameProofs
import Bigstar.Netplay.Proofs.ContiguousAccountingProofs
import Bigstar.Netplay.Proofs.SettledFrameProofs
import Bigstar.Netplay.Proofs.TickSampleProofs
import Bigstar.Netplay.Proofs.RollbackTickTraceProofs
import Bigstar.Netplay.Proofs.InputDeliveryProofs
import Bigstar.Netplay.Proofs.DelayedDeliveryProofs
import Bigstar.Netplay.Proofs.PhaseRecoveryProofs
import Bigstar.Netplay.Proofs.InputExchangeProofs
import Bigstar.Netplay.Proofs.GameTickInputProofs
import Bigstar.Netplay.NetplaySession
import Bigstar.Netplay.Proofs.StartHandshakeProofs
import Bigstar.Netplay.Proofs.SessionProofs
import Bigstar.Netplay.Proofs.MatchSeedProofs
import Bigstar.Netplay.Proofs.ResumeProofs
import Bigstar.Netplay.StartHandshake
import Bigstar.Netplay.GameState
import Bigstar.Netplay.WireProtocol
import Bigstar.Netplay.Proofs.WireProtocolProofs
import Bigstar.Signaling.SignalingRoom
import Bigstar.Signaling.Recovery
import Bigstar.Signaling.RoomObject
import Bigstar.Signaling.ConnectionIds
import Bigstar.Signaling.Lobby
import Bigstar.Signaling.Proofs.SignalingRoomProofs
import Bigstar.Signaling.Proofs.RecoveryProofs
import Bigstar.Signaling.Proofs.RoomObjectProofs
import Bigstar.Signaling.Proofs.RoomSocketProofs
import Bigstar.Signaling.Proofs.PairedRoomProofs
import Bigstar.Signaling.Proofs.ConnectionIdProofs
import Bigstar.Signaling.Proofs.ConnectionRunProofs
import Bigstar.Signaling.Proofs.RoomTokenProofs
import Bigstar.Signaling.Proofs.LobbyProofs
import Bigstar.Rom.RomImage
import Bigstar.Rom.RomPatches
import Bigstar.Rom.Stubs
import Bigstar.Rom.StubListings
import Bigstar.Rom.DirectLoad
import Bigstar.Rom.GameTickGates
import Bigstar.Rom.GameTickReplay
import Bigstar.Rom.Proofs.GameTickGateProofs
import Bigstar.Rom.Proofs.GameTickReplayProofs
import Bigstar.Rom.Proofs.RomLayoutProofs
import Bigstar.Rom.Proofs.RomImageProofs
import Bigstar.Rom.Proofs.RomSaveProofs
import Bigstar.Rom.Proofs.RomPatchesProofs
import Bigstar.Rom.Proofs.BuildInfoProofs
import Bigstar.Rom.Proofs.EncoderProofs
import Bigstar.Rom.Proofs.BuildProofs
import Bigstar.Rom.Proofs.StubProofs
import Bigstar.Rom.Proofs.DirectLoadProofs
import Bigstar.Launcher.Settings
import Bigstar.Launcher.MvlResults
import Bigstar.Launcher.LogCapture
import Bigstar.Launcher.Processes
import Bigstar.Launcher.HistoryStore
import Bigstar.Launcher.HistoryDashboard
import Bigstar.Launcher.Proofs.ResultLineProofs
import Bigstar.Netplay.Proofs.MvlResultLogProofs
import Bigstar.Launcher.Proofs.MvlResultsProofs
import Bigstar.Launcher.Proofs.LogCaptureProofs
import Bigstar.Launcher.Proofs.SeedTextProofs
import Bigstar.Launcher.Proofs.LaunchEnvironmentProofs
import Bigstar.Launcher.Proofs.HistoryStoreProofs
import Bigstar.Launcher.Proofs.HistoryPagesProofs
import Bigstar.Launcher.Proofs.HistoryDashboardProofs
import Bigstar.Lib.Monitor
import Bigstar.Netplay.Coordinator
import Bigstar.Netplay.InstanceFrames
import Bigstar.Netplay.Proofs.CoordinatorProofs
import Bigstar.Netplay.Proofs.FrameBarrierProofs
import Bigstar.Netplay.Proofs.SerialTurnProofs
import Bigstar.Netplay.Proofs.DeltaChainProofs
import Bigstar.Netplay.Proofs.PredictionDepthProofs
import Bigstar.Netplay.Proofs.RomLoopPeersProofs
import Bigstar.Netplay.GameStateSync
import Bigstar.Netplay.Proofs.GameStateSyncProofs
import Bigstar.Netplay.Lockstep
import Bigstar.Netplay.Proofs.LockstepProofs
import Bigstar.Signaling.Tunnel
import Bigstar.Signaling.Proofs.TunnelProofs
import Bigstar.Signaling.Proofs.TunnelPairProofs
import Bigstar.Netplay.PacketBridge
import Bigstar.Netplay.Proofs.PacketStoreProofs
import Bigstar.Netplay.Proofs.PacketBridgeProofs
import Bigstar.Netplay.Proofs.PacketBridgePairProofs
import Bigstar.Netplay.Proofs.PacketDeliveryProofs
import Bigstar.Netplay.Proofs.PacketThrottleProofs
import Bigstar.Netplay.Proofs.PacketOrderProofs
