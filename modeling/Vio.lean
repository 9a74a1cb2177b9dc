import Vio.Proof.Link.ArmedPublication
import Vio.Proof.Link.Freshness
import Vio.Proof.Link.TransmitFraming
import Vio.Proof.Link.SessionRestart
import Vio.Proof.Recording.CompleteRecording
import Vio.Proof.Capture.FeatureJoin
import Vio.Proof.Flight.Gating
import Vio.Proof.Runner.FeedOrder
import Vio.Proof.Imu.Decoding
import Vio.Proof.Imu.LowPass
import Vio.Proof.Imu.OfflinePairing
import Vio.Proof.Imu.BagCoverage
import Vio.Proof.SessionRequests
import Vio.Proof.Link.MeasurementOrder
import Vio.Proof.Frames.BridgeAgreement
import Vio.Proof.Store.CrashSafety
import Vio.Proof.Camera.FrameQueue
import Vio.Proof.Camera.FrameRoundTrip
import Vio.Proof.Camera.Sweep
import Vio.Proof.Camera.Callbacks
import Vio.Proof.Camera.Settled
import Vio.Proof.Camera.Flyable
import Vio.Proof.Runner.MetadataCuts
import Vio.Proof.Imu.SetupOutcome
import Vio.Proof.Process.Governed
import Vio.Proof.Process.Simulation
import Vio.Proof.Fifo.FifoSteps
import Vio.Proof.Fifo.FifoPairing
import Vio.Proof.Fifo.FifoReplay
import Vio.Construction.CaptureRun
import Vio.Proof.Lifecycle.RecordingCalls
import Vio.Proof.Lifecycle.RunSteps
import Vio.Proof.Lifecycle.Unwinding
import Vio.Proof.Lifecycle.RunRecording
import Vio.Proof.Lifecycle.RunOutcome
import Vio.Proof.Lifecycle.RunUnwinds
import Vio.Proof.Lifecycle.NativeOptions
import Vio.Proof.Lifecycle.RecordingEffort
import Vio.Proof.Lifecycle.RunEnds
import Vio.Library.LexicalPath
import Vio.Construction.FlightConfigSnapshot
import Vio.Proof.Flight.ConfigSnapshot
import Vio.Library.OneSlot
import Vio.Construction.FlightCapture
import Vio.Proof.Flight.HandoffSteps
import Vio.Proof.Flight.Handoff
import Vio.Construction.NativeFlight
import Vio.Proof.Flight.CompleteMarker
import Vio.Proof.Link.ControlTraffic
