import AvcPipeline.Analysis.Basic
import AvcPipeline.Bits.Reader
import AvcPipeline.Bits.Writer
import AvcPipeline.CommandLine.Reader
import AvcPipeline.CommandLine.Run
import AvcPipeline.DecodeUnit.Grouping
import AvcPipeline.Device.Simulated
import AvcPipeline.Main
import AvcPipeline.Nal.ByteStream
import AvcPipeline.ParameterSet.Fixup
import AvcPipeline.Proofs.BitStrings
import AvcPipeline.Session.Frame
import AvcPipeline.Session.FramePacer
import AvcPipeline.Session.Lifecycle
import AvcPipeline.Settings.Resolve
import AvcPipeline.Proofs.CodeWords
import AvcPipeline.Proofs.ParameterSet.WellFormed
import AvcPipeline.Proofs.ParameterSet.Usability
import AvcPipeline.Proofs.ParameterSet.ScalingList
import AvcPipeline.Proofs.ParameterSet.Syntax
import AvcPipeline.Proofs.ParameterSet.Writable
import AvcPipeline.Proofs.Nal.Escape
import AvcPipeline.Proofs.Nal.Unit
import AvcPipeline.Proofs.ParameterSet.RoundTrip
import AvcPipeline.Proofs.ParameterSet.Truncation
import AvcPipeline.Proofs.ParameterSet.Fixup
import AvcPipeline.Session.Run
import AvcPipeline.Pacing.Interleaving
import AvcPipeline.Proofs.Pacing.Counters
import AvcPipeline.Proofs.Device.Ledger
import AvcPipeline.Proofs.Program
import AvcPipeline.Proofs.Geometry
import AvcPipeline.Proofs.Session.FramePacer
import AvcPipeline.Proofs.Session.Holdings
import AvcPipeline.Proofs.Session.Setup
import AvcPipeline.Proofs.Session.Teardown
import AvcPipeline.Proofs.Session.Frame
import AvcPipeline.Proofs.Session.Lifecycle
import AvcPipeline.Proofs.Pacing.Interleaving
import AvcPipeline.Proofs.Device.Handles
import AvcPipeline.Proofs.Session.Handles
import AvcPipeline.Proofs.Session.Acquisition
import AvcPipeline.Proofs.Session.Atomicity
import AvcPipeline.Session.Paced
import AvcPipeline.Proofs.Session.Counting
import AvcPipeline.Proofs.Pacing.Rate
import AvcPipeline.Proofs.Pacing.Sleep
import AvcPipeline.Proofs.Pacing.Drift
import AvcPipeline.Device.Raced
import AvcPipeline.Proofs.Device.Screen
import AvcPipeline.Proofs.Device.Raced
import AvcPipeline.Proofs.Nal.Framing
import AvcPipeline.Proofs.DecodeUnit.Assembly
import AvcPipeline.Proofs.DecodeUnit.Grouping
import AvcPipeline.Proofs.Session.Outcome
import AvcPipeline.Proofs.Session.Managing
import AvcPipeline.Proofs.Session.Accounting
import AvcPipeline.Proofs.Session.Retry
import AvcPipeline.Proofs.Session.Serving
import AvcPipeline.Proofs.Playback.Accounting
import AvcPipeline.Proofs.Nal.Legal
import AvcPipeline.Proofs.DecodeUnit.Outcome
import AvcPipeline.Proofs.Device.Alike
import AvcPipeline.Proofs.Session.Renewal
import AvcPipeline.Proofs.Playback.Problem
import AvcPipeline.Playback.Handover
import AvcPipeline.Proofs.Playback.Handover
import AvcPipeline.Proofs.Playback.Strictness
import AvcPipeline.Proofs.Nal.Joining
import AvcPipeline.Proofs.Nal.Partition
import AvcPipeline.Proofs.Session.Verdict
import AvcPipeline.Proofs.Playback.Cutting
import AvcPipeline.Proofs.Playback.CodedPictures
import AvcPipeline.Proofs.Session.BlockSize
import AvcPipeline.Proofs.Device.Willing
import AvcPipeline.Proofs.Session.Legal
import AvcPipeline.Proofs.ParameterSet.PictureSize
import AvcPipeline.Proofs.ParameterSet.Growth
import AvcPipeline.Proofs.Analysis.Accounting
import AvcPipeline.Proofs.Indicator
import AvcPipeline.Proofs.Elements
import AvcPipeline.Proofs.Device.Bookkeeping
import AvcPipeline.Proofs.Session.Checked
