import WmnIot.Foundations.BigEndian
import WmnIot.Foundations.RingBuffer
import WmnIot.Foundations.Runs
import WmnIot.Foundations.Networks
import WmnIot.Foundations.Traces
import WmnIot.Model.ControlPacket
import WmnIot.Model.DataPacket
import WmnIot.Model.Timeouts
import WmnIot.Model.MacStateMachine
import WmnIot.Model.QueueTable
import WmnIot.Model.MessageQueues
import WmnIot.Model.RadioFrames
import WmnIot.Codec.Bounds
import WmnIot.Codec.CfFrames
import WmnIot.Codec.CfPacket
import WmnIot.Codec.ControlPacket
import WmnIot.Codec.DataPacket
import WmnIot.Codec.PacketFormats
import WmnIot.Codec.Reassembly
import WmnIot.Queues.NamedQueues
import WmnIot.Memory.Refinement
import WmnIot.Memory.PacketCalls
import WmnIot.Memory.Conservation
import WmnIot.Memory.Sufficiency
import WmnIot.Queues.Lifecycle
import WmnIot.Queues.SharedStorage
import WmnIot.Queues.StorageRing
import WmnIot.Queues.Routing
import WmnIot.Queues.SendQueues
import WmnIot.Queues.Capacity
import WmnIot.Queues.HandingUp
import WmnIot.Queues.ReturnCodes
import WmnIot.Queues.Reading
import WmnIot.Queues.ReceivedQueue
import WmnIot.PowerMode.Frames
import WmnIot.PowerMode.SlotTimer
import WmnIot.PowerMode.CommonFrequency
import WmnIot.PowerMode.Accounting
import WmnIot.PowerMode.Announcements
import WmnIot.PowerMode.Classification
import WmnIot.PowerMode.Reception
import WmnIot.PowerMode.Draining
import WmnIot.Driver.Runs
import WmnIot.Driver.InStep
import WmnIot.Driver.Emissions
import WmnIot.Driver.CollisionReports
import WmnIot.Driver.Destinations
import WmnIot.Driver.SlotConflicts
import WmnIot.Driver.TimeoutTable
import WmnIot.Driver.ListeningWindow
import WmnIot.Driver.ListeningPeriod
import WmnIot.Driver.Faults
import WmnIot.Joining.FrameAgreement
import WmnIot.Joining.Frames
import WmnIot.Joining.Synchronization
import WmnIot.Joining.NetworkTime
import WmnIot.Joining.SlotIndices
import WmnIot.Joining.SlotSelection
import WmnIot.Joining.SyncTimers
import WmnIot.Joining.Silence
import WmnIot.Joining.Aggregation
import WmnIot.Timers.WrappingClock
import WmnIot.Timers.OneShotTimer
import WmnIot.Sessions.Sending
import WmnIot.Sessions.Pacing
import WmnIot.Sessions.Faults
import WmnIot.Sessions.Receiving
import WmnIot.Network.Stations
import WmnIot.Network.Membership
import WmnIot.Network.Refinement
import WmnIot.Network.Agreement
