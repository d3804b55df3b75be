import InstrumentRelay.FileTree
import InstrumentRelay.Main
import InstrumentRelay.Packet.LogLine
import InstrumentRelay.Proofs.Command.Dispatch
import InstrumentRelay.Proofs.Command.Spelling
import InstrumentRelay.Proofs.Command.Words
import InstrumentRelay.Proofs.Config
import InstrumentRelay.Proofs.Directory
import InstrumentRelay.Proofs.Forgiveness
import InstrumentRelay.Proofs.Generations
import InstrumentRelay.Proofs.Observers
import InstrumentRelay.Proofs.Packet.Corruption
import InstrumentRelay.Proofs.Packet.Frame
import InstrumentRelay.Proofs.Packet.LogLine
import InstrumentRelay.Proofs.Packet.LogTime
import InstrumentRelay.Proofs.Packet.MarkSearch
import InstrumentRelay.Proofs.Relay.AuxiliaryLines
import InstrumentRelay.Proofs.Relay.Census
import InstrumentRelay.Proofs.Relay.Dialogue
import InstrumentRelay.Proofs.Relay.Enrolment
import InstrumentRelay.Proofs.Relay.Forwarding
import InstrumentRelay.Proofs.Relay.Framing
import InstrumentRelay.Proofs.Relay.Launching
import InstrumentRelay.Proofs.Relay.Mirror
import InstrumentRelay.Proofs.Relay.Passage
import InstrumentRelay.Proofs.Relay.Redialing
import InstrumentRelay.Proofs.Relay.Transparency
import InstrumentRelay.Proofs.Reports
import InstrumentRelay.Proofs.Routing.Accounts
import InstrumentRelay.Proofs.Routing.Delivery
import InstrumentRelay.Proofs.Routing.Table
import InstrumentRelay.Proofs.Routing.Throughput
import InstrumentRelay.Proofs.Stream.Chunks
import InstrumentRelay.Proofs.Stream.Ending
import InstrumentRelay.Proofs.Stream.FrameReader
import InstrumentRelay.Proofs.Stream.LineLimit
import InstrumentRelay.Proofs.Stream.Noise
import InstrumentRelay.Proofs.Stream.Recovery
import InstrumentRelay.Proofs.Stream.Skipping
import InstrumentRelay.Proofs.Stream.Splitting
import InstrumentRelay.Proofs.Time.FixedPoint
import InstrumentRelay.Proofs.Time.Order
import InstrumentRelay.Proofs.Timer
import InstrumentRelay.Relay.Schedule
import InstrumentRelay.Relay.Startup
