import PacketDiversion.Client.Action
import PacketDiversion.Host.Scripted
import PacketDiversion.Logging.Record
import PacketDiversion.Main
import PacketDiversion.Proofs.Handles.Accounting
import PacketDiversion.Proofs.Handles.Use
import PacketDiversion.Proofs.Handles.Apart
import PacketDiversion.Proofs.Handles.Closing
import PacketDiversion.Proofs.Settings.Reload
import PacketDiversion.Proofs.Settings.Usability
import PacketDiversion.Proofs.Settings.Passive
import PacketDiversion.Proofs.Request.Lengths
import PacketDiversion.Proofs.Request.Views
import PacketDiversion.Proofs.Packet.Edits
import PacketDiversion.Proofs.Version
import PacketDiversion.Proofs.Parameter.Store
import PacketDiversion.Proofs.Operations
import PacketDiversion.Proofs.History
import PacketDiversion.Proofs.Gate.Deeds
import PacketDiversion.Proofs.Gate.History
import PacketDiversion.Proofs.Transfer
import PacketDiversion.Proofs.Relay.Fidelity
import PacketDiversion.Proofs.Deferral
import PacketDiversion.Proofs.Admission
import PacketDiversion.Proofs.Agreement
import PacketDiversion.Proofs.Cleanup
import PacketDiversion.Proofs.Usage
import PacketDiversion.Proofs.Relay.Course
import PacketDiversion.Proofs.Relay.Stopping
import PacketDiversion.Proofs.Relay.Overrun
import PacketDiversion.Proofs.Gate.Course
import PacketDiversion.Proofs.Gate.Precedence
import PacketDiversion.Proofs.Mending.Operations
import PacketDiversion.Proofs.Mending.Client
import PacketDiversion.Proofs.Handles.Contained
import PacketDiversion.Proofs.Handles.Unwinding
import PacketDiversion.Proofs.Settings.Conditions
import PacketDiversion.Proofs.Settings.FlagNames
import PacketDiversion.Proofs.Settings.Layout
