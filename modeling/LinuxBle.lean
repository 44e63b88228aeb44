import LinuxBle.Infra.Loop
import LinuxBle.Infra.Outcome
import LinuxBle.Infra.Runs
import LinuxBle.Infra.Table
import LinuxBle.Infra.Bits
import LinuxBle.Infra.Buffer
import LinuxBle.Infra.Lines
import LinuxBle.Infra.Numeral
import LinuxBle.Infra.Codec
import LinuxBle.Infra.Packed
import LinuxBle.Hci.Basic
import LinuxBle.Hci.SendReq
import LinuxBle.Hci.Requests
import LinuxBle.Hci.Structs
import LinuxBle.Hci.Devices
import LinuxBle.Hci.Inquiry
import LinuxBle.Hci.Filter
import LinuxBle.Hci.Functions
import LinuxBle.Hci.Address
import LinuxBle.Hci.Names
import LinuxBle.Ble.Basic
import LinuxBle.Ble.Eir
import LinuxBle.Ble.Scan
import LinuxBle.Ble.Connect
import LinuxBle.Ble.Client
import LinuxBle.Ble.Device
import LinuxBle.Ble.Programs
import LinuxBle.Properties.Eir
import LinuxBle.Properties.EirRoundtrip
import LinuxBle.Properties.SendReq
import LinuxBle.Properties.Transparent
import LinuxBle.Properties.Attribution
import LinuxBle.Properties.Reply
import LinuxBle.Properties.Leftovers
import LinuxBle.Properties.Conversation
import LinuxBle.Properties.ScanTable
import LinuxBle.Properties.ScanReads
import LinuxBle.Properties.ScanUndo
import LinuxBle.Properties.Interrupts
import LinuxBle.Properties.Noise
import LinuxBle.Properties.Filter
import LinuxBle.Properties.Handles
import LinuxBle.Properties.Peer
import LinuxBle.Properties.Descriptors
import LinuxBle.Properties.ConnList
import LinuxBle.Properties.Address
import LinuxBle.Properties.Entries
import LinuxBle.Properties.Wire
import LinuxBle.Properties.Remote
import LinuxBle.Properties.Functions
import LinuxBle.Properties.Success
import LinuxBle.Properties.Inquiry
import LinuxBle.Properties.Names
import LinuxBle.Properties.Pairing
import LinuxBle.Properties.Programs
