import Concordd.Library.Machine
import Concordd.Library.RingBuffer
import Concordd.Rs232.Receiver
import Concordd.Rs232.Corruption
import Concordd.Queue.Overflow
import Concordd.Queue.Acknowledgement
import Concordd.Queue.Retries
import Concordd.Instance.KeyFrames
import Concordd.Instance.Copies
import Concordd.Instance.Siren
import Concordd.Instance.Panel
import Concordd.Instance.StaleBytes
import Concordd.Instance.MainLoop
import Concordd.Dbus.Helpers
import Concordd.Instance.RefreshPending
import Concordd.Instance.Programming
import Concordd.Instance.PartitionMirror
import Concordd.Instance.Repeats
import Concordd.Instance.Isolation
import Concordd.Instance.DeviceReport
import Concordd.Instance.ZoneTable
import Concordd.Instance.LightsReport
import Concordd.Instance.LongPress
import Concordd.Instance.CommandKeys
import Concordd.Dbus.PressKeys
import Concordd.Instance.RefusedRefresh
import Concordd.Rs232.BufferBounds
import Concordd.Instance.EventLog
import Concordd.Text.BlinkMarks
import Concordd.Config.MissingValues
import Concordd.Dbus.Signals
import Concordd.Dbus.Partitions
import Concordd.Instance.OutputMirror
import Concordd.Queue.Progress
import Concordd.Main.Thrashing
import Concordd.Main.Progress
import Concordd.Keypad.Mirror
import Concordd.Keypad.Drawing
