import DeviceMonitoring.Mismatch
import DeviceMonitoring.CenterStatistics
import DeviceMonitoring.ChannelDelivery
import DeviceMonitoring.Corrections
import DeviceMonitoring.Notifications
import DeviceMonitoring.Library.MaximalRuns
import DeviceMonitoring.Answers
import DeviceMonitoring.PointerCopies
import DeviceMonitoring.DeletedExecutors
import DeviceMonitoring.Teardown
import DeviceMonitoring.ConnectedFlags
import DeviceMonitoring.Redundant
import DeviceMonitoring.Session
import DeviceMonitoring.Receipts
import DeviceMonitoring.LostMeterages
import DeviceMonitoring.LetterDelivery
import DeviceMonitoring.Faults
import DeviceMonitoring.Draining
import DeviceMonitoring.HandlerObjects
import DeviceMonitoring.Deviations
import DeviceMonitoring.Windows
import DeviceMonitoring.CursorCost
import DeviceMonitoring.Shutdown
import DeviceMonitoring.CallbackOrder
