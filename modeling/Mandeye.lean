import Mandeye.Livox.Configuration
import Mandeye.Livox.FirmwareQueries
import Mandeye.Livox.Introductions
import Mandeye.Livox.WatchRounds
import Mandeye.Livox.TimeSync
import Mandeye.Livox.Senders
import Mandeye.Livox.Commands
import Mandeye.KeyedTable
import Mandeye.Livox.SdkProtocol
import Mandeye.Livox.Checksums
import Mandeye.Crc
import Mandeye.RtkConfig
import Mandeye.Controller.ChunkRate
import Mandeye.LibCamera.Frames
import Mandeye.NtripStalls
import Mandeye.NmeaText
import Mandeye.Controller.Chunks
import Mandeye.Controller.Confirmation
import Mandeye.Controller.Directories
import Mandeye.Controller.GpioClient
import Mandeye.Controller.LidarLogs
import Mandeye.Controller.Requests
import Mandeye.Controller.SessionDuration
import Mandeye.Controller.Sessions
import Mandeye.Controller.SyncWait
import Mandeye.FakePps.OneSecond
import Mandeye.FileSystem.Restarts
import Mandeye.GNSSLogs
import Mandeye.GgaSends
import Mandeye.Gpios
import Mandeye.LibCamera.Fallback
import Mandeye.LibCamera.IntegerControls
import Mandeye.LibCamera.Mappings
import Mandeye.LibCamera.NearestFrame
import Mandeye.LibCamera.NearestPhoto
import Mandeye.LibCamera.PrintFrame
import Mandeye.Livox.Delivery
import Mandeye.Livox.Elapsed
import Mandeye.Livox.LidarIds
import Mandeye.Livox.LockDiscipline
import Mandeye.Livox.PointTimes
import Mandeye.Livox.ReplaceAll
import Mandeye.Livox.SerialNumbers
import Mandeye.NmeaFiles
import Mandeye.NtripClient
import Mandeye.NtripReconnects
import Mandeye.Reports
import Mandeye.SaveLaz
import Mandeye.Subscribers
