/-! The states of the controller and the names under which it publishes them. -/
namespace Mandeye

/-- The states of the recorder. `STOPPED` is never entered. -/
inductive States where
  | waitForResources
  | idle
  | startingScan
  | scanning
  | stopping
  | stoppingStage1
  | stoppingStage2
  | stopped
  | startingStopScan
  | stopScanInProgress
  | stopScanInInitialProgress
  | stopingStopScan
  | lidarError
  | usbIoError
  deriving DecidableEq

/-- The names, which keep the spelling of the source. -/
def statesToString : States → String
  | .waitForResources => "WAIT_FOR_RESOURCES"
  | .idle => "IDLE"
  | .startingScan => "STARTING_SCAN"
  | .scanning => "SCANNING"
  | .stopping => "STOPPING"
  | .stoppingStage1 => "STOPPING_STAGE_1"
  | .stoppingStage2 => "STOPPING_STAGE_2"
  | .stopped => "STOPPED"
  | .startingStopScan => "STARTING_STOP_SCAN"
  | .stopScanInProgress => "STOP_SCAN_IN_PROGRESS"
  | .stopScanInInitialProgress => "STOP_SCAN_IN_INITIAL_PROGRESS"
  | .stopingStopScan => "STOPING_STOP_SCAN"
  | .lidarError => "LIDAR_ERROR"
  | .usbIoError => "USB_IO_ERROR"

end Mandeye
