import Mathlib.Data.List.Basic
import Mandeye.Binary64

/-! The GNSS client: two buffers which its worker fills from the serial port and
which the recorder takes away. Sentences are checked and parsed by a library. -/
namespace Mandeye

/-- A decimal number, with the power of ten which it is in. -/
structure MinmeaFloat where
  value : Int32
  scale : Int32
  deriving DecidableEq

/-- The fields of a GGA sentence which are written. -/
structure MinmeaSentenceGga where
  hours : Int32
  minutes : Int32
  seconds : Int32
  latitude : MinmeaFloat
  longitude : MinmeaFloat
  fixQuality : Int32
  satellitesTracked : Int32
  hdop : MinmeaFloat
  altitude : MinmeaFloat
  height : MinmeaFloat
  dgpsAge : MinmeaFloat
  deriving DecidableEq

/-- What the library says about a line: whether it is a sentence with a correct
checksum, and its content if it is a GGA sentence. -/
structure Minmea where
  check : String → Bool
  parseGga : String → Option MinmeaSentenceGga

/-- A line of the CSV file, by the values printed into it. -/
structure GgaCsvLine where
  timestamp : UInt64
  gga : MinmeaSentenceGga
  millis : UInt64
  deriving DecidableEq

/-- The two buffers, and whether a log is running. -/
structure GNSSClient where
  buffer : List GgaCsvLine
  rawbuffer : List String
  isLogging : Bool
  initSucces : Bool
  dataCallback : Bool

namespace GNSSClient

/-- A client as `make_shared` leaves it. -/
def new : GNSSClient := ⟨[], [], false, false, false⟩

/-- Both buffers are emptied. -/
def startLog (client : GNSSClient) : GNSSClient :=
  { client with buffer := [], rawbuffer := [], isLogging := true }

/-- The buffers are kept until they are retrieved. -/
def stopLog (client : GNSSClient) : GNSSClient := { client with isLogging := false }

/-- The lines are handed over, and the buffer begins anew. -/
def retrieveData (client : GNSSClient) : List GgaCsvLine × GNSSClient :=
  (client.buffer, { client with buffer := [] })

/-- The same for the raw lines. -/
def retrieveRawData (client : GNSSClient) : List String × GNSSClient :=
  (client.rawbuffer, { client with rawbuffer := [] })

/-- `GetTimeStamp` returns seconds in double precision. The lines show them as
nanoseconds again, multiplied and truncated. -/
def laserNanoseconds (timestamp : UInt64) : UInt64 :=
  let seconds := Binary64.round (Binary64.round timestamp.toNat / 1000000000)
  UInt64.ofNat ⌊Binary64.round (seconds * 1000000000)⌋₊

/-- The line of a position, with the clocks of the lidar and of the host. -/
def ggaToCsvLine (gga : MinmeaSentenceGga) (timestamp millis : UInt64) : GgaCsvLine :=
  ⟨laserNanoseconds timestamp, gga, millis⟩

/-- A raw line has its own line feed, behind which there is one more blank. -/
def rawEntryToLine (line : String) (timestamp millis : UInt64) : String :=
  toString (laserNanoseconds timestamp) ++ " " ++ toString millis ++ " " ++ line ++ " "

/-- The worker appends raw lines without asking whether a log is running. -/
def appendRaw (client : GNSSClient) (line : String) : GNSSClient :=
  { client with rawbuffer := client.rawbuffer ++ [line] }

/-- The CSV lines which a GGA sentence contributes. -/
def acceptedGga (client : GNSSClient) (csvline : GgaCsvLine) : List GgaCsvLine :=
  if client.isLogging then [csvline] else []

/-- The section of `worker` under the buffer mutex. -/
def appendGga (client : GNSSClient) (csvline : GgaCsvLine) : GNSSClient :=
  { client with buffer := client.buffer ++ client.acceptedGga csvline }

end GNSSClient

end Mandeye
