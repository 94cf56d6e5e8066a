import SdvGateway.Common.Text

/-! The structures that travel through the gateway's queues. A `double` is its
bit pattern; arithmetic on it is a parameter of the code that computes. -/
namespace SdvGateway.Common

structure Double where
  bits : BitVec 64
deriving DecidableEq

/-- Neither a NaN nor an infinity: the exponent field is not all ones. -/
def Double.isFinite (d : Double) : Bool :=
  d.bits.extractLsb' 52 11 != 0x7FF#11

def Double.isPositive (d : Double) : Bool :=
  0 < d.bits && d.bits ≤ 0x7FF0000000000000#64

structure Single where
  bits : BitVec 32
deriving DecidableEq

def Single.isNan (s : Single) : Bool := 0x7F800000#32 < (s.bits &&& 0x7FFFFFFF#32)

/-- The order of the numbers: bit patterns with the sign bit count down from zero. -/
def Single.key (s : Single) : Int :=
  let magnitude : Int := (s.bits &&& 0x7FFFFFFF#32).toNat
  if s.bits.msb then -magnitude else magnitude

def Single.lt (a b : Single) : Bool := !a.isNan && !b.isNan && a.key < b.key

/-- A CAN frame as it leaves the reader. The kernel never reports more than
eight data bytes. -/
structure CanFrame where
  canId : UInt32
  dlc : UInt8
  data : Vector UInt8 8
  dlc_le : dlc ≤ 8

structure DecodedSignal where
  name : Str
  value : Double
  unit : Str
  timestamp : Int
deriving DecidableEq

/-- `timestamp` is a `system_clock` time point: nanoseconds since the epoch. -/
structure TelemetryMsg where
  uin : Str
  vehicleSpeedKmh : Double
  engineRpm : Double
  engineCoolantTempC : Double
  batteryVoltageV : Double
  gear : Str
  timestamp : Int64
  fromBuffer : Bool := false
deriving DecidableEq

inductive CommandType where
  | doorLock
  | doorUnlock
  | engineStart
  | hornLight
  | otaTrigger
  | unknown
deriving DecidableEq

structure Command where
  type : CommandType
  correlationId : Str
  payloadJson : Str
deriving DecidableEq

inductive OtaState where
  | idle
  | manifestReceived
  | downloading
  | verifying
  | installing
  | complete
  | failed
  | rolledBack
deriving DecidableEq

structure OtaStatus where
  state : OtaState
  fwVersion : Str
  errorMsg : Str
  progressPct : Int := 0
deriving DecidableEq

structure Message where
  topic : Str
  payload : Str
deriving DecidableEq

end SdvGateway.Common
