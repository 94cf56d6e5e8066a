import SdvGateway.Common.Json

/-! The payload of a buffered message: `to_json` through the streaming writer and
`from_json` through the document parser. The writer is modelled; the parser, the
decimal text of a finite double and the conversion of an integer are parameters. -/
namespace SdvGateway.Gateway.TelemetryJson
open Common

structure Rapidjson where
  dtoa : Double → Str
  parse : Str → Option Json
  intToDouble : Int → Double

structure Writer where
  out : Str
  valueCount : Nat

namespace Writer

def hexDigit (n : UInt8) : UInt8 := if n < 10 then 48 + n else 55 + n

def escapeByte (byte : UInt8) : Str :=
  if byte = 0x08 then [0x5C, 0x62]
  else if byte = 0x09 then [0x5C, 0x74]
  else if byte = 0x0A then [0x5C, 0x6E]
  else if byte = 0x0C then [0x5C, 0x66]
  else if byte = 0x0D then [0x5C, 0x72]
  else if byte = 0x22 then [0x5C, 0x22]
  else if byte = 0x5C then [0x5C, 0x5C]
  else if byte ≤ 0x1F then
    [0x5C, 0x75, 0x30, 0x30, hexDigit (byte / 16), hexDigit (byte % 16)]
  else [byte]

def startObject : Writer := ⟨[0x7B], 0⟩

/-- `Prefix`: a comma before every key but the first, a colon before a value. -/
def begin (w : Writer) : Writer :=
  ⟨w.out ++
    (if w.valueCount = 0 then [] else if w.valueCount % 2 = 0 then [0x2C] else [0x3A]),
    w.valueCount + 1⟩

def put (w : Writer) (text : Str) : Writer := { w with out := w.out ++ text }

def string (w : Writer) (s : Str) : Writer :=
  w.begin.put (0x22 :: (cStr s).flatMap escapeByte ++ [0x22])

def key (w : Writer) (s : Str) : Writer := w.string s

/-- `Double` writes nothing for a NaN or an infinity and returns false. -/
def double (w : Writer) (rj : Rapidjson) (d : Double) : Writer :=
  if d.isFinite then w.begin.put (rj.dtoa d) else w.begin

def int64 (w : Writer) (n : Int) : Writer := w.begin.put (intText n)

def endObject (w : Writer) : Writer := w.put [0x7D]

end Writer

/-- `duration_cast<milliseconds>` truncates toward zero. -/
def toMilliseconds (timestamp : Int64) : Int := timestamp.toInt.tdiv 1000000

/-- What `to_json` returns: the results of the single writer calls are dropped. -/
def toJson (rj : Rapidjson) (msg : TelemetryMsg) : Str :=
  let w := Writer.startObject
  let w := (w.key (lit "uin")).string msg.uin
  let w := (w.key (lit "speed")).double rj msg.vehicleSpeedKmh
  let w := (w.key (lit "rpm")).double rj msg.engineRpm
  let w := (w.key (lit "coolant")).double rj msg.engineCoolantTempC
  let w := (w.key (lit "batt")).double rj msg.batteryVoltageV
  let w := (w.key (lit "gear")).string msg.gear
  let w := (w.key (lit "ts_epoch")).int64 (toMilliseconds msg.timestamp)
  cStr w.endObject.out

/-- `HasMember` and `operator[]`, which are for objects only. -/
def findMember (doc : Json) (name : Str) : Option Json :=
  match doc with
  | .object members => Json.member? name members
  | _ => none

def getString (doc : Json) (name : Str) : Option Str :=
  match findMember doc name with
  | some (.string s) => some s
  | _ => none

def getDouble (rj : Rapidjson) (doc : Json) (name : Str) : Option Double :=
  match findMember doc name with
  | some (.float d) => some d
  | some (.integer n) => some (rj.intToDouble n)
  | _ => none

def getInt64 (doc : Json) (name : Str) : Option Int64 :=
  match findMember doc name with
  | some (.integer n) => if -2 ^ 63 ≤ n ∧ n < 2 ^ 63 then some (.ofInt n) else none
  | _ => none

def fromJson (rj : Rapidjson) (payload : Str) (msg : TelemetryMsg) : Option TelemetryMsg := do
  let doc ← rj.parse payload
  let uin ← getString doc (lit "uin")
  let speed ← getDouble rj doc (lit "speed")
  let rpm ← getDouble rj doc (lit "rpm")
  let coolant ← getDouble rj doc (lit "coolant")
  let batt ← getDouble rj doc (lit "batt")
  let gear ← getString doc (lit "gear")
  let tsMs ← getInt64 doc (lit "ts_epoch")
  pure { msg with
    uin := cStr uin
    vehicleSpeedKmh := speed
    engineRpm := rpm
    engineCoolantTempC := coolant
    batteryVoltageV := batt
    gear := cStr gear
    timestamp := tsMs * 1000000 }

def finite (msg : TelemetryMsg) : Bool :=
  msg.vehicleSpeedKmh.isFinite && (msg.engineRpm.isFinite &&
    (msg.engineCoolantTempC.isFinite && msg.batteryVoltageV.isFinite))

def document (msg : TelemetryMsg) : Json :=
  .object [
    (lit "uin", .string (cStr msg.uin)),
    (lit "speed", .float msg.vehicleSpeedKmh),
    (lit "rpm", .float msg.engineRpm),
    (lit "coolant", .float msg.engineCoolantTempC),
    (lit "batt", .float msg.batteryVoltageV),
    (lit "gear", .string (cStr msg.gear)),
    (lit "ts_epoch", .integer (toMilliseconds msg.timestamp))]

/-- Reading back what was written for a message with finite doubles is lossless. -/
def Lossless (rj : Rapidjson) (msg : TelemetryMsg) : Prop :=
  finite msg = true → rj.parse (toJson rj msg) = some (document msg)

/-- What was written for a message with finite doubles is read back, with some
number in the place of each. -/
def Readable (rj : Rapidjson) (msg : TelemetryMsg) : Prop :=
  finite msg = true → ∃ speed rpm coolant batt : Double,
    rj.parse (toJson rj msg) = some (document { msg with
      vehicleSpeedKmh := speed
      engineRpm := rpm
      engineCoolantTempC := coolant
      batteryVoltageV := batt })

def Rejecting (rj : Rapidjson) (msg : TelemetryMsg) : Prop :=
  finite msg = false → rj.parse (toJson rj msg) = none

theorem toJson_cStr (rj : Rapidjson) (msg : TelemetryMsg) : cStr (toJson rj msg) = toJson rj msg :=
  cStr_cStr _

def truncateToMilliseconds (timestamp : Int64) : Int64 :=
  .ofInt (toMilliseconds timestamp * 1000000)

private theorem toMilliseconds_range (timestamp : Int64) :
    -2 ^ 63 ≤ toMilliseconds timestamp * 1000000 ∧ toMilliseconds timestamp * 1000000 < 2 ^ 63 := by
  have hlow := timestamp.le_toInt
  have hhigh := timestamp.toInt_lt
  unfold toMilliseconds
  have hsign : Int.sign 1000000 = 1 := rfl
  rw [Int.tdiv_eq_ediv, hsign]
  split <;> omega

private theorem getInt64_milliseconds {doc : Json} {name : Str} {timestamp : Int64}
    (h : findMember doc name = some (.integer (toMilliseconds timestamp))) :
    getInt64 doc name = some (.ofInt (toMilliseconds timestamp)) := by
  have hrange := toMilliseconds_range timestamp
  simp only [getInt64, h]
  rw [if_pos (by omega)]

theorem fromJson_document {rj : Rapidjson} {payload : Str} {msg : TelemetryMsg}
    (hparse : rj.parse payload = some (document msg)) (blank : TelemetryMsg) :
    fromJson rj payload blank =
      some { msg with
        uin := cStr msg.uin
        gear := cStr msg.gear
        timestamp := truncateToMilliseconds msg.timestamp
        fromBuffer := blank.fromBuffer } := by
  have huin : getString (document msg) (lit "uin") = some (cStr msg.uin) := rfl
  have hspeed : getDouble rj (document msg) (lit "speed") = some msg.vehicleSpeedKmh := rfl
  have hrpm : getDouble rj (document msg) (lit "rpm") = some msg.engineRpm := rfl
  have hcoolant : getDouble rj (document msg) (lit "coolant") = some msg.engineCoolantTempC := rfl
  have hbatt : getDouble rj (document msg) (lit "batt") = some msg.batteryVoltageV := rfl
  have hgear : getString (document msg) (lit "gear") = some (cStr msg.gear) := rfl
  have hts : getInt64 (document msg) (lit "ts_epoch") =
      some (.ofInt (toMilliseconds msg.timestamp)) := getInt64_milliseconds rfl
  have htimestamp : Int64.ofInt (toMilliseconds msg.timestamp) * 1000000 =
      truncateToMilliseconds msg.timestamp := by
    rw [truncateToMilliseconds, Int64.ofInt_mul]
    rfl
  simp only [fromJson, hparse, Option.bind_eq_bind, Option.bind_some, huin, hspeed,
    hrpm, hcoolant, hbatt, hgear, hts, cStr_cStr, htimestamp]
  rfl

theorem fromJson_eq_none {rj : Rapidjson} {msg : TelemetryMsg} (hrejecting : Rejecting rj msg)
    (hfinite : finite msg = false) (blank : TelemetryMsg) :
    fromJson rj (toJson rj msg) blank = none := by
  simp only [fromJson, hrejecting hfinite]
  rfl

def sampleMessage : TelemetryMsg where
  uin := lit "2T1BURHE0JC123456"
  vehicleSpeedKmh := ⟨0x4059000000000000⟩
  engineRpm := ⟨0x409F400000000000⟩
  engineCoolantTempC := ⟨0x4056800000000000⟩
  batteryVoltageV := ⟨0x4029000000000000⟩
  gear := lit "D"
  timestamp := 1752235200123456789

def sampleText : Str :=
  0x7B :: lit "\"uin\":\"2T1BURHE0JC123456\",\"speed\":100.0,\"rpm\":2000.0,\"coolant\":90.0," ++
    lit "\"batt\":12.5,\"gear\":\"D\",\"ts_epoch\":1752235200123" ++ [0x7D]

def sampleRapidjson : Rapidjson where
  dtoa d :=
    if d.bits = 0x4059000000000000 then lit "100.0"
    else if d.bits = 0x409F400000000000 then lit "2000.0"
    else if d.bits = 0x4056800000000000 then lit "90.0"
    else lit "12.5"
  parse text := if text = sampleText then some (document sampleMessage) else none
  intToDouble _ := ⟨0⟩

theorem sample_lossless : Lossless sampleRapidjson sampleMessage := by
  have htext : toJson sampleRapidjson sampleMessage = sampleText := by decide +kernel
  have hparse : sampleRapidjson.parse sampleText = some (document sampleMessage) := by
    simp [sampleRapidjson]
  intro _
  rw [htext, hparse]

end SdvGateway.Gateway.TelemetryJson
