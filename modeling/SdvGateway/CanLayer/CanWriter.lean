import SdvGateway.Common.Types

/-! The writer of actuation commands. Its socket takes frames; what the system
call returns is an input. -/
namespace SdvGateway.CanLayer
open Common

structure CanWriter where
  isOpen : Bool
  socketFd : Int

namespace CanWriter

/-- `OTA_TRIGGER` and `UNKNOWN` are not mapped. -/
def commandCanId : List (CommandType × UInt32) := [
  (.doorLock, 0x300),
  (.doorUnlock, 0x301),
  (.engineStart, 0x302),
  (.hornLight, 0x303)]

def executeFrame (canId : UInt32) : CanFrame where
  canId := canId
  dlc := 1
  data := #v[0x01, 0, 0, 0, 0, 0, 0, 0]
  dlc_le := by decide

def frameSize : Int := 16

/-- The result of `write` and the frame that it hands to the system call. -/
def write (writer : CanWriter) (systemWrite : CanFrame → Int) (type : CommandType)
    (_payloadJson : Str) : Bool × Option CanFrame :=
  if !writer.isOpen || writer.socketFd < 0 then (false, none)
  else
    match commandCanId.lookup type with
    | none => (false, none)
    | some canId =>
      (systemWrite (executeFrame canId) == frameSize, some (executeFrame canId))

theorem write_mapped {writer : CanWriter} {type : CommandType} {canId : UInt32}
    (hopen : writer.isOpen = true) (hsocket : 0 ≤ writer.socketFd)
    (hmapped : commandCanId.lookup type = some canId)
    (systemWrite : CanFrame → Int) (payloadJson : Str) :
    writer.write systemWrite type payloadJson =
      (systemWrite (executeFrame canId) == frameSize, some (executeFrame canId)) := by
  have hready : (!writer.isOpen || decide (writer.socketFd < 0)) = false := by
    simp [hopen, hsocket]
  rw [write, hready]
  simp [hmapped]

end CanWriter

end SdvGateway.CanLayer
