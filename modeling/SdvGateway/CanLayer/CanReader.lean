import SdvGateway.Common.Types

/-! Reading frames from the kernel. The frame on the reader's stack is not
initialised, so what it holds beyond the copied bytes is a parameter. -/
namespace SdvGateway.CanLayer.CanReader
open Common

def CAN_EFF_FLAG : UInt32 := 0x80000000

def CAN_RTR_FLAG : UInt32 := 0x40000000

def CAN_ERR_FLAG : UInt32 := 0x20000000

def CAN_EFF_MASK : UInt32 := 0x1FFFFFFF

/-- `struct can_frame`. The kernel accepts no more than eight data bytes. -/
structure KernelFrame where
  canId : UInt32
  canDlc : UInt8
  data : Vector UInt8 8
  canDlc_le : canDlc ≤ 8

/-- What `read` returns: an error or a timeout, fewer bytes than a frame, or a frame. -/
inductive ReadResult where
  | failed
  | short
  | complete (raw : KernelFrame)

def translate (uninitialised : Vector UInt8 8) (raw : KernelFrame) : CanFrame where
  canId := raw.canId &&& CAN_EFF_MASK
  dlc := raw.canDlc
  data := Vector.ofFn fun i =>
    if i.val < raw.canDlc.toNat then raw.data.get i else uninitialised.get i
  dlc_le := raw.canDlc_le

/-- The frames that are pushed while the reader runs. Each result comes with what
the stack holds in that iteration. -/
def run : List (ReadResult × Vector UInt8 8) → List CanFrame
  | [] => []
  | (.failed, _) :: rest => run rest
  | (.short, _) :: rest => run rest
  | (.complete raw, uninitialised) :: rest => translate uninitialised raw :: run rest

namespace KernelFrame

def isExtended (raw : KernelFrame) : Bool := raw.canId &&& CAN_EFF_FLAG ≠ 0

def isRemote (raw : KernelFrame) : Bool := raw.canId &&& CAN_RTR_FLAG ≠ 0

def isError (raw : KernelFrame) : Bool := raw.canId &&& CAN_ERR_FLAG ≠ 0

def isData (raw : KernelFrame) : Bool := !raw.isRemote && !raw.isError

def identifier (raw : KernelFrame) : UInt32 := raw.canId &&& CAN_EFF_MASK

theorem identifier_lt (raw : KernelFrame) : raw.identifier.toNat < 2 ^ 29 := by
  have h : raw.identifier.toNat ≤ CAN_EFF_MASK.toNat := by
    rw [identifier, UInt32.toNat_and]
    exact Nat.and_le_right
  exact Nat.lt_of_le_of_lt h (by decide)

end KernelFrame

def framesRead (reads : List (ReadResult × Vector UInt8 8)) :
    List (KernelFrame × Vector UInt8 8) :=
  reads.filterMap fun read =>
    match read.1 with
    | .complete raw => some (raw, read.2)
    | _ => none

theorem run_eq_map (reads : List (ReadResult × Vector UInt8 8)) :
    run reads = (framesRead reads).map fun read => translate read.2 read.1 := by
  induction reads with
  | nil => rfl
  | cons read rest ih =>
    obtain ⟨result, uninitialised⟩ := read
    cases result with
    | failed => exact ih
    | short => exact ih
    | complete raw => exact congrArg (translate uninitialised raw :: ·) ih

end SdvGateway.CanLayer.CanReader
