import SdvGateway.CanLayer.CanWriter
import SdvGateway.Gateway.MalformedMessages
import SdvGateway.Gateway.PayloadTexts
import SdvGateway.Library.Firsts

/-! From the operator's orders to the CAN bus. The broker delivers an order at least once,
between other messages; the vehicle carries it out once. -/
namespace SdvGateway.Gateway.Actuation
open Common Cloud Library CanLayer SendCommand JsonLexer
open Redelivery CommandHandler MalformedMessages PayloadTexts

/-- One turn of the loop: a copy of an order is consumed, or something else happens, which
may be a command of somebody else. -/
inductive Delivery where
  | copy (order : Order)
  | other (turn : Turn)

def Delivery.turn (floats : FloatText) (uin : Str) : Delivery → Turn
  | .copy order => .consumed (order.message floats uin)
  | .other turn => turn

def Delivery.order? : Delivery → Option Order
  | .copy order => some order
  | .other _ => none

def orders (deliveries : List Delivery) : List Order := deliveries.filterMap Delivery.order?

def correlationId : Order → Str
  | .actuation _ _ correlationId | .ota correlationId _ _ _ => correlationId.utf8

section
variable {floats : FloatText} {uin : Str}

end

def sampleLock : Order := .actuation (lit "DOOR_LOCK") List.mem_cons_self Downlink.sampleStr

private theorem hornLight_known : lit "HORN_LIGHT" ∈ actuationTypes :=
  List.mem_cons_of_mem _ (List.mem_cons_of_mem _ (List.mem_cons_of_mem _ List.mem_cons_self))

def sampleHorn : Order :=
  .actuation (lit "HORN_LIGHT") hornLight_known ⟨lit "c2", by decide +kernel⟩

def sampleDeliveries : List Delivery :=
  [.copy sampleLock, .other (.consumed (sampleHorn.message bitText (lit "V1"))), .copy sampleLock]

end SdvGateway.Gateway.Actuation
