import SdvGateway.Cloud.Python

/-! The operator's script for remote commands. A command is published as the
`dumps` of its dict, whose members stand in the order of the source. -/
namespace SdvGateway.Cloud.SendCommand
open Common

def actuationTypes : List Str :=
  [lit "DOOR_LOCK", lit "DOOR_UNLOCK", lit "ENGINE_START", lit "HORN_LIGHT"]

def commandTopic (uin : Str) : Str := lit "sdv/commands/to/uin/" ++ uin

def buildActuationCommand (cmdType correlationId : Str) : Json :=
  .object [
    (lit "type", .string cmdType),
    (lit "correlation_id", .string correlationId),
    (lit "payload", .object [])]

def buildOtaCommand (correlationId url sha256 version : Str) : Json :=
  .object [
    (lit "type", .string (lit "OTA_TRIGGER")),
    (lit "correlation_id", .string correlationId),
    (lit "payload", .object [
      (lit "url", .string url),
      (lit "sha256", .string sha256),
      (lit "version", .string version)])]

def publishToIot (python : Python) (uin : Str) (payload : Json) : Message :=
  ⟨commandTopic uin, python.dumps payload⟩

theorem byKey_buildActuationCommand (cmdType correlationId : Str) :
    (buildActuationCommand cmdType correlationId).byKey =
      .object [
        (lit "correlation_id", .string correlationId),
        (lit "payload", .object []),
        (lit "type", .string cmdType)] := by
  have hpayload : ¬lit "type" < lit "correlation_id" ∧ ¬lit "type" < lit "payload" ∧
      lit "correlation_id" < lit "payload" := by decide
  have hne : lit "type" ≠ lit "correlation_id" ∧ lit "type" ≠ lit "payload" := by decide
  simp [buildActuationCommand, Json.byKey, Json.byKeyMembers, Json.insertMember, hpayload, hne]

def orderedManifest (url sha256 version : Str) : Json :=
  .object [
    (lit "sha256", .string sha256),
    (lit "url", .string url),
    (lit "version", .string version)]

theorem byKey_buildOtaCommand (correlationId url sha256 version : Str) :
    (buildOtaCommand correlationId url sha256 version).byKey =
      .object [
        (lit "correlation_id", .string correlationId),
        (lit "payload", orderedManifest url sha256 version),
        (lit "type", .string (lit "OTA_TRIGGER"))] := by
  have hpayload : ¬lit "type" < lit "correlation_id" ∧ ¬lit "type" < lit "payload" ∧
      lit "correlation_id" < lit "payload" := by decide
  have hmanifest : ¬lit "url" < lit "sha256" ∧ lit "url" < lit "version" ∧
      lit "sha256" < lit "version" := by decide
  have hne : lit "type" ≠ lit "correlation_id" ∧ lit "type" ≠ lit "payload" ∧
      lit "url" ≠ lit "sha256" := by decide
  simp [buildOtaCommand, orderedManifest, Json.byKey, Json.byKeyMembers, Json.insertMember,
    hpayload, hmanifest, hne]

end SdvGateway.Cloud.SendCommand
