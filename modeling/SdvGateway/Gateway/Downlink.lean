import SdvGateway.CanLayer.CanWriter
import SdvGateway.Cloud.SendCommand
import SdvGateway.Common.Convert
import SdvGateway.Gateway.CommandHandler
import SdvGateway.Gateway.OtaAgent

/-! The wire format of remote commands. A command is encoded in Python, parsed by the
command handler, and its manifest is dumped and parsed once more by the OTA worker. -/
namespace SdvGateway.Gateway.Downlink
open Common CanLayer Cloud SendCommand CommandHandler
open OtaAgent (parseManifest)

/-- The gateway's parser reads back what `dumps` writes for the document. -/
def Received (python : Python) (text : JsonText) (document : Json) : Prop :=
  text.parse (python.dumps document) = .ok document.byKey

def Reread (text : JsonText) (value : Json) : Prop :=
  text.parse (text.compact value) = .ok value

def enumerator : CommandType → Str
  | .doorLock => lit "DOOR_LOCK"
  | .doorUnlock => lit "DOOR_UNLOCK"
  | .engineStart => lit "ENGINE_START"
  | .hornLight => lit "HORN_LIGHT"
  | .otaTrigger => lit "OTA_TRIGGER"
  | .unknown => lit "UNKNOWN"

theorem printable_orderedManifest (url sha256 version : PyStr) :
    (orderedManifest url.utf8 sha256.utf8 version.utf8).printable = true := by
  have hkeys : isUtf8 (lit "sha256") = true ∧ isUtf8 (lit "url") = true ∧
      isUtf8 (lit "version") = true := by decide +kernel
  simp [orderedManifest, Json.printable, Json.printableMembers, hkeys, url.valid, sha256.valid,
    version.valid]

theorem parseCommand_document (env : Env) {payload typeStr correlationId : Str} {inner : Json}
    (hparse : env.json.parse payload = .ok (.object [
      (lit "correlation_id", .string correlationId),
      (lit "payload", inner),
      (lit "type", .string typeStr)]))
    (hprintable : inner.printable = true) (out : Command) :
    parseCommand env payload out =
      (true, ⟨(typeMap.lookup typeStr).getD .unknown, correlationId, env.json.compact inner⟩) := by
  have htype : lit "correlation_id" ≠ lit "type" ∧ lit "payload" ≠ lit "type" ∧
      lit "correlation_id" ≠ lit "payload" := by decide
  have hread : readCommand env payload =
      .ok ⟨(typeMap.lookup typeStr).getD .unknown, correlationId, env.json.compact inner⟩ := by
    simp only [readCommand, bind_eq_ok]
    refine ⟨_, hparse, .string typeStr, ?_, typeStr, rfl, correlationId, ?_, inner, ?_,
      env.json.compact inner, ?_, rfl⟩
    · simp [Json.at_, Json.member?, htype]
    · simp [Json.valueString, Json.member?, Json.getString]
    · simp [Json.valueJson, Json.member?, htype]
    · rw [JsonText.dump, if_pos hprintable]
  rw [parseCommand, hread]

theorem parseManifest_ordered {env : OtaAgent.Env} {url sha256 version : Str}
    (hreread : Reread env.json (orderedManifest url sha256 version)) :
    parseManifest env (env.json.compact (orderedManifest url sha256 version)) =
      .ok ⟨url, sha256, version⟩ := by
  have hne : lit "sha256" ≠ lit "url" ∧ lit "sha256" ≠ lit "version" ∧
      lit "url" ≠ lit "version" := by decide
  simp only [parseManifest, bind_eq_ok]
  refine ⟨_, hreread, .string url, ?_, url, rfl, .string sha256, ?_, sha256, rfl, version, ?_, rfl⟩
  · simp [orderedManifest, Json.at_, Json.member?, hne]
  · simp [orderedManifest, Json.at_, Json.member?]
  · simp [orderedManifest, Json.valueString, Json.member?, Json.getString, hne]

private theorem actuationTypes_mapped :
    ∀ cmdType ∈ actuationTypes, ∃ type canId, typeMap.lookup cmdType = some type ∧
      enumerator type = cmdType ∧ CanWriter.commandCanId.lookup type = some canId := by
  intro cmdType hcmdType
  simp only [actuationTypes, List.mem_cons, List.not_mem_nil, or_false] at hcmdType
  rcases hcmdType with rfl | rfl | rfl | rfl
  · exact ⟨.doorLock, _, by decide, rfl, rfl⟩
  · exact ⟨.doorUnlock, _, by decide, rfl, rfl⟩
  · exact ⟨.engineStart, _, by decide, rfl, rfl⟩
  · exact ⟨.hornLight, _, by decide, rfl, rfl⟩

/-- An OTA command comes back as the trigger with its id, and the worker recovers the
three members of its manifest. An actuation command comes back as the type of its name,
which an open writer turns into a frame. -/
theorem downlink_round_trip (python : Python) (env : OtaAgent.Env) (out : Command) :
    (∀ cid url sha256 version : PyStr,
      let document := buildOtaCommand cid.utf8 url.utf8 sha256.utf8 version.utf8
      Received python env.json document →
      Reread env.json (orderedManifest url.utf8 sha256.utf8 version.utf8) →
      ∃ cmd,
        parseCommand ⟨env.json, env.uin⟩ (python.dumps document) out = (true, cmd) ∧
        cmd.type = .otaTrigger ∧ cmd.correlationId = cid.utf8 ∧
        parseManifest env cmd.payloadJson = .ok ⟨url.utf8, sha256.utf8, version.utf8⟩) ∧
    ∀ cmdType ∈ actuationTypes, ∀ cid : PyStr,
      let document := buildActuationCommand cmdType cid.utf8
      Received python env.json document →
      ∃ cmd canId,
        parseCommand ⟨env.json, env.uin⟩ (python.dumps document) out = (true, cmd) ∧
        enumerator cmd.type = cmdType ∧ cmd.correlationId = cid.utf8 ∧
        CanWriter.commandCanId.lookup cmd.type = some canId ∧
        ∀ (writer : CanWriter) (systemWrite : CanFrame → Int),
          writer.isOpen = true → 0 ≤ writer.socketFd →
          (writer.write systemWrite cmd.type cmd.payloadJson).2 =
            some (CanWriter.executeFrame canId) := by
  constructor
  · intro cid url sha256 version document hreceived hreread
    rw [Received, byKey_buildOtaCommand] at hreceived
    have htrigger : typeMap.lookup (lit "OTA_TRIGGER") = some .otaTrigger := by decide
    have hparsed := parseCommand_document ⟨env.json, env.uin⟩ hreceived
      (printable_orderedManifest url sha256 version) out
    rw [htrigger, Option.getD_some] at hparsed
    exact ⟨_, hparsed, rfl, rfl, parseManifest_ordered hreread⟩
  · intro cmdType hcmdType cid document hreceived
    rw [Received, byKey_buildActuationCommand] at hreceived
    obtain ⟨type, canId, hlookup, hname, hmapped⟩ := actuationTypes_mapped cmdType hcmdType
    have hparsed := parseCommand_document ⟨env.json, env.uin⟩ hreceived rfl out
    rw [hlookup, Option.getD_some] at hparsed
    refine ⟨_, canId, hparsed, hname, rfl, hmapped, fun writer systemWrite hopen hsocket => ?_⟩
    rw [CanWriter.write_mapped hopen hsocket hmapped]

def sampleStr : PyStr := ⟨lit "c1", by decide +kernel⟩

def sampleOtaCommand : Json := buildOtaCommand (lit "c1") (lit "c1") (lit "c1") (lit "c1")

def sampleLockCommand : Json := buildActuationCommand (lit "DOOR_LOCK") (lit "c1")

def sampleOtaText : Str :=
  0x7B :: lit "\"type\": \"OTA_TRIGGER\", \"correlation_id\": \"c1\", \"payload\": " ++
    0x7B :: lit "\"url\": \"c1\", \"sha256\": \"c1\", \"version\": \"c1\"" ++ [0x7D, 0x7D]

def sampleLockText : Str :=
  0x7B :: lit "\"type\": \"DOOR_LOCK\", \"correlation_id\": \"c1\", \"payload\": " ++
    [0x7B, 0x7D, 0x7D]

def samplePython : Python where
  loads text := if text = [0x7B, 0x7D] then .ok (.object []) else .error .valueError
  loads_empty := rfl
  dumps
    | .object ((_, .string cmdType) :: _) =>
      if cmdType = lit "OTA_TRIGGER" then sampleOtaText else sampleLockText
    | _ => lit "null"
  str _ := lit "0.0"
  percent _ := lit "100%"
  message _ := []

def sampleManifestText : Str :=
  0x7B :: lit "\"sha256\":\"c1\",\"url\":\"c1\",\"version\":\"c1\"" ++ [0x7D]

def sampleEnv : OtaAgent.Env where
  json :=
    { parse := fun text =>
        if text = sampleOtaText then .ok sampleOtaCommand.byKey
        else if text = sampleLockText then .ok sampleLockCommand.byKey
        else if text = sampleManifestText then
          .ok (orderedManifest (lit "c1") (lit "c1") (lit "c1"))
        else .error .parseError
      floatText := fun _ => lit "0.0" }
  sha := FirmwareHash.Sha256.ofDigest fun _ => Vector.replicate 32 0
  uin := lit "V1"

theorem downlink_round_trip_sample :
    (∃ cmd, parseCommand ⟨sampleEnv.json, sampleEnv.uin⟩ sampleOtaText emptyCommand =
        (true, cmd) ∧ cmd.type = .otaTrigger ∧ cmd.correlationId = lit "c1" ∧
        parseManifest sampleEnv cmd.payloadJson = .ok ⟨lit "c1", lit "c1", lit "c1"⟩) ∧
      ∃ cmd canId, parseCommand ⟨sampleEnv.json, sampleEnv.uin⟩ sampleLockText emptyCommand =
        (true, cmd) ∧ enumerator cmd.type = lit "DOOR_LOCK" ∧
        (CanWriter.write ⟨true, 3⟩ (fun _ => 16) cmd.type cmd.payloadJson).2 =
          some (CanWriter.executeFrame canId) := by
  obtain ⟨hota, hactuation⟩ := downlink_round_trip samplePython sampleEnv emptyCommand
  have hlock : lit "DOOR_LOCK" ≠ lit "OTA_TRIGGER" ∧ sampleLockText ≠ sampleOtaText ∧
      sampleManifestText ≠ sampleOtaText ∧ sampleManifestText ≠ sampleLockText := by
    decide +kernel
  constructor
  · have hreceived : Received samplePython sampleEnv.json sampleOtaCommand := by
      simp [Received, samplePython, sampleEnv, sampleOtaCommand, buildOtaCommand]
    have hreread : Reread sampleEnv.json (orderedManifest (lit "c1") (lit "c1") (lit "c1")) := by
      have hdump : sampleEnv.json.compact (orderedManifest (lit "c1") (lit "c1") (lit "c1")) =
          sampleManifestText := by decide +kernel
      rw [Reread, hdump]
      simp [sampleEnv, hlock]
    exact hota sampleStr sampleStr sampleStr sampleStr hreceived hreread
  · have hreceived : Received samplePython sampleEnv.json sampleLockCommand := by
      simp [Received, samplePython, sampleEnv, sampleLockCommand, buildActuationCommand, hlock]
    obtain ⟨cmd, canId, hparsed, hname, _, _, hwritten⟩ :=
      hactuation (lit "DOOR_LOCK") (by simp [actuationTypes]) sampleStr hreceived
    exact ⟨cmd, canId, hparsed, hname, hwritten ⟨true, 3⟩ (fun _ => 16) rfl (by decide)⟩

end SdvGateway.Gateway.Downlink
