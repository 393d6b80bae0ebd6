import EasyMc.Desktop.RedactionWeights
import EasyMc.Desktop.ResponseSize

/-!
# Which responses of the command host fit

A response is made of what the bridge remembers, its recorded events above all, and of what the step that is answered
brings.  Redaction may make a text longer, but not beyond its weight (`charWeight`).  So a response fits if the weights of
the parts it is made of are small enough before the step (`Light`), and no response of a run is dropped if that holds at
each of its steps (`light_responses_fit`).
-/

namespace EasyMc.Desktop.CommandHostProcess

open RoomController (Variables Overrides withRoomReadiness)
open RuntimeBridge (Bridge)
open EasyMc.Runtime (Manager)
open Json (memberWeight keyBytes)

/-! ### Loads -/

/-- What a part may take in a response.  Before a response leaves the host, five rules that redact an assignment and two
that redact an authorization are applied to its texts. -/
def load (part : Json) : Nat := Json.weight (charWeight 5 2) part

/-- A failure is returned, and its message once more as the summary. -/
def failureLoad (failure : Failure) : Nat := load failure.toJson + load (.str failure.message)

/-- What the bridge remembers and returns with every answer. -/
def rememberedLoad (b : Bridge) : Nat :=
  (b.events.map fun event => load event + 1).sum + load b.activePlan + (b.lastMetrics.map load).getD 0

/-- The invite link and the snapshots that the controller adds to a status. -/
def snapshotsLoad (vars : Variables) (overrides : Overrides) : Nat :=
  ((overrides.inviteLink.getD vars.active.inviteLink).map fun link => load (.str link)).getD 0 +
    load (overrides.controlPlane.getD vars.lastControlPlaneSnapshot).toJson +
    load (overrides.relay.getD vars.lastRelaySnapshot).toJson

/-- The failure that a server command is answered with at once, if it is. -/
def refusal (options : RuntimeBridge.Options) (b : Bridge) (command : Option Runtime.Text) : Option Failure :=
  if RuntimeBridge.canSendServerCommand b then
    match command.map options.runtime.normalizeServerCommand with
    | none => some (RuntimeBridge.failure options (.serverCommandInvalid "not_string"))
    | some (.error reason) => some (RuntimeBridge.failure options (.serverCommandInvalid reason))
    | some (.ok _) => none
  else some (RuntimeBridge.unavailableFailure b)

/-- What is returned for a command that could not be written, or recorded for one that has been. -/
def writtenLoad (options : RuntimeBridge.Options) (m : Manager) (call : Nat) : Option String → Nat
  | some error => failureLoad (RuntimeBridge.failure options (.serverCommandWriteFailed error))
  | none =>
    match m.calls[call]? with
    | some (.writing command) =>
      load (RuntimeBridge.sanitizeEvent (RuntimeBridge.eventJson options
        ⟨options.runtime.roomId,
          .command (options.runtime.redactHostLogLine command) (m.logSequence + 1)⟩)) + 1
    | _ => 0

/-- What the answer to a step brings besides what the bridge remembers, if the step is answered. -/
def answerLoad (options : RuntimeBridge.Options) (h : Host) : HostStep → Option Nat
  | .statusRoom id vars overrides =>
    some (id.bytes + (h.bridge.lastFailure.map failureLoad).getD 0 + snapshotsLoad vars overrides)
  | .sendServerCommand id command =>
    (refusal options h.bridge command).map fun failure => id.bytes + failureLoad failure
  | .lifecycle (.written call error) =>
    (h.waiting.lookup call).bind fun id =>
      h.bridge.lifecycleManager.map fun m => id.bytes + writtenLoad options m call error
  | _ => none

/-- The bytes of the parts of a response that are always the same. -/
def fixedBytes : Nat := 1024

/-- If the step is answered, what the bridge remembers and what the answer brings are small enough. -/
def Light (options : RuntimeBridge.Options) (h : Host) (input : HostStep) : Prop :=
  ∀ brought ∈ answerLoad options h input, fixedBytes + rememberedLoad h.bridge + brought ≤ maxResponseBytes

instance decidableLight (options : RuntimeBridge.Options) (h : Host) (input : HostStep) :
    Decidable (Light options h input) :=
  inferInstanceAs (Decidable (∀ brought ∈ answerLoad options h input, _))

/-! ### The parts of a response -/

/-- What a part that the controller passes on weighs before the redactors of the controller and of the command host. -/
def passedLoad (part : Json) : Nat := Json.weight (charWeight 2 2) part

theorem passedLoad_le_load (part : Json) : passedLoad part ≤ load part :=
  Json.weight_le_weight (charWeight_mono (by decide) (Nat.le_refl 2)) part

theorem passedLoad_sanitizeValue (part : Json) : passedLoad (RuntimeBridge.sanitizeValue part) ≤ load part :=
  weight_bridge_sanitizeValue 2 2 part

/-- The fields of an object literal. -/
def fieldsLoad (w : Char → Nat) (fields : List (String × Option Json)) : Nat :=
  (fields.map fun field => memberWeight w field.1 field.2).sum

/-- Different members of a part weigh no more than the part. -/
theorem members_load (keys : List String) (hkeys : keys.Nodup) (part : Json) :
    (keys.map fun key => memberWeight (charWeight 5 2) key (part.member key)).sum ≤ load part :=
  Json.sum_memberWeight_le keys hkeys part

theorem orNull_load (w : Char → Nat) (key : String) (value : Option Json) :
    memberWeight w key (RuntimeBridge.orNull value) ≤ memberWeight w key value + keyBytes key + 4 := by
  unfold RuntimeBridge.orNull Json.present
  split
  · simp [memberWeight, Json.weight]
  · cases value with
    | none => simp [memberWeight, Json.weight]
    | some value =>
      simp only [Option.getD_some, memberWeight]
      omega

theorem isTrueField_load (w : Char → Nat) (part : Json) (key : String) :
    memberWeight w key (RuntimeBridge.isTrueField part key) = keyBytes key + 5 := rfl

/-- A part of the plan weighs no more than the member of the plan and some fixed fields. -/
theorem planPart_load {plan : Json} {key : String} {fields : Json → List (String × Option Json)} (fixed : Nat)
    (h : ∀ part, fieldsLoad (charWeight 5 2) (fields part) ≤ load part + fixed) :
    memberWeight (charWeight 5 2) (RuntimeBridge.planPart plan key fields).1
        (RuntimeBridge.planPart plan key fields).2 ≤
      memberWeight (charWeight 5 2) key (plan.member key) + (keyBytes key + 4 + fixed) := by
  have hnull (n : Nat) : keyBytes key + 4 ≤ n + (keyBytes key + 4 + fixed) := by omega
  unfold RuntimeBridge.planPart
  dsimp only
  cases hpart : plan.member key with
  | none => exact hnull 0
  | some part =>
    rw [Option.filter_some]
    split
    · rename_i found hfound
      split at hfound
      · obtain rfl := Option.some.inj hfound
        have hfields := h part
        change keyBytes key + Json.weight (charWeight 5 2) (Json.object (fields part)) ≤
          keyBytes key + load part + (keyBytes key + 4 + fixed)
        rw [Json.weight_object, ← fieldsLoad]
        omega
      · cases hfound
    · exact hnull _

theorem summarizeRuntimePlan_load (plan : Json) :
    passedLoad (RuntimeBridge.summarizeRuntimePlan plan) ≤ load plan + 512 := by
  refine (passedLoad_sanitizeValue _).trans ?_
  have hparts := members_load ["room", "lifecycle", "java", "fabric", "pack"] (by decide) plan
  rw [load, Json.weight_object]
  simp only [List.map_cons, List.map_nil, List.sum_cons, List.sum_nil] at hparts ⊢
  refine (Nat.add_le_add_left (Nat.add_le_add (planPart_load 0 fun room => ?_)
    (Nat.add_le_add (planPart_load 0 fun lifecycle => ?_) (Nat.add_le_add (planPart_load 64 fun java => ?_)
      (Nat.add_le_add (planPart_load 128 fun fabric => ?_) (Nat.add_le_add (planPart_load 64 fun pack => ?_)
        (Nat.le_refl 0)))))) 2).trans ?_
  · exact members_load ["id", "name", "minecraftVersion", "channel"] (by decide) room
  · exact members_load ["current", "next", "adapter"] (by decide) lifecycle
  · have hkeys : keyBytes "detected" + 5 + (keyBytes "vendor" + 4) + (keyBytes "source" + 4) ≤ 64 := by decide
    have hmembers := members_load ["majorVersion", "vendor", "source"] (by decide) java
    have hvendor := orNull_load (charWeight 5 2) "vendor" (java.member "vendor")
    have hsource := orNull_load (charWeight 5 2) "source" (java.member "source")
    have hdetected (value : Bool) :
        memberWeight (charWeight 5 2) "detected" (some (.bool value)) = keyBytes "detected" + 5 := rfl
    simp only [fieldsLoad, List.map_cons, List.map_nil, List.sum_cons, List.sum_nil, hdetected] at hmembers ⊢
    omega
  · have hkeys : keyBytes "installerVerified" + keyBytes "hasLauncherJar" + keyBytes "checksumRequired" + 15 ≤ 128 := by
      decide
    have hmembers := members_load ["loaderVersion"] (by decide) fabric
    have hbool (key : String) (value : Bool) :
        memberWeight (charWeight 5 2) key (some (.bool value)) = keyBytes key + 5 := rfl
    simp only [fieldsLoad, List.map_cons, List.map_nil, List.sum_cons, List.sum_nil, isTrueField_load, hbool]
      at hmembers ⊢
    omega
  · have hkeys : keyBytes "fixed" + keyBytes "checksumVerified" + 10 ≤ 64 := by decide
    have hmembers := members_load ["id"] (by decide) pack
    simp only [fieldsLoad, List.map_cons, List.map_nil, List.sum_cons, List.sum_nil, isTrueField_load] at hmembers ⊢
    omega
  · have hkeys : keyBytes "room" + keyBytes "lifecycle" + keyBytes "java" + keyBytes "fabric" + keyBytes "pack" ≤ 64 := by
      decide
    omega

theorem sanitizeFailure_load (failure : Failure) :
    passedLoad (RuntimeBridge.sanitizeFailure failure).toJson ≤ load failure.toJson := by
  have hreason : passedLoad (.str failure.reason) ≤ load (.str failure.reason) := passedLoad_le_load _
  have hmessage : passedLoad (.str (RuntimeBridge.sanitizeFailure failure).message) ≤ load (.str failure.message) :=
    passedLoad_sanitizeValue (.str failure.message)
  have hdetail : memberWeight (charWeight 2 2) "detail" ((failure.detail.filter Json.truthy).map RuntimeBridge.sanitizeValue) ≤
      memberWeight (charWeight 5 2) "detail" failure.detail := by
    cases failure.detail with
    | none => exact Nat.le_refl _
    | some detail =>
      rw [Option.filter_some]
      split
      · exact Nat.add_le_add_left (passedLoad_sanitizeValue detail) _
      · exact Nat.zero_le _
  rw [passedLoad, load, Failure.toJson, Failure.toJson, Json.weight_object, Json.weight_object]
  exact Nat.add_le_add_left (Nat.add_le_add (Nat.add_le_add_left hreason _)
    (Nat.add_le_add (Nat.add_le_add_left hmessage _) (Nat.add_le_add hdetail (Nat.le_refl 0)))) 2

/-- An answer of the bridge, before the redactors of the controller and of the command host. -/
theorem dto_load (b : Bridge) (state : RuntimeState) (summary : String) (failure : Option Failure) :
    fieldsLoad (charWeight 2 2)
        (RuntimeBridge.dto b state summary failure (RuntimeBridge.currentMetrics b)).fields ≤
      rememberedLoad b + load (.str summary) + (failure.map fun failure => load failure.toJson).getD 0 + 704 := by
  have hkeys : keyBytes "summary" + keyBytes "failure" + keyBytes "runtimePlan" + keyBytes "metrics" + keyBytes "events" ≤
      64 := by
    decide
  have hstate : memberWeight (charWeight 2 2) "state" (Json.ofStr ((some state).map RuntimeState.name)) ≤ 64 := by
    cases state <;> decide
  have hsummary := passedLoad_le_load (.str summary)
  have hfailure : memberWeight (charWeight 2 2) "failure"
      ((failure.map RuntimeBridge.sanitizeFailure).map Failure.toJson) ≤
        keyBytes "failure" + (failure.map fun failure => load failure.toJson).getD 0 := by
    cases failure with
    | none => exact Nat.zero_le _
    | some failure => exact Nat.add_le_add_left (sanitizeFailure_load failure) _
  have hplan := summarizeRuntimePlan_load b.activePlan
  have hmetrics : memberWeight (charWeight 2 2) "metrics"
      (((RuntimeBridge.currentMetrics b).filter Json.truthy).map RuntimeBridge.sanitizeValue) ≤
        keyBytes "metrics" + (b.lastMetrics.map load).getD 0 := by
    have hlast : ∀ metrics, RuntimeBridge.currentMetrics b = some metrics → b.lastMetrics = some metrics := by
      intro metrics hmetrics
      obtain ⟨m, -, hm⟩ := Option.bind_eq_some_iff.1 hmetrics
      split at hm
      · exact hm
      · cases hm
    cases hcurrent : RuntimeBridge.currentMetrics b with
    | none => exact Nat.zero_le _
    | some metrics =>
      rw [hlast metrics hcurrent, Option.filter_some]
      split
      · exact Nat.add_le_add_left (passedLoad_sanitizeValue metrics) _
      · exact Nat.zero_le _
  have hevents : memberWeight (charWeight 2 2) "events"
      (some (.arr (RuntimeBridge.sanitizeEvents (RuntimeBridge.mergedLifecycleEvents b)))) ≤
        keyBytes "events" + 2 + (b.events.map fun event => load event + 1).sum := by
    have hsame : RuntimeBridge.sanitizeEvents (RuntimeBridge.mergedLifecycleEvents b) =
        b.events.map RuntimeBridge.sanitizeEvent := by
      simp [RuntimeBridge.mergedLifecycleEvents, RuntimeBridge.sanitizeEvents]
    have hsum : ((b.events.map RuntimeBridge.sanitizeEvent).map fun event => passedLoad event + 1).sum ≤
        (b.events.map fun event => load event + 1).sum := by
      rw [List.map_map]
      exact List.sum_le_sum fun event _ => Nat.add_le_add_right (passedLoad_sanitizeValue event) 1
    rw [hsame, memberWeight, Json.weight, Json.weightValues_eq]
    simp only [passedLoad] at hsum
    omega
  have hfields : fieldsLoad (charWeight 2 2)
      (RuntimeBridge.dto b state summary failure (RuntimeBridge.currentMetrics b)).fields =
        memberWeight (charWeight 2 2) "state" (Json.ofStr ((some state).map RuntimeState.name)) +
          (keyBytes "summary" + passedLoad (.str summary) +
            (memberWeight (charWeight 2 2) "failure" ((failure.map RuntimeBridge.sanitizeFailure).map Failure.toJson) +
              (keyBytes "runtimePlan" + passedLoad (RuntimeBridge.summarizeRuntimePlan b.activePlan) +
                (memberWeight (charWeight 2 2) "metrics"
                    (((RuntimeBridge.currentMetrics b).filter Json.truthy).map RuntimeBridge.sanitizeValue) +
                  (memberWeight (charWeight 2 2) "events"
                    (some (.arr (RuntimeBridge.sanitizeEvents (RuntimeBridge.mergedLifecycleEvents b)))) + (0 + 0)))))) :=
    rfl
  rw [hfields, rememberedLoad]
  omega

/-! ### Responses -/

/-- What an answer brings besides what the bridge remembers. -/
def Reply.load (b : Bridge) : Reply → Nat
  | .status vars overrides => (b.lastFailure.map failureLoad).getD 0 + snapshotsLoad vars overrides
  | .serverCommandUnavailable => failureLoad (RuntimeBridge.unavailableFailure b)
  | .serverCommandFailed failure => failureLoad failure
  | .serverCommandSent => 0

theorem frame_bytes_le (id result : Json) : (frame id result).bytes ≤ id.bytes + result.bytes + 32 := by
  have hkeys : Text.utf8Length (Json.quote "id") + Text.utf8Length (Json.quote "ok") +
      Text.utf8Length (Json.quote "result") + (Json.bool true).bytes = 20 := by
    decide
  rw [frame, Json.bytes_obj]
  simp only [List.map_cons, List.map_nil, List.sum_cons, List.sum_nil, Json.fieldBytes]
  omega

/-- The summary of a state without a failure is short. -/
theorem summaryForState_load (state : RuntimeState) (failure : Option Failure) :
    load (.str (RuntimeBridge.summaryForState state failure)) ≤
      (failure.map fun failure => load (.str failure.message)).getD 64 := by
  cases failure with
  | some failure => exact Nat.le_refl _
  | none => cases state <;> decide

theorem status_load (b : Bridge) (vars : Variables) (overrides : Overrides) :
    passedLoad (withRoomReadiness vars (some (RuntimeBridge.status b)) overrides).toJson ≤
      rememberedLoad b + (Reply.status vars overrides).load b + 832 := by
  have hkeys : keyBytes "inviteLink" + keyBytes "controlPlane" + keyBytes "relay" ≤ 48 := by decide
  have hruntime := dto_load b (RuntimeBridge.currentState b)
    (RuntimeBridge.summaryForState (RuntimeBridge.currentState b) b.lastFailure) b.lastFailure
  have hsummary := summaryForState_load (RuntimeBridge.currentState b) b.lastFailure
  have hfailure : (b.lastFailure.map fun failure => load (.str failure.message)).getD 64 +
      (b.lastFailure.map fun failure => load failure.toJson).getD 0 ≤ (b.lastFailure.map failureLoad).getD 0 + 64 := by
    cases b.lastFailure with
    | none => exact Nat.le_refl _
    | some failure =>
      simp only [Option.map_some, Option.getD_some, failureLoad]
      omega
  have hlink : memberWeight (charWeight 2 2) "inviteLink"
      (Json.ofStr (withRoomReadiness vars (some (RuntimeBridge.status b)) overrides).inviteLink) ≤
        keyBytes "inviteLink" +
          ((overrides.inviteLink.getD vars.active.inviteLink).map fun link => load (.str link)).getD 0 := by
    simp only [withRoomReadiness]
    split
    · cases overrides.inviteLink.getD vars.active.inviteLink with
      | none => exact Nat.zero_le _
      | some link => exact Nat.add_le_add_left (passedLoad_le_load (.str link)) _
    · exact Nat.zero_le _
  have hcontrolPlane := passedLoad_le_load (overrides.controlPlane.getD vars.lastControlPlaneSnapshot).toJson
  have hrelay := passedLoad_le_load (overrides.relay.getD vars.lastRelaySnapshot).toJson
  have hfields : passedLoad (withRoomReadiness vars (some (RuntimeBridge.status b)) overrides).toJson =
      2 + (fieldsLoad (charWeight 2 2) (RuntimeBridge.status b).fields +
        (memberWeight (charWeight 2 2) "inviteLink"
            (Json.ofStr (withRoomReadiness vars (some (RuntimeBridge.status b)) overrides).inviteLink) +
          (keyBytes "controlPlane" + passedLoad (overrides.controlPlane.getD vars.lastControlPlaneSnapshot).toJson +
            (keyBytes "relay" + passedLoad (overrides.relay.getD vars.lastRelaySnapshot).toJson + 0)))) := by
    rw [passedLoad, RoomDto.toJson, Json.weight_object, RoomDto.fields, List.map_append, List.sum_append]
    rfl
  rw [hfields, Reply.load, snapshotsLoad]
  rw [← RuntimeBridge.status] at hruntime
  omega

theorem serverCommand_load (b : Bridge) (state : RuntimeState) (summary : String) (failure : Option Failure) :
    passedLoad (RuntimeBridge.dto b state summary failure (RuntimeBridge.currentMetrics b)).toJson ≤
      rememberedLoad b + load (.str summary) + (failure.map fun failure => load failure.toJson).getD 0 + 706 := by
  have hfields := dto_load b state summary failure
  rw [passedLoad, RuntimeDto.toJson, Json.weight_object, ← fieldsLoad]
  omega

/-- A response takes no more bytes than what the bridge remembers and what the answer brings may take. -/
theorem responseFrame_bytes_le (id : Json) (b : Bridge) (reply : Reply) :
    (responseFrame id b reply).bytes ≤ fixedBytes + rememberedLoad b + (id.bytes + reply.load b) := by
  have hframe := frame_bytes_le id (CommandHost.sanitizeCommandResult (reply.result b))
  have hcommand {result : Json} : (CommandHost.sanitizeCommandResult result).bytes ≤ passedLoad result :=
    ((Json.bytes_le_weight (charWeight_covers 0 0) _).trans (weight_sanitizeCommandResult 0 0 result)).trans
      (Json.weight_le_weight (charWeight_mono (by decide) (by decide)) result)
  have hresult : (CommandHost.sanitizeCommandResult (reply.result b)).bytes ≤
      rememberedLoad b + reply.load b + 900 := by
    cases reply with
    | status vars overrides =>
      have hstatus := status_load b vars overrides
      have hcontroller : Json.weight (charWeight 1 1)
          (withRoomReadiness vars (some (RuntimeBridge.status b)) overrides).response ≤
            passedLoad (withRoomReadiness vars (some (RuntimeBridge.status b)) overrides).toJson :=
        weight_controller_sanitizeValue 1 1 _
      have hbytes : (CommandHost.sanitizeCommandResult
          (withRoomReadiness vars (some (RuntimeBridge.status b)) overrides).response).bytes ≤
            Json.weight (charWeight 1 1) (withRoomReadiness vars (some (RuntimeBridge.status b)) overrides).response :=
        (Json.bytes_le_weight (charWeight_covers 0 0) _).trans (weight_sanitizeCommandResult 0 0 _)
      rw [Reply.result]
      omega
    | serverCommandUnavailable =>
      have hload := serverCommand_load b (RuntimeBridge.currentState b) (RuntimeBridge.unavailableFailure b).message
        (some (RuntimeBridge.unavailableFailure b))
      have hbytes := @hcommand (RuntimeBridge.serverCommandUnavailable b).toJson
      rw [← RuntimeBridge.serverCommandUnavailable, Option.map_some, Option.getD_some] at hload
      rw [Reply.result, Reply.load, failureLoad]
      omega
    | serverCommandFailed failure =>
      have hload := serverCommand_load b (RuntimeBridge.currentState b) failure.message (some failure)
      have hbytes := @hcommand (RuntimeBridge.serverCommandFailed b failure).toJson
      rw [← RuntimeBridge.serverCommandFailed, Option.map_some, Option.getD_some] at hload
      rw [Reply.result, Reply.load, failureLoad]
      omega
    | serverCommandSent =>
      have hload := serverCommand_load b (RuntimeBridge.currentState b) "Server command sent." none
      have hsummary : load (.str "Server command sent.") ≤ 64 := by decide
      have hbytes := @hcommand (RuntimeBridge.serverCommandSent b).toJson
      rw [← RuntimeBridge.serverCommandSent, Option.map_none, Option.getD_none] at hload
      rw [Reply.result, Reply.load]
      omega
  rw [responseFrame, fixedBytes]
  omega

/-! ### Steps and runs -/

variable {options : RuntimeBridge.Options} {h : Host} {id : Json} {reply : Reply}

/-- The events that the bridge records are returned with the answers after that. -/
theorem rememberedLoad_record (b : Bridge) (events : List Json) :
    rememberedLoad (RuntimeBridge.recordLifecycleEvents b events) =
      rememberedLoad b + (events.map fun event => load (RuntimeBridge.sanitizeEvent event) + 1).sum := by
  rw [RuntimeBridge.recordLifecycleEvents_eq]
  simp only [rememberedLoad, RuntimeBridge.sanitizeEvents, List.map_append, List.sum_append, List.map_map,
    Function.comp_def]
  omega

/-- A server command waits to be written, or the manager refuses it and reports nothing. -/
theorem sendCommand_cases (options : RuntimeBridge.Options) {m : Manager}
    (hm : h.bridge.lifecycleManager = some m) (hcan : RuntimeBridge.canSendServerCommand h.bridge = true)
    (command : Option Runtime.Text) :
    (∃ call, (Runtime.sendCommand options.runtime m command).1 = .waiting call) ∨
      ∃ failure, Runtime.sendCommand options.runtime m command = (.fail failure, m) ∧
        refusal options h.bridge command = some (RuntimeBridge.failure options failure) := by
  rw [refusal, if_pos hcan]
  cases command with
  | none => exact .inr ⟨_, rfl, rfl⟩
  | some command =>
    rw [Option.map_some]
    cases hnormal : options.runtime.normalizeServerCommand command with
    | error reason =>
      refine .inr ⟨.serverCommandInvalid reason, ?_, rfl⟩
      simp only [Runtime.sendCommand, hnormal]
    | ok command =>
      have hprocess : m.processRef.isSome = true ∧ m.processExited = false := by
        simp only [RuntimeBridge.canSendServerCommand, hm, Option.any_some, Runtime.hasProcess, Bool.and_eq_true,
          Bool.not_eq_true'] at hcan
        exact hcan.1
      obtain ⟨child, hchild⟩ := Option.isSome_iff_exists.1 hprocess.1
      refine .inl ⟨m.calls.length, ?_⟩
      simp only [Runtime.sendCommand, hnormal, hchild, hprocess.2, Runtime.writeStdin]

/-- What is written for a command, and the event that is reported then. -/
theorem written_cases (options : RuntimeBridge.Options) (m : Manager) (call : Nat) (error : Option String) :
    (Runtime.written options.runtime m call error).1 = .none ∨
      (∃ text m', error = some text ∧ m'.events = m.events ∧
        Runtime.written options.runtime m call error = (.fail (.serverCommandWriteFailed text), m')) ∨
      ∃ command m' event, error = none ∧ m.calls[call]? = some (.writing command) ∧ m'.events = m.events ++ [event] ∧
        event = ⟨options.runtime.roomId,
          .command (options.runtime.redactHostLogLine command) (m.logSequence + 1)⟩ ∧
        Runtime.written options.runtime m call error = (.sent m.state command, m') := by
  unfold Runtime.written
  split
  · rename_i command hcall
    cases error with
    | some text => exact .inr (.inl ⟨text, Runtime.setCall m call .ended, rfl, rfl, rfl⟩)
    | none => exact .inr (.inr ⟨command, _, _, rfl, hcall, rfl, rfl, rfl⟩)
  · exact .inl rfl

theorem lifecycleStep_eq (options : RuntimeBridge.Options) {b : Bridge} {m : Manager}
    (hm : b.lifecycleManager = some m) (label : Runtime.Label) :
    RuntimeBridge.lifecycleStep options b label =
      ((Runtime.step options.runtime m label).1,
        RuntimeBridge.recordLifecycleEvents
          { b with lifecycleManager := some (Runtime.step options.runtime m label).2 }
          (((Runtime.step options.runtime m label).2.events.drop m.events.length).map
            (RuntimeBridge.eventJson options))) := by
  simp only [RuntimeBridge.lifecycleStep, hm]

/-- What is returned in answer to a step has been remembered before, or the step has brought it. -/
theorem respond_load (input : HostStep) (hreply : (respond options h input).1 = some (id, reply)) :
    ∃ brought ∈ answerLoad options h input,
      rememberedLoad (respond options h input).2.bridge +
          (id.bytes + reply.load (respond options h input).2.bridge) ≤
        rememberedLoad h.bridge + brought := by
  cases input with
  | statusRoom id' vars overrides =>
    obtain ⟨rfl, rfl⟩ : id' = id ∧ Reply.status vars overrides = reply := by simpa [respond] using hreply
    refine ⟨_, rfl, ?_⟩
    simp only [respond, Reply.load]
    omega
  | sendServerCommand id' command =>
    by_cases hcan : RuntimeBridge.canSendServerCommand h.bridge = true
    · obtain ⟨m, hm⟩ : ∃ m, h.bridge.lifecycleManager = some m := by
        obtain ⟨m, hm, -⟩ := (Option.any_eq_true _ _).1 hcan
        exact ⟨m, hm⟩
      have hstep := lifecycleStep_eq options hm (.sendCommand command)
      rw [Runtime.step] at hstep
      obtain ⟨call, hwaits⟩ | ⟨failure, hrefused, hrefusal⟩ := sendCommand_cases options hm hcan command
      · rw [hwaits] at hstep
        simp only [respond, if_pos hcan, hstep] at hreply
        cases hreply
      · rw [hrefused, List.drop_length] at hstep
        have hrespond : respond options h (.sendServerCommand id' command) =
            (some (id', .serverCommandFailed (RuntimeBridge.failure options failure)),
              { h with bridge := RuntimeBridge.recordLifecycleEvents { h.bridge with lifecycleManager := some m } [] }) := by
          simp only [respond, if_pos hcan, hstep, serverCommandReply]
          rfl
        rw [hrespond] at hreply ⊢
        obtain ⟨rfl, rfl⟩ : id' = id ∧ Reply.serverCommandFailed (RuntimeBridge.failure options failure) = reply := by
          simpa using hreply
        refine ⟨id'.bytes + failureLoad (RuntimeBridge.failure options failure), ?_, Nat.le_refl _⟩
        rw [answerLoad, hrefusal]
        rfl
    · have hrespond : respond options h (.sendServerCommand id' command) = (some (id', .serverCommandUnavailable), h) := by
        simp only [respond, if_neg hcan]
      rw [hrespond] at hreply ⊢
      obtain ⟨rfl, rfl⟩ : id' = id ∧ Reply.serverCommandUnavailable = reply := by simpa using hreply
      refine ⟨id'.bytes + failureLoad (RuntimeBridge.unavailableFailure h.bridge), ?_, Nat.le_refl _⟩
      rw [answerLoad, refusal, if_neg hcan]
      rfl
  | lifecycle label =>
    cases label with
    | written call error =>
      cases hid : h.waiting.lookup call with
      | none =>
        simp only [respond, hid] at hreply
        cases hreply
      | some id' =>
        cases hm : h.bridge.lifecycleManager with
        | none =>
          simp only [respond, hid, RuntimeBridge.lifecycleStep, hm, serverCommandReply] at hreply
          cases hreply
        | some m =>
          have hstep := lifecycleStep_eq options hm (.written call error)
          rw [Runtime.step] at hstep
          have hanswer : answerLoad options h (.lifecycle (.written call error)) =
              some (id'.bytes + writtenLoad options m call error) := by
            simp only [answerLoad, hid, hm, Option.bind_some, Option.map_some]
          rw [hanswer]
          obtain hnone | ⟨text, m', rfl, hevents, hwritten⟩ | ⟨command, m', event, rfl, hcall, hevents, hevent, hwritten⟩ :=
            written_cases options m call error
          · rw [hnone] at hstep
            simp only [respond, hid, hstep, serverCommandReply] at hreply
            cases hreply
          · rw [hwritten, hevents, List.drop_length] at hstep
            simp only [respond, hid, hstep, serverCommandReply, Option.map_some, Option.some.injEq, Prod.mk.injEq]
              at hreply ⊢
            obtain ⟨rfl, rfl⟩ := hreply
            exact ⟨_, rfl, Nat.le_refl _⟩
          · rw [hwritten, hevents, List.drop_left] at hstep
            simp only [respond, hid, hstep, serverCommandReply, Option.map_some, Option.some.injEq, Prod.mk.injEq]
              at hreply ⊢
            obtain ⟨rfl, rfl⟩ := hreply
            have hload : writtenLoad options m call none =
                load (RuntimeBridge.sanitizeEvent (RuntimeBridge.eventJson options event)) + 1 := by
              simp only [writtenLoad, hcall, hevent]
            have hrecorded := rememberedLoad_record { h.bridge with lifecycleManager := some m' }
              [RuntimeBridge.eventJson options event]
            refine ⟨_, rfl, ?_⟩
            change rememberedLoad (RuntimeBridge.recordLifecycleEvents { h.bridge with lifecycleManager := some m' }
              [RuntimeBridge.eventJson options event]) + (id'.bytes + 0) ≤ _
            rw [hrecorded, hload]
            change rememberedLoad h.bridge + (load _ + 1 + 0) + (id'.bytes + 0) ≤ _
            omega
    | _ => cases hreply
  | _ => cases hreply

/-- A light step writes no response that is too long. -/
theorem light_step {input : HostStep} (hlight : Light options h input) {line : List Char}
    (hline : (step options h input).1 = some line) : droppedForSize line = false := by
  rcases hrespond : respond options h input with ⟨_ | ⟨id, reply⟩, next⟩
  · simp only [step, hrespond, Option.map_none] at hline
    cases hline
  · have hreply : (respond options h input).1 = some (id, reply) := by rw [hrespond]
    obtain ⟨brought, hbrought, hload⟩ := respond_load input hreply
    have hfits := hlight brought hbrought
    have hbytes := responseFrame_bytes_le id next.bridge reply
    simp only [step, hrespond, Option.map_some, Option.some.injEq] at hline hload
    subst hline
    rw [droppedForSize, decide_eq_false_iff_not, Nat.not_lt, ← Json.bytes]
    omega

/-- In a run whose steps are light no response is dropped for its size. -/
theorem light_responses_fit (options : RuntimeBridge.Options) (h : Host) (steps : List HostStep)
    (hlight : Machine.Along (step options) (Light options) h steps) :
    ∀ fired ∈ Machine.trace (step options) h steps, ∀ line, fired.output = some line → droppedForSize line = false := by
  intro fired hfired line hline
  have hfiredLight := Machine.along_iff_forall_mem_trace.1 hlight fired hfired
  obtain ⟨before, -, -, hfire⟩ := Machine.mem_trace hfired
  rw [hfire] at hline
  exact light_step (hfire ▸ hfiredLight) hline

/-- A command comes too early, a status shows a line with a token, and a command is written. -/
def lightRun : List HostStep :=
  [.sendServerCommand (.num "1") (some "list".toList), .lifecycle .start,
    .lifecycle (.launched 0 (.spawned Runtime.localServerIntent true)),
    .lifecycle (.data 0 .stdout "[09:30:00] invite=abc&token=def\n".toList),
    .statusRoom (.num "2") RoomController.initialVariables RoomController.noOverrides,
    .sendServerCommand (.num "3") (some "list".toList), .lifecycle (.written 1 none)]

theorem light_responses_fit_lightRun :
    ((Machine.trace (step loggingOptions) openingHost lightRun).filterMap Machine.Fired.output).length = 3 ∧
      ∀ fired ∈ Machine.trace (step loggingOptions) openingHost lightRun, ∀ line, fired.output = some line →
        droppedForSize line = false :=
  ⟨by decide +kernel, light_responses_fit loggingOptions openingHost lightRun (by decide +kernel)⟩

end EasyMc.Desktop.CommandHostProcess
