import EasyMc.Desktop.RoomController
import EasyMc.Desktop.RuntimeBridge

/-!
# The size of the command host's responses

The command host (`desktop-command-host-process.mjs`) writes one line for each command, and the broker
(`src-tauri/src/main.rs`) drops a line of more than `MAX_RESPONSE_BYTES`.  A status and the answer to a server command
return every event of the bridge, and the bridge forgets none: such a response has the bytes of the same response
without events, and those of the recorded events (`responseFrame_bytes`), which only grow (`historyBytes_mono`).  One
long line is enough to make every later status too long (`long_line_drops_status`).
-/

namespace EasyMc.Desktop.CommandHostProcess

open Regex
open RoomController (Variables Overrides withRoomReadiness)
open RuntimeBridge (Bridge)
open EasyMc.Runtime (Manager)

/-! ### The broker -/

def maxResponseBytes : Nat := 256 * 1024

/-- The test of `route_node_host_stdout_line` on a line. -/
def droppedForSize (line : List Char) : Bool := maxResponseBytes < Text.utf8Length line

/-! ### Responses that return the events -/

/-- A status of the room controller, with the readiness that the controller adds; or one of the three answers to a
server command. -/
inductive Reply
  | status (vars : Variables) (overrides : Overrides)
  | serverCommandUnavailable
  | serverCommandFailed (failure : Failure)
  | serverCommandSent

/-- The result of the command. -/
def Reply.result (b : Bridge) : Reply → Json
  | .status vars overrides => (withRoomReadiness vars (some (RuntimeBridge.status b)) overrides).response
  | .serverCommandUnavailable => (RuntimeBridge.serverCommandUnavailable b).toJson
  | .serverCommandFailed failure => (RuntimeBridge.serverCommandFailed b failure).toJson
  | .serverCommandSent => (RuntimeBridge.serverCommandSent b).toJson

/-- The frame of `handleCommandFrame` for a result. -/
def frame (id result : Json) : Json := .obj [("id", id), ("ok", .bool true), ("result", result)]

def responseFrame (id : Json) (b : Bridge) (reply : Reply) : Json :=
  frame id (CommandHost.sanitizeCommandResult (reply.result b))

/-- A recorded event as it stands in the response. -/
def Reply.shownEvent (reply : Reply) (event : Json) : Json :=
  let event := RuntimeBridge.sanitizeEvent event
  Json.redact CommandHost.redactor "" 2
    (match reply with
      | .status _ _ => Json.redact RoomController.redactor "" 2 event
      | _ => event)

/-- The bytes of the recorded events in the response, with the commas between them. -/
def Reply.historyBytes (reply : Reply) (events : List Json) : Nat := Json.itemsBytes (events.map reply.shownEvent)

/-- The bytes that the response would have without any recorded event. -/
def restBytes (id : Json) (b : Bridge) (reply : Reply) : Nat := (responseFrame id { b with events := [] } reply).bytes

/-! ### The host -/

/-- The bridge, and the server commands that wait to be written: the call of each and the id of its frame. -/
structure Host where
  bridge : Bridge
  waiting : List (Nat × Json)

/-- What happens in the host: the manager takes a step or samples its process, a command other than the two ends and
leaves its plan, state and failure in the bridge, or one of the two is answered or begun. -/
inductive HostStep
  | lifecycle (label : Runtime.Label)
  | metricsSampled (metrics : Option Json)
  | metricsUnavailable (message : List Char)
  | commandEnded (activePlan : Json) (lastState : RuntimeState) (lastFailure : Option Failure)
  | statusRoom (id : Json) (vars : Variables) (overrides : Overrides)
  | sendServerCommand (id : Json) (command : Option Runtime.Text)

/-- The answer to a server command for what the manager has returned. -/
def serverCommandReply (options : RuntimeBridge.Options) : Runtime.Output → Option Reply
  | .fail failure => some (.serverCommandFailed (RuntimeBridge.failure options failure))
  | .sent _ _ => some .serverCommandSent
  | _ => none

/-- The state after a step, with the id and the reply of a response that the step writes. -/
def respond (options : RuntimeBridge.Options) (h : Host) : HostStep → Option (Json × Reply) × Host
  | .lifecycle label =>
    let (output, bridge) := RuntimeBridge.lifecycleStep options h.bridge label
    match label with
    | .written call _ =>
      match h.waiting.lookup call with
      | none => (none, { h with bridge })
      | some id =>
        let waiting := h.waiting.filter fun entry => entry.1 != call
        let bridge := match output with
          | .sent _ _ => { bridge with lastFailure := none, lastState := RuntimeBridge.currentState bridge }
          | _ => bridge
        ((serverCommandReply options output).map (id, ·), { bridge, waiting })
    | _ => (none, { h with bridge })
  | .metricsSampled metrics => (none, { h with bridge := { h.bridge with lastMetrics := metrics } })
  | .metricsUnavailable message =>
    (none, { h with
      bridge := RuntimeBridge.recordLifecycleEvent h.bridge (RuntimeBridge.metricsUnavailable options message) })
  | .commandEnded activePlan lastState lastFailure =>
    (none, { h with bridge := { h.bridge with activePlan, lastState, lastFailure } })
  | .statusRoom id vars overrides => (some (id, .status vars overrides), h)
  | .sendServerCommand id command =>
    if RuntimeBridge.canSendServerCommand h.bridge then
      let (output, bridge) := RuntimeBridge.lifecycleStep options h.bridge (.sendCommand command)
      match output with
      | .waiting call => (none, { bridge, waiting := (call, id) :: h.waiting })
      | output => ((serverCommandReply options output).map (id, ·), { h with bridge })
    else (some (id, .serverCommandUnavailable), h)

/-- One step of the host: the line it writes, if it writes one, and the next state. -/
def step (options : RuntimeBridge.Options) (h : Host) (input : HostStep) : Option (List Char) × Host :=
  let (reply, next) := respond options h input
  (reply.map fun (id, reply) => (responseFrame id next.bridge reply).stringify, next)

/-! ### The bytes of a response -/

/-- The commands' results with their events, which stand between other fields. -/
theorem sanitizeCommandResult_events (start rest : List (String × Json)) (events : List Json) :
    CommandHost.sanitizeCommandResult (.obj (start ++ ("events", .arr events) :: rest)) =
      .obj (Json.redactFields CommandHost.redactor 1 start ++
        ("events", .arr (events.map (Json.redact CommandHost.redactor "" 2))) ::
          Json.redactFields CommandHost.redactor 1 rest) := by
  rw [CommandHost.sanitizeCommandResult, Json.redact, Json.redactFields_append, Json.redactFields_kept (by decide),
    Json.redact, Json.redactValues_eq_map]
  rfl

theorem frame_bytes (id : Json) (start rest : List (String × Json)) (events : List Json) :
    (frame id (CommandHost.sanitizeCommandResult (.obj (start ++ ("events", .arr events) :: rest)))).bytes =
      (frame id (CommandHost.sanitizeCommandResult (.obj (start ++ ("events", .arr []) :: rest)))).bytes +
        Json.itemsBytes (events.map (Json.redact CommandHost.redactor "" 2)) := by
  have hframe (result result' : Json) :
      (frame id result).bytes + result'.bytes = (frame id result').bytes + result.bytes :=
    Json.bytes_obj_field [("id", id), ("ok", .bool true)] [] "result" result result'
  have houter := hframe (CommandHost.sanitizeCommandResult (.obj (start ++ ("events", .arr events) :: rest)))
    (CommandHost.sanitizeCommandResult (.obj (start ++ ("events", .arr []) :: rest)))
  have hinner := Json.bytes_obj_field (Json.redactFields CommandHost.redactor 1 start)
    (Json.redactFields CommandHost.redactor 1 rest) "events"
    (.arr (events.map (Json.redact CommandHost.redactor "" 2))) (.arr [])
  rw [sanitizeCommandResult_events, sanitizeCommandResult_events, List.map_nil] at houter ⊢
  rw [Json.bytes_arr, Json.bytes_arr, Json.itemsBytes, List.map_nil, List.sum_nil] at hinner
  omega

/-- The fields of a status before and after its events. -/
def statusStart (dto : RuntimeDto) : List (String × Json) := Json.ofFields (dto.fields.take 5)

theorem toJson_events {dto : RuntimeDto} {events : List Json} (hevents : dto.events = some (.arr events)) :
    dto.toJson = .obj (statusStart dto ++ ("events", .arr events) :: Json.ofFields [("detail", dto.detail)]) := by
  have hfields : dto.fields = dto.fields.take 5 ++ ("events", some (.arr events)) :: [("detail", dto.detail)] := by
    simp [RuntimeDto.fields, hevents]
  have hsplit : Json.ofFields dto.fields =
      statusStart dto ++ ("events", .arr events) :: Json.ofFields [("detail", dto.detail)] := by
    rw [hfields]
    exact Json.ofFields_append (dto.fields.take 5) (("events", some (.arr events)) :: [("detail", dto.detail)])
  rw [RuntimeDto.toJson, Json.object, hsplit]

theorem response_events {dto : RoomDto} {events : List Json} (hevents : dto.runtime.events = some (.arr events)) :
    dto.response = .obj (Json.redactFields RoomController.redactor 1 (statusStart dto.runtime) ++
      ("events", .arr (events.map (Json.redact RoomController.redactor "" 2))) ::
        Json.redactFields RoomController.redactor 1 (Json.ofFields (dto.fields.drop 6))) := by
  have hfields : dto.fields = dto.runtime.fields.take 5 ++ ("events", some (.arr events)) :: dto.fields.drop 6 := by
    simp [RoomDto.fields, RuntimeDto.fields, hevents]
  have hsplit : Json.ofFields dto.fields =
      statusStart dto.runtime ++ ("events", .arr events) :: Json.ofFields (dto.fields.drop 6) := by
    rw [hfields]
    exact Json.ofFields_append (dto.runtime.fields.take 5) (("events", some (.arr events)) :: dto.fields.drop 6)
  rw [RoomDto.response, RoomDto.toJson, Json.object, hsplit, RoomController.sanitizeValue, Json.redact,
    Json.redactFields_append, Json.redactFields_kept (by decide), Json.redact, Json.redactValues_eq_map]
  rfl

/-- A response has the bytes of the recorded events and those of the same response without them. -/
theorem responseFrame_bytes (id : Json) (b : Bridge) (reply : Reply) :
    (responseFrame id b reply).bytes = reply.historyBytes b.events + restBytes id b reply := by
  have hevents (c : Bridge) : RuntimeBridge.sanitizeEvents (RuntimeBridge.mergedLifecycleEvents c) =
      c.events.map RuntimeBridge.sanitizeEvent := by
    simp [RuntimeBridge.mergedLifecycleEvents, RuntimeBridge.sanitizeEvents]
  have hcommand {dto dto' : RuntimeDto} (hdto : dto.events = some (.arr (b.events.map RuntimeBridge.sanitizeEvent)))
      (hdto' : dto'.events = some (.arr [])) (hstart : statusStart dto = statusStart dto')
      (hdetail : dto.detail = dto'.detail) :
      (frame id (CommandHost.sanitizeCommandResult dto.toJson)).bytes =
        Json.itemsBytes (b.events.map fun event =>
            Json.redact CommandHost.redactor "" 2 (RuntimeBridge.sanitizeEvent event)) +
          (frame id (CommandHost.sanitizeCommandResult dto'.toJson)).bytes := by
    rw [toJson_events hdto, toJson_events hdto', hstart, hdetail, frame_bytes, List.map_map, Nat.add_comm]
    rfl
  have hdto (state : RuntimeState) (summary : String) (failure : Option Failure) (metrics : Option Json) :
      (RuntimeBridge.dto b state summary failure metrics).events =
        some (.arr (b.events.map RuntimeBridge.sanitizeEvent)) := by
    rw [← hevents]
    rfl
  rw [restBytes]
  cases reply with
  | status vars overrides =>
    have hwith : (withRoomReadiness vars (some (RuntimeBridge.status b)) overrides).response = _ :=
      response_events (hdto _ _ _ _)
    have hwithout :
        (withRoomReadiness vars (some (RuntimeBridge.status { b with events := [] })) overrides).response = _ :=
      response_events (rfl : _ = some (Json.arr []))
    simp only [responseFrame, Reply.result]
    rw [hwith, hwithout, frame_bytes, List.map_map, List.map_map, Nat.add_comm]
    rfl
  | serverCommandUnavailable => exact hcommand (hdto _ _ _ _) rfl rfl rfl
  | serverCommandFailed failure => exact hcommand (hdto _ _ _ _) rfl rfl rfl
  | serverCommandSent => exact hcommand (hdto _ _ _ _) rfl rfl rfl

/-! ### The history only grows -/

variable {options : RuntimeBridge.Options}

theorem lifecycleStep_events (b : Bridge) (label : Runtime.Label) :
    b.events <+: (RuntimeBridge.lifecycleStep options b label).2.events := by
  unfold RuntimeBridge.lifecycleStep
  cases b.lifecycleManager with
  | none => exact List.prefix_rfl
  | some manager =>
    dsimp only
    rw [RuntimeBridge.recordLifecycleEvents_eq]
    exact List.prefix_append _ _

/-- A step forgets no event. -/
theorem step_events (h : Host) (input : HostStep) : h.bridge.events <+: (step options h input).2.bridge.events := by
  change h.bridge.events <+: (respond options h input).2.bridge.events
  cases input with
  | lifecycle label =>
    have hlabel := @lifecycleStep_events options h.bridge label
    cases label
    case written call error =>
      simp only [respond]
      cases h.waiting.lookup call with
      | none => exact hlabel
      | some id =>
        dsimp only
        split
        · exact hlabel
        · exact hlabel
    all_goals exact hlabel
  | metricsSampled metrics => exact List.prefix_rfl
  | metricsUnavailable message => exact List.prefix_append _ _
  | commandEnded activePlan lastState lastFailure => exact List.prefix_rfl
  | statusRoom id vars overrides => exact List.prefix_rfl
  | sendServerCommand id command =>
    have hlabel := @lifecycleStep_events options h.bridge (.sendCommand command)
    simp only [respond]
    split
    · split
      · exact hlabel
      · exact hlabel
    · exact List.prefix_rfl

/-- The events recorded before a run take no more bytes than those after it. -/
theorem historyBytes_mono (reply : Reply) (h : Host) (steps : List HostStep) :
    reply.historyBytes h.bridge.events ≤ reply.historyBytes (Machine.run (step options) h steps).bridge.events := by
  have hprefix : h.bridge.events <+: (Machine.run (step options) h steps).bridge.events :=
    Machine.run_invariant (I := fun h' => h.bridge.events <+: h'.bridge.events) (P := fun _ _ => True)
      (fun h' input hpre _ => hpre.trans (step_events h' input)) List.prefix_rfl (.of_forall (fun _ _ => trivial) _)
  obtain ⟨later, hlater⟩ := hprefix
  rw [← hlater, Reply.historyBytes, Reply.historyBytes, List.map_append]
  exact Json.itemsBytes_le_append _ _

/-! ### One long line -/

section LongLine

/-- A character of the line `aaa...`. -/
private def isOther (c : Char) : Bool := c ≠ 'a'

private theorem needs_chr {c : Char} (h : c ≠ 'a') : (chr c).Needs isOther := by
  intro d hd
  obtain rfl : d = c := by simpa using hd
  simpa [isOther] using h

private theorem isOther_of {f : Char → Bool} (h : f 'a' = false) (c : Char) (hc : f c = true) : isOther c = true := by
  have hne : c ≠ 'a' := by
    rintro rfl
    rw [h] at hc
    cases hc
  simpa [isOther] using hne

private theorem applyRules_plain {rules : List Rule} (hrules : ∀ rule ∈ rules, rule.pattern.Needs isOther)
    {text : List Char} (htext : ∀ c ∈ text, isOther c = false) : applyRules rules text = text := by
  unfold applyRules
  induction rules with
  | nil => rfl
  | cons rule rules ih =>
    rw [List.foldl_cons, Regex.replaceAll_of_not_needs (hrules rule (by simp)) rule.replacement htext]
    exact ih fun rule hrule => hrules rule (by simp [hrule])

private theorem addressRules_need : ∀ rule ∈ addressRules, rule.pattern.Needs isOther := by
  intro rule hrule
  simp only [addressRules, List.mem_cons, List.not_mem_nil, or_false] at hrule
  rcases hrule with rfl | rfl | rfl | rfl
  · exact .inr (.inl ⟨by decide, .inr (needs_chr (by decide))⟩)
  · exact .inl (needs_chr (by decide))
  · exact .inr (.inr (.inl (needs_chr (by decide))))
  · exact .inr (.inl (needs_chr (by decide)))

private theorem credentialRules_need (names : List String) :
    ∀ rule ∈ credentialRules names, rule.pattern.Needs isOther := by
  intro rule hrule
  simp only [credentialRules, List.mem_cons, List.not_mem_nil, or_false] at hrule
  rcases hrule with rfl | rfl
  · exact .inr (.inr (.inl (needs_chr (by decide))))
  · exact .inr (.inr (.inl ⟨by decide, isOther_of (by decide)⟩))

private theorem uuidText_needs : uuidText.Needs isOther := .inr (.inl (.inr (.inl (needs_chr (by decide)))))

private theorem hostLogRules_need : ∀ rule ∈ RuntimeBridge.hostLogRules, rule.pattern.Needs isOther := by
  have hassignment (name : String) (h : ∃ c rest, name.toList = c :: rest ∧ ignoreCase (· = c) 'a' = false) :
      (RuntimeBridge.assignment name).Needs isOther := by
    obtain ⟨c, rest, hname, hc⟩ := h
    refine .inl ?_
    change (literalI (name.toList ++ ['='])).Needs isOther
    rw [hname]
    exact .inl (isOther_of hc)
  intro rule hrule
  simp only [RuntimeBridge.hostLogRules, List.mem_cons, List.not_mem_nil, or_false] at hrule
  rcases hrule with rfl | rfl | rfl | rfl | rfl | rfl | rfl | rfl | rfl
  · exact addressRules_need _ (by simp [addressRules])
  · exact addressRules_need _ (by simp [addressRules])
  · exact addressRules_need _ (by simp [addressRules])
  · exact .inr (.inl (needs_chr (by decide)))
  · exact hassignment "token" ⟨'t', "oken".toList, rfl, by decide⟩
  · exact hassignment "invite" ⟨'i', "nvite".toList, rfl, by decide⟩
  · exact hassignment "secret" ⟨'s', "ecret".toList, rfl, by decide⟩
  · exact .inr (.inl (needs_chr (by decide)))
  · exact uuidText_needs

/-- A line of `n` letters. -/
def longLine (n : Nat) : List Char := List.replicate n 'a'

private theorem longLine_plain {n : Nat} : ∀ c ∈ longLine n, isOther c = false := by
  intro c hc
  rw [List.eq_of_mem_replicate hc]
  rfl

theorem redactHostLogLine_longLine (n : Nat) : RuntimeBridge.redactHostLogLine (longLine n) = longLine n := by
  have hstart : RuntimeBridge.startsAsPath.Needs isOther :=
    ⟨.inr (.inr (.inl (needs_chr (by decide)))), .inr (.inl (needs_chr (by decide)))⟩
  rw [RuntimeBridge.redactHostLogLine, Regex.test_of_not_needs hstart longLine_plain,
    applyRules_plain hostLogRules_need longLine_plain]
  rfl

theorem controller_redact_longLine (n : Nat) :
    RoomController.redactSecretString (String.ofList (longLine n)) = String.ofList (longLine n) := by
  have hrules : ∀ rule ∈ addressRules ++ credentialRules RoomController.secretNames, rule.pattern.Needs isOther := by
    intro rule hrule
    exact (List.mem_append.1 hrule).elim (addressRules_need rule) (credentialRules_need _ rule)
  rw [RoomController.redactSecretString, String.toList_ofList, applyRules_plain hrules longLine_plain]

theorem host_redact_longLine (n : Nat) :
    CommandHost.redactSecretString (String.ofList (longLine n)) = String.ofList (longLine n) := by
  have hstart : (all [.start, .char isLetter, chr ':', .char fun c => c = '\\' || c = '/']).Needs isOther :=
    .inr (.inr (.inl (needs_chr (by decide))))
  have hrules : ∀ rule ∈ addressRules ++ credentialRules RoomController.secretNames ++
      [⟨uuidText, [.text "[redacted]"]⟩, ⟨emailAddress, [.text "[redacted]"]⟩], rule.pattern.Needs isOther := by
    intro rule hrule
    simp only [List.mem_append, List.mem_cons, List.not_mem_nil, or_false] at hrule
    rcases hrule with (h | h) | rfl | rfl
    · exact addressRules_need rule h
    · exact credentialRules_need _ rule h
    · exact uuidText_needs
    · exact .inr (.inr (.inl (needs_chr (by decide))))
  rw [CommandHost.redactSecretString, String.toList_ofList, Regex.test_of_not_needs hstart longLine_plain,
    applyRules_plain hrules longLine_plain]
  rfl

/-- The line of a log event, as a status shows it. -/
theorem shownEvent_line (options : RuntimeBridge.Options) (vars : Variables) (overrides : Overrides) (n : Nat)
    (roomId : Option String) (stream : Runtime.OutputStream) (sequence : Nat) :
    ((Reply.status vars overrides).shownEvent (RuntimeBridge.sanitizeEvent
      (RuntimeBridge.eventJson options ⟨roomId, .log stream (longLine n) sequence⟩))).member "line" =
        some (RuntimeBridge.text (longLine n)) := by
  have hline : (RuntimeBridge.eventJson options ⟨roomId, .log stream (longLine n) sequence⟩).member "line" =
      some (RuntimeBridge.text (longLine n)) := by
    rw [RuntimeBridge.eventJson, Json.member_object (by simp [RuntimeBridge.eventFields])]
    rfl
  have hbridge (event : Json) (h : event.member "line" = some (RuntimeBridge.text (longLine n))) :
      (RuntimeBridge.sanitizeEvent event).member "line" = some (RuntimeBridge.text (longLine n)) := by
    have htext : RuntimeBridge.redactor.text "line" (0 + 1) (String.ofList (longLine n)) =
        String.ofList (longLine n) := by
      change String.ofList (RuntimeBridge.redactHostLogLine (String.ofList (longLine n)).toList) = _
      rw [String.toList_ofList, redactHostLogLine_longLine]
    rw [RuntimeBridge.sanitizeEvent, RuntimeBridge.sanitizeValue, Json.member_redact, if_neg (by decide), h,
      Option.map_some, RuntimeBridge.text, Json.redact, htext]
  rw [Reply.shownEvent]
  rw [Json.member_redact, if_neg (by decide), Json.member_redact, if_neg (by decide), hbridge _ (hbridge _ hline),
    Option.map_some, Option.map_some, RuntimeBridge.text, Json.redact, Json.redact]
  have hcontroller : RoomController.redactor.text "line" (2 + 1) (String.ofList (longLine n)) =
      String.ofList (longLine n) := controller_redact_longLine n
  have hhost : CommandHost.redactor.text "line" (2 + 1) (String.ofList (longLine n)) = String.ofList (longLine n) :=
    host_redact_longLine n
  rw [hcontroller, hhost]

/-- A history that holds a log line of `n` letters takes at least `n` bytes. -/
theorem length_le_historyBytes {options : RuntimeBridge.Options} {events : List Json} {n : Nat}
    {roomId : Option String} {stream : Runtime.OutputStream} {sequence : Nat}
    (h : RuntimeBridge.sanitizeEvent (RuntimeBridge.eventJson options ⟨roomId, .log stream (longLine n) sequence⟩) ∈
      events) (vars : Variables) (overrides : Overrides) :
    n ≤ (Reply.status vars overrides).historyBytes events := by
  have hmember := Json.bytes_member_le (shownEvent_line options vars overrides n roomId stream sequence)
  have hevent := Json.bytes_le_itemsBytes (List.mem_map.2 ⟨_, h, rfl⟩ :
    (Reply.status vars overrides).shownEvent _ ∈ events.map (Reply.status vars overrides).shownEvent)
  have hline := Json.length_le_bytes_str (String.ofList (longLine n))
  rw [String.toList_ofList, longLine, List.length_replicate] at hline
  rw [Reply.historyBytes]
  exact (hline.trans hmember).trans hevent

/-! ### A room that logs one long line -/

/-- A log line is reported, whatever else it does. -/
theorem log_mem_onLog (options : Runtime.Options) (m : Manager) (stream : Runtime.OutputStream) (line : List Char) :
    ⟨options.roomId, .log stream (options.redactHostLogLine line) (m.logSequence + 1)⟩ ∈
      (Runtime.onLog options m stream line).events := by
  unfold Runtime.onLog
  dsimp only
  split_ifs <;> simp [Runtime.emit]

theorem splitLines_longLine (n : Nat) : Runtime.splitLines (longLine (n + 1) ++ ['\n']) = ([longLine (n + 1)], []) := by
  induction n with
  | zero => rfl
  | succ n ih =>
    rw [longLine, List.replicate_succ, List.cons_append, Runtime.splitLines, ← longLine, ih]
    · rfl
    · rintro rest h
      cases h

theorem trim_longLine (n : Nat) : Text.trim (longLine n) = longLine n := by
  have hdrop : (longLine n).dropWhile Text.isBlank = longLine n := by
    cases n with
    | zero => rfl
    | succ n => rfl
  rw [Text.trim, Text.trimBy, hdrop, longLine, List.reverse_replicate, ← longLine, hdrop, longLine, List.reverse_replicate]

theorem pushChunk_longLine (n : Nat) :
    Runtime.pushChunk [] (longLine (n + 1) ++ ['\n']) = ([longLine (n + 1)], []) := by
  rw [Runtime.pushChunk, List.nil_append, splitLines_longLine]
  simp only [Runtime.emittedLines, List.map_cons, List.map_nil, trim_longLine]
  rfl

/-- The bridge records a long line that a process without other output writes. -/
theorem lifecycleStep_longLine {options : RuntimeBridge.Options} {b : Bridge} {m : Manager} {process : Runtime.Child}
    (hm : b.lifecycleManager = some m) (hevents : m.events = []) (hprocess : m.children[0]? = some process)
    (hstdout : process.stdout = []) (n : Nat) :
    RuntimeBridge.sanitizeEvent (RuntimeBridge.eventJson options
        ⟨options.runtime.roomId,
          .log .stdout (options.runtime.redactHostLogLine (longLine (n + 1))) (m.logSequence + 1)⟩) ∈
      (RuntimeBridge.lifecycleStep options b (.data 0 .stdout (longLine (n + 1) ++ ['\n']))).2.events := by
  have hdata : Runtime.onData options.runtime m 0 .stdout (longLine (n + 1) ++ ['\n']) =
      Runtime.onLog options.runtime { m with children := m.children.set 0 { process with stdout := [] } } .stdout
        (longLine (n + 1)) := by
    simp only [Runtime.onData, hprocess, hstdout, pushChunk_longLine]
    rfl
  have hlog := log_mem_onLog options.runtime
    { m with children := m.children.set 0 { process with stdout := [] } } .stdout (longLine (n + 1))
  have hlength : m.events.length = 0 := by rw [hevents, List.length_nil]
  simp only [RuntimeBridge.lifecycleStep, hm, Runtime.step, hdata, RuntimeBridge.recordLifecycleEvents_eq, hlength,
    List.drop_zero, RuntimeBridge.sanitizeEvents, List.map_map]
  exact List.mem_append.2 (.inr (List.mem_map.2 ⟨_, hlog, rfl⟩))

end LongLine

/-- The options of a room whose patterns are tested as in `sampleOptions`. -/
def loggingOptions : RuntimeBridge.Options :=
  { runtime := { Runtime.sampleOptions with redactHostLogLine := RuntimeBridge.redactHostLogLine }
    launchFailure := fun reason => RuntimeBridge.fail reason "" .null
    stopIntentFailure := .null }

/-- A bridge that opens its room. -/
def openingHost : Host :=
  { bridge :=
      { activePlan := .obj [], lifecycleManager := some Runtime.createLocalServerLifecycleManager, lastMetrics := none,
        events := [], lastState := .opening, lastFailure := none }
    waiting := [] }

/-- The server starts and writes a line of `n` letters, and a status is asked for. -/
def longLineRun (n : Nat) : List HostStep :=
  [.lifecycle .start, .lifecycle (.launched 0 (.spawned Runtime.localServerIntent true)),
    .lifecycle (.data 0 .stdout (longLine n ++ ['\n'])),
    .statusRoom (.num "1") RoomController.initialVariables RoomController.noOverrides]

/-- The status is not dropped only if the line fits. -/
theorem longLineRun_fits {n : Nat}
    (h : ∀ fired ∈ Machine.trace (step loggingOptions) openingHost (longLineRun (n + 1)), ∀ line,
      fired.output = some line → droppedForSize line = false) :
    n + 1 ≤ maxResponseBytes := by
  have hredact : loggingOptions.runtime.redactHostLogLine (longLine (n + 1)) = longLine (n + 1) :=
    redactHostLogLine_longLine (n + 1)
  have hrecorded := @lifecycleStep_longLine loggingOptions
    (step loggingOptions (step loggingOptions openingHost (.lifecycle .start)).2
      (.lifecycle (.launched 0 (.spawned Runtime.localServerIntent true)))).2.bridge _ _ rfl rfl rfl rfl n
  rw [hredact] at hrecorded
  have hlength := length_le_historyBytes hrecorded RoomController.initialVariables RoomController.noOverrides
  have hstatus := h _ (.tail _ (.tail _ (.tail _ (.head _)))) _ rfl
  rw [droppedForSize, decide_eq_false_iff_not, Nat.not_lt, ← Json.bytes] at hstatus
  have hbytes := responseFrame_bytes (.num "1")
    (Machine.run (step loggingOptions) openingHost ((longLineRun (n + 1)).take 3)).bridge
    (.status RoomController.initialVariables RoomController.noOverrides)
  exact (hlength.trans (Nat.le_add_right _ _)).trans (hbytes.ge.trans hstatus)

/-- After a line of more bytes than a response may have, the status is dropped. -/
theorem long_line_drops_status :
    ¬ ∀ fired ∈ Machine.trace (step loggingOptions) openingHost (longLineRun (maxResponseBytes + 1)), ∀ line,
      fired.output = some line → droppedForSize line = false :=
  fun h => Nat.not_succ_le_self _ (longLineRun_fits h)

end EasyMc.Desktop.CommandHostProcess
