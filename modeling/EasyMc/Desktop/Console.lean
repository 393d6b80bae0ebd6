import EasyMc.Desktop.Egress
import EasyMc.Library.Recent

/-!
# The console of the window (`apps/desktop/state.js`)

The console shows the last 240 lines.  Results, events and commands add to it and cut it again; the line of an error is
added without a cut.  So the console is bounded as long as no error adds a line to a full one
(`consoleLines_bounded_iff`).

A result carries the events of the whole history, and a line that is shown already is not added again.  But it is
compared with the lines that are left after the cut: a result that is applied a second time leaves the console as it is
only if none of its lines has been cut off (`bridgeResult_again_iff`).
-/

namespace EasyMc.Desktop

variable {builtins : Builtins}

/-! ### The lines that are added -/

/-- The line of a `bridge:error` action. -/
def errorLine (builtins : Builtins) (message : Option Json) : String :=
  "[오류] " ++ redactUiValue builtins ((Json.present message).or (some (.str "요청을 처리하지 못했습니다.")))

/-- The lines of a result's events. -/
def eventLines (builtins : Builtins) (result : Json) : List String :=
  match (result.member "events").bind Json.asArr with
  | some events => (events.filterMap (formatConsoleEvent builtins)).filter fun line => line ≠ ""
  | none => []

/-- The line of a result's failure, if it has a message. -/
def failureLines (builtins : Builtins) (result : Json) : List String :=
  if Json.holds (result.path ["failure", "message"]) then
    ["[오류] " ++ redactUiValue builtins (result.path ["failure", "message"])]
  else []

/-- The lines that a result adds to the console, as far as they are not there. -/
def resultLines (builtins : Builtins) (result : Json) : List String :=
  eventLines builtins result ++ failureLines builtins result

theorem error_ne_empty (text : String) : "[오류] " ++ text ≠ "" := by
  intro h
  have hlist := congrArg String.toList h
  rw [String.toList_append] at hlist
  cases hlist

theorem mergeConsoleLines_eq {existing next : List String} (h : ∀ line ∈ next, line ≠ "") :
    mergeConsoleLines existing next = Recent.addNew existing next := by
  unfold mergeConsoleLines Recent.addNew
  induction next generalizing existing with
  | nil => rfl
  | cons line next ih =>
    rw [List.forall_mem_cons] at h
    rw [List.foldl_cons, List.foldl_cons, ih h.2]
    by_cases hline : line ∈ existing
    · simp [hline]
    · simp [hline, h.1]

theorem mergeConsoleLines_error (existing : List String) (text : String) :
    mergeConsoleLines existing ["[오류] " ++ text] =
      if "[오류] " ++ text ∈ existing then existing else existing ++ ["[오류] " ++ text] := by
  rw [mergeConsoleLines_eq (by simp)]
  rfl

theorem lastConsoleLines_eq (lines : List String) : lastConsoleLines lines = lines.rtake 240 := rfl

theorem length_lastConsoleLines (lines : List String) : (lastConsoleLines lines).length ≤ 240 := by
  rw [lastConsoleLines_eq, Recent.length_rtake]
  exact Nat.min_le_left _ _

theorem consoleLinesFromBridgeResult_eq (result : Json) (state : RoomState) :
    consoleLinesFromBridgeResult builtins result state =
      (Recent.addNew state.consoleLines (resultLines builtins result)).rtake 240 := by
  have hmerge : ∀ lines : List String, mergeConsoleLines lines (failureLines builtins result) =
      Recent.addNew lines (failureLines builtins result) := by
    intro lines
    refine mergeConsoleLines_eq fun line hline => ?_
    unfold failureLines at hline
    split_ifs at hline
    · rw [List.mem_singleton.1 hline]
      exact error_ne_empty _
    · cases hline
  have hfailure : ∀ lines : List String, (if Json.holds (result.path ["failure", "message"]) then
      mergeConsoleLines lines ["[오류] " ++ redactUiValue builtins (result.path ["failure", "message"])] else lines) =
        Recent.addNew lines (failureLines builtins result) := by
    intro lines
    rw [← hmerge, failureLines]
    split_ifs
    · rfl
    · rfl
  unfold consoleLinesFromBridgeResult
  dsimp only
  rw [hfailure, lastConsoleLines_eq, resultLines, Recent.addNew_append]
  unfold eventLines
  cases (result.member "events").bind Json.asArr with
  | none => rfl
  | some events =>
    dsimp only
    rw [mergeConsoleLines_eq]
    intro line hline
    exact of_decide_eq_true (List.mem_filter.1 hline).2

theorem applyBridgeResult_consoleLines (state : RoomState) (result : Json) (command : Option Json) :
    (applyBridgeResult builtins state result command).consoleLines =
      consoleLinesFromBridgeResult builtins result state := by
  rw [applyBridgeResult]

theorem bridgeResult_consoleLines (state : RoomState) (result command : Option Json) :
    (reduceRoomState builtins state (.bridgeResult result command)).consoleLines =
      (Recent.addNew state.consoleLines (resultLines builtins ((Json.present result).getD (.obj [])))).rtake 240 := by
  rw [reduceRoomState, applyBridgeResult_consoleLines, consoleLinesFromBridgeResult_eq]

theorem consoleAppend_consoleLines (state : RoomState) (line : Option Json) :
    (reduceRoomState builtins state (.consoleAppend line)).consoleLines =
      lastConsoleLines ((state.consoleLines ++ [redactUiValue builtins line]).filter fun line => line ≠ "") := by
  rw [reduceRoomState]

theorem bridgeError_consoleLines (state : RoomState) (command message diagnostics : Option Json) :
    (reduceRoomState builtins state (.bridgeError command message diagnostics)).consoleLines =
      mergeConsoleLines state.consoleLines [errorLine builtins message] :=
  rfl

theorem applyRuntimeEvent_consoleLines (state : RoomState) (event : Json) :
    (applyRuntimeEvent builtins state event).consoleLines = state.consoleLines ∨
      ∃ line, (applyRuntimeEvent builtins state event).consoleLines =
        lastConsoleLines (mergeConsoleLines state.consoleLines [line]) := by
  unfold applyRuntimeEvent
  dsimp only
  split
  · exact .inr ⟨_, rfl⟩
  · exact .inl rfl

/-! ### How many lines there are -/

/-- The action adds no error line to a full console. -/
def ErrorFits (builtins : Builtins) (state : RoomState) : Action → Prop
  | .bridgeError _ message _ => state.consoleLines.length < 240 ∨ errorLine builtins message ∈ state.consoleLines
  | _ => True

/-- One action keeps the bound exactly if it adds no error line to a full console. -/
theorem length_reduceRoomState_iff {state : RoomState} (h : state.consoleLines.length ≤ 240) (action : Action) :
    (reduceRoomState builtins state action).consoleLines.length ≤ 240 ↔ ErrorFits builtins state action := by
  cases action with
  | bridgeError command message diagnostics =>
    rw [bridgeError_consoleLines, ErrorFits, errorLine, mergeConsoleLines_error]
    split_ifs with hshown
    · exact iff_of_true h (.inr hshown)
    · rw [List.length_append, List.length_singleton, or_iff_left hshown, Nat.succ_le_iff]
  | bridgeResult result command =>
    rw [bridgeResult_consoleLines, Recent.length_rtake]
    exact iff_of_true (Nat.min_le_left _ _) trivial
  | consoleAppend line =>
    rw [consoleAppend_consoleLines]
    exact iff_of_true (length_lastConsoleLines _) trivial
  | runtimeEvent event =>
    refine iff_of_true ?_ trivial
    rw [reduceRoomState]
    rcases applyRuntimeEvent_consoleLines state ((Json.present event).getD (.obj [])) with hkept | ⟨line, hadded⟩
    · rw [hkept]
      exact h
    · rw [hadded]
      exact length_lastConsoleLines _
  | bridgePending command status => exact iff_of_true h trivial
  | catalogSelect modId => exact iff_of_true h trivial
  | approve => exact iff_of_true h trivial
  | deny => exact iff_of_true h trivial
  | reset => exact iff_of_true (Nat.zero_le _) trivial
  | other => exact iff_of_true h trivial

theorem windowState_concat (actions : List Action) (action : Action) :
    windowState builtins (actions ++ [action]) = reduceRoomState builtins (windowState builtins actions) action := by
  simp [windowState]

/-- In a run of the window the console never holds more than 240 lines if and only if no error adds its line to a full
console. -/
theorem consoleLines_bounded_iff (builtins : Builtins) (actions : List Action) :
    (∀ before, before <+: actions → (windowState builtins before).consoleLines.length ≤ 240) ↔
      ∀ before action, before ++ [action] <+: actions → ErrorFits builtins (windowState builtins before) action := by
  constructor
  · intro h before action hstart
    have hafter := h _ hstart
    rw [windowState_concat] at hafter
    exact (length_reduceRoomState_iff (h before ((List.prefix_append _ _).trans hstart)) action).1 hafter
  · intro h before
    induction before using List.reverseRecOn with
    | nil => exact fun _ => Nat.zero_le _
    | append_singleton before action ih =>
      intro hstart
      rw [windowState_concat]
      exact (length_reduceRoomState_iff (ih ((List.prefix_append _ _).trans hstart)) action).2 (h before action hstart)

/-- Lines that are typed stand in the console. -/
theorem typed_consoleLines (hredact : builtins.redactUiText = id) {lines : List String}
    (hlines : ∀ line ∈ lines, line ≠ "") (hshort : lines.length ≤ 240) :
    (windowState builtins (lines.map fun line => .consoleAppend (some (.str line)))).consoleLines = lines := by
  induction lines using List.reverseRecOn with
  | nil => rfl
  | append_singleton lines line ih =>
    rw [List.forall_mem_append] at hlines
    rw [List.length_append, List.length_singleton] at hshort
    rw [List.map_append, List.map_singleton, windowState_concat]
    have hshown : redactUiValue builtins (some (.str line)) = line := by
      rw [redactUiValue, hredact]
      rfl
    have hkept : ((lines ++ [line]).filter fun line => line ≠ "") = lines ++ [line] := by
      rw [List.filter_eq_self]
      intro line' hline'
      rcases List.mem_append.1 hline' with hold | hnew
      · exact decide_eq_true (hlines.1 line' hold)
      · exact decide_eq_true (hlines.2 line' hnew)
    rw [consoleAppend_consoleLines, ih hlines.1 (by omega), hshown, hkept, lastConsoleLines_eq,
      Recent.rtake_of_length_le]
    rw [List.length_append, List.length_singleton]
    exact hshort

/-- A full console, as it is after 240 lines of a chat. -/
def fullConsole : List Action := (List.replicate 240 "say hi").map fun line => .consoleAppend (some (.str line))

theorem fullConsole_consoleLines : (windowState sharedBuiltins fullConsole).consoleLines = List.replicate 240 "say hi" := by
  refine typed_consoleLines rfl (fun line hline => ?_) (by rw [List.length_replicate])
  rw [List.eq_of_mem_replicate hline]
  decide

/-- An error adds one line more. -/
theorem error_exceeds_console :
    ¬ ∀ (builtins : Builtins) (actions : List Action), (windowState builtins actions).consoleLines.length ≤ 240 := by
  intro h
  have hlength := h sharedBuiltins (fullConsole ++ [.bridgeError none none none])
  have hfull : (windowState sharedBuiltins fullConsole).consoleLines.length ≤ 240 := h sharedBuiltins fullConsole
  rw [windowState_concat, length_reduceRoomState_iff hfull] at hlength
  rcases hlength with hshort | hshown
  · rw [fullConsole_consoleLines, List.length_replicate] at hshort
    omega
  · rw [fullConsole_consoleLines] at hshown
    exact absurd (List.eq_of_mem_replicate hshown) (by decide)

/-! ### A result that is applied again -/

/-- The lines of a result stay in the console: the new ones are no more than 240, and the others are among those that the
new ones leave. -/
def StayShown (lines resultLines : List String) : Prop :=
  let added := (resultLines.filter fun line => line ∉ lines).dedup.length
  added ≤ 240 ∧ ∀ line ∈ resultLines, line ∈ lines → line ∈ lines.rtake (240 - added)

/-- Applying a result again changes nothing exactly if its lines stay in the console. -/
theorem rtake_again_iff (lines resultLines : List String) :
    (Recent.addNew ((Recent.addNew lines resultLines).rtake 240) resultLines).rtake 240 =
      (Recent.addNew lines resultLines).rtake 240 ↔ StayShown lines resultLines := by
  rw [Recent.rtake_addNew_again_iff (by decide), Recent.forall_mem_rtake_addNew_iff, Recent.length_news]
  rfl

/-- The same result a second time leaves the lines of the console as they are if and only if none of its lines has left
the console the first time. -/
theorem bridgeResult_again_iff (builtins : Builtins) (state : RoomState) (result command : Option Json) :
    (reduceRoomState builtins (reduceRoomState builtins state (.bridgeResult result command))
        (.bridgeResult result command)).consoleLines =
      (reduceRoomState builtins state (.bridgeResult result command)).consoleLines ↔
    StayShown state.consoleLines (resultLines builtins ((Json.present result).getD (.obj []))) := by
  rw [bridgeResult_consoleLines, bridgeResult_consoleLines]
  exact rtake_again_iff _ _

/-- A log of the server with a line for each of the texts. -/
def serverLog (lines : List String) : Json :=
  .obj [("events", .arr (lines.map fun line => .obj [("type", .str "runtime.log"), ("line", .str line)]))]

/-- The first line of the log, and the lines of a chat that fill the console. -/
def chatAfterLog : List Action :=
  ("[server] starting" :: List.replicate 239 "say hi").map fun line => .consoleAppend (some (.str line))

/-- The log has one line more by then; polling twice moves its first line to the end. -/
theorem log_line_moves :
    ¬ ∀ (builtins : Builtins) (actions : List Action) (result command : Option Json),
      (reduceRoomState builtins (reduceRoomState builtins (windowState builtins actions) (.bridgeResult result command))
          (.bridgeResult result command)).consoleLines =
        (reduceRoomState builtins (windowState builtins actions) (.bridgeResult result command)).consoleLines := by
  intro h
  have hagain := h sharedBuiltins chatAfterLog (some (serverLog ["starting", "done"])) none
  have hlines : (windowState sharedBuiltins chatAfterLog).consoleLines =
      "[server] starting" :: List.replicate 239 "say hi" := by
    refine typed_consoleLines rfl (fun line hline => ?_) (by rw [List.length_cons, List.length_replicate])
    rcases List.mem_cons.1 hline with rfl | hline
    · decide
    · rw [List.eq_of_mem_replicate hline]
      decide
  rw [bridgeResult_consoleLines, bridgeResult_consoleLines, rtake_again_iff, hlines] at hagain
  have hresult : resultLines sharedBuiltins ((Json.present (some (serverLog ["starting", "done"]))).getD (.obj [])) =
      ["[server] starting", "[server] done"] := by decide +kernel
  have hchat : ∀ line, line ∈ "[server] starting" :: List.replicate 239 "say hi" ↔
      line = "[server] starting" ∨ line = "say hi" := by
    intro line
    rw [List.mem_cons, List.mem_replicate, and_iff_right (by decide)]
  have hnew : (["[server] starting", "[server] done"].filter fun line =>
      line ∉ "[server] starting" :: List.replicate 239 "say hi") = ["[server] done"] := by
    simp only [hchat]
    decide
  rw [hresult, StayShown, hnew] at hagain
  -- The cut for the new line takes the first line of the log away.
  have hleft := hagain.2 "[server] starting" List.mem_cons_self List.mem_cons_self
  have hcut : ("[server] starting" :: List.replicate 239 "say hi").rtake 239 = List.replicate 239 "say hi" := by
    rw [List.rtake, List.length_cons, List.length_replicate]
    rfl
  exact absurd (List.eq_of_mem_replicate (hcut ▸ hleft)) (by decide)

end EasyMc.Desktop
