import EasyMc.Desktop.RoomController
import EasyMc.Desktop.RuntimeBridge

/-!
# The commands of the runtime bridge (`apps/desktop/src/runtime/desktop-runtime-bridge.mjs`)

The commands of `createDesktopRuntimeBridge` as scripts over the bridge and its lifecycle manager.  The calls are those
of the bridge's dependencies and of the manager's own; with an answer come the events of the processes that the manager
handles before it.  A stop waits until its process has settled or until its hard timeout.

Of the options in a command's argument only those are read that a request of the command host can have.  The manager
is in the state of its steps (`Accounted`), which every command keeps.
-/

namespace EasyMc.Desktop.RuntimeBridge

open RoomController (JsError Outcome)
open Script (Keeps)

/-- What a process does: it writes, exits, or reports an error. -/
inductive ProcessEvent
  | data (child : Nat) (stream : Runtime.OutputStream) (chunk : Runtime.Text)
  | exit (child : Nat) (code : Option Int) (signal : Option String)
  | error (child : Nat) (message : String)

def ProcessEvent.label : ProcessEvent → Runtime.Label
  | .data child stream chunk => .data child stream chunk
  | .exit child code signal => .exit child code signal
  | .error child message => .error child message

/-- A value, and the events of the processes that come before it. -/
structure Reply (α : Type) where
  events : List ProcessEvent
  value : α

/-- The Java that `detectJava` finds. -/
structure Java where
  path : Json
  majorVersion : Option Json
  version : Option Json
  vendor : Option Json
  source : Option Json

/-- The calls of the bridge and of its manager. -/
inductive Call
  | detectJava (minimumMajorVersion : Option Json)
  | bootstrapFabricServer (plan : Json)
  | materializeRoom (plan : Json)
  | launch (plan : Json) (mode : String)
  | processExit
  | writeServerCommand

/-- A failed call of a dependency gives its `failure`, `processExit` whether the soft timeout has passed, and a write
the error that it throws, if it throws one. -/
abbrev Call.Value : Call → Type
  | .detectJava _ => Outcome (Except (Option Json) Java)
  | .bootstrapFabricServer _ => Outcome (Except (Option Json) Unit)
  | .materializeRoom _ => Outcome (Except (Option Json) Json)
  | .launch _ _ => Outcome Runtime.LaunchResult
  | .processExit => Bool
  | .writeServerCommand => Option String

abbrev Call.Answer (call : Call) : Type := Reply call.Value

/-- The options of the bridge: those that its commands read, and those of the manager for a plan. -/
structure Settings where
  minimumMajorVersion : Option Json
  mode : Option String
  lifecycle : Json → Options

/-- The variables of the bridge, the plan of its manager and the steps that the manager has taken. -/
structure State extends Bridge where
  managerPlan : Json
  steps : List Runtime.Label

def createDesktopRuntimeBridge (runtimePlan : Json) : State :=
  { activePlan := runtimePlan, lifecycleManager := none, lastMetrics := none, events := [], lastState := .stopped,
    lastFailure := none, managerPlan := runtimePlan, steps := [] }

/-! ### Failures -/

inductive FailureReason
  | duplicateOpen | fabricDownloadDisabled | javaDetectionFailed | lifecycleFailed | materializationFailed
  deriving DecidableEq, Repr

def FailureReason.name : FailureReason → String
  | .duplicateOpen => "duplicate_open"
  | .fabricDownloadDisabled => "fabric_download_disabled"
  | .javaDetectionFailed => "java_detection_failed"
  | .lifecycleFailed => "lifecycle_failed"
  | .materializationFailed => "materialization_failed"

def failureMessage : FailureReason → String
  | .duplicateOpen => "The room is already opening."
  | .fabricDownloadDisabled => "Finish room setup before opening this room."
  | .javaDetectionFailed => "Install Java 21 or newer before opening this room."
  | .lifecycleFailed => "The room could not be opened."
  | .materializationFailed => "Prepare the room files before opening it."

/-- `value?.key`, where it is a string. -/
def stringMember (key : String) (value : Option Json) : Option String := (value.bind (Json.member key)).bind Json.asStr

def wrapFailure (reason : FailureReason) (cause : Option Json) : Failure :=
  let cause := cause.getD (.obj [])
  { reason := reason.name
    message := (stringMember "message" (some cause)).getD (failureMessage reason)
    detail := some
      (if Json.holds (cause.member "reason") then
        Json.object [("reason", cause.member "reason"), ("detail", cause.member "detail")]
      else sanitizeValue cause) }

/-- The failure of a dependency, with what `sanitizeFailure` puts for missing parts. -/
def failureOf (failure : Option Json) : Failure :=
  { reason := (stringMember "reason" failure).getD "unknown"
    message := (stringMember "message" failure).getD "The room action was blocked."
    detail := failure.bind (Json.member "detail") }

/-! ### The plan -/

/-- `object[key] = value`; `undefined` removes the field. -/
def setField (fields : List (String × Json)) (field : String × Option Json) : List (String × Json) :=
  match field.2 with
  | none => fields.filter fun other => other.1 != field.1
  | some value =>
    if fields.any fun other => other.1 == field.1 then
      fields.map fun other => if other.1 == field.1 then (field.1, value) else other
    else fields ++ [(field.1, value)]

def withDetectedJava (runtimePlan : Json) (java : Java) : Json :=
  let detected := [("path", some java.path), ("majorVersion", java.majorVersion), ("version", java.version),
    ("vendor", orNull java.vendor), ("source", orNull java.source), ("detected", some (.bool true))]
  let next := setField runtimePlan.fields
    ("java", some (.obj (detected.foldl setField ((runtimePlan.member "java").elim [] Json.fields))))
  match runtimePlan.member "command" with
  | some (.arr (_ :: arguments)) => .obj (setField next ("command", some (.arr (java.path :: arguments))))
  | _ => .obj next

/-- The minimum that `javaOptionsFor` chooses. -/
def minimumMajorVersion (settings : Settings) (b : State) : Option Json :=
  ((Json.present settings.minimumMajorVersion).or
    (Json.present (b.activePlan.path ["java", "minimumMajorVersion"]))).or
      (b.activePlan.path ["java", "adapterContract", "minimumMajorVersion"])

/-! ### Results -/

/-- `dto` of an answer without metrics and events. -/
def answer (b : State) (state : RuntimeState) (summary : String) (failure : Option Failure) (detail : Option Json) :
    RuntimeDto :=
  { dto b.toBridge state summary failure none with
    events := none
    detail := (detail.filter Json.truthy).map sanitizeValue }

def duplicateOpen (b : State) : RuntimeDto :=
  answer b .blocked (failureMessage .duplicateOpen)
    (some (wrapFailure .duplicateOpen (some (Json.object [("state", some (.str (currentState b.toBridge).name))])))) none

def isOpenState (state : RuntimeState) : Bool := [.starting, .running, .stopping, .restarting].contains state

/-- What a call of the manager returns when it has ended: its failure, or the state that it gives. -/
def managerResult (options : Options) : Runtime.Output → Except Failure (Option RuntimeState)
  | .fail f => .error (failure options f)
  | .started state _ => .ok (some (stateName state))
  | .stopped state _ _ => .ok (some (stateName state))
  | _ => .ok none

/-! ### The manager -/

/-- The manager takes a step. -/
def State.step (settings : Settings) (b : State) (label : Runtime.Label) : Runtime.Output × State :=
  match b.lifecycleManager with
  | none => (.none, b)
  | some _ =>
    let next := lifecycleStep (settings.lifecycle b.managerPlan) b.toBridge label
    (next.1, { b with toBridge := next.2, steps := b.steps ++ [label] })

/-- The manager handles events. -/
def State.observe (settings : Settings) (b : State) (events : List ProcessEvent) : State :=
  events.foldl (fun b event => (b.step settings event.label).2) b

abbrev Commands (α : Type) : Type := Script Call Call.Answer State JsError α

variable (settings : Settings)

/-- A step of the manager, with its output. -/
def lifecycle (label : Runtime.Label) : Commands Runtime.Output := do
  let b ← Script.read
  Script.write fun b => (b.step settings label).2
  pure (b.step settings label).1

/-- Ask for a value and wait for it. -/
def await (call : Call) : Commands call.Value := do
  let reply ← Script.ask call
  Script.write fun b => b.observe settings reply.events
  pure reply.value

/-- The value of a call, which may also throw. -/
def valueOf {α : Type} : Outcome α → Commands α
  | .fulfilled value => pure value
  | .rejected error => throw error
  | .threw error => throw error

/-- The result of a call of the manager. -/
def ended (output : Runtime.Output) : Commands (Except Failure (Option RuntimeState)) := do
  let b ← Script.read
  pure (managerResult (settings.lifecycle b.managerPlan) output)

/-- `start`, after its check. -/
def launchServer (call : Nat) : Commands (Except Failure (Option RuntimeState)) := do
  let b ← Script.read
  match ← await settings (.launch b.managerPlan (settings.mode.getD "real")) with
  | .fulfilled result =>
    let output ← lifecycle settings (.launched call result)
    ended settings output
  | .rejected error =>
    let _ ← lifecycle settings (.launched call .threw)
    throw error
  | .threw error =>
    let _ ← lifecycle settings (.launched call .threw)
    throw error

/-- `stop`, after its request to the process: the race between the exit and the hard timeout, and what follows it. -/
def awaitExit (call : Nat) : Commands Runtime.Output := do
  let didKill ← await settings .processExit
  let _ ← (if didKill then lifecycle settings (.softTimeout call) else pure .none)
  let _ ← lifecycle settings (.hardTimeout call)
  lifecycle settings (.resume call)

def startServer : Commands (Except Failure (Option RuntimeState)) := do
  match ← lifecycle settings .start with
  | .waiting call => launchServer settings call
  | output => ended settings output

def stopServer : Commands (Except Failure (Option RuntimeState)) := do
  match ← lifecycle settings .stop with
  | .waiting call =>
    let output ← awaitExit settings call
    ended settings output
  | output => ended settings output

/-- `restart`, whose stop waits only for a process that there is. -/
def restartServer : Commands (Except Failure (Option RuntimeState)) := do
  let b ← Script.read
  match ← lifecycle settings .restart with
  | .waiting call =>
    let stopped ← (if b.lifecycleManager.any Runtime.hasProcess then awaitExit settings call else pure .none)
    match stopped with
    | .fail failure => ended settings (.fail failure)
    | _ =>
      match ← lifecycle settings (.resume call) with
      | .waiting call => launchServer settings call
      | output => ended settings output
  | output => ended settings output

/-! ### Commands -/

def rememberFailure (state : RuntimeState) (failure : Failure) : Commands RuntimeDto := do
  let failure := sanitizeFailure failure
  Script.write fun b => { b with lastState := state, lastFailure := some failure }
  let b ← Script.read
  pure (answer b state failure.message (some failure) none)

/-- The end of a command that succeeds. -/
def succeed (state : RuntimeState) (summary : String) (detail : Option Json) : Commands RuntimeDto := do
  Script.write fun b => { b with lastState := state, lastFailure := none }
  let b ← Script.read
  pure (answer b state summary none detail)

/-- Materialize the room of the active plan, and go on with what the dependency returns. -/
def materialize (next : Json → Commands RuntimeDto) : Commands RuntimeDto := do
  let b ← Script.read
  match ← valueOf (← await settings (.materializeRoom b.activePlan)) with
  | .error failure => rememberFailure .blocked (wrapFailure .materializationFailed failure)
  | .ok materialized => next materialized

/-- Detect Java, note it in the active plan and go on. -/
def withJava (next : Commands RuntimeDto) : Commands RuntimeDto := do
  let b ← Script.read
  match ← valueOf (← await settings (.detectJava (minimumMajorVersion settings b))) with
  | .error failure => rememberFailure .blocked (wrapFailure .javaDetectionFailed failure)
  | .ok java =>
    Script.write fun b => { b with activePlan := withDetectedJava b.activePlan java }
    next

def prepareRoom : Commands RuntimeDto := do
  Script.write fun b => { b with lastState := .preparing }
  withJava settings <| materialize settings fun materialized =>
    succeed .ready "Room files are ready." (some (Json.object [("materialized", some (sanitizeValue materialized))]))

/-- `lifecycleManager ??= createLifecycleManager(activePlan)`, and its start. -/
def startManager : Commands RuntimeDto := do
  Script.write fun b =>
    match b.lifecycleManager with
    | some _ => b
    | none =>
      { b with
        lifecycleManager := some Runtime.createLocalServerLifecycleManager
        managerPlan := b.activePlan
        steps := [] }
  match ← startServer settings with
  | .error failure => rememberFailure .blocked (wrapFailure .lifecycleFailed (some failure.toJson))
  | .ok state =>
    let b ← Script.read
    succeed (state.getD (currentState b.toBridge)) "Room is opening." none

/-- Get the server's files where `downloadFabric` says so, and go on. -/
def withFabric (openOptions : Json) (next : Commands RuntimeDto) : Commands RuntimeDto := do
  if (openOptions.member "downloadFabric").any Json.isTrue then
    let b ← Script.read
    match ← valueOf (← await settings (.bootstrapFabricServer b.activePlan)) with
    | .error failure => rememberFailure .blocked (failureOf failure)
    | .ok _ => next
  else if (openOptions.member "requireFabricDownload").any Json.isTrue then
    rememberFailure .blocked (wrapFailure .fabricDownloadDisabled none)
  else next

/-- The check of `openRoom`: the room is open already, or its process is still there. -/
def isDuplicateOpen (b : State) : Bool :=
  b.lifecycleManager.any fun m => isOpenState (stateName m.state) || Runtime.hasProcess m

def openRoom (openOptions : Json) : Commands RuntimeDto := do
  let b ← Script.read
  if isDuplicateOpen b then
    pure (duplicateOpen b)
  else
    Script.write fun b => { b with lastState := .opening }
    withJava settings <| withFabric settings openOptions <| materialize settings fun _ => startManager settings

def closeRoom : Commands RuntimeDto := do
  Script.write fun b => { b with lastState := .closing }
  let b ← Script.read
  let stopped ← (if b.lifecycleManager.isSome then stopServer settings else pure (.ok (some .stopped)))
  match stopped with
  | .error failure => rememberFailure .failed failure
  | .ok state => succeed (state.getD .stopped) "Room is closed." none

def restartRoom (restartOptions : Json) : Commands RuntimeDto := do
  let b ← Script.read
  if b.lifecycleManager.isNone then
    openRoom settings restartOptions
  else
    Script.write fun b => { b with lastState := .restarting }
    match ← restartServer settings with
    | .error failure => rememberFailure .failed failure
    | .ok state =>
      let b ← Script.read
      succeed (state.getD (currentState b.toBridge)) "Room is restarting." none

/-- `sendCommand`, which waits until the command is written. -/
def sendCommand (command : Option Runtime.Text) : Commands Runtime.Output := do
  match ← lifecycle settings (.sendCommand command) with
  | .waiting call =>
    let error ← await settings .writeServerCommand
    lifecycle settings (.written call error)
  | output => pure output

def sendServerCommand (commandOptions : Json) : Commands RuntimeDto := do
  let b ← Script.read
  if !canSendServerCommand b.toBridge then
    pure (serverCommandUnavailable b.toBridge)
  else
    let command := ((commandOptions.member "command").bind Json.asStr).map String.toList
    match ← sendCommand settings command with
    | .fail f =>
      let b ← Script.read
      pure (serverCommandFailed b.toBridge (failure (settings.lifecycle b.managerPlan) f))
    | _ =>
      Script.write fun b => { b with lastFailure := none, lastState := currentState b.toBridge }
      let b ← Script.read
      pure (serverCommandSent b.toBridge)

/-! ### The steps of the manager -/

variable {settings}

/-- The manager is in the state of its steps. -/
def Accounted (settings : Settings) (b : State) : Prop :=
  ∀ manager, b.lifecycleManager = some manager →
    manager = Runtime.run (settings.lifecycle b.managerPlan).runtime b.steps

theorem recordLifecycleEvents_manager (b : Bridge) (events : List Json) :
    (recordLifecycleEvents b events).lifecycleManager = b.lifecycleManager := by
  induction events generalizing b with
  | nil => rfl
  | cons event events ih => exact ih (recordLifecycleEvent b event)

theorem Accounted.step {b : State} (h : Accounted settings b) (label : Runtime.Label) :
    Accounted settings (b.step settings label).2 := by
  unfold State.step
  cases hmanager : b.lifecycleManager with
  | none => exact h
  | some manager =>
    intro next hnext
    simp only [lifecycleStep, hmanager, recordLifecycleEvents_manager, Option.some.injEq] at hnext
    have hsame : manager = Runtime.run (settings.lifecycle b.managerPlan).runtime b.steps := h manager hmanager
    rw [← hnext, hsame]
    exact (Machine.run_append _ b.steps [label]).symm

theorem Accounted.observe {b : State} (h : Accounted settings b) (events : List ProcessEvent) :
    Accounted settings (b.observe settings events) := by
  induction events generalizing b with
  | nil => exact h
  | cons event events ih => exact ih (h.step event.label)

variable {τ : Type} {env : Script.Environment Call Call.Answer τ} {A : Script.Answered Call Call.Answer → Prop}

theorem lifecycle_keeps (label : Runtime.Label) : Keeps env A (Accounted settings) (lifecycle settings label) :=
  Keeps.bind Keeps.read fun _ => Keeps.bind (Keeps.write fun _ h => h.step label) fun _ => Keeps.pure _

theorem await_keeps (call : Call) : Keeps env A (Accounted settings) (await settings call) :=
  Keeps.bind (Keeps.ask call) fun reply =>
    Keeps.bind (Keeps.write fun _ h => h.observe reply.events) fun _ => Keeps.pure _

theorem valueOf_keeps {α : Type} (outcome : Outcome α) : Keeps env A (Accounted settings) (valueOf outcome) := by
  cases outcome with
  | fulfilled value => exact Keeps.pure value
  | rejected error => exact Keeps.throw error
  | threw error => exact Keeps.throw error

theorem ended_keeps (output : Runtime.Output) : Keeps env A (Accounted settings) (ended settings output) :=
  Keeps.bind Keeps.read fun _ => Keeps.pure _

theorem launchServer_keeps (call : Nat) : Keeps env A (Accounted settings) (launchServer settings call) := by
  refine Keeps.bind Keeps.read fun _ => Keeps.bind (await_keeps _) fun outcome => ?_
  cases outcome with
  | fulfilled result => exact Keeps.bind (lifecycle_keeps _) fun _ => ended_keeps _
  | rejected error => exact Keeps.bind (lifecycle_keeps _) fun _ => Keeps.throw error
  | threw error => exact Keeps.bind (lifecycle_keeps _) fun _ => Keeps.throw error

theorem awaitExit_keeps (call : Nat) : Keeps env A (Accounted settings) (awaitExit settings call) := by
  refine Keeps.bind (await_keeps _) fun _ => Keeps.bind (Keeps.ite (lifecycle_keeps _) (Keeps.pure _)) fun _ => ?_
  exact Keeps.bind (lifecycle_keeps _) fun _ => lifecycle_keeps _

/-- What a call of the manager goes on with while it waits, and its result when it does not. -/
private theorem waiting_keeps {output : Runtime.Output}
    {f : Nat → Commands (Except Failure (Option RuntimeState))}
    (hf : ∀ call, Keeps env A (Accounted settings) (f call)) :
    Keeps env A (Accounted settings)
      (match output with
        | .waiting call => f call
        | output => ended settings output) := by
  split
  · exact hf _
  · exact ended_keeps _

theorem startServer_keeps : Keeps env A (Accounted settings) (startServer settings) :=
  Keeps.bind (lifecycle_keeps _) fun _ => waiting_keeps launchServer_keeps

theorem stopServer_keeps : Keeps env A (Accounted settings) (stopServer settings) :=
  Keeps.bind (lifecycle_keeps _) fun _ =>
    waiting_keeps fun _ => Keeps.bind (awaitExit_keeps _) fun _ => ended_keeps _

theorem restartServer_keeps : Keeps env A (Accounted settings) (restartServer settings) := by
  refine Keeps.bind Keeps.read fun _ => Keeps.bind (lifecycle_keeps _) fun _ => waiting_keeps fun call => ?_
  refine Keeps.bind (Keeps.ite (awaitExit_keeps _) (Keeps.pure _)) fun stopped => ?_
  split
  · exact ended_keeps _
  · exact Keeps.bind (lifecycle_keeps _) fun _ => waiting_keeps launchServer_keeps

theorem rememberFailure_keeps (state : RuntimeState) (failure : Failure) :
    Keeps env A (Accounted settings) (rememberFailure state failure) :=
  Keeps.bind (Keeps.write fun _ h => h) fun _ => Keeps.bind Keeps.read fun _ => Keeps.pure _

theorem succeed_keeps (state : RuntimeState) (summary : String) (detail : Option Json) :
    Keeps env A (Accounted settings) (succeed state summary detail) :=
  Keeps.bind (Keeps.write fun _ h => h) fun _ => Keeps.bind Keeps.read fun _ => Keeps.pure _

theorem materialize_keeps {next : Json → Commands RuntimeDto}
    (hnext : ∀ materialized, Keeps env A (Accounted settings) (next materialized)) :
    Keeps env A (Accounted settings) (materialize settings next) := by
  refine Keeps.bind Keeps.read fun _ => Keeps.bind (await_keeps _) fun _ => ?_
  refine Keeps.bind (valueOf_keeps _) fun result => ?_
  cases result with
  | error failure => exact rememberFailure_keeps _ _
  | ok materialized => exact hnext materialized

theorem withJava_keeps {next : Commands RuntimeDto} (hnext : Keeps env A (Accounted settings) next) :
    Keeps env A (Accounted settings) (withJava settings next) := by
  refine Keeps.bind Keeps.read fun _ => Keeps.bind (await_keeps _) fun _ => ?_
  refine Keeps.bind (valueOf_keeps _) fun result => ?_
  cases result with
  | error failure => exact rememberFailure_keeps _ _
  | ok java => exact Keeps.bind (Keeps.write fun _ h => h) fun _ => hnext

theorem withFabric_keeps (openOptions : Json) {next : Commands RuntimeDto}
    (hnext : Keeps env A (Accounted settings) next) :
    Keeps env A (Accounted settings) (withFabric settings openOptions next) := by
  refine Keeps.ite ?_ (Keeps.ite (rememberFailure_keeps _ _) hnext)
  refine Keeps.bind Keeps.read fun _ => Keeps.bind (await_keeps _) fun _ => ?_
  refine Keeps.bind (valueOf_keeps _) fun result => ?_
  cases result with
  | error failure => exact rememberFailure_keeps _ _
  | ok _ => exact hnext

theorem prepareRoom_keeps : Keeps env A (Accounted settings) (prepareRoom settings) :=
  Keeps.bind (Keeps.write fun _ h => h) fun _ => withJava_keeps (materialize_keeps fun _ => succeed_keeps _ _ _)

theorem startManager_keeps : Keeps env A (Accounted settings) (startManager settings) := by
  refine Keeps.bind (Keeps.write ?_) fun _ => Keeps.bind startServer_keeps fun result => ?_
  · intro b h
    split
    · exact h
    · rintro manager hmanager
      exact (Option.some.inj hmanager).symm
  · cases result with
    | error failure => exact rememberFailure_keeps _ _
    | ok state => exact Keeps.bind Keeps.read fun _ => succeed_keeps _ _ _

theorem openRoom_keeps (openOptions : Json) : Keeps env A (Accounted settings) (openRoom settings openOptions) := by
  refine Keeps.bind Keeps.read fun _ => Keeps.ite (Keeps.pure _) ?_
  refine Keeps.bind (Keeps.write fun _ h => h) fun _ => withJava_keeps (withFabric_keeps _ ?_)
  exact materialize_keeps fun _ => startManager_keeps

theorem closeRoom_keeps : Keeps env A (Accounted settings) (closeRoom settings) := by
  refine Keeps.bind (Keeps.write fun _ h => h) fun _ => Keeps.bind Keeps.read fun _ => ?_
  refine Keeps.bind (Keeps.ite stopServer_keeps (Keeps.pure _)) fun stopped => ?_
  cases stopped with
  | error failure => exact rememberFailure_keeps _ _
  | ok state => exact succeed_keeps _ _ _

theorem restartRoom_keeps (restartOptions : Json) :
    Keeps env A (Accounted settings) (restartRoom settings restartOptions) := by
  refine Keeps.bind Keeps.read fun _ => Keeps.ite (openRoom_keeps _) ?_
  refine Keeps.bind (Keeps.write fun _ h => h) fun _ => Keeps.bind restartServer_keeps fun result => ?_
  cases result with
  | error failure => exact rememberFailure_keeps _ _
  | ok state => exact Keeps.bind Keeps.read fun _ => succeed_keeps _ _ _

theorem sendCommand_keeps (command : Option Runtime.Text) :
    Keeps env A (Accounted settings) (sendCommand settings command) := by
  refine Keeps.bind (lifecycle_keeps _) fun output => ?_
  split
  · exact Keeps.bind (await_keeps _) fun _ => lifecycle_keeps _
  · exact Keeps.pure _

theorem sendServerCommand_keeps (commandOptions : Json) :
    Keeps env A (Accounted settings) (sendServerCommand settings commandOptions) := by
  refine Keeps.bind Keeps.read fun _ => Keeps.ite (Keeps.pure _) ?_
  refine Keeps.bind (sendCommand_keeps _) fun sent => ?_
  split
  · exact Keeps.bind Keeps.read fun _ => Keeps.pure _
  · exact Keeps.bind (Keeps.write fun _ h => h) fun _ => Keeps.bind Keeps.read fun _ => Keeps.pure _

end EasyMc.Desktop.RuntimeBridge
