import EasyMc.Desktop.BridgeCommands

/-!
# The plan that is launched (`apps/desktop/src/runtime/desktop-runtime-bridge.mjs`)

Every detection of Java puts the path that it finds into the active plan of the bridge.  The lifecycle manager launches the
plan that it was created with, and it is created by the first opening that comes so far.

So a launch has the path of the last detection if the manager's plan has it (`launches_detected`), but a path that is found
later is in the active plan only (`not_launches_detected`).
-/

namespace EasyMc.Desktop.RuntimeBridge

open RoomController (JsError Outcome)
open Script (Answered Ends Environment Maintains)

/-! ### Calls -/

/-- `value[0]` of an array. -/
def firstOf : Option Json → Option Json
  | some (.arr (first :: _)) => some first
  | _ => none

/-- The Java of a plan: `plan.command[0]`. -/
def launchPath (plan : Json) : Option Json := firstOf (plan.member "command")

/-- The path that a call has detected. -/
def foundPath : Answered Call Call.Answer → Option Json
  | ⟨.detectJava _, reply⟩ =>
    match reply.value with
    | .fulfilled (.ok java) => some java.path
    | _ => none
  | _ => none

/-- The path that a call has started a server with. -/
def launchedPath : Answered Call Call.Answer → Option Json
  | ⟨.launch plan _, reply⟩ =>
    match reply.value with
    | .fulfilled (.spawned _ _) => launchPath plan
    | _ => none
  | _ => none

/-- The path that has been detected last. -/
def latestPath (history : List (Answered Call Call.Answer)) : Option Json := (history.filterMap foundPath).getLast?

/-- Every server is started with the path that was detected last before. -/
def LaunchesDetected (history : List (Answered Call Call.Answer)) : Prop :=
  ∀ n call, history[n]? = some call → ∀ path, launchedPath call = some path → latestPath (history.take n) = some path

variable {history : List (Answered Call Call.Answer)} {call : Answered Call Call.Answer}

theorem latestPath_concat : latestPath (history ++ [call]) = (foundPath call).or (latestPath history) := by
  unfold latestPath
  rw [List.filterMap_append, List.getLast?_append]
  cases hfound : foundPath call with
  | none => simp [hfound]
  | some path => simp [hfound]

theorem latestPath_concat_none (h : foundPath call = none) : latestPath (history ++ [call]) = latestPath history := by
  rw [latestPath_concat, h, Option.none_or]

theorem LaunchesDetected.concat (h : LaunchesDetected history)
    (hcall : ∀ path, launchedPath call = some path → latestPath history = some path) :
    LaunchesDetected (history ++ [call]) := by
  intro n other hother path hpath
  by_cases hn : n < history.length
  · rw [List.getElem?_append_left hn] at hother
    rw [List.take_append_of_le_length (Nat.le_of_lt hn)]
    exact h n other hother path hpath
  · rw [List.getElem?_append_right (Nat.le_of_not_lt hn)] at hother
    obtain ⟨hzero, hother⟩ := List.getElem?_eq_some_iff.1 hother
    rw [List.length_singleton] at hzero
    have hlength : n = history.length := by omega
    subst hlength
    simp only [Nat.sub_self, List.getElem_cons_zero] at hother
    rw [List.take_left]
    exact hcall path (hother ▸ hpath)

theorem LaunchesDetected.concat_none (h : LaunchesDetected history) (hcall : launchedPath call = none) :
    LaunchesDetected (history ++ [call]) :=
  h.concat fun path hpath => by rw [hcall] at hpath; cases hpath

/-- The plan has the path that was detected last. -/
def Detected (history : List (Answered Call Call.Answer)) (plan : Json) : Prop :=
  ∀ path, launchPath plan = some path → latestPath history = some path

theorem Detected.concat {plan : Json} (h : Detected history plan) (hcall : foundPath call = none) :
    Detected (history ++ [call]) plan := by
  intro path hpath
  rw [latestPath_concat_none hcall]
  exact h path hpath

/-! ### Plans -/

/-- `object[name] = value` in a field that there is. -/
def replaceField (name : String) (value : Json) (field : String × Json) : String × Json :=
  if field.1 == name then (name, value) else field

theorem lookup_map_replaceField (fields : List (String × Json)) (name key : String) (value : Json) :
    (fields.map (replaceField name value)).lookup key =
      if key = name then (fields.lookup name).map fun _ => value else fields.lookup key := by
  induction fields with
  | nil => simp
  | cons field fields ih =>
    obtain ⟨other, old⟩ := field
    rw [List.map_cons, replaceField]
    by_cases hother : other = name
    · subst hother
      by_cases hkey : key = other
      · simp [hkey]
      · have hne : (key == other) = false := by simpa using hkey
        rw [if_neg hkey] at ih ⊢
        simp [List.lookup_cons, hne, ih]
    · have hne : (name == other) = false := by simpa using Ne.symm hother
      by_cases hkey : key = name
      · subst hkey
        rw [if_pos rfl] at ih ⊢
        simp [List.lookup_cons, hne, hother, ih]
      · rw [if_neg hkey] at ih ⊢
        simp [List.lookup_cons, hother, ih]

theorem lookup_setField (fields : List (String × Json)) (name key : String) (value : Json) :
    (setField fields (name, some value)).lookup key = if key = name then some value else fields.lookup key := by
  have hset : setField fields (name, some value) =
      if fields.any fun other => other.1 == name then fields.map (replaceField name value)
      else fields ++ [(name, value)] := rfl
  rw [hset]
  split_ifs with hany hkey hkey
  · obtain ⟨field, hfield, hname⟩ := List.any_eq_true.1 hany
    obtain ⟨old, hold⟩ : ∃ old, fields.lookup name = some old := by
      rw [← Option.isSome_iff_exists, List.lookup_isSome_iff]
      exact ⟨field, hfield, by rw [beq_iff_eq] at hname ⊢; exact hname.symm⟩
    rw [lookup_map_replaceField, if_pos hkey, hold]
    rfl
  · rw [lookup_map_replaceField, if_neg hkey]
  · have hnone : fields.lookup name = none := by
      rw [List.lookup_eq_none_iff]
      intro field hfield
      have hne : field.1 ≠ name := fun heq => hany (List.any_eq_true.2 ⟨field, hfield, by simpa using heq⟩)
      simpa using Ne.symm hne
    rw [hkey, List.lookup_append, hnone]
    simp
  · have hne : (key == name) = false := by simpa using hkey
    rw [List.lookup_append]
    simp [List.lookup_cons, hne]

/-- The path that has been found replaces the one that the command has. -/
theorem launchPath_withDetectedJava (plan : Json) (java : Java) :
    launchPath (withDetectedJava plan java) = (launchPath plan).map fun _ => java.path := by
  unfold withDetectedJava launchPath
  dsimp only
  split
  · rename_i first arguments hcommand
    show firstOf ((setField _ ("command", some _)).lookup "command") = _
    rw [lookup_setField, if_pos rfl, hcommand]
    rfl
  · rename_i hcommand
    show firstOf ((setField _ ("java", some _)).lookup "command") = _
    rw [lookup_setField, if_neg (by decide)]
    show firstOf (plan.member "command") = _
    unfold firstOf
    split
    · rename_i first arguments hmember
      exact absurd hmember (hcommand first arguments)
    · rfl

/-! ### Steps of the manager -/

variable {settings : Settings}

/-- The plans are the same, and there is a manager if there was one. -/
structure SamePlans (b b' : State) : Prop where
  activePlan : b'.activePlan = b.activePlan
  managerPlan : b'.managerPlan = b.managerPlan
  isSome : b'.lifecycleManager.isSome = b.lifecycleManager.isSome

theorem step_samePlans (b : State) (label : Runtime.Label) : SamePlans b (b.step settings label).2 := by
  unfold State.step
  cases hmanager : b.lifecycleManager with
  | none => exact ⟨rfl, rfl, rfl⟩
  | some manager =>
    refine ⟨?_, rfl, ?_⟩
    · simp only [lifecycleStep, hmanager, recordLifecycleEvents_eq]
    · simp only [lifecycleStep, hmanager, recordLifecycleEvents_manager, Option.isSome_some]

theorem SamePlans.trans {b b' b'' : State} (h : SamePlans b b') (h' : SamePlans b' b'') : SamePlans b b'' :=
  ⟨h'.activePlan.trans h.activePlan, h'.managerPlan.trans h.managerPlan, h'.isSome.trans h.isSome⟩

theorem observe_samePlans (b : State) (events : List ProcessEvent) : SamePlans b (b.observe settings events) := by
  induction events generalizing b with
  | nil => exact ⟨rfl, rfl, rfl⟩
  | cons event events ih => exact (step_samePlans b event.label).trans (ih _)

/-! ### Sessions -/

variable {τ : Type}

abbrev BridgeSession (τ : Type) : Type := Script.Session Call Call.Answer State τ

/-- The active plan has the path that was detected last, once there is a manager. -/
structure Tracked (s : BridgeSession τ) : Prop where
  launches : LaunchesDetected s.history
  active : s.vars.lifecycleManager.isSome = true → Detected s.history s.vars.activePlan

/-- Java has been detected, and a manager that is there already has its path. -/
structure Prepared (s : BridgeSession τ) : Prop where
  launches : LaunchesDetected s.history
  active : Detected s.history s.vars.activePlan
  manager : s.vars.lifecycleManager.isSome = true → Detected s.history s.vars.managerPlan

/-- The manager's plan has the path that was detected last. -/
structure Current (s : BridgeSession τ) : Prop where
  launches : LaunchesDetected s.history
  active : Detected s.history s.vars.activePlan
  manager : Detected s.history s.vars.managerPlan

theorem Prepared.tracked {s : BridgeSession τ} (h : Prepared s) : Tracked s := ⟨h.launches, fun _ => h.active⟩

theorem Current.prepared {s : BridgeSession τ} (h : Current s) : Prepared s := ⟨h.launches, h.active, fun _ => h.manager⟩

/-- What depends on the plans, and on what has been detected and launched. -/
structure PlanInvariant (env : Environment Call Call.Answer τ) (I : BridgeSession τ → Prop) : Prop where
  samePlans : ∀ {s vars}, SamePlans s.vars vars → I s → I { s with vars := vars }
  quiet : ∀ {s call}, foundPath ⟨call, (env call s.world).1⟩ = none → launchedPath ⟨call, (env call s.world).1⟩ = none →
    I s → I (s.answer env call)

variable {env : Environment Call Call.Answer τ} {A : Answered Call Call.Answer → Prop} {I : BridgeSession τ → Prop}

theorem tracked_planInvariant : PlanInvariant env Tracked where
  samePlans hsame h := ⟨h.launches, fun hsome => hsame.activePlan ▸ h.active (hsame.isSome ▸ hsome)⟩
  quiet hfound hlaunched h := ⟨h.launches.concat_none hlaunched, fun hsome => (h.active hsome).concat hfound⟩

theorem prepared_planInvariant : PlanInvariant env Prepared where
  samePlans hsame h := ⟨h.launches, hsame.activePlan ▸ h.active,
    fun hsome => hsame.managerPlan ▸ h.manager (hsame.isSome ▸ hsome)⟩
  quiet hfound hlaunched h := ⟨h.launches.concat_none hlaunched, h.active.concat hfound,
    fun hsome => (h.manager hsome).concat hfound⟩

theorem Current.samePlans {s : BridgeSession τ} {vars : State} (h : Current s) (hsame : SamePlans s.vars vars) :
    Current { s with vars := vars } :=
  ⟨h.launches, hsame.activePlan ▸ h.active, hsame.managerPlan ▸ h.manager⟩

theorem current_planInvariant : PlanInvariant env Current where
  samePlans hsame h := h.samePlans hsame
  quiet hfound hlaunched h := ⟨h.launches.concat_none hlaunched, h.active.concat hfound, h.manager.concat hfound⟩

/-! ### Scripts that neither detect nor launch -/

/-- The session after a call and the events that come with its answer. -/
def afterCall (settings : Settings) (env : Environment Call Call.Answer τ) (s : BridgeSession τ) (call : Call) :
    BridgeSession τ :=
  { s.answer env call with vars := s.vars.observe settings (env call s.world).1.events }

theorem ends_await {call : Call} {s : BridgeSession τ} {post : Except JsError call.Value → BridgeSession τ → Prop} :
    Ends env A (await settings call) s post ↔
      (A ⟨call, (env call s.world).1⟩ → post (.ok (env call s.world).1.value) (afterCall settings env s call)) :=
  Iff.rfl

theorem PlanInvariant.afterCall (hI : PlanInvariant env I) {s : BridgeSession τ} {call : Call}
    (hfound : foundPath ⟨call, (env call s.world).1⟩ = none) (hlaunched : launchedPath ⟨call, (env call s.world).1⟩ = none)
    (h : I s) : I (afterCall settings env s call) :=
  hI.samePlans (observe_samePlans _ _) (hI.quiet hfound hlaunched h)

theorem ended_maintains (output : Runtime.Output) : Maintains env A I (ended settings output) :=
  Maintains.bind Maintains.read fun _ => Maintains.pure _

theorem valueOf_maintains {α : Type} (outcome : Outcome α) : Maintains env A I (valueOf outcome) := by
  cases outcome with
  | fulfilled value => exact Maintains.pure value
  | rejected error => exact Maintains.throw error
  | threw error => exact Maintains.throw error

/-- What a call of the manager goes on with while it waits, and its result when it does not. -/
private theorem waiting_maintains {output : Runtime.Output} {f : Nat → Commands (Except Failure (Option RuntimeState))}
    (hf : ∀ call, Maintains env A I (f call)) :
    Maintains env A I
      (match output with
        | .waiting call => f call
        | output => ended settings output) := by
  split
  · exact hf _
  · exact ended_maintains _

section PlanInvariant

variable (hI : PlanInvariant env I)
include hI

theorem write_maintains {f : State → State} (hf : ∀ b, SamePlans b (f b)) :
    Maintains env A I (Script.write f : Commands Unit) :=
  Maintains.write fun s h => hI.samePlans (hf s.vars) h

theorem lifecycle_maintains (label : Runtime.Label) : Maintains env A I (lifecycle settings label) :=
  Maintains.bind Maintains.read fun _ => Maintains.bind (write_maintains hI fun b => step_samePlans b label)
    fun _ => Maintains.pure _

theorem await_maintains {call : Call} (hfound : ∀ answer, foundPath ⟨call, answer⟩ = none)
    (hlaunched : ∀ answer, launchedPath ⟨call, answer⟩ = none) : Maintains env A I (await settings call) := by
  intro s h
  apply ends_await.2
  intro _
  exact hI.afterCall (hfound _) (hlaunched _) h

theorem awaitExit_maintains (call : Nat) : Maintains env A I (awaitExit settings call) := by
  refine Maintains.bind (await_maintains hI (fun _ => rfl) fun _ => rfl) fun _ => ?_
  refine Maintains.bind (Maintains.ite (lifecycle_maintains hI _) (Maintains.pure _)) fun _ => ?_
  exact Maintains.bind (lifecycle_maintains hI _) fun _ => lifecycle_maintains hI _

theorem stopServer_maintains : Maintains env A I (stopServer settings) :=
  Maintains.bind (lifecycle_maintains hI _) fun _ =>
    waiting_maintains fun _ => Maintains.bind (awaitExit_maintains hI _) fun _ => ended_maintains _

theorem rememberFailure_maintains (state : RuntimeState) (failure : Failure) :
    Maintains env A I (rememberFailure state failure) :=
  Maintains.bind (write_maintains hI fun _ => ⟨rfl, rfl, rfl⟩) fun _ => Maintains.bind Maintains.read fun _ =>
    Maintains.pure _

theorem succeed_maintains (state : RuntimeState) (summary : String) (detail : Option Json) :
    Maintains env A I (succeed state summary detail) :=
  Maintains.bind (write_maintains hI fun _ => ⟨rfl, rfl, rfl⟩) fun _ => Maintains.bind Maintains.read fun _ =>
    Maintains.pure _

theorem materialize_maintains {next : Json → Commands RuntimeDto}
    (hnext : ∀ materialized, Maintains env A I (next materialized)) : Maintains env A I (materialize settings next) := by
  refine Maintains.bind Maintains.read fun _ => Maintains.bind (await_maintains hI (fun _ => rfl) fun _ => rfl) fun _ => ?_
  refine Maintains.bind (valueOf_maintains _) fun result => ?_
  cases result with
  | error failure => exact rememberFailure_maintains hI _ _
  | ok materialized => exact hnext materialized

theorem withFabric_maintains (openOptions : Json) {next : Commands RuntimeDto} (hnext : Maintains env A I next) :
    Maintains env A I (withFabric settings openOptions next) := by
  refine Maintains.ite ?_ (Maintains.ite (rememberFailure_maintains hI _ _) hnext)
  refine Maintains.bind Maintains.read fun _ => Maintains.bind (await_maintains hI (fun _ => rfl) fun _ => rfl) fun _ => ?_
  refine Maintains.bind (valueOf_maintains _) fun result => ?_
  cases result with
  | error failure => exact rememberFailure_maintains hI _ _
  | ok _ => exact hnext

theorem closeRoom_maintains : Maintains env A I (closeRoom settings) := by
  refine Maintains.bind (write_maintains hI fun _ => ⟨rfl, rfl, rfl⟩) fun _ => Maintains.bind Maintains.read fun _ => ?_
  refine Maintains.bind (Maintains.ite (stopServer_maintains hI) (Maintains.pure _)) fun stopped => ?_
  cases stopped with
  | error failure => exact rememberFailure_maintains hI _ _
  | ok state => exact succeed_maintains hI _ _ _

theorem sendCommand_maintains (command : Option Runtime.Text) : Maintains env A I (sendCommand settings command) := by
  refine Maintains.bind (lifecycle_maintains hI _) fun output => ?_
  split
  · exact Maintains.bind (await_maintains hI (fun _ => rfl) fun _ => rfl) fun _ => lifecycle_maintains hI _
  · exact Maintains.pure _

theorem sendServerCommand_maintains (commandOptions : Json) :
    Maintains env A I (sendServerCommand settings commandOptions) := by
  refine Maintains.bind Maintains.read fun _ => Maintains.ite (Maintains.pure _) ?_
  refine Maintains.bind (sendCommand_maintains hI _) fun sent => ?_
  split
  · exact Maintains.bind Maintains.read fun _ => Maintains.pure _
  · exact Maintains.bind (write_maintains hI fun _ => ⟨rfl, rfl, rfl⟩) fun _ => Maintains.bind Maintains.read fun _ =>
      Maintains.pure _

end PlanInvariant

/-! ### Launches -/

/-- The launch of a plan that has the path that was detected last. -/
theorem Current.launch {s : BridgeSession τ} (h : Current s) (mode : String) :
    Current (s.answer env (.launch s.vars.managerPlan mode)) := by
  have hlaunches : LaunchesDetected (s.answer env (.launch s.vars.managerPlan mode)).history := by
    refine h.launches.concat fun path hpath => h.manager path ?_
    simp only [launchedPath] at hpath
    split at hpath
    · exact hpath
    · cases hpath
  exact ⟨hlaunches, h.active.concat rfl, h.manager.concat rfl⟩

theorem launchServer_maintains (call : Nat) : Maintains env A Current (launchServer settings call) := by
  intro s h
  have hlaunched : Ends env A (await settings (.launch s.vars.managerPlan (settings.mode.getD "real"))) s
      fun _ s' => Current s' :=
    ends_await.2 fun _ => (h.launch _).samePlans (observe_samePlans _ _)
  refine Ends.read_bind (hlaunched.bind (fun outcome s' h' => ?_) fun _ _ h' => h')
  cases outcome with
  | fulfilled result =>
    exact Maintains.bind (lifecycle_maintains current_planInvariant _) (fun _ => ended_maintains _) s' h'
  | rejected error =>
    exact Maintains.bind (lifecycle_maintains current_planInvariant _) (fun _ => Maintains.throw error) s' h'
  | threw error =>
    exact Maintains.bind (lifecycle_maintains current_planInvariant _) (fun _ => Maintains.throw error) s' h'

theorem startServer_maintains : Maintains env A Current (startServer settings) :=
  Maintains.bind (lifecycle_maintains current_planInvariant _) fun _ => waiting_maintains launchServer_maintains

theorem restartServer_maintains : Maintains env A Current (restartServer settings) := by
  refine Maintains.bind Maintains.read fun _ => Maintains.bind (lifecycle_maintains current_planInvariant _) fun _ => ?_
  refine waiting_maintains fun call => ?_
  refine Maintains.bind (Maintains.ite (awaitExit_maintains current_planInvariant _) (Maintains.pure _)) fun stopped => ?_
  split
  · exact ended_maintains _
  · exact Maintains.bind (lifecycle_maintains current_planInvariant _) fun _ => waiting_maintains launchServer_maintains

/-- What keeps the manager's plan in step leaves the bridge prepared. -/
theorem Maintains.ends_prepared {α : Type} {p : Commands α} {s : BridgeSession τ} (h : Maintains env A Current p)
    (hs : Current s) : Ends env A p s fun _ s' => Prepared s' :=
  (h s hs).mono fun _ _ h' => h'.prepared

/-- A manager that is created gets the active plan. -/
theorem startManager_maintains : Maintains env A Prepared (startManager settings) := by
  intro s h
  refine Ends.write_bind (Maintains.ends_prepared (Maintains.bind startServer_maintains fun result => ?_) ?_)
  · cases result with
    | error failure => exact rememberFailure_maintains current_planInvariant _ _
    | ok state => exact Maintains.bind Maintains.read fun _ => succeed_maintains current_planInvariant _ _ _
  · cases hmanager : s.vars.lifecycleManager with
    | none => exact ⟨h.launches, h.active, h.active⟩
    | some manager => exact ⟨h.launches, h.active, h.manager (by rw [hmanager]; rfl)⟩

/-! ### Detections -/

/-- The call that detects Java for the plan of the session. -/
abbrev detection (settings : Settings) (s : BridgeSession τ) : Call := .detectJava (minimumMajorVersion settings s.vars)

/-- The session after Java has been detected. -/
def detected (settings : Settings) (env : Environment Call Call.Answer τ) (s : BridgeSession τ) (java : Java) :
    BridgeSession τ :=
  let after := afterCall settings env s (detection settings s)
  { after with vars := { after.vars with activePlan := withDetectedJava after.vars.activePlan java } }

/-- The answer of the next detection. -/
def Detects (settings : Settings) (env : Environment Call Call.Answer τ) (s : BridgeSession τ) (java : Java) : Prop :=
  (env (detection settings s) s.world).1.value = Outcome.fulfilled (Except.ok java)

/-- Detect Java, and go on with an invariant that holds after it. -/
theorem withJava_ends {s : BridgeSession τ} (h : Tracked s) (hI : ∀ s, I s → Tracked s)
    (hdetected : ∀ java, Detects settings env s java → I (detected settings env s java))
    {next : Commands RuntimeDto} (hnext : Maintains env A I next) :
    Ends env A (withJava settings next) s fun _ s' => Tracked s' := by
  refine Ends.read_bind (Script.ends_bind.2 (ends_await.2 fun _ => ?_))
  -- A detection that fails leaves the plans as they are.
  have hfailed (hfound : foundPath ⟨detection settings s, (env (detection settings s) s.world).1⟩ = none) :
      Tracked (afterCall settings env s (detection settings s)) :=
    tracked_planInvariant.afterCall hfound rfl h
  dsimp only
  cases hvalue : (env (detection settings s) s.world).1.value with
  | fulfilled result =>
    cases result with
    | error failure =>
      exact rememberFailure_maintains tracked_planInvariant _ _ _ (hfailed (by simp only [foundPath, hvalue]))
    | ok java =>
      show Ends env A (Script.write _ >>= fun _ => next) _ _
      exact Ends.write_bind ((hnext _ (hdetected java hvalue)).mono fun _ s' h' => hI s' h')
  | rejected error => exact hfailed (by simp only [foundPath, hvalue])
  | threw error => exact hfailed (by simp only [foundPath, hvalue])

theorem latestPath_detected {s : BridgeSession τ} {java : Java} (h : Detects settings env s java) :
    latestPath (detected settings env s java).history = some java.path := by
  have hfound : foundPath ⟨detection settings s, (env (detection settings s) s.world).1⟩ = some java.path := by
    rw [Detects] at h
    simp only [foundPath, h]
  show latestPath (s.history ++ [_]) = some java.path
  rw [latestPath_concat, hfound, Option.some_or]

/-- A detection puts its path into the active plan. -/
theorem detected_active {s : BridgeSession τ} {java : Java} (h : Detects settings env s java) :
    Detected (detected settings env s java).history (detected settings env s java).vars.activePlan := by
  intro path hpath
  obtain ⟨old, -, hpath⟩ := Option.map_eq_some_iff.1 ((launchPath_withDetectedJava _ java).symm.trans hpath)
  rw [latestPath_detected h, hpath]

theorem detected_isSome (s : BridgeSession τ) (java : Java) :
    (detected settings env s java).vars.lifecycleManager.isSome = s.vars.lifecycleManager.isSome :=
  (observe_samePlans s.vars _).isSome

theorem detected_managerPlan (s : BridgeSession τ) (java : Java) :
    (detected settings env s java).vars.managerPlan = s.vars.managerPlan :=
  (observe_samePlans s.vars _).managerPlan

theorem detected_launches {s : BridgeSession τ} (h : LaunchesDetected s.history) (java : Java) :
    LaunchesDetected (detected settings env s java).history :=
  h.concat_none rfl

theorem prepareRoom_ends {s : BridgeSession τ} (h : Tracked s) :
    Ends env A (prepareRoom settings) s fun _ s' => Tracked s' := by
  refine Ends.write_bind (withJava_ends (I := Tracked) ?_ (fun _ h => h) (fun java hjava => ?_) ?_)
  · exact ⟨h.launches, h.active⟩
  · exact ⟨detected_launches h.launches java, fun _ => detected_active hjava⟩
  · exact materialize_maintains tracked_planInvariant fun _ => succeed_maintains tracked_planInvariant _ _ _

/-! ### Commands -/

/-- What comes to the bridge: its commands, and the events of the processes between them. -/
inductive Input
  | prepareRoom
  | openRoom (openOptions : Json)
  | closeRoom
  | restartRoom (restartOptions : Json)
  | sendServerCommand (commandOptions : Json)
  | status
  | event (event : ProcessEvent)

/-- What an input does; a command returns a DTO. -/
def perform (settings : Settings) : Input → Commands (Option RuntimeDto)
  | .prepareRoom => do
    let dto ← prepareRoom settings
    pure (some dto)
  | .openRoom openOptions => do
    let dto ← openRoom settings openOptions
    pure (some dto)
  | .closeRoom => do
    let dto ← closeRoom settings
    pure (some dto)
  | .restartRoom restartOptions => do
    let dto ← restartRoom settings restartOptions
    pure (some dto)
  | .sendServerCommand commandOptions => do
    let dto ← sendServerCommand settings commandOptions
    pure (some dto)
  | .status => do
    let b ← Script.read
    pure (some (RuntimeBridge.status b.toBridge))
  | .event event => do
    Script.write fun b => b.observe settings [event]
    pure none

/-- If there is a manager, the next detection finds the path of its plan. -/
def FindsManagersPath (settings : Settings) (env : Environment Call Call.Answer τ) (s : BridgeSession τ) : Prop :=
  s.vars.lifecycleManager.isSome = true → ∀ java, Detects settings env s java →
    ∀ path, launchPath s.vars.managerPlan = some path → java.path = path

/-- If there is a manager, the active plan has the path of its plan. -/
def KeepsManagersPath (b : State) : Prop :=
  b.lifecycleManager.isSome = true → ∀ path, launchPath b.managerPlan = some path → launchPath b.activePlan = some path

/-- Where the manager is started again, no other path has been found since it was created.  An opening that is refused as
a second one detects nothing. -/
def SamePath (settings : Settings) (env : Environment Call Call.Answer τ) (s : BridgeSession τ) : Input → Prop
  | .openRoom _ => isDuplicateOpen s.vars = false → FindsManagersPath settings env s
  | .restartRoom _ => KeepsManagersPath s.vars
  | _ => True

theorem openRoom_ends {s : BridgeSession τ} (h : Tracked s)
    (hfinds : isDuplicateOpen s.vars = false → FindsManagersPath settings env s) (openOptions : Json) :
    Ends env A (openRoom settings openOptions) s fun _ s' => Tracked s' := by
  refine Ends.read_bind (Script.ends_ite.2 ⟨fun _ => h, fun hopen => Ends.write_bind ?_⟩)
  have hfinds := hfinds (by simpa using hopen)
  refine withJava_ends (I := Prepared) ?_ (fun _ h => h.tracked) (fun java hjava => ?_) ?_
  · exact ⟨h.launches, h.active⟩
  · refine ⟨detected_launches h.launches java, detected_active hjava, fun hsome path hpath => ?_⟩
    rw [detected_isSome] at hsome
    rw [detected_managerPlan] at hpath
    rw [latestPath_detected hjava, hfinds hsome java hjava path hpath]
  · refine withFabric_maintains prepared_planInvariant _ ?_
    exact materialize_maintains prepared_planInvariant fun _ => startManager_maintains

theorem restartRoom_ends {s : BridgeSession τ} (h : Tracked s) (hkeeps : KeepsManagersPath s.vars) (restartOptions : Json) :
    Ends env A (restartRoom settings restartOptions) s fun _ s' => Tracked s' := by
  refine Ends.read_bind (Script.ends_ite.2 ⟨fun hnone => ?_, fun hsome => Ends.write_bind ?_⟩)
  · refine openRoom_ends h (fun _ hsome => ?_) restartOptions
    rw [Option.isNone_iff_eq_none.1 hnone] at hsome
    cases hsome
  · have hmanager : s.vars.lifecycleManager.isSome = true := by
      rw [Option.isSome_iff_ne_none]
      simpa using hsome
    have hcurrent : Current { s with vars := { s.vars with lastState := .restarting } } :=
      ⟨h.launches, h.active hmanager, fun path hpath => h.active hmanager path (hkeeps hmanager path hpath)⟩
    refine Ends.mono (Maintains.ends_prepared (Maintains.bind restartServer_maintains fun result => ?_) hcurrent)
      fun _ _ h' => h'.tracked
    cases result with
    | error failure => exact rememberFailure_maintains current_planInvariant _ _
    | ok state => exact Maintains.bind Maintains.read fun _ => succeed_maintains current_planInvariant _ _ _

theorem perform_ends {s : BridgeSession τ} (h : Tracked s) (input : Input) (hsame : SamePath settings env s input) :
    Ends env A (perform settings input) s fun _ s' => Tracked s' := by
  have hdto {p : Commands RuntimeDto} (hp : Ends env A p s fun _ s' => Tracked s') :
      Ends env A (p >>= fun dto => pure (some dto)) s fun _ s' => Tracked s' :=
    hp.bind (fun _ _ h' => h') fun _ _ h' => h'
  cases input with
  | prepareRoom => exact hdto (prepareRoom_ends h)
  | openRoom openOptions => exact hdto (openRoom_ends h hsame openOptions)
  | closeRoom => exact hdto (closeRoom_maintains tracked_planInvariant s h)
  | restartRoom restartOptions => exact hdto (restartRoom_ends h hsame restartOptions)
  | sendServerCommand commandOptions => exact hdto (sendServerCommand_maintains tracked_planInvariant commandOptions s h)
  | status => exact h
  | event event =>
    have hobserved : SamePlans s.vars (s.vars.observe settings [event]) := observe_samePlans s.vars [event]
    exact (tracked_planInvariant : PlanInvariant env Tracked).samePlans hobserved h

/-! ### Runs -/

/-- The session of a new bridge. -/
def newSession (runtimePlan : Json) (world : τ) : BridgeSession τ := ⟨⟨world, []⟩, createDesktopRuntimeBridge runtimePlan⟩

theorem tracked_newSession (runtimePlan : Json) (world : τ) : Tracked (newSession runtimePlan world) where
  launches := fun n call hcall => by simp [newSession] at hcall
  active := fun hsome => by cases hsome

/-- In a run in which the manager is started again only with the path that was detected last, every server is started with the
path that was detected last. -/
theorem launches_detected (settings : Settings) (env : Environment Call Call.Answer τ) (runtimePlan : Json) (world : τ)
    (inputs : List Input)
    (h : Machine.Along (Script.step env (perform settings)) (SamePath settings env) (newSession runtimePlan world) inputs) :
    LaunchesDetected (Machine.run (Script.step env (perform settings)) (newSession runtimePlan world) inputs).history := by
  have htracked : Tracked (Machine.run (Script.step env (perform settings)) (newSession runtimePlan world) inputs) :=
    Script.run_invariant (A := fun _ => True) (fun s input hs hsame => perform_ends hs input hsame)
      (tracked_newSession runtimePlan world) h fun _ _ => trivial
  exact htracked.launches

/-- Everything succeeds; `paths` are the paths that are found one after the other. -/
def findingJava (paths : Nat → String) : Environment Call Call.Answer Nat
  | .detectJava _, found =>
    (⟨[], .fulfilled (.ok { path := .str (paths found), majorVersion := some (.num "21"), version := none, vendor := none,
                            source := none })⟩, found + 1)
  | .bootstrapFabricServer _, found => (⟨[], .fulfilled (.ok ())⟩, found)
  | .materializeRoom _, found => (⟨[], .fulfilled (.ok (.obj [("ok", .bool true)]))⟩, found)
  | .launch _ _, found => (⟨[], .fulfilled (.spawned Runtime.localServerIntent true)⟩, found)
  | .processExit, found => (⟨[.exit 0 (some 0) none], false⟩, found)
  | .writeServerCommand, found => (⟨[], none⟩, found)

def sampleSettings : Settings where
  minimumMajorVersion := none
  mode := none
  lifecycle := fun _ =>
    { runtime := Runtime.sampleOptions
      launchFailure := fun reason => { reason, message := "", detail := none }
      stopIntentFailure := .null }

def samplePlan : Json := .obj [("command", .arr [.str "java", .str "-jar", .str "fabric-server.jar", .str "nogui"])]

/-- Java has moved, but the second opening is refused, and so detects nothing. -/
theorem launches_detected_restarted :
    LaunchesDetected (Machine.run (Script.step (findingJava fun found => if found = 0 then "java-21" else "java-25")
      (perform sampleSettings)) (newSession samplePlan 0)
      [.openRoom (.obj []), .openRoom (.obj []), .restartRoom (.obj [])]).history := by
  refine launches_detected sampleSettings (findingJava fun found => if found = 0 then "java-21" else "java-25") samplePlan 0 _
    ⟨?_, ?_, ?_, trivial⟩
  · intro _ hsome
    cases hsome
  · intro hopen
    cases hopen
  · intro _ path hpath
    exact hpath

/-- A room that is opened, closed and opened again; Java has moved in between. -/
theorem not_launches_detected :
    ¬ LaunchesDetected (Machine.run (Script.step (findingJava fun found => if found = 0 then "java-21" else "java-25")
      (perform sampleSettings)) (newSession samplePlan 0) [.openRoom (.obj []), .closeRoom, .openRoom (.obj [])]).history := by
  intro h
  have hlatest : some (Json.str "java-25") = some (Json.str "java-21") := h 6 _ rfl (.str "java-21") rfl
  exact absurd (Json.str.inj (Option.some.inj hlatest)) (by decide)

end EasyMc.Desktop.RuntimeBridge
