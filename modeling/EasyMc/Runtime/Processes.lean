import EasyMc.Runtime.Manager

/-!
# The processes of the manager

At most one process is alive, and it is the one the manager refers to, as long as that reference is not replaced or
cleared while its process is alive (`one_process`): by a launch that hands over a second process, by an error that is
reported before the exit, or by a stop that goes on after another start.  The exit of a process clears the reference
as well, and by then the process is gone.  Two starts that overlap break the rule (`two_processes`).
-/

namespace EasyMc.Runtime

variable {options : Options} {m : Manager}

/-! ### What the steps do to the processes -/

/-- Which processes are alive, and which one the manager refers to. -/
structure Processes where
  alive : List Bool
  processRef : Option Nat
  processExited : Bool

def Manager.processes (m : Manager) : Processes :=
  { alive := m.children.map Child.alive, processRef := m.processRef, processExited := m.processExited }

/-- The reference is cleared. -/
def Processes.clear (p : Processes) : Processes := { p with processRef := none, processExited := true }

theorem onLog_processes (stream : OutputStream) (line : Text) :
    (onLog options m stream line).processes = m.processes := by
  unfold onLog
  dsimp only
  split_ifs <;> rfl

theorem onLogs_processes (lines : List (OutputStream × Text)) :
    (onLogs options m lines).processes = m.processes := by
  induction lines generalizing m with
  | nil => rfl
  | cons line lines ih => exact (@ih (onLog options m line.1 line.2)).trans (onLog_processes line.1 line.2)

/-- A process is replaced by one that is alive if it was. -/
theorem map_alive_set {child : Nat} {process : Child} (h : m.children[child]? = some process) {process' : Child}
    (halive : process'.alive = process.alive) :
    (m.children.set child process').map Child.alive = m.children.map Child.alive := by
  apply List.ext_getElem?
  intro c
  rw [List.getElem?_map, List.getElem?_map]
  by_cases hc : child = c
  · subst hc
    have hlt : child < m.children.length := (List.getElem?_eq_some_iff.1 h).1
    rw [List.getElem?_set_self hlt, h]
    exact congrArg some halive
  · rw [List.getElem?_set_ne hc]

theorem settle_processes (child : Nat) (result : ExitResult) :
    (settle options m child result).processes = m.processes := by
  unfold settle
  split
  · rename_i process hchild
    split
    · rfl
    · rw [onLogs_processes]
      have halive : (m.children.set child { process with settled := some result, stdout := [], stderr := [] }).map
          Child.alive = m.children.map Child.alive := map_alive_set hchild rfl
      simp only [Manager.processes, halive]
  · rfl

def Child.buffer (process : Child) : OutputStream → Text
  | .stdout => process.stdout
  | .stderr => process.stderr

/-- What a process writes is kept in its buffer, and the complete lines are passed on. -/
theorem onData_eq {child : Nat} {process : Child} (hchild : m.children[child]? = some process) (stream : OutputStream)
    (chunk : Text) :
    ∃ process' : Child, process'.alive = process.alive ∧ onData options m child stream chunk =
      onLogs options { m with children := m.children.set child process' }
        ((pushChunk (process.buffer stream) chunk).1.map (stream, ·)) := by
  cases stream with
  | stdout =>
    refine ⟨{ process with stdout := (pushChunk process.stdout chunk).2 }, rfl, ?_⟩
    simp only [onData, hchild]
    rfl
  | stderr =>
    refine ⟨{ process with stderr := (pushChunk process.stderr chunk).2 }, rfl, ?_⟩
    simp only [onData, hchild]
    rfl

theorem onData_processes (child : Nat) (stream : OutputStream) (chunk : Text) :
    (onData options m child stream chunk).processes = m.processes := by
  cases hchild : m.children[child]? with
  | none => simp only [onData, hchild]
  | some process =>
    obtain ⟨process', hsame, hdata⟩ : ∃ process' : Child, process'.alive = process.alive ∧
        onData options m child stream chunk = onLogs options { m with children := m.children.set child process' }
          ((pushChunk (process.buffer stream) chunk).1.map (stream, ·)) := onData_eq hchild stream chunk
    have halive : (m.children.set child process').map Child.alive = m.children.map Child.alive :=
      map_alive_set hchild hsame
    rw [hdata, onLogs_processes]
    simp only [Manager.processes, halive]

theorem writeStdin_processes (child : Nat) (text : Text) : (writeStdin m child text).processes = m.processes := by
  have halive : (m.children.modify child fun process => { process with stdin := process.stdin ++ [text] }).map
      Child.alive = m.children.map Child.alive := by
    apply List.ext_getElem?
    intro c
    rw [List.getElem?_map, List.getElem?_map, List.getElem?_modify]
    cases m.children[c]? with
    | none => rfl
    | some process => by_cases hc : child = c <;> simp [hc]
  simp only [Manager.processes, writeStdin, halive]

/-- The process of the manager is alive. -/
def currentAlive (m : Manager) : Bool := (m.processRef.bind fun child => m.children[child]?).any Child.alive

/-- The step replaces or clears the reference to the process, other than for an exit. -/
def replacesProcess (m : Manager) : Label → Bool
  | .launched call (.spawned _ _) => m.calls[call]? == some .launching
  | .resume call =>
    match m.calls[call]? with
    | some (.stopping child _ _ false) =>
      match m.children[child]?.bind Child.settled with
      | some (.exit _ _) => true
      | _ => false
    | _ => false
  | .error child _ => (m.children[child]?).any fun process => !process.errorHandled
  | _ => false

/-- What a step does to the processes. -/
inductive ProcessChange (m : Manager) (label : Label) (p : Processes) : Prop
  | same (keeps : replacesProcess m label = false) (after : p = m.processes)
  | spawned (call : Nat) (intent : Intent) (alive : Bool) (spawns : label = .launched call (.spawned intent alive))
      (replaces : replacesProcess m label = true)
      (after : p = { alive := m.processes.alive ++ [alive], processRef := some m.processes.alive.length
                     processExited := false })
  | cleared (replaces : replacesProcess m label = true) (after : p = m.processes.clear)
  | exited (child : Nat) (keeps : replacesProcess m label = false) (alive : m.processes.alive[child]? = some true)
      (after : p = { m.processes.clear with alive := m.processes.alive.set child false })

theorem stopProcess_processes (restart : Bool) : (stopProcess options m restart).2.processes = m.processes := by
  unfold stopProcess
  split
  · rename_i child _ _
    split
    · rfl
    · have hwrite : (writeStdin { m with state := .stopping } child gracefulCommand).processes = m.processes :=
        writeStdin_processes child gracefulCommand
      exact hwrite
  · split <;> rfl

theorem sendCommand_processes (command : Option Text) :
    (sendCommand options m command).2.processes = m.processes := by
  unfold sendCommand
  split
  · rfl
  · split
    · rfl
    · split
      · exact writeStdin_processes _ _
      · rfl

theorem launched_processes (call : Nat) (result : LaunchResult) :
    ProcessChange m (.launched call result) (launched options m call result).2.processes := by
  unfold launched
  split
  · rename_i hcall
    cases result with
    | failed reason => exact .same rfl rfl
    | notLaunched mode => exact .same rfl rfl
    | threw => exact .same rfl rfl
    | spawned intent alive =>
      have hreplaces : replacesProcess m (.launched call (.spawned intent alive)) = true := by
        simp [replacesProcess, hcall]
      apply ProcessChange.spawned call intent alive rfl hreplaces
      simp [storeProcess, setCall, Manager.processes]
  · rename_i hcall
    have hkeeps : replacesProcess m (.launched call result) = false := by
      cases result with
      | spawned intent alive => simpa [replacesProcess] using hcall
      | _ => rfl
    exact .same hkeeps rfl

theorem resume_processes (call : Nat) : ProcessChange m (.resume call) (resume m call).2.processes := by
  unfold resume
  split
  · rename_i child restart didKill timedOut hcall
    split
    · rename_i hrace
      have hkeeps : replacesProcess m (.resume call) = false := by simp [replacesProcess, hcall, hrace]
      exact .same hkeeps rfl
    · rename_i hrace
      split
      · rename_i hsettled
        have hkeeps : replacesProcess m (.resume call) = false := by simp [replacesProcess, hcall, hsettled, hrace]
        exact .same hkeeps rfl
      · rename_i error hsettled
        have hkeeps : replacesProcess m (.resume call) = false := by simp [replacesProcess, hcall, hsettled, hrace]
        exact .same hkeeps rfl
      · rename_i code signal hsettled
        have hreplaces : replacesProcess m (.resume call) = true := by
          simp [replacesProcess, hcall, hsettled, hrace]
        split <;> exact .cleared hreplaces rfl
  · rename_i hcall
    have hkeeps : replacesProcess m (.resume call) = false := by simp [replacesProcess, hcall]
    split <;> exact .same hkeeps rfl
  · rename_i hstopping hrestarting
    have hkeeps : replacesProcess m (.resume call) = false := by
      simp only [replacesProcess]
      split
      · rename_i child restart didKill hcall
        exact (hstopping _ _ _ _ hcall).elim
      · rfl
    exact .same hkeeps rfl

theorem exited_processes (child : Nat) (code : Option Int) (signal : Option String) :
    ProcessChange m (.exit child code signal) (exited options m child code signal).processes := by
  unfold exited
  split
  · rename_i process hchild
    split
    · rename_i halive
      rw [settle_processes]
      have hget : m.processes.alive[child]? = some true := by
        show (m.children.map Child.alive)[child]? = some true
        rw [List.getElem?_map, hchild]
        exact congrArg some halive
      apply ProcessChange.exited child rfl hget
      simp [onExit, emit, Manager.processes, Processes.clear, List.map_set]
    · exact .same rfl rfl
  · exact .same rfl rfl

theorem errored_processes (child : Nat) (error : String) :
    ProcessChange m (.error child error) (errored options m child error).processes := by
  unfold errored
  split
  · rename_i process hchild
    split
    · rename_i hhandled
      have hkeeps : replacesProcess m (.error child error) = false := by simp [replacesProcess, hchild, hhandled]
      exact .same hkeeps rfl
    · rename_i hhandled
      rw [settle_processes]
      have hreplaces : replacesProcess m (.error child error) = true := by
        simp [replacesProcess, hchild, hhandled]
      have halive : (m.children.set child { process with errorHandled := true }).map Child.alive =
          m.children.map Child.alive := map_alive_set hchild rfl
      apply ProcessChange.cleared hreplaces
      simp [onError, emit, Manager.processes, Processes.clear, halive]
  · rename_i hchild
    have hkeeps : replacesProcess m (.error child error) = false := by simp [replacesProcess, hchild]
    exact .same hkeeps rfl

theorem step_processes (label : Label) : ProcessChange m label (step options m label).2.processes := by
  cases label with
  | start =>
    show ProcessChange m .start (start m).2.processes
    unfold start
    split <;> exact .same rfl rfl
  | stop => exact .same rfl (stopProcess_processes false)
  | restart =>
    have hstop : (stopProcess options { m with state := .restarting } true).2.processes = m.processes :=
      stopProcess_processes true
    exact .same rfl hstop
  | sendCommand command => exact .same rfl (sendCommand_processes command)
  | launched call result => exact launched_processes call result
  | softTimeout call =>
    show ProcessChange m _ (softTimeout m call).processes
    unfold softTimeout
    split <;> exact .same rfl rfl
  | hardTimeout call =>
    show ProcessChange m _ (hardTimeout m call).processes
    unfold hardTimeout
    split
    · split <;> exact .same rfl rfl
    · exact .same rfl rfl
  | resume call => exact resume_processes call
  | written call error =>
    show ProcessChange m _ (written options m call error).2.processes
    unfold written
    split
    · cases error <;> exact .same rfl rfl
    · exact .same rfl rfl
  | data child stream chunk => exact .same rfl (onData_processes child stream chunk)
  | exit child code signal => exact exited_processes child code signal
  | error child error => exact errored_processes child error

/-! ### One process -/

/-- A process that is alive is the one the manager refers to. -/
def Tracked (p : Processes) : Prop :=
  ∀ child, p.alive[child]? = some true → p.processRef = some child ∧ p.processExited = false

theorem Tracked.start : Tracked createLocalServerLifecycleManager.processes := by
  intro child h
  simp [createLocalServerLifecycleManager, Manager.processes] at h

/-- Tracking is kept as long as the reference to a process that is alive is neither replaced nor cleared. -/
theorem Tracked.change {label : Label} (h : Tracked m.processes)
    (hkeeps : replacesProcess m label = true → currentAlive m = false) {p : Processes}
    (hchange : ProcessChange m label p) : Tracked p := by
  -- If the current process is not alive, none is.
  have hnone : currentAlive m = false → ∀ child : Nat, m.processes.alive[child]? ≠ some true := by
    intro hcurrent child halive
    obtain ⟨href, -⟩ := h child halive
    change m.processRef = some child at href
    change (m.children.map Child.alive)[child]? = some true at halive
    rw [List.getElem?_map] at halive
    simp only [currentAlive, href, Option.bind_some] at hcurrent
    cases hchild : m.children[child]? with
    | none => simp [hchild] at halive
    | some process =>
      rw [hchild] at halive hcurrent
      simp at halive hcurrent
      rw [halive] at hcurrent
      cases hcurrent
  cases hchange with
  | same keeps after =>
    rw [after]
    exact h
  | spawned call intent alive spawns replaces after =>
    subst after
    intro child halive
    change (m.processes.alive ++ [alive])[child]? = some true at halive
    have hlt : child < (m.processes.alive ++ [alive]).length := (List.getElem?_eq_some_iff.1 halive).1
    by_cases hold : child < m.processes.alive.length
    · rw [List.getElem?_append_left hold] at halive
      exact absurd halive (hnone (hkeeps replaces) child)
    · rw [List.length_append, List.length_singleton] at hlt
      obtain rfl : child = m.processes.alive.length := by omega
      exact ⟨rfl, rfl⟩
  | cleared replaces after =>
    subst after
    intro child halive
    exact absurd halive (hnone (hkeeps replaces) child)
  | exited gone keeps hgone after =>
    subst after
    intro child halive
    change (m.processes.alive.set gone false)[child]? = some true at halive
    by_cases hc : gone = child
    · subst hc
      have hlt : gone < m.processes.alive.length := (List.getElem?_eq_some_iff.1 hgone).1
      rw [List.getElem?_set_self hlt] at halive
      cases halive
    · -- The process that exits is the current one, so no other is alive.
      rw [List.getElem?_set_ne hc] at halive
      obtain ⟨href, -⟩ := h child halive
      obtain ⟨hgoneRef, -⟩ := h gone hgone
      exact absurd (Option.some.inj (hgoneRef.symm.trans href)) hc

/-- The process has been spawned and has not exited. -/
def Alive (m : Manager) (child : Nat) : Prop := ∃ process, m.children[child]? = some process ∧ process.alive = true

theorem alive_iff {child : Nat} : Alive m child ↔ m.processes.alive[child]? = some true := by
  unfold Alive Manager.processes
  dsimp only
  rw [List.getElem?_map, Option.map_eq_some_iff]

/-- Replacing or clearing the reference to a process that is alive leaves it alive without the manager: next to
another process, or while the manager reports none. -/
theorem replaced_process_lost {label : Label} (hreplaces : replacesProcess m label = true)
    (hcurrent : currentAlive m = true)
    (hspawned : ∀ call intent, label ≠ .launched call (.spawned intent false)) :
    (∃ child child', Alive (step options m label).2 child ∧ Alive (step options m label).2 child' ∧ child ≠ child') ∨
      hasProcess (step options m label).2 = false ∧ ∃ child, Alive (step options m label).2 child := by
  obtain ⟨child, halive⟩ : ∃ child : Nat, m.processes.alive[child]? = some true := by
    unfold currentAlive at hcurrent
    obtain ⟨process, hprocess, halive⟩ := (Option.any_eq_true _ _).1 hcurrent
    obtain ⟨child, -, hchild⟩ := Option.bind_eq_some_iff.1 hprocess
    exact ⟨child, alive_iff.1 ⟨process, hchild, halive⟩⟩
  have hchange : ProcessChange m label (step options m label).2.processes := step_processes label
  simp only [alive_iff]
  cases hchange with
  | same keeps after =>
    rw [hreplaces] at keeps
    cases keeps
  | exited gone keeps alive after =>
    rw [hreplaces] at keeps
    cases keeps
  | spawned call intent alive spawns replaces after =>
    have hlt : child < m.processes.alive.length := (List.getElem?_eq_some_iff.1 halive).1
    have hnew : alive = true := by
      cases alive with
      | true => rfl
      | false => exact absurd spawns (hspawned call intent)
    subst hnew
    left
    rw [after]
    exact ⟨child, m.processes.alive.length, (List.getElem?_append_left hlt).trans halive, List.getElem?_concat_length,
      by omega⟩
  | cleared replaces after =>
    right
    have hexited : (step options m label).2.processExited = true := congrArg Processes.processExited after
    refine ⟨by simp [hasProcess, hexited], child, ?_⟩
    rw [after]
    exact halive

/-- As long as the reference to a process that is alive is neither replaced nor cleared, except by its exit, at most
one process is alive at any time, and none is when the manager reports that it has no process. -/
theorem one_process (options : Options) (labels : List Label)
    (hrun : Machine.Along (step options)
      (fun m label => replacesProcess m label = true → currentAlive m = false) createLocalServerLifecycleManager
      labels) :
    (∀ child child', Alive (run options labels) child → Alive (run options labels) child' → child = child') ∧
      (hasProcess (run options labels) = false → ∀ child, ¬ Alive (run options labels) child) := by
  have htracked : Tracked (run options labels).processes :=
    Machine.run_invariant (I := fun m : Manager => Tracked m.processes)
      (fun m label h hkeeps => h.change hkeeps (step_processes label)) .start hrun
  constructor
  · intro child child' halive halive'
    obtain ⟨href, -⟩ := htracked child (alive_iff.1 halive)
    obtain ⟨href', -⟩ := htracked child' (alive_iff.1 halive')
    exact Option.some.inj (href.symm.trans href')
  · intro hno child halive
    obtain ⟨href, hexited⟩ := htracked child (alive_iff.1 halive)
    change (run options labels).processRef = some child at href
    change (run options labels).processExited = false at hexited
    simp [hasProcess, href, hexited] at hno

/-- The server is started, restarted, and stopped; each process exits when it is asked to. -/
def restartedServer : List Label :=
  [.start, .launched 0 (.spawned localServerIntent true), .restart, .exit 0 (some 0) none, .resume 1, .resume 1,
    .launched 1 (.spawned localServerIntent true), .stop, .exit 1 (some 0) none, .resume 2]

theorem one_process_restarted :
    (∀ child child', Alive (run sampleOptions restartedServer) child → Alive (run sampleOptions restartedServer) child' →
      child = child') ∧
      (hasProcess (run sampleOptions restartedServer) = false →
        ∀ child, ¬ Alive (run sampleOptions restartedServer) child) :=
  one_process sampleOptions restartedServer (by decide)

/-- A second start passes its check while the first one waits for its launch. -/
def overlappingStarts : List Label :=
  [.start, .start, .launched 0 (.spawned localServerIntent true), .launched 1 (.spawned localServerIntent true)]

/-- Both launches hand over a process; when the second exits, the manager has no process while the first runs. -/
theorem two_processes :
    ¬ ∀ (options : Options) (labels : List Label),
      (∀ child child', Alive (run options labels) child → Alive (run options labels) child' → child = child') ∧
        (hasProcess (run options labels) = false → ∀ child, ¬ Alive (run options labels) child) := by
  intro h
  have hfirst : Alive (run sampleOptions overlappingStarts) 0 := ⟨_, rfl, rfl⟩
  have hsecond : Alive (run sampleOptions overlappingStarts) 1 := ⟨_, rfl, rfl⟩
  have hsame := (h sampleOptions overlappingStarts).1 0 1 hfirst hsecond
  omega

end EasyMc.Runtime
