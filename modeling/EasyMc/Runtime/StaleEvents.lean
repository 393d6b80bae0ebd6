import EasyMc.Runtime.Processes

/-!
# Events of a process that is no longer the manager's

The handlers of a process act on the manager whether or not the process is still the one it refers to.  An event of
another process leaves the state and the reference alone, and makes the manager say neither that the server is ready
nor that it has crashed, exactly when it finds the manager in a state on which it has nothing to change (`harmless`,
`stale_events_unaffected_iff`).  The exit of a process that was given up after an error, for example, clears the
reference to the process that was started in its place (`late_exit_clears`).
-/

namespace EasyMc.Runtime

variable {options : Options} {m : Manager}

/-- `runtime.ready` and `runtime.crashed`. -/
def RuntimeEvent.isSignal (event : RuntimeEvent) : Bool :=
  match event.type with
  | .ready | .crashed _ _ => true
  | _ => false

def signals (m : Manager) : List RuntimeEvent := m.events.filter RuntimeEvent.isSignal

/-- The step has changed neither the state nor the reference, and has emitted no signal. -/
structure Unaffected (m m' : Manager) : Prop where
  state : m'.state = m.state
  processRef : m'.processRef = m.processRef
  hasProcess : hasProcess m' = hasProcess m
  signals : signals m' = signals m

theorem Unaffected.refl (m : Manager) : Unaffected m m := ⟨rfl, rfl, rfl, rfl⟩

theorem Unaffected.symm {m' : Manager} (h : Unaffected m m') : Unaffected m' m :=
  ⟨h.state.symm, h.processRef.symm, h.hasProcess.symm, h.signals.symm⟩

theorem Unaffected.trans {m' m'' : Manager} (h : Unaffected m m') (h' : Unaffected m' m'') : Unaffected m m'' :=
  ⟨h'.state.trans h.state, h'.processRef.trans h.processRef, h'.hasProcess.trans h.hasProcess,
    h'.signals.trans h.signals⟩

/-! ### Lines -/

/-- The line says nothing that the manager would act on. -/
def quiet (options : Options) (m : Manager) (line : Text) : Bool :=
  !marksReady options m line && !marksCrashed options m line

theorem quiet_congr {m' : Manager} (hstate : m'.state = m.state) (hintent : m'.startIntent = m.startIntent)
    (line : Text) : quiet options m' line = quiet options m line := by
  unfold quiet marksReady marksCrashed
  rw [hstate, hintent]

theorem signals_emit_other {type : EventType} (h : RuntimeEvent.isSignal ⟨options.roomId, type⟩ = false) :
    signals (emit options m type) = signals m := by
  unfold signals emit
  rw [List.filter_append, List.filter_singleton, h]
  exact List.append_nil _

theorem signals_emit_signal {type : EventType} (h : RuntimeEvent.isSignal ⟨options.roomId, type⟩ = true) :
    (signals (emit options m type)).length = (signals m).length + 1 := by
  unfold signals emit
  rw [List.filter_append, List.filter_singleton, h]
  exact List.length_append

/-- The first thing a line does: it is logged. -/
def logged (options : Options) (m : Manager) (stream : OutputStream) (line : Text) : Manager :=
  emit options { m with logSequence := m.logSequence + 1 }
    (.log stream (options.redactHostLogLine line) (m.logSequence + 1))

/-- The second: it may make the manager say that the server is ready. -/
def readied (options : Options) (m : Manager) (line : Text) : Manager :=
  if marksReady options m line then emit options { m with state := .running } .ready else m

theorem onLog_eq (stream : OutputStream) (line : Text) :
    onLog options m stream line =
      if marksCrashed options (readied options (logged options m stream line) line) line then
        emit options { readied options (logged options m stream line) line with state := .crashed }
          (.crashed stream (options.redactHostLogLine line))
      else
        readied options (logged options m stream line) line := rfl

theorem signals_logged (stream : OutputStream) (line : Text) : signals (logged options m stream line) = signals m :=
  signals_emit_other rfl

/-- A quiet line is only logged. -/
theorem onLog_quiet (stream : OutputStream) {line : Text} (h : quiet options m line = true) :
    onLog options m stream line = logged options m stream line := by
  obtain ⟨hready, hcrashed⟩ : marksReady options m line = false ∧ marksCrashed options m line = false := by
    simpa [quiet] using h
  have hreadied : readied options (logged options m stream line) line = logged options m stream line := by
    have hready' : marksReady options (logged options m stream line) line = false := hready
    simp [readied, hready']
  have hcrashed' : marksCrashed options (logged options m stream line) line = false := hcrashed
  rw [onLog_eq, hreadied]
  simp [hcrashed']

/-- Any other line makes the manager say something. -/
theorem onLog_loud (stream : OutputStream) {line : Text} (h : quiet options m line = false) :
    (signals m).length < (signals (onLog options m stream line)).length := by
  have hlogged : (signals (logged options m stream line)).length = (signals m).length :=
    congrArg List.length (signals_logged stream line)
  have hcrash : ∀ m' : Manager, (signals (emit options { m' with state := .crashed }
      (.crashed stream (options.redactHostLogLine line)))).length = (signals m').length + 1 :=
    fun m' => signals_emit_signal rfl
  rw [onLog_eq]
  by_cases hready : marksReady options m line = true
  · have hreadied : (signals (readied options (logged options m stream line) line)).length =
        (signals m).length + 1 := by
      have hready' : marksReady options (logged options m stream line) line = true := hready
      have hsaid : (signals (emit options { logged options m stream line with state := .running } .ready)).length =
          (signals (logged options m stream line)).length + 1 := signals_emit_signal rfl
      rw [readied, if_pos hready', ← hlogged]
      exact hsaid
    split
    · rw [hcrash]
      omega
    · omega
  · -- The line is not about readiness, so it is about a crash.
    have hcrashed : marksCrashed options m line = true := by
      have hready' : marksReady options m line = false := by simpa using hready
      simpa [quiet, hready'] using h
    have hreadied : readied options (logged options m stream line) line = logged options m stream line := by
      have hready' : ¬ marksReady options (logged options m stream line) line = true := hready
      rw [readied, if_neg hready']
    have hcrashed' : marksCrashed options (logged options m stream line) line = true := hcrashed
    rw [hreadied, if_pos hcrashed', hcrash]
    omega

theorem onLogs_cons (line : OutputStream × Text) (lines : List (OutputStream × Text)) :
    onLogs options m (line :: lines) = onLogs options (onLog options m line.1 line.2) lines := rfl

theorem onLogs_signals_le (lines : List (OutputStream × Text)) :
    (signals m).length ≤ (signals (onLogs options m lines)).length := by
  induction lines generalizing m with
  | nil => exact Nat.le_refl _
  | cons line lines ih =>
    rw [onLogs_cons]
    have hline : (signals m).length ≤ (signals (onLog options m line.1 line.2)).length := by
      by_cases h : quiet options m line.2 = true
      · have hsame : signals (onLog options m line.1 line.2) = signals m := by
          rw [onLog_quiet line.1 h, signals_logged]
        exact Nat.le_of_eq (congrArg List.length hsame.symm)
      · exact Nat.le_of_lt (onLog_loud line.1 (by simpa using h))
    exact Nat.le_trans hline ih

/-- The lines make the manager say nothing exactly if none of them does. -/
theorem onLogs_signals_iff (lines : List (OutputStream × Text)) :
    signals (onLogs options m lines) = signals m ↔ ∀ line ∈ lines, quiet options m line.2 = true := by
  induction lines generalizing m with
  | nil => simp [onLogs]
  | cons line lines ih =>
    rw [onLogs_cons, List.forall_mem_cons]
    by_cases h : quiet options m line.2 = true
    · have hcongr : ∀ other, quiet options (logged options m line.1 line.2) other = quiet options m other :=
        quiet_congr rfl rfl
      have hlogged : signals (logged options m line.1 line.2) = signals m := signals_logged line.1 line.2
      rw [onLog_quiet line.1 h, ← hlogged, ih]
      simp only [hcongr, h, true_and]
    · have hloud : (signals m).length < (signals (onLog options m line.1 line.2)).length :=
        onLog_loud line.1 (by simpa using h)
      have hle : (signals (onLog options m line.1 line.2)).length ≤
          (signals (onLogs options (onLog options m line.1 line.2) lines)).length := onLogs_signals_le lines
      constructor
      · intro heq
        rw [heq] at hle
        omega
      · intro hquiet
        exact absurd hquiet.1 h

theorem onLogs_quiet_state {lines : List (OutputStream × Text)} (h : ∀ line ∈ lines, quiet options m line.2 = true) :
    (onLogs options m lines).state = m.state := by
  induction lines generalizing m with
  | nil => rfl
  | cons line lines ih =>
    obtain ⟨hline, hlines⟩ := List.forall_mem_cons.1 h
    have hcongr : ∀ other, quiet options (logged options m line.1 line.2) other = quiet options m other :=
      quiet_congr rfl rfl
    rw [onLogs_cons, onLog_quiet line.1 hline]
    exact ih fun other hother => (hcongr other.2).trans (hlines other hother)

/-- The lines leave the manager as it was exactly if all of them are quiet. -/
theorem onLogs_unaffected_iff (children : List Child) (lines : List (OutputStream × Text)) :
    Unaffected m (onLogs options { m with children := children } lines) ↔
      ∀ line ∈ lines, quiet options m line.2 = true := by
  have hiff : signals (onLogs options { m with children := children } lines) = signals m ↔
      ∀ line ∈ lines, quiet options m line.2 = true := onLogs_signals_iff lines
  constructor
  · intro h
    exact hiff.1 h.signals
  · intro h
    have hprocesses : (onLogs options { m with children := children } lines).processes =
        Manager.processes { m with children := children } := onLogs_processes lines
    have href : (onLogs options { m with children := children } lines).processRef = m.processRef :=
      congrArg Processes.processRef hprocesses
    have hexited : (onLogs options { m with children := children } lines).processExited = m.processExited :=
      congrArg Processes.processExited hprocesses
    have hstate : (onLogs options { m with children := children } lines).state = m.state := onLogs_quiet_state h
    exact
      { state := hstate
        processRef := href
        hasProcess := by rw [hasProcess, href, hexited, hasProcess]
        signals := hiff.2 h }

/-! ### Events -/

/-- The process of an event of a process. -/
def Label.child : Label → Option Nat
  | .data child _ _ | .exit child _ _ | .error child _ => some child
  | _ => none

/-- The lines that the end of the process brings out. -/
def quietFlush (options : Options) (m : Manager) (process : Child) : Bool :=
  process.settled.isSome || process.flushed.all fun line => quiet options m line.2

/-- The event finds nothing to change: the lines it brings out are quiet, an exit or an error finds the reference
cleared, an exit finds the state it would leave, and an error finds a failure. -/
def harmless (options : Options) (m : Manager) : Label → Bool
  | .data child stream chunk =>
    match m.children[child]? with
    | some process => (pushChunk (process.buffer stream) chunk).1.all (quiet options m)
    | none => true
  | .exit child code _ =>
    match m.children[child]? with
    | some process =>
      !process.alive ||
        (m.processRef == none && (m.state == .crashed || m.state == .stopped && code.getD 0 == 0) &&
          quietFlush options m process)
    | none => true
  | .error child _ =>
    match m.children[child]? with
    | some process =>
      process.errorHandled || (m.processRef == none && m.state == .failed && quietFlush options m process)
    | none => true
  | _ => true

theorem onData_unaffected_iff (child : Nat) (stream : OutputStream) (chunk : Text) :
    Unaffected m (onData options m child stream chunk) ↔ harmless options m (.data child stream chunk) = true := by
  cases hchild : m.children[child]? with
  | none =>
    simp only [onData, harmless, hchild]
    exact ⟨fun _ => trivial, fun _ => .refl m⟩
  | some process =>
    obtain ⟨process', -, hdata⟩ : ∃ process' : Child, process'.alive = process.alive ∧
        onData options m child stream chunk = onLogs options { m with children := m.children.set child process' }
          ((pushChunk (process.buffer stream) chunk).1.map (stream, ·)) := onData_eq hchild stream chunk
    rw [hdata, onLogs_unaffected_iff, List.forall_mem_map]
    simp only [harmless, hchild, List.all_eq_true]

/-- A process that has ended flushes its lines once. -/
theorem settle_signals_iff {child : Nat} {process : Child} (hchild : m.children[child]? = some process)
    (result : ExitResult) :
    signals (settle options m child result) = signals m ↔ quietFlush options m process = true := by
  unfold settle quietFlush
  simp only [hchild]
  by_cases hsettled : process.settled.isSome = true
  · rw [if_pos hsettled, hsettled, Bool.true_or]
    exact ⟨fun _ => rfl, fun _ => rfl⟩
  · rw [if_neg hsettled]
    simp only [hsettled, Bool.false_or, List.all_eq_true]
    exact onLogs_signals_iff process.flushed

theorem settle_quiet {child : Nat} {process : Child} (hchild : m.children[child]? = some process)
    (h : quietFlush options m process = true) (result : ExitResult) : Unaffected m (settle options m child result) := by
  unfold settle
  unfold quietFlush at h
  simp only [hchild]
  by_cases hsettled : process.settled.isSome = true
  · rw [if_pos hsettled]
    exact .refl m
  · rw [if_neg hsettled, onLogs_unaffected_iff]
    simpa [hsettled] using h

theorem quietFlush_congr {m' : Manager} (hstate : m'.state = m.state) (hintent : m'.startIntent = m.startIntent)
    (process : Child) : quietFlush options m' process = quietFlush options m process := by
  unfold quietFlush
  have hquiet : ∀ line, quiet options m' line = quiet options m line := quiet_congr hstate hintent
  simp only [hquiet]

/-- The end of a process, after its handler has emitted something that is no signal. -/
theorem settled_unaffected_iff {m' : Manager} {child : Nat} (process : Child)
    (hchild : m'.children[child]? = some process) (hsignals : signals m' = signals m)
    (hintent : m'.startIntent = m.startIntent) (result : ExitResult) :
    Unaffected m (settle options m' child result) ↔ Unaffected m m' ∧ quietFlush options m process = true := by
  constructor
  · intro h
    have hquiet : quietFlush options m' process = true :=
      (settle_signals_iff hchild result).1 (h.signals.trans hsignals.symm)
    have hhandler : Unaffected m m' := h.trans (settle_quiet hchild hquiet result).symm
    exact ⟨hhandler, (quietFlush_congr hhandler.state hintent process).symm.trans hquiet⟩
  · rintro ⟨hhandler, hquiet⟩
    have hquiet' : quietFlush options m' process = true :=
      (quietFlush_congr hhandler.state hintent process).trans hquiet
    exact hhandler.trans (settle_quiet hchild hquiet' result)

theorem exitState_eq_iff (state : HostRuntimeState) (code : Option Int) :
    exitState state code = state ↔ (state == .crashed || state == .stopped && code.getD 0 == 0) = true := by
  by_cases hcode : code.getD 0 = 0 <;> cases state <;> simp [exitState, hcode]

theorem signals_onExit (children : List Child) (code : Option Int) (signal : Option String) :
    signals (onExit options { m with children := children } code signal) = signals m := signals_emit_other rfl

theorem onExit_unaffected_iff (children : List Child) (code : Option Int) (signal : Option String) :
    Unaffected m (onExit options { m with children := children } code signal) ↔
      m.processRef = none ∧ exitState m.state code = m.state := by
  constructor
  · intro h
    exact ⟨h.processRef.symm, h.state⟩
  · rintro ⟨href, hstate⟩
    exact
      { state := hstate
        processRef := href.symm
        hasProcess := by simp [hasProcess, onExit, emit, href]
        signals := signals_onExit children code signal }

theorem signals_onError (children : List Child) (error : String) :
    signals (onError options { m with children := children } error) = signals m := signals_emit_other rfl

theorem onError_unaffected_iff (children : List Child) (error : String) :
    Unaffected m (onError options { m with children := children } error) ↔
      m.processRef = none ∧ m.state = .failed := by
  constructor
  · intro h
    exact ⟨h.processRef.symm, h.state.symm⟩
  · rintro ⟨href, hstate⟩
    exact
      { state := hstate.symm
        processRef := href.symm
        hasProcess := by simp [hasProcess, onError, emit, href]
        signals := signals_onError children error }

theorem exited_unaffected_iff (child : Nat) (code : Option Int) (signal : Option String) :
    Unaffected m (exited options m child code signal) ↔ harmless options m (.exit child code signal) = true := by
  cases hchild : m.children[child]? with
  | none =>
    simp only [exited, harmless, hchild]
    exact ⟨fun _ => trivial, fun _ => .refl m⟩
  | some process =>
    by_cases halive : process.alive = true
    · have hlt : child < m.children.length := (List.getElem?_eq_some_iff.1 hchild).1
      have hsettled : Unaffected m (exited options m child code signal) ↔
          Unaffected m (onExit options { m with children := m.children.set child { process with alive := false } }
            code signal) ∧ quietFlush options m process = true := by
        simp only [exited, hchild, halive, if_true]
        exact settled_unaffected_iff { process with alive := false } (List.getElem?_set_self hlt)
          (signals_onExit _ code signal) rfl _
      rw [hsettled, onExit_unaffected_iff, exitState_eq_iff]
      simp only [harmless, hchild, halive, Bool.not_true, Bool.false_or, Bool.and_eq_true, beq_iff_eq]
    · simp only [exited, harmless, hchild, halive, Bool.not_false, Bool.true_or]
      exact ⟨fun _ => trivial, fun _ => .refl m⟩

theorem errored_unaffected_iff (child : Nat) (error : String) :
    Unaffected m (errored options m child error) ↔ harmless options m (.error child error) = true := by
  cases hchild : m.children[child]? with
  | none =>
    simp only [errored, harmless, hchild]
    exact ⟨fun _ => trivial, fun _ => .refl m⟩
  | some process =>
    by_cases hhandled : process.errorHandled = true
    · simp only [errored, harmless, hchild, hhandled, if_true, Bool.true_or]
      exact ⟨fun _ => trivial, fun _ => .refl m⟩
    · have hlt : child < m.children.length := (List.getElem?_eq_some_iff.1 hchild).1
      have hsettled : Unaffected m (errored options m child error) ↔
          Unaffected m (onError options { m with children := m.children.set child { process with errorHandled := true } }
            error) ∧ quietFlush options m process = true := by
        simp only [errored, hchild, if_neg hhandled]
        exact settled_unaffected_iff { process with errorHandled := true } (List.getElem?_set_self hlt)
          (signals_onError _ error) rfl _
      rw [hsettled, onError_unaffected_iff]
      simp only [harmless, hchild, hhandled, Bool.false_or, Bool.and_eq_true, beq_iff_eq]

/-- The events of the processes, one by one. -/
theorem event_unaffected_iff {label : Label} {child : Nat} (hchild : label.child = some child) :
    Unaffected m (step options m label).2 ↔ harmless options m label = true := by
  cases label with
  | data child stream chunk => exact onData_unaffected_iff child stream chunk
  | exit child code signal => exact exited_unaffected_iff child code signal
  | error child error => exact errored_unaffected_iff child error
  | _ => cases hchild

/-- The step is an event of a process that the manager does not refer to. -/
def stale (m : Manager) (label : Label) : Bool :=
  match label.child with
  | some child => m.processRef != some child
  | none => false

/-- The manager is unaffected by the events of other processes, in all of a run. -/
def StaleEventsUnaffected (options : Options) (labels : List Label) : Prop :=
  Machine.Along (step options) (fun m label => stale m label = true → Unaffected m (step options m label).2)
    createLocalServerLifecycleManager labels

/-- A run in which the events of other processes have no effect is a run in which they are harmless. -/
theorem stale_events_unaffected_iff (options : Options) (labels : List Label) :
    StaleEventsUnaffected options labels ↔
      Machine.Along (step options) (fun m label => stale m label = true → harmless options m label = true)
        createLocalServerLifecycleManager labels := by
  have hevent : ∀ (m : Manager) (label : Label), stale m label = true →
      (Unaffected m (step options m label).2 ↔ harmless options m label = true) := by
    intro m label hstale
    unfold stale at hstale
    cases hchild : label.child with
    | none => simp [hchild] at hstale
    | some child => exact event_unaffected_iff hchild
  constructor
  · intro h
    exact h.mono fun m label hun hstale => (hevent m label hstale).1 (hun hstale)
  · intro h
    exact h.mono fun m label hharmless hstale => (hevent m label hstale).2 (hharmless hstale)

/-- A process reports an error while it runs, the server is started again, and then the first process exits. -/
def lateExit : List Label :=
  [.start, .launched 0 (.spawned localServerIntent true), .error 0 "kill EPERM", .start,
    .launched 1 (.spawned localServerIntent true), .exit 0 (some 0) none]

/-- The exit clears the reference to the second process, which runs. -/
theorem late_exit_clears : ¬ ∀ (options : Options) (labels : List Label), StaleEventsUnaffected options labels := by
  intro h
  obtain ⟨-, -, -, -, -, hexit, -⟩ := h sampleOptions lateExit
  have href : none = some 1 := (hexit rfl).processRef
  cases href

end EasyMc.Runtime
