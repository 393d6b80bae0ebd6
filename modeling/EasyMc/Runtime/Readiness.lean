import Mathlib.Logic.Relation
import EasyMc.Runtime.StaleEvents

/-!
# When the manager says that the server is ready

Whatever a step does to the state and the events of the manager is a sequence of turns (`Turn`): a line that says that
the server is ready takes the manager from `starting` to `running`, a line that says that it has crashed takes it to
`crashed`, and everything else emits no signal and leaves the state and the process alone, or gives up the server.
Only a start that succeeds is none of these (`step_turns`, `step_started`).

So the manager has a process whenever it is `starting` or `running`, and from one such start to the next it says at most
once that the server is ready, and not after it has said that it has crashed (`ready_at_most_once`).
-/

namespace EasyMc.Runtime

open Relation (ReflTransGen)

variable {options : Options} {m m' : Manager}

def RuntimeEvent.isReady (event : RuntimeEvent) : Bool := event.type == .ready

def RuntimeEvent.isCrashed (event : RuntimeEvent) : Bool :=
  match event.type with
  | .crashed _ _ => true
  | _ => false

/-- `starting` and `running`. -/
def HostRuntimeState.isUp (state : HostRuntimeState) : Bool := state == .starting || state == .running

/-- The call has started the server. -/
def Output.isStarted : Output → Bool
  | .started _ _ => true
  | _ => false

/-! ### Turns -/

/-- The smallest changes of the state and the events. -/
inductive Turn : Manager → Manager → Prop
  | other {m m' : Manager} (emitted : List RuntimeEvent) (quiet : ∀ event ∈ emitted, event.isSignal = false)
      (events : m'.events = m.events ++ emitted)
      (state : m'.state = m.state ∧ hasProcess m' = hasProcess m ∨ m'.state.isUp = false) : Turn m m'
  | ready {m m' : Manager} (event : RuntimeEvent) (kind : event.isCrashed = false) (events : m'.events = m.events ++ [event])
      (before : m.state = .starting) (after : m'.state = .running) (process : hasProcess m' = hasProcess m) : Turn m m'
  | crashed {m m' : Manager} (event : RuntimeEvent) (kind : event.isReady = false)
      (events : m'.events = m.events ++ [event]) (after : m'.state = .crashed) : Turn m m'

/-- Nothing has been emitted, and the server has not come up. -/
theorem Turn.silent (hevents : m'.events = m.events)
    (hstate : m'.state = m.state ∧ hasProcess m' = hasProcess m ∨ m'.state.isUp = false) : Turn m m' :=
  .other [] (by simp) (by rw [hevents, List.append_nil]) hstate

theorem Turn.emits {type : EventType} (hquiet : RuntimeEvent.isSignal ⟨options.roomId, type⟩ = false)
    (hevents : m'.events = m.events ++ [⟨options.roomId, type⟩])
    (hstate : m'.state = m.state ∧ hasProcess m' = hasProcess m ∨ m'.state.isUp = false) : Turn m m' := by
  refine .other _ ?_ hevents hstate
  intro event hevent
  rw [List.mem_singleton.1 hevent]
  exact hquiet

theorem onLog_turns (stream : OutputStream) (line : Text) : ReflTransGen Turn m (onLog options m stream line) := by
  rw [onLog_eq]
  have hlogged : Turn m (logged options m stream line) := Turn.emits rfl rfl (.inl ⟨rfl, rfl⟩)
  have hreadied : ReflTransGen Turn (logged options m stream line) (readied options (logged options m stream line) line) := by
    unfold readied
    split
    · rename_i hready
      rw [marksReady, Bool.and_eq_true, beq_iff_eq] at hready
      exact .single (.ready _ rfl rfl hready.1 rfl rfl)
    · exact .refl
  have hboth := hreadied.head hlogged
  split
  · exact hboth.tail (.crashed _ rfl rfl rfl)
  · exact hboth

theorem onLogs_turns (lines : List (OutputStream × Text)) : ReflTransGen Turn m (onLogs options m lines) := by
  induction lines generalizing m with
  | nil => exact .refl
  | cons line lines ih =>
    rw [onLogs_cons]
    exact (onLog_turns line.1 line.2).trans ih

/-- The buffers of the processes are no matter. -/
theorem onLogs_children_turns (children : List Child) (lines : List (OutputStream × Text)) :
    ReflTransGen Turn m (onLogs options { m with children := children } lines) := by
  have hchildren : Turn m { m with children := children } := Turn.silent rfl (.inl ⟨rfl, rfl⟩)
  exact (onLogs_turns lines).head hchildren

theorem settle_turns (child : Nat) (result : ExitResult) : ReflTransGen Turn m (settle options m child result) := by
  unfold settle
  split
  · split
    · exact .refl
    · exact onLogs_children_turns _ _
  · exact .refl

theorem onData_turns (child : Nat) (stream : OutputStream) (chunk : Text) :
    ReflTransGen Turn m (onData options m child stream chunk) := by
  cases hchild : m.children[child]? with
  | none =>
    simp only [onData, hchild]
    exact .refl
  | some process =>
    obtain ⟨process', -, hdata⟩ := @onData_eq options m child process hchild stream chunk
    rw [hdata]
    exact onLogs_children_turns _ _

theorem exitState_not_up (state : HostRuntimeState) (code : Option Int) : (exitState state code).isUp = false := by
  unfold exitState
  split_ifs <;> rfl

theorem exited_turns (child : Nat) (code : Option Int) (signal : Option String) :
    ReflTransGen Turn m (exited options m child code signal) := by
  unfold exited
  split
  · split
    · have hexit : ∀ children, Turn m (onExit options { m with children := children } code signal) := fun children =>
        Turn.emits rfl rfl (.inr (exitState_not_up m.state code))
      exact (settle_turns child _).head (hexit _)
    · exact .refl
  · exact .refl

theorem errored_turns (child : Nat) (error : String) : ReflTransGen Turn m (errored options m child error) := by
  unfold errored
  split
  · split
    · exact .refl
    · have herror : ∀ children, Turn m (onError options { m with children := children } error) := fun children =>
        Turn.emits rfl rfl (.inr rfl)
      exact (settle_turns child _).head (herror _)
  · exact .refl

theorem stopProcess_turn (restart : Bool) : Turn m (stopProcess options m restart).2 := by
  unfold stopProcess
  split
  · split
    · exact Turn.silent rfl (.inr rfl)
    · exact Turn.silent rfl (.inr rfl)
  · split
    · exact Turn.silent rfl (.inr rfl)
    · exact Turn.silent rfl (.inr rfl)

theorem sendCommand_turn (command : Option Text) : Turn m (sendCommand options m command).2 := by
  have hsame : Turn m m := Turn.silent rfl (.inl ⟨rfl, rfl⟩)
  unfold sendCommand
  split
  · exact hsame
  · split
    · exact hsame
    · split
      · exact Turn.silent rfl (.inl ⟨rfl, rfl⟩)
      · exact hsame

theorem resume_turn (call : Nat) : Turn m (resume m call).2 := by
  have hsame : Turn m m := Turn.silent rfl (.inl ⟨rfl, rfl⟩)
  unfold resume
  split
  · split
    · exact Turn.silent rfl (.inr rfl)
    · split
      · exact hsame
      · exact Turn.silent rfl (.inr rfl)
      · split
        · exact Turn.silent rfl (.inr rfl)
        · exact Turn.silent rfl (.inr rfl)
  · split
    · exact Turn.silent rfl (.inl ⟨rfl, rfl⟩)
    · exact Turn.silent rfl (.inl ⟨rfl, rfl⟩)
  · exact hsame

/-- A launch that hands no process over. -/
theorem launched_turn {call : Nat} {result : LaunchResult}
    (h : (launched options m call result).1.isStarted = false) : Turn m (launched options m call result).2 := by
  unfold launched at h ⊢
  split
  · cases result with
    | failed reason => exact Turn.emits rfl rfl (.inr rfl)
    | notLaunched mode => exact Turn.emits rfl rfl (.inr rfl)
    | threw => exact Turn.silent rfl (.inl ⟨rfl, rfl⟩)
    | spawned intent alive =>
      rename_i hcall
      rw [hcall] at h
      cases h
  · exact Turn.silent rfl (.inl ⟨rfl, rfl⟩)

theorem written_turn (call : Nat) (error : Option String) : Turn m (written options m call error).2 := by
  unfold written
  split
  · cases error with
    | some error => exact Turn.silent rfl (.inl ⟨rfl, rfl⟩)
    | none => exact Turn.emits rfl rfl (.inl ⟨rfl, rfl⟩)
  · exact Turn.silent rfl (.inl ⟨rfl, rfl⟩)

/-- Every step is made of turns, unless it is a start that succeeds. -/
theorem step_turns {label : Label} (h : (step options m label).1.isStarted = false) :
    ReflTransGen Turn m (step options m label).2 := by
  have hsame : Turn m m := Turn.silent rfl (.inl ⟨rfl, rfl⟩)
  cases label with
  | start =>
    show ReflTransGen Turn m (start m).2
    unfold start
    split
    · exact .single (Turn.silent rfl (.inl ⟨rfl, rfl⟩))
    · exact .refl
  | stop => exact .single (stopProcess_turn false)
  | restart =>
    have hrestarting : Turn m { m with state := .restarting } := Turn.silent rfl (.inr rfl)
    exact .tail (.single hrestarting) (stopProcess_turn true)
  | sendCommand command => exact .single (sendCommand_turn command)
  | launched call result => exact .single (launched_turn h)
  | softTimeout call =>
    show ReflTransGen Turn m (softTimeout m call)
    unfold softTimeout
    split
    · exact .single (Turn.silent rfl (.inl ⟨rfl, rfl⟩))
    · exact .refl
  | hardTimeout call =>
    show ReflTransGen Turn m (hardTimeout m call)
    unfold hardTimeout
    split
    · split
      · exact .refl
      · exact .single (Turn.silent rfl (.inl ⟨rfl, rfl⟩))
    · exact .refl
  | resume call => exact .single (resume_turn call)
  | written call error => exact .single (written_turn call error)
  | data child stream chunk => exact onData_turns child stream chunk
  | exit child code signal => exact exited_turns child code signal
  | error child error => exact errored_turns child error

/-- A launch that starts a server stores its process. -/
theorem launched_started {call : Nat} {result : LaunchResult} (h : (launched options m call result).1.isStarted = true) :
    (launched options m call result).2.state = .starting ∧ hasProcess (launched options m call result).2 = true := by
  unfold launched at h ⊢
  split
  · rename_i hcall
    rw [hcall] at h
    cases result with
    | spawned intent alive => exact ⟨rfl, rfl⟩
    | failed reason => cases h
    | notLaunched mode => cases h
    | threw => cases h
  · rename_i hcall
    split at h
    · exact absurd ‹_› hcall
    · cases h

theorem stopProcess_not_started (restarting : Bool) : (stopProcess options m restarting).1.isStarted = false := by
  unfold stopProcess
  split
  · split <;> rfl
  · cases restarting <;> rfl

theorem sendCommand_not_started (command : Option Text) : (sendCommand options m command).1.isStarted = false := by
  unfold sendCommand
  split
  · rfl
  · split
    · rfl
    · split <;> rfl

theorem resume_not_started (call : Nat) : (resume m call).1.isStarted = false := by
  unfold resume
  split
  · split
    · rfl
    · split
      · rfl
      · rfl
      · split <;> rfl
  · split <;> rfl
  · rfl

theorem written_not_started (call : Nat) (error : Option String) : (written options m call error).1.isStarted = false := by
  unfold written
  split
  · cases error <;> rfl
  · rfl

/-- A start that succeeds stores its process. -/
theorem step_started {label : Label} (h : (step options m label).1.isStarted = true) :
    (step options m label).2.state = .starting ∧ hasProcess (step options m label).2 = true := by
  cases label with
  | launched call result => exact launched_started h
  | start =>
    have hstart : (start m).1.isStarted = true := h
    unfold start at hstart
    split at hstart <;> cases hstart
  | stop => cases (stopProcess_not_started false).symm.trans h
  | restart =>
    have hstop : (stopProcess options { m with state := .restarting } true).1.isStarted = true := h
    rw [stopProcess_not_started] at hstop
    cases hstop
  | sendCommand command => cases (sendCommand_not_started command).symm.trans h
  | resume call => cases (resume_not_started call).symm.trans h
  | written call error => cases (written_not_started call error).symm.trans h
  | softTimeout call => cases h
  | hardTimeout call => cases h
  | data child stream chunk => cases h
  | exit child code signal => cases h
  | error child error => cases h

/-! ### What the turns keep -/

/-- There is a process for a server that is up. -/
def Backed (m : Manager) : Prop := m.state.isUp = true → hasProcess m = true

theorem Turn.backed (h : Turn m m') (hbacked : Backed m) : Backed m' := by
  intro hup
  cases h with
  | other emitted quiet events state =>
    rcases state with ⟨hsame, hprocess⟩ | hdown
    · rw [hsame] at hup
      rw [hprocess]
      exact hbacked hup
    · rw [hdown] at hup
      cases hup
  | ready event kind events before after process =>
    rw [process]
    exact hbacked (by rw [before]; rfl)
  | crashed event kind events after =>
    rw [after] at hup
    cases hup

theorem Backed.turns (h : Backed m) (hturns : ReflTransGen Turn m m') : Backed m' := by
  induction hturns with
  | refl => exact h
  | tail _ hturn ih => exact hturn.backed ih

theorem Backed.step (h : Backed m) (label : Label) : Backed (step options m label).2 := by
  by_cases hstarted : (Runtime.step options m label).1.isStarted = true
  · exact fun _ => (step_started hstarted).2
  · exact h.turns (step_turns (by simpa using hstarted))

/-- What has been said since some moment: that the server is ready at most once, and not after a crash.  While the manager
waits for the server it has said nothing. -/
structure SaidOnce (emitted : List RuntimeEvent) (state : HostRuntimeState) : Prop where
  ready : emitted.countP RuntimeEvent.isReady ≤ 1
  crashed : ∀ before event after, emitted = before ++ event :: after → event.isCrashed = true →
    ∀ later ∈ after, later.isReady = false
  waiting : state = .starting → ∀ event ∈ emitted, event.isSignal = false

theorem SaidOnce.nil (state : HostRuntimeState) : SaidOnce [] state :=
  ⟨by simp, fun before event after h => by simp at h, fun _ event hevent => by simp at hevent⟩

theorem isReady_of_quiet {event : RuntimeEvent} (h : event.isSignal = false) : event.isReady = false := by
  obtain ⟨roomId, type⟩ := event
  cases type <;> first | rfl | cases h

theorem isCrashed_of_quiet {event : RuntimeEvent} (h : event.isSignal = false) : event.isCrashed = false := by
  obtain ⟨roomId, type⟩ := event
  cases type <;> first | rfl | cases h

/-- Events that are not `runtime.ready` may follow anything. -/
theorem crashed_append {emitted more : List RuntimeEvent}
    (h : ∀ before event after, emitted = before ++ event :: after → event.isCrashed = true →
      ∀ later ∈ after, later.isReady = false)
    (hmore : ∀ event ∈ more, event.isReady = false) (before : List RuntimeEvent) (event : RuntimeEvent)
    (after : List RuntimeEvent) (hsplit : emitted ++ more = before ++ event :: after) (hcrashed : event.isCrashed = true) :
    ∀ later ∈ after, later.isReady = false := by
  intro later hlater
  rcases List.append_eq_append_iff.1 hsplit with ⟨rest, rfl, hrest⟩ | ⟨rest, rfl, hrest⟩
  · exact hmore later (by rw [hrest]; simp [hlater])
  · cases rest with
    | nil => exact hmore later (by rw [← List.nil_append more, ← hrest]; simp [hlater])
    | cons first rest =>
      obtain ⟨rfl, rfl⟩ := List.cons.inj hrest
      rcases List.mem_append.1 hlater with hlater | hlater
      · exact h before event rest rfl hcrashed later hlater
      · exact hmore later hlater

/-- A turn keeps it, whatever has been said before. -/
theorem Turn.saidOnce {earlier emitted : List RuntimeEvent} (h : Turn m m') (hevents : m.events = earlier ++ emitted)
    (hsaid : SaidOnce emitted m.state) : ∃ emitted', m'.events = earlier ++ emitted' ∧ SaidOnce emitted' m'.state := by
  cases h with
  | other more quiet events state =>
    have hready : ∀ event ∈ more, event.isReady = false := fun event hevent => isReady_of_quiet (quiet event hevent)
    refine ⟨emitted ++ more, by rw [events, hevents, List.append_assoc], ?_, crashed_append hsaid.crashed hready, ?_⟩
    · have hnone : more.countP RuntimeEvent.isReady = 0 := by simpa [List.countP_eq_zero] using hready
      rw [List.countP_append, hnone]
      exact hsaid.ready
    · intro hstarting event hevent
      rcases state with ⟨hsame, -⟩ | hdown
      · rcases List.mem_append.1 hevent with hevent | hevent
        · exact hsaid.waiting (hsame.symm.trans hstarting) event hevent
        · exact quiet event hevent
      · rw [hstarting] at hdown
        cases hdown
  | ready event kind events before after process =>
    have hquiet := hsaid.waiting before
    have hcount : emitted.countP RuntimeEvent.isReady = 0 := by
      rw [List.countP_eq_zero]
      intro other hother
      simp [isReady_of_quiet (hquiet other hother)]
    refine ⟨emitted ++ [event], by rw [events, hevents, List.append_assoc], ?_, ?_, ?_⟩
    · rw [List.countP_append, hcount, Nat.zero_add]
      exact List.countP_le_length
    · intro start other rest hsplit hcrashed
      -- Nothing that has been said so far is about a crash.
      have hmem : other ∈ emitted ++ [event] := by
        rw [hsplit]
        simp
      rcases List.mem_append.1 hmem with hmem | hmem
      · rw [isCrashed_of_quiet (hquiet other hmem)] at hcrashed
        cases hcrashed
      · rw [List.mem_singleton.1 hmem, kind] at hcrashed
        cases hcrashed
    · intro hstarting
      rw [after] at hstarting
      cases hstarting
  | crashed event kind events after =>
    have hready : ∀ other ∈ [event], other.isReady = false := by
      intro other hother
      rw [List.mem_singleton.1 hother]
      exact kind
    refine ⟨emitted ++ [event], by rw [events, hevents, List.append_assoc], ?_, crashed_append hsaid.crashed hready, ?_⟩
    · have hnone : [event].countP RuntimeEvent.isReady = 0 := by simpa [List.countP_eq_zero] using kind
      rw [List.countP_append, hnone]
      exact hsaid.ready
    · intro hstarting
      rw [after] at hstarting
      cases hstarting

theorem SaidOnce.turns {earlier emitted : List RuntimeEvent} (hevents : m.events = earlier ++ emitted)
    (hsaid : SaidOnce emitted m.state) (hturns : ReflTransGen Turn m m') :
    ∃ emitted', m'.events = earlier ++ emitted' ∧ SaidOnce emitted' m'.state := by
  induction hturns with
  | refl => exact ⟨emitted, hevents, hsaid⟩
  | tail _ hturn ih =>
    obtain ⟨emitted', hevents', hsaid'⟩ := ih
    exact hturn.saidOnce hevents' hsaid'

/-- Whenever the manager is `starting` or `running` it has a process.  And while no start succeeds, so between two
successful ones, `runtime.ready` is emitted at most once and not after a `runtime.crashed`. -/
theorem ready_at_most_once (options : Options) (labels : List Label) :
    ((run options labels).state = .starting ∨ (run options labels).state = .running → hasProcess (run options labels) = true) ∧
      ∀ later, Machine.Along (step options) (fun m label => (step options m label).1.isStarted = false) (run options labels)
          later →
        ∃ emitted, (run options (labels ++ later)).events = (run options labels).events ++ emitted ∧
          emitted.countP RuntimeEvent.isReady ≤ 1 ∧
          ∀ before event after, emitted = before ++ event :: after → event.isCrashed = true →
            ∀ other ∈ after, other.isReady = false := by
  constructor
  · have hbacked : Backed (run options labels) := by
      apply Machine.run_invariant (P := fun _ _ => True) (fun m label h _ => h.step label)
      · intro hup
        cases hup
      · exact Machine.Along.of_forall (P := fun _ => True) (fun _ _ => trivial) _
    rintro (hstarting | hrunning)
    · exact hbacked (by rw [hstarting]; rfl)
    · exact hbacked (by rw [hrunning]; rfl)
  · intro later hlater
    have hsaid : ∃ emitted, (Machine.run (step options) (run options labels) later).events =
        (run options labels).events ++ emitted ∧ SaidOnce emitted (Machine.run (step options) (run options labels) later).state :=
      Machine.run_invariant
        (I := fun m => ∃ emitted, m.events = (run options labels).events ++ emitted ∧ SaidOnce emitted m.state)
        (fun m label h hlabel => by
          obtain ⟨emitted, hevents, hsaid⟩ := h
          exact hsaid.turns hevents (step_turns hlabel))
        ⟨[], by simp, SaidOnce.nil _⟩ hlater
    obtain ⟨emitted, hevents, hsaid⟩ := hsaid
    refine ⟨emitted, ?_, hsaid.ready, hsaid.crashed⟩
    rw [run, Machine.run_append]
    exact hevents

/-- The server has been started. -/
def startedServer : List Label := [.start, .launched 0 (.spawned localServerIntent true)]

/-- It says that it is ready, crashes, says again that it is ready, and exits. -/
def crashingServer : List Label :=
  [.data 0 .stdout ['D', 'o', 'n', 'e', '\n'], .data 0 .stderr ['E', 'R', 'R', 'O', 'R', '\n'],
    .data 0 .stdout ['D', 'o', 'n', 'e'], .exit 0 (some 1) none]

theorem ready_at_most_once_crashing :
    hasProcess (run sampleOptions startedServer) = true ∧
      ∃ emitted, (run sampleOptions (startedServer ++ crashingServer)).events =
          (run sampleOptions startedServer).events ++ emitted ∧
        emitted.countP RuntimeEvent.isReady ≤ 1 := by
  obtain ⟨hprocess, hsaid⟩ := ready_at_most_once sampleOptions startedServer
  obtain ⟨emitted, hevents, hready, -⟩ := hsaid crashingServer (by decide)
  exact ⟨hprocess (.inl rfl), emitted, hevents, hready⟩

end EasyMc.Runtime
