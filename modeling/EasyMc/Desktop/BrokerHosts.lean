import EasyMc.Desktop.BrokerDelivery

/-!
# The broker and the command host

The processes of the broker are command hosts: all that they print under an id is the answer of `handleCommandFrame`.
Then a command is answered with a failure of the broker's own, with what the host answers without its controller, or
with the outcome of the call that the controller has got for the command's last frame (`responses_performed`).

A host that answers no command like an old one has none sent twice: the calls of all controllers, of one host after
the other, are those of accepted commands, in their order and each made at most once (`calls_follow_commands`).  A
process that the broker has let go calls its controller no more, so that a command that has timed out is not performed
afterwards (`given_up_for_good`).
-/

namespace EasyMc.Desktop.Broker

open CommandHost (Invocation invoke)
open CommandHostProcess

variable {methods : List String} {s : State} {k : Nat} {change : Child → Child}

/-! ### The lines of a host -/

/-- The method and the request of a call. -/
abbrev Asked : Type := String × Json

def CallAsked (c : Call) : Asked := (c.method, c.request)

/-- What the host asks its controller for a command. -/
def askedFor (methods : List String) (ask : Ask) : Option Asked :=
  match invoke methods ask.1.name ask.2 with
  | .call method request => some (method, request)
  | .answer _ => none

def Frame.ask (f : Frame) : Ask := (f.command, f.request)

/-- The frame is one that the host does not refuse for its size or its request. -/
structure Sound (f : Frame) : Prop where
  short : f.line.bytes ≤ maxRequestBytes
  object : ∃ fields, f.request = .obj fields

variable (methods) in
/-- What the host makes of a frame of the broker. -/
theorem handleCommandFrame_frame {f : Frame} (hf : Sound f) (outcome : Outcome) :
    handleCommandFrame methods f.line outcome =
      match invoke methods f.command.name f.request with
      | .answer result => (none, answerFrame (frameId (frame f.id f.command f.request)) true (some result))
      | .call method request =>
        (some ⟨frameId (frame f.id f.command f.request), method, request, outcome⟩,
          outcomeFrame (frameId (frame f.id f.command f.request)) outcome) := by
  obtain ⟨fields, hfields⟩ := hf.object
  have hshort : ¬ maxFrameBytes < f.line.bytes := Nat.not_lt.2 hf.short
  have hcommand : frameCommand (frame f.id f.command f.request) = f.command.name := rfl
  have hrequest : frameRequest (frame f.id f.command f.request) = f.request := by
    rw [hfields]
    rfl
  rw [handleCommandFrame, if_neg hshort]
  change (match invoke methods (frameCommand (frame f.id f.command f.request))
    (frameRequest (frame f.id f.command f.request)) with
    | .answer result => _
    | .call method request => _) = _
  rw [hcommand, hrequest]

/-- A host has answered its lines in order: its calls are those of the lines that it has read, and all that it has
printed under an id is the answer to one of them. -/
structure Answering (methods : List String) (c : Child) : Prop where
  handled : c.handled ≤ c.stdin.length
  calls : c.calls.map CallAsked = (c.stdin.take c.handled).filterMap fun f => askedFor methods f.ask
  printed : ∀ line ∈ c.stdout, ∀ value n, line.parsed = some value → idOf value = some n →
    ∃ f ∈ c.stdin, ∃ outcome, f.id = n ∧ value = (handleCommandFrame methods f.line outcome).2 ∧
      ∀ call, (handleCommandFrame methods f.line outcome).1 = some call → call ∈ c.calls

theorem answering_spawned : Answering methods .spawned := by
  refine ⟨le_rfl, rfl, ?_⟩
  rintro line ⟨⟩

theorem calls_handleCommandFrame {f : Frame} (hf : Sound f) (outcome : Outcome) :
    ((handleCommandFrame methods f.line outcome).1.toList.map CallAsked) = (askedFor methods f.ask).toList := by
  rw [handleCommandFrame_frame methods hf, askedFor, Frame.ask]
  split <;> rename_i h <;> rw [h] <;> rfl

/-- The host reads a line, calls its controller if it has to, and prints the answer. -/
theorem Answering.handle {c : Child} (hc : Answering methods c) (hsound : ∀ f ∈ c.stdin, Sound f) (outcome : Outcome) :
    Answering methods (handle methods outcome c) := by
  unfold Broker.handle
  split
  · rename_i f _ hf
    have hlt : c.handled < c.stdin.length := (List.getElem?_eq_some_iff.1 hf).1
    have hmem : f ∈ c.stdin := List.mem_of_getElem? hf
    refine ⟨hlt, ?_, ?_⟩
    · have htake : c.stdin.take (c.handled + 1) = c.stdin.take c.handled ++ [f] := by
        rw [List.take_add_one, hf, Option.toList_some]
      simp only [List.map_append, hc.calls, calls_handleCommandFrame (hsound f hmem), htake, List.filterMap_append,
        filterMap_singleton]
    · intro line hline value n hvalue hid
      rcases List.mem_append.1 hline with hline | hline
      · obtain ⟨f', hf', outcome', hid', hvalue', hcall⟩ := hc.printed line hline value n hvalue hid
        exact ⟨f', hf', outcome', hid', hvalue', fun call h => List.mem_append_left _ (hcall call h)⟩
      · obtain rfl := List.mem_singleton.1 hline
        obtain rfl := Option.some.inj hvalue
        refine ⟨f, hmem, outcome, (handleCommandFrame_id hid).symm, rfl, ?_⟩
        intro call hcall
        exact List.mem_append_right _ (by rw [hcall]; exact List.mem_singleton.2 rfl)
  · exact hc

/-- What a process prints beside its answers bears no id: an event, a fatal error, or something else. -/
def Quiet : Label → Prop
  | .prints _ line => ∀ value, line.parsed = some value → idOf value = none
  | _ => True

theorem Answering.print {c : Child} (hc : Answering methods c) {line : Line} (hquiet : Quiet (.prints k line)) :
    Answering methods (c.print line) := by
  unfold Child.print
  split_ifs
  · refine { hc with printed := ?_ }
    intro line' hline' value n hvalue hid
    rcases List.mem_append.1 hline' with hline' | hline'
    · exact hc.printed line' hline' value n hvalue hid
    · obtain rfl := List.mem_singleton.1 hline'
      rw [hquiet value hvalue] at hid
      cases hid
  · exact hc

/-! ### What the other steps do to the processes -/

/-- A process may have received more, and may have been ended. -/
structure Alters (c c' : Child) : Prop where
  stdin : c.stdin <+: c'.stdin
  handled : c'.handled = c.handled
  calls : c'.calls = c.calls
  stdout : c'.stdout = c.stdout
  running : c'.running = true → c.running = true

theorem Alters.refl (c : Child) : Alters c c := ⟨List.prefix_rfl, rfl, rfl, rfl, id⟩

theorem Alters.trans {c c' c'' : Child} (h : Alters c c') (h' : Alters c' c'') : Alters c c'' :=
  ⟨h.stdin.trans h'.stdin, h'.handled.trans h.handled, h'.calls.trans h.calls, h'.stdout.trans h.stdout,
    fun hrunning => h.running (h'.running hrunning)⟩

/-- At most one process runs, that of the broker. -/
def OneHost (s : State) : Prop :=
  ∀ (k : Nat) (c : Child), s.children[k]? = some c → c.running = true → s.child = some k

/-- The processes of `s` are altered, and there may be new ones; at most one runs if it was so before. -/
structure Moves (s s' : State) : Prop where
  length : s.children.length ≤ s'.children.length
  alters : ∀ (k : Nat) (c' : Child), s'.children[k]? = some c' → Alters (s.children[k]?.getD .spawned) c'
  current : OneHost s → OneHost s'

theorem Moves.refl (s : State) : Moves s s := by
  refine ⟨le_rfl, ?_, id⟩
  intro k c' hc'
  rw [hc']
  exact .refl c'

theorem Moves.trans {s s' s'' : State} (h : Moves s s') (h' : Moves s' s'') : Moves s s'' := by
  refine ⟨h.length.trans h'.length, ?_, fun hcurrent => h'.current (h.current hcurrent)⟩
  intro k c'' hc''
  have hlast := h'.alters k c'' hc''
  cases hc' : s'.children[k]? with
  | none =>
    rw [hc', Option.getD_none] at hlast
    have hnone : s.children[k]? = none :=
      List.getElem?_eq_none_iff.2 (h.length.trans (List.getElem?_eq_none_iff.1 hc'))
    rw [hnone]
    exact hlast
  | some c' =>
    rw [hc', Option.getD_some] at hlast
    exact (h.alters k c' hc').trans hlast

/-- Only the children of a state and its reference to the process matter. -/
theorem Moves.of_eq {s s' s'' : State} (h : Moves s s') (hchild : s''.child = s'.child)
    (hchildren : s''.children = s'.children) : Moves s s'' := by
  refine ⟨?_, ?_, ?_⟩
  · rw [hchildren]
    exact h.length
  · rw [hchildren]
    exact h.alters
  · intro hone
    rw [OneHost, hchildren, hchild]
    exact h.current hone

theorem moves_update (hchange : ∀ c, Alters c (change c)) (k : Nat) : Moves s (s.update k change) := by
  refine ⟨length_update.ge, ?_, ?_⟩
  · intro j c' hc'
    rw [getElem?_update] at hc'
    split_ifs at hc'
    · obtain ⟨c, hc, rfl⟩ := Option.map_eq_some_iff.1 hc'
      rw [hc]
      exact hchange c
    · rw [hc']
      exact .refl c'
  · intro hcurrent j c' hc' hrunning
    rw [getElem?_update] at hc'
    split_ifs at hc'
    · obtain ⟨c, hc, rfl⟩ := Option.map_eq_some_iff.1 hc'
      exact hcurrent j c hc ((hchange c).running hrunning)
    · exact hcurrent j c' hc' hrunning

theorem alters_ended (c : Child) : Alters c { c with running := false } :=
  ⟨List.prefix_rfl, rfl, rfl, rfl, Bool.noConfusion⟩

theorem alters_removePendingResponse (id : Nat) (c : Child) : Alters c (c.removePendingResponse id) :=
  ⟨List.prefix_rfl, rfl, rfl, rfl, fun h => h⟩

theorem alters_routed (c : Child) : Alters c { c with routed := c.routed + 1 } :=
  ⟨List.prefix_rfl, rfl, rfl, rfl, fun h => h⟩

theorem alters_write (frame : Frame) (c : Child) : Alters c (c.write frame) :=
  ⟨List.prefix_append c.stdin [frame], rfl, rfl, rfl, fun h => h⟩

theorem moves_clearNodeHost (s : State) : Moves s (clearNodeHost s) := by
  unfold clearNodeHost
  split
  · exact .refl s
  · rename_i k hk
    have hupdate := moves_update (s := s) alters_ended k
    refine ⟨hupdate.length, hupdate.alters, ?_⟩
    intro hcurrent j c' hc' hrunning
    rw [getElem?_update] at hc'
    split_ifs at hc' with hkj
    · obtain ⟨c, -, rfl⟩ := Option.map_eq_some_iff.1 hc'
      cases hrunning
    · have hj := hcurrent j c' hc' hrunning
      exact absurd (Option.some.inj (hk.symm.trans hj)) hkj

/-- A new process is the broker's, and none ran before. -/
theorem moves_spawnHost (hchild : s.child = none) (spawn : Spawn) : Moves s (spawnHost s spawn).2 := by
  cases spawn with
  | spawned =>
    refine ⟨?_, ?_, ?_⟩
    · simp [spawnHost]
    · intro k c' hc'
      rcases Nat.lt_or_ge k s.children.length with hlt | hge
      · rw [spawnHost, List.getElem?_append_left hlt] at hc'
        rw [hc']
        exact .refl c'
      · rw [spawnHost, List.getElem?_append_right hge, List.getElem?_singleton] at hc'
        split_ifs at hc'
        obtain rfl := Option.some.inj hc'
        rw [List.getElem?_eq_none_iff.2 hge]
        exact .refl _
    · intro hcurrent k c' hc' hrunning
      rcases Nat.lt_or_ge k s.children.length with hlt | hge
      · rw [spawnHost, List.getElem?_append_left hlt] at hc'
        have hk := hcurrent k c' hc' hrunning
        rw [hchild] at hk
        cases hk
      · rw [spawnHost, List.getElem?_append_right hge, List.getElem?_singleton] at hc'
        split_ifs at hc' with hk
        exact congrArg some (by omega)
  | _ => exact .refl s

theorem moves_ensureNodeHost (s : State) (attempt : Attempt) : Moves s (ensureNodeHost s attempt).2 := by
  unfold ensureNodeHost
  split
  · rename_i hchild
    exact moves_spawnHost hchild attempt.spawn
  · split_ifs
    · exact .refl s
    · exact (moves_clearNodeHost s).trans (moves_spawnHost clearNodeHost_child attempt.spawn)

theorem moves_sendNodeHostFrame (s : State) (command : DesktopRuntimeCommand) (request : Json) (retried : Bool)
    (attempt : Attempt) : Moves s (sendNodeHostFrame s command request retried attempt).2 := by
  unfold sendNodeHostFrame
  have hensure := moves_ensureNodeHost s attempt
  generalize ensureNodeHost s attempt = ensured at hensure
  obtain ⟨failure, s'⟩ := ensured
  cases failure with
  | some failure => exact hensure
  | none =>
    dsimp only
    split
    · exact hensure.of_eq rfl rfl
    · split
      · exact hensure.of_eq rfl rfl
      · rename_i k hk
        have hid : Moves s { s' with nextId := s'.nextId + 1 } := hensure.of_eq rfl rfl
        split
        · exact (hid.trans (moves_update (alters_write _) k)).of_eq rfl rfl
        · exact (hid.trans (moves_update (alters_removePendingResponse _) k)).trans (moves_clearNodeHost _)

theorem moves_conclude (s : State) (command : DesktopRuntimeCommand) (request : Json) (retried : Bool) (response : Json)
    (second : Attempt) : Moves s (conclude s command request retried response second).2 := by
  unfold conclude
  split_ifs
  · have hsend := (moves_clearNodeHost s).trans (moves_sendNodeHostFrame _ command request true second)
    generalize sendNodeHostFrame (clearNodeHost s) command request true second = sending at hsend
    obtain ⟨failure, s'⟩ := sending
    cases failure <;> exact hsend
  · exact .refl s

theorem moves_giveUp (s : State) (w : Waiting) : Moves s (giveUp s w) := by
  have hremove : Moves s (s.update w.host (Child.removePendingResponse w.id)) :=
    moves_update (alters_removePendingResponse w.id) w.host
  have hfree : Moves s { s.update w.host (Child.removePendingResponse w.id) with waiting := none } :=
    hremove.of_eq rfl rfl
  exact hfree.trans (moves_clearNodeHost _)

theorem moves_receiveLine (s : State) (id : Nat) (line : Line) : Moves s (receiveLine s id line).2 := by
  unfold receiveLine
  split_ifs
  · exact moves_clearNodeHost s
  · exact .refl s

theorem moves_route (s : State) (k : Nat) : Moves s (route s k).2 := by
  have hrouted : Moves s (s.update k fun c => { c with routed := c.routed + 1 }) :=
    moves_update alters_routed k
  unfold route
  split
  · exact .refl s
  · split
    · exact .refl s
    · dsimp only
      split
      · exact hrouted
      · exact hrouted
      · refine hrouted.trans ?_
        unfold deliver
        split_ifs
        · exact (moves_update (alters_removePendingResponse _) k).of_eq rfl rfl
        · exact .refl _

/-- The steps that are not the processes' own. -/
def Label.own : Label → Bool
  | .prints _ _ => true
  | .handles _ _ => true
  | _ => false

variable (methods) in
theorem step_moves (label : Label) (hlabel : label.own = false) : Moves s (step methods s label).2 := by
  cases label with
  | invoke command request first second =>
    rw [step]
    split
    · exact .refl s
    · split
      · exact .refl s
      · rename_i request' _ _ _
        have hsend := moves_sendNodeHostFrame s command request' false first
        generalize sendNodeHostFrame s command request' false first = sending at hsend
        obtain ⟨failure, s'⟩ := sending
        cases failure with
        | none => exact hsend
        | some failure => exact hsend.trans (moves_conclude s' command request' false failure second)
  | receive second =>
    rw [step]
    split
    · rename_i id command request retried line _
      have hfree : Moves s { s with waiting := none } := (Moves.refl s).of_eq rfl rfl
      have hreceive := hfree.trans (moves_receiveLine { s with waiting := none } id line)
      exact hreceive.trans (moves_conclude _ _ _ _ _ _)
    · exact .refl s
  | timeout second =>
    rw [step]
    split
    · exact (moves_giveUp s _).trans (moves_conclude _ _ _ _ _ _)
    · exact .refl s
  | disconnected second =>
    rw [step]
    split
    · split_ifs
      · exact .refl s
      · exact (moves_giveUp s _).trans (moves_conclude _ _ _ _ _ _)
    · exact .refl s
  | route k => exact moves_route s k
  | prints => cases hlabel
  | handles => cases hlabel
  | exits k => exact moves_update alters_ended k

theorem running_print (line : Line) (c : Child) : (c.print line).running = c.running := by
  unfold Child.print
  split_ifs <;> rfl

theorem calls_print (line : Line) (c : Child) : (c.print line).calls = c.calls := by
  unfold Child.print
  split_ifs <;> rfl

theorem running_handle (outcome : Outcome) (c : Child) : (handle methods outcome c).running = c.running := by
  unfold handle
  split <;> rfl

theorem OneHost.update (h : OneHost s) (k : Nat) (hrunning : ∀ c, (change c).running = c.running) :
    OneHost (s.update k change) := by
  intro j c' hc' hrun
  rw [getElem?_update] at hc'
  split_ifs at hc' with hkj
  · obtain ⟨c, hc, rfl⟩ := Option.map_eq_some_iff.1 hc'
    exact h j c hc ((hrunning c).symm.trans hrun)
  · exact h j c' hc' hrun

theorem step_oneHost (h : OneHost s) (label : Label) : OneHost (step methods s label).2 := by
  cases hown : label.own with
  | false => exact (step_moves methods label hown).current h
  | true =>
    cases label with
    | prints k line => exact h.update k (running_print line)
    | handles k outcome => exact h.update k (running_handle outcome)
    | _ => cases hown

theorem run_oneHost (methods : List String) (labels : List Label) :
    OneHost (Machine.run (step methods) State.initial labels) :=
  Machine.run_invariant (I := OneHost) (P := fun _ _ => True) (fun _ label h _ => step_oneHost h label)
    (by rintro k c ⟨⟩) (Machine.Along.of_forall (fun _ _ => trivial) _)

/-! ### The hosts of a run -/

/-- Every process is a host that has answered its lines, and what it has received is sound. -/
structure Hosts (methods : List String) (s : State) : Prop where
  answering : ∀ (k : Nat) (c : Child), s.children[k]? = some c → Answering methods c
  sound : ∀ f ∈ sent s, Sound f

theorem hosts_initial : Hosts methods .initial := by
  refine ⟨?_, ?_⟩
  · rintro k c ⟨⟩
  · rintro f ⟨⟩

/-- A host that has received more has answered the same lines. -/
theorem Answering.alters {c c' : Child} (hc : Answering methods c) (h : Alters c c') : Answering methods c' := by
  obtain ⟨more, hmore⟩ := h.stdin
  refine ⟨?_, ?_, ?_⟩
  · rw [h.handled, ← hmore, List.length_append]
    exact Nat.le_add_right_of_le hc.handled
  · rw [h.calls, h.handled, ← hmore, List.take_append_of_le_length hc.handled]
    exact hc.calls
  · rw [h.stdout, h.calls]
    intro line hline value n hvalue hid
    obtain ⟨f, hf, hanswer⟩ := hc.printed line hline value n hvalue hid
    exact ⟨f, h.stdin.subset hf, hanswer⟩

theorem sanitizeRequest_object {command : DesktopRuntimeCommand} {request : Option Json} {request' : Json}
    (h : sanitizeRequest command request = .ok request') : ∃ fields, request' = .obj fields := by
  unfold sanitizeRequest at h
  split at h
  · split_ifs at h
    cases h
    exact ⟨_, rfl⟩
  · cases h

theorem accepted_object {label : Label} {command : DesktopRuntimeCommand} {request : Json}
    (h : accepted s label = some (command, request)) : ∃ fields, request = .obj fields := by
  cases label with
  | invoke command' request' first second =>
    rw [accepted] at h
    split at h
    · rename_i hsanitized _
      cases h
      exact sanitizeRequest_object hsanitized
    · cases h
  | _ => cases h

/-- The frame of the command that waits has been sent. -/
theorem Valid.frame_mem (hs : Valid s) {w : Waiting} (hw : s.waiting = some w) : w.frame ∈ sent s := by
  obtain ⟨-, -, host, hhost, hframe, -⟩ := hs.waiting w hw
  exact List.mem_flatMap.2 ⟨host, List.mem_of_getElem? hhost, hframe⟩

theorem Stepped.sound {label : Label} {result : Output × State} (hs : Valid s) (h : Stepped s label result)
    (hsound : ∀ f ∈ sent s, Sound f) : ∀ f ∈ sent result.2, Sound f := by
  have hadd : ∀ {f : Frame}, Sound f → ∀ g ∈ sent s ++ [f], Sound g := by
    intro f hf g hg
    rcases List.mem_append.1 hg with hg | hg
    · exact hsound g hg
    · obtain rfl := List.mem_singleton.1 hg
      exact hf
  cases h with
  | quiet valid same waits accepts silent => exact same ▸ hsound
  | begun free accepts valid waits adds short =>
    rw [adds]
    exact hadd ⟨short, accepted_object accepts⟩
  | refused free accepts own idle same => exact same ▸ hsound
  | answered waits inbox parsed idle same => exact same ▸ hsound
  | failed waits own idle same => exact same ▸ hsound
  | again waits inbox parsed fresh stale valid next adds short =>
    rw [adds]
    exact hadd ⟨short, (hsound _ (hs.frame_mem waits)).object⟩

theorem Hosts.update_own (h : Hosts methods s) (k : Nat)
    (hanswering : ∀ c, s.children[k]? = some c → Answering methods (change c)) (hstdin : ∀ c, (change c).stdin = c.stdin) :
    Hosts methods (s.update k change) := by
  refine ⟨?_, ?_⟩
  · intro j c' hc'
    rw [getElem?_update] at hc'
    split_ifs at hc' with hkj
    · obtain ⟨c, hc, rfl⟩ := Option.map_eq_some_iff.1 hc'
      subst hkj
      exact hanswering c hc
    · exact h.answering j c' hc'
  · rw [sent_update hstdin]
    exact h.sound

theorem step_hosts (hs : Valid s) (h : Hosts methods s) {label : Label} (hquiet : Quiet label) :
    Hosts methods (step methods s label).2 := by
  cases hown : label.own with
  | false =>
    have hmoves := step_moves methods (s := s) label hown
    refine ⟨?_, (step_stepped methods hs label).sound hs h.sound⟩
    intro k c' hc'
    refine Answering.alters ?_ (hmoves.alters k c' hc')
    cases hc : s.children[k]? with
    | none => exact answering_spawned
    | some c => exact h.answering k c hc
  | true =>
    cases label with
    | prints k line =>
      exact h.update_own k (fun c hc => (h.answering k c hc).print hquiet) (keeps_print line).stdin
    | handles k outcome =>
      refine h.update_own k (fun c hc => ?_) (keeps_handle methods outcome).stdin
      exact (h.answering k c hc).handle
        (fun f hf => h.sound f (List.mem_flatMap.2 ⟨c, List.mem_of_getElem? hc, hf⟩)) outcome
    | _ => cases hown

variable (methods) in
theorem run_hosts {labels : List Label} (hquiet : ∀ label ∈ labels, Quiet label) :
    Valid (Machine.run (step methods) State.initial labels) ∧
      Hosts methods (Machine.run (step methods) State.initial labels) :=
  Machine.run_invariant (I := fun s => Valid s ∧ Hosts methods s) (P := fun _ label => Quiet label)
    (fun _ label hs hlabel => ⟨(step_stepped methods hs.1 label).valid, step_hosts hs.1 hs.2 hlabel⟩)
    ⟨idle_initial.valid, hosts_initial⟩ (Machine.Along.of_forall hquiet _)

/-! ### What the commands are answered with -/

/-- The result of a call of the controller. -/
def outcomeResult : Outcome → Json
  | .returned value =>
    (value.map CommandHost.sanitizeCommandResult).getD
      (blockedDto "empty_node_response" "Desktop command host returned an empty response.")
  | .threw => CommandHost.blockedDto "command_failed" "Desktop command failed."

/-- A response is what the host answers to the command by itself, or the outcome of the call that its controller has
got for the newest frame. -/
inductive Performed (methods : List String) (s : State) (command : DesktopRuntimeCommand) (request response : Json) :
    Prop
  | answered {result : Json} (invokes : invoke methods command.name request = .answer result)
      (responds : response = sanitizeResponse result) : Performed methods s command request response
  | called {host : Child} {call : Call} (started : host ∈ s.children) (made : call ∈ host.calls)
      (newest : call.id = .num (toString s.nextId))
      (invokes : invoke methods command.name request = .call call.method call.request)
      (responds : response = sanitizeResponse (outcomeResult call.outcome)) :
    Performed methods s command request response

theorem resultOf_answerFrame (id : Json) (ok : Bool) (result : Option Json) :
    resultOf (answerFrame id ok result) =
      result.getD (blockedDto "empty_node_response" "Desktop command host returned an empty response.") := by
  rw [resultOf, member_answerFrame_result]

theorem resultOf_outcomeFrame (id : Json) (outcome : Outcome) :
    resultOf (outcomeFrame id outcome) = outcomeResult outcome := by
  cases outcome with
  | threw => exact resultOf_answerFrame ..
  | returned value => exact resultOf_answerFrame ..

theorem idOf_outcomeFrame (id : Json) (outcome : Outcome) : idOf (outcomeFrame id outcome) = asU64 id := by
  cases outcome with
  | threw => rw [idOf, outcomeFrame, member_answerFrame_id, Option.bind_some]
  | returned value => rw [idOf, outcomeFrame, member_answerFrame_id, Option.bind_some]

/-- An id that the host gives back is written as that of the frame. -/
theorem frameId_eq {f : Frame} {n : Nat} (h : asU64 (frameId (frame f.id f.command f.request)) = some n) :
    frameId (frame f.id f.command f.request) = .num (toString f.id) := by
  have hmember : (frame f.id f.command f.request).member "id" = some (.num (toString f.id)) := rfl
  rw [frameId, hmember] at h ⊢
  dsimp only at h ⊢
  split_ifs at h ⊢
  · rfl
  · cases h

/-- The line of a command that waits is what its host has made of its frame. -/
theorem Hosts.performed (h : Hosts methods s) (hs : Valid s) {w : Waiting} {line : Line} {value : Json}
    (hw : s.waiting = some w) (hinbox : w.inbox = some line) (hparsed : line.parsed = some value) :
    Performed methods s w.command w.request (sanitizeResponse (resultOf value)) := by
  obtain ⟨-, hlast, host, hhost, hframe, hanswers⟩ := hs.waiting w hw
  obtain ⟨hprinted, -, value', hvalue, hid⟩ := hanswers line hinbox
  obtain rfl : value = value' := Option.some.inj (hparsed.symm.trans hvalue)
  have hmem := List.mem_of_getElem? hhost
  obtain ⟨f, hf, outcome, hfid, hanswer, hcall⟩ := (h.answering w.host host hhost).printed line hprinted value w.id
    hparsed hid
  have hnodup : ((sent s).map Frame.id).Nodup := hs.ids.imp fun h => h.ne
  have hsent : f ∈ sent s := List.mem_flatMap.2 ⟨host, hmem, hf⟩
  obtain rfl : f = w.frame := List.inj_on_of_nodup_map hnodup hsent (hs.frame_mem hw) hfid
  have hhandled := handleCommandFrame_frame methods (h.sound _ hsent) outcome
  rw [hhandled] at hanswer hcall
  cases hinvoke : invoke methods w.command.name w.request with
  | answer result =>
    have hinvoke' : invoke methods w.frame.command.name w.frame.request = .answer result := hinvoke
    rw [hinvoke'] at hanswer
    refine .answered hinvoke ?_
    rw [hanswer, resultOf_answerFrame]
    rfl
  | call method request =>
    have hinvoke' : invoke methods w.frame.command.name w.frame.request = .call method request := hinvoke
    rw [hinvoke'] at hanswer hcall
    dsimp only at hanswer hcall
    rw [hanswer, idOf_outcomeFrame] at hid
    refine .called hmem (hcall _ rfl) ?_ hinvoke ?_
    · dsimp only
      rw [frameId_eq hid, ← hlast]
      rfl
    · rw [hanswer, resultOf_outcomeFrame]

/-- With command hosts for its processes, the broker answers a command with a failure of its own, or with what the host
has made of that very command. -/
theorem responses_performed {methods : List String} {labels : List Label} (hquiet : ∀ label ∈ labels, Quiet label) :
    ∀ fired ∈ Machine.trace (step methods) State.initial labels, ∀ command request response,
      fired.output = .returned command request response →
      OwnFailure response ∨ Performed methods fired.before command request response := by
  intro fired hfired command request response houtput
  obtain ⟨pre, post, hlabels, hfire⟩ := Machine.mem_trace hfired
  have hpre : ∀ label ∈ pre, Quiet label := fun label hlabel =>
    hquiet label (hlabels ▸ List.mem_append_left _ hlabel)
  obtain ⟨hvalid, hhosts⟩ := run_hosts methods hpre
  rw [hfire] at houtput ⊢
  rcases returned_cases hvalid houtput with hown | ⟨w, line, value, hw, hask, hinbox, hparsed, rfl⟩
  · exact .inl hown
  · have hperformed := hhosts.performed hvalid hw hinbox hparsed
    cases hask
    exact .inr hperformed

def idleOutcome : Outcome := .returned (some (.obj [("state", .str "idle")]))

/-- A status is asked for, answered by the host, routed and returned. -/
def statusRun : List Label := [.invoke .statusRoom none served served, .handles 0 idleOutcome, .route 0, .receive served]

theorem statusRun_quiet : ∀ label ∈ statusRun, Quiet label := by
  intro label hlabel
  simp only [statusRun, List.mem_cons, List.not_mem_nil, or_false] at hlabel
  rcases hlabel with rfl | rfl | rfl | rfl <;> exact trivial

theorem responses_performed_statusRun :
    ∃ fired ∈ Machine.trace (step controllerMethods) .initial statusRun, ∃ response,
      fired.output = .returned .statusRoom (.obj []) response ∧
      (OwnFailure response ∨ Performed controllerMethods fired.before .statusRoom (.obj []) response) := by
  have hmem := List.getElem_mem (l := Machine.trace (step controllerMethods) .initial statusRun)
    (show 3 < statusRun.length by decide)
  exact ⟨_, hmem, _, rfl, responses_performed statusRun_quiet _ hmem _ _ _ rfl⟩

/-! ### What the controllers are asked for -/

/-- A response like that of a host that has no route for the command. -/
def staleResult (result : Json) : Bool := shouldRetryAfterStaleHostResponse (sanitizeResponse result)

/-- No call of a controller comes to what an old host answers, and nothing else that is printed bears an id. -/
def Regular (label : Label) : Prop :=
  Quiet label ∧ ∀ k outcome, label = .handles k outcome → staleResult (outcomeResult outcome) = false

/-- What a request that is refused is answered with. -/
theorem staleResult_invalid_request (message : String) :
    staleResult (CommandHost.blockedDto "invalid_request" message) = false := by
  have hreason : redactSecretString "invalid_request" = "invalid_request" := by decide
  have hpath : (sanitizeResponse (CommandHost.blockedDto "invalid_request" message)).path ["failure", "reason"] =
      some (.str (redactSecretString "invalid_request")) := rfl
  rw [staleResult, shouldRetryAfterStaleHostResponse, hpath, hreason]
  rfl

/-- The controller has a method for every command. -/
theorem invoke_controllerMethods {command : DesktopRuntimeCommand} {request result : Json}
    (h : invoke controllerMethods command.name request = .answer result) : staleResult result = false := by
  rw [invoke, DesktopRuntimeCommand.ofName_name] at h
  dsimp only at h
  split at h
  · cases h
    exact staleResult_invalid_request _
  · cases command <;> cases h

/-- No call has come to what an old host answers. -/
def CallsRegular (s : State) : Prop :=
  ∀ (k : Nat) (c : Child), s.children[k]? = some c → ∀ call ∈ c.calls, staleResult (outcomeResult call.outcome) = false

theorem handleCommandFrame_outcome {line : Line} {outcome : Outcome} {call : Call}
    (h : (handleCommandFrame methods line outcome).1 = some call) : call.outcome = outcome := by
  unfold handleCommandFrame at h
  split at h
  · cases h
  · split at h
    · cases h
    · split at h
      · cases h
      · cases h
        rfl

theorem mem_calls_handle {outcome : Outcome} {c : Child} {call : Call} (h : call ∈ (handle methods outcome c).calls) :
    call ∈ c.calls ∨ call.outcome = outcome := by
  unfold handle at h
  split at h
  · rcases List.mem_append.1 h with h | h
    · exact .inl h
    · exact .inr (handleCommandFrame_outcome (Option.mem_toList.1 h))
  · exact .inl h

theorem step_callsRegular (h : CallsRegular s) {label : Label} (hregular : Regular label) :
    CallsRegular (step methods s label).2 := by
  intro k c' hc' call hcall
  cases hown : label.own with
  | false =>
    have halters := (step_moves methods (s := s) label hown).alters k c' hc'
    rw [halters.calls] at hcall
    cases hc : s.children[k]? with
    | none =>
      rw [hc] at hcall
      cases hcall
    | some c =>
      rw [hc] at hcall
      exact h k c hc call hcall
  | true =>
    cases label with
    | prints j line =>
      rw [step, getElem?_update] at hc'
      split_ifs at hc'
      · obtain ⟨c, hc, rfl⟩ := Option.map_eq_some_iff.1 hc'
        exact h k c hc call (calls_print line c ▸ hcall)
      · exact h k c' hc' call hcall
    | handles j outcome =>
      rw [step, getElem?_update] at hc'
      split_ifs at hc'
      · obtain ⟨c, hc, rfl⟩ := Option.map_eq_some_iff.1 hc'
        rcases mem_calls_handle hcall with hcall | houtcome
        · exact h k c hc call hcall
        · rw [houtcome]
          exact hregular.2 j outcome rfl
      · exact h k c' hc' call hcall
    | _ => cases hown

/-- A command host of today is never taken for an old one. -/
theorem Hosts.not_stale (h : Hosts controllerMethods s) (hs : Valid s) (hcalls : CallsRegular s) {w : Waiting}
    {line : Line} {value : Json} (hw : s.waiting = some w) (hinbox : w.inbox = some line)
    (hparsed : line.parsed = some value) :
    shouldRetryAfterStaleHostResponse (sanitizeResponse (resultOf value)) = false := by
  cases h.performed hs hw hinbox hparsed with
  | answered invokes responds =>
    rw [responds]
    exact invoke_controllerMethods invokes
  | called started made newest invokes responds =>
    obtain ⟨k, hk⟩ := List.mem_iff_getElem?.1 started
    rw [responds]
    exact hcalls k _ hk _ made

/-- The frames that have been sent are those of accepted commands, each of them sent once. -/
structure Once (tr : List (Machine.Fired State Label Output)) (s : State) : Prop where
  valid : Valid s
  hosts : Hosts controllerMethods s
  calls : CallsRegular s
  frames : ((sent s).map Frame.ask).Sublist (tr.filterMap fun fired => accepted fired.before fired.input)

theorem Once.step {tr : List (Machine.Fired State Label Output)} (h : Once tr s) {label : Label}
    (hregular : Regular label) :
    Once (tr ++ [Machine.fire (step controllerMethods) s label]) (step controllerMethods s label).2 := by
  have hstepped := step_stepped controllerMethods h.valid label
  refine ⟨hstepped.valid, step_hosts h.valid h.hosts hregular.1, step_callsRegular h.calls hregular, ?_⟩
  rw [List.filterMap_append, filterMap_singleton]
  change ((sent (Broker.step controllerMethods s label).2).map Frame.ask).Sublist
    (_ ++ (accepted s label).toList)
  have hsame : ∀ {s' : State}, sent s' = sent s → ((sent s').map Frame.ask).Sublist
      (tr.filterMap (fun fired => accepted fired.before fired.input) ++ (accepted s label).toList) := by
    intro s' hsent
    rw [hsent]
    exact h.frames.trans (List.sublist_append_left _ _)
  generalize Broker.step controllerMethods s label = result at hstepped
  cases hstepped with
  | quiet valid same waits accepts silent => exact hsame same
  | begun free accepts valid waits adds short =>
    rw [adds, accepts, List.map_append]
    exact h.frames.append (List.Sublist.refl _)
  | refused free accepts own idle same => exact hsame same
  | answered waits inbox parsed idle same => exact hsame same
  | failed waits own idle same => exact hsame same
  | again waits inbox parsed fresh stale valid next adds short =>
    rw [h.hosts.not_stale h.valid h.calls waits inbox parsed] at stale
    cases stale

theorem run_once {labels : List Label} (hregular : ∀ label ∈ labels, Regular label) :
    Once (Machine.trace (step controllerMethods) State.initial labels)
      (Machine.run (step controllerMethods) State.initial labels) :=
  Machine.trace_invariant (H := Once) (P := fun _ label => Regular label)
    (fun _ _ _ h hlabel => h.step hlabel)
    ⟨idle_initial.valid, hosts_initial, by rintro k c ⟨⟩, List.Sublist.refl _⟩ (Machine.Along.of_forall hregular _)

theorem sublist_flatMap {α β : Type*} {f g : α → List β} {xs : List α} (h : ∀ x ∈ xs, (f x).Sublist (g x)) :
    (xs.flatMap f).Sublist (xs.flatMap g) := by
  induction xs with
  | nil => exact List.Sublist.refl _
  | cons x xs ih =>
    rw [List.flatMap_cons, List.flatMap_cons]
    exact (h x (by simp)).append (ih fun y hy => h y (by simp [hy]))

/-- The calls of all hosts are those of the frames, of one host after the other. -/
theorem Hosts.calls_sublist (h : Hosts methods s) :
    ((s.children.flatMap Child.calls).map CallAsked).Sublist
      (((sent s).map Frame.ask).filterMap (askedFor methods)) := by
  rw [List.map_flatMap, sent, List.map_flatMap, List.filterMap_flatMap]
  refine sublist_flatMap fun c hc => ?_
  obtain ⟨k, hk⟩ := List.mem_iff_getElem?.1 hc
  rw [(h.answering k c hk).calls, List.filterMap_map]
  exact (List.take_sublist _ _).filterMap _

/-- The calls of the controllers are those of accepted commands, in the order in which these were accepted, and each is
made at most once. -/
theorem calls_follow_commands {labels : List Label} (hregular : ∀ label ∈ labels, Regular label) :
    (((Machine.run (step controllerMethods) State.initial labels).children.flatMap Child.calls).map CallAsked).Sublist
      (((Machine.trace (step controllerMethods) State.initial labels).filterMap
        (fun fired => accepted fired.before fired.input)).filterMap (askedFor controllerMethods)) := by
  have honce := run_once hregular
  exact honce.hosts.calls_sublist.trans (honce.frames.filterMap _)

theorem statusRun_regular : ∀ label ∈ statusRun, Regular label := by
  intro label hlabel
  refine ⟨statusRun_quiet label hlabel, ?_⟩
  rintro k outcome rfl
  simp only [statusRun, List.mem_cons, reduceCtorEq, Label.handles.injEq, List.not_mem_nil, or_false, false_or] at hlabel
  rw [hlabel.2]
  rfl

theorem calls_follow_commands_statusRun :
    ((Machine.run (step controllerMethods) .initial statusRun).children.flatMap Child.calls).map CallAsked =
        [("statusRoom", .obj [])] ∧
      (((Machine.run (step controllerMethods) .initial statusRun).children.flatMap Child.calls).map CallAsked).Sublist
        (((Machine.trace (step controllerMethods) .initial statusRun).filterMap
          (fun fired => accepted fired.before fired.input)).filterMap (askedFor controllerMethods)) :=
  ⟨rfl, calls_follow_commands statusRun_regular⟩

/-! ### After a command has timed out -/

variable (methods) in
/-- A process that has ended makes no call. -/
theorem step_ended {c : Child} (hc : s.children[k]? = some c) (hended : c.running = false) (label : Label) :
    ∃ c', (step methods s label).2.children[k]? = some c' ∧ c'.calls = c.calls ∧ c'.running = false := by
  cases hown : label.own with
  | false =>
    have hmoves := step_moves methods (s := s) label hown
    have hlt : k < (step methods s label).2.children.length :=
      lt_of_lt_of_le (List.getElem?_eq_some_iff.1 hc).1 hmoves.length
    have halters := hmoves.alters k _ (List.getElem?_eq_getElem hlt)
    rw [hc, Option.getD_some] at halters
    refine ⟨_, List.getElem?_eq_getElem hlt, halters.calls, ?_⟩
    by_contra hrunning
    rw [Bool.not_eq_false] at hrunning
    rw [halters.running hrunning] at hended
    cases hended
  | true =>
    cases label with
    | prints j line =>
      rw [step, getElem?_update, hc]
      split_ifs
      · exact ⟨_, rfl, calls_print line c, (running_print line c).trans hended⟩
      · exact ⟨c, rfl, rfl, hended⟩
    | handles j outcome =>
      rw [step, getElem?_update, hc]
      split_ifs
      · have hsame : handle methods outcome c = c := by
          unfold handle
          rw [hended]
        exact ⟨c, congrArg some hsame, rfl, hended⟩
      · exact ⟨c, rfl, rfl, hended⟩
    | _ => cases hown

variable (methods) in
theorem run_ended {c : Child} (hc : s.children[k]? = some c) (hended : c.running = false) (labels : List Label) :
    ∃ c', (Machine.run (step methods) s labels).children[k]? = some c' ∧ c'.calls = c.calls ∧ c'.running = false := by
  induction labels generalizing s c with
  | nil => exact ⟨c, hc, rfl, hended⟩
  | cons label labels ih =>
    obtain ⟨c', hc', hcalls, hended'⟩ := step_ended methods hc hended label
    obtain ⟨c'', hc'', hcalls', hended''⟩ := ih hc' hended'
    exact ⟨c'', hc'', hcalls'.trans hcalls, hended''⟩

theorem timeout_gives_up {w : Waiting} (hw : s.waiting = some w) (hinbox : w.inbox = none) (second : Attempt) :
    (step methods s (.timeout second)).2 = giveUp s w := by
  obtain ⟨host, id, command, request, retried, inbox⟩ := w
  obtain rfl : inbox = none := hinbox
  have hown : OwnFailure (blockedDto "node_runner_timeout" "Desktop command host timed out.") := .of (by decide)
  rw [step, hw]
  dsimp only
  rw [conclude, hown.not_retried, Bool.and_false, if_neg Bool.false_ne_true]

/-- What the controllers have been asked for when a command times out is all that they are ever asked for: none of the
processes runs any more, whatever happens later. -/
theorem given_up_for_good {methods : List String} {pre post : List Label} {w : Waiting} {second : Attempt} {k : Nat}
    {c : Child} (hw : (Machine.run (step methods) State.initial pre).waiting = some w) (hinbox : w.inbox = none)
    (hc : (Machine.run (step methods) State.initial pre).children[k]? = some c) :
    ∃ c', (Machine.run (step methods) State.initial (pre ++ .timeout second :: post)).children[k]? = some c' ∧
      c'.calls = c.calls ∧ c'.running = false := by
  rw [Machine.run_append, Machine.run_cons, timeout_gives_up hw hinbox]
  have hone := run_oneHost methods pre
  generalize Machine.run (step methods) State.initial pre = s at hw hc hone ⊢
  have hmoves := moves_giveUp s w
  have hlt : k < (giveUp s w).children.length := lt_of_lt_of_le (List.getElem?_eq_some_iff.1 hc).1 hmoves.length
  have hk := List.getElem?_eq_getElem hlt
  have halters := hmoves.alters k _ hk
  rw [hc, Option.getD_some] at halters
  have hended : (giveUp s w).children[k].running = false := by
    by_contra hrunning
    rw [Bool.not_eq_false] at hrunning
    have hchild := hmoves.current hone k _ hk hrunning
    rw [giveUp, clearNodeHost_child] at hchild
    cases hchild
  obtain ⟨c', hc', hcalls, hended'⟩ := run_ended methods hk hended post
  exact ⟨c', hc', hcalls.trans halters.calls, hended'⟩

/-- A status that has timed out before the host has read its frame. -/
theorem given_up_for_good_status :
    ∃ c', (Machine.run (step controllerMethods) .initial
        ([.invoke .statusRoom none served served] ++ .timeout served :: [.handles 0 idleOutcome])).children[0]? =
          some c' ∧ c'.calls = [] ∧ c'.running = false :=
  given_up_for_good (w := ⟨0, 1, .statusRoom, .obj [], false, none⟩)
    (c := { Child.spawned with stdin := [⟨1, .statusRoom, .obj []⟩], pending := [1] }) rfl rfl rfl

end EasyMc.Desktop.Broker
