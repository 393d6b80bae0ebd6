import EasyMc.Desktop.CommandBroker

/-!
# What the broker answers

Whatever the processes print and whenever they exit, a command is only ever answered with a failure of the broker's
own, or with the result of a line that bears the id of its own last frame and that was printed by the very process the
frame was written to (`responses_delivered`).  The commands are answered in the order in which they were accepted, each
of them once (`one_response_each`).

`Valid` is what every state keeps, and `Stepped` says what a step can do to the commands.
-/

namespace EasyMc.Desktop.Broker

open CommandHostProcess (Outcome maxResponseBytes)

/-! ### What every state keeps -/

/-- All frames that have been written, to one process after the other. -/
def sent (s : State) : List Frame := s.children.flatMap Child.stdin

/-- The ids that the reader of process `k` has a channel for. -/
def expectedPending : Option Waiting → Nat → List Nat
  | some ⟨host, id, _, _, _, none⟩, k => if host = k then [id] else []
  | _, _ => []

/-- The line bears the id, and has been printed by the process. -/
structure Answers (c : Child) (id : Nat) (line : Line) : Prop where
  printed : line ∈ c.stdout
  short : line.bytes ≤ maxResponseBytes
  parsed : ∃ value, line.parsed = some value ∧ idOf value = some id

/-- The frame of a command that waits is the last one, and what it has received is an answer to it. -/
structure Written (s : State) (w : Waiting) : Prop where
  current : s.child = some w.host
  last : w.id = s.nextId
  host : ∃ c, s.children[w.host]? = some c ∧ w.frame ∈ c.stdin ∧ ∀ line, w.inbox = some line → Answers c w.id line

structure Valid (s : State) : Prop where
  child : ∀ k, s.child = some k → k + 1 = s.children.length
  ids : ((sent s).map Frame.id).Pairwise (· < ·)
  bound : ∀ f ∈ sent s, f.id ≤ s.nextId
  pending : ∀ (k : Nat) (c : Child), s.children[k]? = some c → c.pending = expectedPending s.waiting k
  waiting : ∀ w, s.waiting = some w → Written s w

/-- A change of a process that leaves its input and its channels alone and takes back nothing that it has printed. -/
structure Keeps (change : Child → Child) : Prop where
  stdin : ∀ c, (change c).stdin = c.stdin
  pending : ∀ c, (change c).pending = c.pending
  stdout : ∀ c, ∃ more, (change c).stdout = c.stdout ++ more

variable {s : State} {k : Nat} {change : Child → Child}

theorem getElem?_update (j : Nat) :
    (s.update k change).children[j]? = if k = j then s.children[j]?.map change else s.children[j]? := by
  rw [State.update, List.getElem?_modify]
  split_ifs
  · rfl
  · cases s.children[j]? <;> rfl

theorem length_update : (s.update k change).children.length = s.children.length := List.length_modify ..

theorem flatMap_modify {α β : Type*} {f : α → α} {g : α → List β} (h : ∀ x, g (f x) = g x) (xs : List α) (k : Nat) :
    (xs.modify k f).flatMap g = xs.flatMap g := by
  induction xs generalizing k with
  | nil => cases k <;> rfl
  | cons x xs ih =>
    cases k with
    | zero => simp only [List.modify_zero_cons, List.flatMap_cons, h]
    | succ k => simp only [List.modify_succ_cons, List.flatMap_cons, ih]

/-- What is added to the last list stands last. -/
theorem flatMap_modify_last {α β : Type*} {f : α → α} {g : α → List β} {y : β} (h : ∀ x, g (f x) = g x ++ [y])
    {xs : List α} {k : Nat} (hk : k + 1 = xs.length) : (xs.modify k f).flatMap g = xs.flatMap g ++ [y] := by
  induction xs generalizing k with
  | nil => cases hk
  | cons x xs ih =>
    cases k with
    | zero =>
      have hnil : xs = [] := by simpa using hk.symm
      subst hnil
      simp only [List.modify_zero_cons, List.flatMap_cons, List.flatMap_nil, List.append_nil, h]
    | succ k =>
      rw [List.modify_succ_cons, List.flatMap_cons, List.flatMap_cons, ih (by simpa using hk), List.append_assoc]

theorem filterMap_singleton {α β : Type*} (f : α → Option β) (x : α) : [x].filterMap f = (f x).toList := by
  cases hx : f x with
  | none =>
    rw [List.filterMap_cons_none hx]
    rfl
  | some y =>
    rw [List.filterMap_cons_some hx]
    rfl

theorem sent_update (h : ∀ c, (change c).stdin = c.stdin) : sent (s.update k change) = sent s :=
  flatMap_modify h s.children k

theorem Answers.mono {c c' : Child} {id : Nat} {line : Line} (h : Answers c id line)
    (hprinted : ∃ more, c'.stdout = c.stdout ++ more) : Answers c' id line := by
  obtain ⟨more, hmore⟩ := hprinted
  refine { h with printed := ?_ }
  rw [hmore]
  exact List.mem_append_left _ h.printed

theorem Valid.update (hs : Valid s) (hchange : Keeps change) (k : Nat) : Valid (s.update k change) := by
  constructor
  · intro j hj
    rw [length_update]
    exact hs.child j hj
  · rw [sent_update hchange.stdin]
    exact hs.ids
  · rw [sent_update hchange.stdin]
    exact hs.bound
  · intro j c hc
    rw [getElem?_update] at hc
    split_ifs at hc with hkj
    · obtain ⟨c, hj, rfl⟩ := Option.map_eq_some_iff.1 hc
      rw [hchange.pending]
      exact hs.pending j c hj
    · exact hs.pending j c hc
  · intro w hw
    obtain ⟨hcurrent, hlast, c, hc, hframe, hinbox⟩ := hs.waiting w hw
    refine ⟨hcurrent, hlast, ?_⟩
    rw [getElem?_update, hc]
    split_ifs with hkw
    · refine ⟨change c, rfl, ?_, fun line hline => (hinbox line hline).mono (hchange.stdout c)⟩
      rw [hchange.stdin]
      exact hframe
    · exact ⟨c, rfl, hframe, hinbox⟩

theorem keeps_running (running : Bool) : Keeps fun c => { c with running } :=
  ⟨fun _ => rfl, fun _ => rfl, fun c => ⟨[], (List.append_nil c.stdout).symm⟩⟩

/-! ### Sending keeps it -/

/-- A valid state in which no command waits. -/
structure Idle (s : State) : Prop where
  valid : Valid s
  waiting : s.waiting = none

theorem Idle.of_children (hchild : ∀ k, s.child = some k → k + 1 = s.children.length)
    (hids : ((sent s).map Frame.id).Pairwise (· < ·)) (hbound : ∀ f ∈ sent s, f.id ≤ s.nextId)
    (hpending : ∀ (k : Nat) (c : Child), s.children[k]? = some c → c.pending = []) (hwaiting : s.waiting = none) : Idle s := by
  refine ⟨⟨hchild, hids, hbound, ?_, ?_⟩, hwaiting⟩
  · intro k c hc
    rw [hpending k c hc, hwaiting]
    rfl
  · intro w hw
    rw [hwaiting] at hw
    cases hw

theorem Idle.pending (hs : Idle s) {k : Nat} {c : Child} (hc : s.children[k]? = some c) : c.pending = [] := by
  rw [hs.valid.pending k c hc, hs.waiting]
  rfl

theorem idle_initial : Idle State.initial := by
  refine Idle.of_children ?_ List.Pairwise.nil ?_ ?_ rfl
  · rintro k ⟨⟩
  · rintro f ⟨⟩
  · rintro k c ⟨⟩

theorem clearNodeHost_sent : sent (clearNodeHost s) = sent s := by
  unfold clearNodeHost
  split
  · rfl
  · exact sent_update (keeps_running false).stdin

@[simp] theorem clearNodeHost_child : (clearNodeHost s).child = none := by
  unfold clearNodeHost
  split
  · assumption
  · rfl

@[simp] theorem clearNodeHost_waiting : (clearNodeHost s).waiting = s.waiting := by
  unfold clearNodeHost
  split <;> rfl

@[simp] theorem clearNodeHost_nextId : (clearNodeHost s).nextId = s.nextId := by
  unfold clearNodeHost
  split <;> rfl

theorem Idle.clearNodeHost (hs : Idle s) : Idle (clearNodeHost s) := by
  unfold Broker.clearNodeHost
  split
  · exact hs
  · rename_i k hk
    have hupdate := hs.valid.update (keeps_running false) k
    refine Idle.of_children ?_ hupdate.ids hupdate.bound ?_ hs.waiting
    · rintro k ⟨⟩
    · intro j c hc
      rw [hupdate.pending j c hc]
      exact congrArg (expectedPending · j) hs.waiting

theorem sent_spawn :
    sent { s with child := some s.children.length, children := s.children ++ [.spawned] } = sent s := by
  simp only [sent, List.flatMap_append, List.flatMap_cons, List.flatMap_nil, Child.spawned, List.append_nil]

/-- A process that has just been started has received nothing. -/
theorem Idle.spawn (hs : Idle s) :
    Idle { s with child := some s.children.length, children := s.children ++ [.spawned] } := by
  refine Idle.of_children ?_ ?_ ?_ ?_ hs.waiting
  · rintro k ⟨⟩
    simp only [List.length_append, List.length_cons, List.length_nil]
  · rw [sent_spawn]
    exact hs.valid.ids
  · rw [sent_spawn]
    exact hs.valid.bound
  · intro k c hc
    rcases Nat.lt_or_ge k s.children.length with hlt | hge
    · rw [List.getElem?_append_left hlt] at hc
      exact hs.pending hc
    · rw [List.getElem?_append_right hge, List.getElem?_singleton] at hc
      split_ifs at hc
      obtain rfl := Option.some.inj hc
      rfl

/-- The failures of the broker's own that a command can be answered with. -/
def ownFailures : List (String × String) :=
  [("node_host_missing", "Desktop command host script is missing."),
    ("node_host_missing", "Node.js is required for this desktop dev bridge."),
    ("node_host_unavailable", "Desktop command host stdin is unavailable."),
    ("node_host_unavailable", "Desktop command host stdout is unavailable."),
    ("request_too_large", "Desktop command request is too large."),
    ("node_host_write_failed", "Desktop command host did not accept the request."),
    ("node_runner_timeout", "Desktop command host timed out.")]

def OwnFailure (response : Json) : Prop := ∃ failure ∈ ownFailures, response = blockedDto failure.1 failure.2

theorem OwnFailure.of {reason message : String} (h : (reason, message) ∈ ownFailures) :
    OwnFailure (blockedDto reason message) :=
  ⟨_, h, rfl⟩

/-- A failure of the broker's own does not look like that of an old host. -/
theorem OwnFailure.not_retried {response : Json} (h : OwnFailure response) :
    shouldRetryAfterStaleHostResponse response = false := by
  obtain ⟨⟨reason, message⟩, hmem, rfl⟩ := h
  have hreason : ∀ failure ∈ ownFailures,
      (decide (failure.1 = "unknown_command") || decide (failure.1 = "command_unavailable")) = false := by decide
  exact hreason _ hmem

/-- What comes of starting a process: a failure, or a process that has received nothing. -/
inductive Ensured (s : State) : Option Json × State → Prop
  | failed {response : Json} {s' : State} (own : OwnFailure response) (idle : Idle s') (same : sent s' = sent s)
      (id : s'.nextId = s.nextId) : Ensured s (some response, s')
  | ready {k : Nat} {s' : State} (idle : Idle s') (current : s'.child = some k) (same : sent s' = sent s)
      (id : s'.nextId = s.nextId) : Ensured s (none, s')

theorem spawnHost_ensured (hs : Idle s) (spawn : Spawn) : Ensured s (spawnHost s spawn) := by
  cases spawn with
  | scriptMissing => exact .failed (.of (by decide)) hs rfl rfl
  | failed => exact .failed (.of (by decide)) hs rfl rfl
  | withoutStdin => exact .failed (.of (by decide)) hs rfl rfl
  | withoutStdout => exact .failed (.of (by decide)) hs rfl rfl
  | spawned => exact .ready hs.spawn rfl sent_spawn rfl

theorem ensureNodeHost_ensured (hs : Idle s) (attempt : Attempt) : Ensured s (ensureNodeHost s attempt) := by
  unfold ensureNodeHost
  cases hchild : s.child with
  | none => exact spawnHost_ensured hs attempt.spawn
  | some k =>
    dsimp only
    split_ifs
    · exact .ready hs hchild rfl rfl
    · generalize hspawn : spawnHost (clearNodeHost s) attempt.spawn = spawned
      have hspawned := spawnHost_ensured hs.clearNodeHost attempt.spawn
      rw [hspawn] at hspawned
      cases hspawned with
      | failed own idle same id =>
        exact .failed own idle (same.trans clearNodeHost_sent) (id.trans clearNodeHost_nextId)
      | ready idle current same id =>
        exact .ready idle current (same.trans clearNodeHost_sent) (id.trans clearNodeHost_nextId)

/-- What comes of sending a frame: a failure, or a command that waits for the answer to a new frame. -/
inductive Sending (s : State) (command : DesktopRuntimeCommand) (request : Json) (retried : Bool) :
    Option Json × State → Prop
  | failed {response : Json} {s' : State} (own : OwnFailure response) (idle : Idle s') (same : sent s' = sent s) :
    Sending s command request retried (some response, s')
  | written {k : Nat} {s' : State} (valid : Valid s')
      (waits : s'.waiting = some ⟨k, s.nextId + 1, command, request, retried, none⟩)
      (adds : sent s' = sent s ++ [⟨s.nextId + 1, command, request⟩])
      (short : (Frame.mk (s.nextId + 1) command request).line.bytes ≤ maxRequestBytes) :
    Sending s command request retried (none, s')

/-- A fresh id. -/
theorem Idle.nextId (hs : Idle s) : Idle { s with nextId := s.nextId + 1 } :=
  Idle.of_children hs.valid.child hs.valid.ids (fun f hf => Nat.le_succ_of_le (hs.valid.bound f hf))
    (fun _ _ hc => hs.pending hc) hs.waiting

theorem sent_removePendingResponse {id : Nat} : sent (s.update k (Child.removePendingResponse id)) = sent s :=
  sent_update fun _ => rfl

theorem Idle.removePendingResponse (hs : Idle s) (k id : Nat) :
    Idle (s.update k (Child.removePendingResponse id)) := by
  refine Idle.of_children ?_ ?_ ?_ ?_ hs.waiting
  · intro j hj
    rw [length_update]
    exact hs.valid.child j hj
  · rw [sent_removePendingResponse]
    exact hs.valid.ids
  · rw [sent_removePendingResponse]
    exact hs.valid.bound
  · intro j c hc
    rw [getElem?_update] at hc
    split_ifs at hc with hkj
    · obtain ⟨c, hj, rfl⟩ := Option.map_eq_some_iff.1 hc
      simp only [Child.removePendingResponse, hs.pending hj, List.filter_nil]
    · exact hs.pending hc

theorem sent_write {frame : Frame} (hk : k + 1 = s.children.length) :
    sent (s.update k (Child.write frame)) = sent s ++ [frame] :=
  flatMap_modify_last (fun _ => rfl) hk

theorem Idle.write (hs : Idle s) (frame : Frame) (hk : s.child = some k) (hid : frame.id = s.nextId + 1)
    (retried : Bool) :
    Valid { s.update k (Child.write frame) with
      nextId := frame.id
      waiting := some ⟨k, frame.id, frame.command, frame.request, retried, none⟩ } := by
  have hsent : sent (s.update k (Child.write frame)) = sent s ++ [frame] := sent_write (hs.valid.child k hk)
  have hlt : k < s.children.length := by
    have := hs.valid.child k hk
    omega
  constructor
  · intro j hj
    rw [length_update]
    exact hs.valid.child j hj
  · change ((sent (s.update k (Child.write frame))).map Frame.id).Pairwise (· < ·)
    rw [hsent, List.map_append, List.pairwise_append]
    refine ⟨hs.valid.ids, List.pairwise_singleton _ _, ?_⟩
    intro id hmem new hnew
    obtain ⟨f, hf, rfl⟩ := List.mem_map.1 hmem
    obtain rfl := List.mem_singleton.1 hnew
    have := hs.valid.bound f hf
    omega
  · intro f hf
    have hf : f ∈ sent s ++ [frame] := hsent ▸ hf
    rcases List.mem_append.1 hf with hf | hf
    · have := hs.valid.bound f hf
      change f.id ≤ frame.id
      omega
    · obtain rfl := List.mem_singleton.1 hf
      exact le_rfl
  · intro j c hc
    rw [getElem?_update] at hc
    split_ifs at hc with hkj
    · obtain ⟨c, hj, rfl⟩ := Option.map_eq_some_iff.1 hc
      simp only [Child.write, hs.pending hj, expectedPending, if_pos hkj, List.insert_nil]
    · simp only [hs.pending hc, expectedPending, if_neg hkj]
  · rintro w ⟨⟩
    refine ⟨hk, rfl, Child.write frame s.children[k], ?_, ?_, ?_⟩
    · rw [getElem?_update, if_pos rfl, List.getElem?_eq_getElem hlt]
      rfl
    · exact List.mem_append_right _ (List.mem_singleton.2 rfl)
    · rintro line ⟨⟩

theorem sendNodeHostFrame_sending (hs : Idle s) (command : DesktopRuntimeCommand) (request : Json) (retried : Bool)
    (attempt : Attempt) :
    Sending s command request retried (sendNodeHostFrame s command request retried attempt) := by
  unfold sendNodeHostFrame
  have hensured := ensureNodeHost_ensured hs attempt
  generalize ensureNodeHost s attempt = ensured at hensured
  cases hensured with
  | failed own idle same _ => exact .failed own idle same
  | @ready k s' idle current same id =>
    obtain ⟨child, nextId, waiting, children⟩ := s'
    obtain rfl : child = some k := current
    obtain rfl : nextId = s.nextId := id
    dsimp only
    split
    · exact .failed (.of (by decide)) idle.nextId same
    · rename_i hshort
      split
      · refine .written (k := k) (idle.write ⟨s.nextId + 1, command, request⟩ rfl rfl retried) rfl ?_
          (Nat.le_of_not_lt hshort)
        rw [← same]
        exact sent_write (idle.valid.child k rfl)
      · refine .failed (.of (by decide)) (idle.nextId.removePendingResponse k _).clearNodeHost ?_
        rw [clearNodeHost_sent, sent_removePendingResponse]
        exact same

/-- What comes of a response: it is returned, or the command waits for another, or fails. -/
inductive Concluded (s : State) (command : DesktopRuntimeCommand) (request : Json) (retried : Bool) (response : Json) :
    Output × State → Prop
  | returned (idle : Idle s) : Concluded s command request retried response (.returned command request response, s)
  | failed {failure : Json} {s' : State} (fresh : retried = false) (own : OwnFailure failure) (idle : Idle s')
      (same : sent s' = sent s) :
    Concluded s command request retried response (.returned command request failure, s')
  | again {k : Nat} {s' : State} (fresh : retried = false) (stale : shouldRetryAfterStaleHostResponse response = true)
      (valid : Valid s') (waits : s'.waiting = some ⟨k, s.nextId + 1, command, request, true, none⟩)
      (adds : sent s' = sent s ++ [⟨s.nextId + 1, command, request⟩])
      (short : (Frame.mk (s.nextId + 1) command request).line.bytes ≤ maxRequestBytes) :
    Concluded s command request retried response (.nothing, s')

theorem conclude_concluded (hs : Idle s) (command : DesktopRuntimeCommand) (request : Json) (retried : Bool)
    (response : Json) (second : Attempt) :
    Concluded s command request retried response (conclude s command request retried response second) := by
  unfold conclude
  split_ifs with hretry
  · rw [Bool.and_eq_true, Bool.not_eq_true'] at hretry
    have hsending := sendNodeHostFrame_sending hs.clearNodeHost command request true second
    generalize sendNodeHostFrame (clearNodeHost s) command request true second = sending at hsending
    cases hsending with
    | failed own idle same => exact .failed hretry.1 own idle (same.trans clearNodeHost_sent)
    | written valid waits adds short =>
      rw [clearNodeHost_nextId] at waits adds short
      rw [clearNodeHost_sent] at adds
      exact .again hretry.1 hretry.2 valid waits adds short
  · exact .returned hs

/-! ### Every step keeps it -/

theorem keeps_routed : Keeps fun c => { c with routed := c.routed + 1 } :=
  ⟨fun _ => rfl, fun _ => rfl, fun c => ⟨[], (List.append_nil c.stdout).symm⟩⟩

theorem keeps_print (line : Line) : Keeps (Child.print line) := by
  refine ⟨fun c => ?_, fun c => ?_, fun c => ?_⟩
  · unfold Child.print
    split_ifs <;> rfl
  · unfold Child.print
    split_ifs <;> rfl
  · unfold Child.print
    split_ifs
    · exact ⟨[line], rfl⟩
    · exact ⟨[], (List.append_nil c.stdout).symm⟩

theorem keeps_handle (methods : List String) (outcome : Outcome) : Keeps (handle methods outcome) := by
  refine ⟨fun c => ?_, fun c => ?_, fun c => ?_⟩
  · unfold handle
    split <;> rfl
  · unfold handle
    split <;> rfl
  · unfold handle
    split
    · exact ⟨_, rfl⟩
    · exact ⟨[], (List.append_nil c.stdout).symm⟩

/-- A channel that a reader has is that of the command that waits. -/
theorem Valid.waits (hs : Valid s) {c : Child} (hc : s.children[k]? = some c) {id : Nat} (hid : id ∈ c.pending) :
    ∃ command request retried, s.waiting = some ⟨k, id, command, request, retried, none⟩ := by
  rw [hs.pending k c hc] at hid
  cases hw : s.waiting with
  | none =>
    rw [hw] at hid
    cases hid
  | some w =>
    obtain ⟨host, id', command, request, retried, inbox⟩ := w
    rw [hw] at hid
    cases inbox with
    | some line => cases hid
    | none =>
      rw [expectedPending] at hid
      split_ifs at hid with hk
      · obtain rfl := List.mem_singleton.1 hid
        exact ⟨command, request, retried, by rw [hk]⟩
      · cases hid

/-- The pending responses are as expected once that of `id` is taken out. -/
theorem Valid.deliver (hs : Valid s) {id : Nat} {line : Line}
    (hanswers : ∀ c, s.children[k]? = some c → Answers c id line) : Valid (deliver s k id line) := by
  unfold Broker.deliver
  split_ifs with hpending
  · rw [Option.any_eq_true] at hpending
    obtain ⟨c, hc, hid⟩ := hpending
    rw [List.contains_iff_mem] at hid
    obtain ⟨command, request, retried, hw⟩ := hs.waits hc hid
    obtain ⟨hcurrent, hlast, c', hc', hframe, -⟩ := hs.waiting _ hw
    have hwaiting : (s.waiting.map fun w => if w.id = id then { w with inbox := some line } else w) =
        some ⟨k, id, command, request, retried, some line⟩ := by
      rw [hw, Option.map_some, if_pos rfl]
    constructor
    · intro j hj
      simp only [length_update]
      exact hs.child j hj
    · change ((sent (s.update k (Child.removePendingResponse id))).map Frame.id).Pairwise (· < ·)
      rw [sent_removePendingResponse]
      exact hs.ids
    · intro f hf
      exact hs.bound f (sent_removePendingResponse (s := s) ▸ hf)
    · intro j c'' hc''
      have hnone : expectedPending (some ⟨k, id, command, request, retried, some line⟩) j = [] := rfl
      rw [hwaiting, hnone]
      rw [getElem?_update] at hc''
      split_ifs at hc'' with hkj
      · obtain ⟨c'', hj, rfl⟩ := Option.map_eq_some_iff.1 hc''
        have hexpected : c''.pending = [id] := by rw [hs.pending j c'' hj, hw, expectedPending, if_pos hkj]
        simp only [Child.removePendingResponse, hexpected]
        simp
      · rw [hs.pending j c'' hc'', hw, expectedPending, if_neg hkj]
    · intro w' hw'
      have hw' : some ⟨k, id, command, request, retried, some line⟩ = some w' := hwaiting.symm.trans hw'
      obtain rfl := Option.some.inj hw'
      refine ⟨hcurrent, hlast, Child.removePendingResponse id c, ?_, ?_, ?_⟩
      · simp only [getElem?_update, if_pos, hc, Option.map_some]
      · obtain rfl : c = c' := Option.some.inj (hc.symm.trans hc')
        exact hframe
      · rintro line' ⟨⟩
        exact (hanswers c hc).mono ⟨[], (List.append_nil _).symm⟩
  · exact hs

/-- What a line is that the reader sends to the channel of `id`. -/
theorem answers_of_route {c : Child} {line : Line} {id : Nat} (hprinted : line ∈ c.stdout)
    (hroute : routeNodeHostStdoutLine line = .response id) : Answers c id line := by
  unfold routeNodeHostStdoutLine at hroute
  split_ifs at hroute with hbytes
  split at hroute
  · cases hroute
  · rename_i value hvalue
    split_ifs at hroute
    split at hroute
    · cases hroute
    · rename_i id' hid
      cases hroute
      exact ⟨hprinted, Nat.le_of_not_lt hbytes, value, hvalue, hid⟩

theorem Valid.route (hs : Valid s) (k : Nat) : Valid (route s k).2 := by
  unfold Broker.route
  split
  · exact hs
  · rename_i c hc
    split
    · exact hs
    · rename_i line hline
      have hupdate := hs.update keeps_routed k
      dsimp only
      split
      · exact hupdate
      · exact hupdate
      · rename_i id hroute
        refine hupdate.deliver fun c' hc' => answers_of_route ?_ hroute
        rw [getElem?_update, if_pos rfl, hc] at hc'
        obtain rfl := Option.some.inj hc'
        exact List.mem_of_getElem? hline

theorem Valid.idle (hs : Valid s) (hwaiting : s.waiting = none) : Idle s := ⟨hs, hwaiting⟩

/-- A command that has its line waits no more. -/
theorem Valid.received (hs : Valid s) {host id : Nat} {command : DesktopRuntimeCommand} {request : Json} {retried : Bool}
    {line : Line} (hw : s.waiting = some ⟨host, id, command, request, retried, some line⟩) :
    Idle { s with waiting := none } := by
  refine Idle.of_children hs.child hs.ids hs.bound ?_ rfl
  intro k c hc
  rw [hs.pending k c hc, hw]
  rfl

theorem giveUp_sent (w : Waiting) : sent (giveUp s w) = sent s := by
  rw [giveUp, clearNodeHost_sent]
  exact sent_removePendingResponse

theorem Valid.giveUp (hs : Valid s) {w : Waiting} (hw : s.waiting = some w) (hinbox : w.inbox = none) :
    Idle (giveUp s w) := by
  refine Idle.clearNodeHost (Idle.of_children ?_ ?_ ?_ ?_ rfl)
  · intro j hj
    simp only [length_update]
    exact hs.child j hj
  · change ((sent (s.update w.host (Child.removePendingResponse w.id))).map Frame.id).Pairwise (· < ·)
    rw [sent_removePendingResponse]
    exact hs.ids
  · intro f hf
    exact hs.bound f (sent_removePendingResponse (s := s) ▸ hf)
  · intro j c hc
    obtain ⟨host, id, command, request, retried, inbox⟩ := w
    obtain rfl : inbox = none := hinbox
    rw [getElem?_update] at hc
    split_ifs at hc with hkj
    · obtain ⟨c, hj, rfl⟩ := Option.map_eq_some_iff.1 hc
      have hexpected : c.pending = [id] := by rw [hs.pending j c hj, hw, expectedPending, if_pos hkj]
      simp only [Child.removePendingResponse, hexpected]
      simp
    · rw [hs.pending j c hc, hw, expectedPending, if_neg hkj]

/-- The reader of a process whose command waits still has its channel. -/
theorem Valid.connected (hs : Valid s) {host id : Nat} {command : DesktopRuntimeCommand} {request : Json}
    {retried : Bool} (hw : s.waiting = some ⟨host, id, command, request, retried, none⟩) :
    (s.children[host]?.any fun c => c.pending.contains id) = true := by
  obtain ⟨-, -, c, hc, -, -⟩ := hs.waiting _ hw
  rw [hc, Option.any_some, hs.pending host c hc, hw, expectedPending, if_pos rfl]
  simp

/-! ### What a step can do -/

/-- A command and its request. -/
abbrev Ask : Type := DesktopRuntimeCommand × Json

def Waiting.ask (w : Waiting) : Ask := (w.command, w.request)

/-- The command that takes the lock. -/
def accepted (s : State) : Label → Option Ask
  | .invoke command request _ _ =>
    match sanitizeRequest command request, s.waiting with
    | .ok request, none => some (command, request)
    | _, _ => none
  | _ => none

/-- The command that is answered. -/
def Output.answered : Output → Option Ask
  | .returned command request _ => some (command, request)
  | _ => none

/-- What a step does to the commands, from a valid state: none is concerned; one is accepted, and waits or fails; or
the one that waits is answered with its line, fails, or is sent once more. -/
inductive Stepped (s : State) (label : Label) : Output × State → Prop
  | quiet {output : Output} {s' : State} (valid : Valid s') (same : sent s' = sent s)
      (waits : s'.waiting.map Waiting.ask = s.waiting.map Waiting.ask) (accepts : accepted s label = none)
      (silent : output.answered = none) : Stepped s label (output, s')
  | begun {command : DesktopRuntimeCommand} {request : Json} {k : Nat} {s' : State} (free : s.waiting = none)
      (accepts : accepted s label = some (command, request)) (valid : Valid s')
      (waits : s'.waiting = some ⟨k, s.nextId + 1, command, request, false, none⟩)
      (adds : sent s' = sent s ++ [⟨s.nextId + 1, command, request⟩])
      (short : (Frame.mk (s.nextId + 1) command request).line.bytes ≤ maxRequestBytes) : Stepped s label (.nothing, s')
  | refused {command : DesktopRuntimeCommand} {request failure : Json} {s' : State} (free : s.waiting = none)
      (accepts : accepted s label = some (command, request)) (own : OwnFailure failure) (idle : Idle s')
      (same : sent s' = sent s) : Stepped s label (.returned command request failure, s')
  | answered {w : Waiting} {line : Line} {value : Json} {s' : State} (waits : s.waiting = some w)
      (inbox : w.inbox = some line) (parsed : line.parsed = some value) (idle : Idle s') (same : sent s' = sent s) :
    Stepped s label (.returned w.command w.request (sanitizeResponse (resultOf value)), s')
  | failed {w : Waiting} {failure : Json} {s' : State} (waits : s.waiting = some w) (own : OwnFailure failure)
      (idle : Idle s') (same : sent s' = sent s) : Stepped s label (.returned w.command w.request failure, s')
  | again {w : Waiting} {line : Line} {value : Json} {k : Nat} {s' : State} (waits : s.waiting = some w)
      (inbox : w.inbox = some line) (parsed : line.parsed = some value) (fresh : w.retried = false)
      (stale : shouldRetryAfterStaleHostResponse (sanitizeResponse (resultOf value)) = true) (valid : Valid s')
      (next : s'.waiting = some ⟨k, s.nextId + 1, w.command, w.request, true, none⟩)
      (adds : sent s' = sent s ++ [⟨s.nextId + 1, w.command, w.request⟩])
      (short : (Frame.mk (s.nextId + 1) w.command w.request).line.bytes ≤ maxRequestBytes) :
    Stepped s label (.nothing, s')

/-- The frame of the command that waits. -/
theorem Valid.parseHostResponse (hs : Valid s) {w : Waiting} {line : Line} (hw : s.waiting = some w)
    (hinbox : w.inbox = some line) :
    line.bytes ≤ maxResponseBytes ∧ ∃ value, line.parsed = some value ∧
      parseHostResponse w.id line = sanitizeResponse (resultOf value) := by
  obtain ⟨-, -, c, -, -, hanswers⟩ := hs.waiting w hw
  obtain ⟨-, hshort, value, hvalue, hid⟩ := hanswers line hinbox
  refine ⟨hshort, value, hvalue, ?_⟩
  rw [Broker.parseHostResponse, hvalue]
  exact if_neg fun hno => hno hid

theorem ask_deliver {k id : Nat} {line : Line} :
    (deliver s k id line).waiting.map Waiting.ask = s.waiting.map Waiting.ask := by
  unfold deliver
  split_ifs
  · simp only [Option.map_map]
    apply Option.map_congr
    intro w _
    simp only [Function.comp_apply]
    split_ifs <;> rfl
  · rfl

theorem sent_deliver {k id : Nat} {line : Line} : sent (deliver s k id line) = sent s := by
  unfold deliver
  split_ifs
  · exact sent_removePendingResponse
  · rfl

theorem route_stepped (hs : Valid s) (k : Nat) : Stepped s (.route k) (route s k) := by
  have hvalid := hs.route k
  have hsent : sent (s.update k fun c => { c with routed := c.routed + 1 }) = sent s := sent_update keeps_routed.stdin
  unfold route at hvalid ⊢
  split
  · exact .quiet hs rfl rfl rfl rfl
  · rename_i c hc
    simp only [hc] at hvalid
    split
    · exact .quiet hs rfl rfl rfl rfl
    · rename_i line hline
      simp only [hline] at hvalid
      dsimp only at hvalid ⊢
      split
      · rename_i hroute
        simp only [hroute] at hvalid
        exact .quiet hvalid hsent rfl rfl rfl
      · rename_i payload hroute
        simp only [hroute] at hvalid
        exact .quiet hvalid hsent rfl rfl rfl
      · rename_i id hroute
        simp only [hroute] at hvalid
        exact .quiet hvalid (sent_deliver.trans hsent) ask_deliver rfl rfl

theorem update_stepped (hs : Valid s) {label : Label} (hlabel : accepted s label = none) (k : Nat)
    (hchange : Keeps change) : Stepped s label (.nothing, s.update k change) :=
  .quiet (hs.update hchange k) (sent_update hchange.stdin) rfl hlabel rfl

/-- A command that has a line is answered. -/
theorem receive_stepped (hs : Valid s) {w : Waiting} {line : Line} (hw : s.waiting = some w)
    (hinbox : w.inbox = some line) (label : Label) (second : Attempt) :
    Stepped s label
      (conclude (receiveLine { s with waiting := none } w.id line).2 w.command w.request w.retried
        (receiveLine { s with waiting := none } w.id line).1 second) := by
  obtain ⟨hshort, value, hvalue, hresponse⟩ := hs.parseHostResponse hw hinbox
  have hreceive : receiveLine { s with waiting := none } w.id line =
      (sanitizeResponse (resultOf value), { s with waiting := none }) := by
    rw [receiveLine, if_neg (Nat.not_lt.2 hshort), hresponse]
  have hidle : Idle { s with waiting := none } := by
    obtain ⟨host, id, command, request, retried, inbox⟩ := w
    obtain rfl : inbox = some line := hinbox
    exact hs.received hw
  rw [hreceive]
  generalize hconclude : conclude { s with waiting := none } w.command w.request w.retried
    (sanitizeResponse (resultOf value)) second = concluded
  have hconcluded := conclude_concluded hidle w.command w.request w.retried (sanitizeResponse (resultOf value)) second
  rw [hconclude] at hconcluded
  cases hconcluded with
  | returned idle => exact .answered hw hinbox hvalue idle rfl
  | failed fresh own idle same => exact .failed hw own idle same
  | again fresh stale valid waits adds short => exact .again hw hinbox hvalue fresh stale valid waits adds short

/-- A command whose process is given up fails. -/
theorem giveUp_stepped (hs : Valid s) {w : Waiting} (hw : s.waiting = some w) (hinbox : w.inbox = none) (label : Label)
    {failure : Json} (hown : OwnFailure failure) (second : Attempt) :
    Stepped s label (conclude (giveUp s w) w.command w.request w.retried failure second) := by
  rw [conclude, hown.not_retried, Bool.and_false, if_neg Bool.false_ne_true]
  exact .failed hw hown (hs.giveUp hw hinbox) (giveUp_sent w)

theorem step_stepped (methods : List String) (hs : Valid s) (label : Label) :
    Stepped s label (step methods s label) := by
  cases label with
  | invoke command request first second =>
    rw [step]
    cases hsanitized : sanitizeRequest command request with
    | error dto => exact .quiet hs rfl rfl (by simp only [accepted, hsanitized]) rfl
    | ok request' =>
      cases hw : s.waiting with
      | some w => exact .quiet hs rfl (by rw [hw]) (by simp only [accepted, hsanitized, hw]) rfl
      | none =>
        have haccepted : accepted s (.invoke command request first second) = some (command, request') := by
          simp only [accepted, hsanitized, hw]
        have hsending := sendNodeHostFrame_sending (hs.idle hw) command request' false first
        dsimp only
        generalize sendNodeHostFrame s command request' false first = sending at hsending
        cases hsending with
        | @failed response s' own idle same =>
          have hconclude : conclude s' command request' false response second =
              (.returned command request' response, s') := by
            rw [conclude, own.not_retried, Bool.and_false, if_neg Bool.false_ne_true]
          dsimp only
          rw [hconclude]
          exact .refused hw haccepted own idle same
        | written valid waits adds short => exact .begun hw haccepted valid waits adds short
  | receive second =>
    rw [step]
    split
    · rename_i host id command request retried line hw
      exact receive_stepped hs hw rfl _ second
    · exact .quiet hs rfl rfl rfl rfl
  | timeout second =>
    rw [step]
    split
    · rename_i host id command request retried hw
      exact giveUp_stepped hs hw rfl _ (.of (by decide)) second
    · exact .quiet hs rfl rfl rfl rfl
  | disconnected second =>
    rw [step]
    split
    · rename_i host id command request retried hw
      rw [if_pos (hs.connected hw)]
      exact .quiet hs rfl rfl rfl rfl
    · exact .quiet hs rfl rfl rfl rfl
  | route k => exact route_stepped hs k
  | prints k line => exact update_stepped hs rfl k (keeps_print line)
  | handles k outcome => exact update_stepped hs rfl k (keeps_handle methods outcome)
  | exits k => exact update_stepped hs rfl k (keeps_running false)

/-! ### Runs -/

theorem Stepped.valid {label : Label} {result : Output × State} (h : Stepped s label result) : Valid result.2 := by
  cases h with
  | quiet valid _ _ _ _ => exact valid
  | begun _ _ valid _ _ _ => exact valid
  | refused _ _ _ idle _ => exact idle.valid
  | answered _ _ _ idle _ => exact idle.valid
  | failed _ _ idle _ => exact idle.valid
  | again _ _ _ _ _ valid _ _ _ => exact valid

theorem run_valid (methods : List String) (labels : List Label) :
    Valid (Machine.run (step methods) State.initial labels) :=
  Machine.run_invariant (I := Valid) (P := fun _ _ => True) (fun _ label hs _ => (step_stepped methods hs label).valid)
    idle_initial.valid (Machine.Along.of_forall (fun _ _ => trivial) _)

/-- A frame and a line that answers it: the frame has been written to the process that has printed the line, no frame
is newer, and the line bears its id. -/
structure AnsweredBy (s : State) (frame : Frame) (response : Json) (host : Child) (line : Line) (value : Json) :
    Prop where
  started : host ∈ s.children
  written : frame ∈ host.stdin
  newest : ∀ other ∈ sent s, other = frame ∨ other.id < frame.id
  printed : line ∈ host.stdout
  parsed : line.parsed = some value
  id : idOf value = some frame.id
  response : response = sanitizeResponse (resultOf value)

/-- The frame of the command that waits is newer than all others. -/
theorem Valid.newest (hs : Valid s) {frame : Frame} (hframe : frame ∈ sent s) (hid : frame.id = s.nextId) :
    ∀ other ∈ sent s, other = frame ∨ other.id < frame.id := by
  intro other hother
  have hle := hs.bound other hother
  rcases Nat.lt_or_ge other.id frame.id with hlt | hge
  · exact .inr hlt
  · have hnodup : ((sent s).map Frame.id).Nodup := hs.ids.imp fun h => h.ne
    exact .inl (List.inj_on_of_nodup_map hnodup hother hframe (by omega))

theorem Valid.answeredBy (hs : Valid s) {w : Waiting} {line : Line} {value : Json} (hw : s.waiting = some w)
    (hinbox : w.inbox = some line) (hparsed : line.parsed = some value) :
    ∃ host, AnsweredBy s w.frame (sanitizeResponse (resultOf value)) host line value := by
  obtain ⟨-, hlast, host, hhost, hframe, hanswers⟩ := hs.waiting w hw
  obtain ⟨hprinted, -, value', hvalue, hid⟩ := hanswers line hinbox
  obtain rfl : value = value' := Option.some.inj (hparsed.symm.trans hvalue)
  have hmem := List.mem_of_getElem? hhost
  have hsent : w.frame ∈ sent s := List.mem_flatMap.2 ⟨host, hmem, hframe⟩
  exact ⟨host, hmem, hframe, hs.newest hsent hlast, hprinted, hparsed, hid, rfl⟩

/-- A command is answered with a failure of the broker's own, or with the line that has been sent to it. -/
theorem returned_cases {methods : List String} (hs : Valid s) {label : Label} {command : DesktopRuntimeCommand}
    {request response : Json} (h : (step methods s label).1 = .returned command request response) :
    OwnFailure response ∨ ∃ w line value, s.waiting = some w ∧ w.ask = (command, request) ∧ w.inbox = some line ∧
      line.parsed = some value ∧ response = sanitizeResponse (resultOf value) := by
  have hstepped := step_stepped methods hs label
  generalize step methods s label = result at h hstepped
  cases hstepped with
  | @quiet output s' valid same waits accepts silent =>
    obtain rfl : output = .returned command request response := h
    cases silent
  | begun => cases h
  | refused _ _ own _ _ =>
    cases h
    exact .inl own
  | answered waits inbox parsed _ _ =>
    cases h
    exact .inr ⟨_, _, _, waits, rfl, inbox, parsed, rfl⟩
  | failed _ own _ _ =>
    cases h
    exact .inl own
  | again => cases h

/-- Whatever the processes print and whenever they exit, a command is answered with a failure of the broker's own, or
with what a line says that answers its own last frame. -/
theorem responses_delivered (methods : List String) (labels : List Label) :
    ∀ fired ∈ Machine.trace (step methods) State.initial labels, ∀ command request response,
      fired.output = .returned command request response →
      OwnFailure response ∨ ∃ frame host line value, (frame.command, frame.request) = (command, request) ∧
        AnsweredBy fired.before frame response host line value := by
  intro fired hfired command request response houtput
  obtain ⟨pre, post, -, hfire⟩ := Machine.mem_trace hfired
  have hvalid := run_valid methods pre
  rw [hfire] at houtput ⊢
  rcases returned_cases hvalid houtput with hown | ⟨w, line, value, hw, hask, hinbox, hparsed, rfl⟩
  · exact .inl hown
  · obtain ⟨host, hanswered⟩ := hvalid.answeredBy hw hinbox hparsed
    exact .inr ⟨w.frame, host, line, value, hask, hanswered⟩

/-- A process is there, and accepts the frame. -/
def served : Attempt := { waitFails := false, spawn := .spawned, accepts := true }

/-- A status is asked for; the process prints a line with its id, which is routed and returned. -/
def printedRun : List Label :=
  [.invoke .statusRoom none served served,
    .prints 0 (.ofJson (CommandHostProcess.answerFrame (.num "1") true (some (.obj [("state", .str "idle")])))), .route 0,
    .receive served]

theorem responses_delivered_printed :
    ∃ fired ∈ Machine.trace (step CommandHostProcess.controllerMethods) .initial printedRun, ∃ response,
      fired.output = .returned .statusRoom (.obj []) response ∧
      (OwnFailure response ∨ ∃ frame host line value,
        (frame.command, frame.request) = (DesktopRuntimeCommand.statusRoom, Json.obj []) ∧
          AnsweredBy fired.before frame response host line value) := by
  have hmem := List.getElem_mem (l := Machine.trace (step CommandHostProcess.controllerMethods) .initial printedRun)
    (show 3 < printedRun.length by decide)
  exact ⟨_, hmem, _, rfl, responses_delivered CommandHostProcess.controllerMethods printedRun _ hmem _ _ _ rfl⟩

theorem accepted_waiting {label : Label} {w : Waiting} (hw : s.waiting = some w) : accepted s label = none := by
  cases label with
  | invoke command request first second =>
    rw [accepted, hw]
    cases sanitizeRequest command request <;> rfl
  | _ => rfl

/-- What waits, and what is accepted, is what is answered and what waits then. -/
theorem Stepped.asks {label : Label} {result : Output × State} (h : Stepped s label result) :
    (s.waiting.map Waiting.ask).toList ++ (accepted s label).toList =
      result.1.answered.toList ++ (result.2.waiting.map Waiting.ask).toList := by
  cases h with
  | quiet valid same waits accepts silent =>
    rw [waits, accepts, silent]
    exact List.append_nil _
  | begun free accepts valid waits adds short =>
    rw [free, accepts, waits]
    rfl
  | refused free accepts own idle same =>
    rw [free, accepts, idle.waiting]
    rfl
  | answered waits inbox parsed idle same =>
    rw [accepted_waiting waits, waits, idle.waiting]
    rfl
  | failed waits own idle same =>
    rw [accepted_waiting waits, waits, idle.waiting]
    rfl
  | again waits inbox parsed fresh stale valid next adds short =>
    rw [accepted_waiting waits, waits, next]
    rfl

/-- The commands are answered in the order in which they were accepted, each of them once, but for the one that still
waits. -/
theorem one_response_each (methods : List String) (labels : List Label) :
    (Machine.trace (step methods) State.initial labels).filterMap (fun fired => accepted fired.before fired.input) =
      (Machine.trace (step methods) State.initial labels).filterMap (fun fired => fired.output.answered) ++
        ((Machine.run (step methods) State.initial labels).waiting.map Waiting.ask).toList := by
  have hall : ∀ (tr : List (Machine.Fired State Label Output)) (s : State) (label : Label),
      (tr.filterMap (fun fired => accepted fired.before fired.input) =
          tr.filterMap (fun fired => fired.output.answered) ++ (s.waiting.map Waiting.ask).toList ∧ Valid s) → True →
        ((tr ++ [Machine.fire (step methods) s label]).filterMap (fun fired => accepted fired.before fired.input) =
          (tr ++ [Machine.fire (step methods) s label]).filterMap (fun fired => fired.output.answered) ++
            ((step methods s label).2.waiting.map Waiting.ask).toList ∧ Valid (step methods s label).2) := by
    rintro tr s label ⟨htrace, hs⟩ -
    have hstepped := step_stepped methods hs label
    refine ⟨?_, hstepped.valid⟩
    rw [List.filterMap_append, List.filterMap_append, htrace, filterMap_singleton, filterMap_singleton,
      List.append_assoc, List.append_assoc]
    exact congrArg (_ ++ ·) hstepped.asks
  exact (Machine.trace_invariant (P := fun _ _ => True) hall ⟨rfl, idle_initial.valid⟩
    (Machine.Along.of_forall (fun _ _ => trivial) _)).1

end EasyMc.Desktop.Broker
