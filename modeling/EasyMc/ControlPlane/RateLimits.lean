import EasyMc.ControlPlane.PostgresRepository

/-!
# Two rate limiters

The memory store counts in a map whose keys are texts, the Postgres repository with one upsert on a table whose keys
are pairs.  Both count in the same windows (`Window.next`), so a caller cannot tell them apart
(`rate_limiters_agree`).
-/

namespace EasyMc.ControlPlane

/-- A call that counts, at the time the clock shows. -/
structure RateLimitCall where
  now : Int
  request : RateLimitRequest
  deriving DecidableEq, Repr

/-- What a caller goes by. -/
structure RateLimitView where
  ok : Bool
  count : Int
  remaining : Int
  resetAt : Int
  deriving DecidableEq, Repr

def RateLimitResult.view (result : RateLimitResult) : RateLimitView :=
  ⟨result.outcome.isOk, result.count, result.remaining, result.resetAt⟩

def RateLimitAnswer.view (answer : RateLimitAnswer) : RateLimitView :=
  ⟨answer.outcome.isOk, answer.count, answer.remaining, answer.resetAt⟩

/-- The memory store as a rate limiter, which answers nothing where it throws. -/
def memoryLimiter (sha256 : String → String) (store : MemoryStore) (call : RateLimitCall) :
    Option RateLimitView × MemoryStore :=
  let (result, store) := store.incrementRateLimitCounter sha256 call.now call.request
  (result.toOption.map RateLimitResult.view, store)

/-- The repository as a rate limiter, whose columns hold every integer. -/
def postgresLimiter (sha256 : String → String) (db : Database) (call : RateLimitCall) :
    Option RateLimitView × Database :=
  let (result, db) := db.incrementRateLimitCounter unboundedColumns sha256 call.now call.request
  (result.toOption.map RateLimitAnswer.view, db)

variable {sha256 : String → String} {store : MemoryStore} {db : Database}

/-! ### The memory store -/

def RateLimitCounter.window (counter : RateLimitCounter) : Window := ⟨counter.count, counter.resetAt⟩

/-- The window that the memory store keeps for a scope and a signal. -/
def MemoryStore.window (sha256 : String → String) (store : MemoryStore) (scope signal : String) : Option Window :=
  (store.rateLimits.get (counterId sha256 scope signal)).map RateLimitCounter.window

/-- Counters are stored under their ids. -/
def MemoryStore.CountersKeyed (store : MemoryStore) : Prop :=
  ∀ id counter, store.rateLimits.get id = some counter → counter.id = id

/-- What a request is told, as its caller sees it. -/
def viewOf (request : RateLimitRequest) (window : Window) : RateLimitView :=
  ⟨decide (window.count ≤ request.limit), window.count, max (request.limit - window.count) 0, window.resetAt⟩

theorem isOk_outcome (count limit : Int) :
    (if count > limit then failWith .rateLimited else .ok () : Reply Unit).isOk = decide (count ≤ limit) := by
  by_cases h : count > limit
  · have hle : ¬ count ≤ limit := by omega
    rw [if_pos h, decide_eq_false hle]
    rfl
  · have hle : count ≤ limit := by omega
    rw [if_neg h, decide_eq_true hle]
    rfl

theorem isValid_eq_false {request : RateLimitRequest} : request.isValid = false ↔
    (request.scope == "" || request.signal == "" || request.limit < 1 || request.windowMs < 1) = true := by
  unfold RateLimitRequest.isValid
  exact iff_of_eq (Bool.not_eq_false' _)

/-- The counter of a request is its own, and one more makes the next window. -/
theorem currentCounter_spec (sha256 : String → String) (hstore : store.CountersKeyed) (now : Int) (request : RateLimitRequest) :
    (store.currentCounter sha256 now request).id = counterId sha256 request.scope request.signal ∧
      (⟨(store.currentCounter sha256 now request).count + 1, (store.currentCounter sha256 now request).resetAt⟩ :
        Window) = Window.next now request.windowMs (store.window sha256 request.scope request.signal) := by
  have hid : request.scope ++ ":" ++ hashSensitiveValue sha256 (some request.signal) =
      counterId sha256 request.scope request.signal := rfl
  unfold MemoryStore.currentCounter MemoryStore.window
  dsimp only
  rw [hid]
  cases hget : store.rateLimits.get (counterId sha256 request.scope request.signal) with
  | none => exact ⟨rfl, rfl⟩
  | some counter =>
    dsimp only [Option.map_some]
    rw [Window.next_some]
    unfold RateLimitCounter.window
    by_cases hreset : counter.resetAt ≤ now
    · rw [if_pos hreset, if_pos hreset]
      exact ⟨rfl, rfl⟩
    · rw [if_neg hreset, if_neg hreset]
      exact ⟨hstore _ _ hget, rfl⟩

/-- One call of the memory store refuses its arguments, or counts one more in the window of its scope and signal. -/
theorem memoryLimiter_spec (sha256 : String → String) (hstore : store.CountersKeyed) (call : RateLimitCall) :
    (call.request.isValid = false → memoryLimiter sha256 store call = (none, store)) ∧
      (call.request.isValid = true →
        let next := Window.next call.now call.request.windowMs
          (store.window sha256 call.request.scope call.request.signal)
        (memoryLimiter sha256 store call).1 = some (viewOf call.request next) ∧
          (memoryLimiter sha256 store call).2.CountersKeyed ∧
            ∀ scope signal, (memoryLimiter sha256 store call).2.window sha256 scope signal =
              if counterId sha256 call.request.scope call.request.signal = counterId sha256 scope signal then some next
              else store.window sha256 scope signal) := by
  obtain ⟨now, request⟩ := call
  obtain ⟨hid, hnext⟩ := currentCounter_spec sha256 hstore now request
  unfold memoryLimiter MemoryStore.incrementRateLimitCounter
  constructor
  · intro hvalid
    rw [if_pos (isValid_eq_false.1 hvalid)]
    rfl
  · intro hvalid
    have hvalid : ¬ request.isValid = false := by simp [hvalid]
    rw [if_neg (fun hrefused => hvalid (isValid_eq_false.2 hrefused))]
    dsimp only
    generalize store.currentCounter sha256 now request = current at hid hnext ⊢
    rw [← hnext]
    refine ⟨?_, ?_, ?_⟩
    · have hok := isOk_outcome ((current.count + 1 : Nat) : Int) request.limit
      unfold RateLimitResult.view viewOf
      dsimp only [Except.toOption, Option.map_some]
      rw [hok]
      rfl
    · intro id counter hget
      dsimp only at hget
      rcases JsMap.get_set_cases hget with ⟨rfl, rfl⟩ | ⟨-, hold⟩
      · rfl
      · exact hstore _ _ hold
    · intro scope signal
      unfold MemoryStore.window
      dsimp only
      rw [JsMap.get_set, hid]
      split
      · simp [RateLimitCounter.window]
      · rfl

/-! ### Both -/

/-- The same windows are kept for every scope and signal. -/
structure SameWindows (sha256 : String → String) (store : MemoryStore) (db : Database) : Prop where
  store_keyed : store.CountersKeyed
  db_keyed : CountersKeyed sha256 db
  windows : ∀ scope signal, store.window sha256 scope signal =
    (db.windows (scope, hashSensitiveValue sha256 (some signal))).head?

theorem SameWindows.start (sha256 : String → String) (hempty : db.rateLimitCounters = []) :
    SameWindows sha256 createMemoryControlPlaneStore db := by
  have hnone : ∀ scopeSignal, db.windows scopeSignal = [] := by
    intro scopeSignal
    unfold Database.windows
    rw [hempty]
    rfl
  refine ⟨fun _ _ h => (by cases h), ⟨?_, ?_, ?_⟩, ?_⟩
  · rw [Relational.UniqueOn, hempty]
    exact List.nodup_nil
  · rw [Relational.UniqueOn, hempty]
    exact List.nodup_nil
  · intro row hrow
    rw [hempty] at hrow
    cases hrow
  · intro scope signal
    rw [hnone]
    rfl

/-- One call is answered alike, and leaves the same windows. -/
theorem SameWindows.step_of_readableIds (hreadable : ReadableIds sha256) (h : SameWindows sha256 store db)
    (call : RateLimitCall) :
    (memoryLimiter sha256 store call).1 = (postgresLimiter sha256 db call).1 ∧
      SameWindows sha256 (memoryLimiter sha256 store call).2 (postgresLimiter sha256 db call).2 := by
  obtain ⟨hrefused, hcounted⟩ := memoryLimiter_spec sha256 h.store_keyed call
  have hcounts := counts_of_readableIds unboundedColumns hreadable h.db_keyed call.now
    call.request
  obtain ⟨now, request⟩ := call
  unfold postgresLimiter
  dsimp only at hcounts hrefused hcounted ⊢
  generalize hreply : db.incrementRateLimitCounter unboundedColumns sha256 now request = reply at hcounts ⊢
  cases hcounts with
  | refused hvalid =>
    rw [hrefused hvalid]
    exact ⟨rfl, h⟩
  | unfit hvalid hrange => cases hrange
  | counted hvalid hrange rows hrows hkeyed =>
    obtain ⟨hview, hstore, hwindows⟩ := hcounted hvalid
    rw [h.windows] at hview hwindows
    refine ⟨?_, hstore, hkeyed, ?_⟩
    · rw [hview]
      unfold RateLimitAnswer.view viewOf answerOf
      dsimp only [Except.toOption, Option.map_some]
      rw [isOk_outcome]
      rfl
    · intro scope signal
      rw [hwindows, hrows]
      -- The map's key is a text, but scopes and signals can be read off from it.
      have hkeys : counterId sha256 request.scope request.signal = counterId sha256 scope signal ↔
          request.scopeSignal sha256 = (scope, hashSensitiveValue sha256 (some signal)) := by
        constructor
        · intro hid
          obtain ⟨hscope, hhash⟩ := hreadable _ _ _ _ hid
          exact Prod.ext hscope hhash
        · intro hkey
          obtain ⟨hscope, hhash⟩ := Prod.mk.inj hkey
          unfold counterId
          rw [hscope, hhash]
      by_cases hid : counterId sha256 request.scope request.signal = counterId sha256 scope signal
      · rw [if_pos hid, if_pos (hkeys.1 hid)]
        rfl
      · rw [if_neg hid, if_neg (fun hkey => hid (hkeys.2 hkey))]
        exact h.windows scope signal

theorem SameWindows.step (hdigest : ∀ text, (sha256 text).length = 64) (h : SameWindows sha256 store db)
    (call : RateLimitCall) :
    (memoryLimiter sha256 store call).1 = (postgresLimiter sha256 db call).1 ∧
      SameWindows sha256 (memoryLimiter sha256 store call).2 (postgresLimiter sha256 db call).2 :=
  h.step_of_readableIds (fun _ _ _ _ => counterId_inj hdigest) call

theorem memoryLimiter_keyed (sha256 : String → String) (hstore : store.CountersKeyed) (call : RateLimitCall) :
    (memoryLimiter sha256 store call).2.CountersKeyed := by
  obtain ⟨hrefused, hcounted⟩ := memoryLimiter_spec sha256 hstore call
  cases hvalid : call.request.isValid with
  | false =>
    rw [hrefused hvalid]
    exact hstore
  | true => exact (hcounted hvalid).2.1

theorem memoryLimiter_run_keyed (sha256 : String → String) (calls : List RateLimitCall) :
    (Machine.run (memoryLimiter sha256) createMemoryControlPlaneStore calls).CountersKeyed := by
  have hstart : createMemoryControlPlaneStore.CountersKeyed := by
    intro id counter h
    cases h
  have hstep : ∀ (store : MemoryStore) (call : RateLimitCall), store.CountersKeyed → True →
      (memoryLimiter sha256 store call).2.CountersKeyed :=
    fun _ call h _ => memoryLimiter_keyed sha256 h call
  exact Machine.run_invariant hstep hstart (Machine.Along.of_forall (fun _ _ => trivial) _)

/-- Whatever is counted, and whenever, the two stores give the same answers, and they answer every call whose
arguments are not refused. -/
theorem rate_limiters_agree (hdigest : ∀ text, (sha256 text).length = 64) (db : Database)
    (hempty : db.rateLimitCounters = []) (calls : List RateLimitCall) :
    (Machine.trace (memoryLimiter sha256) createMemoryControlPlaneStore calls).map Machine.Fired.output =
        (Machine.trace (postgresLimiter sha256) db calls).map Machine.Fired.output ∧
      ∀ fired ∈ Machine.trace (memoryLimiter sha256) createMemoryControlPlaneStore calls,
        fired.input.request.isValid = true → fired.output.isSome = true := by
  constructor
  · have hstep : ∀ store db call, SameWindows sha256 store db →
        (memoryLimiter sha256 store call).1 = (postgresLimiter sha256 db call).1 ∧
          SameWindows sha256 (memoryLimiter sha256 store call).2 (postgresLimiter sha256 db call).2 :=
      fun _ _ call h => h.step hdigest call
    exact Machine.outputs_of_simulation hstep (SameWindows.start sha256 hempty) calls
  · intro fired hfired hvalid
    obtain ⟨earlier, later, -, hfire⟩ := Machine.mem_trace hfired
    have hkeyed := memoryLimiter_run_keyed sha256 earlier
    have hview := ((memoryLimiter_spec sha256 hkeyed fired.input).2 hvalid).1
    rw [hfire]
    exact Option.isSome_of_eq_some hview

/-- A limit that is passed, then a window that ends and a limit and a window that change. -/
theorem rate_limiters_agree_window :
    (Machine.trace (postgresLimiter digestOfA) ⟨[], [], [], [], [], []⟩
        [⟨0, ⟨"join", "a", 1, 10⟩⟩, ⟨5, ⟨"join", "a", 1, 20⟩⟩, ⟨10, ⟨"join", "a", 2, 20⟩⟩]).map
          Machine.Fired.output =
      [some ⟨true, 1, 0, 10⟩, some ⟨false, 2, 0, 10⟩, some ⟨true, 1, 1, 30⟩] := by
  have hagree := (rate_limiters_agree length_digestOfA ⟨[], [], [], [], [], []⟩ rfl
    [⟨0, ⟨"join", "a", 1, 10⟩⟩, ⟨5, ⟨"join", "a", 1, 20⟩⟩, ⟨10, ⟨"join", "a", 2, 20⟩⟩]).1
  rw [← hagree]
  decide

end EasyMc.ControlPlane
