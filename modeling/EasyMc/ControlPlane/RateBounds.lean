import EasyMc.ControlPlane.RateLimits

/-!
# What a rate limit guarantees

The calls that count one key with one limit fall in windows that follow each other (`visits`): of two counts, the
later one has a higher number in the same window, or it falls in a window that starts when the earlier one is over
(`Follows`).  So a window accepts at most `limit` calls, and since at most two windows meet an interval that is as
long as a window, such an interval sees at most twice as many accepted calls.
-/

namespace EasyMc.ControlPlane

/-! ### The windows of one key -/

/-- The times at which a key is counted, each with the window that the count falls in. -/
def visits (windowMs : Int) : Option Window → List Int → List (Int × Window)
  | _, [] => []
  | current, now :: times =>
    (now, Window.next now windowMs current) :: visits windowMs (some (Window.next now windowMs current)) times

/-- The later count has a higher number in the same window, or falls in a window that starts after a reset. -/
def Follows (windowMs : Int) (earlier later : Int × Window) : Prop :=
  later.2.resetAt = earlier.2.resetAt ∧ earlier.2.count < later.2.count ∨
    earlier.2.resetAt ≤ later.1 ∧ earlier.2.resetAt + windowMs ≤ later.2.resetAt

variable {windowMs limit : Int}

theorem follows_next (windowMs now time : Int) (window : Window) :
    Follows windowMs (time, window) (now, Window.next now windowMs (some window)) := by
  rw [Window.next_some]
  by_cases hreset : window.resetAt ≤ now
  · rw [if_pos hreset]
    exact .inr ⟨hreset, by simp only; omega⟩
  · rw [if_neg hreset]
    exact .inl ⟨rfl, by simp only; omega⟩

theorem Follows.trans (hwindow : 0 < windowMs) {a b c : Int × Window} (hab : Follows windowMs a b)
    (hbc : Follows windowMs b c) (htime : b.1 ≤ c.1) : Follows windowMs a c := by
  unfold Follows at *
  omega

theorem time_of_mem_visits {current : Option Window} {times : List Int} {visit : Int × Window}
    (h : visit ∈ visits windowMs current times) : visit.1 ∈ times := by
  induction times generalizing current with
  | nil => cases h
  | cons now times ih =>
    rcases List.mem_cons.1 h with rfl | h
    · exact List.mem_cons_self
    · exact List.mem_cons_of_mem _ (ih h)

theorem visits_follow (hwindow : 0 < windowMs) {times : List Int} {time : Int} {window : Window}
    (hsorted : (time :: times).Pairwise (· ≤ ·)) :
    ∀ visit ∈ visits windowMs (some window) times, Follows windowMs (time, window) visit := by
  induction times generalizing time window with
  | nil => intro visit h; cases h
  | cons now times ih =>
    have hnext := follows_next windowMs now time window
    have htimes := (List.pairwise_cons.1 hsorted).2
    intro visit hvisit
    rcases List.mem_cons.1 hvisit with rfl | hvisit
    · exact hnext
    · have hnow : now ≤ visit.1 := (List.pairwise_cons.1 htimes).1 _ (time_of_mem_visits hvisit)
      exact hnext.trans hwindow (ih htimes visit hvisit) hnow

theorem visits_pairwise (hwindow : 0 < windowMs) (current : Option Window) {times : List Int}
    (hsorted : times.Pairwise (· ≤ ·)) : (visits windowMs current times).Pairwise (Follows windowMs) := by
  induction times generalizing current with
  | nil => exact .nil
  | cons now times ih =>
    exact List.pairwise_cons.2 ⟨visits_follow hwindow hsorted, ih _ (List.pairwise_cons.1 hsorted).2⟩

/-- A count is in an open window, and its number is positive. -/
theorem visits_open (hwindow : 0 < windowMs) {current : Option Window} (hcurrent : ∀ window ∈ current, 0 < window.count)
    {times : List Int} : ∀ visit ∈ visits windowMs current times, 0 < visit.2.count ∧ visit.1 < visit.2.resetAt := by
  induction times generalizing current with
  | nil => intro visit h; cases h
  | cons now times ih =>
    have hopen : 0 < (Window.next now windowMs current).count ∧ now < (Window.next now windowMs current).resetAt := by
      cases current with
      | none =>
        change 0 < (1 : Int) ∧ now < now + windowMs
        omega
      | some window =>
        have hcount := hcurrent window rfl
        rw [Window.next_some]
        by_cases hreset : window.resetAt ≤ now
        · rw [if_pos hreset]
          simp only
          omega
        · rw [if_neg hreset]
          simp only
          omega
    refine List.forall_mem_cons.2 ⟨hopen, ih ?_⟩
    rintro window ⟨⟩
    exact hopen.1

/-! ### How many are accepted -/

/-- Increasing numbers between two bounds are no more than fit between them. -/
theorem length_le_of_increasing {low high : Int} {numbers : List Int} (h : numbers.Pairwise (· < ·))
    (hbounds : ∀ n ∈ numbers, low < n ∧ n ≤ high) : numbers.length ≤ (high - low).toNat := by
  induction numbers generalizing low with
  | nil => simp
  | cons n numbers ih =>
    obtain ⟨hn, hnumbers⟩ := List.pairwise_cons.1 h
    obtain ⟨hlow, hhigh⟩ := hbounds n List.mem_cons_self
    have hrest : numbers.length ≤ (high - n).toNat :=
      ih hnumbers fun m hm => ⟨hn m hm, (hbounds m (List.mem_cons_of_mem n hm)).2⟩
    rw [List.length_cons]
    omega

/-- The accepted counts of one window are at most `limit`. -/
theorem accepted_in_window (hwindow : 0 < windowMs) {counts : List (Int × Window)}
    (hfollow : counts.Pairwise (Follows windowMs))
    (haccepted : ∀ visit ∈ counts, 0 < visit.2.count ∧ visit.2.count ≤ limit) (resetAt : Int)
    (hsame : ∀ visit ∈ counts, visit.2.resetAt = resetAt) : counts.length ≤ limit.toNat := by
  have hnumbers : (counts.map fun visit => visit.2.count).Pairwise (· < ·) := by
    rw [List.pairwise_map]
    refine hfollow.imp_of_mem fun {earlier later} hearlier hlater hfollows => ?_
    have hreset := hsame earlier hearlier
    have hreset' := hsame later hlater
    unfold Follows at hfollows
    omega
  have hbounds : ∀ n ∈ counts.map fun visit => visit.2.count, 0 < n ∧ n ≤ limit := by
    intro n hn
    obtain ⟨visit, hvisit, rfl⟩ := List.mem_map.1 hn
    exact haccepted visit hvisit
  have hlength := length_le_of_increasing hnumbers hbounds
  rwa [List.length_map, sub_zero] at hlength

/-- The accepted counts of an interval that is as long as a window are at most twice `limit`. -/
theorem accepted_in_interval (hwindow : 0 < windowMs) {counts : List (Int × Window)}
    (hfollow : counts.Pairwise (Follows windowMs))
    (haccepted : ∀ visit ∈ counts, 0 < visit.2.count ∧ visit.2.count ≤ limit) (start : Int)
    (htimes : ∀ visit ∈ counts, start ≤ visit.1 ∧ visit.1 ≤ start + windowMs ∧ visit.1 < visit.2.resetAt) :
    counts.length ≤ 2 * limit.toNat := by
  cases counts with
  | nil => simp
  | cons first later =>
    -- The counts in the window of the first one, and the others, which start after it.
    let inFirst : Int × Window → Bool := fun visit => visit.2.resetAt = first.2.resetAt
    have hsplit := List.length_eq_length_filter_add (l := first :: later) inFirst
    have hfirst : ((first :: later).filter inFirst).length ≤ limit.toNat := by
      refine accepted_in_window hwindow (hfollow.filter _) (fun visit hvisit => ?_) first.2.resetAt fun visit hvisit => ?_
      · exact haccepted visit (List.mem_filter.1 hvisit).1
      · exact of_decide_eq_true (List.mem_filter.1 hvisit).2
    have hothers : ((first :: later).filter fun visit => !inFirst visit).length ≤ limit.toNat := by
      generalize hrest : (first :: later).filter (fun visit => !inFirst visit) = others
      cases others with
      | nil => simp
      | cons second others =>
        have hmem : ∀ visit ∈ second :: others, visit ∈ later ∧ visit.2.resetAt ≠ first.2.resetAt := by
          intro visit hvisit
          rw [← hrest, List.mem_filter, List.mem_cons] at hvisit
          obtain ⟨rfl | hlater, hnot⟩ := hvisit
          · simp [inFirst] at hnot
          · exact ⟨hlater, by simpa [inFirst] using hnot⟩
        have hpair : (second :: others).Pairwise (Follows windowMs) := by
          rw [← hrest]
          exact hfollow.filter _
        obtain ⟨hsecond, hnew⟩ := hmem second List.mem_cons_self
        have hstart := (List.pairwise_cons.1 hfollow).1 second hsecond
        have hfirstTimes := htimes first List.mem_cons_self
        refine accepted_in_window hwindow hpair (fun visit hvisit => ?_) second.2.resetAt fun visit hvisit => ?_
        · exact haccepted visit (List.mem_cons_of_mem _ (hmem visit hvisit).1)
        · -- A third window would start after the end of the interval.
          rcases List.mem_cons.1 hvisit with rfl | hother
          · rfl
          · have hfollows := (List.pairwise_cons.1 hpair).1 visit hother
            have htime := htimes visit (List.mem_cons_of_mem _ (hmem visit hvisit).1)
            unfold Follows at hstart hfollows
            omega
    omega

/-! ### What the callers are told -/

/-- What the calls that make `request` are told, each with its time. -/
def told (sha256 : String → String) (request : RateLimitRequest) (store : MemoryStore) (calls : List RateLimitCall) :
    List (Int × RateLimitView) :=
  (Machine.trace (memoryLimiter sha256) store calls).filterMap fun fired =>
    if fired.input.request = request then fired.output.map fun view => (fired.input.now, view) else none

/-- What the caller is told of each count. -/
def answers (request : RateLimitRequest) (counts : List (Int × Window)) : List (Int × RateLimitView) :=
  counts.map fun visit => (visit.1, viewOf request visit.2)

/-- The times at which `request` is made. -/
def timesOf (request : RateLimitRequest) (calls : List RateLimitCall) : List Int :=
  (calls.filter fun call => call.request = request).map RateLimitCall.now

/-- The request is made with one limit and one window: whoever shares its counter makes the same request. -/
def OneLimit (sha256 : String → String) (request : RateLimitRequest) (calls : List RateLimitCall) : Prop :=
  ∀ call ∈ calls, counterId sha256 call.request.scope call.request.signal =
    counterId sha256 request.scope request.signal → call.request = request

variable {sha256 : String → String} {request : RateLimitRequest}

/-- The callers are told the windows that their counts fall in. -/
theorem told_eq_visits (hvalid : request.isValid = true) {store : MemoryStore} (hstore : store.CountersKeyed)
    {calls : List RateLimitCall} (hfixed : OneLimit sha256 request calls) :
    told sha256 request store calls = answers request
      (visits request.windowMs (store.window sha256 request.scope request.signal) (timesOf request calls)) := by
  induction calls generalizing store with
  | nil => rfl
  | cons call calls ih =>
    have hkeyed := memoryLimiter_keyed sha256 hstore call
    obtain ⟨hrefused, hcounted⟩ := memoryLimiter_spec sha256 hstore call
    have hrest := ih hkeyed fun later hlater => hfixed later (List.mem_cons_of_mem call hlater)
    by_cases hsame : call.request = request
    · subst hsame
      obtain ⟨hview, -, hwindow⟩ := hcounted hvalid
      rw [hwindow, if_pos rfl] at hrest
      unfold told answers timesOf at hrest ⊢
      rw [Machine.trace, List.filterMap_cons, List.filter_cons]
      simp only [Machine.fire, hview, Option.map_some, if_true, decide_true, List.map_cons, visits]
      rw [hrest]
    · have hkept : (memoryLimiter sha256 store call).2.window sha256 request.scope request.signal =
          store.window sha256 request.scope request.signal := by
        cases hcall : call.request.isValid with
        | false => rw [hrefused hcall]
        | true =>
          rw [(hcounted hcall).2.2, if_neg]
          exact fun hid => hsame (hfixed call List.mem_cons_self hid)
      rw [hkept] at hrest
      unfold told answers timesOf at hrest ⊢
      rw [Machine.trace, List.filterMap_cons, List.filter_cons]
      simp only [Machine.fire, hsame, if_false, decide_false, Bool.false_eq_true]
      exact hrest

/-- A request whose arguments are refused is told nothing. -/
theorem told_eq_nil (hvalid : request.isValid = false) {store : MemoryStore} (hstore : store.CountersKeyed)
    (calls : List RateLimitCall) : told sha256 request store calls = [] := by
  induction calls generalizing store with
  | nil => rfl
  | cons call calls ih =>
    have hrest := ih (memoryLimiter_keyed sha256 hstore call)
    unfold told at hrest ⊢
    rw [Machine.trace, List.filterMap_cons]
    by_cases hsame : call.request = request
    · have hrefused := (memoryLimiter_spec sha256 hstore call).1 (by rw [hsame]; exact hvalid)
      have houtput : (Machine.fire (memoryLimiter sha256) store call).output = none := congrArg Prod.fst hrefused
      simp only [houtput, Option.map_none, ite_self]
      exact hrest
    · have hinput : (Machine.fire (memoryLimiter sha256) store call).input.request ≠ request := hsame
      simp only [if_neg hinput]
      exact hrest

/-- What is told of a window is that its count is accepted. -/
theorem ok_viewOf (request : RateLimitRequest) (window : Window) :
    (viewOf request window).ok = true ↔ window.count ≤ request.limit :=
  decide_eq_true_iff

/-- The accepted answers that `keep` selects are the answers to counts within the limit. -/
theorem exists_accepted {counts : List (Int × Window)} (hfollow : counts.Pairwise (Follows windowMs))
    (hopen : ∀ visit ∈ counts, 0 < visit.2.count ∧ visit.1 < visit.2.resetAt) (keep : Int × RateLimitView → Bool) :
    ∃ accepted : List (Int × Window), accepted.Pairwise (Follows windowMs) ∧
      ((answers request counts).filter fun answer => answer.2.ok && keep answer).length = accepted.length ∧
      ∀ visit ∈ accepted, (0 < visit.2.count ∧ visit.2.count ≤ request.limit) ∧ visit.1 < visit.2.resetAt ∧
        keep (visit.1, viewOf request visit.2) = true := by
  unfold answers
  rw [List.filter_map, List.length_map]
  refine ⟨_, hfollow.filter _, rfl, fun visit hvisit => ?_⟩
  obtain ⟨hmem, haccepted⟩ := List.mem_filter.1 hvisit
  obtain ⟨hpositive, hbefore⟩ := hopen visit hmem
  obtain ⟨hok, hkeep⟩ := Bool.and_eq_true_iff.1 haccepted
  exact ⟨⟨hpositive, (ok_viewOf request visit.2).1 hok⟩, hbefore, hkeep⟩

/-- Who is refused is refused until the window's reset. -/
theorem refused_until_reset {counts : List (Int × Window)} (hfollow : counts.Pairwise (Follows windowMs)) :
    (answers request counts).Pairwise fun earlier later =>
      earlier.2.ok = false → later.1 < earlier.2.resetAt →
        later.2.ok = false ∧ later.2.resetAt = earlier.2.resetAt := by
  unfold answers
  rw [List.pairwise_map]
  refine hfollow.imp fun {earlier later} hfollows hrefused htime => ?_
  -- Before the reset, the later count is in the same window and higher.
  have hlimit : ¬ earlier.2.count ≤ request.limit := by
    rw [← ok_viewOf, hrefused]
    simp
  have hbefore : later.1 < earlier.2.resetAt := htime
  have hsame : later.2.resetAt = earlier.2.resetAt ∧ earlier.2.count < later.2.count := by
    unfold Follows at hfollows
    omega
  refine ⟨?_, hsame.1⟩
  rw [← Bool.not_eq_true, ok_viewOf]
  omega

/-- With one limit and a clock that does not go back: a window accepts at most `limit` calls, an interval as long as a
window at most twice as many, and whoever is refused is refused until the window's reset. -/
theorem rate_limit_guaranteed (sha256 : String → String) (request : RateLimitRequest) (calls : List RateLimitCall)
    (hfixed : OneLimit sha256 request calls) (hclock : calls.Pairwise fun earlier later => earlier.now ≤ later.now) :
    (∀ resetAt, ((told sha256 request createMemoryControlPlaneStore calls).filter fun answer =>
      answer.2.ok && answer.2.resetAt = resetAt).length ≤ request.limit.toNat) ∧
    (∀ start, ((told sha256 request createMemoryControlPlaneStore calls).filter fun answer =>
      answer.2.ok && (start ≤ answer.1 && answer.1 ≤ start + request.windowMs)).length ≤ 2 * request.limit.toNat) ∧
    (told sha256 request createMemoryControlPlaneStore calls).Pairwise fun earlier later =>
      earlier.2.ok = false → later.1 < earlier.2.resetAt →
        later.2.ok = false ∧ later.2.resetAt = earlier.2.resetAt := by
  have hstore : createMemoryControlPlaneStore.CountersKeyed := by
    intro id counter h
    cases h
  cases hvalid : request.isValid with
  | false =>
    rw [told_eq_nil hvalid hstore]
    simp
  | true =>
    have hwindow : 0 < request.windowMs := by
      simp [RateLimitRequest.isValid] at hvalid
      omega
    have hsorted : (timesOf request calls).Pairwise (· ≤ ·) := by
      unfold timesOf
      rw [List.pairwise_map]
      exact hclock.filter _
    rw [told_eq_visits hvalid hstore hfixed]
    have hfollow := visits_pairwise hwindow (createMemoryControlPlaneStore.window sha256 request.scope request.signal)
      hsorted
    have hopen : ∀ visit ∈ visits request.windowMs
        (createMemoryControlPlaneStore.window sha256 request.scope request.signal) (timesOf request calls),
        0 < visit.2.count ∧ visit.1 < visit.2.resetAt :=
      visits_open hwindow (by rintro window ⟨⟩)
    generalize visits request.windowMs (createMemoryControlPlaneStore.window sha256 request.scope request.signal)
      (timesOf request calls) = counts at hfollow hopen
    refine ⟨fun resetAt => ?_, fun start => ?_, refused_until_reset hfollow⟩
    · obtain ⟨accepted, hpair, hlength, haccepted⟩ :=
        exists_accepted hfollow hopen fun answer : Int × RateLimitView => answer.2.resetAt = resetAt
      refine hlength.trans_le (accepted_in_window hwindow hpair (fun visit hvisit => ?_) resetAt fun visit hvisit => ?_)
      · exact (haccepted visit hvisit).1
      · exact of_decide_eq_true (haccepted visit hvisit).2.2
    · obtain ⟨accepted, hpair, hlength, haccepted⟩ := exists_accepted hfollow hopen
        fun answer : Int × RateLimitView => start ≤ answer.1 && answer.1 ≤ start + request.windowMs
      refine hlength.trans_le (accepted_in_interval hwindow hpair (fun visit hvisit => ?_) start fun visit hvisit => ?_)
      · exact (haccepted visit hvisit).1
      · obtain ⟨-, hbefore, hkept⟩ := haccepted visit hvisit
        simp only [Bool.and_eq_true, decide_eq_true_eq] at hkept
        exact ⟨hkept.1, hkept.2, hbefore⟩

/-- One call in a minute, asked for at the end of a window and at the start of the next one. -/
def joinOnce : RateLimitRequest := ⟨"join", "a", 1, 60⟩

def joinCalls : List RateLimitCall := [⟨0, joinOnce⟩, ⟨59, joinOnce⟩, ⟨60, joinOnce⟩]

theorem rate_limit_guaranteed_join :
    (∀ resetAt, ((told digestOfA joinOnce createMemoryControlPlaneStore joinCalls).filter fun answer =>
      answer.2.ok && answer.2.resetAt = resetAt).length ≤ 1) ∧
    (∀ start, ((told digestOfA joinOnce createMemoryControlPlaneStore joinCalls).filter fun answer =>
      answer.2.ok && (start ≤ answer.1 && answer.1 ≤ start + 60)).length ≤ 2) ∧
    (told digestOfA joinOnce createMemoryControlPlaneStore joinCalls).Pairwise fun earlier later =>
      earlier.2.ok = false → later.1 < earlier.2.resetAt →
        later.2.ok = false ∧ later.2.resetAt = earlier.2.resetAt :=
  rate_limit_guaranteed digestOfA joinOnce joinCalls (by unfold OneLimit joinCalls; simp) (by decide)

end EasyMc.ControlPlane
