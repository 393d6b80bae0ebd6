import Mathlib.Data.List.Forall2

/-!
# Computations that may throw

A call that may throw a `TypeError` is an `Except JsError`.  What a call that returns has done is read off by one rule
for each way of putting calls together: one after the other (`bind_eq_ok`, `Ends.bind`), over a list (`mapM_eq_ok`,
`filterThrows_eq_ok`), and in a loop, where an invariant of the passes done so far holds at the end
(`foldlM_invariant`).
-/

namespace Throwing

inductive JsError
  | typeError
  deriving DecidableEq

variable {ε α β : Type}

theorem bind_eq_ok {x : Except ε α} {f : α → Except ε β} {b : β} :
    (x >>= f) = .ok b ↔ ∃ a, x = .ok a ∧ f a = .ok b := by
  cases x with
  | error e => simp [bind, Except.bind]
  | ok a => simp [bind, Except.bind]

theorem map_eq_ok {x : Except ε α} {f : α → β} {b : β} : x.map f = .ok b ↔ ∃ a, x = .ok a ∧ f a = b := by
  cases x with
  | error e => simp [Except.map]
  | ok a => simp [Except.map]

theorem mapError_eq_ok {ε' : Type} {f : ε → ε'} {x : Except ε α} {a : α} : x.mapError f = .ok a ↔ x = .ok a := by
  cases x with
  | error e => simp [Except.mapError]
  | ok a' => simp [Except.mapError]

@[simp] theorem ok_bind (a : α) (f : α → Except ε β) : (Except.ok a >>= f) = f a := rfl

@[simp] theorem error_bind (e : ε) (f : α → Except ε β) : (Except.error e >>= f) = .error e := rfl

/-- The Boolean a call returns; `false` if it throws. -/
def answersTrue : Except ε Bool → Bool
  | .ok value => value
  | .error _ => false

/-- A call that returns something with a property that can be tested. -/
theorem exists_ok_of_test {x : Except ε α} {p : α → Prop} [∀ a, Decidable (p a)]
    (h : answersTrue (x.map fun a => decide (p a)) = true) : ∃ a, x = .ok a ∧ p a := by
  cases x with
  | error e => cases h
  | ok a => exact ⟨a, rfl, of_decide_eq_true h⟩

/-- The call returns. -/
def Returns (x : Except ε α) : Prop := ∃ a, x = .ok a

instance (x : Except ε α) : Decidable (Returns x) :=
  match x with
  | .ok a => .isTrue ⟨a, rfl⟩
  | .error e => .isFalse (by rintro ⟨a, ha⟩; cases ha)

@[simp] theorem returns_ok (a : α) : Returns (.ok a : Except ε α) := ⟨a, rfl⟩

@[simp] theorem not_returns_error (e : ε) : ¬ Returns (.error e : Except ε α) := by
  rintro ⟨a, ha⟩
  cases ha

theorem returns_bind_iff {x : Except ε α} {f : α → Except ε β} :
    Returns (x >>= f) ↔ ∃ a, x = .ok a ∧ Returns (f a) := by
  constructor
  · rintro ⟨b, hb⟩
    obtain ⟨a, ha, hf⟩ := bind_eq_ok.1 hb
    exact ⟨a, ha, b, hf⟩
  · rintro ⟨a, ha, b, hf⟩
    exact ⟨b, bind_eq_ok.2 ⟨a, ha, hf⟩⟩

@[simp] theorem returns_bind_ok {x : Except ε α} {f : α → β} : Returns (x >>= fun a => .ok (f a)) ↔ Returns x := by
  rw [returns_bind_iff]
  simp [Returns]

/-- Two calls, the second of which does not depend on the first. -/
theorem returns_bind_bind {γ : Type} {x : Except ε α} {y : Except ε β} {f : α → β → γ} :
    Returns (x >>= fun a => y >>= fun b => .ok (f a b)) ↔ Returns x ∧ Returns y := by
  rw [returns_bind_iff]
  simp only [returns_bind_ok]
  exact exists_and_right

/-- Three calls that do not depend on each other. -/
theorem returns_bind_bind_bind {γ δ : Type} {x : Except ε α} {y : Except ε β} {z : Except ε γ} {f : α → β → γ → δ} :
    Returns (x >>= fun a => y >>= fun b => z >>= fun c => .ok (f a b c)) ↔ Returns x ∧ Returns y ∧ Returns z := by
  rw [returns_bind_iff]
  simp only [returns_bind_bind]
  exact exists_and_right

/-- The call returns something with `P` or throws an error with `E`. -/
structure Ends (P : α → Prop) (E : ε → Prop) (x : Except ε α) : Prop where
  ok : ∀ {a}, x = .ok a → P a
  error : ∀ {e}, x = .error e → E e

theorem ends_ok {P : α → Prop} {E : ε → Prop} {a : α} (h : P a) : Ends P E (.ok a) where
  ok heq := Except.ok.inj heq ▸ h
  error heq := by cases heq

theorem ends_error {P : α → Prop} {E : ε → Prop} {e : ε} (h : E e) : Ends P E (.error e) where
  ok heq := by cases heq
  error heq := Except.error.inj heq ▸ h

theorem Ends.bind {P : α → Prop} {Q : β → Prop} {E : ε → Prop} {x : Except ε α} {f : α → Except ε β} (hx : Ends P E x)
    (hf : ∀ a, P a → Ends Q E (f a)) : Ends Q E (x >>= f) := by
  cases x with
  | error e => exact ends_error (hx.error rfl)
  | ok a => exact hf a (hx.ok rfl)

/-- `values.filter(test)`, where the test may throw. -/
def filterThrows (test : α → Except ε Bool) : List α → Except ε (List α)
  | [] => .ok []
  | value :: values => do
    let keep ← test value
    let rest ← filterThrows test values
    .ok (if keep then value :: rest else rest)

theorem filterThrows_eq_ok {test : α → Except ε Bool} {values kept : List α} :
    filterThrows test values = .ok kept ↔
      (∀ value ∈ values, Returns (test value)) ∧ kept = values.filter fun value => answersTrue (test value) := by
  induction values generalizing kept with
  | nil => simp [filterThrows, eq_comm]
  | cons value values ih =>
    rw [filterThrows, List.forall_mem_cons, List.filter_cons]
    cases htest : test value with
    | error e => simp
    | ok keep =>
      simp only [ok_bind, bind_eq_ok, ih, returns_ok, true_and, answersTrue]
      constructor
      · rintro ⟨rest, ⟨hreturns, rfl⟩, hkept⟩
        exact ⟨hreturns, (Except.ok.inj hkept).symm⟩
      · rintro ⟨hreturns, rfl⟩
        exact ⟨_, ⟨hreturns, rfl⟩, rfl⟩

theorem mapM_eq_ok {f : α → Except ε β} {values : List α} {results : List β} :
    values.mapM f = .ok results ↔ List.Forall₂ (fun value result => f value = .ok result) values results := by
  induction values generalizing results with
  | nil => cases results <;> simp [pure, Except.pure]
  | cons value values ih =>
    rw [List.mapM_cons, bind_eq_ok]
    constructor
    · rintro ⟨result, hvalue, hrest⟩
      obtain ⟨rest, hvalues, hresults⟩ := bind_eq_ok.1 hrest
      cases hresults
      exact .cons hvalue (ih.1 hvalues)
    · intro hall
      cases hall with
      | cons hvalue hrest =>
        refine ⟨_, hvalue, bind_eq_ok.2 ⟨_, ih.2 hrest, rfl⟩⟩

theorem exists_of_mapM_eq_ok {f : α → Except ε β} {values : List α} {results : List β} {value : α}
    (h : values.mapM f = .ok results) (hvalue : value ∈ values) : ∃ result ∈ results, f value = .ok result := by
  have hall := mapM_eq_ok.1 h
  clear h
  induction hall with
  | nil => cases hvalue
  | cons hfirst _ ih =>
    rcases List.mem_cons.1 hvalue with rfl | hvalue
    · exact ⟨_, List.mem_cons_self, hfirst⟩
    · obtain ⟨result, hresult, hf⟩ := ih hvalue
      exact ⟨result, List.mem_cons_of_mem _ hresult, hf⟩

theorem exists_of_mem_mapM {f : α → Except ε β} {values : List α} {results : List β} {result : β}
    (h : values.mapM f = .ok results) (hresult : result ∈ results) : ∃ value ∈ values, f value = .ok result := by
  have hall := mapM_eq_ok.1 h
  clear h
  induction hall with
  | nil => cases hresult
  | cons hfirst _ ih =>
    rcases List.mem_cons.1 hresult with rfl | hresult
    · exact ⟨_, List.mem_cons_self, hfirst⟩
    · obtain ⟨value, hvalue, hf⟩ := ih hresult
      exact ⟨value, List.mem_cons_of_mem _ hvalue, hf⟩

theorem returns_mapM_iff {f : α → Except ε β} {values : List α} :
    Returns (values.mapM f) ↔ ∀ value ∈ values, Returns (f value) := by
  constructor
  · rintro ⟨results, hresults⟩ value hvalue
    obtain ⟨result, -, hresult⟩ := exists_of_mapM_eq_ok hresults hvalue
    exact ⟨result, hresult⟩
  · intro h
    induction values with
    | nil => exact ⟨[], rfl⟩
    | cons value values ih =>
      rw [List.forall_mem_cons] at h
      obtain ⟨result, hresult⟩ := h.1
      obtain ⟨results, hresults⟩ := ih h.2
      exact ⟨result :: results, mapM_eq_ok.2 (.cons hresult (mapM_eq_ok.1 hresults))⟩

/-- All calls return something with a property. -/
theorem mapM_forall_iff {f : α → Except ε β} {P : β → Prop} {values : List α} :
    (∃ results, values.mapM f = .ok results ∧ ∀ result ∈ results, P result) ↔
      ∀ value ∈ values, ∃ result, f value = .ok result ∧ P result := by
  constructor
  · rintro ⟨results, hresults, hall⟩ value hvalue
    obtain ⟨result, hmem, hresult⟩ := exists_of_mapM_eq_ok hresults hvalue
    exact ⟨result, hresult, hall result hmem⟩
  · intro hall
    have hreturns : ∀ value ∈ values, Returns (f value) := by
      intro value hvalue
      obtain ⟨result, hresult, -⟩ := hall value hvalue
      exact ⟨result, hresult⟩
    obtain ⟨results, hresults⟩ := returns_mapM_iff.2 hreturns
    refine ⟨results, hresults, fun result hmem => ?_⟩
    obtain ⟨value, hvalue, hresult⟩ := exists_of_mem_mapM hresults hmem
    obtain ⟨result', hresult', hP⟩ := hall value hvalue
    have heq : result = result' := Except.ok.inj (hresult.symm.trans hresult')
    exact heq ▸ hP

/-- What each of the values gives when none of the calls throws. -/
theorem mapM_ok_of_forall {f : α → Except ε β} {g : α → β} {values : List α}
    (h : ∀ value ∈ values, f value = .ok (g value)) : values.mapM f = .ok (values.map g) := by
  rw [mapM_eq_ok]
  induction values with
  | nil => exact .nil
  | cons value values ih => exact .cons (h value (by simp)) (ih fun v hv => h v (by simp [hv]))

/-- A loop in a loop is a loop over the pairs. -/
theorem foldlM_nested {γ : Type} (f : β → α → γ → Except ε β) (g : α → List γ) (values : List α) (state : β) :
    values.foldlM (fun state value => (g value).foldlM (fun state item => f state value item) state) state =
      (values.flatMap fun value => (g value).map fun item => (value, item)).foldlM
        (fun state pair => f state pair.1 pair.2) state := by
  induction values generalizing state with
  | nil => rfl
  | cons value values ih =>
    rw [List.foldlM_cons, List.flatMap_cons, List.foldlM_append, List.foldlM_map]
    exact congrArg _ (funext fun state => ih state)

/-- A loop: `I` ties the state to the passes that are done. -/
theorem foldlM_invariant {f : β → α → Except ε β} (I : List α → β → Prop)
    (hstep : ∀ done value state state', I done state → f state value = .ok state' → I (done ++ [value]) state')
    {values : List α} {state state' : β} (h0 : I [] state) (h : values.foldlM f state = .ok state') :
    I values state' := by
  suffices ∀ (done values : List α) (state : β), I done state → values.foldlM f state = .ok state' →
      I (done ++ values) state' from this [] values state h0 h
  intro done values
  induction values generalizing done with
  | nil =>
    intro state hI h
    cases h
    simpa using hI
  | cons value values ih =>
    intro state hI h
    rw [List.foldlM_cons, bind_eq_ok] at h
    obtain ⟨next, hnext, hrest⟩ := h
    have hall := ih (done ++ [value]) next (hstep done value state next hI hnext) hrest
    simpa using hall

/-- A loop whose passes return in any state. -/
theorem returns_foldlM {f : β → α → Except ε β} {values : List α} {state : β}
    (h : ∀ value ∈ values, ∀ state, Returns (f state value)) : Returns (values.foldlM f state) := by
  induction values generalizing state with
  | nil => exact ⟨state, rfl⟩
  | cons value values ih =>
    rw [List.forall_mem_cons] at h
    rw [List.foldlM_cons, returns_bind_iff]
    obtain ⟨next, hnext⟩ := h.1 state
    exact ⟨next, hnext, ih h.2⟩

/-- Two loops that do the same in every state with `I`. -/
theorem foldlM_congr {f g : β → α → Except ε β} (I : β → Prop)
    (hstep : ∀ state state' value, I state → f state value = .ok state' → I state') {values : List α} {state : β}
    (h0 : I state) (hfg : ∀ state, I state → ∀ value ∈ values, f state value = g state value) :
    values.foldlM f state = values.foldlM g state := by
  induction values generalizing state with
  | nil => rfl
  | cons value values ih =>
    rw [List.foldlM_cons, List.foldlM_cons, ← hfg state h0 value List.mem_cons_self]
    cases hnext : f state value with
    | error e => rfl
    | ok next =>
      exact ih (hstep state next value h0 hnext) fun state hI v hv => hfg state hI v (List.mem_cons_of_mem _ hv)

/-- A loop that returns whenever another one does, as long as their states are related. -/
theorem foldlM_simulation {γ : Type} {f : β → α → Except ε β} {g : γ → α → Except ε γ} (R : β → γ → Prop)
    {values : List α} (hstep : ∀ value ∈ values, ∀ state other other', R state other → g other value = .ok other' →
      ∃ state', f state value = .ok state' ∧ R state' other')
    {state : β} {other other' : γ} (h0 : R state other) (h : values.foldlM g other = .ok other') :
    ∃ state', values.foldlM f state = .ok state' ∧ R state' other' := by
  induction values generalizing state other with
  | nil =>
    cases h
    exact ⟨state, rfl, h0⟩
  | cons value values ih =>
    rw [List.foldlM_cons, bind_eq_ok] at h
    obtain ⟨next, hnext, hrest⟩ := h
    obtain ⟨state', hstate', hR⟩ := hstep value List.mem_cons_self state other next h0 hnext
    obtain ⟨final, hfinal, hR⟩ := ih (fun v hv => hstep v (List.mem_cons_of_mem _ hv)) hR hrest
    refine ⟨final, ?_, hR⟩
    rw [List.foldlM_cons, hstate']
    exact hfinal

end Throwing
