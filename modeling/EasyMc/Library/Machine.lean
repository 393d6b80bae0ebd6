import Mathlib.Data.List.Forall2
import Mathlib.Order.Basic

/-!
# Runs of a deterministic machine

A machine is a step function `step : σ → ι → ο × σ`: from a state and an input it gives an output and the next
state.  `run` folds it over a list of inputs and `trace` keeps what happened at each input.

`Along P s is` says that every input of the run meets `P` in the state it fires in.  The rules are the inductions a
development needs: an invariant kept by the steps that meet `P` (`run_invariant`), an invariant that ties the state to
the history (`trace_invariant`), and two runs of which one skips some inputs (`outputs_of_skip`).
-/

namespace Machine

/-- One input of a run: the state it fired in, its output and the state it left. -/
structure Fired (σ ι ο : Type*) where
  before : σ
  input : ι
  output : ο
  after : σ

variable {σ ι ο : Type*} (step : σ → ι → ο × σ)

/-- The state after a list of inputs. -/
def run (s : σ) (is : List ι) : σ := is.foldl (fun s i => (step s i).2) s

/-- What one input does in state `s`. -/
def fire (s : σ) (i : ι) : Fired σ ι ο := ⟨s, i, (step s i).1, (step s i).2⟩

/-- The inputs of a run with what each of them did. -/
def trace : σ → List ι → List (Fired σ ι ο)
  | _, [] => []
  | s, i :: is => fire step s i :: trace (step s i).2 is

/-- Every input of the run meets `P` in the state it fires in. -/
def Along (P : σ → ι → Prop) : σ → List ι → Prop
  | _, [] => True
  | s, i :: is => P s i ∧ Along P (step s i).2 is

variable {step}

@[simp] theorem run_nil (s : σ) : run step s [] = s := rfl

@[simp] theorem run_cons (s : σ) (i : ι) (is : List ι) : run step s (i :: is) = run step (step s i).2 is := rfl

theorem run_append (s : σ) (is js : List ι) : run step s (is ++ js) = run step (run step s is) js :=
  List.foldl_append

theorem along_append {P : σ → ι → Prop} {s : σ} {is js : List ι} :
    Along step P s (is ++ js) ↔ Along step P s is ∧ Along step P (run step s is) js := by
  induction is generalizing s with
  | nil => simp [Along]
  | cons i is ih => simp only [List.cons_append, Along, run_cons, ih, and_assoc]

theorem Along.of_forall {P : ι → Prop} {is : List ι} (h : ∀ i ∈ is, P i) (s : σ) :
    Along step (fun _ i => P i) s is := by
  induction is generalizing s with
  | nil => trivial
  | cons i is ih => exact ⟨h i (by simp), ih (fun j hj => h j (by simp [hj])) _⟩

theorem Along.mono {P Q : σ → ι → Prop} (hPQ : ∀ s i, P s i → Q s i) {s : σ} {is : List ι}
    (h : Along step P s is) : Along step Q s is := by
  induction is generalizing s with
  | nil => trivial
  | cons i is ih => exact ⟨hPQ _ _ h.1, ih h.2⟩

theorem Along.and {P Q : σ → ι → Prop} {s : σ} {is : List ι} (hP : Along step P s is)
    (hQ : Along step Q s is) : Along step (fun s i => P s i ∧ Q s i) s is := by
  induction is generalizing s with
  | nil => trivial
  | cons i is ih => exact ⟨⟨hP.1, hQ.1⟩, ih hP.2 hQ.2⟩

instance decidableAlong {P : σ → ι → Prop} [∀ s i, Decidable (P s i)] :
    (s : σ) → (is : List ι) → Decidable (Along step P s is)
  | _, [] => .isTrue trivial
  | s, i :: is =>
    have : Decidable (Along step P (step s i).2 is) := decidableAlong _ is
    inferInstanceAs (Decidable (P s i ∧ Along step P (step s i).2 is))

/-- An invariant kept by every step that meets `P` holds after every run whose steps meet `P`. -/
theorem run_invariant {I : σ → Prop} {P : σ → ι → Prop} (hstep : ∀ s i, I s → P s i → I (step s i).2)
    {s : σ} {is : List ι} (h0 : I s) (hP : Along step P s is) : I (run step s is) := by
  induction is generalizing s with
  | nil => exact h0
  | cons i is ih => exact ih (hstep s i h0 hP.1) hP.2

/-- An invariant of the state together with its history. -/
theorem trace_invariant {H : List (Fired σ ι ο) → σ → Prop} {P : σ → ι → Prop}
    (hstep : ∀ tr s i, H tr s → P s i → H (tr ++ [fire step s i]) (step s i).2)
    {s : σ} {is : List ι} (h0 : H [] s) (hP : Along step P s is) : H (trace step s is) (run step s is) := by
  suffices ∀ (tr : List (Fired σ ι ο)) (s : σ) (is : List ι), H tr s → Along step P s is →
      H (tr ++ trace step s is) (run step s is) from this [] s is h0 hP
  intro tr s is
  induction is generalizing tr s with
  | nil => intro h _; simpa [trace] using h
  | cons i is ih =>
    intro h hP
    have := ih (tr ++ [fire step s i]) _ (hstep tr s i h hP.1) hP.2
    simpa [trace] using this

/-- The inputs of a trace are those of the run. -/
theorem trace_inputs (s : σ) (is : List ι) : (trace step s is).map Fired.input = is := by
  induction is generalizing s with
  | nil => rfl
  | cons i is ih => rw [trace, List.map_cons, ih]; rfl

theorem along_iff_forall_mem_trace {P : σ → ι → Prop} {s : σ} {is : List ι} :
    Along step P s is ↔ ∀ x ∈ trace step s is, P x.before x.input := by
  induction is generalizing s with
  | nil => simp [Along, trace]
  | cons i is ih =>
    rw [Along, ih, trace, List.forall_mem_cons]
    rfl

/-- A fired input of a trace splits the run around it. -/
theorem mem_trace {s : σ} {is : List ι} {x : Fired σ ι ο} (h : x ∈ trace step s is) :
    ∃ pre post, is = pre ++ x.input :: post ∧ x = fire step (run step s pre) x.input := by
  induction is generalizing s with
  | nil => cases h
  | cons i is ih =>
    rcases List.mem_cons.1 h with rfl | h
    · exact ⟨[], is, rfl, rfl⟩
    · obtain ⟨pre, post, his, hx⟩ := ih h
      exact ⟨i :: pre, post, by rw [his]; rfl, hx⟩

/-- Two machines whose states stay related, with the same outputs, cannot be told apart. -/
theorem outputs_of_simulation {σ' : Type*} {step' : σ' → ι → ο × σ'} {R : σ → σ' → Prop}
    (hstep : ∀ s s' i, R s s' → (step s i).1 = (step' s' i).1 ∧ R (step s i).2 (step' s' i).2)
    {s : σ} {s' : σ'} (h : R s s') (is : List ι) :
    (trace step s is).map Fired.output = (trace step' s' is).map Fired.output := by
  induction is generalizing s s' with
  | nil => rfl
  | cons i is ih =>
    obtain ⟨houtput, hnext⟩ := hstep s s' i h
    rw [trace, trace, List.map_cons, List.map_cons, ih hnext]
    exact congrArg (· :: _) houtput

/-- Two runs whose inputs are related one by one: a relation of the states is kept, and the outputs are related. -/
theorem related_runs {σ' ι' ο' : Type*} {step' : σ' → ι' → ο' × σ'} {R : σ → σ' → Prop} {S : ι → ι' → Prop}
    {T : ο → ο' → Prop}
    (hstep : ∀ s s' i i', R s s' → S i i' → T (step s i).1 (step' s' i').1 ∧ R (step s i).2 (step' s' i').2)
    {s : σ} {s' : σ'} (h : R s s') {is : List ι} {is' : List ι'} (hinputs : List.Forall₂ S is is') :
    List.Forall₂ T ((trace step s is).map Fired.output) ((trace step' s' is').map Fired.output) ∧
      R (run step s is) (run step' s' is') := by
  induction hinputs generalizing s s' with
  | nil => exact ⟨.nil, h⟩
  | cons hinput _ ih =>
    obtain ⟨houtput, hnext⟩ := hstep _ _ _ _ h hinput
    obtain ⟨houtputs, hrun⟩ := ih hnext
    exact ⟨.cons houtput houtputs, hrun⟩

/-! ### Runs with a clock -/

section Clocked

variable {τ : Type*} [Preorder τ] {time : ι → τ} {skip : ι → Bool} {R : τ → σ → σ → Prop}

/-- The first of a list of inputs is not later than any of them. -/
theorem clocked_cons {i : ι} {is : List ι} (hclock : ((i :: is).map time).Pairwise (· ≤ ·)) :
    (time i :: (i :: is).map time).Pairwise (· ≤ ·) := by
  refine List.pairwise_cons.2 ⟨?_, hclock⟩
  intro t ht
  rcases List.mem_cons.1 ht with rfl | ht
  · exact le_rfl
  · exact (List.pairwise_cons.1 hclock).1 t ht

/-- Inputs that are skipped in one of two runs are not seen in the outputs of the others, if they keep a relation
between the states of the two runs under which the other inputs have the same outputs. -/
theorem outputs_of_skip
    (hskip : ∀ t s s' i, R t s s' → t ≤ time i → skip i = true → R (time i) (step s i).2 s')
    (hstep : ∀ t s s' i, R t s s' → t ≤ time i → skip i = false →
      (step s i).1 = (step s' i).1 ∧ R (time i) (step s i).2 (step s' i).2)
    {t : τ} {s s' : σ} {is : List ι} (h : R t s s') (hclock : (t :: is.map time).Pairwise (· ≤ ·)) :
    ((trace step s is).filter fun x => !skip x.input).map Fired.output =
      (trace step s' (is.filter fun i => !skip i)).map Fired.output := by
  induction is generalizing t s s' with
  | nil => rfl
  | cons i is ih =>
    obtain ⟨hfirst, hrest⟩ := List.pairwise_cons.1 hclock
    have hnow : t ≤ time i := hfirst _ (by simp)
    cases hi : skip i with
    | true =>
      have htrace : ((trace step s (i :: is)).filter fun x => !skip x.input) =
          (trace step (step s i).2 is).filter fun x => !skip x.input :=
        List.filter_cons_of_neg (by simp [fire, hi])
      have hinputs : ((i :: is).filter fun i => !skip i) = is.filter fun i => !skip i :=
        List.filter_cons_of_neg (by simp [hi])
      rw [htrace, hinputs]
      exact ih (hskip t s s' i h hnow hi) hrest
    | false =>
      have htrace : ((trace step s (i :: is)).filter fun x => !skip x.input) =
          fire step s i :: (trace step (step s i).2 is).filter fun x => !skip x.input :=
        List.filter_cons_of_pos (by simp [fire, hi])
      have hinputs : ((i :: is).filter fun i => !skip i) = i :: is.filter fun i => !skip i :=
        List.filter_cons_of_pos (by simp [hi])
      obtain ⟨houtput, hnext⟩ := hstep t s s' i h hnow hi
      rw [htrace, hinputs, trace, List.map_cons, List.map_cons, ih hnext hrest]
      exact congrArg (· :: _) houtput

end Clocked

end Machine
