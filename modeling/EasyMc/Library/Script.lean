import Mathlib.Tactic.SplitIfs
import EasyMc.Library.Machine

/-!
# Scripts

A script is an asynchronous function whose calls are awaited one after the other: it has variables that outlive the
call, throws and catches errors, and asks its environment for the answers of its calls.  An assignment made before an
error is thrown stays.

An environment answers every call and changes its own state; the calls are recorded with their answers.  `Ends` is
what is known when a script has ended, for the runs whose answers meet an assumption; its rules follow the script, and
`run_invariant` carries an invariant through a session of scripts that share their variables.

Where every call has its answer, whenever it is made, a script has one result (`evaluate`), which every environment that
answers so comes to (`perform_evaluate`).
-/

/-- What is left to do: nothing, or a call and what follows its answer. -/
inductive Dialogue (Op : Type) (Ans : Op → Type) (ρ : Type) : Type
  | ended (result : ρ)
  | asks (op : Op) (k : Ans op → Dialogue Op Ans ρ)

namespace Dialogue

variable {Op : Type} {Ans : Op → Type} {ρ ρ' : Type}

def bind : Dialogue Op Ans ρ → (ρ → Dialogue Op Ans ρ') → Dialogue Op Ans ρ'
  | .ended result, f => f result
  | .asks op k, f => .asks op fun answer => (k answer).bind f

instance : Monad (Dialogue Op Ans) where
  pure := .ended
  bind := bind

end Dialogue

/-- A script with variables `V`, errors `ε` and results `α`. -/
abbrev Script (Op : Type) (Ans : Op → Type) (V ε α : Type) : Type := ExceptT ε (StateT V (Dialogue Op Ans)) α

namespace Script

variable {Op : Type} {Ans : Op → Type} {V ε α β ρ ρ' σ ι : Type}

/-- Ask the environment. -/
def ask (op : Op) : Script Op Ans V ε (Ans op) := fun vars => .asks op fun answer => .ended (.ok answer, vars)

/-- The variables. -/
def read : Script Op Ans V ε V := fun vars => .ended (.ok vars, vars)

/-- Assign the variables. -/
def write (f : V → V) : Script Op Ans V ε Unit := fun vars => .ended (.ok (), f vars)

/-- Run a script and catch its error. -/
def attempt (p : Script Op Ans V ε α) : Script Op Ans V ε (Except ε α) := fun vars =>
  (p vars).bind fun result => .ended (.ok result.1, result.2)

/-! ### Running -/

/-- An environment answers a call in its state. -/
abbrev Environment (Op : Type) (Ans : Op → Type) (σ : Type) : Type := (op : Op) → σ → Ans op × σ

/-- A call with its answer. -/
structure Answered (Op : Type) (Ans : Op → Type) where
  op : Op
  answer : Ans op

/-- The state of the environment and the calls so far. -/
structure Log (Op : Type) (Ans : Op → Type) (σ : Type) where
  world : σ
  history : List (Answered Op Ans)

/-- The environment answers a call. -/
def Log.answer (env : Environment Op Ans σ) (op : Op) (log : Log Op Ans σ) : Log Op Ans σ :=
  ⟨(env op log.world).2, log.history ++ [⟨op, (env op log.world).1⟩]⟩

/-- Run what is left to do. -/
def exec (env : Environment Op Ans σ) : Dialogue Op Ans ρ → Log Op Ans σ → ρ × Log Op Ans σ
  | .ended result, log => (result, log)
  | .asks op k, log => exec env (k (env op log.world).1) (log.answer env op)

/-- A session: the variables of its scripts, and the log of its environment. -/
structure Session (Op : Type) (Ans : Op → Type) (V σ : Type) extends Log Op Ans σ where
  vars : V

def Session.answer (env : Environment Op Ans σ) (op : Op) (s : Session Op Ans V σ) : Session Op Ans V σ :=
  { s with toLog := s.toLog.answer env op }

/-- Run a script in a session. -/
def perform (env : Environment Op Ans σ) (p : Script Op Ans V ε α) (s : Session Op Ans V σ) :
    Except ε α × Session Op Ans V σ :=
  let ((out, vars), log) := exec env (p s.vars) s.toLog
  (out, ⟨log, vars⟩)

/-- One command of a session: the script it names. -/
def step (env : Environment Op Ans σ) (command : ι → Script Op Ans V ε α) (s : Session Op Ans V σ) (i : ι) :
    Except ε α × Session Op Ans V σ :=
  perform env (command i) s

/-! ### What is known at the end -/

/-- If the answers meet `A`, what is left to do ends with `post`. -/
def EndsDialogue (env : Environment Op Ans σ) (A : Answered Op Ans → Prop) (post : ρ → Log Op Ans σ → Prop) :
    Dialogue Op Ans ρ → Log Op Ans σ → Prop
  | .ended result, log => post result log
  | .asks op k, log =>
    A ⟨op, (env op log.world).1⟩ → EndsDialogue env A post (k (env op log.world).1) (log.answer env op)

/-- If the answers meet `A`, the script ends with `post`. -/
def Ends (env : Environment Op Ans σ) (A : Answered Op Ans → Prop) (p : Script Op Ans V ε α)
    (s : Session Op Ans V σ) (post : Except ε α → Session Op Ans V σ → Prop) : Prop :=
  EndsDialogue env A (fun result log => post result.1 ⟨log, result.2⟩) (p s.vars) s.toLog

section Ends

variable {env : Environment Op Ans σ} {A : Answered Op Ans → Prop}

private theorem endsDialogue_mono {post post' : ρ → Log Op Ans σ → Prop} (himp : ∀ r log, post r log → post' r log)
    {t : Dialogue Op Ans ρ} {log : Log Op Ans σ} (h : EndsDialogue env A post t log) :
    EndsDialogue env A post' t log := by
  induction t generalizing log with
  | ended result => exact himp _ _ h
  | asks op k ih => exact fun hA => ih _ (h hA)

private theorem endsDialogue_bind {post : ρ' → Log Op Ans σ → Prop} {t : Dialogue Op Ans ρ}
    {f : ρ → Dialogue Op Ans ρ'} {log : Log Op Ans σ} :
    EndsDialogue env A post (t.bind f) log ↔
      EndsDialogue env A (fun r log => EndsDialogue env A post (f r) log) t log := by
  induction t generalizing log with
  | ended result => rfl
  | asks op k ih => exact imp_congr_right fun _ => ih _

private theorem exec_history (t : Dialogue Op Ans ρ) (log : Log Op Ans σ) :
    log.history <+: (exec env t log).2.history := by
  induction t generalizing log with
  | ended result => exact List.prefix_rfl
  | asks op k ih => exact (List.prefix_append _ _).trans (ih _ (log.answer env op))

private theorem exec_of_endsDialogue {post : ρ → Log Op Ans σ → Prop} {t : Dialogue Op Ans ρ} {log : Log Op Ans σ}
    (h : EndsDialogue env A post t log) (hA : ∀ c ∈ (exec env t log).2.history, A c) :
    post (exec env t log).1 (exec env t log).2 := by
  induction t generalizing log with
  | ended result => exact h
  | asks op k ih =>
    have hcall : A ⟨op, (env op log.world).1⟩ :=
      hA _ ((exec_history (k (env op log.world).1) (log.answer env op)).subset (by simp [Log.answer]))
    exact ih _ (h hcall) hA

variable {s : Session Op Ans V σ}

theorem Ends.mono {p : Script Op Ans V ε α} {post post' : Except ε α → Session Op Ans V σ → Prop}
    (h : Ends env A p s post) (himp : ∀ out s', post out s' → post' out s') : Ends env A p s post' :=
  endsDialogue_mono (fun _ _ => himp _ _) h

theorem ends_pure {a : α} {post : Except ε α → Session Op Ans V σ → Prop} :
    Ends env A (pure a) s post ↔ post (.ok a) s :=
  Iff.rfl

theorem ends_ask {op : Op} {post : Except ε (Ans op) → Session Op Ans V σ → Prop} :
    Ends env A (ask op) s post ↔
      (A ⟨op, (env op s.world).1⟩ → post (.ok (env op s.world).1) (s.answer env op)) :=
  Iff.rfl

theorem ends_read {post : Except ε V → Session Op Ans V σ → Prop} :
    Ends env A read s post ↔ post (.ok s.vars) s :=
  Iff.rfl

theorem ends_write {f : V → V} {post : Except ε Unit → Session Op Ans V σ → Prop} :
    Ends env A (write f) s post ↔ post (.ok ()) { s with vars := f s.vars } :=
  Iff.rfl

theorem ends_attempt {p : Script Op Ans V ε α} {post : Except ε (Except ε α) → Session Op Ans V σ → Prop} :
    Ends env A (attempt p) s post ↔ Ends env A p s fun out s' => post (.ok out) s' :=
  endsDialogue_bind

theorem ends_bind {p : Script Op Ans V ε β} {f : β → Script Op Ans V ε α}
    {post : Except ε α → Session Op Ans V σ → Prop} :
    Ends env A (p >>= f) s post ↔
      Ends env A p s fun out s' =>
        match out with
        | .ok b => Ends env A (f b) s' post
        | .error e => post (.error e) s' := by
  change EndsDialogue env A _ (Dialogue.bind (p s.vars) _) s.toLog ↔ _
  rw [endsDialogue_bind]
  unfold Ends
  refine iff_of_eq ?_
  congr 1
  funext r log
  rcases r with ⟨e | b, vars⟩
  · rfl
  · rfl

theorem Ends.bind {p : Script Op Ans V ε β} {f : β → Script Op Ans V ε α} {M : Except ε β → Session Op Ans V σ → Prop}
    {post : Except ε α → Session Op Ans V σ → Prop} (hp : Ends env A p s M)
    (hok : ∀ b s', M (.ok b) s' → Ends env A (f b) s' post) (herror : ∀ e s', M (.error e) s' → post (.error e) s') :
    Ends env A (p >>= f) s post := by
  rw [ends_bind]
  refine hp.mono ?_
  rintro (e | b) s' hM
  · exact herror e s' hM
  · exact hok b s' hM

theorem Ends.read_bind {f : V → Script Op Ans V ε α} {post : Except ε α → Session Op Ans V σ → Prop}
    (h : Ends env A (f s.vars) s post) : Ends env A (read >>= f) s post :=
  ends_bind.2 (ends_read.2 h)

theorem Ends.write_bind {g : V → V} {f : Unit → Script Op Ans V ε α} {post : Except ε α → Session Op Ans V σ → Prop}
    (h : Ends env A (f ()) { s with vars := g s.vars } post) : Ends env A (write g >>= f) s post :=
  ends_bind.2 (ends_write.2 h)

theorem Ends.attempt_bind {p : Script Op Ans V ε β} {f : Except ε β → Script Op Ans V ε α}
    {M : Except ε β → Session Op Ans V σ → Prop} {post : Except ε α → Session Op Ans V σ → Prop}
    (hp : Ends env A p s M) (hout : ∀ out s', M out s' → Ends env A (f out) s' post) :
    Ends env A (attempt p >>= f) s post :=
  ends_bind.2 (ends_attempt.2 (hp.mono hout))

theorem ends_ite {c : Prop} [Decidable c] {p q : Script Op Ans V ε α}
    {post : Except ε α → Session Op Ans V σ → Prop} :
    Ends env A (if c then p else q) s post ↔ (c → Ends env A p s post) ∧ (¬ c → Ends env A q s post) := by
  split_ifs with hc
  · simp [hc]
  · simp [hc]

/-- The script keeps a property of the variables, whether it returns or throws. -/
def Keeps (env : Environment Op Ans σ) (A : Answered Op Ans → Prop) (P : V → Prop) (p : Script Op Ans V ε α) : Prop :=
  ∀ s, P s.vars → Ends env A p s fun _ s' => P s'.vars

namespace Keeps

variable {P : V → Prop}

theorem pure (a : α) : Keeps env A P (pure a : Script Op Ans V ε α) := fun _ h => h

theorem throw (e : ε) : Keeps env A P (throw e : Script Op Ans V ε α) := fun _ h => h

theorem ask (op : Op) : Keeps env A P (ask op : Script Op Ans V ε (Ans op)) := fun _ h _ => h

theorem read : Keeps env A P (read : Script Op Ans V ε V) := fun _ h => h

theorem write {f : V → V} (hf : ∀ vars, P vars → P (f vars)) : Keeps env A P (write f : Script Op Ans V ε Unit) :=
  fun _ h => hf _ h

theorem attempt {p : Script Op Ans V ε α} (hp : Keeps env A P p) : Keeps env A P (attempt p) :=
  fun s h => ends_attempt.2 (hp s h)

theorem bind {p : Script Op Ans V ε β} {f : β → Script Op Ans V ε α} (hp : Keeps env A P p)
    (hf : ∀ b, Keeps env A P (f b)) : Keeps env A P (p >>= f) :=
  fun s h => (hp s h).bind (fun b s' h' => hf b s' h') fun _ _ h' => h'

theorem ite {c : Prop} [Decidable c] {p q : Script Op Ans V ε α} (hp : Keeps env A P p) (hq : Keeps env A P q) :
    Keeps env A P (if c then p else q) :=
  fun s h => ends_ite.2 ⟨fun _ => hp s h, fun _ => hq s h⟩

end Keeps

/-- The script keeps a property of the session, whether it returns or throws. -/
def Maintains (env : Environment Op Ans σ) (A : Answered Op Ans → Prop) (I : Session Op Ans V σ → Prop)
    (p : Script Op Ans V ε α) : Prop :=
  ∀ s, I s → Ends env A p s fun _ s' => I s'

namespace Maintains

variable {I : Session Op Ans V σ → Prop}

theorem pure (a : α) : Maintains env A I (pure a : Script Op Ans V ε α) := fun _ h => h

theorem throw (e : ε) : Maintains env A I (throw e : Script Op Ans V ε α) := fun _ h => h

theorem read : Maintains env A I (read : Script Op Ans V ε V) := fun _ h => h

theorem write {f : V → V} (hf : ∀ s, I s → I { s with vars := f s.vars }) :
    Maintains env A I (write f : Script Op Ans V ε Unit) :=
  fun s h => hf s h

theorem bind {p : Script Op Ans V ε β} {f : β → Script Op Ans V ε α} (hp : Maintains env A I p)
    (hf : ∀ b, Maintains env A I (f b)) : Maintains env A I (p >>= f) :=
  fun s h => (hp s h).bind (fun b s' h' => hf b s' h') fun _ _ h' => h'

theorem ite {c : Prop} [Decidable c] {p q : Script Op Ans V ε α} (hp : Maintains env A I p)
    (hq : Maintains env A I q) : Maintains env A I (if c then p else q) :=
  fun s h => ends_ite.2 ⟨fun _ => hp s h, fun _ => hq s h⟩

end Maintains

/-- Calls have been added that all have the property. -/
def Adds (P : Answered Op Ans → Prop) (s s' : Session Op Ans V σ) : Prop :=
  ∃ calls, s'.history = s.history ++ calls ∧ ∀ called ∈ calls, P called

namespace Adds

variable {P : Answered Op Ans → Prop} {s' s'' : Session Op Ans V σ}

theorem refl (s : Session Op Ans V σ) : Adds P s s := ⟨[], by simp, by simp⟩

theorem trans (h : Adds P s s') (h' : Adds P s' s'') : Adds P s s'' := by
  obtain ⟨calls, hcalls, hP⟩ := h
  obtain ⟨calls', hcalls', hP'⟩ := h'
  exact ⟨calls ++ calls', by rw [hcalls', hcalls, List.append_assoc], List.forall_mem_append.2 ⟨hP, hP'⟩⟩

theorem answer {op : Op} (h : P ⟨op, (env op s.world).1⟩) : Adds P s (s.answer env op) :=
  ⟨[⟨op, (env op s.world).1⟩], rfl, List.forall_mem_singleton.2 h⟩

theorem extends_ (h : Adds P s s') : s.history <+: s'.history := by
  obtain ⟨calls, hcalls, -⟩ := h
  exact ⟨calls, hcalls.symm⟩

theorem forall_mem (h : Adds P s s') (hs : ∀ called ∈ s.history, P called) : ∀ called ∈ s'.history, P called := by
  obtain ⟨calls, hcalls, hP⟩ := h
  rw [hcalls]
  exact List.forall_mem_append.2 ⟨hs, hP⟩

end Adds

/-- A script keeps the calls made before it. -/
theorem perform_history (p : Script Op Ans V ε α) (s : Session Op Ans V σ) :
    s.history <+: (perform env p s).2.history :=
  exec_history (p s.vars) s.toLog

private theorem endsDialogue_of_exec {post : ρ → Log Op Ans σ → Prop} {t : Dialogue Op Ans ρ} {log : Log Op Ans σ}
    (h : post (exec env t log).1 (exec env t log).2) : EndsDialogue env A post t log := by
  induction t generalizing log with
  | ended result => exact h
  | asks op k ih => exact fun _ => ih _ h

theorem Ends.of_perform {p : Script Op Ans V ε α} {post : Except ε α → Session Op Ans V σ → Prop}
    (h : post (Script.perform env p s).1 (Script.perform env p s).2) : Ends env A p s post :=
  endsDialogue_of_exec h

/-- What every answer keeps of the state of the environment, a script keeps. -/
theorem perform_world {W : σ → Prop} (hanswer : ∀ op world, W world → W (env op world).2) (p : Script Op Ans V ε α)
    (h : W s.world) : W (perform env p s).2.world := by
  suffices ∀ (t : Dialogue Op Ans (Except ε α × V)) (log : Log Op Ans σ),
      W log.world → W (exec env t log).2.world from
    this (p s.vars) s.toLog h
  intro t
  induction t with
  | ended result => exact fun _ h => h
  | asks op k ih => exact fun log h => ih _ _ (hanswer op log.world h)

/-- What `Ends` says is true of the runs whose calls meet the assumption. -/
theorem Ends.perform {p : Script Op Ans V ε α} {post : Except ε α → Session Op Ans V σ → Prop}
    (h : Ends env A p s post) (hA : ∀ c ∈ (perform env p s).2.history, A c) :
    post (perform env p s).1 (perform env p s).2 :=
  exec_of_endsDialogue h hA

end Ends

/-! ### Sessions -/

section Sessions

variable {env : Environment Op Ans σ} {A : Answered Op Ans → Prop} {command : ι → Script Op Ans V ε α}

theorem run_history (s : Session Op Ans V σ) (is : List ι) :
    s.history <+: (Machine.run (step env command) s is).history := by
  induction is generalizing s with
  | nil => exact List.prefix_rfl
  | cons i is ih => exact (perform_history (command i) s).trans (ih _)

/-- An invariant that every command keeps, at least where it meets `P`, holds after every session whose commands meet
`P` and whose calls meet `A`. -/
theorem run_invariant {I : Session Op Ans V σ → Prop} {P : Session Op Ans V σ → ι → Prop}
    (hcommand : ∀ s i, I s → P s i → Ends env A (command i) s fun _ s' => I s') {s : Session Op Ans V σ}
    {is : List ι} (h0 : I s) (hP : Machine.Along (step env command) P s is)
    (hA : ∀ c ∈ (Machine.run (step env command) s is).history, A c) :
    I (Machine.run (step env command) s is) := by
  induction is generalizing s with
  | nil => exact h0
  | cons i is ih =>
    have hfirst : ∀ c ∈ (perform env (command i) s).2.history, A c :=
      fun c hc => hA c ((run_history _ is).subset hc)
    exact ih ((hcommand s i h0 hP.1).perform hfirst) hP.2 hA

/-- The same with what every command returns. -/
theorem trace_invariant {I : Session Op Ans V σ → Prop} {P : Session Op Ans V σ → ι → Prop} {R : Except ε α → Prop}
    (hcommand : ∀ s i, I s → P s i → Ends env A (command i) s fun out s' => R out ∧ I s')
    {s : Session Op Ans V σ} {is : List ι} (h0 : I s) (hP : Machine.Along (step env command) P s is)
    (hA : ∀ c ∈ (Machine.run (step env command) s is).history, A c) :
    ∀ x ∈ Machine.trace (step env command) s is, R x.output := by
  induction is generalizing s with
  | nil => exact fun _ hx => nomatch hx
  | cons i is ih =>
    have hfirst : ∀ c ∈ (perform env (command i) s).2.history, A c :=
      fun c hc => hA c ((run_history _ is).subset hc)
    obtain ⟨hR, hI⟩ := (hcommand s i h0 hP.1).perform hfirst
    intro x hx
    rcases List.mem_cons.1 hx with rfl | hx
    · exact hR
    · exact ih hI hP.2 hA x hx

end Sessions

/-! ### Fixed answers -/

section Fixed

variable (answers : (op : Op) → Ans op)

/-- What a dialogue ends with when every call has its answer. -/
def evaluateDialogue : Dialogue Op Ans ρ → ρ
  | .ended result => result
  | .asks op k => evaluateDialogue (k (answers op))

/-- What a script ends with, and its variables then. -/
def evaluate (p : Script Op Ans V ε α) (vars : V) : Except ε α × V := evaluateDialogue answers (p vars)

private theorem evaluateDialogue_bind (t : Dialogue Op Ans ρ) (f : ρ → Dialogue Op Ans ρ') :
    evaluateDialogue answers (t.bind f) = evaluateDialogue answers (f (evaluateDialogue answers t)) := by
  induction t with
  | ended result => rfl
  | asks op k ih => exact ih (answers op)

@[simp] theorem evaluate_pure (a : α) (vars : V) : evaluate answers (pure a : Script Op Ans V ε α) vars = (.ok a, vars) :=
  rfl

@[simp] theorem evaluate_throw (e : ε) (vars : V) :
    evaluate answers (throw e : Script Op Ans V ε α) vars = (.error e, vars) :=
  rfl

@[simp] theorem evaluate_ask (op : Op) (vars : V) :
    evaluate answers (ask op : Script Op Ans V ε (Ans op)) vars = (.ok (answers op), vars) :=
  rfl

theorem evaluate_attempt (p : Script Op Ans V ε α) (vars : V) :
    evaluate answers (attempt p) vars = (.ok (evaluate answers p vars).1, (evaluate answers p vars).2) :=
  evaluateDialogue_bind answers (p vars) _

theorem evaluate_bind (p : Script Op Ans V ε β) (f : β → Script Op Ans V ε α) (vars : V) :
    evaluate answers (p >>= f) vars =
      match evaluate answers p vars with
      | (.ok b, vars) => evaluate answers (f b) vars
      | (.error e, vars) => (.error e, vars) := by
  change evaluateDialogue answers (Dialogue.bind (p vars) _) = _
  rw [evaluateDialogue_bind]
  change _ = match evaluateDialogue answers (p vars) with
    | (.ok b, vars) => evaluate answers (f b) vars
    | (.error e, vars) => (.error e, vars)
  rcases evaluateDialogue answers (p vars) with ⟨e | b, vars⟩
  · rfl
  · rfl

private theorem exec_evaluate {env : Environment Op Ans σ} (henv : ∀ op world, (env op world).1 = answers op)
    (t : Dialogue Op Ans ρ) (log : Log Op Ans σ) : (exec env t log).1 = evaluateDialogue answers t := by
  induction t generalizing log with
  | ended result => rfl
  | asks op k ih =>
    rw [exec, ih, henv]
    rfl

/-- An environment with these answers comes to this result. -/
theorem perform_evaluate {env : Environment Op Ans σ} (henv : ∀ op world, (env op world).1 = answers op)
    (p : Script Op Ans V ε α) (s : Session Op Ans V σ) : (perform env p s).1 = (evaluate answers p s.vars).1 :=
  congrArg Prod.fst (exec_evaluate answers henv (p s.vars) s.toLog)

end Fixed

end Script
