import Mathlib.Data.List.Forall2
import EasyMc.Library.Machine

/-!
# Programs that wait for their calls

`Prog Op Ans α` is a program that computes, calls an operation of its environment, waits for the answer and goes
on: the continuation of an asynchronous function at each of its waiting points.  One program has two meanings.

* Run alone (`Prog.exec`): the calls are answered one after the other by a handler acting on a state.
* Run in a pool (`Pool.step`): several programs share the state, and at each step one of them, chosen by the
  schedule, has its next call answered.

A protocol says which calls a program may make next, as a state machine that reads the answers.  A program that
conforms to a protocol may be replaced, in a pool, by its protocol state (`Pool.invariant`): an invariant of the
shared state and of the protocol states that every allowed call keeps holds after every schedule.
-/

namespace Await

variable {Op : Type} {Ans : Op → Type} {α β σ Q : Type}

/-- A program that returns, throws, or calls an operation and continues with the answer. -/
inductive Prog (Op : Type) (Ans : Op → Type) (α : Type) : Type
  | ret (a : α)
  | throw (message : String)
  | call (op : Op) (k : Ans op → Prog Op Ans α)

namespace Prog

/-- Sequential composition. -/
def bind : Prog Op Ans α → (α → Prog Op Ans β) → Prog Op Ans β
  | .ret a, f => f a
  | .throw m, _ => .throw m
  | .call op k, f => .call op fun r => (k r).bind f

instance : Monad (Prog Op Ans) where
  pure := .ret
  bind := bind

@[simp] theorem pure_eq (a : α) : (pure a : Prog Op Ans α) = .ret a := rfl

@[simp] theorem ret_bind (a : α) (f : α → Prog Op Ans β) : (Prog.ret a : Prog Op Ans α) >>= f = f a := rfl

@[simp] theorem throw_bind (m : String) (f : α → Prog Op Ans β) :
    (Prog.throw m : Prog Op Ans α) >>= f = .throw m := rfl

@[simp] theorem call_bind (op : Op) (k : Ans op → Prog Op Ans α) (f : α → Prog Op Ans β) :
    Prog.call op k >>= f = .call op fun r => k r >>= f := rfl

/-- Call one operation and return its answer. -/
def perform (op : Op) : Prog Op Ans (Ans op) := .call op .ret

@[simp] theorem perform_bind (op : Op) (f : Ans op → Prog Op Ans β) : perform op >>= f = .call op f := rfl

/-! ### Running a program alone -/

/-- What the environment does at a call: an answer or a thrown error, and the next state. -/
abbrev Handler (Op : Type) (Ans : Op → Type) (σ : Type) : Type := (op : Op) → σ → Except String (Ans op) × σ

/-- Run a program with nothing else running. -/
def exec (h : Handler Op Ans σ) : Prog Op Ans α → σ → Except String α × σ
  | .ret a, s => (.ok a, s)
  | .throw m, s => (.error m, s)
  | .call op k, s =>
    match h op s with
    | (.ok r, s') => (k r).exec h s'
    | (.error m, s') => (.error m, s')

@[simp] theorem exec_ret (h : Handler Op Ans σ) (a : α) (s : σ) : (ret a).exec h s = (.ok a, s) := rfl

@[simp] theorem exec_throw (h : Handler Op Ans σ) (m : String) (s : σ) :
    (throw m : Prog Op Ans α).exec h s = (.error m, s) := rfl

theorem exec_call_ok {h : Handler Op Ans σ} {op : Op} {k : Ans op → Prog Op Ans α} {s s' : σ} {r : Ans op}
    (hr : h op s = (.ok r, s')) : (call op k).exec h s = (k r).exec h s' := by
  simp only [exec, hr]

theorem exec_call_error {h : Handler Op Ans σ} {op : Op} {k : Ans op → Prog Op Ans α} {s s' : σ} {m : String}
    (hr : h op s = (.error m, s')) : (call op k).exec h s = (.error m, s') := by
  simp only [exec, hr]

theorem exec_perform_bind (h : Handler Op Ans σ) (op : Op) (f : Ans op → Prog Op Ans α) (s : σ) :
    (perform op >>= f).exec h s =
      match h op s with
      | (.ok r, s') => (f r).exec h s'
      | (.error m, s') => (.error m, s') := by
  rw [perform_bind, exec]

theorem exec_bind (h : Handler Op Ans σ) (p : Prog Op Ans α) (f : α → Prog Op Ans β) (s : σ) :
    (p >>= f).exec h s =
      match p.exec h s with
      | (.ok a, s') => (f a).exec h s'
      | (.error m, s') => (.error m, s') := by
  induction p generalizing s with
  | ret a => rfl
  | throw m => rfl
  | call op k ih =>
    rcases hr : h op s with ⟨r | r, s'⟩
    · rw [call_bind, exec_call_error hr, exec_call_error hr]
    · rw [call_bind, exec_call_ok hr, exec_call_ok hr]
      exact ih r s'

/-- A call as it was answered: its outcome and the states around it. -/
structure Called (Op : Type) (Ans : Op → Type) (σ : Type) where
  op : Op
  outcome : Except String (Ans op)
  before : σ
  after : σ

/-- The calls a program makes when it runs alone. -/
def calls (h : Handler Op Ans σ) : Prog Op Ans α → σ → List (Called Op Ans σ)
  | .ret _, _ => []
  | .throw _, _ => []
  | .call op k, s =>
    match h op s with
    | (.ok r, s') => ⟨op, .ok r, s, s'⟩ :: (k r).calls h s'
    | (.error m, s') => [⟨op, .error m, s, s'⟩]

theorem calls_call_ok {h : Handler Op Ans σ} {op : Op} {k : Ans op → Prog Op Ans α} {s s' : σ} {r : Ans op}
    (hr : h op s = (.ok r, s')) : (call op k).calls h s = ⟨op, .ok r, s, s'⟩ :: (k r).calls h s' := by
  simp only [calls, hr]

/-- Run alone from `s`, the program ends in an outcome and a state with `post`. -/
def Ends (h : Handler Op Ans σ) (p : Prog Op Ans α) (s : σ) (post : Except String α → σ → Prop) : Prop :=
  post (p.exec h s).1 (p.exec h s).2

section Ends

variable {h : Handler Op Ans σ} {s : σ} {post : Except String α → σ → Prop}

theorem Ends.ret {a : α} (hpost : post (.ok a) s) : Ends h (.ret a) s post := hpost

theorem Ends.perform_bind {op : Op} {f : Ans op → Prog Op Ans α}
    (hok : ∀ r s', h op s = (.ok r, s') → Ends h (f r) s' post)
    (herror : ∀ m s', h op s = (.error m, s') → post (.error m) s') : Ends h (perform op >>= f) s post := by
  unfold Ends
  rw [exec_perform_bind]
  rcases hr : h op s with ⟨m | r, s'⟩
  · exact herror m s' hr
  · exact hok r s' hr

/-- A call whose answer is known. -/
theorem Ends.answered {op : Op} {f : Ans op → Prog Op Ans α} {r : Ans op} {s' : σ} (hr : h op s = (.ok r, s'))
    (hok : Ends h (f r) s' post) : Ends h (Prog.perform op >>= f) s post := by
  unfold Ends
  rw [exec_perform_bind, hr]
  exact hok

theorem Ends.perform {op : Op} {post : Except String (Ans op) → σ → Prop}
    (hok : ∀ r s', h op s = (.ok r, s') → post (.ok r) s')
    (herror : ∀ m s', h op s = (.error m, s') → post (.error m) s') : Ends h (perform op) s post := by
  unfold Ends Prog.perform
  rcases hr : h op s with ⟨m | r, s'⟩
  · rw [exec_call_error hr]
    exact herror m s' hr
  · rw [exec_call_ok hr]
    exact hok r s' hr

theorem Ends.bind {p : Prog Op Ans β} {f : β → Prog Op Ans α} {M : Except String β → σ → Prop}
    (hp : Ends h p s M) (hok : ∀ b s', M (.ok b) s' → Ends h (f b) s' post)
    (herror : ∀ m s', M (.error m) s' → post (.error m) s') : Ends h (p >>= f) s post := by
  unfold Ends at hp ⊢
  rw [exec_bind]
  rcases hr : p.exec h s with ⟨m | b, s'⟩
  · rw [hr] at hp
    exact herror m s' hp
  · rw [hr] at hp
    exact hok b s' hp

theorem Ends.mono {p : Prog Op Ans α} {pre : Except String α → σ → Prop} (hp : Ends h p s pre)
    (himp : ∀ out s', pre out s' → post out s') : Ends h p s post :=
  himp _ _ hp

end Ends

/-! ### Two runs of one program -/

/-- Run alone from `s` and from `t`, under two handlers, the program has one outcome, and with it the two states it
ends in are related by `post`. -/
def EndsAlike (h h' : Handler Op Ans σ) (p : Prog Op Ans α) (s t : σ) (post : Except String α → σ → σ → Prop) :
    Prop :=
  (p.exec h s).1 = (p.exec h' t).1 ∧ post (p.exec h s).1 (p.exec h s).2 (p.exec h' t).2

section EndsAlike

variable {h h' : Handler Op Ans σ} {s t : σ} {post : Except String α → σ → σ → Prop}

theorem EndsAlike.ret {a : α} (hpost : post (.ok a) s t) : EndsAlike h h' (.ret a) s t post := ⟨rfl, hpost⟩

/-- A call is answered alike in both runs, and the runs go on alike from the states after it. -/
theorem EndsAlike.perform_bind {op : Op} {f : Ans op → Prog Op Ans α} (halike : (h op s).1 = (h' op t).1)
    (hok : ∀ r, (h op s).1 = .ok r → EndsAlike h h' (f r) (h op s).2 (h' op t).2 post)
    (herror : ∀ m, (h op s).1 = .error m → post (.error m) (h op s).2 (h' op t).2) :
    EndsAlike h h' (perform op >>= f) s t post := by
  unfold EndsAlike
  rw [exec_perform_bind, exec_perform_bind]
  rcases hs : h op s with ⟨m | r, s'⟩ <;> rcases ht : h' op t with ⟨m' | r', t'⟩ <;>
    simp only [hs, ht, Except.error.injEq, Except.ok.injEq, reduceCtorEq] at halike hok herror
  · subst halike
    exact ⟨rfl, herror m rfl⟩
  · subst halike
    exact hok r rfl

theorem EndsAlike.bind {p : Prog Op Ans β} {f : β → Prog Op Ans α} {M : Except String β → σ → σ → Prop}
    (hp : EndsAlike h h' p s t M) (hok : ∀ b s' t', M (.ok b) s' t' → EndsAlike h h' (f b) s' t' post)
    (herror : ∀ m s' t', M (.error m) s' t' → post (.error m) s' t') : EndsAlike h h' (p >>= f) s t post := by
  obtain ⟨hout, hM⟩ := hp
  unfold EndsAlike
  rw [exec_bind, exec_bind]
  rcases hs : p.exec h s with ⟨m | b, s'⟩ <;> rcases ht : p.exec h' t with ⟨m' | b', t'⟩ <;>
    simp only [hs, ht, Except.error.injEq, Except.ok.injEq, reduceCtorEq] at hout hM
  · subst hout
    exact ⟨rfl, herror m s' t' hM⟩
  · subst hout
    exact hok b s' t' hM

theorem EndsAlike.mono {p : Prog Op Ans α} {pre : Except String α → σ → σ → Prop}
    (hp : EndsAlike h h' p s t pre) (himp : ∀ out s' t', pre out s' t' → post out s' t') :
    EndsAlike h h' p s t post :=
  ⟨hp.1, himp _ _ _ hp.2⟩

/-- Two runs that end, each by itself, in one and the same outcome. -/
theorem Ends.alike {p : Prog Op Ans α} {out : Except String α} {M M' : σ → Prop}
    (hs : Ends h p s fun o s' => o = out ∧ M s') (ht : Ends h' p t fun o t' => o = out ∧ M' t') :
    EndsAlike h h' p s t fun _ s' t' => M s' ∧ M' t' :=
  ⟨hs.1.trans ht.1.symm, hs.2, ht.2⟩

end EndsAlike

end Prog

/-! ### Protocols -/

/-- Which calls are allowed in each protocol state, and the protocol state after each answer. -/
structure Protocol (Op : Type) (Ans : Op → Type) (Q : Type) where
  allows : Q → Op → Prop
  next : Q → (op : Op) → Ans op → Q

/-- Every call of the program is allowed, whatever the answers, and what it returns is final for the protocol
state it ends in. -/
def Conforms (P : Protocol Op Ans Q) (final : Q → α → Prop) : Q → Prog Op Ans α → Prop
  | q, .ret a => final q a
  | _, .throw _ => True
  | q, .call op k => P.allows q op ∧ ∀ r, Conforms P final (P.next q op r) (k r)

theorem Conforms.throw {P : Protocol Op Ans Q} {final : Q → α → Prop} (q : Q) (m : String) :
    Conforms P final q (.throw m) :=
  trivial

theorem Conforms.perform_bind {P : Protocol Op Ans Q} {final : Q → α → Prop} {q : Q} {op : Op}
    {f : Ans op → Prog Op Ans α} (hallowed : P.allows q op)
    (hnext : ∀ r, Conforms P final (P.next q op r) (f r)) : Conforms P final q (Prog.perform op >>= f) :=
  ⟨hallowed, hnext⟩

theorem Conforms.bind {P : Protocol Op Ans Q} {final : Q → β → Prop} {q : Q} {p : Prog Op Ans α}
    {f : α → Prog Op Ans β} (h : Conforms P (fun q a => Conforms P final q (f a)) q p) :
    Conforms P final q (p >>= f) := by
  induction p generalizing q with
  | ret a => exact h
  | throw m => trivial
  | call op k ih => exact ⟨h.1, fun r => ih r (h.2 r)⟩

theorem Conforms.mono {P : Protocol Op Ans Q} {final final' : Q → α → Prop}
    (hf : ∀ q a, final q a → final' q a) {q : Q} {p : Prog Op Ans α} (h : Conforms P final q p) :
    Conforms P final' q p := by
  induction p generalizing q with
  | ret a => exact hf q a h
  | throw m => trivial
  | call op k ih => exact ⟨h.1, fun r => ih r (h.2 r)⟩

/-- A conforming program that runs alone and returns: an invariant of the protocol state, of the calls so far and of
the state, kept by every allowed call, holds in a final protocol state. -/
theorem Conforms.exec {P : Protocol Op Ans Q} {final : Q → α → Prop} {h : Prog.Handler Op Ans σ}
    {I : Q → List (Prog.Called Op Ans σ) → σ → Prop}
    (hcall : ∀ q past op s r s', I q past s → P.allows q op → h op s = (.ok r, s') →
      I (P.next q op r) (past ++ [⟨op, .ok r, s, s'⟩]) s')
    {q : Q} {p : Prog Op Ans α} (hp : Conforms P final q p) {past : List (Prog.Called Op Ans σ)} {s s' : σ}
    (hs : I q past s) {a : α} (hrun : p.exec h s = (.ok a, s')) :
    ∃ q', final q' a ∧ I q' (past ++ p.calls h s) s' := by
  induction p generalizing q past s with
  | ret b =>
    obtain ⟨rfl, rfl⟩ : b = a ∧ s = s' := by simpa using hrun
    exact ⟨q, hp, by simpa [Prog.calls] using hs⟩
  | throw m => simp at hrun
  | call op k ih =>
    rcases hr : h op s with ⟨m | r, s₁⟩
    · rw [Prog.exec_call_error hr] at hrun
      simp at hrun
    · rw [Prog.exec_call_ok hr] at hrun
      obtain ⟨q', hq', hI⟩ := ih r (hp.2 r) (hcall q past op s r s₁ hs hp.1 hr) hrun
      refine ⟨q', hq', ?_⟩
      rw [Prog.calls_call_ok hr]
      simpa using hI

/-! ### Pools of programs -/

/-- Several programs over one shared state. -/
structure Pool (Op : Type) (Ans : Op → Type) (α σ : Type) where
  threads : List (Prog Op Ans α)
  state : σ

namespace Pool

/-- Answer the next call of program `i`; a program that has ended does nothing. -/
def step (h : Prog.Handler Op Ans σ) (c : Pool Op Ans α σ) (i : Nat) : Unit × Pool Op Ans α σ :=
  match c.threads[i]? with
  | some (.call op k) =>
    match h op c.state with
    | (.ok r, s) => ((), ⟨c.threads.set i (k r), s⟩)
    | (.error m, s) => ((), ⟨c.threads.set i (.throw m), s⟩)
  | _ => ((), c)

/-- The pool after a schedule. -/
abbrev run (h : Prog.Handler Op Ans σ) (c : Pool Op Ans α σ) (schedule : List Nat) : Pool Op Ans α σ :=
  Machine.run (step h) c schedule

/-- What program `i` has returned. -/
def returned (c : Pool Op Ans α σ) (i : Nat) : Option α :=
  match c.threads[i]? with
  | some (.ret a) => some a
  | _ => none

theorem returned_eq_some {c : Pool Op Ans α σ} {i : Nat} {a : α} :
    c.returned i = some a ↔ c.threads[i]? = some (.ret a) := by
  unfold returned
  split
  · rename_i b hb
    rw [hb]
    simp
  · rename_i hb
    exact ⟨nofun, fun h => absurd h (hb a)⟩

/-- `op` is the next call of program `i`. -/
def Calls (c : Pool Op Ans α σ) (i : Nat) (op : Op) : Prop := ∃ k, c.threads[i]? = some (.call op k)

theorem step_answered {h : Prog.Handler Op Ans σ} {c : Pool Op Ans α σ} {i : Nat} {op : Op}
    {k : Ans op → Prog Op Ans α} {r : Ans op} {s : σ} (ht : c.threads[i]? = some (.call op k))
    (hr : h op c.state = (.ok r, s)) : (step h c i).2 = ⟨c.threads.set i (k r), s⟩ := by
  simp only [step, ht, hr]

theorem step_thrown {h : Prog.Handler Op Ans σ} {c : Pool Op Ans α σ} {i : Nat} {op : Op}
    {k : Ans op → Prog Op Ans α} {m : String} {s : σ} (ht : c.threads[i]? = some (.call op k))
    (hr : h op c.state = (.error m, s)) : (step h c i).2 = ⟨c.threads.set i (.throw m), s⟩ := by
  simp only [step, ht, hr]

theorem step_idle {h : Prog.Handler Op Ans σ} {c : Pool Op Ans α σ} {i : Nat} (hc : ∀ op, ¬ c.Calls i op) :
    (step h c i).2 = c := by
  unfold step
  split
  · rename_i op k ht
    exact absurd ⟨k, ht⟩ (hc op)
  · rfl

/-- The programs of the pool conform to the protocol in the states `qs`. -/
def Tracks (P : Protocol Op Ans Q) (final : Q → α → Prop) (qs : List Q) (c : Pool Op Ans α σ) : Prop :=
  List.Forall₂ (Conforms P final) qs c.threads

private theorem forall₂_getElem? {R : Q → Prog Op Ans α → Prop} {qs : List Q} {ts : List (Prog Op Ans α)}
    (h : List.Forall₂ R qs ts) {i : Nat} {t : Prog Op Ans α} (ht : ts[i]? = some t) :
    ∃ q, qs[i]? = some q ∧ R q t := by
  induction h generalizing i with
  | nil => simp at ht
  | cons hR _ ih =>
    cases i with
    | zero => exact ⟨_, rfl, by simp at ht; exact ht ▸ hR⟩
    | succ i => simpa using ih (by simpa using ht)

private theorem forall₂_set {R : Q → Prog Op Ans α → Prop} {qs : List Q} {ts : List (Prog Op Ans α)}
    (h : List.Forall₂ R qs ts) {q : Q} {t : Prog Op Ans α} (hR : R q t) (i : Nat) :
    List.Forall₂ R (qs.set i q) (ts.set i t) := by
  induction h generalizing i with
  | nil => exact .nil
  | cons h' hs ih =>
    cases i with
    | zero => exact .cons hR hs
    | succ i => exact .cons h' (ih i)

private theorem forall₂_set_right {R : Q → Prog Op Ans α → Prop} {qs : List Q} {ts : List (Prog Op Ans α)}
    (h : List.Forall₂ R qs ts) {t : Prog Op Ans α} (hR : ∀ q, R q t) (i : Nat) :
    List.Forall₂ R qs (ts.set i t) := by
  induction h generalizing i with
  | nil => exact .nil
  | cons h' hs ih =>
    cases i with
    | zero => exact .cons (hR _) hs
    | succ i => exact .cons h' (ih i)

theorem Tracks.protocolState {P : Protocol Op Ans Q} {final : Q → α → Prop} {qs : List Q} {c : Pool Op Ans α σ}
    (h : Tracks P final qs c) {i : Nat} {t : Prog Op Ans α} (ht : c.threads[i]? = some t) :
    ∃ q, qs[i]? = some q ∧ Conforms P final q t :=
  forall₂_getElem? h ht

/-- An invariant of the protocol states and the shared state that every allowed call keeps, at least at the steps
that meet `C`, holds after every schedule whose steps meet `C`. -/
theorem invariant {P : Protocol Op Ans Q} {final : Q → α → Prop} {h : Prog.Handler Op Ans σ}
    {I : List Q → σ → Prop} {C : Pool Op Ans α σ → Nat → Prop}
    (hok : ∀ qs c i q op r s', I qs c.state → C c i → c.Calls i op → qs[i]? = some q → P.allows q op →
      h op c.state = (.ok r, s') → I (qs.set i (P.next q op r)) s')
    (herror : ∀ qs c i q op m s', I qs c.state → C c i → c.Calls i op → qs[i]? = some q → P.allows q op →
      h op c.state = (.error m, s') → I qs s')
    {qs : List Q} {c : Pool Op Ans α σ} (htracks : Tracks P final qs c) (hI : I qs c.state)
    {schedule : List Nat} (hC : Machine.Along (step h) C c schedule) :
    ∃ qs', Tracks P final qs' (run h c schedule) ∧ I qs' (run h c schedule).state := by
  refine Machine.run_invariant (I := fun c => ∃ qs, Tracks P final qs c ∧ I qs c.state) ?_ ⟨qs, htracks, hI⟩ hC
  rintro c i ⟨qs, htracks, hI⟩ hCi
  by_cases hcall : ∃ op, c.Calls i op
  · obtain ⟨op, k, ht⟩ := hcall
    obtain ⟨q, hq, hconf⟩ := htracks.protocolState ht
    rcases hr : h op c.state with ⟨m | r, s'⟩
    · rw [step_thrown ht hr]
      exact ⟨qs, forall₂_set_right htracks (fun q => Conforms.throw q m) i,
        herror qs c i q op m s' hI hCi ⟨k, ht⟩ hq hconf.1 hr⟩
    · rw [step_answered ht hr]
      exact ⟨qs.set i (P.next q op r), forall₂_set htracks (hconf.2 r) i,
        hok qs c i q op r s' hI hCi ⟨k, ht⟩ hq hconf.1 hr⟩
  · rw [step_idle (not_exists.1 hcall)]
    exact ⟨qs, htracks, hI⟩

end Pool

end Await
