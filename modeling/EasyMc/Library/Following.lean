import EasyMc.Library.Await

/-!
# One program that follows another

`Follows` relates two programs, each run alone under its own handler: whatever the first returns, the second returns
too, in a related state.  The first may also stop early in a way that `quits` covers, or throw what is `excused`.
The rules take the two programs apart call by call; a call that only the first makes is `Follows.left_bind`.
-/

namespace Await.Prog

variable {Op : Type} {Ans : Op → Type} {α β σ τ : Type}

/-- How a run of the first program may end: by quitting, by throwing what is excused, or as the second one ends. -/
def Follows (h : Handler Op Ans σ) (h' : Handler Op Ans τ) (excused : String → Prop) (quits : α → σ → Prop)
    (post : α → σ → τ → Prop) (p p' : Prog Op Ans α) (s : σ) (t : τ) : Prop :=
  match p.exec h s with
  | (.ok a, s') => quits a s' ∨ ∃ t', p'.exec h' t = (.ok a, t') ∧ post a s' t'
  | (.error m, _) => excused m

variable {h : Handler Op Ans σ} {h' : Handler Op Ans τ} {excused : String → Prop} {quits : α → σ → Prop}
  {post : α → σ → τ → Prop} {s : σ} {t : τ}

namespace Follows

theorem ret {a : α} (hpost : post a s t) : Follows h h' excused quits post (.ret a) (.ret a) s t :=
  .inr ⟨t, rfl, hpost⟩

theorem throw {m : String} {p' : Prog Op Ans α} (hm : excused m) :
    Follows h h' excused quits post (.throw m) p' s t := hm

/-- The first program returns early. -/
theorem quit {a : α} {p' : Prog Op Ans α} (ha : quits a s) : Follows h h' excused quits post (.ret a) p' s t := .inl ha

/-- A call of the first program that throws what is excused. -/
theorem thrown {op : Op} {f : Ans op → Prog Op Ans α} {p' : Prog Op Ans α} {m : String} {s' : σ}
    (hs : h op s = (.error m, s')) (hm : excused m) :
    Follows h h' excused quits post (perform op >>= f) p' s t := by
  unfold Follows
  rw [exec_perform_bind, hs]
  exact hm

/-- A call that both make and that both get an answer to. -/
theorem answered {op : Op} {f f' : Ans op → Prog Op Ans α} {r r' : Ans op} {s' : σ} {t' : τ}
    (hs : h op s = (.ok r, s')) (ht : h' op t = (.ok r', t'))
    (hfollows : Follows h h' excused quits post (f r) (f' r') s' t') :
    Follows h h' excused quits post (perform op >>= f) (perform op >>= f') s t := by
  unfold Follows
  rw [exec_perform_bind, exec_perform_bind, hs, ht]
  exact hfollows

/-- A call that only the first makes. -/
theorem left_bind {op : Op} {f : Ans op → Prog Op Ans α} {p' : Prog Op Ans α} {r : Ans op} {s' : σ}
    (hs : h op s = (.ok r, s')) (hfollows : Follows h h' excused quits post (f r) p' s' t) :
    Follows h h' excused quits post (perform op >>= f) p' s t := by
  unfold Follows
  rw [exec_perform_bind, hs]
  exact hfollows

/-- A first part that does not quit, and what comes after it. -/
theorem bind {p p' : Prog Op Ans β} {f f' : β → Prog Op Ans α} {M : β → σ → τ → Prop}
    (hp : Follows h h' excused (fun _ _ => False) M p p' s t)
    (hf : ∀ b s' t', M b s' t' → Follows h h' excused quits post (f b) (f' b) s' t') :
    Follows h h' excused quits post (p >>= f) (p' >>= f') s t := by
  unfold Follows at hp ⊢
  rw [exec_bind]
  rcases hs : p.exec h s with ⟨m | b, s'⟩
  · rw [hs] at hp
    exact hp
  · rw [hs] at hp
    obtain hfalse | ⟨t', ht, hM⟩ := hp
    · exact hfalse.elim
    · rw [exec_bind, ht]
      exact hf b s' t' hM

/-- A first part that may quit with something after which the rest only quits. -/
theorem bind_quits {p p' : Prog Op Ans β} {f f' : β → Prog Op Ans α} {M : β → σ → τ → Prop} {q : β → σ → Prop}
    (hp : Follows h h' excused q M p p' s t)
    (hquits : ∀ b s', q b s' → ∃ a, f b = .ret a ∧ quits a s')
    (hf : ∀ b s' t', M b s' t' → Follows h h' excused quits post (f b) (f' b) s' t') :
    Follows h h' excused quits post (p >>= f) (p' >>= f') s t := by
  unfold Follows at hp ⊢
  rw [exec_bind]
  rcases hs : p.exec h s with ⟨m | b, s'⟩
  · rw [hs] at hp
    exact hp
  · rw [hs] at hp
    obtain hq | ⟨t', ht, hM⟩ := hp
    · obtain ⟨a, hret, ha⟩ := hquits b s' hq
      have hend : Follows h h' excused quits post (f b) (p' >>= f') s' t := by
        rw [hret]
        exact quit ha
      exact hend
    · rw [exec_bind, ht]
      exact hf b s' t' hM

theorem mono {p p' : Prog Op Ans α} {post' : α → σ → τ → Prop} (hp : Follows h h' excused quits post p p' s t)
    (hpost : ∀ a s' t', post a s' t' → post' a s' t') : Follows h h' excused quits post' p p' s t := by
  unfold Follows at hp ⊢
  split
  · rename_i hs
    rw [hs] at hp
    exact hp.imp id fun ⟨t', ht, h⟩ => ⟨t', ht, hpost _ _ _ h⟩
  · rename_i hs
    rw [hs] at hp
    exact hp

/-- How the first program ended. -/
theorem of_exec {p p' : Prog Op Ans α} (hp : Follows h h' excused quits post p p' s t) {a : α} {s' : σ}
    (hs : p.exec h s = (.ok a, s')) : quits a s' ∨ ∃ t', p'.exec h' t = (.ok a, t') ∧ post a s' t' := by
  unfold Follows at hp
  rw [hs] at hp
  exact hp

theorem excused_of_exec {p p' : Prog Op Ans α} (hp : Follows h h' excused quits post p p' s t) {m : String} {s' : σ}
    (hs : p.exec h s = (.error m, s')) : excused m := by
  unfold Follows at hp
  rw [hs] at hp
  exact hp

end Follows

end Await.Prog
