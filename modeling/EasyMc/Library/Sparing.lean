import EasyMc.Library.FileCalls

/-!
# Calls that spare paths

`Spares kept closed fs fs'` says what has not changed from one file system to the next: what stands at a kept path stays
there, and no file comes up at a closed one.  A call spares the paths if this holds of the file systems before and after
it, however it ends (`Call.Spares`).

Where there are no links (`NoLinks`) a path is where it says it is.  So a call that writes or removes a file spares the
paths if the file's own path is none of them; for directories that are made nothing is asked.
-/

namespace Files

variable {fs fs' fs'' : FileSystem} {path : Path} {bytes : List UInt8}

/-! ### No links -/

def NoLinks (fs : FileSystem) : Prop := ∀ path target, fs.get path ≠ some (.link target)

namespace NoLinks

theorem extends_ (h : NoLinks fs) (hextends : Extends fs fs') : NoLinks fs' := by
  intro path target hlink
  exact h path target ((hextends.links path target).1 hlink)

/-- Every path is anchored in the top. -/
theorem anchored (h : NoLinks fs) (path : Path) : Anchored fs [] [] path := by
  refine ⟨rfl, fs.get_nil, ?_⟩
  intro start _ _ target
  exact h _ target

theorem writeFile (h : NoLinks fs) (hwrite : FileSystem.writeFile path bytes fs = (.ok (), fs')) : Wrote fs fs' path bytes :=
  (h.anchored path).writeFile hwrite

theorem locate (h : NoLinks fs) {real : Path} (hreal : fs.locate path = .ok real) : real = path := by
  rcases List.eq_nil_or_concat' path with rfl | ⟨start, name, rfl⟩
  · cases hreal
    rfl
  · exact (h.anchored _).locate (by simp) hreal

theorem get_of_not_exists (h : NoLinks fs) (hexists : fs.exists_ path = false) : fs.get path = none := by
  by_contra hsome
  have hfound : fs.lookup path = .found path := (h.anchored path).lookup_of_get hsome
  rw [FileSystem.exists_, hfound] at hexists
  cases hexists

theorem put (h : NoLinks fs) {node : Node} (hnode : FileSystem.isLink node = false) (path : Path) :
    NoLinks (fs.put path node) := by
  by_cases hcan : fs.CanPut path node
  · intro p target
    rw [FileSystem.get_put hcan]
    split_ifs
    · rintro heq
      rw [Option.some_inj.1 heq] at hnode
      cases hnode
    · exact h p target
  · rw [FileSystem.put, dif_neg hcan]
    exact h

theorem empty : NoLinks FileSystem.empty := by
  intro path target
  by_cases hpath : path = []
  · subst hpath
    simp [FileSystem.get_nil]
  · simp [FileSystem.get, nodeAt, hpath, FileSystem.empty, JsMap.get_empty]

end NoLinks

/-! ### What is spared -/

/-- What stands at the kept paths stays there, and no file comes up at the closed ones. -/
structure Spares (kept closed : Path → Prop) (fs fs' : FileSystem) : Prop where
  extends_ : Extends fs fs'
  stays : ∀ path, kept path → fs.get path ≠ none → fs'.get path = fs.get path
  no_file : ∀ path, closed path → ∀ bytes, fs'.get path = some (.file bytes) → fs.get path = some (.file bytes)

namespace Spares

variable {kept closed : Path → Prop} {ε α β : Type}

theorem refl (fs : FileSystem) : Spares kept closed fs fs := ⟨.refl fs, fun _ _ _ => rfl, fun _ _ _ hfile => hfile⟩

theorem trans (h : Spares kept closed fs fs') (h' : Spares kept closed fs' fs'') : Spares kept closed fs fs'' := by
  refine ⟨h.extends_.trans h'.extends_, ?_, ?_⟩
  · intro path hkept hsome
    have hfirst := h.stays path hkept hsome
    rw [h'.stays path hkept (hfirst ▸ hsome), hfirst]
  · intro path hclosed bytes hfile
    exact h.no_file path hclosed bytes (h'.no_file path hclosed bytes hfile)

theorem of_onlyDirs (h : OnlyDirs fs fs') : Spares kept closed fs fs' := by
  refine ⟨h.extends_, ?_, ?_⟩
  · intro path _ hsome
    exact h.get_eq hsome
  · intro path _ bytes hfile
    exact (h.get_iff (by simp)).1 hfile

/-- A file that is written where there was nothing to keep. -/
theorem of_wrote (h : Wrote fs fs' path bytes) (hkept : kept path → fs.get path = none) (hclosed : ¬ closed path) :
    Spares kept closed fs fs' := by
  refine ⟨h.extends_, ?_, ?_⟩
  · intro other hother hsome
    have hne : other ≠ path := by
      rintro rfl
      exact hsome (hkept hother)
    exact (h.elsewhere other hne).resolve_right fun hnone => hsome hnone.1
  · intro other hother contents hfile
    rcases h.get_file hfile with ⟨rfl, -⟩ | ⟨-, hold⟩
    · exact absurd hother hclosed
    · exact hold

theorem remove (hlinks : NoLinks fs) (hdir : fs.get path ≠ some .dir) (hkept : ¬ kept path) :
    Spares kept closed fs (fs.remove path) := by
  refine ⟨.remove hdir (hlinks path), ?_, ?_⟩
  · intro other hother _
    have hne : other ≠ path := by
      rintro rfl
      exact hkept hother
    rw [FileSystem.get_remove hdir, if_neg hne]
  · intro other _ bytes hfile
    rw [FileSystem.get_remove hdir] at hfile
    split_ifs at hfile
    exact hfile

/-- A call and what follows it. -/
theorem bind {x : Call ε α} {f : α → Call ε β} (hx : Spares kept closed fs (x fs).2)
    (hf : ∀ a fs', x fs = (.ok a, fs') → Spares kept closed fs' (f a fs').2) : Spares kept closed fs ((x >>= f) fs).2 := by
  cases hresult : x fs with
  | mk result fs' =>
    rw [hresult] at hx
    cases result with
    | ok a =>
      rw [Call.bind_of_ok hresult]
      exact hx.trans (hf a fs' hresult)
    | error e =>
      rw [Call.bind_of_error hresult]
      exact hx

/-- After a call that only reads nothing has changed. -/
theorem reads_bind {x : Call ε α} {f : α → Call ε β} (hx : x.Reads) (hf : ∀ a, Spares kept closed fs (f a fs).2) :
    Spares kept closed fs ((x >>= f) fs).2 := by
  have hsame := hx fs
  apply bind
  · rw [hsame]
    exact refl fs
  · intro a fs' hresult
    rw [hresult] at hsame
    rw [show fs' = fs from hsame]
    exact hf a

theorem mapError {ε' : Type} {x : Call ε α} {g : ε → ε'} (hx : Spares kept closed fs (x fs).2) :
    Spares kept closed fs (x.mapError g fs).2 := by
  unfold Call.mapError
  cases hresult : x fs with
  | mk result fs' =>
    rw [hresult] at hx
    cases result with
    | ok a => exact hx
    | error e => exact hx

theorem writeFile (hlinks : NoLinks fs) (hkept : kept path → fs.get path = none) (hclosed : ¬ closed path) :
    Spares kept closed fs (FileSystem.writeFile path bytes fs).2 := by
  cases hresult : FileSystem.writeFile path bytes fs with
  | mk result fs' =>
    cases result with
    | ok _ => exact of_wrote (hlinks.writeFile hresult) hkept hclosed
    | error e =>
      -- What cannot be written is left alone.
      have hsame : fs' = fs := by
        unfold FileSystem.writeFile at hresult
        split at hresult
        · split_ifs at hresult
          · exact (Prod.mk.inj hresult).2.symm
          · cases hresult
        · cases hresult
        · exact (Prod.mk.inj hresult).2.symm
        · exact (Prod.mk.inj hresult).2.symm
      rw [hsame]
      exact refl fs

theorem removeFile (hlinks : NoLinks fs) (hkept : ¬ kept path) :
    Spares kept closed fs (FileSystem.removeFile path fs).2 := by
  unfold FileSystem.removeFile
  split
  · rename_i real hreal
    obtain rfl := hlinks.locate hreal
    split_ifs with hdir
    · exact refl fs
    · exact remove hlinks hdir hkept
  · exact refl fs
  · exact refl fs

end Spares

/-! ### Calls -/

namespace Call

variable {kept closed : Path → Prop} {ε ε' α β : Type}

theorem reads_pure (a : α) : Reads (pure a : Call ε α) := fun _ => rfl

theorem reads_leave (e : ε) : Reads (leave e : Call ε α) := fun _ => rfl

theorem Reads.bind {x : Call ε α} {f : α → Call ε β} (hx : Reads x) (hf : ∀ a, Reads (f a)) : Reads (x >>= f) := by
  intro fs
  have hsame := hx fs
  cases hresult : x fs with
  | mk result fs' =>
    rw [hresult] at hsame
    cases result with
    | ok a =>
      rw [bind_of_ok hresult]
      exact (hf a fs').trans hsame
    | error e =>
      rw [bind_of_error hresult]
      exact hsame

/-- However the call ends, it spares the paths. -/
def Spares (kept closed : Path → Prop) (x : Call ε α) : Prop := ∀ fs, NoLinks fs → Files.Spares kept closed fs (x fs).2

namespace Spares

theorem of_reads {x : Call ε α} (hx : Reads x) : Spares kept closed x := by
  intro fs _
  rw [hx fs]
  exact .refl fs

theorem pure (a : α) : Spares kept closed (Pure.pure a : Call ε α) := of_reads (reads_pure a)

theorem leave (e : ε) : Spares kept closed (Call.leave e : Call ε α) := of_reads (reads_leave e)

theorem ofExcept (x : Except ε α) : Spares kept closed (Call.ofExcept x) := of_reads (reads_ofExcept x)

theorem bind {x : Call ε α} {f : α → Call ε β} (hx : Spares kept closed x) (hf : ∀ a, Spares kept closed (f a)) :
    Spares kept closed (x >>= f) := by
  intro fs hlinks
  apply (hx fs hlinks).bind
  intro a fs' hresult
  have hspares := hx fs hlinks
  rw [hresult] at hspares
  exact hf a fs' (hlinks.extends_ hspares.extends_)

theorem mapError {x : Call ε α} (hx : Spares kept closed x) (g : ε → ε') : Spares kept closed (x.mapError g) :=
  fun fs hlinks => (hx fs hlinks).mapError

theorem each {f : α → Call ε β} {as : List α} (hf : ∀ a ∈ as, Spares kept closed (f a)) :
    Spares kept closed (Call.each f as) := by
  induction as with
  | nil => exact pure []
  | cons a as ih =>
    have hrest := ih fun a' ha' => hf a' (List.mem_cons_of_mem _ ha')
    rw [Call.each]
    exact (hf a List.mem_cons_self).bind fun b => hrest.bind fun bs => pure (b :: bs)

theorem makeDirectories (path : Path) : Spares kept closed (FileSystem.makeDirectories path) := by
  intro fs _
  cases hresult : FileSystem.makeDirectories path fs with
  | mk result fs' => exact .of_onlyDirs (onlyDirs_makeDirectories hresult)

theorem writeFile (hkept : ¬ kept path) (hclosed : ¬ closed path) (bytes : List UInt8) :
    Spares kept closed (FileSystem.writeFile path bytes) :=
  fun _ hlinks => .writeFile hlinks (fun hpath => absurd hpath hkept) hclosed

theorem removeFile (hkept : ¬ kept path) : Spares kept closed (FileSystem.removeFile path) :=
  fun _ hlinks => .removeFile hlinks hkept

theorem copyFile (hkept : ¬ kept path) (hclosed : ¬ closed path) (source : Path) :
    Spares kept closed (FileSystem.copyFile source path) := by
  have hread : Spares kept closed (Call.ask (FileSystem.readFile · source) : Call FsError _) := of_reads (reads_ask _)
  exact hread.bind fun bytes => (ofExcept bytes).bind fun bytes => writeFile hkept hclosed bytes

end Spares

end Call

end Files
