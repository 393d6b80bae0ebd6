import EasyMc.Library.FileSystem

/-!
# Programs that call a file system

`Call ε α` is a computation on a file system that may be left early; what it has done by then stays done.  The calls are
those of an operating system: `lstat`, `realpath`, `readFile`, `readdir`, `mkdir`, `writeFile`, `rename`, `rm` and
`copyFile`.

A call that writes says what it does by `Wrote`: one file holds the bytes, and elsewhere at most directories have been
made.  It writes where the path is (`Anchored.writeFile`, `Anchored.replace`, `Anchored.copyFile`) if the path is anchored
in a directory and no link stands on the way down from there.  A program that writes nothing before it is left for some
reason `Stays` in that case.

Directories are not moved.
-/

namespace Files

variable {fs fs' fs'' : FileSystem}

/-- A computation on a file system that may be left early. -/
def Call (ε α : Type) : Type := FileSystem → Except ε α × FileSystem

namespace Call

variable {ε ε' α β : Type}

instance : Monad (Call ε) where
  pure a := fun fs => (.ok a, fs)
  bind x f := fun fs =>
    match x fs with
    | (.ok a, fs') => f a fs'
    | (.error e, fs') => (.error e, fs')

/-- Leave the computation. -/
def leave (e : ε) : Call ε α := fun fs => (.error e, fs)

/-- Ask the file system. -/
def ask (f : FileSystem → α) : Call ε α := fun fs => (.ok (f fs), fs)

/-- What is there, or else the reason to leave. -/
def ofExcept : Except ε α → Call ε α
  | .ok a => pure a
  | .error e => leave e

/-- A computation that leaves with something else. -/
def mapError (f : ε → ε') (x : Call ε α) : Call ε' α := fun fs =>
  match x fs with
  | (.ok a, fs') => (.ok a, fs')
  | (.error e, fs') => (.error (f e), fs')

/-- A computation with what is done if it is left. -/
def onError (x : Call ε α) (cleanup : Call ε Unit) : Call ε α := fun fs =>
  match x fs with
  | (.ok a, fs') => (.ok a, fs')
  | (.error e, fs') => (cleanup >>= fun _ => leave e) fs'

theorem bind_of_ok {x : Call ε α} {a : α} (h : x fs = (.ok a, fs')) (f : α → Call ε β) : (x >>= f) fs = f a fs' := by
  show (match x fs with
    | (.ok a, fs') => f a fs'
    | (.error e, fs') => (.error e, fs')) = f a fs'
  rw [h]

theorem bind_of_error {x : Call ε α} {e : ε} (h : x fs = (.error e, fs')) (f : α → Call ε β) :
    (x >>= f) fs = (.error e, fs') := by
  show (match x fs with
    | (.ok a, fs') => f a fs'
    | (.error e, fs') => (.error e, fs')) = (.error e, fs')
  rw [h]

theorem bind_eq_ok {x : Call ε α} {f : α → Call ε β} {b : β} :
    (x >>= f) fs = (.ok b, fs') ↔ ∃ a fs'', x fs = (.ok a, fs'') ∧ f a fs'' = (.ok b, fs') := by
  cases hx : x fs with
  | mk result fs'' =>
    cases result with
    | ok a =>
      rw [bind_of_ok hx]
      simp
    | error e =>
      rw [bind_of_error hx]
      simp

theorem bind_eq_error {x : Call ε α} {f : α → Call ε β} {e : ε} :
    (x >>= f) fs = (.error e, fs') ↔
      x fs = (.error e, fs') ∨ ∃ a fs'', x fs = (.ok a, fs'') ∧ f a fs'' = (.error e, fs') := by
  cases hx : x fs with
  | mk result fs'' =>
    cases result with
    | ok a =>
      rw [bind_of_ok hx]
      simp
    | error e =>
      rw [bind_of_error hx]
      simp

theorem mapError_eq_ok {x : Call ε α} {f : ε → ε'} {a : α} :
    x.mapError f fs = (.ok a, fs') ↔ x fs = (.ok a, fs') := by
  unfold mapError
  cases x fs with
  | mk result fs'' =>
    cases result with
    | ok a => simp
    | error e => simp

theorem mapError_eq_error {x : Call ε α} {f : ε → ε'} {e' : ε'} :
    x.mapError f fs = (.error e', fs') ↔ ∃ e, x fs = (.error e, fs') ∧ f e = e' := by
  unfold mapError
  cases x fs with
  | mk result fs'' =>
    cases result with
    | ok a => simp
    | error e => simp [and_comm]

theorem onError_eq_ok {x : Call ε α} {cleanup : Call ε Unit} {a : α} :
    x.onError cleanup fs = (.ok a, fs') ↔ x fs = (.ok a, fs') := by
  unfold onError
  cases x fs with
  | mk result fs'' =>
    cases result with
    | ok a => simp
    | error e => simp [bind_eq_ok, leave]

theorem pure_eq_ok {a b : α} : (pure a : Call ε α) fs = (.ok b, fs') ↔ a = b ∧ fs = fs' := by
  simp [pure]

theorem ofExcept_eq_ok {x : Except ε α} {a : α} : ofExcept x fs = (.ok a, fs') ↔ x = .ok a ∧ fs = fs' := by
  cases x with
  | ok b => simp [ofExcept, pure]
  | error e => simp [ofExcept, leave]

theorem ask_bind (f : FileSystem → α) (g : α → Call ε β) : (ask f >>= g) fs = g (f fs) fs := rfl

theorem ofExcept_bind_eq_ok {x : Except ε α} {f : α → Call ε β} {b : β} :
    (ofExcept x >>= f) fs = (.ok b, fs') ↔ ∃ a, x = .ok a ∧ f a fs = (.ok b, fs') := by
  cases x with
  | ok a =>
    show f a fs = _ ↔ _
    simp
  | error e =>
    show ((.error e, fs) : Except ε β × FileSystem) = _ ↔ _
    simp

theorem mapError_bind_eq_ok {x : Call ε α} {g : ε → ε'} {f : α → Call ε' β} {b : β} :
    (x.mapError g >>= f) fs = (.ok b, fs') ↔ ∃ a fs'', x fs = (.ok a, fs'') ∧ f a fs'' = (.ok b, fs') := by
  simp only [bind_eq_ok, mapError_eq_ok]

/-- One computation after the other, for each value of a list. -/
def each (f : α → Call ε β) : List α → Call ε (List β)
  | [] => pure []
  | a :: as => do
    let b ← f a
    let bs ← each f as
    pure (b :: bs)

theorem each_cons_eq_ok {f : α → Call ε β} {a : α} {as : List α} {results : List β} :
    each f (a :: as) fs = (.ok results, fs') ↔ ∃ b bs fs'', f a fs = (.ok b, fs'') ∧
      each f as fs'' = (.ok bs, fs') ∧ results = b :: bs := by
  rw [each, bind_eq_ok]
  simp only [bind_eq_ok, pure_eq_ok]
  constructor
  · rintro ⟨b, fs₁, hb, bs, fs₂, hbs, rfl, rfl⟩
    exact ⟨b, bs, fs₁, hb, hbs, rfl⟩
  · rintro ⟨b, bs, fs₁, hb, hbs, rfl⟩
    exact ⟨b, fs₁, hb, bs, fs', hbs, rfl, rfl⟩

/-- What each computation keeps, all of them keep. -/
theorem each_related {f : α → Call ε β} (R : FileSystem → FileSystem → Prop) (hrefl : ∀ fs, R fs fs)
    (htrans : ∀ {fs fs' fs''}, R fs fs' → R fs' fs'' → R fs fs'') {as : List α} {results : List β}
    (hstep : ∀ a ∈ as, ∀ fs b fs', f a fs = (.ok b, fs') → R fs fs') (h : each f as fs = (.ok results, fs')) : R fs fs' := by
  induction as generalizing fs results with
  | nil =>
    cases h
    exact hrefl _
  | cons a as ih =>
    obtain ⟨b, bs, fs₁, hb, hbs, -⟩ := each_cons_eq_ok.1 h
    exact htrans (hstep a List.mem_cons_self fs b fs₁ hb) (ih (fun a' ha' => hstep a' (List.mem_cons_of_mem _ ha')) hbs)

/-- The computation only reads. -/
def Reads (x : Call ε α) : Prop := ∀ fs, (x fs).2 = fs

theorem reads_ask (f : FileSystem → α) : Reads (ask f : Call ε α) := fun _ => rfl

theorem reads_ofExcept (x : Except ε α) : Reads (ofExcept x) := by
  intro fs
  cases x with
  | ok a => rfl
  | error e => rfl

/-- If the computation is left for such a reason, then the file system is as it was. -/
def Stays (P : ε → Prop) (x : Call ε α) : Prop := ∀ fs e fs', x fs = (.error e, fs') → P e → fs' = fs

namespace Stays

variable {P : ε → Prop}

theorem leave (e : ε) : Stays P (Call.leave e : Call ε α) := by
  intro fs e' fs' h
  cases h
  exact fun _ => rfl

theorem bind_reads {x : Call ε α} {f : α → Call ε β} (hx : Reads x) (hf : ∀ a, Stays P (f a)) : Stays P (x >>= f) := by
  intro fs e fs' h he
  have hfs := hx fs
  rcases bind_eq_error.1 h with herror | ⟨a, fs'', hok, herror⟩
  · rw [herror] at hfs
    exact hfs
  · rw [hok] at hfs
    rw [hf a fs'' e fs' herror he]
    exact hfs

/-- A computation that is not left for such a reason, and nothing after it. -/
theorem map_mapError {x : Call ε' α} {g : ε' → ε} (hg : ∀ e, ¬ P (g e)) (f : α → β) :
    Stays P (x.mapError g >>= fun a => pure (f a)) := by
  intro fs e fs' h he
  rcases bind_eq_error.1 h with herror | ⟨a, fs'', -, herror⟩
  · obtain ⟨e', -, rfl⟩ := mapError_eq_error.1 herror
    exact absurd he (hg e')
  · cases herror

end Stays

end Call

/-! ### Reading -/

namespace FileSystem

section Reading

variable (fs : FileSystem)

/-- Where the last name of a path stands, a link there not being followed. -/
def locate (path : Path) : Except FsError Path :=
  match fs.lookup path.dropLast with
  | .found real => if fs.get real = some .dir then .ok (real ++ path.getLast?.toList) else .error .notDirectory
  | .missing _ _ => .error .notFound
  | .failed error => .error error

/-- `lstat`. -/
def lstat (path : Path) : Except FsError Node :=
  match fs.locate path with
  | .ok real =>
    match fs.get real with
    | some node => .ok node
    | none => .error .notFound
  | .error error => .error error

/-- `realpath`. -/
def realpath (path : Path) : Except FsError Path :=
  match fs.lookup path with
  | .found real => .ok real
  | .missing _ _ => .error .notFound
  | .failed error => .error error

/-- The path leads to something. -/
def exists_ (path : Path) : Bool :=
  match fs.lookup path with
  | .found _ => true
  | _ => false

/-- The bytes of a file. -/
def readFile (path : Path) : Except FsError (List UInt8) :=
  match fs.lookup path with
  | .found real =>
    match fs.get real with
    | some (.file bytes) => .ok bytes
    | some .dir => .error .isDirectory
    | _ => .error .notFound
  | .missing _ _ => .error .notFound
  | .failed error => .error error

/-- The names in a directory, each with its node. -/
def children (real : Path) : List (String × Node) :=
  fs.nodes.entries.filterMap fun entry =>
    match entry.1.getLast? with
    | some name => if entry.1 = real ++ [name] then some (name, entry.2) else none
    | none => none

/-- `readdir`. -/
def readdir (path : Path) : Except FsError (List (String × Node)) :=
  match fs.lookup path with
  | .found real => if fs.get real = some .dir then .ok (fs.children real) else .error .notDirectory
  | .missing _ _ => .error .notFound
  | .failed error => .error error

end Reading

def isLink : Node → Bool
  | .link _ => true
  | _ => false

/-- There is a link at the path. -/
def isLinkAt (fs : FileSystem) (path : Path) : Bool :=
  match fs.lstat path with
  | .ok node => isLink node
  | .error _ => false

theorem realpath_eq_ok {path real : Path} : fs.realpath path = .ok real ↔ fs.lookup path = .found real := by
  unfold realpath
  split <;> simp_all

theorem readFile_eq_ok {path : Path} {bytes : List UInt8} :
    fs.readFile path = .ok bytes ↔ ∃ real, fs.lookup path = .found real ∧ fs.get real = some (.file bytes) := by
  unfold readFile
  split
  · split <;> simp_all
  · simp_all
  · simp_all

theorem locate_eq_ok {path real : Path} (h : fs.locate path = .ok real) :
    ∃ base, fs.lookup path.dropLast = .found base ∧ fs.get base = some .dir ∧ real = base ++ path.getLast?.toList := by
  unfold locate at h
  split at h
  · rename_i base hfound
    split_ifs at h with hdir
    exact ⟨base, hfound, hdir, (Except.ok.inj h).symm⟩
  · cases h
  · cases h

/-- Where a name stands there is a directory above it. -/
theorem dir_of_locate {path real : Path} (h : fs.locate path = .ok real) (hreal : fs.get real ≠ some .dir) :
    real ≠ [] ∧ fs.get real.dropLast = some .dir := by
  obtain ⟨base, hfound, hdir, rfl⟩ := locate_eq_ok h
  rcases List.eq_nil_or_concat' path with rfl | ⟨start, name, rfl⟩
  · rw [List.getLast?_nil, Option.toList_none, List.append_nil] at hreal
    exact absurd hdir hreal
  · simp [hdir]

theorem mem_children {real : Path} {name : String} {node : Node} :
    (name, node) ∈ fs.children real ↔ fs.get (real ++ [name]) = some node := by
  rw [children, List.mem_filterMap, get, nodeAt, if_neg (by simp), ← JsMap.mem_entries_iff]
  constructor
  · rintro ⟨⟨path, found⟩, hmem, hentry⟩
    dsimp only at hentry
    split at hentry
    · split_ifs at hentry with hpath
      obtain ⟨rfl, rfl⟩ := Prod.mk.inj (Option.some_inj.1 hentry)
      exact hpath ▸ hmem
    · cases hentry
  · intro hmem
    exact ⟨_, hmem, by simp⟩

/-- What is found is shown by `lstat`. -/
theorem exists_lstat {path real : Path} (h : fs.lookup path = .found real) : ∃ node, fs.lstat path = .ok node := by
  rcases List.eq_nil_or_concat' path with rfl | ⟨start, name, rfl⟩
  · exact ⟨.dir, rfl⟩
  · obtain ⟨base, hstart, hdir⟩ := fs.follow_start fs.get_nil h (by simp)
    have hstart : fs.lookup start = .found base := hstart
    rw [lstat, locate, List.dropLast_concat, hstart]
    dsimp only
    rw [if_pos hdir, List.getLast?_concat, Option.toList_some]
    dsimp only
    cases hnode : fs.get (base ++ [name]) with
    | some node => exact ⟨node, rfl⟩
    | none =>
      rw [fs.lookup_append hstart hdir, follow, hnode] at h
      cases h

/-- A name that is no link leads to where it stands. -/
theorem lookup_of_lstat {path : Path} {name : String} {node : Node} (h : fs.lstat (path ++ [name]) = .ok node)
    (hlink : isLink node = false) :
    ∃ base, fs.lookup path = .found base ∧ fs.lookup (path ++ [name]) = .found (base ++ [name]) := by
  unfold lstat at h
  split at h
  · rename_i real hreal
    obtain ⟨base, hfound, hdir, rfl⟩ := locate_eq_ok hreal
    rw [List.dropLast_concat] at hfound
    rw [List.getLast?_concat, Option.toList_some] at h
    refine ⟨base, hfound, ?_⟩
    rw [fs.lookup_append hfound hdir, follow]
    cases hnode : fs.get (base ++ [name]) with
    | none =>
      rw [hnode] at h
      cases h
    | some found =>
      rw [hnode] at h
      obtain rfl := Except.ok.inj h
      cases found with
      | file bytes => rfl
      | dir => rfl
      | link target => cases hlink
  · cases h

/-- A name that is missing, and no link, is missing where it stands. -/
theorem eq_of_missing {start base real : Path} {name : String} (hstart : fs.lookup start = .found base)
    (hbase : fs.get base = some .dir) (hmissing : fs.lookup (start ++ [name]) = .missing real [])
    (hlink : fs.isLinkAt (start ++ [name]) = false) : real = base ++ [name] := by
  rw [fs.lookup_append hstart hbase, follow] at hmissing
  cases hnode : fs.get (base ++ [name]) with
  | none =>
    rw [hnode] at hmissing
    cases hmissing
    rfl
  | some node =>
    cases node with
    | file bytes =>
      rw [hnode] at hmissing
      cases hmissing
    | dir =>
      rw [hnode] at hmissing
      cases hmissing
    | link target =>
      have hlstat : fs.lstat (start ++ [name]) = .ok (.link target) := by
        rw [lstat, locate, List.dropLast_concat, hstart]
        dsimp only
        rw [if_pos hbase, List.getLast?_concat, Option.toList_some]
        dsimp only
        rw [hnode]
      rw [isLinkAt, hlstat] at hlink
      cases hlink

/-! ### Writing -/

/-- Make the directories of a path below `start` that are not there. -/
def makeDirectoriesFrom : Path → List String → Call FsError Unit
  | _, [] => pure ()
  | start, name :: rest => fun fs =>
    match fs.lookup (start ++ [name]) with
    | .found real =>
      if fs.get real = some .dir then makeDirectoriesFrom (start ++ [name]) rest fs else (.error .alreadyExists, fs)
    | .missing real [] =>
      -- A link to nothing is in the way.
      if fs.isLinkAt (start ++ [name]) then (.error .alreadyExists, fs)
      else makeDirectoriesFrom (start ++ [name]) rest (fs.put real .dir)
    | .missing _ _ => (.error .notFound, fs)
    | .failed error => (.error error, fs)

/-- `mkdir`, recursive. -/
def makeDirectories (path : Path) : Call FsError Unit := makeDirectoriesFrom [] path

def writeFile (path : Path) (bytes : List UInt8) : Call FsError Unit := fun fs =>
  match fs.lookup path with
  | .found real => if fs.get real = some .dir then (.error .isDirectory, fs) else (.ok (), fs.put real (.file bytes))
  | .missing real [] => (.ok (), fs.put real (.file bytes))
  | .missing _ _ => (.error .notFound, fs)
  | .failed error => (.error error, fs)

/-- `rename`, which replaces a file or a link. -/
def rename (source target : Path) : Call FsError Unit := fun fs =>
  match fs.locate source, fs.locate target with
  | .ok real, .ok real' =>
    match fs.get real with
    | none => (.error .notFound, fs)
    | some node =>
      if node = .dir ∨ fs.get real' = some .dir then (.error .isDirectory, fs)
      else if real = real' then (.ok (), fs)
      else (.ok (), (fs.remove real).put real' node)
  | .error error, _ => (.error error, fs)
  | .ok _, .error error => (.error error, fs)

/-- `rm` of a file or a link that need not be there. -/
def removeFile (path : Path) : Call FsError Unit := fun fs =>
  match fs.locate path with
  | .ok real => if fs.get real = some .dir then (.error .isDirectory, fs) else (.ok (), fs.remove real)
  | .error .notFound => (.ok (), fs)
  | .error error => (.error error, fs)

def copyFile (source target : Path) : Call FsError Unit := do
  let bytes ← Call.ofExcept (← Call.ask (FileSystem.readFile · source))
  writeFile target bytes

end FileSystem

/-! ### What writing does -/

/-- A file or a link is moved over anything but a directory. -/
theorem FileSystem.rename_eq_ok {source target : Path} (h : rename source target fs = (.ok (), fs')) :
    ∃ real real' node, fs.locate source = .ok real ∧ fs.locate target = .ok real' ∧ fs.get real = some node ∧
      fs.get real' ≠ some .dir ∧
      ∀ path, fs'.get path = if path = real' then some node else if path = real then none else fs.get path := by
  unfold rename at h
  split at h
  · rename_i real real' hreal hreal'
    cases hnode : fs.get real with
    | none =>
      rw [hnode] at h
      cases h
    | some node =>
      rw [hnode] at h
      dsimp only at h
      by_cases hdir : node = .dir ∨ fs.get real' = some .dir
      · rw [if_pos hdir] at h
        cases h
      · rw [if_neg hdir] at h
        rw [not_or] at hdir
        refine ⟨real, real', node, hreal, hreal', hnode, hdir.2, ?_⟩
        intro path
        by_cases hsame : real = real'
        · rw [if_pos hsame] at h
          cases h
          subst hsame
          split_ifs with hpath
          · rw [hpath, hnode]
          · rfl
        · rw [if_neg hsame] at h
          cases h
          have hnotDir : fs.get real ≠ some .dir := by simp [hnode, hdir.1]
          obtain ⟨hne, hparent⟩ := dir_of_locate hreal' hdir.2
          have hparent' : real'.dropLast ≠ real := by
            intro heq
            rw [heq] at hparent
            exact hnotDir hparent
          have hcan : (fs.remove real).CanPut real' node := by
            refine ⟨hne, ?_, ?_⟩
            · rw [get_remove hnotDir, if_neg hparent', hparent]
            · rw [get_remove hnotDir, if_neg (Ne.symm hsame)]
              exact fun h' => absurd h' hdir.2
          rw [get_put hcan, get_remove hnotDir]
  · cases h
  · cases h

/-- At most directories have been made. -/
def OnlyDirs (fs fs' : FileSystem) : Prop := ∀ path, fs'.get path = fs.get path ∨ (fs.get path = none ∧ fs'.get path = some .dir)

namespace OnlyDirs

theorem refl (fs : FileSystem) : OnlyDirs fs fs := fun _ => .inl rfl

theorem trans (h : OnlyDirs fs fs') (h' : OnlyDirs fs' fs'') : OnlyDirs fs fs'' := by
  intro path
  rcases h path with heq | ⟨hnone, hdir⟩
  · rw [← heq]
    exact h' path
  · rcases h' path with heq' | ⟨hnone', -⟩
    · exact .inr ⟨hnone, heq'.trans hdir⟩
    · rw [hdir] at hnone'
      cases hnone'

/-- What is there is kept. -/
theorem get_eq (h : OnlyDirs fs fs') {path : Path} (hsome : fs.get path ≠ none) : fs'.get path = fs.get path :=
  (h path).resolve_right fun hnone => hsome hnone.1

/-- What is not a directory has been there. -/
theorem get_iff (h : OnlyDirs fs fs') {path : Path} {node : Node} (hnode : node ≠ .dir) :
    fs'.get path = some node ↔ fs.get path = some node := by
  rcases h path with heq | ⟨hnone, hdir⟩
  · rw [heq]
  · simp [hnone, hdir, hnode.symm]

theorem extends_ (h : OnlyDirs fs fs') : Extends fs fs' := by
  constructor
  · intro path hdir
    rw [h.get_eq (by simp [hdir]), hdir]
  · intro path target
    exact h.get_iff (by simp)

end OnlyDirs

theorem onlyDirs_makeDirectoriesFrom {start rest : List String} {result : Except FsError Unit}
    (h : FileSystem.makeDirectoriesFrom start rest fs = (result, fs')) : OnlyDirs fs fs' := by
  induction rest generalizing start fs with
  | nil =>
    cases h
    exact OnlyDirs.refl _
  | cons name rest ih =>
    unfold FileSystem.makeDirectoriesFrom at h
    split at h
    · split_ifs at h
      · exact ih h
      · cases h
        exact OnlyDirs.refl _
    · rename_i real hmissing
      split_ifs at h
      · cases h
        exact OnlyDirs.refl _
      · obtain ⟨hreal, hparent, hnone⟩ := FileSystem.lookupAt_missing _ hmissing
        have hcan : fs.CanPut real .dir := ⟨hreal, hparent, fun _ => rfl⟩
        refine OnlyDirs.trans ?_ (ih h)
        intro path
        rw [FileSystem.get_put hcan]
        split_ifs with hpath
        · exact .inr ⟨hpath ▸ hnone, rfl⟩
        · exact .inl rfl
    · cases h
      exact OnlyDirs.refl _
    · cases h
      exact OnlyDirs.refl _

theorem onlyDirs_makeDirectories {path : Path} {result : Except FsError Unit}
    (h : FileSystem.makeDirectories path fs = (result, fs')) : OnlyDirs fs fs' := onlyDirs_makeDirectoriesFrom h

/-- Directories that have been made are there. -/
theorem makeDirectoriesFrom_found {start rest : List String} {base : Path} (hstart : fs.lookup start = .found base)
    (hbase : fs.get base = some .dir) (h : FileSystem.makeDirectoriesFrom start rest fs = (.ok (), fs')) :
    ∃ real, fs'.lookup (start ++ rest) = .found real ∧ fs'.get real = some .dir := by
  induction rest generalizing start base fs with
  | nil =>
    cases h
    rw [List.append_nil]
    exact ⟨base, hstart, hbase⟩
  | cons name rest ih =>
    rw [List.append_cons]
    unfold FileSystem.makeDirectoriesFrom at h
    split at h
    · rename_i real hfound
      split_ifs at h with hdir
      · exact ih hfound hdir h
      · cases h
    · rename_i real hmissing
      split_ifs at h with hlink
      · cases h
      · rw [Bool.not_eq_true] at hlink
        obtain rfl := FileSystem.eq_of_missing hstart hbase hmissing hlink
        obtain ⟨hne, hparent, hnone⟩ := FileSystem.lookupAt_missing _ hmissing
        have hcan : fs.CanPut (base ++ [name]) .dir := ⟨hne, hparent, fun _ => rfl⟩
        have hextends := Extends.put_dir hcan hnone
        have hstart' := hextends.lookup_found hstart ((hextends.dirs _ hbase).trans hbase.symm)
        have hname : (fs.put (base ++ [name]) .dir).get (base ++ [name]) = some .dir := by
          rw [FileSystem.get_put hcan, if_pos rfl]
        have hfound : (fs.put (base ++ [name]) .dir).lookup (start ++ [name]) = .found (base ++ [name]) := by
          rw [FileSystem.lookup_append _ hstart' (hextends.dirs _ hbase), FileSystem.follow, hname]
          rfl
        exact ih hfound hname h
    · cases h
    · cases h

theorem makeDirectories_found {path : Path} (h : FileSystem.makeDirectories path fs = (.ok (), fs')) :
    ∃ real, fs'.lookup path = .found real ∧ fs'.get real = some .dir :=
  makeDirectoriesFrom_found rfl fs.get_nil h

/-- Where the directories lead to something that has been there, none has been made. -/
theorem makeDirectoriesFrom_kept {start rest : List String} {base real : Path} (hstart : fs.lookup start = .found base)
    (hbase : fs.get base = some .dir) (h : FileSystem.makeDirectoriesFrom start rest fs = (.ok (), fs'))
    (hreal : fs'.lookup (start ++ rest) = .found real) (hkept : fs.get real ≠ none) : fs' = fs := by
  induction rest generalizing start base with
  | nil =>
    cases h
    rfl
  | cons name rest ih =>
    rw [List.append_cons] at hreal
    unfold FileSystem.makeDirectoriesFrom at h
    split at h
    · rename_i found hfound
      split_ifs at h with hdir
      · exact ih hfound hdir h hreal
      · cases h
    · rename_i missing hmissing
      split_ifs at h with hlink
      · cases h
      · rw [Bool.not_eq_true] at hlink
        obtain rfl := FileSystem.eq_of_missing hstart hbase hmissing hlink
        obtain ⟨hne, hparent, hnone⟩ := FileSystem.lookupAt_missing _ hmissing
        have hcan : fs.CanPut (base ++ [name]) .dir := ⟨hne, hparent, fun _ => rfl⟩
        have hextends := (Extends.put_dir hcan hnone).trans (onlyDirs_makeDirectoriesFrom h).extends_
        have hname : fs'.get (base ++ [name]) = some .dir := by
          apply (onlyDirs_makeDirectoriesFrom h).extends_.dirs
          rw [FileSystem.get_put hcan, if_pos rfl]
        -- Below the new directory there has been nothing.
        have hnothing : ∀ below, fs.get (base ++ [name] ++ below) = none := by
          intro below
          by_contra hsome
          by_cases hbelow : below = []
          · rw [hbelow, List.append_nil] at hsome
            exact hsome hnone
          · rw [fs.get_of_below hbelow hsome] at hnone
            cases hnone
        have hplain : Plain fs (base ++ [name]) rest := by
          intro below _ _ target
          rw [hnothing]
          simp
        have hstart' : fs'.lookup (start ++ [name]) = .found (base ++ [name]) := by
          have hstart₁ := hextends.lookup_found hstart ((hextends.dirs _ hbase).trans hbase.symm)
          rw [fs'.lookup_append hstart₁ (hextends.dirs _ hbase), FileSystem.follow, hname]
          rfl
        rw [fs'.lookup_append hstart' hname] at hreal
        rw [(hplain.extends_ hextends).follow_found hreal, hnothing] at hkept
        exact absurd rfl hkept
    · cases h
    · cases h

/-- The file at the path holds the bytes now, and elsewhere at most directories have been made. -/
structure Wrote (fs fs' : FileSystem) (path : Path) (bytes : List UInt8) : Prop where
  written : fs'.get path = some (.file bytes)
  before : fs.get path = none ∨ ∃ old, fs.get path = some (.file old)
  elsewhere : ∀ other, other ≠ path → fs'.get other = fs.get other ∨ (fs.get other = none ∧ fs'.get other = some .dir)

namespace Wrote

variable {path : Path} {bytes : List UInt8}

/-- A file is written where a file is or can be made. -/
theorem put (hcan : fs.CanPut path (.file bytes)) (hbefore : fs.get path = none ∨ ∃ old, fs.get path = some (.file old)) :
    Wrote fs (fs.put path (.file bytes)) path bytes := by
  refine ⟨?_, hbefore, ?_⟩
  · rw [FileSystem.get_put hcan, if_pos rfl]
  · intro other hother
    rw [FileSystem.get_put hcan, if_neg hother]
    exact .inl rfl

theorem after (hdirs : OnlyDirs fs fs') (h : Wrote fs' fs'' path bytes) : Wrote fs fs'' path bytes := by
  refine ⟨h.written, ?_, ?_⟩
  · rcases h.before with hnone | ⟨old, hold⟩
    · rcases hdirs path with heq | ⟨-, hdir⟩
      · exact .inl (heq ▸ hnone)
      · rw [hdir] at hnone
        cases hnone
    · exact .inr ⟨old, (hdirs.get_iff (by simp)).1 hold⟩
  · intro other hother
    rcases hdirs other with heq | ⟨hnone, hdir⟩
    · rw [← heq]
      exact h.elsewhere other hother
    · rcases h.elsewhere other hother with heq' | ⟨hnone', -⟩
      · exact .inr ⟨hnone, heq'.trans hdir⟩
      · rw [hdir] at hnone'
        cases hnone'

theorem extends_ (h : Wrote fs fs' path bytes) : Extends fs fs' := by
  constructor
  · intro other hdir
    have hother : other ≠ path := by
      rintro rfl
      rcases h.before with hnone | ⟨old, hold⟩
      · rw [hdir] at hnone
        cases hnone
      · rw [hdir] at hold
        cases hold
    rcases h.elsewhere other hother with heq | ⟨-, hdir'⟩
    · rw [heq, hdir]
    · exact hdir'
  · intro other target
    by_cases hother : other = path
    · subst hother
      rcases h.before with hnone | ⟨old, hold⟩
      · simp [h.written, hnone]
      · simp [h.written, hold]
    · rcases h.elsewhere other hother with heq | ⟨hnone, hdir⟩
      · rw [heq]
      · simp [hnone, hdir]

/-- A file that is there afterwards is the one that has been written, or has been there. -/
theorem get_file (h : Wrote fs fs' path bytes) {other : Path} {contents : List UInt8}
    (hfile : fs'.get other = some (.file contents)) :
    (other = path ∧ contents = bytes) ∨ (other ≠ path ∧ fs.get other = some (.file contents)) := by
  by_cases hother : other = path
  · subst hother
    rw [h.written] at hfile
    cases hfile
    exact .inl ⟨rfl, rfl⟩
  · rcases h.elsewhere other hother with heq | ⟨-, hdir⟩
    · exact .inr ⟨hother, heq ▸ hfile⟩
    · rw [hdir] at hfile
      cases hfile

/-- Another file is kept. -/
theorem kept (h : Wrote fs fs' path bytes) {other : Path} (hother : other ≠ path) {contents : List UInt8}
    (hfile : fs.get other = some (.file contents)) : fs'.get other = some (.file contents) := by
  rcases h.elsewhere other hother with heq | ⟨hnone, -⟩
  · exact heq.trans hfile
  · rw [hnone] at hfile
    cases hfile

end Wrote

namespace FileSystem

theorem file_of_ne {path : Path} (hsome : fs.get path ≠ none) (hdir : fs.get path ≠ some .dir)
    (hlink : ∀ target, fs.get path ≠ some (.link target)) : ∃ old, fs.get path = some (.file old) := by
  cases hnode : fs.get path with
  | none => exact absurd hnode hsome
  | some node =>
    cases node with
    | file old => exact ⟨old, rfl⟩
    | dir => exact absurd hnode hdir
    | link target => exact absurd hnode (hlink target)

theorem canPut_of_file {path : Path} {old bytes : List UInt8} (h : fs.get path = some (.file old)) :
    fs.CanPut path (.file bytes) := by
  obtain rfl | ⟨start, name, rfl⟩ := List.eq_nil_or_concat' path
  · cases h
  · refine ⟨by simp, ?_, by simp [h]⟩
    have hsome : fs.get (start ++ [name]) ≠ none := by simp [h]
    rw [List.dropLast_concat]
    exact fs.get_parent hsome

/-- A file is written where its path leads. -/
theorem writeFile_eq_ok {path : Path} {bytes : List UInt8} (h : writeFile path bytes fs = (.ok (), fs')) :
    ∃ real, (fs.lookup path = .found real ∨ fs.lookup path = .missing real []) ∧ Wrote fs fs' real bytes := by
  unfold writeFile at h
  split at h
  · rename_i real hfound
    split_ifs at h with hdir
    · cases h
    · cases h
      obtain ⟨old, hold⟩ := file_of_ne (fs.lookupAt_found hfound) hdir (fs.lookupAt_not_link hfound)
      exact ⟨real, .inl hfound, Wrote.put (canPut_of_file hold) (.inr ⟨old, hold⟩)⟩
  · rename_i real hmissing
    cases h
    obtain ⟨hne, hparent, hnone⟩ := fs.lookupAt_missing hmissing
    exact ⟨real, .inr hmissing, Wrote.put ⟨hne, hparent, by simp [hnone]⟩ (.inl hnone)⟩
  · cases h
  · cases h

/-- What is there is removed from where its name stands. -/
theorem removeFile_eq_ok {path real : Path} (hfound : fs.lookup path = .found real)
    (h : removeFile path fs = (.ok (), fs')) :
    ∃ place, fs.locate path = .ok place ∧ fs.get place ≠ some .dir ∧ fs' = fs.remove place := by
  obtain ⟨node, hnode⟩ := exists_lstat hfound
  unfold removeFile at h
  unfold lstat at hnode
  split at h
  · rename_i place hplace
    split_ifs at h with hdir
    · cases h
    · cases h
      exact ⟨place, hplace, hdir, rfl⟩
  · rename_i hmissing
    rw [hmissing] at hnode
    cases hnode
  · cases h

end FileSystem

/-- A file is read as before after directories have been made. -/
theorem OnlyDirs.readFile (h : OnlyDirs fs fs') {path : Path} {bytes : List UInt8} (hread : fs.readFile path = .ok bytes) :
    fs'.readFile path = .ok bytes := by
  obtain ⟨real, hfound, hfile⟩ := FileSystem.readFile_eq_ok.1 hread
  have hsome : fs.get real ≠ none := by simp [hfile]
  have hkept := h.get_eq hsome
  exact FileSystem.readFile_eq_ok.2 ⟨real, h.extends_.lookup_found hfound hkept, hkept.trans hfile⟩

/-! ### Paths that are anchored in a directory -/

/-- The first part of a path leads to a directory, and below it the rest is a way without links. -/
structure Anchored (fs : FileSystem) (top base : Path) (rest : List String) : Prop where
  found : fs.lookup top = .found base
  dir : fs.get base = some .dir
  plain : Plain fs base rest

namespace Anchored

variable {top base : Path} {rest : List String} {bytes : List UInt8}

theorem extends_ (h : Anchored fs top base rest) (hextends : Extends fs fs') : Anchored fs' top base rest :=
  ⟨hextends.lookup_found h.found ((hextends.dirs _ h.dir).trans h.dir.symm), hextends.dirs _ h.dir, h.plain.extends_ hextends⟩

theorem of_prefix {start : List String} (h : Anchored fs top base rest) (hstart : start <+: rest) :
    Anchored fs top base start := ⟨h.found, h.dir, h.plain.of_prefix hstart⟩

/-- One name more, which is no link. -/
theorem concat {name : String} (h : Anchored fs top base rest)
    (hlink : ∀ target, fs.get (base ++ (rest ++ [name])) ≠ some (.link target)) :
    Anchored fs top base (rest ++ [name]) := by
  refine ⟨h.found, h.dir, ?_⟩
  intro start hne hstart target
  rcases List.prefix_concat_iff.1 hstart with rfl | hstart
  · exact hlink target
  · exact h.plain start hne hstart target

theorem lookup_found (h : Anchored fs top base rest) {real : Path} (hfound : fs.lookup (top ++ rest) = .found real) :
    real = base ++ rest := by
  rw [fs.lookup_append h.found h.dir] at hfound
  exact h.plain.follow_found hfound

theorem lookup_missing (h : Anchored fs top base rest) {real : Path} {missing : List String}
    (hmissing : fs.lookup (top ++ rest) = .missing real missing) : real ++ missing = base ++ rest := by
  rw [fs.lookup_append h.found h.dir] at hmissing
  exact h.plain.follow_missing hmissing

theorem lookup_of_get (h : Anchored fs top base rest) (hget : fs.get (base ++ rest) ≠ none) :
    fs.lookup (top ++ rest) = .found (base ++ rest) := by
  rw [fs.lookup_append h.found h.dir]
  exact h.plain.follow_of_get hget

/-- At the end of the way `lstat` shows what stands there. -/
theorem lstat_of_get {name : String} {node : Node} (h : Anchored fs top base rest)
    (hnode : fs.get (base ++ rest ++ [name]) = some node) : fs.lstat (top ++ rest ++ [name]) = .ok node := by
  have hsome : fs.get (base ++ rest ++ [name]) ≠ none := by
    rw [hnode]
    simp
  have hdir := fs.get_parent hsome
  have hfound := h.lookup_of_get (by simp [hdir])
  rw [FileSystem.lstat, FileSystem.locate, List.dropLast_concat, hfound]
  dsimp only
  rw [if_pos hdir, List.getLast?_concat, Option.toList_some]
  dsimp only
  rw [hnode]

theorem locate (h : Anchored fs top base rest) (hrest : rest ≠ []) {real : Path}
    (hreal : fs.locate (top ++ rest) = .ok real) : real = base ++ rest := by
  obtain ⟨base', hfound, -, rfl⟩ := FileSystem.locate_eq_ok hreal
  rw [List.dropLast_append_of_ne_nil hrest] at hfound
  rw [(h.of_prefix (List.dropLast_prefix rest)).lookup_found hfound, List.getLast?_append_of_ne_nil _ hrest,
    List.getLast?_eq_some_getLast hrest, Option.toList_some, List.append_assoc, List.dropLast_append_getLast]

theorem readFile (h : Anchored fs top base rest) (hget : fs.get (base ++ rest) = some (.file bytes)) :
    fs.readFile (top ++ rest) = .ok bytes :=
  FileSystem.readFile_eq_ok.2 ⟨base ++ rest, h.lookup_of_get (by simp [hget]), hget⟩

/-- At the end of the way there is nothing, a directory or a file. -/
theorem file_of_get (h : Anchored fs top base rest) (hsome : fs.get (base ++ rest) ≠ none)
    (hdir : fs.get (base ++ rest) ≠ some .dir) : ∃ old, fs.get (base ++ rest) = some (.file old) := by
  have hrest : rest ≠ [] := by
    rintro rfl
    rw [List.append_nil] at hdir
    exact hdir h.dir
  exact FileSystem.file_of_ne hsome hdir (h.plain rest hrest List.prefix_rfl)

/-- Only below a directory something is written. -/
theorem dir_of_writeFile (htop : fs.lookup top = .found base) (hrest : rest ≠ [])
    (hwrite : FileSystem.writeFile (top ++ rest) bytes fs = (.ok (), fs')) : fs.get base = some .dir := by
  by_contra hdir
  have hfailed : fs.lookup (top ++ rest) = .failed .notDirectory := fs.follow_append_file fs.get_nil htop hdir hrest
  unfold FileSystem.writeFile at hwrite
  rw [hfailed] at hwrite
  cases hwrite

/-- A file is written at the end of the way. -/
theorem writeFile (h : Anchored fs top base rest) (hwrite : FileSystem.writeFile (top ++ rest) bytes fs = (.ok (), fs')) :
    Wrote fs fs' (base ++ rest) bytes := by
  obtain ⟨real, hfound | hmissing, hwrote⟩ := FileSystem.writeFile_eq_ok hwrite
  · rw [h.lookup_found hfound] at hwrote
    exact hwrote
  · have hreal := h.lookup_missing hmissing
    rw [List.append_nil] at hreal
    rw [hreal] at hwrote
    exact hwrote

theorem copyFile (h : Anchored fs top base rest) {source : Path}
    (hcopy : FileSystem.copyFile source (top ++ rest) fs = (.ok (), fs')) :
    ∃ bytes, fs.readFile source = .ok bytes ∧ Wrote fs fs' (base ++ rest) bytes := by
  obtain ⟨bytes, hbytes, hwrite⟩ := Call.ofExcept_bind_eq_ok.1 hcopy
  exact ⟨bytes, hbytes, h.writeFile hwrite⟩

/-- A file is replaced by a new one that has been written beside it. -/
theorem replace {directory : List String} {temporary name : String}
    (h : Anchored fs top base (directory ++ [name])) (hfresh : fs.get (base ++ (directory ++ [temporary])) = none)
    (hwrite : FileSystem.writeFile (top ++ (directory ++ [temporary])) bytes fs = (.ok (), fs'))
    (hrename : FileSystem.rename (top ++ (directory ++ [temporary])) (top ++ (directory ++ [name])) fs' = (.ok (), fs'')) :
    Wrote fs fs'' (base ++ (directory ++ [name])) bytes := by
  have hbeside : Anchored fs top base (directory ++ [temporary]) :=
    (h.of_prefix (List.prefix_append _ _)).concat (by simp [hfresh])
  have hwrote := hbeside.writeFile hwrite
  obtain ⟨real, real', node, hreal, hreal', hnode, hnotDir, hget⟩ := FileSystem.rename_eq_ok hrename
  have hafter := h.extends_ hwrote.extends_
  obtain rfl := (hbeside.extends_ hwrote.extends_).locate (by simp) hreal
  obtain rfl := hafter.locate (by simp) hreal'
  obtain rfl : Node.file bytes = node := Option.some_inj.1 (hwrote.written.symm.trans hnode)
  refine ⟨?_, ?_, ?_⟩
  · rw [hget, if_pos rfl]
  · by_cases hsame : base ++ (directory ++ [name]) = base ++ (directory ++ [temporary])
    · rw [hsame]
      exact .inl hfresh
    · rcases hwrote.elsewhere _ hsame with heq | ⟨hnone, -⟩
      · rw [← heq]
        by_cases hnone : fs'.get (base ++ (directory ++ [name])) = none
        · exact .inl hnone
        · exact .inr (hafter.file_of_get hnone hnotDir)
      · exact .inl hnone
  · intro other hother
    rw [hget, if_neg hother]
    split_ifs with htemporary
    · rw [htemporary, hfresh]
      exact .inl rfl
    · exact hwrote.elsewhere other htemporary

end Anchored

end Files
