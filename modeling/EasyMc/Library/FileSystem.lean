import Mathlib.Data.List.Infix
import EasyMc.Library.JsMap

/-!
# File systems with symbolic links

A path is the list of its names from the top.  A `FileSystem` maps paths to files, directories and links, and whatever
is in it stands in a directory.  `lookup` resolves a path as the system calls do: it follows the links on the way,
which point to a path each.

What a program may do to a file system is mostly growth: `Extends` keeps directories and links, so that a path which has
been resolved is resolved as before (`Extends.lookup_found`).  Below a directory a path without links is where it says
it is (`Plain`).
-/

namespace Files

abbrev Path := List String

inductive Node
  | file (bytes : List UInt8)
  | dir
  | link (target : Path)
  deriving DecidableEq

inductive FsError
  | notFound
  | notDirectory
  | isDirectory
  | alreadyExists
  | tooManyLinks
  deriving DecidableEq

/-- The node at a path; the top is a directory. -/
def nodeAt (nodes : JsMap Path Node) (path : Path) : Option Node := if path = [] then some .dir else nodes.get path

structure FileSystem where
  nodes : JsMap Path Node
  inDirectory : ∀ path name, nodeAt nodes (path ++ [name]) ≠ none → nodeAt nodes path = some .dir

namespace FileSystem

def get (fs : FileSystem) (path : Path) : Option Node := nodeAt fs.nodes path

theorem get_nil (fs : FileSystem) : fs.get [] = some .dir := rfl

theorem get_parent (fs : FileSystem) {path : Path} {name : String} (h : fs.get (path ++ [name]) ≠ none) :
    fs.get path = some .dir := fs.inDirectory path name h

/-- Whatever is below a path makes it a directory. -/
theorem get_of_below (fs : FileSystem) {path rest : Path} (hrest : rest ≠ []) (h : fs.get (path ++ rest) ≠ none) :
    fs.get path = some .dir := by
  induction rest using List.reverseRecOn with
  | nil => exact absurd rfl hrest
  | append_singleton rest name ih =>
    rw [← List.append_assoc] at h
    have hparent := fs.get_parent h
    by_cases hnil : rest = []
    · rw [hnil, List.append_nil] at hparent
      exact hparent
    · exact ih hnil (by simp [hparent])

/-! ### Putting and removing a node -/

/-- The node can be put at the path: into a directory, and not over another one. -/
def CanPut (fs : FileSystem) (path : Path) (node : Node) : Prop :=
  path ≠ [] ∧ fs.get path.dropLast = some .dir ∧ (fs.get path = some .dir → node = .dir)

instance (fs : FileSystem) (path : Path) (node : Node) : Decidable (CanPut fs path node) :=
  inferInstanceAs (Decidable (_ ∧ _ ∧ (_ → _)))

private theorem nodeAt_set {nodes : JsMap Path Node} {path : Path} (hpath : path ≠ []) (node : Node) (p : Path) :
    nodeAt (nodes.set path node) p = if p = path then some node else nodeAt nodes p := by
  unfold nodeAt
  by_cases hp : p = []
  · subst hp
    rw [if_pos rfl, if_pos rfl, if_neg (Ne.symm hpath)]
  · rw [if_neg hp, if_neg hp, JsMap.get_set]
    simp only [eq_comm]

private theorem nodeAt_erase {nodes : JsMap Path Node} {path : Path} (hpath : path ≠ []) (p : Path) :
    nodeAt (nodes.erase path) p = if p = path then none else nodeAt nodes p := by
  unfold nodeAt
  by_cases hp : p = []
  · subst hp
    rw [if_pos rfl, if_pos rfl, if_neg (Ne.symm hpath)]
  · rw [if_neg hp, if_neg hp, JsMap.get_erase]
    simp only [eq_comm]

private theorem put_inDirectory {fs : FileSystem} {path : Path} {node : Node} (h : CanPut fs path node) (p : Path)
    (name : String) (hsome : nodeAt (fs.nodes.set path node) (p ++ [name]) ≠ none) :
    nodeAt (fs.nodes.set path node) p = some .dir := by
  obtain ⟨hpath, hparent, hdir⟩ := h
  rw [nodeAt_set hpath] at hsome ⊢
  split_ifs at hsome with hsame
  · -- The node itself: its directory is not where it is put.
    rw [← hsame, List.dropLast_concat] at hparent
    rw [if_neg, ← hparent]
    · rfl
    · intro heq
      have hlength := congrArg List.length (hsame.trans heq.symm)
      simp at hlength
  · have hp := fs.inDirectory p name hsome
    split_ifs with heq
    · have hold : fs.get path = some .dir := heq ▸ hp
      rw [hdir hold]
    · exact hp

/-- The file system with the node at the path, where that is possible. -/
def put (fs : FileSystem) (path : Path) (node : Node) : FileSystem :=
  if h : CanPut fs path node then ⟨fs.nodes.set path node, put_inDirectory h⟩ else fs

theorem get_put {fs : FileSystem} {path : Path} {node : Node} (h : CanPut fs path node) (p : Path) :
    (fs.put path node).get p = if p = path then some node else fs.get p := by
  rw [put, dif_pos h]
  exact nodeAt_set h.1 node p

private theorem remove_inDirectory {fs : FileSystem} {path : Path} (hpath : path ≠ []) (h : fs.get path ≠ some .dir)
    (p : Path) (name : String) (hsome : nodeAt (fs.nodes.erase path) (p ++ [name]) ≠ none) :
    nodeAt (fs.nodes.erase path) p = some .dir := by
  rw [nodeAt_erase hpath] at hsome ⊢
  split_ifs at hsome with hsame
  · exact absurd rfl hsome
  · have hp := fs.inDirectory p name hsome
    rw [if_neg]
    · exact hp
    · rintro rfl
      exact h hp

/-- The file system without the file or link at the path. -/
def remove (fs : FileSystem) (path : Path) : FileSystem :=
  if h : fs.get path ≠ some .dir ∧ path ≠ [] then ⟨fs.nodes.erase path, remove_inDirectory h.2 h.1⟩ else fs

theorem get_remove {fs : FileSystem} {path : Path} (h : fs.get path ≠ some .dir) (p : Path) :
    (fs.remove path).get p = if p = path then none else fs.get p := by
  have hpath : path ≠ [] := by
    rintro rfl
    exact h rfl
  rw [remove, dif_pos ⟨h, hpath⟩]
  exact nodeAt_erase hpath p

/-- There is nothing but the top. -/
def empty : FileSystem where
  nodes := JsMap.empty
  inDirectory := by
    intro path name h
    rw [nodeAt, if_neg (by simp), JsMap.get_empty] at h
    exact absurd rfl h

/-- A name that is longer than all those that are there. -/
def freshName (fs : FileSystem) : String :=
  String.ofList (List.replicate ((fs.nodes.entries.map fun entry => (entry.1.getLast?.getD "").toList.length).sum + 1) 'f')

/-- No name ends with the fresh one. -/
theorem freshName_fresh (fs : FileSystem) (path : Path) (name : String) (h : fs.get (path ++ [name]) ≠ none) :
    ¬ fs.freshName.toList <:+ name.toList := by
  intro hsuffix
  rw [get, nodeAt, if_neg (by simp)] at h
  obtain ⟨node, hnode⟩ := Option.ne_none_iff_exists'.1 h
  have hmem : name.toList.length ∈ fs.nodes.entries.map fun entry => (entry.1.getLast?.getD "").toList.length :=
    List.mem_map.2 ⟨_, JsMap.mem_entries_iff.2 hnode, by simp⟩
  have hle := List.single_le_sum (fun _ _ => Nat.zero_le _) _ hmem
  have hlength := hsuffix.length_le
  rw [freshName, String.toList_ofList, List.length_replicate] at hlength
  omega

end FileSystem

/-! ### Resolving paths -/

inductive Lookup
  | found (path : Path)
  | missing (path : Path) (rest : List String)
  | failed (error : FsError)
  deriving DecidableEq

namespace FileSystem

variable (fs : FileSystem)

/-- Go down from a directory, with `resolve` for the targets of links. -/
def follow (resolve : Path → Lookup) : Path → List String → Lookup
  | path, [] => .found path
  | path, name :: rest =>
    match fs.get (path ++ [name]) with
    | none => .missing (path ++ [name]) rest
    | some .dir => follow resolve (path ++ [name]) rest
    | some (.file _) => if rest = [] then .found (path ++ [name]) else .failed .notDirectory
    | some (.link target) =>
      match resolve target with
      | .found real =>
        if rest = [] then .found real
        else if fs.get real = some .dir then follow resolve real rest
        else .failed .notDirectory
      -- Only at the end of a path may a link point to something that can be made.
      | .missing real missing => if rest = [] ∧ missing = [] then .missing real [] else .failed .notFound
      | .failed error => .failed error

/-- The path, resolved with links to at most `depth` levels. -/
def lookupAt : Nat → Path → Lookup
  | 0, _ => .failed .tooManyLinks
  | depth + 1, path => fs.follow (lookupAt depth) [] path

def maxLinkDepth : Nat := 40

def lookup (path : Path) : Lookup := fs.lookupAt maxLinkDepth path

/-- What is found is there. -/
theorem lookupAt_found {depth : Nat} {path real : Path} (h : fs.lookupAt depth path = .found real) :
    fs.get real ≠ none := by
  induction depth generalizing path real with
  | zero => cases h
  | succ depth ih =>
    rw [lookupAt] at h
    suffices ∀ (rest : List String) (base : Path), fs.get base ≠ none →
        fs.follow (fs.lookupAt depth) base rest = .found real → fs.get real ≠ none from
      this path [] (by simp [get_nil]) h
    intro rest
    induction rest with
    | nil =>
      intro base hbase h
      cases h
      exact hbase
    | cons name rest ihrest =>
      intro base hbase h
      rw [follow] at h
      split at h
      · cases h
      · exact ihrest _ (by simp [*]) h
      · split_ifs at h
        cases h
        simp [*]
      · split at h
        · split_ifs at h with hrest hdir
          · cases h
            exact ih ‹_›
          · exact ihrest _ (by simp [hdir]) h
        · split_ifs at h
        · cases h

/-- What is found is no link. -/
theorem lookupAt_not_link {depth : Nat} {path real : Path} (h : fs.lookupAt depth path = .found real) (target : Path) :
    fs.get real ≠ some (.link target) := by
  induction depth generalizing path real with
  | zero => cases h
  | succ depth ih =>
    rw [lookupAt] at h
    suffices ∀ (rest : List String) (base : Path), fs.get base = some .dir →
        fs.follow (fs.lookupAt depth) base rest = .found real → fs.get real ≠ some (.link target) from
      this path [] fs.get_nil h
    intro rest
    induction rest with
    | nil =>
      intro base hbase h
      cases h
      simp [hbase]
    | cons name rest ihrest =>
      intro base hbase h
      rw [follow] at h
      split at h
      · cases h
      · exact ihrest _ ‹_› h
      · split_ifs at h
        cases h
        simp [*]
      · split at h
        · split_ifs at h with hrest hdir
          · cases h
            exact ih ‹_›
          · exact ihrest _ hdir h
        · split_ifs at h
        · cases h

/-- What is missing can be made where the path ends. -/
theorem lookupAt_missing {depth : Nat} {path real : Path} (h : fs.lookupAt depth path = .missing real []) :
    real ≠ [] ∧ fs.get real.dropLast = some .dir ∧ fs.get real = none := by
  induction depth generalizing path real with
  | zero => cases h
  | succ depth ih =>
    rw [lookupAt] at h
    suffices ∀ (rest : List String) (base : Path), fs.get base = some .dir →
        fs.follow (fs.lookupAt depth) base rest = .missing real [] →
        real ≠ [] ∧ fs.get real.dropLast = some .dir ∧ fs.get real = none from this path [] fs.get_nil h
    intro rest
    induction rest with
    | nil =>
      intro base hbase h
      cases h
    | cons name rest ihrest =>
      intro base hbase h
      rw [follow] at h
      split at h
      · rename_i hnone
        cases h
        exact ⟨by simp, by simpa using hbase, hnone⟩
      · exact ihrest _ ‹_› h
      · split_ifs at h
      · split at h
        · split_ifs at h with hrest hdir
          exact ihrest _ hdir h
        · split_ifs at h with hend
          cases h
          rw [hend.2] at *
          exact ih ‹_›
        · cases h

/-- Going down in two parts. -/
theorem follow_append {resolve : Path → Lookup} {base real : Path} {rest rest' : List String}
    (h : fs.follow resolve base rest = .found real) (hdir : fs.get real = some .dir) :
    fs.follow resolve base (rest ++ rest') = fs.follow resolve real rest' := by
  induction rest generalizing base with
  | nil =>
    cases h
    rfl
  | cons name rest ih =>
    rw [List.cons_append, follow]
    rw [follow] at h
    split at h
    · cases h
    · exact ih h
    · rename_i hnode
      split_ifs at h with hrest
      cases h
      rw [hnode] at hdir
      cases hdir
    · split at h
      · rename_i real' hreal
        split_ifs at h with hrest hdir'
        · cases h
          subst hrest
          rw [List.nil_append]
          by_cases hrest' : rest' = []
          · rw [if_pos hrest', hrest', follow]
          · rw [if_neg hrest', if_pos hdir]
        · have hne : rest ++ rest' ≠ [] := by simp [hrest]
          rw [if_neg hne, if_pos hdir']
          exact ih h
      · split_ifs at h
      · cases h

/-- There is no way through a file. -/
theorem follow_append_file {resolve : Path → Lookup} {base real : Path} {rest rest' : List String}
    (hbase : fs.get base = some .dir) (h : fs.follow resolve base rest = .found real) (hreal : fs.get real ≠ some .dir)
    (hrest' : rest' ≠ []) : fs.follow resolve base (rest ++ rest') = .failed .notDirectory := by
  induction rest generalizing base with
  | nil =>
    cases h
    exact absurd hbase hreal
  | cons name rest ih =>
    rw [List.cons_append, follow]
    rw [follow] at h
    have hne : rest ++ rest' ≠ [] := by simp [hrest']
    split at h
    · cases h
    · exact ih ‹_› h
    · exact if_neg hne
    · split at h
      · rename_i real' hreal'
        rw [if_neg hne]
        split_ifs at h with hrest hdir'
        · cases h
          exact if_neg hreal
        · rw [if_pos hdir']
          exact ih hdir' h
      · split_ifs at h
      · cases h

/-- What is found below a start of the way is found below a directory. -/
theorem follow_start {resolve : Path → Lookup} {base real : Path} {rest rest' : List String}
    (hbase : fs.get base = some .dir) (h : fs.follow resolve base (rest ++ rest') = .found real) (hrest' : rest' ≠ []) :
    ∃ real', fs.follow resolve base rest = .found real' ∧ fs.get real' = some .dir := by
  induction rest generalizing base with
  | nil => exact ⟨base, rfl, hbase⟩
  | cons name rest ih =>
    rw [List.cons_append, follow] at h
    rw [follow]
    have hne : rest ++ rest' ≠ [] := by simp [hrest']
    split at h
    · cases h
    · rename_i hdir
      exact ih hdir h
    · rw [if_neg hne] at h
      cases h
    · split at h
      · rename_i real' hreal'
        rw [if_neg hne] at h
        split_ifs at h with hdir
        by_cases hrest : rest = []
        · rw [if_pos hrest]
          exact ⟨real', rfl, hdir⟩
        · rw [if_neg hrest, if_pos hdir]
          exact ih hdir h
      · split_ifs at h
      · cases h

theorem lookup_append {path real : Path} {rest : List String} (h : fs.lookup path = .found real)
    (hdir : fs.get real = some .dir) :
    fs.lookup (path ++ rest) = fs.follow (fs.lookupAt (maxLinkDepth - 1)) real rest := fs.follow_append h hdir

end FileSystem

/-! ### Growth -/

variable {fs fs' fs'' : FileSystem}

/-- Directories and links are kept, and no links are made. -/
structure Extends (fs fs' : FileSystem) : Prop where
  dirs : ∀ path, fs.get path = some .dir → fs'.get path = some .dir
  links : ∀ path target, fs'.get path = some (.link target) ↔ fs.get path = some (.link target)

namespace Extends

theorem refl (fs : FileSystem) : Extends fs fs := ⟨fun _ => id, fun _ _ => Iff.rfl⟩

theorem trans (h : Extends fs fs') (h' : Extends fs' fs'') : Extends fs fs'' :=
  ⟨fun path hdir => h'.dirs path (h.dirs path hdir), fun path target => (h'.links path target).trans (h.links path target)⟩

/-- A path that has been resolved is resolved as before if what it leads to is kept. -/
theorem lookupAt_found (h : Extends fs fs') {depth : Nat} {path real : Path} (hfound : fs.lookupAt depth path = .found real)
    (hreal : fs'.get real = fs.get real) : fs'.lookupAt depth path = .found real := by
  induction depth generalizing path real with
  | zero => cases hfound
  | succ depth ih =>
    rw [FileSystem.lookupAt] at hfound ⊢
    suffices ∀ (rest : List String) (base : Path), fs.follow (fs.lookupAt depth) base rest = .found real →
        fs'.follow (fs'.lookupAt depth) base rest = .found real from this path [] hfound
    intro rest
    induction rest with
    | nil =>
      intro base hbase
      exact hbase
    | cons name rest ihrest =>
      intro base hfound
      rw [FileSystem.follow] at hfound ⊢
      split at hfound
      · cases hfound
      · rename_i hnode
        rw [h.dirs _ hnode]
        exact ihrest _ hfound
      · rename_i hnode
        split_ifs at hfound with hrest
        cases hfound
        rw [hreal, hnode]
        exact if_pos hrest
      · rename_i target hnode
        rw [(h.links _ _).2 hnode]
        dsimp only
        split at hfound
        · rename_i real' hreal'
          split_ifs at hfound with hrest hdir'
          · cases hfound
            rw [ih hreal' hreal]
            exact if_pos hrest
          · rw [ih hreal' ((h.dirs _ hdir').trans hdir'.symm)]
            dsimp only
            rw [if_neg hrest, if_pos (h.dirs _ hdir')]
            exact ihrest _ hfound
        · split_ifs at hfound
        · cases hfound

theorem lookup_found (h : Extends fs fs') {path real : Path} (hfound : fs.lookup path = .found real)
    (hreal : fs'.get real = fs.get real) : fs'.lookup path = .found real := h.lookupAt_found hfound hreal

theorem put_dir {path : Path} (hcan : fs.CanPut path .dir) (hnone : fs.get path = none) :
    Extends fs (fs.put path .dir) := by
  constructor
  · intro p hp
    rw [FileSystem.get_put hcan]
    split_ifs
    · rfl
    · exact hp
  · intro p target
    rw [FileSystem.get_put hcan]
    split_ifs with hsame
    · subst hsame
      simp [hnone]
    · rfl

theorem remove {path : Path} (hdir : fs.get path ≠ some .dir) (hlink : ∀ target, fs.get path ≠ some (.link target)) :
    Extends fs (fs.remove path) := by
  constructor
  · intro p hp
    rw [FileSystem.get_remove hdir, if_neg]
    · exact hp
    · rintro rfl
      exact hdir hp
  · intro p target
    rw [FileSystem.get_remove hdir]
    split_ifs with hsame
    · subst hsame
      simp [hlink]
    · rfl

end Extends

/-! ### Paths without links -/

/-- No link stands on the way down from a directory. -/
def Plain (fs : FileSystem) (base : Path) (rest : List String) : Prop :=
  ∀ start, start ≠ [] → start <+: rest → ∀ target, fs.get (base ++ start) ≠ some (.link target)

namespace Plain

variable {base : Path} {rest : List String} {resolve : Path → Lookup}

theorem extends_ (h : Plain fs base rest) (hextends : Extends fs fs') : Plain fs' base rest := by
  intro start hne hstart target hlink
  exact h start hne hstart target ((hextends.links _ _).1 hlink)

theorem of_extends (h : Plain fs' base rest) (hextends : Extends fs fs') : Plain fs base rest := by
  intro start hne hstart target hlink
  exact h start hne hstart target ((hextends.links _ _).2 hlink)

theorem of_prefix {start : List String} (h : Plain fs base rest) (hstart : start <+: rest) : Plain fs base start :=
  fun start' hne hstart' => h start' hne (hstart'.trans hstart)

private theorem tail {name : String} (h : Plain fs base (name :: rest)) : Plain fs (base ++ [name]) rest := by
  intro start hne hstart target
  rw [List.append_assoc]
  exact h (name :: start) (by simp) (List.cons_prefix_cons.2 ⟨rfl, hstart⟩) target

private theorem head {name : String} (h : Plain fs base (name :: rest)) (target : Path) :
    fs.get (base ++ [name]) ≠ some (.link target) := h [name] (by simp) (by simp) target

theorem follow_found (h : Plain fs base rest) {real : Path} (hfound : fs.follow resolve base rest = .found real) :
    real = base ++ rest := by
  induction rest generalizing base with
  | nil =>
    cases hfound
    simp
  | cons name rest ih =>
    rw [FileSystem.follow] at hfound
    split at hfound
    · cases hfound
    · rw [ih h.tail hfound, List.append_assoc]
      rfl
    · split_ifs at hfound with hrest
      cases hfound
      rw [hrest]
    · exact absurd ‹_› (h.head _)

theorem follow_missing (h : Plain fs base rest) {real : Path} {missing : List String}
    (hmissing : fs.follow resolve base rest = .missing real missing) : real ++ missing = base ++ rest := by
  induction rest generalizing base with
  | nil => cases hmissing
  | cons name rest ih =>
    rw [FileSystem.follow] at hmissing
    split at hmissing
    · cases hmissing
      simp
    · rw [ih h.tail hmissing, List.append_assoc]
      rfl
    · split_ifs at hmissing
    · exact absurd ‹_› (h.head _)

/-- What stands below a directory, on a way without links, is found there. -/
theorem follow_of_get (h : Plain fs base rest) (hget : fs.get (base ++ rest) ≠ none) :
    fs.follow resolve base rest = .found (base ++ rest) := by
  induction rest generalizing base with
  | nil => simp [FileSystem.follow]
  | cons name rest ih =>
    rw [FileSystem.follow]
    have hsplit : base ++ name :: rest = (base ++ [name]) ++ rest := by simp
    rw [hsplit] at hget ⊢
    by_cases hrest : rest = []
    · subst hrest
      rw [List.append_nil] at hget ⊢
      cases hnode : fs.get (base ++ [name]) with
      | none => exact absurd hnode hget
      | some node =>
        cases node with
        | file bytes => simp
        | dir => simp [FileSystem.follow]
        | link target => exact absurd hnode (h.head target)
    · have hdir := fs.get_of_below hrest hget
      rw [hdir]
      exact ih h.tail hget

end Plain

end Files
