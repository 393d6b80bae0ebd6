import EasyMc.Library.FileCalls
import EasyMc.Library.Paths
import EasyMc.Library.Values

/-!
# Files below the app data root (`apps/desktop/src/runtime/node-fabric-bootstrap.mjs`, `node-local-runtime.mjs`)

Both files of the source have the same helpers for the paths that they write to: a path is taken from the top
(`toNativePath`), compared with the root by names (`relationEscapes`), searched for links below the root
(`findExistingSymlinkSegment`), and the part of it that exists is resolved (`nearestExistingPath`).

If no segment of the way is a link then what is written at the path is written below the root's real directory
(`plain_of_findSymlinkBelow`).
-/

namespace EasyMc.Desktop.ManagedFiles

open Files (FileSystem Path Node Plain Anchored)

/-! ### What both files share -/

/-- Why a path is not managed. -/
inductive BoundaryReason
  | unsafeAppDataRoot
  | pathOutsideAppDataRoot
  | managedPathReparsePoint
  | managedPathEscape
  deriving DecidableEq

def BoundaryReason.text : BoundaryReason → String
  | .unsafeAppDataRoot => "unsafe_app_data_root"
  | .pathOutsideAppDataRoot => "path_outside_app_data_root"
  | .managedPathReparsePoint => "managed_path_reparse_point"
  | .managedPathEscape => "managed_path_escape"

/-- How a promise ends. -/
inductive Settled (α : Type)
  | value (a : α)
  | thrown (message : String)
  | pending

/-- What is read of a response. -/
structure Response where
  ok : Bool
  status : Option Json
  statusText : Option Json
  url : Option Json
  contentLength : Option Json
  arrayBuffer : Option (Settled (List UInt8))
  bytes : Option (Settled (List UInt8))

/-- What a process has, apart from the files. -/
structure Platform where
  directory : Path
  sha256 : List UInt8 → String

def toNativePath (platform : Platform) (path : String) : Path := Paths.absolute platform.directory path.toList

def dirname (path : Path) : Path := path.dropLast

/-- `relation.startsWith("..") || isAbsolute(relation)` for the way from the root to the path. -/
def relationEscapes (root path : Path) : Bool :=
  if root.isPrefixOf path then (path.drop root.length).head?.any (Text.startsWith · "..") else true

def isSubPath (root path : Path) : Bool := !relationEscapes root path

def safeLstat (fs : FileSystem) (path : Path) : Option Node := (fs.lstat path).toOption

def safeRealpath (fs : FileSystem) (path : Path) : Option Path := (fs.realpath path).toOption

/-- The first link on the way down. -/
def findSymlinkBelow (fs : FileSystem) : Path → List String → Option Path
  | _, [] => none
  | current, segment :: segments =>
    if (safeLstat fs (current ++ [segment])).any FileSystem.isLink then some (current ++ [segment])
    else findSymlinkBelow fs (current ++ [segment]) segments

def findExistingSymlinkSegment (fs : FileSystem) (rootPath targetPath : Path) : Option Path :=
  findSymlinkBelow fs rootPath (targetPath.drop rootPath.length)

/-- The longest start of a path, given backwards, that passes the test. -/
def nearestPassing (test : Path → Bool) : List String → Path
  | [] => []
  | name :: names => if test (name :: names).reverse then (name :: names).reverse else nearestPassing test names

def nearestExistingPath (exists_ : Path → Bool) (path : Path) : Path := nearestPassing exists_ path.reverse

/-- The text matches `/^[a-f0-9]{64}$/i`. -/
def isSha256Text (text : String) : Bool :=
  text.toList.length == 64 &&
    text.toList.all fun c => ('a' ≤ c && c ≤ 'f') || ('A' ≤ c && c ≤ 'F') || ('0' ≤ c && c ≤ '9')

/-- A path that ends like a file's name leads to such a name. -/
theorem toNativePath_end (platform : Platform) {path : String} {last : List Char} (h : last <:+ path.toList)
    (hslash : '/' ∉ last) (hbackslash : '\\' ∉ last) (hname : ∃ c ∈ last, c ≠ '.') :
    ∃ start name, toNativePath platform path = start ++ [name] ∧ last <:+ name.toList := by
  obtain ⟨start, hstart⟩ := h
  rw [toNativePath, ← hstart]
  exact Paths.absolute_append platform.directory start hslash hbackslash hname

/-! ### Ways without links -/

theorem relationEscapes_eq_false {root path : Path} (h : relationEscapes root path = false) :
    ∃ rest, path = root ++ rest := by
  unfold relationEscapes at h
  split_ifs at h with hstarts
  obtain ⟨rest, hrest⟩ := List.isPrefixOf_iff_prefix.1 hstarts
  exact ⟨rest, hrest.symm⟩

theorem nearestExistingPath_of_exists {exists_ : Path → Bool} {path : Path} (h : exists_ path = true) :
    nearestExistingPath exists_ path = path := by
  rcases List.eq_nil_or_concat' path with rfl | ⟨start, name, rfl⟩
  · rfl
  · rw [nearestExistingPath, List.reverse_append, List.reverse_singleton, List.singleton_append, nearestPassing,
      List.reverse_cons, List.reverse_reverse, if_pos h]

/-- A directory is not below what is in it. -/
theorem isSubPath_parent (path : Path) (name : String) : isSubPath (path ++ [name]) path = false := by
  rw [isSubPath, relationEscapes, if_neg, Bool.not_true]
  intro hstarts
  have hlength := (List.isPrefixOf_iff_prefix.1 hstarts).length_le
  rw [List.length_append, List.length_singleton] at hlength
  omega

theorem safeRealpath_eq_some {fs : FileSystem} {path real : Path} :
    safeRealpath fs path = some real ↔ fs.lookup path = .found real := by
  rw [safeRealpath, ← FileSystem.realpath_eq_ok]
  cases fs.realpath path with
  | ok found => simp [Except.toOption]
  | error e => simp [Except.toOption]

/-- What stands on the way down is no link. -/
private theorem not_link_of_findSymlinkBelow {fs : FileSystem} {start rest : List String} {top : Path}
    (h : findSymlinkBelow fs top rest = none) {name : String} (hstart : start ++ [name] <+: rest) :
    (safeLstat fs (top ++ start ++ [name])).any FileSystem.isLink = false := by
  induction rest generalizing start top with
  | nil => simp at hstart
  | cons segment rest ih =>
    unfold findSymlinkBelow at h
    split_ifs at h with hlink
    cases start with
    | nil =>
      obtain ⟨rfl, -⟩ := List.cons_prefix_cons.1 hstart
      simpa using hlink
    | cons first start =>
      rw [List.cons_append, List.cons_prefix_cons] at hstart
      obtain ⟨rfl, hstart⟩ := hstart
      have hbelow := ih h hstart
      rwa [List.append_assoc top, List.singleton_append] at hbelow

/-- Below a root that is resolved the search goes down the real way. -/
theorem plain_of_findSymlinkBelow {fs : FileSystem} {top base : Path} {rest : List String}
    (htop : fs.lookup top = .found base) (h : findSymlinkBelow fs top rest = none) : Plain fs base rest := by
  suffices ∀ start, start <+: rest → Plain fs base start from this rest List.prefix_rfl
  intro start
  induction start using List.reverseRecOn with
  | nil =>
    intro _ start hne hstart
    exact absurd (List.prefix_nil.1 hstart) hne
  | append_singleton start name ih =>
    intro hrest start' hne hstart' target hlink
    have hplain := ih ((List.prefix_append _ _).trans hrest)
    rcases List.prefix_concat_iff.1 hstart' with rfl | hstart'
    · -- The way to the link has none, so `lstat` shows it.
      have hdir : fs.get base = some .dir := fs.get_of_below hne (by simp [hlink])
      rw [← List.append_assoc] at hlink
      have hlstat := Anchored.lstat_of_get ⟨htop, hdir, hplain⟩ hlink
      have hshown := not_link_of_findSymlinkBelow h hrest
      rw [safeLstat, hlstat] at hshown
      cases hshown
    · exact hplain start' hne hstart' target hlink

end EasyMc.Desktop.ManagedFiles
