import EasyMc.Packs.ArchiveContents
import EasyMc.Packs.PrivatePack

/-!
# What a private pack vouches for

The script is followed with an arbitrary environment that answers its calls.  A lock that it makes is that of a jar
that was read (`Jar`), and there is nothing else in the list that the template is completed and judged with.  So a
manifest that is built has, besides the files of the built-in locks, only such jars (`written_pack_vouched`).
-/

namespace EasyMc.Packs

open Script (Answered Environment Session Ends ends_bind ends_pure)
open Json (isStr)
open Throwing (bind_eq_ok ok_bind mapError_eq_ok)

variable {σ : Type} {env : Environment FileOp FileOp.Answer σ} {A : Answered FileOp FileOp.Answer → Prop}
  {s s' s'' : Session FileOp FileOp.Answer Unit σ} {tools : Tools} {artifact : ArtifactArgument} {lock : Json}

/-- The calls that have been made, with their answers. -/
abbrev Calls : Type := List (Answered FileOp FileOp.Answer)

/-! ### What a pack vouches for -/

/-- The jar of an artifact: it has been read, and has the class of its path in it. -/
structure Jar (calls : Calls) (artifact : ArtifactArgument) (bytes : List UInt8) : Prop where
  read : ⟨.readFile artifact.localJarPath, .ok bytes⟩ ∈ calls
  entries : ∃ names, listZipEntryNames bytes = .ok names ∧ "fabric.mod.json".toList ∈ names ∧
    ∃ className, firstPartyArtifactJarExpectations.lookup artifact.mrpackPath = some className ∧
      className.toList ∈ names

/-- The file of a pack has a built-in lock, or is a jar of the run, under its own hashes and its size, with the address that
was given for it as the only one. -/
inductive Vouched (tools : Tools) (calls : Calls) (artifacts : List ArtifactArgument) (file : Json) : Prop
  | builtIn {path : String} {lock : Lock} (locked : (path, lock) ∈ mvp0ApprovedFiles)
      (named : file.member "path" = some (.str path)) (same : IsLocked file lock) : Vouched tools calls artifacts file
  | jar {artifact : ArtifactArgument} {bytes : List UInt8} (given : artifact ∈ artifacts)
      (firstParty : artifact.mrpackPath ∈ firstPartyArtifactPaths) (jar : Jar calls artifact bytes)
      (isPublic : IsPublicDownload tools.builtins (.str artifact.downloadUrl))
      (named : file.member "path" = some (.str artifact.mrpackPath))
      (same : IsLocked file ⟨[.str artifact.downloadUrl], .str (tools.sha1 bytes), .str (tools.sha512 bytes),
        some (.num (toString bytes.length))⟩) : Vouched tools calls artifacts file

/-- The contents of a file that is written are an archive of a manifest alone, whose files are all vouched for. -/
def VouchedPack (tools : Tools) (calls : Calls) (artifacts : List ArtifactArgument) (contents : List UInt8) : Prop :=
  ∃ manifest files, createMrpackArchive tools manifest = .ok contents ∧ manifest.files = some (.arr files) ∧
    files ≠ [] ∧ ∀ file ∈ files, Vouched tools calls artifacts file

/-- A program that opens such a pack finds the text of a manifest in it, and nothing else. -/
theorem VouchedPack.opened {inflate : List UInt8 → Option (List UInt8)} {calls : Calls} {artifacts : List ArtifactArgument}
    {contents : List UInt8} (h : VouchedPack tools calls artifacts contents)
    (hundoes : ∀ entries, Undoes inflate tools.deflateRawSync entries) :
    ∃ manifest : Manifest, extractEntries inflate contents = .ok [manifest.entry] := by
  obtain ⟨manifest, files, harchive, -⟩ := h
  obtain ⟨records, hrecords, hof⟩ := createZipArchive_eq_ok harchive
  exact ⟨manifest, extractEntries_recordsOf (hundoes _) hrecords hof⟩

/-! ### Calls -/

theorem Jar.mono {calls calls' : Calls} {bytes : List UInt8} (h : Jar calls artifact bytes) (hcalls : calls <+: calls') :
    Jar calls' artifact bytes :=
  ⟨hcalls.subset h.read, h.entries⟩

/-- The call writes no file. -/
def NoWrite (called : Answered FileOp FileOp.Answer) : Prop :=
  ∀ path contents answer, called ≠ ⟨.writeFile path contents, answer⟩

/-- Calls have been added that write no file. -/
abbrev Reads (s s' : Session FileOp FileOp.Answer Unit σ) : Prop := Script.Adds NoWrite s s'

theorem ends_orThrow {α : Type} {result : Except Thrown α}
    {post : Except Thrown α → Session FileOp FileOp.Answer Unit σ → Prop} :
    Ends env A (orThrow result) s post ↔ post result s := by
  cases result <;> rfl

/-- A call is recorded with its answer. -/
theorem ends_call {op : FileOp} {post : Except Thrown op.Result → Session FileOp FileOp.Answer Unit σ → Prop} :
    Ends env A (call op) s post ↔ (A ⟨op, (env op s.world).1⟩ →
      post ((env op s.world).1.mapError .error) (s.answer env op)) := by
  rw [call, ends_bind, Script.ends_ask]
  exact imp_congr_right fun _ => ends_orThrow

theorem reads_answer {op : FileOp} (hop : ∀ path contents, op ≠ .writeFile path contents) : Reads s (s.answer env op) := by
  refine .answer ?_
  rintro path contents answer heq
  cases heq
  exact hop path contents rfl

theorem readFile_ends (path : String) :
    Ends env A (readFile path) s fun out s' =>
      Reads s s' ∧ ∀ bytes, out = .ok bytes → ⟨.readFile path, .ok bytes⟩ ∈ s'.history := by
  refine ends_call.2 fun _ => ⟨reads_answer (by simp), fun bytes hbytes => ?_⟩
  have hanswer := mapError_eq_ok.1 hbytes
  rw [← hanswer]
  exact List.mem_append_right _ (List.mem_singleton.2 rfl)

theorem readJson_ends (path : String) : Ends env A (readJson tools path) s fun _ s' => Reads s s' := by
  refine (readFile_ends path).bind ?_ ?_
  · intro bytes s' h
    exact ends_orThrow.2 h.1
  · intro e s' h
    exact h.1

/-! ### Locks -/

/-- The lock of a jar. -/
structure Locks (tools : Tools) (calls : Calls) (artifact : ArtifactArgument) (lock : Json) : Prop where
  jar : ∃ bytes, Jar calls artifact bytes ∧ lock = artifactLock tools artifact.mrpackPath [.str artifact.downloadUrl] bytes
  accepted : validateSingleFirstPartyArtifactLock tools.builtins lock = .ok []

theorem Locks.mono {calls calls' : Calls} (h : Locks tools calls artifact lock) (hcalls : calls <+: calls') :
    Locks tools calls' artifact lock := by
  obtain ⟨⟨bytes, hjar, hlock⟩, haccepted⟩ := h
  exact ⟨⟨bytes, hjar.mono hcalls, hlock⟩, haccepted⟩

/-- What is known of the bytes of a jar that is accepted. -/
theorem entries_of_accepted {messageOf : ArchiveError → String} {path : String} {bytes : List UInt8}
    {names : List (List Char)} (h : validateFirstPartyArtifactJarBytes messageOf (some path) bytes = .ok names) :
    ∃ names, listZipEntryNames bytes = .ok names ∧ "fabric.mod.json".toList ∈ names ∧
      ∃ className, firstPartyArtifactJarExpectations.lookup path = some className ∧ className.toList ∈ names := by
  rw [validateFirstPartyArtifactJarBytes, Option.bind_some, expectedClassName] at h
  cases hlookup : firstPartyArtifactJarExpectations.lookup path with
  | none =>
    -- What every object has is found under the path, but it names no class.
    rw [hlookup] at h
    dsimp only at h
    split_ifs at h
    · dsimp only at h
      cases hread : listZipEntryNames bytes with
      | error e =>
        rw [hread] at h
        cases h
      | ok entries =>
        rw [hread] at h
        dsimp only at h
        split_ifs at h
        simp_all
  | some className =>
    rw [hlookup] at h
    dsimp only at h
    cases hread : listZipEntryNames bytes with
    | error e =>
      rw [hread] at h
      cases h
    | ok entries =>
      rw [hread] at h
      dsimp only at h
      split_ifs at h with hfabric hclass
      exact ⟨entries, rfl, by simpa using hfabric, className, rfl, by simpa using hclass⟩

theorem createFirstPartyArtifactLock_eq_ok {path : String} {downloads : List Json} {bytes : List UInt8}
    (h : createFirstPartyArtifactLock tools path downloads bytes = .ok lock) :
    lock = artifactLock tools path downloads bytes ∧
      validateSingleFirstPartyArtifactLock tools.builtins lock = .ok [] := by
  obtain ⟨issues, hissues, h⟩ := bind_eq_ok.1 h
  split at h
  · cases h
  · cases h
    exact ⟨rfl, mapError_eq_ok.1 hissues⟩

theorem createFirstPartyArtifactLockFromFile_ends (artifact : ArtifactArgument) :
    Ends env A (createFirstPartyArtifactLockFromFile tools artifact) s fun out s' =>
      Reads s s' ∧ ∀ lock, out = .ok lock → Locks tools s'.history artifact lock := by
  have hthrown : ∀ message : String, Ends env A (throw (.error message) : PackScript Json) s fun out s' =>
      Reads s s' ∧ ∀ lock, out = .ok lock → Locks tools s'.history artifact lock := by
    intro message
    refine ⟨.refl s, ?_⟩
    rintro lock ⟨⟩
  unfold createFirstPartyArtifactLockFromFile
  split
  · exact hthrown _
  · split
    · exact hthrown _
    · split
      · exact hthrown _
      · refine (readFile_ends artifact.localJarPath).bind ?_ ?_
        · rintro bytes s' ⟨hreads, hread⟩
          split
          · refine ⟨hreads, ?_⟩
            rintro lock ⟨⟩
          · rename_i names hnames
            refine ends_orThrow.2 ⟨hreads, fun lock hlock => ?_⟩
            obtain ⟨hlock, haccepted⟩ := createFirstPartyArtifactLock_eq_ok hlock
            exact ⟨⟨bytes, ⟨hread bytes rfl, entries_of_accepted hnames⟩, hlock⟩, haccepted⟩
        · rintro e s' ⟨hreads, -⟩
          refine ⟨hreads, ?_⟩
          rintro lock ⟨⟩

/-- The locks are those of the artifacts, one for each. -/
theorem createLocks_ends (artifacts : List ArtifactArgument) :
    Ends env A (createLocks tools artifacts) s fun out s' =>
      Reads s s' ∧ ∀ locks, out = .ok locks → List.Forall₂ (Locks tools s'.history) artifacts locks := by
  induction artifacts generalizing s with
  | nil =>
    refine ⟨.refl s, ?_⟩
    rintro locks ⟨⟩
    exact .nil
  | cons artifact artifacts ih =>
    refine (createFirstPartyArtifactLockFromFile_ends artifact).bind ?_ ?_
    · rintro lock s' ⟨hreads, hlock⟩
      refine ih.bind ?_ ?_
      · rintro locks s'' ⟨hreads', hlocks⟩
        refine ⟨hreads.trans hreads', ?_⟩
        rintro locks' ⟨⟩
        exact .cons ((hlock lock rfl).mono hreads'.extends_) (hlocks locks rfl)
      · rintro e s'' ⟨hreads', -⟩
        refine ⟨hreads.trans hreads', ?_⟩
        rintro locks ⟨⟩
    · rintro e s' ⟨hreads, -⟩
      refine ⟨hreads, ?_⟩
      rintro locks ⟨⟩

/-! ### Manifests -/

variable {calls : Calls} {artifacts : List ArtifactArgument} {locks : List Json} {manifest : Manifest}

theorem Locks.path (h : Locks tools calls artifact lock) : lock.member "path" = some (.str artifact.mrpackPath) := by
  obtain ⟨bytes, -, rfl⟩ := h.jar
  rfl

/-- The lock that is made of that of a jar. -/
theorem Locks.lockOf (h : Locks tools calls artifact lock) :
    ∃ bytes, Jar calls artifact bytes ∧ lockOf lock = ⟨[.str artifact.downloadUrl], .str (tools.sha1 bytes),
      .str (tools.sha512 bytes), some (.num (toString bytes.length))⟩ := by
  obtain ⟨bytes, hjar, rfl⟩ := h.jar
  exact ⟨bytes, hjar, rfl⟩

theorem Locks.isPublic (h : Locks tools calls artifact lock) :
    IsPublicDownload tools.builtins (.str artifact.downloadUrl) := by
  obtain ⟨downloads, hdownloads, -, hpublic⟩ := downloads_of_no_issues (validateSingle_nil h.accepted).2.1
  obtain ⟨bytes, -, rfl⟩ := h.jar
  cases hdownloads
  exact hpublic _ List.mem_cons_self

theorem exists_of_forall₂ {α β : Type} {R : α → β → Prop} {xs : List α} {ys : List β} (h : List.Forall₂ R xs ys) {y : β}
    (hy : y ∈ ys) : ∃ x ∈ xs, R x y := by
  induction h with
  | nil => cases hy
  | cons hxy _ ih =>
    rcases List.mem_cons.1 hy with rfl | hy
    · exact ⟨_, List.mem_cons_self, hxy⟩
    · obtain ⟨x, hx, hR⟩ := ih hy
      exact ⟨x, List.mem_cons_of_mem _ hx, hR⟩

/-- A built-in lock, or the lock of one of the artifacts. -/
theorem vouched_of_lockFor {file : Json} {path : String} {found : Lock}
    (hlocks : List.Forall₂ (Locks tools calls) artifacts locks) (hpath : file.member "path" = some (.str path))
    (hfound : lockFor (some (.arr locks)) path = some found) (hsame : IsLocked file found) :
    Vouched tools calls artifacts file := by
  unfold lockFor at hfound
  split at hfound
  · rename_i builtIn hget
    cases hfound
    have hmem := JsMap.get_ofEntries_of_forall (P := fun path lock => (path, lock) ∈ mvp0ApprovedFiles) (fun _ h => h) hget
    exact .builtIn hmem hpath hsame
  · split at hfound
    · rename_i hfirst
      obtain ⟨lock, hlock, rfl⟩ := Option.map_eq_some_iff.1 hfound
      have hmem : lock ∈ locks := List.mem_reverse.1 (List.mem_of_find?_eq_some hlock)
      have hnamed : lock.member "path" = some (.str path) := by
        have htest := List.find?_some hlock
        exact Json.isStr_iff.1 htest
      obtain ⟨artifact, hartifact, hof⟩ := exists_of_forall₂ hlocks hmem
      have heq : artifact.mrpackPath = path := by
        have := hof.path.symm.trans hnamed
        simpa using this
      obtain ⟨bytes, hjar, hlockOf⟩ := hof.lockOf
      rw [hlockOf] at hsame
      exact .jar hartifact (heq ▸ by simpa using hfirst) hjar hof.isPublic (heq ▸ hpath) hsame
    · cases hfound

theorem vouched_of_built {template : Json} (hlocks : List.Forall₂ (Locks tools calls) artifacts locks)
    (h : buildMrpackManifest tools.builtins template (some (.arr locks)) = .ok (.built manifest)) :
    ∃ files, manifest.files = some (.arr files) ∧ files ≠ [] ∧ ∀ file ∈ files, Vouched tools calls artifacts file := by
  obtain ⟨validation, hvalidation, hblockers, rfl⟩ := validation_of_built h
  obtain ⟨hcollect, hfiles, approvedFiles, happroved, hall⟩ := checks_of_no_blockers hvalidation hblockers
  refine ⟨filesOf template, member_files hfiles, hfiles, fun file hfile => ?_⟩
  obtain ⟨path, found, hpath, hget, hsame⟩ := isLocked_of_no_issues (metadata_of_no_blockers (hall file hfile))
  rw [get_approved (noIssues_of_collect hcollect) happroved] at hget
  exact vouched_of_lockFor hlocks hpath hget hsame

/-! ### The script -/

/-- Every file that has been written is a pack that is vouched for, under the path that was asked for. -/
def Vouches (tools : Tools) (argv : List String) (calls : Calls) : Prop :=
  ∀ path contents answer, ⟨.writeFile path contents, answer⟩ ∈ calls →
    ∃ args outputPath, parseArgs argv = .ok args ∧ args.outputPath = some outputPath ∧ path = tools.resolve outputPath ∧
      VouchedPack tools calls args.artifacts contents

theorem vouches_of_noWrite {argv : List String} (h : ∀ called ∈ calls, NoWrite called) : Vouches tools argv calls :=
  fun path contents answer hmem => absurd rfl (h _ hmem path contents answer)

theorem Vouched.mono {calls' : Calls} {file : Json} (h : Vouched tools calls artifacts file) (hcalls : calls <+: calls') :
    Vouched tools calls' artifacts file := by
  cases h with
  | builtIn locked named same => exact .builtIn locked named same
  | jar given firstParty jar isPublic named same =>
    exact .jar given firstParty (jar.mono hcalls) isPublic named same

/-- The only file that is written is the pack. -/
theorem writeMrpack_ends {argv : List String} {args : BuildArguments} {template : Json} {outputPath : String}
    (hargs : parseArgs argv = .ok args) (houtput : args.outputPath = some outputPath)
    (hnoWrite : ∀ called ∈ s.history, NoWrite called)
    (hlocks : List.Forall₂ (Locks tools s.history) args.artifacts locks) :
    Ends env A (writeMrpack tools template (tools.resolve outputPath) (some (.arr locks))) s fun _ s' =>
      Vouches tools argv s'.history := by
  unfold writeMrpack
  rw [ends_bind, ends_orThrow]
  cases hbuild : buildMrpackManifest tools.builtins template (some (.arr locks)) with
  | error e => exact vouches_of_noWrite hnoWrite
  | ok result =>
    cases result with
    | failed reason message blockers => exact vouches_of_noWrite hnoWrite
    | built manifest =>
      obtain ⟨files, hfiles, hne, hvouched⟩ := vouched_of_built hlocks hbuild
      refine ends_bind.2 (ends_orThrow.2 ?_)
      cases harchive : createMrpackArchive tools manifest with
      | error e => exact vouches_of_noWrite hnoWrite
      | ok archive =>
        refine ends_bind.2 (ends_call.2 fun _ => ?_)
        have hwritten : Vouches tools argv
            (s.history ++ [⟨.writeFile (tools.resolve outputPath) archive, (env _ s.world).1⟩]) := by
          intro path contents answer hmem
          rcases List.mem_append.1 hmem with hmem | hmem
          · exact absurd rfl (hnoWrite _ hmem path contents answer)
          · cases List.mem_singleton.1 hmem
            exact ⟨args, outputPath, hargs, houtput, rfl, manifest, files, harchive, hfiles, hne,
              fun file hfile => (hvouched file hfile).mono (List.prefix_append _ _)⟩
        cases (env (.writeFile (tools.resolve outputPath) archive) s.world).1 <;> exact hwritten

theorem buildPack_ends {argv : List String} {args : BuildArguments} {outputPath : String}
    (hargs : parseArgs argv = .ok args) (houtput : args.outputPath = some outputPath)
    (hnoWrite : ∀ called ∈ s.history, NoWrite called) :
    Ends env A (buildPack tools args outputPath) s fun _ s' => Vouches tools argv s'.history := by
  refine (createLocks_ends args.artifacts).bind ?_ ?_
  · rintro locks s₁ ⟨hreads, hlocks⟩
    refine (readJson_ends args.templatePath).bind ?_ ?_
    · intro template s₂ hreads'
      have hquiet := (hreads.trans hreads').forall_mem hnoWrite
      have hlocks' : List.Forall₂ (Locks tools s₂.history) args.artifacts locks :=
        (hlocks locks rfl).imp fun _ _ hlock => hlock.mono hreads'.extends_
      rw [ends_bind, ends_orThrow]
      cases applyFirstPartyArtifactLocks tools.builtins template (some (.arr locks)) with
      | error e => exact vouches_of_noWrite hquiet
      | ok completed =>
        refine ends_bind.2 (ends_orThrow.2 ?_)
        cases validateMrpackTemplate tools.builtins completed.toJson (some (.arr locks)) with
        | error e => exact vouches_of_noWrite hquiet
        | ok readiness =>
          refine Script.ends_ite.2 ⟨fun _ => vouches_of_noWrite hquiet, fun _ => ?_⟩
          refine ends_bind.2 (ends_call.2 fun _ => ?_)
          have hmade : Reads s₂ (s₂.answer env (.mkdir (tools.dirname (tools.resolve outputPath)))) :=
            reads_answer (by simp)
          cases (env (.mkdir (tools.dirname (tools.resolve outputPath))) s₂.world).1 with
          | error message => exact vouches_of_noWrite (hmade.forall_mem hquiet)
          | ok _ =>
            refine (writeMrpack_ends hargs houtput (hmade.forall_mem hquiet)
              (hlocks'.imp fun _ _ hlock => hlock.mono hmade.extends_)).bind ?_ ?_
            · intro result s₃ hvouches
              cases result <;> exact hvouches
            · exact fun _ _ hvouches => hvouches
    · intro e s₂ hreads'
      exact vouches_of_noWrite ((hreads.trans hreads').forall_mem hnoWrite)
  · rintro e s₁ ⟨hreads, -⟩
    exact vouches_of_noWrite (hreads.forall_mem hnoWrite)

theorem main_ends (argv : List String) (hnoWrite : ∀ called ∈ s.history, NoWrite called) :
    Ends env A (main tools argv) s fun _ s' => Vouches tools argv s'.history := by
  unfold main
  rw [ends_bind, ends_orThrow]
  cases hargs : parseArgs argv with
  | error e => exact vouches_of_noWrite hnoWrite
  | ok args =>
    refine Script.ends_ite.2 ⟨fun _ => vouches_of_noWrite hnoWrite, fun _ => ?_⟩
    split
    · exact vouches_of_noWrite hnoWrite
    · rename_i outputPath houtput
      exact Script.ends_ite.2
        ⟨fun _ => vouches_of_noWrite hnoWrite, fun _ => buildPack_ends hargs houtput hnoWrite⟩

/-- Before the first call. -/
def started (world : σ) : Session FileOp FileOp.Answer Unit σ := ⟨⟨world, []⟩, ()⟩

/-- Whatever the calls are answered, and whatever the arguments are, a file that is written is an archive of a manifest
with files of the built-in locks and jars of this run only. -/
theorem written_pack_vouched (tools : Tools) (env : Environment FileOp FileOp.Answer σ) (argv : List String) (world : σ) :
    Vouches tools argv (Script.perform env (main tools argv) (started world)).2.history :=
  (main_ends (A := fun _ => True) argv (by rintro called ⟨⟩)).perform fun _ _ => trivial

end EasyMc.Packs
