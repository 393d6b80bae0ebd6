import EasyMc.Runtime.JavaCandidates

/-!
# Which programs are run to look for Java

The programs that are run are candidates of the sources that are trusted, in their order, and none is run twice
(`probed_paths`).  They are run until one is new enough; if none is, every candidate of a trusted source has been run
(`detection_result`).
-/

namespace EasyMc.Runtime.JavaDetection

open Script (Answered Environment Session Ends ends_bind ends_pure)

variable {σ : Type} {env : Environment DetectOp DetectOp.Answer σ} {A : Answered DetectOp DetectOp.Answer → Prop}
  {s s' : Session DetectOp DetectOp.Answer Unit σ} {toLowerCase : List Char → List Char} {options : DetectOptions}

/-! ### Runs -/

/-- A program that has been run, with what it has printed. -/
structure JavaRun where
  candidate : Candidate
  output : ProcessOutput

def JavaRun.call (run : JavaRun) : Answered DetectOp DetectOp.Answer :=
  ⟨.execFile run.candidate.path ["-version"], run.output⟩

/-- The version that a run has told. -/
def JavaRun.told (run : JavaRun) : Option (Candidate × JavaVersion) :=
  (versionOf run.output).map fun version => (run.candidate, version)

/-- The version that a run has told, if it is new enough. -/
def JavaRun.compatible (minimumMajorVersion : Int) (run : JavaRun) : Option (Candidate × JavaVersion) :=
  run.told.filter fun told => minimumMajorVersion ≤ told.2.majorVersion

/-- What is said of the runs: the first that is new enough, else the first that has told its version. -/
def resultOf (minimumMajorVersion : Int) (runs : List JavaRun) : DetectResult :=
  match runs.findSome? (JavaRun.compatible minimumMajorVersion) with
  | some (candidate, version) => .found candidate.path version candidate.vendor candidate.source
  | none =>
    match runs.findSome? JavaRun.told with
    | some (candidate, version) =>
      .incompatible candidate.path version.majorVersion minimumMajorVersion candidate.source
    | none => .missing minimumMajorVersion (runs.map fun run => run.candidate.path)

/-- How the loop over the candidates ends, by the runs that it has made. -/
def Probed.of (minimumMajorVersion : Int) (bestIncompatible : Option (Candidate × JavaVersion)) (runs : List JavaRun) :
    Probed :=
  match runs.findSome? (JavaRun.compatible minimumMajorVersion) with
  | some (candidate, version) => .compatible candidate version
  | none => .none_ (bestIncompatible.or (runs.findSome? JavaRun.told))

/-- The runs of a loop over candidates: some first candidates, all of them unless the last is new enough. -/
structure Runs (minimumMajorVersion : Int) (candidates : List Candidate) (runs : List JavaRun) : Prop where
  first : runs.map JavaRun.candidate <+: candidates
  goesOn : ∀ run ∈ runs.dropLast, run.compatible minimumMajorVersion = none
  all : runs.findSome? (JavaRun.compatible minimumMajorVersion) = none → runs.map JavaRun.candidate = candidates

theorem Runs.cons {minimumMajorVersion : Int} {candidates : List Candidate} {run : JavaRun} {runs : List JavaRun}
    (h : Runs minimumMajorVersion candidates runs) (hrun : run.compatible minimumMajorVersion = none) :
    Runs minimumMajorVersion (run.candidate :: candidates) (run :: runs) := by
  refine ⟨List.prefix_cons_inj _ |>.2 h.first, ?_, ?_⟩
  · intro run' hrun'
    cases runs with
    | nil => cases hrun'
    | cons next runs =>
      rw [List.dropLast_cons_cons] at hrun'
      rcases List.mem_cons.1 hrun' with rfl | hrun'
      · exact hrun
      · exact h.goesOn run' hrun'
  · intro hnone
    rw [List.findSome?_cons, hrun] at hnone
    rw [List.map_cons, h.all hnone]

theorem probeJavaCandidate_ends (candidate : Candidate) :
    Ends env A (probeJavaCandidate candidate) s fun out s' =>
      ∃ run : JavaRun, run.candidate = candidate ∧ s'.history = s.history ++ [run.call] ∧
        out = .ok (versionOf run.output) := by
  rw [probeJavaCandidate, ends_bind]
  exact fun _ => ⟨⟨candidate, (env (.execFile candidate.path ["-version"]) s.world).1⟩, rfl, rfl, rfl⟩

theorem probeCandidates_ends (minimumMajorVersion : Int) (bestIncompatible : Option (Candidate × JavaVersion))
    (candidates : List Candidate) :
    Ends env A (probeCandidates minimumMajorVersion bestIncompatible candidates) s fun out s' =>
      ∃ runs, s'.history = s.history ++ runs.map JavaRun.call ∧ Runs minimumMajorVersion candidates runs ∧
        out = .ok (Probed.of minimumMajorVersion bestIncompatible runs) := by
  induction candidates generalizing s bestIncompatible with
  | nil => exact ⟨[], by simp, ⟨List.prefix_rfl, nofun, fun _ => rfl⟩, by simp [Probed.of]⟩
  | cons candidate candidates ih =>
    rw [probeCandidates]
    refine (probeJavaCandidate_ends candidate).bind ?_ fun e => nomatch e
    rintro probe s₁ ⟨run, rfl, hhistory, hout⟩
    cases hout
    -- a run that is not new enough, and those after it
    have hgoesOn : ∀ best, run.compatible minimumMajorVersion = none → best = bestIncompatible.or run.told →
        Ends env A (probeCandidates minimumMajorVersion best candidates) s₁ fun out s' =>
          ∃ runs, s'.history = s.history ++ runs.map JavaRun.call ∧
            Runs minimumMajorVersion (run.candidate :: candidates) runs ∧
            out = .ok (Probed.of minimumMajorVersion bestIncompatible runs) := by
      intro best hrun hbest
      refine (ih best).mono ?_
      rintro out s' ⟨runs, hruns, hfirst, rfl⟩
      refine ⟨run :: runs, by rw [hruns, hhistory, List.map_cons, ← List.append_cons], hfirst.cons hrun, ?_⟩
      rw [Probed.of, Probed.of, List.findSome?_cons, hrun, List.findSome?_cons, hbest]
      cases run.told <;> simp
    cases hversion : versionOf run.output with
    | none =>
      have htold : run.told = none := by rw [JavaRun.told, hversion, Option.map_none]
      exact hgoesOn bestIncompatible (by rw [JavaRun.compatible, htold, Option.filter_none])
        (by rw [htold, Option.or_none])
    | some version =>
      have htold : run.told = some (run.candidate, version) := by rw [JavaRun.told, hversion, Option.map_some]
      dsimp only
      split
      · rename_i hnew
        have hrun : run.compatible minimumMajorVersion = some (run.candidate, version) := by
          rw [JavaRun.compatible, htold, Option.filter_some, if_pos (decide_eq_true hnew)]
        refine ⟨[run], hhistory, ⟨by simp, nofun, fun hnone => ?_⟩, ?_⟩
        · rw [List.findSome?_cons, hrun] at hnone
          cases hnone
        · rw [Probed.of, List.findSome?_cons, hrun]
      · rename_i hold
        refine hgoesOn _ ?_ (by rw [htold])
        rw [JavaRun.compatible, htold, Option.filter_some, if_neg (by simpa using hold)]

/-! ### The whole search -/

/-- What is known of a search: the calls that collect the candidates, then the runs. -/
structure Searched (toLowerCase : List Char → List Char) (options : DetectOptions)
    (calls : List (Answered DetectOp DetectOp.Answer)) (candidates : List Candidate) (runs : List JavaRun) : Prop where
  noRun : ∀ called ∈ calls, NoRun called
  collected : Candidates toLowerCase options calls candidates
  probed : Runs (options.minimumMajorVersion.getD 21) (candidatesToProbe options.trustedSources candidates) runs

theorem detectWindowsJava_ends (hempty : s.history = []) :
    Ends env A (detectWindowsJava toLowerCase options) s fun out s' =>
      ∃ calls candidates runs, s'.history = calls ++ runs.map JavaRun.call ∧
        Searched toLowerCase options calls candidates runs ∧
        out = .ok (resultOf (options.minimumMajorVersion.getD 21) runs) := by
  rw [detectWindowsJava]
  refine (createWindowsJavaCandidates_ends hempty).bind ?_ fun e => nomatch e
  rintro candidates s₁ ⟨_, hout, ⟨calls, hcalls, hnoRun⟩, hcandidates⟩
  cases hout
  rw [hempty, List.nil_append] at hcalls
  rw [hcalls] at hcandidates
  refine (probeCandidates_ends _ none _).bind ?_ fun e => nomatch e
  rintro probed s₂ ⟨runs, hhistory, hruns, hprobed⟩
  cases hprobed
  have hbefore : s₂.history = calls ++ runs.map JavaRun.call := by rw [hhistory, hcalls]
  suffices ∀ result, result = resultOf (options.minimumMajorVersion.getD 21) runs →
      Ends env A (pure result : Detection DetectResult) s₂ fun out s' =>
        ∃ calls candidates runs, s'.history = calls ++ runs.map JavaRun.call ∧
          Searched toLowerCase options calls candidates runs ∧
          out = .ok (resultOf (options.minimumMajorVersion.getD 21) runs) by
    cases hcompatible : runs.findSome? (JavaRun.compatible (options.minimumMajorVersion.getD 21)) with
    | some told =>
      simp only [Probed.of, hcompatible]
      exact this _ (by rw [resultOf, hcompatible])
    | none =>
      cases htold : runs.findSome? JavaRun.told with
      | some told =>
        simp only [Probed.of, hcompatible, htold, Option.none_or]
        exact this _ (by rw [resultOf, hcompatible, htold])
      | none =>
        simp only [Probed.of, hcompatible, htold, Option.none_or]
        exact this _ (by rw [resultOf, hcompatible, htold]; simp [← hruns.all hcompatible])
  rintro result rfl
  exact ⟨calls, candidates, runs, hbefore, ⟨hnoRun, hcandidates, hruns⟩, rfl⟩

/-- The runs of a search, with the calls that it makes before them. -/
theorem detectWindowsJava_perform (env : Environment DetectOp DetectOp.Answer σ) (toLowerCase : List Char → List Char)
    (options : DetectOptions) (world : σ) :
    ∃ calls candidates runs,
      (Script.perform env (detectWindowsJava toLowerCase options) ⟨⟨world, []⟩, ()⟩).2.history =
        calls ++ runs.map JavaRun.call ∧
      Searched toLowerCase options calls candidates runs ∧
      (Script.perform env (detectWindowsJava toLowerCase options) ⟨⟨world, []⟩, ()⟩).1 =
        .ok (resultOf (options.minimumMajorVersion.getD 21) runs) :=
  (detectWindowsJava_ends rfl).perform (A := fun _ => True) fun _ _ => trivial

theorem mem_candidatesToProbe {trustedSources : Option (List NodeJavaDetectionSources)} {candidates : List Candidate}
    {candidate : Candidate} : candidate ∈ candidatesToProbe trustedSources candidates ↔
      candidate ∈ candidates ∧ ∀ sources, trustedSources = some sources → candidate.source ∈ sources := by
  cases trustedSources with
  | none => simp [candidatesToProbe]
  | some sources => simp [candidatesToProbe]

theorem sublist_candidatesToProbe (trustedSources : Option (List NodeJavaDetectionSources))
    (candidates : List Candidate) : (candidatesToProbe trustedSources candidates).Sublist candidates := by
  cases trustedSources with
  | none => exact .refl _
  | some sources => exact List.filter_sublist

/-- A program that may be run: its path is plain and comes from a trusted source, and from outside the drives only if it
is the configured one. -/
structure MayRun (toLowerCase : List Char → List Char) (options : DetectOptions)
    (calls : List (Answered DetectOp DetectOp.Answer)) (candidate : Candidate) : Prop where
  plain : Plain options.allowNetworkPaths candidate.path
  onDrive : candidate.source ≠ .configuredPath → isDrivePath candidate.path = true
  trusted : ∀ sources, options.trustedSources = some sources → candidate.source ∈ sources
  origin : ∃ path, Origin toLowerCase options calls candidate.source path ∧ candidate.path = normalizeWindows path

theorem Searched.mayRun {calls : List (Answered DetectOp DetectOp.Answer)} {candidates : List Candidate}
    {runs : List JavaRun} (h : Searched toLowerCase options calls candidates runs) {run : JavaRun} (hrun : run ∈ runs) :
    MayRun toLowerCase options calls run.candidate := by
  obtain ⟨hmem, htrusted⟩ := mem_candidatesToProbe.1 (h.probed.first.subset (List.mem_map_of_mem hrun))
  obtain ⟨path, horigin, hsafe, hpath⟩ := h.collected.origin _ hmem
  refine ⟨?_, fun hsource => ?_, htrusted, path, horigin, hpath⟩
  · rw [hpath]
    exact plain_normalizeWindows hsafe
  · rw [hpath]
    exact horigin.isDrivePath hsource

/-- A search collects candidates without running anything, then runs some of them with `-version`: each is a path that
may be run, and no two are written with the same letters. -/
theorem probed_paths (env : Environment DetectOp DetectOp.Answer σ) (toLowerCase : List Char → List Char)
    (options : DetectOptions) (world : σ) :
    ∃ (calls : List (Answered DetectOp DetectOp.Answer)) (runs : List JavaRun),
      (Script.perform env (detectWindowsJava toLowerCase options) ⟨⟨world, []⟩, ()⟩).2.history =
        calls ++ runs.map JavaRun.call ∧
      (∀ called ∈ calls, NoRun called) ∧
      (∀ run ∈ runs, MayRun toLowerCase options calls run.candidate) ∧
      (runs.map fun run => toLowerCase run.candidate.path).Nodup := by
  obtain ⟨calls, candidates, runs, hhistory, hsearched, -⟩ := detectWindowsJava_perform env toLowerCase options world
  refine ⟨calls, runs, hhistory, hsearched.noRun, fun run hrun => hsearched.mayRun hrun, ?_⟩
  have hsublist : (runs.map JavaRun.candidate).Sublist candidates :=
    hsearched.probed.first.sublist.trans (sublist_candidatesToProbe _ _)
  have hkeys := hsublist.map fun candidate => toLowerCase candidate.path
  rw [List.map_map] at hkeys
  exact hkeys.nodup hsearched.collected.distinct

/-- A search says what its runs come to, and `runs` are all of them.  It stops at the first version that is new enough.
Where none is, every safe path that has an origin has been run, in one of its spellings, as long as all of them come from
trusted sources. -/
theorem detection_result (env : Environment DetectOp DetectOp.Answer σ) (toLowerCase : List Char → List Char)
    (options : DetectOptions) (world : σ) :
    ∃ (calls : List (Answered DetectOp DetectOp.Answer)) (runs : List JavaRun),
      (Script.perform env (detectWindowsJava toLowerCase options) ⟨⟨world, []⟩, ()⟩).2.history =
        calls ++ runs.map JavaRun.call ∧
      (∀ called ∈ calls, NoRun called) ∧
      (Script.perform env (detectWindowsJava toLowerCase options) ⟨⟨world, []⟩, ()⟩).1 =
        .ok (resultOf (options.minimumMajorVersion.getD 21) runs) ∧
      (∀ run ∈ runs.dropLast, run.compatible (options.minimumMajorVersion.getD 21) = none) ∧
      (runs.findSome? (JavaRun.compatible (options.minimumMajorVersion.getD 21)) = none →
        ∀ source path, Origin toLowerCase options calls source path →
          isSafeCandidatePath options.allowNetworkPaths (some path) = true →
          (∀ source' path' sources, Origin toLowerCase options calls source' path' →
            toLowerCase (normalizeWindows path') = toLowerCase (normalizeWindows path) →
            options.trustedSources = some sources → source' ∈ sources) →
          ∃ run ∈ runs, toLowerCase run.candidate.path = toLowerCase (normalizeWindows path)) := by
  obtain ⟨calls, candidates, runs, hhistory, hsearched, hout⟩ := detectWindowsJava_perform env toLowerCase options world
  refine ⟨calls, runs, hhistory, hsearched.noRun, hout, hsearched.probed.goesOn, ?_⟩
  intro hnone source path horigin hsafe htrusted
  obtain ⟨candidate, hmem, hkey⟩ := hsearched.collected.complete source path horigin hsafe
  obtain ⟨path', horigin', -, hpath'⟩ := hsearched.collected.origin candidate hmem
  have hprobe : candidate ∈ candidatesToProbe options.trustedSources candidates :=
    mem_candidatesToProbe.2 ⟨hmem, fun sources hsources =>
      htrusted candidate.source path' sources horigin' (by rw [← hpath', hkey]) hsources⟩
  rw [← hsearched.probed.all hnone] at hprobe
  obtain ⟨run, hrun, rfl⟩ := List.mem_map.1 hprobe
  exact ⟨run, hrun, hkey⟩

end EasyMc.Runtime.JavaDetection
