import EasyMc.Runtime.Manager

/-!
# The commands for the server's console (`apps/desktop/src/runtime/node-local-runtime.mjs`)

`normalizeServerCommand` drops one slash from the start of a command and refuses the command if its first word is blocked.
The server's console drops leading slashes once more.  So a blocked command passes behind a second slash, and in no other
way (`sendCommand_harmless_iff`).
-/

namespace EasyMc.Runtime

open Text (isBlank trim)

/-! ### The filter -/

/-- The lower case of a character.  Of the characters that are not ASCII only two have a lower case with an ASCII letter in
it; the others are left, since they are compared with ASCII words only. -/
def lowerCase (c : Char) : List Char :=
  if c = '\u212A' then ['k'] else if c = '\u0130' then ['i', '\u0307'] else [c.toLower]

def toLowerCase (text : Text) : Text := text.flatMap lowerCase

/-- `[name = "", subcommand = ""]` of a text split at its blanks. -/
def splitCommand (text : Text) : Text × Text :=
  let isInside := fun c => !isBlank c
  (text.takeWhile isInside, ((text.dropWhile isInside).dropWhile isBlank).takeWhile isInside)

def blockedCommands : List Text :=
  ["ban", "ban-ip", "deop", "execute", "kick", "op", "pardon", "pardon-ip", "reload", "save-off", "save-on", "stop"].map
    String.toList

def isDangerousServerCommand (command : Text) : Bool :=
  let (name, subcommand) := splitCommand (toLowerCase command)
  if blockedCommands.contains name then true
  else name == "whitelist".toList && !(["add", "list", "remove"].map String.toList).contains subcommand

def hasControlCharacter (text : Text) : Bool :=
  text.any fun c =>
    c.toNat ≤ 0x08 || c.toNat == 0x0B || c.toNat == 0x0C || (0x0E ≤ c.toNat && c.toNat ≤ 0x1F) || c.toNat == 0x7F

/-- The command without its first slash. -/
def consoleCommand (command : Text) : Text :=
  match trim command with
  | '/' :: rest => rest.dropWhile isBlank
  | trimmed => trimmed

def normalizeServerCommand (command : Text) : Except String Text :=
  let console := consoleCommand command
  if console.isEmpty || 256 < Text.utf16Length console || command.any (fun c => c == '\r' || c == '\n') ||
      hasControlCharacter command then
    .error "invalid_line"
  else if isDangerousServerCommand console then .error "blocked_command"
  else .ok console

/-! ### What the console runs -/

def isSlashOrBlank (c : Char) : Bool := c == '/' || isBlank c

/-- What the console makes of a line: it drops the slashes and blanks at the start. -/
def bareCommand (line : Text) : Text := line.dropWhile isSlashOrBlank

/-- The line runs no blocked command, in any letter case, and no subcommand of `whitelist` but `add`, `list` and
`remove`. -/
def Harmless (line : Text) : Prop :=
  let (name, subcommand) := splitCommand (toLowerCase (bareCommand line))
  name ∉ blockedCommands ∧
    (name = "whitelist".toList → subcommand ≠ [] → subcommand ∈ ["add", "list", "remove"].map String.toList)

instance (line : Text) : Decidable (Harmless line) := inferInstanceAs (Decidable (_ ∧ _))

/-- The slashes at the start of a command. -/
def leadingSlashes (command : Text) : Nat := (command.takeWhile isSlashOrBlank).count '/'

/-! ### Blanks around a command -/

theorem lowerCase_blank {c : Char} (h : isBlank c = true) : lowerCase c = [c] := by
  have hkelvin : c ≠ '\u212A' := by
    rintro rfl
    cases h
  have hdotted : c ≠ '\u0130' := by
    rintro rfl
    cases h
  have hlower : c.toLower = c := by
    unfold Char.toLower
    rw [dif_neg]
    rintro ⟨hlow, hhigh⟩
    have hlow : 65 ≤ c.toNat := hlow
    have hhigh : c.toNat ≤ 90 := hhigh
    simp only [isBlank, List.contains_cons, List.contains_nil, Bool.or_eq_true, Bool.and_eq_true, decide_eq_true_eq,
      beq_iff_eq, Bool.or_false] at h
    omega
  rw [lowerCase, if_neg hkelvin, if_neg hdotted, hlower]

theorem toLowerCase_append (text text' : Text) : toLowerCase (text ++ text') = toLowerCase text ++ toLowerCase text' :=
  List.flatMap_append

theorem toLowerCase_blanks {blanks : Text} (h : ∀ c ∈ blanks, isBlank c = true) : toLowerCase blanks = blanks := by
  induction blanks with
  | nil => rfl
  | cons c blanks ih =>
    obtain ⟨hc, hblanks⟩ := List.forall_mem_cons.1 h
    have hcons : toLowerCase (c :: blanks) = lowerCase c ++ toLowerCase blanks := rfl
    rw [hcons, lowerCase_blank hc, ih hblanks]
    rfl

theorem takeWhile_append_stop {p : Char → Bool} {stop : Text} (h : ∀ c ∈ stop, p c = false) (text : Text) :
    (text ++ stop).takeWhile p = text.takeWhile p := by
  induction text with
  | nil =>
    cases stop with
    | nil => rfl
    | cons c stop => simp [h c]
  | cons c text ih => simp only [List.cons_append, List.takeWhile_cons, ih]

theorem dropWhile_append_stop {p : Char → Bool} {stop : Text} (h : ∀ c ∈ stop, p c = false) (text : Text) :
    (text ++ stop).dropWhile p = text.dropWhile p ++ stop := by
  induction text with
  | nil =>
    cases stop with
    | nil => rfl
    | cons c stop => simp [h c]
  | cons c text ih =>
    simp only [List.cons_append, List.dropWhile_cons, ih]
    split <;> rfl

/-- A blank at the end belongs to no word. -/
theorem splitCommand_append {blanks : Text} (h : ∀ c ∈ blanks, isBlank c = true) (text : Text) :
    splitCommand (text ++ blanks) = splitCommand text := by
  have hstop : ∀ c ∈ blanks, (!isBlank c) = false := by
    intro c hc
    rw [h c hc]
    rfl
  have hnil : blanks.dropWhile isBlank = [] := by simpa using h
  unfold splitCommand
  dsimp only
  rw [takeWhile_append_stop hstop, dropWhile_append_stop hstop, List.dropWhile_append, hnil]
  split
  · rename_i hempty
    rw [List.isEmpty_iff.1 hempty]
  · rw [takeWhile_append_stop hstop]

theorem isSlashOrBlank_of_blank {c : Char} (h : isBlank c = true) : isSlashOrBlank c = true := by
  simp [isSlashOrBlank, h]

/-- The words that the console reads. -/
def consoleWords (line : Text) : Text × Text := splitCommand (toLowerCase (bareCommand line))

theorem consoleWords_before {blanks : Text} (h : ∀ c ∈ blanks, isBlank c = true) (line : Text) :
    consoleWords (blanks ++ line) = consoleWords line := by
  rw [consoleWords, bareCommand, List.dropWhile_append_of_pos fun c hc => isSlashOrBlank_of_blank (h c hc)]
  rfl

theorem consoleWords_after {blanks : Text} (h : ∀ c ∈ blanks, isBlank c = true) (line : Text) :
    consoleWords (line ++ blanks) = consoleWords line := by
  have hnil : blanks.dropWhile isSlashOrBlank = [] := by
    simpa using fun c hc => isSlashOrBlank_of_blank (h c hc)
  unfold consoleWords bareCommand
  rw [List.dropWhile_append, hnil]
  split
  · rename_i hempty
    rw [List.isEmpty_iff.1 hempty]
  · rw [toLowerCase_append, toLowerCase_blanks h, splitCommand_append h]

/-- The console reads the same words of a command and of what the filter makes of it. -/
theorem consoleWords_consoleCommand (command : Text) : consoleWords (consoleCommand command) = consoleWords command := by
  obtain ⟨before, after, hsplit, hbefore, hafter⟩ := Text.trimBy_split isBlank command
  have htrim : consoleWords (trim command) = consoleWords command := by
    conv => rhs; rw [hsplit, consoleWords_after hafter, consoleWords_before hbefore]
    rfl
  rw [← htrim]
  unfold consoleCommand
  split
  · rename_i rest hslash
    have hblanks : ∀ c ∈ rest.takeWhile isBlank, isBlank c = true := fun c hc => List.mem_takeWhile_imp hc
    have hrest : consoleWords ('/' :: rest) = consoleWords rest := rfl
    rw [hslash, hrest]
    conv => rhs; rw [← List.takeWhile_append_dropWhile (p := isBlank) (l := rest), consoleWords_before hblanks]
  · rfl

/-! ### Slashes -/

/-- Only behind a second slash the filter leaves one. -/
theorem leadingSlashes_of_slash {command rest : Text} (h : consoleCommand command = '/' :: rest) :
    2 ≤ leadingSlashes command := by
  obtain ⟨before, after, hsplit, hbefore, -⟩ := Text.trimBy_split isBlank command
  change command = before ++ trim command ++ after at hsplit
  unfold consoleCommand at h
  split at h
  · rename_i rest' hslash
    have hblanks : ∀ c ∈ rest'.takeWhile isBlank, isSlashOrBlank c = true := fun c hc =>
      isSlashOrBlank_of_blank (List.mem_takeWhile_imp hc)
    have hrest' : rest' = rest'.takeWhile isBlank ++ '/' :: rest := by
      rw [← h, List.takeWhile_append_dropWhile]
    have hcommand : command = (before ++ '/' :: (rest'.takeWhile isBlank ++ ['/'])) ++ (rest ++ after) := by
      conv => lhs; rw [hsplit, hslash, hrest']
      simp
    have hlead : ∀ c ∈ before ++ '/' :: (rest'.takeWhile isBlank ++ ['/']), isSlashOrBlank c = true := by
      intro c hc
      simp only [List.mem_append, List.mem_cons, List.not_mem_nil, or_false] at hc
      rcases hc with hc | rfl | hc | rfl
      · exact isSlashOrBlank_of_blank (hbefore c hc)
      · rfl
      · exact hblanks c hc
      · rfl
    rw [leadingSlashes, hcommand, List.takeWhile_append_of_pos hlead]
    simp only [List.count_append, List.count_cons_self]
    omega
  · rename_i hnone
    exact absurd h (hnone rest)

/-- A command that starts with no slash is read as it is. -/
theorem bareCommand_consoleCommand {command : Text} (h : leadingSlashes command ≤ 1) :
    bareCommand (consoleCommand command) = consoleCommand command := by
  cases hconsole : consoleCommand command with
  | nil => rfl
  | cons c rest =>
    have hslash : c ≠ '/' := by
      rintro rfl
      have htwo := leadingSlashes_of_slash hconsole
      omega
    have hblank : isBlank c = false := by
      unfold consoleCommand at hconsole
      split at hconsole
      · rename_i rest' _
        have hnot := List.head?_dropWhile_not isBlank rest'
        rw [hconsole] at hnot
        exact hnot
      · exact Text.head_trimBy hconsole
    have hother : isSlashOrBlank c = false := by simp [isSlashOrBlank, hslash, hblank]
    rw [bareCommand, List.dropWhile_cons, hother]
    rfl

/-- A line is harmless exactly if the filter passes what is behind its slashes, or that is `whitelist` alone. -/
theorem harmless_iff {line : Text} : Harmless line ↔
    isDangerousServerCommand (bareCommand line) = false ∨ consoleWords line = ("whitelist".toList, []) := by
  have hfree : "whitelist".toList ∉ blockedCommands := by decide
  have hempty : [] ∉ ["add", "list", "remove"].map String.toList := by decide
  unfold Harmless consoleWords isDangerousServerCommand
  obtain ⟨name, subcommand⟩ := splitCommand (toLowerCase (bareCommand line))
  dsimp only
  generalize "whitelist".toList = whitelist at hfree ⊢
  generalize ["add", "list", "remove"].map String.toList = allowed at hempty ⊢
  by_cases hblocked : name ∈ blockedCommands
  · have hname : name ≠ whitelist := fun hname => hfree (hname ▸ hblocked)
    simp [hblocked, hname]
  · by_cases hname : name = whitelist
    · subst hname
      by_cases hnil : subcommand = []
      · simp [hnil, hblocked, hempty]
      · simp [hnil, hblocked]
    · simp [hblocked, hname]

theorem normalizeServerCommand_eq_ok {command line : Text} (h : normalizeServerCommand command = .ok line) :
    line = consoleCommand command ∧ isDangerousServerCommand line = false := by
  unfold normalizeServerCommand at h
  dsimp only at h
  split_ifs at h with hinvalid hdangerous
  obtain rfl := Except.ok.inj h
  exact ⟨rfl, by simpa using hdangerous⟩

/-- What is written for a command is harmless exactly if the command has at most one leading slash, or the filter passes what
is behind its slashes, or that is `whitelist` alone. -/
theorem harmless_written_iff {command line : Text} (h : normalizeServerCommand command = .ok line) :
    Harmless (line ++ ['\n']) ↔ leadingSlashes command ≤ 1 ∨ isDangerousServerCommand (bareCommand command) = false ∨
      consoleWords command = ("whitelist".toList, []) := by
  obtain ⟨rfl, hdangerous⟩ := normalizeServerCommand_eq_ok h
  have hwords : consoleWords (consoleCommand command ++ ['\n']) = consoleWords (consoleCommand command) :=
    consoleWords_after (by simp [isBlank]) _
  have hwritten : Harmless (consoleCommand command ++ ['\n']) ↔ Harmless (consoleCommand command) := by
    unfold Harmless
    change _ = _ at hwords
    simp only [consoleWords] at hwords
    rw [hwords]
  have hsame : Harmless (consoleCommand command) ↔ Harmless command := by
    have hwords := consoleWords_consoleCommand command
    unfold Harmless
    simp only [consoleWords] at hwords
    rw [hwords]
  rw [hwritten, ← harmless_iff]
  constructor
  · intro hharmless
    exact .inr (hsame.1 hharmless)
  · rintro (hslashes | hharmless)
    · refine harmless_iff.2 (.inl ?_)
      rw [bareCommand_consoleCommand hslashes]
      exact hdangerous
    · exact hsame.2 hharmless

/-! ### Sending a command -/

variable {options : Options} {m : Manager}

/-- What `sendCommand` writes to the server for a command that the filter accepts is harmless exactly if the command has at
most one leading slash, or the filter passes what is behind its slashes, or that is `whitelist` alone. -/
theorem sendCommand_harmless_iff (hfilter : options.normalizeServerCommand = normalizeServerCommand) {child : Nat}
    {process : Child} (href : m.processRef = some child) (hexited : m.processExited = false)
    (hprocess : m.children[child]? = some process) {command line : Text} (h : normalizeServerCommand command = .ok line) :
    ∃ written, (sendCommand options m (some command)).2.children[child]? =
        some { process with stdin := process.stdin ++ [written] } ∧
      (Harmless written ↔ leadingSlashes command ≤ 1 ∨ isDangerousServerCommand (bareCommand command) = false ∨
        consoleWords command = ("whitelist".toList, [])) := by
  refine ⟨line ++ ['\n'], ?_, harmless_written_iff h⟩
  unfold sendCommand
  dsimp only
  rw [hfilter, h, href, hexited]
  show (m.children.modify child _)[child]? = _
  rw [List.getElem?_modify_eq, hprocess]
  rfl

/-- A manager whose server runs. -/
def sampleManager : Manager :=
  { createLocalServerLifecycleManager with
    state := .running, processRef := some 0, processExited := false
    children := [{ alive := true, errorHandled := false, settled := none, stdout := [], stderr := [], stdin := [] }] }

def filteredOptions : Options := { sampleOptions with normalizeServerCommand := normalizeServerCommand }

theorem sendCommand_harmless_iff_say :
    ∃ written, (sendCommand filteredOptions sampleManager (some "/say hi".toList)).2.children[0]? =
        some { alive := true, errorHandled := false, settled := none, stdout := [], stderr := [], stdin := [written] } ∧
      (Harmless written ↔ leadingSlashes "/say hi".toList ≤ 1 ∨
        isDangerousServerCommand (bareCommand "/say hi".toList) = false ∨
        consoleWords "/say hi".toList = ("whitelist".toList, [])) := by
  have haccepted : normalizeServerCommand "/say hi".toList = .ok "say hi".toList := by decide
  exact sendCommand_harmless_iff (m := sampleManager) rfl rfl rfl rfl haccepted

/-- A second slash: the filter accepts the command, and the server stops. -/
theorem not_sendCommand_harmless : ¬ ∀ (command line : Text), normalizeServerCommand command = .ok line →
    ∃ written, (sendCommand filteredOptions sampleManager (some command)).2.children[0]? =
        some { alive := true, errorHandled := false, settled := none, stdout := [], stderr := [], stdin := [written] } ∧
      Harmless written := by
  intro hall
  obtain ⟨written, hwritten, hharmless⟩ := hall "//stop".toList "/stop".toList (by decide)
  have hchild : (sendCommand filteredOptions sampleManager (some "//stop".toList)).2.children[0]? = some
      { alive := true, errorHandled := false, settled := none, stdout := [], stderr := [],
        stdin := ["/stop\n".toList] } := by decide
  rw [hchild] at hwritten
  obtain rfl : "/stop\n".toList = written := by simpa using hwritten
  revert hharmless
  decide

end EasyMc.Runtime
