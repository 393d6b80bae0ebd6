import EasyMc.Desktop.RuntimeBridge
import EasyMc.Library.Weights

/-!
# How long redaction makes a text

Most patterns of the redactors need a character that few texts have many of, such as the colon of a path, and what stands
for a match has a fixed length.  So each of these characters is given the weight that pays for a replacement
(`charWeight`), and every other one weighs the bytes that it takes in the text of a JSON value.  An assignment keeps its
`=`, and an authorization its `Bearer` or `Basic`, so that a later redactor finds them once more; their weight is that of
the redactions to come.

The redactors of the runtime bridge, of the room controller and of the command host make no text heavier than it was with
the weights before them.
-/

namespace EasyMc.Desktop

open Regex
open Text (weight)

/-! ### Weights -/

/-- The weight of a character before `assignments` more rules that redact an assignment and `authorizations` more that
redact an authorization. -/
def charWeight (assignments authorizations : Nat) (c : Char) : Nat :=
  if c = ':' then 8
  else if c = '/' ∨ c = '\\' then 6
  else if c = '@' then 4
  else if c = '.' then 2
  else if c = '=' then 1 + 9 * assignments
  else if c = 'b' ∨ c = 'B' then 1 + 9 * authorizations
  else Text.utf8Length (Json.escapeChar c)

variable {i j : Nat}

theorem charWeight_covers (i j : Nat) : Json.Covers (charWeight i j) := by
  intro c
  have hplain {d : Char} (h : Json.isEscaped d = false) (hascii : d.toNat < 0x80) :
      Text.utf8Length (Json.escapeChar d) = 1 := by
    rw [Json.escapeChar_of_not_escaped h, Text.utf8Length, Text.utf8Bytes, if_pos hascii, Text.utf8Length]
  unfold charWeight
  split_ifs with hcolon hslash hat hdot hequals hletter
  · subst hcolon
    decide
  · rcases hslash with rfl | rfl <;> decide
  · subst hat
    decide
  · subst hdot
    decide
  · subst hequals
    rw [hplain (by decide) (by decide)]
    omega
  · rcases hletter with rfl | rfl
    · rw [hplain (by decide) (by decide)]
      omega
    · rw [hplain (by decide) (by decide)]
      omega
  · exact Nat.le_refl _

theorem one_le_charWeight (i j : Nat) (c : Char) : 1 ≤ charWeight i j c := by
  refine Nat.le_trans ?_ (charWeight_covers i j c)
  have hone (d : Char) : 1 ≤ Text.utf8Bytes d := by
    unfold Text.utf8Bytes
    split_ifs <;> omega
  unfold Json.escapeChar
  split_ifs
  all_goals
    rw [Text.utf8Length]
    exact (hone _).trans (Nat.le_add_right _ _)

theorem charWeight_mono {i' j' : Nat} (hi : i' ≤ i) (hj : j' ≤ j) (c : Char) : charWeight i' j' c ≤ charWeight i j c := by
  unfold charWeight
  split_ifs <;> omega

/-- What a character loses when an assignment has been redacted. -/
def assignmentLoss (c : Char) : Nat := if c = '=' then 9 else 0

/-- What a character loses when an authorization has been redacted. -/
def authorizationLoss (c : Char) : Nat := if c = 'b' ∨ c = 'B' then 9 else 0

theorem charWeight_assignment (c : Char) : charWeight i j c + assignmentLoss c ≤ charWeight (i + 1) j c := by
  by_cases hequals : c = '='
  · subst hequals
    change 1 + 9 * i + 9 ≤ 1 + 9 * (i + 1)
    omega
  · rw [assignmentLoss, if_neg hequals]
    exact charWeight_mono (Nat.le_succ i) (Nat.le_refl j) c

theorem charWeight_authorization (c : Char) : charWeight i j c + authorizationLoss c ≤ charWeight i (j + 1) c := by
  by_cases hletter : c = 'b' ∨ c = 'B'
  · have hweight (j : Nat) : charWeight i j c = 1 + 9 * j := by
      rcases hletter with rfl | rfl <;> rfl
    rw [hweight, hweight, authorizationLoss, if_pos hletter]
    omega
  · rw [authorizationLoss, if_neg hletter]
    exact charWeight_mono (Nat.le_refl i) (Nat.le_succ j) c

/-! ### Patterns -/

theorem reads_chr {w : Char → Nat} (c : Char) : Reads w (chr c) (w c) :=
  reads_char fun d hd => by
    obtain rfl : d = c := by simpa using hd
    exact Nat.le_refl _

theorem reads_colon : Reads (charWeight i j) (chr ':') 8 := reads_chr ':'

theorem reads_slash : Reads (charWeight i j) (chr '/') 6 := reads_chr '/'

theorem reads_one (f : Char → Bool) : Reads (charWeight i j) (.char f) 1 := reads_char fun c _ => one_le_charWeight i j c

theorem reads_some (f : Char → Bool) : Reads (charWeight i j) (plus f) 1 := reads_plus fun c _ => one_le_charWeight i j c

theorem reads_separator : Reads (charWeight i j) (.char fun c => c = '\\' || c = '/') 6 :=
  reads_char fun c hc => by
    have hcases : c = '\\' ∨ c = '/' := by simpa using hc
    rcases hcases with rfl | rfl <;> exact Nat.le_refl _

theorem reads_folder :
    Reads (charWeight i j) (oneOf (["Users", "home", "var", "tmp", "opt"].map fun name => literal name.toList)) 3 := by
  refine reads_oneOf fun r hr => ?_
  obtain ⟨name, hname, rfl⟩ := List.mem_map.1 hr
  refine (reads_literal (one_le_charWeight i j) _).mono ?_
  simp only [List.mem_cons, List.not_mem_nil, or_false] at hname
  rcases hname with rfl | rfl | rfl | rfl | rfl <;> decide

theorem reads_networkAddress : Reads (charWeight i j) networkAddress 10 :=
  reads_zero.seq (((((reads_one isDigit).rep 1 (some 3)).seq (reads_chr '.')).rep 3 (some 3)).seq
    (((reads_one isDigit).rep 1 (some 3)).seq reads_zero))

theorem reads_ipv6Address : Reads (charWeight i j) ipv6Address 10 :=
  (reads_zero.seq (((reads_zero.seq reads_colon).rep 2 none).seq reads_zero)).mono (by decide)

theorem reads_windowsPath : Reads (charWeight i j) windowsPath 15 :=
  (reads_zero.seq ((reads_one isLetter).seq (reads_colon.seq (reads_separator.seq (reads_some isPathChar))))).mono
    (by decide)

/-- What a path has behind its first blank. -/
theorem reads_unixPath : Reads (charWeight i j) unixPath 16 :=
  reads_zero.seq (reads_slash.seq (reads_folder.seq (reads_slash.seq (reads_some isPathChar))))

theorem reads_uuidText : Reads (charWeight i j) uuidText 10 :=
  (reads_zero.seq (((((reads_one (ignoreCase isHex)).rep 8 (some 8)).seq ((reads_one _).seq
    (((reads_one (ignoreCase isHex)).rep 4 (some 4)).seq reads_zero))).group 1).seq reads_zero)).mono (by decide)

theorem reads_emailText : Reads (charWeight i j) RuntimeBridge.emailText 10 :=
  (reads_some _).seq ((reads_chr '@').seq ((reads_some _).seq ((reads_chr '.').seq
    ((reads_one isLetter).rep 2 none))))

theorem reads_emailAddress : Reads (charWeight i j) emailAddress 10 :=
  reads_zero.seq ((reads_some _).seq ((reads_chr '@').seq ((reads_some _).seq ((reads_chr '.').seq
    (((reads_one isLetter).rep 2 none).seq reads_zero)))))

/-! ### Rules -/

theorem weight_redacted (i j : Nat) : weight (charWeight i j) "[redacted]".toList = 10 := rfl

theorem weight_redactedPath (i j : Nat) : weight (charWeight i j) "[redacted-path]".toList = 15 := by
  have htext : "[redacted-path]".toList = "[redacted".toList ++ "-path]".toList := by decide
  have hleft : weight (charWeight i j) "[redacted".toList = 9 := rfl
  have hright : weight (charWeight i j) "-path]".toList = 6 := rfl
  rw [htext, Text.weight_append, hleft, hright]

theorem weight_blank_redactedPath (i j : Nat) : weight (charWeight i j) " [redacted-path]".toList = 16 := by
  have hblank : charWeight i j ' ' = 1 := rfl
  have htext : " [redacted-path]".toList = ' ' :: "[redacted-path]".toList := by decide
  rw [htext, Text.weight_cons, hblank, weight_redactedPath]

theorem assignment_pays (name : String) :
    Pays (charWeight (i + 1) j) (charWeight i j) (RuntimeBridge.assignment name) [.group 1, .text "[redacted]"] := by
  have hequals : ∀ c, ignoreCase (· = '=') c = true → 9 ≤ assignmentLoss c := by
    intro c hc
    obtain hsame | ⟨-, hle⟩ | ⟨-, hle, -⟩ := ignoreCase_cases hc
    · rw [Char.toNat_inj.1 hsame]
      exact Nat.le_refl _
    · exact absurd hle (by decide)
    · exact absurd hle (by decide)
  exact pays_group charWeight_assignment (reads_literalI (by simp) hequals) (reads_some _) (by simp [all, plus, groupsOf])
    (Nat.le_refl 10)

theorem secretAssignment_pays (names : List String) :
    Pays (charWeight (i + 1) j) (charWeight i j) (secretAssignment names) [.group 1, .text "=[redacted]"] := by
  refine Pays.wordBoundary (pays_group (d := fun _ => 0) (charWeight_mono (Nat.le_succ i) (Nat.le_refl j)) reads_zero
    ((reads_chr '=').seq ((reads_some isValueChar).group 2)) (by decide) ?_)
  change 1 + 9 * i + 10 ≤ 0 + (1 + 9 * (i + 1) + 1)
  omega

theorem authorizationValue_pays :
    Pays (charWeight i (j + 1)) (charWeight i j) authorizationValue [.group 1, .text " [redacted]"] := by
  have hletter : ∀ c, ignoreCase (· = 'B') c = true → 9 ≤ authorizationLoss c := by
    intro c hc
    obtain hsame | ⟨-, hle⟩ | ⟨hlower, -⟩ := ignoreCase_cases hc
    · rw [Char.toNat_inj.1 hsame]
      exact Nat.le_refl _
    · exact absurd hle (by decide)
    · rw [Char.toNat_inj.1 (hlower.trans (rfl : _ = 'b'.toNat))]
      exact Nat.le_refl _
  have hname : Reads authorizationLoss (oneOf (["Bearer", "Basic"].map fun name => literalI name.toList)) 9 := by
    refine reads_oneOf fun r hr => ?_
    obtain ⟨name, hname, rfl⟩ := List.mem_map.1 hr
    simp only [List.mem_cons, List.not_mem_nil, or_false] at hname
    rcases hname with rfl | rfl <;> exact reads_literalI (by decide) hletter
  exact Pays.wordBoundary (pays_group charWeight_authorization hname ((reads_some isSpace).seq (reads_some isValueChar))
    (by decide) (Nat.le_refl 11))

/-- Rules that pay one after the other, until the weights are `w'`. -/
def PaysAll (w' : Char → Nat) : List Rule → (Char → Nat) → Prop
  | [], w => w = w'
  | rule :: rules, w =>
    ∃ w₁, Pays w w₁ rule.pattern rule.replacement ∧ (∀ c, w₁ c ≤ w c) ∧ PaysAll w' rules w₁

variable {w w₁ w' : Char → Nat} {rule : Rule} {rules rules' : List Rule}

/-- A rule that leaves the weights as they are. -/
theorem PaysAll.cons (h : Pays w w rule.pattern rule.replacement) (hrest : PaysAll w' rules w) :
    PaysAll w' (rule :: rules) w :=
  ⟨w, h, fun _ => Nat.le_refl _, hrest⟩

theorem PaysAll.append (h : PaysAll w₁ rules w) (h' : PaysAll w' rules' w₁) : PaysAll w' (rules ++ rules') w := by
  induction rules generalizing w with
  | nil =>
    obtain rfl := h
    exact h'
  | cons rule rules ih =>
    obtain ⟨w₂, hpays, hle, hrest⟩ := h
    exact ⟨w₂, hpays, hle, ih hrest⟩

theorem weight_applyRules (h : PaysAll w' rules w) (text : List Char) :
    weight w' (applyRules rules text) ≤ weight w text := by
  induction rules generalizing w text with
  | nil =>
    obtain rfl := h
    exact Nat.le_refl _
  | cons rule rules ih =>
    obtain ⟨w₁, hpays, hle, hrest⟩ := h
    exact (ih hrest _).trans (weight_replaceAll hpays hle text)

theorem hostLogRules_pay (i j : Nat) : PaysAll (charWeight i j) RuntimeBridge.hostLogRules (charWeight (i + 3) j) := by
  refine .cons (reads_networkAddress.pays (weight_redacted _ _).le) (.cons (reads_ipv6Address.pays (weight_redacted _ _).le)
    (.cons (reads_windowsPath.pays (weight_redactedPath _ _).le) (.cons (reads_unixPath.pays (weight_blank_redactedPath _ _).le) ?_)))
  refine ⟨charWeight (i + 2) j, assignment_pays _, charWeight_mono (by omega) (Nat.le_refl j), ?_⟩
  refine ⟨charWeight (i + 1) j, assignment_pays _, charWeight_mono (by omega) (Nat.le_refl j), ?_⟩
  refine ⟨charWeight i j, assignment_pays _, charWeight_mono (by omega) (Nat.le_refl j), ?_⟩
  exact .cons (reads_emailText.pays (weight_redacted _ _).le) (.cons (reads_uuidText.pays (weight_redacted _ _).le) rfl)

theorem addressRules_pay (i j : Nat) : PaysAll (charWeight i j) addressRules (charWeight i j) := by
  have hunixPath : Pays (charWeight i j) (charWeight i j) unixPath [.group 1, .text "[redacted-path]"] :=
    pays_group (d := fun _ => 0) (fun _ => Nat.le_refl _) reads_zero
      (reads_slash.seq (reads_folder.seq (reads_slash.seq (reads_some isPathChar)))) (by decide)
      ((weight_redactedPath i j).le.trans (by decide))
  exact .cons (reads_networkAddress.pays (weight_redacted _ _).le) (.cons (reads_ipv6Address.pays (weight_redacted _ _).le)
    (.cons (reads_windowsPath.pays (weight_redactedPath _ _).le) (.cons hunixPath rfl)))

theorem credentialRules_pay (i j : Nat) (names : List String) :
    PaysAll (charWeight i j) (credentialRules names) (charWeight (i + 1) (j + 1)) :=
  ⟨charWeight i (j + 1), secretAssignment_pays names, charWeight_mono (Nat.le_succ i) (Nat.le_refl _),
    charWeight i j, authorizationValue_pays, charWeight_mono (Nat.le_refl i) (Nat.le_succ j), rfl⟩

/-! ### Redactors -/

theorem reads_driveStart :
    Reads (charWeight i j) (all [.start, .char isLetter, chr ':', .char fun c => c = '\\' || c = '/']) 15 :=
  reads_zero.seq ((reads_one isLetter).seq (reads_colon.seq reads_separator))

theorem reads_startsAsPath : Reads (charWeight i j) RuntimeBridge.startsAsPath 15 :=
  reads_driveStart.alt (reads_zero.seq (reads_slash.seq (reads_folder.seq reads_slash)))

theorem weight_redactHostLogLine (i j : Nat) (line : List Char) :
    weight (charWeight i j) (RuntimeBridge.redactHostLogLine line) ≤ weight (charWeight (i + 3) j) line := by
  unfold RuntimeBridge.redactHostLogLine
  split
  · rename_i htest
    exact (weight_redactedPath i j).le.trans (reads_startsAsPath.le_of_test htest)
  · exact weight_applyRules (hostLogRules_pay i j) line

theorem weight_controller (i j : Nat) (text : String) :
    weight (charWeight i j) (RoomController.redactSecretString text).toList ≤
      weight (charWeight (i + 1) (j + 1)) text.toList := by
  rw [RoomController.redactSecretString, String.toList_ofList]
  exact weight_applyRules ((addressRules_pay _ _).append (credentialRules_pay i j _)) _

theorem weight_commandHost (i j : Nat) (text : String) :
    weight (charWeight i j) (CommandHost.redactSecretString text).toList ≤
      weight (charWeight (i + 1) (j + 1)) text.toList := by
  unfold CommandHost.redactSecretString
  split
  · rename_i htest
    exact (weight_redactedPath i j).le.trans (reads_driveStart.le_of_test htest)
  · rw [String.toList_ofList]
    refine weight_applyRules (((addressRules_pay _ _).append (credentialRules_pay i j _)).append ?_) _
    exact .cons (reads_uuidText.pays (weight_redacted _ _).le) (.cons (reads_emailAddress.pays (weight_redacted _ _).le) rfl)

theorem weight_bridge_sanitizeValue (i j : Nat) (value : Json) :
    Json.weight (charWeight i j) (RuntimeBridge.sanitizeValue value) ≤ Json.weight (charWeight (i + 3) j) value := by
  refine Json.weight_redact_le (fun key depth text => ?_) "" 0 value
  change weight _ (String.ofList (RuntimeBridge.redactHostLogLine text.toList)).toList ≤ _
  rw [String.toList_ofList]
  exact weight_redactHostLogLine i j _

theorem weight_controller_sanitizeValue (i j : Nat) (value : Json) :
    Json.weight (charWeight i j) (RoomController.sanitizeValue value) ≤
      Json.weight (charWeight (i + 1) (j + 1)) value := by
  refine Json.weight_redact_le (fun key depth text => ?_) "" 0 value
  change weight _ (if _ then text else RoomController.redactSecretString text).toList ≤ _
  split
  · exact Text.weight_le_weight (charWeight_mono (Nat.le_succ i) (Nat.le_succ j)) _
  · exact weight_controller i j text

theorem weight_sanitizeCommandResult (i j : Nat) (value : Json) :
    Json.weight (charWeight i j) (CommandHost.sanitizeCommandResult value) ≤
      Json.weight (charWeight (i + 1) (j + 1)) value := by
  refine Json.weight_redact_le (fun key depth text => ?_) "" 0 value
  change weight _ (if _ then text else CommandHost.redactSecretString text).toList ≤ _
  split
  · exact Text.weight_le_weight (charWeight_mono (Nat.le_succ i) (Nat.le_succ j)) _
  · exact weight_commandHost i j text

end EasyMc.Desktop
