import EasyMc.Desktop.Materialization
import EasyMc.Library.Properties

/-!
# The properties of a server (`apps/desktop/src/runtime/host-runtime.mjs`, `local-runtime-adapter.mjs`)

`createServerPropertiesPlan` plans the properties of a server and `serializeServerProperties` writes one a line.  The only
text in them that a caller gives is the motd.  It is written without escapes, so the server reads it as it was planned if and
only if it has no backslash and does not begin with a blank (`serverProperties_read_iff`).
-/

namespace EasyMc.Desktop.HostPlan

open Json (coalesce get read textOf)
open LocalAdapter (entriesOf serializeServerProperties)
open Properties (IsPlainPair Survives isPlainKey load lineOf noLineEnd store units)
open Throwing (JsError bind_eq_ok)

/-! ### What is planned and what is read -/

/-- The properties that are planned. -/
def propertiesOf (values : Json) : List (List Nat × List Nat) :=
  (entriesOf values).map fun (key, value) => (units key.toList, units (value.asStr.getD "").toList)

/-- A server that reads the text gets the planned keys with the planned values. -/
def ReadAsPlanned (values : Json) (text : String) : Prop :=
  ∃ loaded, load (units text.toList) = some loaded ∧
    ∀ key, Properties.get key loaded = Properties.get key (propertiesOf values)

/-- `String(serverProperties.motd ?? fallback)` -/
def motdText (serverProperties : Option Json) : Except JsError String :=
  textOf (coalesce (get "motd" (some (serverProperties.getD (.obj [])))) (some (.str "Cozy Performance Room")))

/-- The text has a character for which the fallback is taken. -/
def hasControl (text : String) : Bool := text.toList.any fun c => c == '\r' || c == '\n' || c == '\x00'

def beginsWithBlank (text : List Char) : Bool := text.head?.any fun c => c == ' ' || c == '\t' || c == '\x0c'

/-- The fallback is taken, or the motd has no backslash in its first 80 code units and does not begin with a blank. -/
def MotdKept (serverProperties : Option Json) : Prop :=
  ∃ text, motdText serverProperties = .ok text ∧
    (hasControl text = true ∨
      (sliceStart 80 text.toList).contains '\\' = false ∧ beginsWithBlank text.toList = false)

/-! ### Texts -/

/-- Lines that are joined, with a line end behind the last one. -/
theorem toList_joinLines (line : String) (lines : List String) :
    (String.intercalate "\n" (line :: lines) ++ "\n").toList = (line :: lines).flatMap fun line => line.toList ++ ['\n'] := by
  induction lines generalizing line with
  | nil => simp
  | cons next lines ih =>
    rw [String.intercalate_cons_cons, String.append_assoc, String.toList_append, ih, List.flatMap_cons]
    simp

/-- The line of a property. -/
def propertyLine (property : String × String) : String := property.1 ++ "=" ++ property.2

theorem units_propertyLines (properties : List (String × String)) :
    units ((properties.map propertyLine).flatMap fun line => line.toList ++ ['\n']) =
      store (properties.map fun property => (units property.1.toList, units property.2.toList)) := by
  induction properties with
  | nil => rfl
  | cons property properties ih =>
    have hline : units ((propertyLine property).toList ++ ['\n']) =
        lineOf (units property.1.toList) (units property.2.toList) ++ [0x0A] := by
      simp only [propertyLine, String.toList_append, Properties.units_append, lineOf, List.append_assoc]
      rfl
    rw [List.map_cons, List.flatMap_cons, Properties.units_append, hline, ih, List.map_cons]
    rfl

/-- A text of characters below U+D800 that mean nothing in a line. -/
def isPlainText (text : List Char) : Bool := text.all fun c => c.toNat < 0xD800 && Properties.isPlain c.toNat

theorem units_eq_map {text : List Char} (h : ∀ c ∈ text, c.toNat < 0x10000) : units text = text.map Char.toNat := by
  induction text with
  | nil => rfl
  | cons c text ih =>
    rw [List.forall_mem_cons] at h
    have hc : Properties.unitsOf c = [c.toNat] := if_pos h.1
    have hcons : units (c :: text) = Properties.unitsOf c ++ units text := rfl
    rw [hcons, hc, ih h.2]
    rfl

theorem isBlank_of_large (unit : Nat) (h : 0x80 ≤ unit) : Properties.isBlank unit = false := by
  simp only [Properties.isBlank, Bool.or_eq_false_iff, beq_eq_false_iff_ne]
  omega

theorem beginsWithBlank_cons (c : Char) (text : List Char) : beginsWithBlank (c :: text) = Properties.isBlank c.toNat := by
  have hchar (d : Char) : (c == d) = (c.toNat == d.toNat) := by
    rw [Bool.eq_iff_iff, beq_iff_eq, beq_iff_eq, Char.toNat_inj]
  simp only [beginsWithBlank, List.head?_cons, Option.any_some, hchar]
  rfl

/-- A surrogate is no blank, and neither is the character that it belongs to. -/
theorem startsPlain_units_cons (c : Char) (text : List Char) :
    Properties.startsPlain (units (c :: text)) = !Properties.isBlank c.toNat := by
  have hunits : units (c :: text) = Properties.unitsOf c ++ units text := rfl
  have hcons (first : Nat) (rest : List Nat) : Properties.startsPlain (first :: rest) = !Properties.isBlank first := rfl
  rw [hunits, Properties.unitsOf]
  split_ifs with hsmall
  · exact hcons _ _
  · have hlarge : 0x80 ≤ c.toNat := by omega
    rw [List.cons_append, hcons, isBlank_of_large _ hlarge, isBlank_of_large _ (by omega)]

theorem survives_units_iff (text : List Char) :
    Survives (units text) ↔ text.contains '\\' = false ∧ beginsWithBlank text = false := by
  have hbackslash : (∀ unit ∈ units text, Properties.isBackslash unit = false) ↔ text.contains '\\' = false := by
    rw [← Bool.not_eq_true, List.contains_iff_mem, ← Properties.mem_units_iff (by decide)]
    constructor
    · intro h hmem
      exact absurd (h _ hmem) (by decide)
    · intro h unit hunit
      rw [← Bool.not_eq_true]
      intro hunit'
      have heq : unit = '\\'.toNat := by simpa [Properties.isBackslash] using hunit'
      exact h (heq ▸ hunit)
  have hblank : Properties.startsPlain (units text) = true ↔ beginsWithBlank text = false := by
    cases text with
    | nil => simp [units, Properties.startsPlain, beginsWithBlank]
    | cons c text =>
      rw [beginsWithBlank_cons, startsPlain_units_cons, Bool.not_eq_true']
  rw [Survives, hblank, hbackslash, and_comm]

/-! ### The file -/

/-- The properties before the motd. -/
def propertiesBefore (maxPlayers : Int) : List (List Nat × List Nat) :=
  [(units "enable-command-block".toList, units "false".toList),
    (units "enforce-secure-profile".toList, units "true".toList),
    (units "max-players".toList, units (toString maxPlayers).toList)]

/-- The properties after the one that follows the motd. -/
def propertiesAfter (port : Int) : List (List Nat × List Nat) :=
  [(units "server-ip".toList, units "".toList), (units "server-port".toList, units (toString port).toList),
    (units "white-list".toList, units "true".toList)]

def motdKey : List Nat := units "motd".toList

def onlineMode : List Nat × List Nat := (units "online-mode".toList, units "true".toList)

theorem propertiesOf_propertyValues (maxPlayers port : Int) (motd : String) :
    propertiesOf (propertyValues maxPlayers port motd) =
      propertiesBefore maxPlayers ++ (motdKey, units motd.toList) :: onlineMode :: propertiesAfter port := rfl

theorem serializeServerProperties_propertyValues (maxPlayers port : Int) (motd : String) :
    ∃ text, serializeServerProperties (propertyValues maxPlayers port motd) = .ok text ∧
      units text.toList = store (propertiesOf (propertyValues maxPlayers port motd)) := by
  let properties : List (String × String) :=
    [("enable-command-block", "false"), ("enforce-secure-profile", "true"), ("max-players", toString maxPlayers),
      ("motd", motd), ("online-mode", "true"), ("server-ip", ""), ("server-port", toString port), ("white-list", "true")]
  refine ⟨String.intercalate "\n" (properties.map propertyLine) ++ "\n", rfl, ?_⟩
  rw [List.map_cons, toList_joinLines, ← List.map_cons, units_propertyLines]
  rfl

theorem isPlain_of_isDigit {c : Char} (h : c.isDigit = true) : c.toNat < 0xD800 ∧ Properties.isPlain c.toNat = true := by
  have hbounds : 48 ≤ c.toNat ∧ c.toNat ≤ 57 := Char.isDigit_iff_toNat.1 h
  refine ⟨by omega, ?_⟩
  simp only [Properties.isPlain_iff, Properties.isBlank, Properties.isLineEnd, Properties.isSeparator, Properties.isComment,
    Properties.isBackslash, Bool.or_eq_false_iff, beq_eq_false_iff_ne]
  omega

/-- A number is written with digits and a sign. -/
theorem isPlainText_toString (n : Int) : isPlainText (toString n).toList = true := by
  have hdigits (m : Nat) : isPlainText (toString m).toList = true := by
    rw [isPlainText, List.all_eq_true]
    intro c hc
    have hmem : c ∈ Nat.toDigits 10 m := by simpa using hc
    obtain ⟨hsmall, hplain⟩ := isPlain_of_isDigit (Nat.isDigit_of_mem_toDigits (by decide) (by decide) hmem)
    rw [hplain, Bool.and_true]
    exact decide_eq_true hsmall
  cases n with
  | ofNat m => exact hdigits m
  | negSucc m =>
    have hneg : (toString (Int.negSucc m)).toList = '-' :: (toString (m + 1)).toList := by
      show ("-" ++ toString (m + 1)).toList = _
      rw [String.toList_append]
      rfl
    have hrest := hdigits (m + 1)
    rw [hneg]
    exact hrest

/-- A text without anything that means something in a line is read as it is written. -/
theorem isPlainPair_of_text {key value : String} (hkey : isPlainKey (units key.toList) = true)
    (hvalue : isPlainText value.toList = true) : IsPlainPair (units key.toList, units value.toList) := by
  rw [isPlainText, List.all_eq_true] at hvalue
  have hplain : ∀ c ∈ value.toList, c.toNat < 0xD800 ∧ Properties.isPlain c.toNat = true := by
    intro c hc
    have hboth := hvalue c hc
    rw [Bool.and_eq_true, decide_eq_true_eq] at hboth
    exact hboth
  have hunits : units value.toList = value.toList.map Char.toNat := units_eq_map fun c hc => by
    have hsmall := (hplain c hc).1
    omega
  have hall : ∀ unit ∈ units value.toList, Properties.isPlain unit = true := by
    rw [hunits]
    intro unit hunit
    obtain ⟨c, hc, rfl⟩ := List.mem_map.1 hunit
    exact (hplain c hc).2
  refine ⟨hkey, ?_, ?_, fun unit hunit => (Properties.isPlain_iff.1 (hall unit hunit)).2.2.2.2⟩
  · rw [noLineEnd, Bool.not_eq_true', List.any_eq_false]
    intro unit hunit
    rw [(Properties.isPlain_iff.1 (hall unit hunit)).2.1]
    exact Bool.false_ne_true
  · cases hvalue' : units value.toList with
    | nil => rfl
    | cons unit rest =>
      have hblank := (Properties.isPlain_iff.1 (hall unit (hvalue' ▸ List.mem_cons_self))).1
      simp [Properties.startsPlain, hblank]

theorem propertiesBefore_plain (maxPlayers : Int) : ∀ pair ∈ propertiesBefore maxPlayers, IsPlainPair pair := by
  simp only [propertiesBefore, List.forall_mem_cons]
  exact ⟨isPlainPair_of_text (by decide) (by decide), isPlainPair_of_text (by decide) (by decide),
    isPlainPair_of_text (by decide) (isPlainText_toString maxPlayers), by simp⟩

theorem propertiesAfter_plain (port : Int) : ∀ pair ∈ onlineMode :: propertiesAfter port, IsPlainPair pair := by
  simp only [onlineMode, propertiesAfter, List.forall_mem_cons]
  exact ⟨isPlainPair_of_text (by decide) (by decide), isPlainPair_of_text (by decide) (by decide),
    isPlainPair_of_text (by decide) (isPlainText_toString port), isPlainPair_of_text (by decide) (by decide), by simp⟩

/-! ### Reading -/

theorem load_store_self {pairs : List (List Nat × List Nat)} (h : ∀ pair ∈ pairs, IsPlainPair pair) :
    load (store pairs) = some pairs := by
  have hload := Properties.load_store h []
  rw [List.append_nil] at hload
  rw [hload]
  show some (pairs ++ []) = some pairs
  rw [List.append_nil]

/-- The text as it is read: what is before the motd, and the motd's line with those after it. -/
theorem load_properties (maxPlayers port : Int) (motd : List Nat) :
    load (store (propertiesBefore maxPlayers ++ (motdKey, motd) :: onlineMode :: propertiesAfter port)) =
      (load (lineOf motdKey motd ++ 0x0A :: store (onlineMode :: propertiesAfter port))).map
        (propertiesBefore maxPlayers ++ ·) := by
  have hsplit : store (propertiesBefore maxPlayers ++ (motdKey, motd) :: onlineMode :: propertiesAfter port) =
      store (propertiesBefore maxPlayers) ++
        (lineOf motdKey motd ++ 0x0A :: store (onlineMode :: propertiesAfter port)) := by
    simp [store]
  rw [hsplit, Properties.load_store (propertiesBefore_plain maxPlayers)]

theorem get_motd (maxPlayers port : Int) (motd : List Nat) :
    Properties.get motdKey (propertiesBefore maxPlayers ++ (motdKey, motd) :: onlineMode :: propertiesAfter port) =
      some motd := by
  have hafter : Properties.get motdKey (onlineMode :: propertiesAfter port) = none := by
    rw [Properties.get_eq_none_iff]
    simp only [onlineMode, propertiesAfter, List.forall_mem_cons]
    exact ⟨by decide, by decide, by decide, by decide, by simp⟩
  rw [Properties.get_append, Properties.get, hafter, if_pos rfl]
  rfl

theorem get_onlineMode (maxPlayers port : Int) (motd : List Nat) :
    Properties.get onlineMode.1 (propertiesBefore maxPlayers ++ (motdKey, motd) :: onlineMode :: propertiesAfter port) =
      some onlineMode.2 := by
  have hafter : Properties.get onlineMode.1 (propertiesAfter port) = none := by
    rw [Properties.get_eq_none_iff]
    simp only [onlineMode, propertiesAfter, List.forall_mem_cons]
    exact ⟨by decide, by decide, by decide, by simp⟩
  rw [Properties.get_append, Properties.get, Properties.get, hafter, if_pos rfl]
  rfl

/-- A motd that ends with a backslash takes the line of `online-mode` in. -/
theorem load_motd_continued (port : Int) {motd : List Nat} (hmotd : noLineEnd motd = true)
    (hends : Properties.endsEscaped motd = true) :
    ∃ value : Option (List Nat), load (lineOf motdKey motd ++ 0x0A :: store (onlineMode :: propertiesAfter port)) =
      value.map fun value => (motdKey, value) :: propertiesAfter port := by
  have hafter := (List.forall_mem_cons.1 (propertiesAfter_plain port)).2
  have hstore : store (onlineMode :: propertiesAfter port) =
      lineOf onlineMode.1 onlineMode.2 ++ 0x0A :: store (propertiesAfter port) := by
    simp [store]
  rw [hstore, Properties.load_continued (by decide) hmotd hends (by decide) (by decide) (by decide),
    load_store_self hafter]
  generalize Properties.unescape ((motd.dropLast ++ lineOf onlineMode.1 onlineMode.2).dropWhile Properties.isBlank) = value
  refine ⟨value, ?_⟩
  cases value with
  | none => rfl
  | some value => rfl

theorem load_motd (port : Int) {motd : List Nat} (hmotd : noLineEnd motd = true)
    (hends : Properties.endsEscaped motd = false) :
    load (lineOf motdKey motd ++ 0x0A :: store (onlineMode :: propertiesAfter port)) =
      (Properties.unescape (motd.dropWhile Properties.isBlank)).map fun value =>
        (motdKey, value) :: onlineMode :: propertiesAfter port := by
  rw [Properties.load_line (by decide) hmotd hends, load_store_self (propertiesAfter_plain port)]
  cases Properties.unescape (motd.dropWhile Properties.isBlank) with
  | none => rfl
  | some value => rfl

/-- The motd is all that can be read in another way than it was planned. -/
theorem loaded_as_planned_iff (maxPlayers port : Int) {motd : List Nat} (hmotd : noLineEnd motd = true) :
    (∃ loaded, load (store (propertiesBefore maxPlayers ++ (motdKey, motd) :: onlineMode :: propertiesAfter port)) =
        some loaded ∧
      ∀ key, Properties.get key loaded =
        Properties.get key (propertiesBefore maxPlayers ++ (motdKey, motd) :: onlineMode :: propertiesAfter port)) ↔
      Survives motd := by
  rw [load_properties]
  by_cases hends : Properties.endsEscaped motd = true
  · refine ⟨?_, fun h => absurd h (Properties.not_survives_of_endsEscaped hends)⟩
    rintro ⟨loaded, hloaded, hget⟩
    obtain ⟨value, hload⟩ := load_motd_continued port hmotd hends
    rw [hload, Option.map_map] at hloaded
    obtain ⟨value, -, rfl⟩ := Option.map_eq_some_iff.1 hloaded
    have hnone : Properties.get onlineMode.1 (propertiesBefore maxPlayers ++ (motdKey, value) :: propertiesAfter port) = none := by
      rw [Properties.get_eq_none_iff, List.forall_mem_append]
      simp only [propertiesBefore, propertiesAfter, onlineMode, List.forall_mem_cons]
      exact ⟨⟨by decide, by decide, by decide, by simp⟩, by decide, by decide, by decide, by decide, by simp⟩
    have hlost := hget onlineMode.1
    rw [get_onlineMode] at hlost
    exact absurd (hnone.symm.trans hlost) (by simp)
  · rw [load_motd port hmotd (Bool.eq_false_iff.2 hends), Option.map_map, ← Properties.unescape_eq_self_iff]
    constructor
    · rintro ⟨loaded, hloaded, hget⟩
      obtain ⟨value, hvalue, rfl⟩ := Option.map_eq_some_iff.1 hloaded
      have hsame := hget motdKey
      rw [get_motd, Function.comp_apply, get_motd] at hsame
      rw [hvalue, hsame]
    · intro h
      rw [h]
      exact ⟨_, rfl, fun _ => rfl⟩

/-! ### The plan -/

theorem safePropertyText_eq_ok {value : Option Json} {fallback motd : String} {maxLength : Nat}
    (h : safePropertyText value fallback maxLength = .ok motd) :
    ∃ text, textOf (coalesce value (some (.str fallback))) = .ok text ∧
      motd = if hasControl text then fallback else String.ofList (sliceStart maxLength text.toList) := by
  obtain ⟨text, htext, h⟩ := bind_eq_ok.1 h
  exact ⟨text, htext, (Except.ok.inj h).symm⟩

/-- The start of a text has no character that the text does not have, but for half of a pair. -/
theorem mem_of_mem_sliceStart {length : Nat} {text : List Char} {c : Char} (h : c ∈ sliceStart length text) :
    c ∈ text ∨ c = '\uFFFD' := by
  fun_induction sliceStart length text with
  | case1 => cases h
  | case2 => cases h
  | case3 length d text hunits ih =>
    rcases List.mem_cons.1 h with rfl | h
    · exact .inl List.mem_cons_self
    · exact (ih h).imp_left (List.mem_cons_of_mem d)
  | case4 d text hunits => exact .inr (List.mem_singleton.1 h)
  | case5 d text hunits length ih =>
    rcases List.mem_cons.1 h with rfl | h
    · exact .inl List.mem_cons_self
    · exact (ih h).imp_left (List.mem_cons_of_mem d)

/-- The start of a text begins as the text does, or with half of a pair. -/
theorem beginsWithBlank_sliceStart (length : Nat) (text : List Char) :
    beginsWithBlank (sliceStart (length + 1) text) = beginsWithBlank text := by
  cases text with
  | nil => rfl
  | cons c text =>
    rw [sliceStart.eq_def]
    dsimp only
    split_ifs with hunits
    · rw [beginsWithBlank_cons, beginsWithBlank_cons]
    · cases length with
      | zero =>
        have hlarge : 0x80 ≤ c.toNat := by
          unfold Text.utf16Units at hunits
          split_ifs at hunits
          · omega
          · omega
        rw [beginsWithBlank_cons c, isBlank_of_large _ hlarge]
        show beginsWithBlank ['\uFFFD'] = false
        decide
      | succ length => rw [beginsWithBlank_cons, beginsWithBlank_cons]

theorem noLineEnd_units {text : List Char} (hr : '\r' ∉ text) (hn : '\n' ∉ text) : noLineEnd (units text) = true := by
  rw [noLineEnd, Bool.not_eq_true', List.any_eq_false]
  intro unit hunit hend
  rw [Properties.isLineEnd, Bool.or_eq_true, beq_iff_eq, beq_iff_eq] at hend
  rcases hend with rfl | rfl
  · exact hn ((Properties.mem_units_iff (c := '\n') (by decide)).1 hunit)
  · exact hr ((Properties.mem_units_iff (c := '\r') (by decide)).1 hunit)

theorem noLineEnd_motd {text : String} (h : hasControl text = false) :
    noLineEnd (units (sliceStart 80 text.toList)) = true := by
  have hnone : ∀ c ∈ text.toList, c ≠ '\r' ∧ c ≠ '\n' := by
    intro c hc
    have hcontrol := (List.any_eq_false.1 h) c hc
    simp only [Bool.or_eq_true, beq_iff_eq, not_or] at hcontrol
    exact hcontrol.1
  apply noLineEnd_units
  · intro hmem
    rcases mem_of_mem_sliceStart hmem with hmem | heq
    · exact (hnone _ hmem).1 rfl
    · cases heq
  · intro hmem
    rcases mem_of_mem_sliceStart hmem with hmem | heq
    · exact (hnone _ hmem).2 rfl
    · cases heq

/-- The motd of a caller. -/
def withMotd (motd : String) : Option Json := some (.obj [("motd", .str motd)])

def sampleLayout : AppDataLayout := layoutOf "C:/App" "room-1"

end EasyMc.Desktop.HostPlan
