import EasyMc.Library.Hosts
import EasyMc.Packs.Mrpack

/-!
# Hosts that are reserved

`validateFirstPartyArtifactDownloadUrl` turns down URLs whose host is the own one, in a private network or set aside for
documentation.  It looks at the text of the host, as the URL standard writes it.  The first two numbers tell for every
address of version 4 (`isReservedIPv4_of_reserved`), and how an address of version 6 starts for most of those blocks.
What is overlooked (`Overlooked`) are link-local addresses past `fe80`, the second block for documentation and names of
the own host with a dot at the end; `rejects_reserved_iff` says that this is all.
-/

namespace EasyMc.Packs

open Hosts

/-! ### What is reserved -/

def IsReserved4 (address : BitVec 32) : Prop :=
  ∃ block ∈ loopback4 :: linkLocal4 :: (private4 ++ documentation4), address ∈ block

def IsReserved6 (address : BitVec 128) : Prop :=
  (∃ block ∈ loopback6 :: linkLocal6 :: uniqueLocal6 :: documentation6, address ∈ block) ∨
    ∃ address4, IsReserved4 address4 ∧ address = mapped address4

def IsLocalhost (name : String) : Prop := name = "localhost" ∨ Text.endsWith name ".localhost" = true

def IsLocalhostWithDot (name : String) : Prop := ∃ localhost, IsLocalhost localhost ∧ name = localhost ++ "."

/-- Hosts that no artifact should be downloaded from. -/
def Reserved : Host → Prop
  | .domain ⟨name, _⟩ => IsLocalhost name ∨ IsLocalhostWithDot name
  | .ipv4 address => IsReserved4 address
  | .ipv6 address => IsReserved6 address

/-- Link-local addresses that start with `fe80`. -/
def linkLocalStart : Block 128 := ⟨0xfe80 <<< 112, 16⟩

/-- The block for documentation that was added later. -/
def laterDocumentation : Block 128 := ⟨0x3fff <<< 112, 20⟩

/-- The reserved hosts that the code takes for others. -/
def Overlooked : Host → Prop
  | .domain ⟨name, _⟩ => IsLocalhostWithDot name
  | .ipv4 _ => False
  | .ipv6 address => (address ∈ linkLocal6 ∧ address ∉ linkLocalStart) ∨ address ∈ laterDocumentation

theorem reserved_of_overlooked {host : Host} (h : Overlooked host) : Reserved host := by
  cases host with
  | domain name => exact .inr h
  | ipv4 address => cases h
  | ipv6 address =>
    rcases h with ⟨hlocal, -⟩ | hlater
    · exact .inl ⟨linkLocal6, by simp, hlocal⟩
    · exact .inl ⟨laterDocumentation, by simp [documentation6, laterDocumentation], hlater⟩

/-- What `isIP` tells of the text of a host: `4` for four numbers with dots, and `6` for pieces with colons. -/
structure StandardIsIP (isIP : String → Nat) : Prop where
  ofDotted : ∀ address, isIP (dotted address) = 4
  ofColons : ∀ address, isIP (colons address) = 6
  dots : ∀ text, isIP text = 4 → ∀ c ∈ text.toList, c.isDigit = true ∨ c = '.'
  colon : ∀ text, isIP text = 6 → ':' ∈ text.toList

variable {builtins : Builtins}

/-! ### The text of a host -/

/-- A character that is kept when a host is read. -/
def Kept (c : Char) : Prop := c.toLower = c ∧ c ≠ '[' ∧ c ≠ ']'

theorem toLower_eq {c : Char} (h : c.isUpper = false) : c.toLower = c := by
  unfold Char.toLower
  rw [dif_neg (of_decide_eq_false h)]

private theorem map_toLower {text : List Char} (h : ∀ c ∈ text, Kept c) : text.map Char.toLower = text := by
  induction text with
  | nil => rfl
  | cons c text ih =>
    rw [List.forall_mem_cons] at h
    rw [List.map_cons, h.1.1, ih h.2]

theorem toList_toLower (text : String) : text.toLower.toList = text.toList.map Char.toLower := String.toList_map

/-- `host.replace(/^\[/, "")`. -/
def withoutOpening : List Char → List Char
  | '[' :: host => host
  | host => host

/-- `host.replace(/\]$/, "")`. -/
def withoutClosing (host : List Char) : String :=
  match host.reverse with
  | ']' :: host => String.ofList host.reverse
  | _ => String.ofList host

theorem unbracketed_eq (hostname : String) :
    unbracketed hostname = withoutClosing (withoutOpening hostname.toLower.toList) := rfl

theorem withoutOpening_eq {text : List Char} (h : ∀ c ∈ text, Kept c) : withoutOpening text = text := by
  unfold withoutOpening
  split
  · exact absurd rfl (h '[' (by simp)).2.1
  · rfl

theorem withoutClosing_eq {text : List Char} (h : ∀ c ∈ text, Kept c) :
    withoutClosing text = String.ofList text := by
  unfold withoutClosing
  split
  · rename_i rest hreverse
    have hclosing : ']' ∈ text.reverse := by simp [hreverse]
    exact absurd rfl (h ']' (List.mem_reverse.1 hclosing)).2.2
  · rfl

theorem unbracketed_of_kept {text : String} (h : ∀ c ∈ text.toList, Kept c) : unbracketed text = text := by
  rw [unbracketed_eq, toList_toLower, map_toLower h, withoutOpening_eq h, withoutClosing_eq h, String.ofList_toList]

theorem unbracketed_bracketed {text : String} (h : ∀ c ∈ text.toList, Kept c) : unbracketed ("[" ++ text ++ "]") = text := by
  have hlower : ("[" ++ text ++ "]").toLower.toList = '[' :: (text.toList ++ [']']) := by
    rw [toList_toLower, String.toList_append, String.toList_append, List.map_append, List.map_append, map_toLower h]
    rfl
  rw [unbracketed_eq, hlower, withoutOpening, withoutClosing, List.reverse_append]
  change String.ofList text.toList.reverse.reverse = text
  rw [List.reverse_reverse, String.ofList_toList]

/-! ### Names -/

/-- The tests of a host that do not depend on what kind of host it is. -/
def isReservedName (host : String) : Bool :=
  host == "localhost"
    || Text.endsWith host ".localhost"
    || host == "example.com"
    || host == "example.net"
    || host == "example.org"
    || host == "example.test"
    || Text.endsWith host ".example"
    || Text.endsWith host ".invalid"
    || Text.endsWith host ".test"
    || Text.endsWith host ".local"
    || Text.endsWith host ".lan"

theorem isReservedArtifactHost_eq (hostname : String) :
    isReservedArtifactHost builtins hostname =
      if isReservedName (unbracketed hostname) then true
      else if builtins.isIP (unbracketed hostname) == 4 then
        isReservedIPv4 ((((unbracketed hostname).toList.splitOn '.').map parseInt)[0]?.join)
          ((((unbracketed hostname).toList.splitOn '.').map parseInt)[1]?.join)
      else if builtins.isIP (unbracketed hostname) == 6 then isReservedIPv6 (unbracketed hostname)
      else false := rfl

/-- What a host that is reserved for its name ends with. -/
def reservedEndings : List String :=
  ["localhost", ".localhost", "example.com", "example.net", "example.org", "example.test", ".example", ".invalid",
    ".test", ".local", ".lan"]

theorem exists_ending_of_isReservedName {host : String} (h : isReservedName host = true) :
    ∃ ending ∈ reservedEndings, ending.toList <:+ host.toList := by
  have hends : ∀ {ending : String}, Text.endsWith host ending = true → ending.toList <:+ host.toList :=
    fun hending => List.isSuffixOf_iff_suffix.1 hending
  unfold isReservedName at h
  simp only [Bool.or_eq_true, beq_iff_eq] at h
  rcases h with (((((((((rfl | h) | rfl) | rfl) | rfl) | rfl) | h) | h) | h) | h) | h
  · exact ⟨"localhost", by simp [reservedEndings], List.suffix_rfl⟩
  · exact ⟨".localhost", by simp [reservedEndings], hends h⟩
  · exact ⟨"example.com", by simp [reservedEndings], List.suffix_rfl⟩
  · exact ⟨"example.net", by simp [reservedEndings], List.suffix_rfl⟩
  · exact ⟨"example.org", by simp [reservedEndings], List.suffix_rfl⟩
  · exact ⟨"example.test", by simp [reservedEndings], List.suffix_rfl⟩
  · exact ⟨".example", by simp [reservedEndings], hends h⟩
  · exact ⟨".invalid", by simp [reservedEndings], hends h⟩
  · exact ⟨".test", by simp [reservedEndings], hends h⟩
  · exact ⟨".local", by simp [reservedEndings], hends h⟩
  · exact ⟨".lan", by simp [reservedEndings], hends h⟩

theorem isReservedName_of_isLocalhost {name : String} (h : IsLocalhost name) : isReservedName name = true := by
  rcases h with rfl | h
  · rfl
  · unfold isReservedName
    simp [h]

/-- A name with a dot at the end ends with none of the endings. -/
theorem isReservedName_dot (name : String) : isReservedName (name ++ ".") = false := by
  rw [Bool.eq_false_iff]
  intro h
  obtain ⟨ending, hending, hsuffix⟩ := exists_ending_of_isReservedName h
  have hlast : ∀ ending ∈ reservedEndings, ending.toList.getLast? ≠ none ∧ ending.toList.getLast? ≠ some '.' := by decide
  obtain ⟨before, hbefore⟩ := hsuffix
  have hdot : (before ++ ending.toList).getLast? = some '.' := by
    rw [hbefore, String.toList_append]
    exact List.getLast?_concat
  obtain ⟨hsome, hne⟩ := hlast ending hending
  rw [List.getLast?_append] at hdot
  cases hgiven : ending.toList.getLast? with
  | none => exact hsome hgiven
  | some c =>
    rw [hgiven, Option.some_or] at hdot
    exact hne (hgiven.trans hdot)

theorem kept_of_isDomainChar {c : Char} (h : isDomainChar c = true) : Kept c := by
  simp only [isDomainChar, Bool.and_eq_true, Bool.not_eq_true'] at h
  obtain ⟨⟨-, hupper⟩, hforbidden⟩ := h
  refine ⟨toLower_eq hupper, ?_, ?_⟩
  · rintro rfl
    revert hforbidden
    decide
  · rintro rfl
    revert hforbidden
    decide

/-- A name of the own host with a dot at the end is no address either. -/
theorem isReservedArtifactHost_dot {name : String} (hisIP : StandardIsIP builtins.isIP)
    (hvalid : ∀ c ∈ name.toList, isDomainChar c = true) (h : IsLocalhostWithDot name) :
    isReservedArtifactHost builtins name = false := by
  have hletter : 'l' ∈ name.toList := by
    obtain ⟨localhost, hlocalhost, rfl⟩ := h
    rw [String.toList_append]
    apply List.mem_append_left
    rcases hlocalhost with rfl | hends
    · decide
    · exact (List.isSuffixOf_iff_suffix.1 hends).subset (by decide)
  have hfour : ¬ builtins.isIP name = 4 := by
    intro hip
    have hplain := hisIP.dots name hip 'l' hletter
    revert hplain
    decide
  have hsix : ¬ builtins.isIP name = 6 := by
    intro hip
    have hcolon := hvalid ':' (hisIP.colon name hip)
    revert hcolon
    decide
  obtain ⟨localhost, -, hname⟩ := h
  rw [isReservedArtifactHost_eq, unbracketed_of_kept fun c hc => kept_of_isDomainChar (hvalid c hc)]
  simp only [hfour, hsix, hname ▸ isReservedName_dot localhost, beq_iff_eq, if_false, Bool.false_eq_true]

/-! ### Addresses of version 4 -/

theorem parseInt_toDigits (n : Nat) : parseInt (Nat.toDigits 10 n) = some n := by
  have hall : (Nat.toDigits 10 n).takeWhile Char.isDigit = Nat.toDigits 10 n :=
    List.takeWhile_eq_self_iff.2 fun c hc => Nat.isDigit_of_mem_toDigits (by decide) (by decide) hc
  unfold parseInt
  rw [hall]
  split
  · rename_i hnil
    exact absurd hnil Nat.toDigits_ne_nil
  · exact congrArg some Nat.ofDigitChars_ten_toDigits

theorem map_parseInt_dotted (address : BitVec 32) :
    ((dotted address).toList.splitOn '.').map parseInt = (octets address).map some := by
  have hdots : ∀ part ∈ (octets address).map (Nat.toDigits 10), '.' ∉ part := by
    intro part hpart hdot
    obtain ⟨n, -, rfl⟩ := List.mem_map.1 hpart
    have hdigit : '.'.isDigit = true := Nat.isDigit_of_mem_toDigits (by decide) (by decide) hdot
    cases hdigit
  rw [dotted, String.toList_ofList, List.splitOn_intercalate '.' hdots (by simp [octets]), List.map_map]
  exact List.map_congr_left fun n _ => parseInt_toDigits n

/-- The first two numbers tell of every reserved address. -/
theorem isReservedIPv4_of_reserved {address : BitVec 32} (h : IsReserved4 address) :
    isReservedIPv4 (some (address.toNat / 2 ^ 24)) (some (address.toNat / 2 ^ 16 % 2 ^ 8)) = true := by
  obtain ⟨block, hblock, hmem⟩ := h
  simp only [private4, documentation4, List.mem_cons, List.mem_append, List.not_mem_nil, or_false] at hblock
  rcases hblock with rfl | rfl | (rfl | rfl | rfl) | rfl | rfl | rfl
  · have hfirst := (mem_block_iff (2 ^ 24) 127 rfl rfl).1 hmem
    rw [hfirst]
    rfl
  · have hstart := (mem_block_iff (2 ^ 16) 0xa9fe rfl rfl).1 hmem
    have hfirst : address.toNat / 2 ^ 24 = 169 := by omega
    have hsecond : address.toNat / 2 ^ 16 % 2 ^ 8 = 254 := by omega
    rw [hfirst, hsecond]
    rfl
  · have hfirst := (mem_block_iff (2 ^ 24) 10 rfl rfl).1 hmem
    rw [hfirst]
    rfl
  · have hstart := (mem_block_iff (2 ^ 20) 0xac1 rfl rfl).1 hmem
    have hfirst : address.toNat / 2 ^ 24 = 172 := by omega
    have hsecond : 16 ≤ address.toNat / 2 ^ 16 % 2 ^ 8 ∧ address.toNat / 2 ^ 16 % 2 ^ 8 ≤ 31 := by omega
    have hbetween : isBetween 16 31 (some (address.toNat / 2 ^ 16 % 2 ^ 8)) = true := by
      rw [isBetween, decide_eq_true hsecond.1, decide_eq_true hsecond.2]
      rfl
    unfold isReservedIPv4
    rw [hfirst, hbetween]
    rfl
  · have hstart := (mem_block_iff (2 ^ 16) 0xc0a8 rfl rfl).1 hmem
    have hfirst : address.toNat / 2 ^ 24 = 192 := by omega
    have hsecond : address.toNat / 2 ^ 16 % 2 ^ 8 = 168 := by omega
    rw [hfirst, hsecond]
    rfl
  · have hstart := (mem_block_iff (2 ^ 8) 0xc00002 rfl rfl).1 hmem
    have hfirst : address.toNat / 2 ^ 24 = 192 := by omega
    have hsecond : address.toNat / 2 ^ 16 % 2 ^ 8 = 0 := by omega
    rw [hfirst, hsecond]
    rfl
  · have hstart := (mem_block_iff (2 ^ 8) 0xc63364 rfl rfl).1 hmem
    have hfirst : address.toNat / 2 ^ 24 = 198 := by omega
    have hsecond : address.toNat / 2 ^ 16 % 2 ^ 8 = 51 := by omega
    rw [hfirst, hsecond]
    rfl
  · have hstart := (mem_block_iff (2 ^ 8) 0xcb0071 rfl rfl).1 hmem
    have hfirst : address.toNat / 2 ^ 24 = 203 := by omega
    have hsecond : address.toNat / 2 ^ 16 % 2 ^ 8 = 0 := by omega
    rw [hfirst, hsecond]
    rfl

theorem kept_of_isDigit {c : Char} (h : c.isDigit = true) : Kept c := by
  have hdigit : c.val ≥ '0'.val ∧ c.val ≤ '9'.val := by
    simpa only [Char.isDigit, Bool.and_eq_true, decide_eq_true_eq] using h
  have hupper : c.isUpper = false := by
    apply decide_eq_false
    rintro ⟨hlow, -⟩
    exact absurd (UInt32.le_trans hlow hdigit.2) (by decide)
  refine ⟨toLower_eq hupper, ?_, ?_⟩
  · rintro rfl
    cases h
  · rintro rfl
    cases h

theorem kept_of_mem_dotted {address : BitVec 32} : ∀ c ∈ (dotted address).toList, Kept c := by
  intro c hc
  rcases mem_dotted hc with hdigit | rfl
  · exact kept_of_isDigit hdigit
  · exact ⟨rfl, by decide, by decide⟩

/-- A reserved address of version 4 is told from its text. -/
theorem isReservedArtifactHost_ipv4 {address : BitVec 32} (hisIP : StandardIsIP builtins.isIP)
    (h : IsReserved4 address) : isReservedArtifactHost builtins (dotted address) = true := by
  have hfour : (builtins.isIP (dotted address) == 4) = true := by
    rw [hisIP.ofDotted]
    rfl
  rw [isReservedArtifactHost_eq, unbracketed_of_kept kept_of_mem_dotted, hfour, map_parseInt_dotted]
  split
  · rfl
  · exact isReservedIPv4_of_reserved h

/-! ### Addresses of version 6 -/

theorem kept_of_mem_colons {address : BitVec 128} : ∀ c ∈ (colons address).toList, Kept c := by
  have hdigits : ∀ d ∈ List.range 16,
      (Nat.digitChar d).toLower = Nat.digitChar d ∧ Nat.digitChar d ≠ '[' ∧ Nat.digitChar d ≠ ']' := by decide
  intro c hc
  rcases mem_colons hc with rfl | ⟨d, hd, rfl⟩
  · exact ⟨rfl, by decide, by decide⟩
  · exact hdigits d (List.mem_range.2 hd)

/-- Every ending has a letter or a dot that no address of version 6 has. -/
theorem isReservedName_colons (address : BitVec 128) : isReservedName (colons address) = false := by
  have hforeign : ∀ ending ∈ reservedEndings,
      (ending.toList.any fun c => c != ':' && !((List.range 16).map Nat.digitChar).contains c) = true := by decide
  rw [Bool.eq_false_iff]
  intro h
  obtain ⟨ending, hending, hsuffix⟩ := exists_ending_of_isReservedName h
  obtain ⟨c, hc, hother⟩ := List.any_eq_true.1 (hforeign ending hending)
  rw [Bool.and_eq_true, bne_iff_ne, Bool.not_eq_true', ← Bool.not_eq_true, List.contains_iff_mem] at hother
  rcases mem_colons (hsuffix.subset hc) with heq | ⟨d, hd, rfl⟩
  · exact hother.1 heq
  · exact hother.2 (List.mem_map_of_mem (List.mem_range.2 hd))

/-- An address of version 6 is judged by its text alone. -/
theorem isReservedArtifactHost_ipv6 (hisIP : StandardIsIP builtins.isIP) (address : BitVec 128) :
    isReservedArtifactHost builtins ("[" ++ colons address ++ "]") = isReservedIPv6 (colons address) := by
  rw [isReservedArtifactHost_eq, unbracketed_bracketed kept_of_mem_colons, isReservedName_colons, hisIP.ofColons]
  rfl

theorem isReservedIPv6_of_startsWith {text : String} (start : String)
    (hstart : start ∈ ["::ffff:", "fc", "fd", "fe80", "2001:db8"]) (h : start.toList <+: text.toList) :
    isReservedIPv6 text = true := by
  have hstarts : Text.startsWith text start = true := List.isPrefixOf_iff_prefix.2 h
  simp only [List.mem_cons, List.not_mem_nil, or_false] at hstart
  unfold isReservedIPv6
  rcases hstart with rfl | rfl | rfl | rfl | rfl <;> simp [hstarts]

/-- A text that starts with four digits is told by them, but for one block. -/
theorem isReservedIPv6_of_digits {text : String} {a b c d : Char} {rest : List Char} (ha : a ≠ ':') (hblock : a ≠ '2')
    (h : text.toList = a :: b :: c :: d :: ':' :: rest) :
    isReservedIPv6 text = true ↔ a = 'f' ∧ (b = 'c' ∨ b = 'd' ∨ (b = 'e' ∧ c = '8' ∧ d = '0')) := by
  have hstarts : ∀ start : String, Text.startsWith text start = true ↔ start.toList <+: a :: b :: c :: d :: ':' :: rest := by
    intro start
    rw [← h]
    exact List.isPrefixOf_iff_prefix
  have hne : ∀ host : String, host.toList.head? = some ':' → ¬ text = host := by
    rintro _ hhead rfl
    rw [h] at hhead
    exact ha (Option.some.inj hhead)
  have hmapped : ¬ "::ffff:".toList <+: a :: b :: c :: d :: ':' :: rest := by
    intro hstart
    exact ha (List.cons_prefix_cons.1 hstart).1.symm
  have hdocumentation : ¬ "2001:db8".toList <+: a :: b :: c :: d :: ':' :: rest := by
    intro hstart
    exact hblock (List.cons_prefix_cons.1 hstart).1.symm
  have hone := hne "::1" rfl
  have hnone := hne "::" rfl
  unfold isReservedIPv6
  simp only [Bool.or_eq_true, beq_iff_eq, hone, hnone, hstarts, hmapped, hdocumentation, false_or, or_false]
  change (['f', 'c'] <+: _ ∨ ['f', 'd'] <+: _) ∨ ['f', 'e', '8', '0'] <+: _ ↔ _
  simp only [List.cons_prefix_cons, List.nil_prefix, and_true]
  rw [eq_comm, @eq_comm _ 'c', @eq_comm _ 'd', @eq_comm _ 'e', @eq_comm _ '8', @eq_comm _ '0', and_or_left, and_or_left,
    or_assoc]

/-- Which of the addresses that start with four digits are told, but for one block. -/
theorem isReservedIPv6_colons {address : BitVec 128} (h : 0x3000 ≤ address.toNat / 2 ^ 112) :
    isReservedIPv6 (colons address) = true ↔
      address.toNat / 2 ^ 120 = 0xfc ∨ address.toNat / 2 ^ 120 = 0xfd ∨ address ∈ linkLocalStart := by
  have hlt := address.isLt
  obtain ⟨rest, hrest⟩ := toList_colons_first (show 0x1000 ≤ address.toNat / 2 ^ 112 by omega)
  have hnocolon : Nat.digitChar (address.toNat / 2 ^ 112 / 0x1000) ≠ ':' := by simp
  have hnotwo : Nat.digitChar (address.toNat / 2 ^ 112 / 0x1000) ≠ '2' := by
    rw [ne_eq, Nat.digitChar_eq_two]
    omega
  rw [isReservedIPv6_of_digits hnocolon hnotwo hrest, mem_block_iff (2 ^ 112) 0xfe80 rfl rfl]
  simp only [Nat.digitChar_eq_f, Nat.digitChar_eq_c, Nat.digitChar_eq_d, Nat.digitChar_eq_e, Nat.digitChar_eq_eight,
    Nat.digitChar_eq_zero]
  omega

/-! ### Addresses -/

/-- The reserved addresses of version 6 that are told from their text. -/
theorem isReservedIPv6_iff {address : BitVec 128} (h : IsReserved6 address) :
    isReservedIPv6 (colons address) = true ↔
      ¬ ((address ∈ linkLocal6 ∧ address ∉ linkLocalStart) ∨ address ∈ laterDocumentation) := by
  have hlt := address.isLt
  have hlocal : address ∈ linkLocal6 ↔ _ := mem_block_iff (2 ^ 118) 0x3fa rfl rfl
  have hstart : address ∈ linkLocalStart ↔ _ := mem_block_iff (2 ^ 112) 0xfe80 rfl rfl
  have hlater : address ∈ laterDocumentation ↔ _ := mem_block_iff (2 ^ 108) 0x3fff0 rfl rfl
  rw [hlocal, hstart, hlater]
  rcases h with ⟨block, hblock, hmem⟩ | ⟨address4, -, rfl⟩
  · simp only [documentation6, List.mem_cons, List.not_mem_nil, or_false] at hblock
    rcases hblock with rfl | rfl | rfl | rfl | rfl
    · have hnumber := (mem_block_iff (2 ^ 0) 1 rfl rfl).1 hmem
      have hone : address.toNat = 1 := by omega
      obtain rfl : address = 1 := BitVec.eq_of_toNat_eq hone
      decide
    · have hnumber := hlocal.1 hmem
      rw [isReservedIPv6_colons (by omega), hstart]
      omega
    · have hnumber := (mem_block_iff (2 ^ 121) 0x7e rfl rfl).1 hmem
      rw [isReservedIPv6_colons (by omega), hstart]
      omega
    · have hnumber := (mem_block_iff (2 ^ 96) 0x20010db8 rfl rfl).1 hmem
      have hfirst : address.toNat / 2 ^ 112 = 0x2001 := by omega
      have hsecond : address.toNat / 2 ^ 96 % 2 ^ 16 = 0xdb8 := by omega
      obtain ⟨rest, hrest⟩ := toList_colons_second (show address.toNat / 2 ^ 112 ≠ 0 by omega)
        (show address.toNat / 2 ^ 96 % 2 ^ 16 ≠ 0 by omega)
      rw [hfirst, hsecond] at hrest
      have htold : isReservedIPv6 (colons address) = true :=
        isReservedIPv6_of_startsWith "2001:db8" (by simp) ⟨':' :: rest, hrest.symm⟩
      simp only [htold, true_iff]
      omega
    · have hnumber := hlater.1 hmem
      rw [isReservedIPv6_colons (by omega), hstart]
      omega
  · obtain ⟨rest, hrest⟩ := toList_colons_mapped address4
    have hnumber := toNat_mapped address4
    have hlt4 := address4.isLt
    have htold : isReservedIPv6 (colons (mapped address4)) = true :=
      isReservedIPv6_of_startsWith "::ffff:" (by simp) ⟨rest, hrest.symm⟩
    simp only [htold, true_iff]
    omega

/-- A reserved host is told from its text unless it is overlooked. -/
theorem isReservedArtifactHost_iff {host : Host} (hisIP : StandardIsIP builtins.isIP) (h : Reserved host) :
    isReservedArtifactHost builtins host.serialize = true ↔ ¬ Overlooked host := by
  cases host with
  | domain domain =>
    obtain ⟨name, hvalid⟩ := domain
    change isReservedArtifactHost builtins name = true ↔ ¬ IsLocalhostWithDot name
    by_cases hdot : IsLocalhostWithDot name
    · rw [isReservedArtifactHost_dot hisIP hvalid hdot]
      simp [hdot]
    · have hlocalhost : IsLocalhost name := h.resolve_right hdot
      rw [isReservedArtifactHost_eq, unbracketed_of_kept fun c hc => kept_of_isDomainChar (hvalid c hc),
        if_pos (isReservedName_of_isLocalhost hlocalhost)]
      simp [hdot]
  | ipv4 address =>
    have htold : isReservedArtifactHost builtins (dotted address) = true := isReservedArtifactHost_ipv4 hisIP h
    simp only [Host.serialize, htold, Overlooked, not_false_eq_true]
  | ipv6 address =>
    rw [Host.serialize, isReservedArtifactHost_ipv6 hisIP]
    exact isReservedIPv6_iff h

/-! ### Downloads -/

def Rejected (builtins : Builtins) (text : String) : Prop :=
  ∃ message, validateFirstPartyArtifactDownloadUrl builtins (.str text) = .notReady message

/-- The URL has nothing that the code turns down before it looks at the host. -/
structure Plain (text : String) (parsed : Url) : Prop where
  given : text ≠ ""
  protocol : parsed.protocol = "https:"
  username : parsed.username = ""
  password : parsed.password = ""
  placeholder : Text.includes text "REPLACE_WITH_" = false
  signed : Text.includes text "<signed-https-artifact-url>" = false

theorem rejected_of_not_plain {text : String} {parsed : Url} (hparsed : builtins.parseUrl text = some parsed)
    (h : ¬ Plain text parsed) : Rejected builtins text := by
  unfold Rejected validateFirstPartyArtifactDownloadUrl
  dsimp only
  by_cases hgiven : (text == "") = true
  · exact ⟨_, if_pos hgiven⟩
  · rw [if_neg hgiven, hparsed]
    dsimp only
    by_cases hcredentials : (parsed.protocol != "https:" || parsed.username != "" || parsed.password != "") = true
    · exact ⟨_, if_pos hcredentials⟩
    · rw [if_neg hcredentials]
      by_cases hplaceholder :
          (Text.includes text "REPLACE_WITH_" || Text.includes text "<signed-https-artifact-url>") = true
      · exact ⟨_, if_pos hplaceholder⟩
      · -- none of the tests finds anything, so the URL is plain
        exfalso
        simp only [Bool.or_eq_true, bne_iff_ne, not_or, ne_eq, not_not, Bool.not_eq_true] at hcredentials hplaceholder
        obtain ⟨⟨hprotocol, husername⟩, hpassword⟩ := hcredentials
        exact h ⟨by simpa using hgiven, hprotocol, husername, hpassword, hplaceholder.1, hplaceholder.2⟩

theorem rejected_iff_of_plain {text : String} {parsed : Url} (hparsed : builtins.parseUrl text = some parsed)
    (h : Plain text parsed) : Rejected builtins text ↔ isReservedArtifactHost builtins parsed.hostname = true := by
  unfold Rejected validateFirstPartyArtifactDownloadUrl
  dsimp only
  rw [hparsed]
  simp only [h.given, h.protocol, h.username, h.password, h.placeholder, h.signed, beq_iff_eq, if_false, bne_self_eq_false,
    Bool.or_self, Bool.false_eq_true]
  split
  · rename_i hreserved
    simp [hreserved]
  · rename_i hreserved
    simp [hreserved]

/-- A URL with a reserved host is turned down unless the host is overlooked and nothing else is wrong with the URL. -/
theorem rejects_reserved_iff (builtins : Builtins) (hisIP : StandardIsIP builtins.isIP) (text : String) (parsed : Url)
    (hparsed : builtins.parseUrl text = some parsed) (host : Host)
    (hhost : parsed.protocol = "https:" → parsed.hostname = host.serialize) :
    (Reserved host → Rejected builtins text) ↔ ¬ (Overlooked host ∧ Plain text parsed) := by
  by_cases hplain : Plain text parsed
  · rw [rejected_iff_of_plain hparsed hplain, hhost hplain.protocol]
    constructor
    · rintro hrejected ⟨hoverlooked, -⟩
      have hreserved := reserved_of_overlooked hoverlooked
      exact (isReservedArtifactHost_iff hisIP hreserved).1 (hrejected hreserved) hoverlooked
    · intro hnot hreserved
      rw [isReservedArtifactHost_iff hisIP hreserved]
      exact fun hoverlooked => hnot ⟨hoverlooked, hplain⟩
  · exact ⟨fun _ hboth => hplain hboth.2, fun _ _ => rejected_of_not_plain hparsed hplain⟩

/-! ### A link-local address -/

/-- The built-ins on URLs that are a scheme, a host and a path, and on texts of addresses. -/
def plainBuiltins : Builtins where
  parseUrl text :=
    if Text.startsWith text "https://" then
      some {
        protocol := "https:"
        username := ""
        password := ""
        hostname := String.ofList ((text.toList.drop 8).takeWhile fun c => c != '/')
        href := text }
    else none
  isIP text :=
    if text.toList.contains ':' then 6 else if text.toList.all fun c => c.isDigit || c == '.' then 4 else 0

theorem standardIsIP_plainBuiltins : StandardIsIP plainBuiltins.isIP := by
  constructor
  · intro address
    have hcolon : ¬ (dotted address).toList.contains ':' = true := by
      intro hcontains
      rcases mem_dotted (List.contains_iff_mem.1 hcontains) with hdigit | hdot
      · cases hdigit
      · cases hdot
    have hall : (dotted address).toList.all (fun c => c.isDigit || c == '.') = true := by
      rw [List.all_eq_true]
      intro c hc
      simpa using mem_dotted hc
    unfold plainBuiltins
    dsimp only
    rw [if_neg hcolon, if_pos hall]
  · intro address
    unfold plainBuiltins
    dsimp only
    rw [if_pos (List.contains_iff_mem.2 colon_mem_colons)]
  · intro text hfour c hc
    unfold plainBuiltins at hfour
    dsimp only at hfour
    by_cases hcolon : text.toList.contains ':' = true
    · rw [if_pos hcolon] at hfour
      omega
    · rw [if_neg hcolon] at hfour
      by_cases hall : text.toList.all (fun c => c.isDigit || c == '.') = true
      · simpa using List.all_eq_true.1 hall c hc
      · rw [if_neg hall] at hfour
        omega
  · intro text hsix
    unfold plainBuiltins at hsix
    dsimp only at hsix
    by_cases hcolon : text.toList.contains ':' = true
    · exact List.contains_iff_mem.1 hcolon
    · rw [if_neg hcolon] at hsix
      split at hsix <;> omega

theorem rejects_reserved_iff_loopback :
    (Reserved (.ipv4 0x7f000001) → Rejected plainBuiltins "https://127.0.0.1/room.jar") ↔
      ¬ (Overlooked (.ipv4 0x7f000001) ∧ Plain "https://127.0.0.1/room.jar"
        { protocol := "https:", username := "", password := "", hostname := "127.0.0.1"
          href := "https://127.0.0.1/room.jar" }) :=
  rejects_reserved_iff plainBuiltins standardIsIP_plainBuiltins "https://127.0.0.1/room.jar" _ rfl (.ipv4 0x7f000001)
    fun _ => by decide

/-- `fe90::1`, which is as local as `fe80::1`. -/
def linkLocalAddress : BitVec 128 := 0xfe900000000000000000000000000001

theorem linkLocal_not_rejected :
    StandardIsIP plainBuiltins.isIP ∧ ∃ parsed, plainBuiltins.parseUrl "https://[fe90::1]/room.jar" = some parsed ∧
      parsed.hostname = (Host.ipv6 linkLocalAddress).serialize ∧ Reserved (.ipv6 linkLocalAddress) ∧
      ¬ Rejected plainBuiltins "https://[fe90::1]/room.jar" := by
  have hoverlooked : Overlooked (.ipv6 linkLocalAddress) := .inl ⟨by decide, by decide⟩
  have hreserved := reserved_of_overlooked hoverlooked
  have hhost : String.ofList (("https://[fe90::1]/room.jar".toList.drop 8).takeWhile fun c => c != '/') =
      (Host.ipv6 linkLocalAddress).serialize := by decide
  refine ⟨standardIsIP_plainBuiltins, _, rfl, hhost, hreserved, ?_⟩
  rw [rejected_iff_of_plain rfl ⟨by decide, rfl, rfl, rfl, by decide, by decide⟩]
  dsimp only
  rw [hhost, isReservedArtifactHost_iff standardIsIP_plainBuiltins hreserved]
  exact fun hnot => hnot hoverlooked

end EasyMc.Packs
