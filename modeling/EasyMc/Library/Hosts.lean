import Mathlib.Algebra.Group.Nat.Defs

/-!
# Hosts

The host of a URL is a domain or an address of version 4 or 6.  `serialize` writes it the way the URL standard does: four
decimal numbers with dots, or pieces in hexadecimal with colons, where the first of the longest runs of zeros is left out.

A block is a range of addresses with the same first bits.  The blocks that are set aside for the own host, for private
networks and for documentation are named here.
-/

namespace Hosts

/-! ### Blocks -/

/-- The addresses that have the first bits of `base`. -/
structure Block (w : Nat) where
  base : BitVec w
  bits : Nat

instance {w : Nat} : Membership (BitVec w) (Block w) where
  mem block address := address.toNat / 2 ^ (w - block.bits) = block.base.toNat / 2 ^ (w - block.bits)

instance {w : Nat} (block : Block w) (address : BitVec w) : Decidable (address ∈ block) :=
  inferInstanceAs (Decidable (_ = _))

/-- A block by its size and by how many of that size lie before it. -/
theorem mem_block_iff {w : Nat} {block : Block w} {address : BitVec w} (size before : Nat)
    (hsize : 2 ^ (w - block.bits) = size) (hbefore : block.base.toNat / size = before) :
    address ∈ block ↔ address.toNat / size = before := by
  subst hsize
  subst hbefore
  exact Iff.rfl

def loopback4 : Block 32 := ⟨0x7f000000, 8⟩

def private4 : List (Block 32) := [⟨0x0a000000, 8⟩, ⟨0xac100000, 12⟩, ⟨0xc0a80000, 16⟩]

def linkLocal4 : Block 32 := ⟨0xa9fe0000, 16⟩

def documentation4 : List (Block 32) := [⟨0xc0000200, 24⟩, ⟨0xc6336400, 24⟩, ⟨0xcb007100, 24⟩]

def loopback6 : Block 128 := ⟨1, 128⟩

def linkLocal6 : Block 128 := ⟨0xfe80 <<< 112, 10⟩

def uniqueLocal6 : Block 128 := ⟨0xfc00 <<< 112, 7⟩

def documentation6 : List (Block 128) := [⟨0x20010db8 <<< 96, 32⟩, ⟨0x3fff <<< 112, 20⟩]

/-- The address of version 6 that an address of version 4 is mapped to. -/
def mapped (address : BitVec 32) : BitVec 128 := BitVec.ofNat 128 (0xffff * 2 ^ 32 + address.toNat)

/-! ### Writing addresses -/

def octets (address : BitVec 32) : List Nat :=
  [address.toNat / 2 ^ 24, address.toNat / 2 ^ 16 % 2 ^ 8, address.toNat / 2 ^ 8 % 2 ^ 8, address.toNat % 2 ^ 8]

def dotted (address : BitVec 32) : String :=
  String.ofList (['.'].intercalate ((octets address).map (Nat.toDigits 10)))

def pieces (address : BitVec 128) : List Nat :=
  [address.toNat / 2 ^ 112, address.toNat / 2 ^ 96 % 2 ^ 16, address.toNat / 2 ^ 80 % 2 ^ 16,
    address.toNat / 2 ^ 64 % 2 ^ 16, address.toNat / 2 ^ 48 % 2 ^ 16, address.toNat / 2 ^ 32 % 2 ^ 16,
    address.toNat / 2 ^ 16 % 2 ^ 16, address.toNat % 2 ^ 16]

/-- How many zeros some pieces start with. -/
def zeroRun (pieces : List Nat) : Nat := (pieces.takeWhile fun piece => piece == 0).length

/-- The start of a longer run than the best one so far, and its length. -/
def longerRun (pieces : List Nat) (best : Option Nat × Nat) (start : Nat) : Option Nat × Nat :=
  if best.2 < zeroRun (pieces.drop start) then (some start, zeroRun (pieces.drop start)) else best

/-- Where the first of the longest runs of zeros starts; a single zero is no run. -/
def compressed (pieces : List Nat) : Option Nat := ((List.range pieces.length).foldl (longerRun pieces) (none, 1)).1

/-- The pieces from an index on, where the run that starts at `compress` is left out. -/
def writePieces (compress : Option Nat) : Nat → Bool → List Nat → List Char
  | _, _, [] => []
  | index, ignoreZeros, piece :: rest =>
    if ignoreZeros && piece == 0 then writePieces compress (index + 1) true rest
    else if compress == some index then
      (if index == 0 then [':', ':'] else [':']) ++ writePieces compress (index + 1) true rest
    else Nat.toDigits 16 piece ++ ((if index == 7 then [] else [':']) ++ writePieces compress (index + 1) false rest)

def colons (address : BitVec 128) : String :=
  String.ofList (writePieces (compressed (pieces address)) 0 false (pieces address))

example : colons 0x20010db8000000010000000000000001 = "2001:db8:0:1::1" := by decide

/-! ### Hosts -/

/-- A character of a domain: no upper-case letter and no forbidden one. -/
def isDomainChar (c : Char) : Bool :=
  0x20 < c.toNat && c.toNat < 0x7f && !c.isUpper && !"#%/:<>?@[\\]^|".toList.contains c

structure Domain where
  name : String
  valid : ∀ c ∈ name.toList, isDomainChar c = true

inductive Host
  | domain (domain : Domain)
  | ipv4 (address : BitVec 32)
  | ipv6 (address : BitVec 128)

def Host.serialize : Host → String
  | .domain ⟨name, _⟩ => name
  | .ipv4 address => dotted address
  | .ipv6 address => "[" ++ colons address ++ "]"

/-! ### Digits -/

theorem digitChar_of_mem_toDigits {c : Char} (n : Nat) (h : c ∈ Nat.toDigits 16 n) : ∃ d < 16, c = Nat.digitChar d := by
  induction n using Nat.strongRecOn with
  | ind n ih =>
    rw [Nat.toDigits_eq_if (by decide)] at h
    split at h
    · rename_i hn
      exact ⟨n, hn, List.mem_singleton.1 h⟩
    · rcases List.mem_append.1 h with h | h
      · exact ih (n / 16) (by omega) h
      · exact ⟨n % 16, by omega, List.mem_singleton.1 h⟩

/-- A number with four digits. -/
theorem toDigits_four {n : Nat} (hlow : 0x1000 ≤ n) (hhigh : n < 0x10000) :
    Nat.toDigits 16 n = [Nat.digitChar (n / 0x1000), Nat.digitChar (n / 0x100 % 16), Nat.digitChar (n / 0x10 % 16),
      Nat.digitChar (n % 16)] := by
  have hthree : n / 0x10 / 0x10 = n / 0x100 := by omega
  have htwo : n / 0x100 / 0x10 = n / 0x1000 := by omega
  rw [Nat.toDigits_eq_if (by decide), if_neg (by omega), Nat.toDigits_eq_if (by decide), if_neg (by omega), hthree,
    Nat.toDigits_eq_if (by decide), if_neg (by omega), htwo, Nat.toDigits_of_lt_base (by omega)]
  rfl

theorem mem_dotted {address : BitVec 32} {c : Char} (h : c ∈ (dotted address).toList) : c.isDigit = true ∨ c = '.' := by
  have hdigit : ∀ {n : Nat}, c ∈ Nat.toDigits 10 n → c.isDigit = true :=
    fun hc => Nat.isDigit_of_mem_toDigits (by decide) (by decide) hc
  simp only [dotted, octets, String.toList_ofList, List.map_cons, List.map_nil, List.intercalate, List.intersperse,
    List.mem_flatten, List.mem_cons, List.not_mem_nil, or_false, exists_eq_or_imp, exists_eq_left] at h
  rcases h with h | rfl | h | rfl | h | rfl | h
  · exact .inl (hdigit h)
  · exact .inr rfl
  · exact .inl (hdigit h)
  · exact .inr rfl
  · exact .inl (hdigit h)
  · exact .inr rfl
  · exact .inl (hdigit h)

/-! ### The text of an address of version 6 -/

section Colons

variable {compress : Option Nat} {index start : Nat} {ignoreZeros : Bool} {piece second : Nat} {rest pieces : List Nat}

/-- What is left out is a run of zeros. -/
theorem zeroRun_of_compressed (h : compressed pieces = some start) : 1 < zeroRun (pieces.drop start) := by
  suffices ∀ (starts : List Nat) (best : Option Nat × Nat), 1 ≤ best.2 →
      (∀ start, best.1 = some start → 1 < zeroRun (pieces.drop start)) →
      ∀ start, (starts.foldl (longerRun pieces) best).1 = some start → 1 < zeroRun (pieces.drop start) from
    this (List.range pieces.length) (none, 1) (by simp) (by simp) start h
  intro starts
  induction starts with
  | nil => exact fun best _ hbest => hbest
  | cons next starts ih =>
    intro best hpos hbest
    rw [List.foldl_cons]
    unfold longerRun
    split
    · rename_i hlonger
      refine ih _ (by simp; omega) fun start hstart => ?_
      obtain rfl := Option.some.inj hstart
      omega
    · exact ih best hpos hbest

theorem writePieces_cons (h : compress ≠ some index) :
    writePieces compress index false (piece :: rest) =
      Nat.toDigits 16 piece ++ ((if index == 7 then [] else [':']) ++ writePieces compress (index + 1) false rest) := by
  rw [writePieces]
  simp [h]

/-- A first piece that is no zero is written first. -/
theorem writePieces_compressed (h : piece ≠ 0) :
    writePieces (compressed (piece :: rest)) 0 false (piece :: rest) =
      Nat.toDigits 16 piece ++ ':' :: writePieces (compressed (piece :: rest)) 1 false rest := by
  have hfirst : compressed (piece :: rest) ≠ some 0 := by
    intro hstart
    have hrun := zeroRun_of_compressed hstart
    simp [zeroRun, h] at hrun
  rw [writePieces_cons hfirst]
  rfl

theorem writePieces_compressed_second (h : piece ≠ 0) (hsecond : second ≠ 0) :
    writePieces (compressed (piece :: second :: rest)) 0 false (piece :: second :: rest) =
      Nat.toDigits 16 piece ++ ':' :: (Nat.toDigits 16 second ++
        ':' :: writePieces (compressed (piece :: second :: rest)) 2 false rest) := by
  have hnext : compressed (piece :: second :: rest) ≠ some 1 := by
    intro hstart
    have hrun := zeroRun_of_compressed hstart
    simp [zeroRun, hsecond] at hrun
  rw [writePieces_compressed h, writePieces_cons hnext]
  rfl

/-- Digits and colons are all that is written. -/
theorem mem_writePieces {c : Char} (h : c ∈ writePieces compress index ignoreZeros pieces) :
    c = ':' ∨ ∃ d < 16, c = Nat.digitChar d := by
  induction pieces generalizing index ignoreZeros with
  | nil => cases h
  | cons piece rest ih =>
    rw [writePieces] at h
    split at h
    · exact ih h
    · split at h
      · rcases List.mem_append.1 h with h | h
        · left
          split at h <;> simpa using h
        · exact ih h
      · rcases List.mem_append.1 h with h | h
        · exact .inr (digitChar_of_mem_toDigits piece h)
        · rcases List.mem_append.1 h with h | h
          · left
            split at h <;> simp_all
          · exact ih h

/-- There is a colon. -/
theorem colon_mem_writePieces : ':' ∈ writePieces compress 0 false (piece :: rest) := by
  rw [writePieces]
  split
  · rename_i hignore
    simp at hignore
  · split
    · simp
    · simp

end Colons

section Address

variable {address : BitVec 128}

theorem toList_colons (address : BitVec 128) :
    (colons address).toList = writePieces (compressed (pieces address)) 0 false (pieces address) := by
  rw [colons, String.toList_ofList]

theorem mem_colons {c : Char} (h : c ∈ (colons address).toList) : c = ':' ∨ ∃ d < 16, c = Nat.digitChar d := by
  rw [toList_colons] at h
  exact mem_writePieces h

theorem colon_mem_colons : ':' ∈ (colons address).toList := by
  rw [toList_colons]
  exact colon_mem_writePieces

/-- The four digits of a first piece that has as many. -/
theorem toList_colons_first (h : 0x1000 ≤ address.toNat / 2 ^ 112) :
    ∃ rest, (colons address).toList =
      Nat.digitChar (address.toNat / 2 ^ 112 / 0x1000) :: Nat.digitChar (address.toNat / 2 ^ 112 / 0x100 % 16) ::
        Nat.digitChar (address.toNat / 2 ^ 112 / 0x10 % 16) :: Nat.digitChar (address.toNat / 2 ^ 112 % 16) ::
          ':' :: rest := by
  have hlt := address.isLt
  have hpiece : address.toNat / 2 ^ 112 ≠ 0 := by omega
  have hwritten := @writePieces_compressed _ (pieces address).tail hpiece
  rw [toDigits_four h (by omega)] at hwritten
  exact ⟨_, (toList_colons address).trans hwritten⟩

theorem toList_colons_second (hfirst : address.toNat / 2 ^ 112 ≠ 0) (hsecond : address.toNat / 2 ^ 96 % 2 ^ 16 ≠ 0) :
    ∃ rest, (colons address).toList = Nat.toDigits 16 (address.toNat / 2 ^ 112) ++
      ':' :: (Nat.toDigits 16 (address.toNat / 2 ^ 96 % 2 ^ 16) ++ ':' :: rest) := by
  have hwritten := @writePieces_compressed_second _ _ (pieces address).tail.tail hfirst hsecond
  exact ⟨_, (toList_colons address).trans hwritten⟩

end Address

theorem toNat_mapped (address : BitVec 32) : (mapped address).toNat = 0xffff * 2 ^ 32 + address.toNat := by
  have hlt := address.isLt
  rw [mapped, BitVec.toNat_ofNat]
  omega

/-- An address that another is mapped to starts with the one piece that is no zero. -/
theorem toList_colons_mapped (address : BitVec 32) :
    ∃ rest, (colons (mapped address)).toList = "::ffff:".toList ++ rest := by
  have hlt := address.isLt
  have hpieces : pieces (mapped address) =
      [0, 0, 0, 0, 0, 0xffff, address.toNat / 2 ^ 16, address.toNat % 2 ^ 16] := by
    unfold pieces
    rw [toNat_mapped]
    simp only [List.cons.injEq, and_true]
    omega
  have hcompressed : ∀ high low : Nat, compressed [0, 0, 0, 0, 0, 0xffff, high, low] = some 0 := by
    intro high low
    by_cases hhigh : high = 0
    · by_cases hlow : low = 0
      · subst hhigh hlow
        decide
      · simp [compressed, longerRun, zeroRun, List.range, List.range.loop, hhigh, hlow]
    · by_cases hlow : low = 0
      · simp [compressed, longerRun, zeroRun, List.range, List.range.loop, hhigh, hlow]
      · simp [compressed, longerRun, zeroRun, List.range, List.range.loop, hhigh, hlow]
  rw [toList_colons, hpieces, hcompressed]
  exact ⟨_, rfl⟩

end Hosts
