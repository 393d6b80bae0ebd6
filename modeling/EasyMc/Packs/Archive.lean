import EasyMc.Library.Buffers
import EasyMc.Library.Utf8
import EasyMc.Packs.Checksum
import EasyMc.Packs.Mrpack

/-!
# Archives (`packages/modpack-builder/src/mrpack.mjs`)

An archive is written as the local records of its entries, their central records, and an end record.  The reader looks for the
end record from the back, and goes through as many central records as it declares.

The reader reads nothing outside of the archive, whatever the bytes are (`listZipEntryNames_bounded`).  But it compares the
records with the size of the archive only, and not with the size of the directory that the end record declares
(`listZipEntryNames_declared_iff`).
-/

namespace EasyMc.Packs

open Throwing (bind_eq_ok Ends)
open Buffers (Field)

/-- A buffer throws when an offset or a number is out of its range; `Error(message)` is thrown by the functions themselves. -/
inductive ArchiveError
  | outOfRange
  | thrown (message : String)
  deriving DecidableEq

def readUInt16LE (buffer : List UInt8) (offset : Nat) : Except ArchiveError Nat := Buffers.read .outOfRange 2 buffer offset

def readUInt32LE (buffer : List UInt8) (offset : Nat) : Except ArchiveError Nat := Buffers.read .outOfRange 4 buffer offset

/-- `buffer.subarray(start, end).toString("utf8")` -/
def textBetween (buffer : List UInt8) (start stop : Nat) : List Char := Utf8.decode ((buffer.take stop).drop start)

/-! ### Writing -/

/-- `writeUInt16LE(value, offset)` -/
def uInt16LE (value : Int) (offset : Nat) : Field := ⟨2, value, offset⟩

/-- `writeUInt32LE(value, offset)` -/
def uInt32LE (value : Int) (offset : Nat) : Field := ⟨4, value, offset⟩

structure ZipEntry where
  name : List Char
  contents : List UInt8

def localHeaderFields (filename : List UInt8) (crc : Int) (compressed uncompressed : List UInt8) : List Field :=
  [uInt32LE 0x04034b50 0, uInt16LE 20 4, uInt16LE 0 6, uInt16LE 8 8, uInt16LE 0 10, uInt16LE 0 12, uInt32LE crc 14,
    uInt32LE compressed.length 18, uInt32LE uncompressed.length 22, uInt16LE filename.length 26, uInt16LE 0 28]

def createLocalHeader (filename : List UInt8) (crc : Int) (compressed uncompressed : List UInt8) :
    Except ArchiveError (List UInt8) := do
  let header ← Buffers.fill .outOfRange 30 (localHeaderFields filename crc compressed uncompressed)
  .ok (header ++ filename)

def centralHeaderFields (filename : List UInt8) (crc : Int) (compressed uncompressed : List UInt8) (offset : Nat) :
    List Field :=
  [uInt32LE 0x02014b50 0, uInt16LE 20 4, uInt16LE 20 6, uInt16LE 0 8, uInt16LE 8 10, uInt16LE 0 12, uInt16LE 0 14,
    uInt32LE crc 16, uInt32LE compressed.length 20, uInt32LE uncompressed.length 24, uInt16LE filename.length 28,
    uInt16LE 0 30, uInt16LE 0 32, uInt16LE 0 34, uInt16LE 0 36, uInt32LE 0 38, uInt32LE offset 42]

def createCentralHeader (filename : List UInt8) (crc : Int) (compressed uncompressed : List UInt8) (offset : Nat) :
    Except ArchiveError (List UInt8) := do
  let header ← Buffers.fill .outOfRange 46 (centralHeaderFields filename crc compressed uncompressed offset)
  .ok (header ++ filename)

def endOfCentralDirectoryFields (entryCount centralSize centralOffset : Nat) : List Field :=
  [uInt32LE 0x06054b50 0, uInt16LE 0 4, uInt16LE 0 6, uInt16LE entryCount 8, uInt16LE entryCount 10,
    uInt32LE centralSize 12, uInt32LE centralOffset 16, uInt16LE 0 20]

def createEndOfCentralDirectory (entryCount centralSize centralOffset : Nat) : Except ArchiveError (List UInt8) :=
  Buffers.fill .outOfRange 22 (endOfCentralDirectoryFields entryCount centralSize centralOffset)

/-- What the loop over the entries has written so far. -/
structure Written where
  localRecords : List (List UInt8)
  centralRecords : List (List UInt8)
  offset : Nat

section Writing

variable (deflateRawSync : List UInt8 → Except ArchiveError (List UInt8))

/-- One pass of the loop over the entries. -/
def writeEntry (written : Written) (entry : ZipEntry) : Except ArchiveError Written := do
  let filename := Text.utf8 entry.name
  let uncompressed := entry.contents
  let compressed ← deflateRawSync uncompressed
  let crc := crc32 uncompressed
  let localHeader ← createLocalHeader filename crc compressed uncompressed
  let centralHeader ← createCentralHeader filename crc compressed uncompressed written.offset
  .ok {
    localRecords := written.localRecords ++ [localHeader, compressed]
    centralRecords := written.centralRecords ++ [centralHeader]
    offset := written.offset + (localHeader.length + compressed.length) }

def createZipArchive (entries : List ZipEntry) : Except ArchiveError (List UInt8) := do
  let written ← entries.foldlM (writeEntry deflateRawSync) ⟨[], [], 0⟩
  let centralDirectory := written.centralRecords.flatten
  let endRecord ← createEndOfCentralDirectory entries.length centralDirectory.length written.offset
  .ok (written.localRecords.flatten ++ centralDirectory ++ endRecord)

end Writing

/-! ### Reading -/

/-- The offsets from `minimumOffset` on, the last first; `remaining` of them are left. -/
def findEndFrom (buffer : List UInt8) (minimumOffset : Nat) : Nat → Except ArchiveError Nat
  | 0 => .error (.thrown "end of central directory was not found")
  | remaining + 1 => do
    let signature ← readUInt32LE buffer (minimumOffset + remaining)
    if signature = 0x06054b50 then .ok (minimumOffset + remaining) else findEndFrom buffer minimumOffset remaining

def findEndOfCentralDirectory (buffer : List UInt8) : Except ArchiveError Nat :=
  let minimumOffset := buffer.length - 0xffff - 22
  findEndFrom buffer minimumOffset (buffer.length - 22 + 1 - minimumOffset)

/-- What the end record declares. -/
structure EndRecord where
  entryCount : Nat
  centralSize : Nat
  centralOffset : Nat
  deriving DecidableEq

def readEndRecord (buffer : List UInt8) : Except ArchiveError EndRecord := do
  if buffer.length < 22 then .error (.thrown "zip archive is too small")
  else
    let endOffset ← findEndOfCentralDirectory buffer
    let entryCount ← readUInt16LE buffer (endOffset + 10)
    let centralSize ← readUInt32LE buffer (endOffset + 12)
    let centralOffset ← readUInt32LE buffer (endOffset + 16)
    if centralOffset + centralSize > buffer.length then .error (.thrown "central directory is outside the archive")
    else .ok ⟨entryCount, centralSize, centralOffset⟩

/-- A central record: where it begins, and the lengths of what follows its 46 bytes. -/
structure CentralEntry where
  offset : Nat
  nameLength : Nat
  extraLength : Nat
  commentLength : Nat
  deriving DecidableEq

def CentralEntry.nameStart (entry : CentralEntry) : Nat := entry.offset + 46

def CentralEntry.nameEnd (entry : CentralEntry) : Nat := entry.nameStart + entry.nameLength

/-- Where the record ends, and the next one begins. -/
def CentralEntry.next (entry : CentralEntry) : Nat := entry.nameEnd + entry.extraLength + entry.commentLength

def CentralEntry.name (buffer : List UInt8) (entry : CentralEntry) : List Char :=
  textBetween buffer entry.nameStart entry.nameEnd

/-- One pass of the loop over the central records. -/
def readEntry (buffer : List UInt8) (offset : Nat) : Except ArchiveError CentralEntry := do
  if offset + 46 > buffer.length then .error (.thrown "central directory entry is invalid")
  else
    let signature ← readUInt32LE buffer offset
    if signature ≠ 0x02014b50 then .error (.thrown "central directory entry is invalid")
    else
      let nameLength ← readUInt16LE buffer (offset + 28)
      let extraLength ← readUInt16LE buffer (offset + 30)
      let commentLength ← readUInt16LE buffer (offset + 32)
      let entry : CentralEntry := ⟨offset, nameLength, extraLength, commentLength⟩
      if entry.nameEnd > buffer.length then .error (.thrown "central directory filename is outside the archive")
      else .ok entry

def readEntries (buffer : List UInt8) : Nat → Nat → Except ArchiveError (List CentralEntry)
  | 0, _ => .ok []
  | remaining + 1, offset => do
    let entry ← readEntry buffer offset
    let entries ← readEntries buffer remaining entry.next
    .ok (entry :: entries)

def listZipEntries (buffer : List UInt8) : Except ArchiveError (List CentralEntry) := do
  let record ← readEndRecord buffer
  readEntries buffer record.entryCount record.centralOffset

def listZipEntryNames (buffer : List UInt8) : Except ArchiveError (List (List Char)) := do
  let entries ← listZipEntries buffer
  .ok (entries.map (CentralEntry.name buffer))

def firstPartyArtifactJarExpectations : List (String × String) :=
  [("mods/local-room-client-connection-0.1.0-alpha.jar", "com/easymc/room/client/LocalRoomClientMod.class"),
    ("mods/local-room-server-bridge-0.1.0-alpha.jar", "com/easymc/room/server/LocalRoomServerBridgeMod.class")]

/-- `firstPartyArtifactJarExpectations[path]?.className`; what is found for a property of every object has no class name. -/
def expectedClassName (path : String) : Option (Option String) :=
  match firstPartyArtifactJarExpectations.lookup path with
  | some className => some (some className)
  | none => if objectPrototypeNames.contains path then some none else none

/-- The names in the archive, or why it is not accepted.  `messageOf` is `error.message`. -/
def validateFirstPartyArtifactJarBytes (messageOf : ArchiveError → String) (path : Option String) (contents : List UInt8) :
    Except String (List (List Char)) :=
  match path.bind expectedClassName with
  | none => .error ("Unknown first-party artifact path: " ++ path.getD "<missing>")
  | some className =>
    match listZipEntryNames contents with
    | .error error => .error ("First-party artifact jar is not readable: " ++ messageOf error)
    | .ok entries =>
      if !entries.contains "fabric.mod.json".toList then
        .error "First-party artifact jar must include fabric.mod.json."
      else if !(className.any fun name => entries.contains name.toList) then
        .error ("First-party artifact jar must include " ++ className.getD "undefined" ++ ".")
      else if !(entries.any fun entry => ".class".toList.isSuffixOf entry) then
        .error "First-party artifact jar must include at least one compiled class."
      else .ok entries

/-! ### What is read -/

/-- An error that a function throws itself. -/
def ArchiveError.IsOwn (error : ArchiveError) : Prop := ∃ message, error = .thrown message

theorem ends_thrown {α : Type} {P : α → Prop} (message : String) : Ends P ArchiveError.IsOwn (.error (.thrown message)) :=
  Throwing.ends_error ⟨message, rfl⟩

variable {buffer : List UInt8}

/-- A number inside the buffer is read. -/
theorem ends_read {width offset : Nat} (h : offset + width ≤ buffer.length) :
    Ends (fun _ => True) ArchiveError.IsOwn (Buffers.read .outOfRange width buffer offset) := by
  rw [Buffers.read_of_le _ h]
  exact Throwing.ends_ok trivial

theorem findEndFrom_ends {minimumOffset remaining : Nat} (h : minimumOffset + remaining + 21 ≤ buffer.length) :
    Ends (fun endOffset => endOffset + 22 ≤ buffer.length) ArchiveError.IsOwn
      (findEndFrom buffer minimumOffset remaining) := by
  induction remaining with
  | zero => exact ends_thrown _
  | succ remaining ih =>
    refine (ends_read (by omega)).bind fun signature _ => ?_
    split_ifs
    · apply Throwing.ends_ok
      omega
    · exact ih (by omega)

theorem findEndOfCentralDirectory_ends (h : 22 ≤ buffer.length) :
    Ends (fun endOffset => endOffset + 22 ≤ buffer.length) ArchiveError.IsOwn (findEndOfCentralDirectory buffer) := by
  apply findEndFrom_ends
  omega

theorem readEndRecord_ends (buffer : List UInt8) :
    Ends (fun record => ∃ endOffset, findEndOfCentralDirectory buffer = .ok endOffset ∧
        readUInt16LE buffer (endOffset + 10) = .ok record.entryCount)
      ArchiveError.IsOwn (readEndRecord buffer) := by
  unfold readEndRecord
  split_ifs with hsmall
  · exact ends_thrown _
  · have hends := findEndOfCentralDirectory_ends (Nat.le_of_not_lt hsmall)
    cases hfind : findEndOfCentralDirectory buffer with
    | error error => exact Throwing.ends_error (hends.error hfind)
    | ok endOffset =>
      have hend : endOffset + 22 ≤ buffer.length := hends.ok hfind
      have hcount : readUInt16LE buffer (endOffset + 10) = .ok (Buffers.number ((buffer.drop (endOffset + 10)).take 2)) :=
        Buffers.read_of_le _ (by omega)
      rw [Throwing.ok_bind, hcount, Throwing.ok_bind]
      refine (ends_read (by omega)).bind fun centralSize _ => (ends_read (by omega)).bind fun centralOffset _ => ?_
      split_ifs
      · exact ends_thrown _
      · exact Throwing.ends_ok ⟨endOffset, rfl, hcount⟩

/-- A record that has been read begins at the offset, and its name is in the buffer. -/
theorem readEntry_ends (buffer : List UInt8) (offset : Nat) :
    Ends (fun entry => entry.offset = offset ∧ entry.nameEnd ≤ buffer.length) ArchiveError.IsOwn
      (readEntry buffer offset) := by
  unfold readEntry
  split_ifs with hheader
  · exact ends_thrown _
  · refine (ends_read (by omega)).bind fun signature _ => ?_
    split_ifs
    · exact ends_thrown _
    · refine (ends_read (by omega)).bind fun nameLength _ => (ends_read (by omega)).bind fun extraLength _ =>
        (ends_read (by omega)).bind fun commentLength _ => ?_
      dsimp only
      split_ifs with hname
      · exact ends_thrown _
      · exact Throwing.ends_ok ⟨rfl, Nat.le_of_not_lt hname⟩

theorem readEntries_ends (buffer : List UInt8) (remaining offset : Nat) :
    Ends (fun entries => entries.length = remaining ∧ ∀ entry ∈ entries, entry.nameEnd ≤ buffer.length)
      ArchiveError.IsOwn (readEntries buffer remaining offset) := by
  induction remaining generalizing offset with
  | zero => exact Throwing.ends_ok ⟨rfl, by simp⟩
  | succ remaining ih =>
    refine (readEntry_ends buffer offset).bind fun entry hentry => (ih entry.next).bind fun entries hentries => ?_
    refine Throwing.ends_ok ⟨?_, List.forall_mem_cons.2 ⟨hentry.2, hentries.2⟩⟩
    rw [List.length_cons, hentries.1]

/-- Whatever the bytes are, there are as many names as the end record declares, each from bytes of the archive, or the reader
throws an error of its own. -/
theorem listZipEntryNames_bounded (buffer : List UInt8) :
    (∃ (endOffset : Nat) (entries : List CentralEntry) (names : List (List Char)),
      findEndOfCentralDirectory buffer = .ok endOffset ∧ listZipEntryNames buffer = .ok names ∧
      readUInt16LE buffer (endOffset + 10) = .ok names.length ∧ names = entries.map (CentralEntry.name buffer) ∧
      ∀ entry ∈ entries, entry.nameEnd ≤ buffer.length) ∨
    ∃ message, listZipEntryNames buffer = .error (.thrown message) := by
  have hends : Ends (fun names => ∃ (endOffset : Nat) (entries : List CentralEntry),
      findEndOfCentralDirectory buffer = .ok endOffset ∧ readUInt16LE buffer (endOffset + 10) = .ok names.length ∧
      names = entries.map (CentralEntry.name buffer) ∧ ∀ entry ∈ entries, entry.nameEnd ≤ buffer.length)
      ArchiveError.IsOwn (listZipEntryNames buffer) := by
    unfold listZipEntryNames listZipEntries
    rw [bind_assoc]
    refine (readEndRecord_ends buffer).bind fun record hrecord => ?_
    obtain ⟨endOffset, hfind, hcount⟩ := hrecord
    refine (readEntries_ends buffer record.entryCount record.centralOffset).bind fun entries hentries => ?_
    refine Throwing.ends_ok ⟨endOffset, entries, hfind, ?_, rfl, hentries.2⟩
    rw [List.length_map, hentries.1, hcount]
  cases hnames : listZipEntryNames buffer with
  | error error =>
    obtain ⟨message, rfl⟩ := hends.error hnames
    exact .inr ⟨message, rfl⟩
  | ok names =>
    obtain ⟨endOffset, entries, hfind, hcount, heq, hbounds⟩ := hends.ok hnames
    exact .inl ⟨endOffset, entries, names, hfind, rfl, hcount, heq, hbounds⟩

/-! ### The declared directory -/

/-- How long the record at the offset says it is. -/
def recordLength (buffer : List UInt8) (offset : Nat) : Nat :=
  46 + Buffers.number ((buffer.drop (offset + 28)).take 2) + Buffers.number ((buffer.drop (offset + 30)).take 2) +
    Buffers.number ((buffer.drop (offset + 32)).take 2)

/-- How long the records from the offset on say they are together. -/
def directoryLength (buffer : List UInt8) : Nat → Nat → Nat
  | 0, _ => 0
  | count + 1, offset => recordLength buffer offset + directoryLength buffer count (offset + recordLength buffer offset)

/-- The record is wholly inside of what the end record declares. -/
def CentralEntry.Declared (record : EndRecord) (entry : CentralEntry) : Prop :=
  record.centralOffset ≤ entry.offset ∧ entry.next ≤ record.centralOffset + record.centralSize

instance (record : EndRecord) (entry : CentralEntry) : Decidable (entry.Declared record) :=
  inferInstanceAs (Decidable (_ ∧ _))

theorem readEntry_eq_ok {offset : Nat} {entry : CentralEntry} (h : readEntry buffer offset = .ok entry) :
    entry.offset = offset ∧ entry.next = offset + recordLength buffer offset := by
  unfold readEntry at h
  split_ifs at h
  obtain ⟨signature, -, h⟩ := bind_eq_ok.1 h
  split_ifs at h
  obtain ⟨nameLength, hname, h⟩ := bind_eq_ok.1 h
  obtain ⟨extraLength, hextra, h⟩ := bind_eq_ok.1 h
  obtain ⟨commentLength, hcomment, h⟩ := bind_eq_ok.1 h
  dsimp only at h
  split_ifs at h
  obtain rfl := Except.ok.inj h
  refine ⟨rfl, ?_⟩
  have hlength : recordLength buffer offset = 46 + nameLength + extraLength + commentLength := by
    rw [Buffers.read_eq_ok _ hname, Buffers.read_eq_ok _ hextra, Buffers.read_eq_ok _ hcomment]
    rfl
  rw [hlength]
  simp only [CentralEntry.next, CentralEntry.nameEnd, CentralEntry.nameStart]
  omega

/-- Each record begins where the one before it ends, so it is the sum of their lengths that has to fit. -/
theorem readEntries_declared_iff {record : EndRecord} {remaining offset : Nat} {entries : List CentralEntry}
    (hstart : record.centralOffset ≤ offset) (hstop : offset ≤ record.centralOffset + record.centralSize)
    (h : readEntries buffer remaining offset = .ok entries) :
    (∀ entry ∈ entries, entry.Declared record) ↔
      offset + directoryLength buffer remaining offset ≤ record.centralOffset + record.centralSize := by
  induction remaining generalizing offset entries with
  | zero =>
    obtain rfl := Except.ok.inj h
    simp [directoryLength, hstop]
  | succ remaining ih =>
    obtain ⟨entry, hentry, h⟩ := bind_eq_ok.1 h
    obtain ⟨rest, hrest, h⟩ := bind_eq_ok.1 h
    obtain rfl := Except.ok.inj h
    obtain ⟨hoffset, hnext⟩ := readEntry_eq_ok hentry
    rw [List.forall_mem_cons, CentralEntry.Declared, hoffset, hnext, directoryLength, ← Nat.add_assoc]
    rw [hnext] at hrest
    by_cases hfits : offset + recordLength buffer offset ≤ record.centralOffset + record.centralSize
    · rw [← ih (by omega) hfits hrest]
      simp [hstart, hfits]
    · constructor
      · intro hall
        exact absurd hall.1.2 hfits
      · intro hsum
        omega

/-- The names come from records of the declared directory if and only if the records together are no longer than it. -/
theorem listZipEntryNames_declared_iff {names : List (List Char)} (h : listZipEntryNames buffer = .ok names) :
    ∃ record entries, readEndRecord buffer = .ok record ∧ listZipEntries buffer = .ok entries ∧
      names = entries.map (CentralEntry.name buffer) ∧
      ((∀ entry ∈ entries, entry.Declared record) ↔
        directoryLength buffer record.entryCount record.centralOffset ≤ record.centralSize) := by
  obtain ⟨entries, hentries, h⟩ := bind_eq_ok.1 h
  obtain rfl := Except.ok.inj h
  obtain ⟨record, hrecord, hread⟩ := bind_eq_ok.1 hentries
  refine ⟨record, entries, hrecord, hentries, rfl, ?_⟩
  rw [readEntries_declared_iff (Nat.le_refl _) (Nat.le_add_right _ _) hread]
  omega

/-- Two records without contents, and an end record that declares a directory of the size. -/
def sampleArchive (centralSize : Nat) : List UInt8 :=
  let names := ["fabric.mod.json", "com/easymc/room/client/LocalRoomClientMod.class"]
  let records := names.map fun name =>
    (centralHeaderFields (Text.utf8 name.toList) 0 [] [] 0).flatMap Field.bytes ++ Text.utf8 name.toList
  records.flatten ++ (endOfCentralDirectoryFields 2 centralSize 0).flatMap Field.bytes

theorem listZipEntryNames_declared_iff_sample :
    ∃ record entries, readEndRecord (sampleArchive 154) = .ok record ∧ listZipEntries (sampleArchive 154) = .ok entries ∧
      ["fabric.mod.json".toList, "com/easymc/room/client/LocalRoomClientMod.class".toList] =
        entries.map (CentralEntry.name (sampleArchive 154)) ∧
      ((∀ entry ∈ entries, entry.Declared record) ↔
        directoryLength (sampleArchive 154) record.entryCount record.centralOffset ≤ record.centralSize) :=
  listZipEntryNames_declared_iff (by decide +kernel)

/-- With a directory of no bytes every record is outside of it, and the archive is accepted. -/
theorem not_listZipEntryNames_declared :
    ∃ record entries names, readEndRecord (sampleArchive 0) = .ok record ∧ record.centralSize = 0 ∧
      listZipEntries (sampleArchive 0) = .ok entries ∧ (∀ entry ∈ entries, ¬ entry.Declared record) ∧
      validateFirstPartyArtifactJarBytes (fun _ => "") (some "mods/local-room-client-connection-0.1.0-alpha.jar")
        (sampleArchive 0) = .ok names ∧ names.length = 2 := by
  refine ⟨⟨2, 0, 0⟩, [⟨0, 15, 0, 0⟩, ⟨61, 47, 0, 0⟩],
    ["fabric.mod.json".toList, "com/easymc/room/client/LocalRoomClientMod.class".toList], ?_⟩
  decide +kernel

end EasyMc.Packs
