import EasyMc.Packs.ArchiveRoundTrip

/-!
# The contents of an archive

The repository reads only the names of an archive.  A program that opens it follows each central record to the local one,
decompresses what stands behind it, and compares the sizes and the checksum (`extractEntry`).  This is what the
format says, and nothing that is translated.

An archive that has been written gives its entries back, with their contents and in their order, if what was
compressed can be decompressed (`extractEntries_createZipArchive`).
-/

namespace EasyMc.Packs

open Throwing (bind_eq_ok ok_bind)
open Buffers (Field)

/-! ### Opening an archive -/

/-- What a central record says of its entry. -/
structure CentralNumbers where
  method : Nat
  crc : Nat
  compressedSize : Nat
  size : Nat
  localOffset : Nat

def readCentralNumbers (buffer : List UInt8) (entry : CentralEntry) : Except ArchiveError CentralNumbers := do
  let method ← readUInt16LE buffer (entry.offset + 10)
  let crc ← readUInt32LE buffer (entry.offset + 16)
  let compressedSize ← readUInt32LE buffer (entry.offset + 20)
  let size ← readUInt32LE buffer (entry.offset + 24)
  let localOffset ← readUInt32LE buffer (entry.offset + 42)
  .ok ⟨method, crc, compressedSize, size, localOffset⟩

/-- Where the contents begin that belong to the local record at the offset. -/
def readLocalStart (buffer : List UInt8) (localOffset : Nat) : Except ArchiveError Nat := do
  let signature ← readUInt32LE buffer localOffset
  if signature ≠ 0x04034b50 then .error (.thrown "local record is invalid")
  else
    let nameLength ← readUInt16LE buffer (localOffset + 26)
    let extraLength ← readUInt16LE buffer (localOffset + 28)
    .ok (localOffset + 30 + nameLength + extraLength)

variable {inflate : List UInt8 → Option (List UInt8)}

def extractEntry (inflate : List UInt8 → Option (List UInt8)) (buffer : List UInt8) (entry : CentralEntry) :
    Except ArchiveError ZipEntry := do
  let numbers ← readCentralNumbers buffer entry
  let start ← readLocalStart buffer numbers.localOffset
  match inflate ((buffer.drop start).take numbers.compressedSize) with
  | none => .error (.thrown "contents are damaged")
  | some contents =>
    if numbers.method = 8 ∧ contents.length = numbers.size ∧ (crc32 contents).toNat = numbers.crc then
      .ok ⟨entry.name buffer, contents⟩
    else .error (.thrown "contents are damaged")

/-- All entries of an archive. -/
def extractEntries (inflate : List UInt8 → Option (List UInt8)) (buffer : List UInt8) :
    Except ArchiveError (List ZipEntry) := do
  let entries ← listZipEntries buffer
  entries.mapM (extractEntry inflate buffer)

/-! ### Records and their places -/

/-- The central records of a directory that begins at the offset. -/
def directoryOf : Nat → List ZipRecord → List CentralEntry
  | _, [] => []
  | start, record :: records =>
    ⟨start, record.filename.length, 0, 0⟩ :: directoryOf (start + record.centralBytes.length) records

/-- The directory is read as it was written. -/
theorem readEntries_directoryOf {records : List ZipRecord} (hfits : ∀ record ∈ records, record.Fits)
    (before after : List UInt8) :
    readEntries (before ++ (records.flatMap ZipRecord.centralBytes ++ after)) records.length before.length =
      .ok (directoryOf before.length records) := by
  induction records generalizing before with
  | nil => rfl
  | cons record records ih =>
    rw [List.forall_mem_cons] at hfits
    have hrest := ih hfits.2 (before ++ record.centralBytes)
    have hentry := readEntry_centralBytes hfits.1 before (records.flatMap ZipRecord.centralBytes ++ after)
    have hnext : (⟨before.length, record.filename.length, 0, 0⟩ : CentralEntry).next =
        (before ++ record.centralBytes).length := by
      rw [List.length_append, record.length_centralBytes]
      simp only [CentralEntry.next, CentralEntry.nameEnd, CentralEntry.nameStart]
      omega
    rw [List.append_assoc] at hrest
    rw [List.flatMap_cons, List.append_assoc record.centralBytes, List.length_cons, readEntries, hentry, ok_bind, hnext,
      hrest, ok_bind, directoryOf, List.length_append]

theorem listZipEntries_archiveOf {records : List ZipRecord} {archive : List UInt8} (h : ArchiveOf records archive) :
    listZipEntries archive = .ok (directoryOf (records.flatMap ZipRecord.localBytes).length records) := by
  have hread := readEntries_directoryOf h.fits (records.flatMap ZipRecord.localBytes)
    ((endFields records).flatMap Field.bytes)
  rw [← h.bytes] at hread
  rw [listZipEntries, readEndRecord_archiveOf h, ok_bind, hread]

/-- A record begins where those before it end. -/
theorem Placed.offset {before after : List ZipRecord} {record : ZipRecord} {start : Nat}
    (h : Placed start (before ++ record :: after)) :
    record.offset = start + (before.flatMap ZipRecord.localBytes).length := by
  induction before generalizing start with
  | nil => exact h.1
  | cons first before ih =>
    rw [ih h.2, List.flatMap_cons, List.length_append, Nat.add_assoc]

theorem sum_width_localFields (record : ZipRecord) : (record.localFields.map Field.width).sum = 30 := by
  simp [ZipRecord.localFields, localHeaderFields, uInt16LE, uInt32LE]

/-- Each number of a local record is read from wherever the record stands. -/
theorem read_localFields {record : ZipRecord} (hfits : record.Fits) {field : Field} (hfield : field ∈ record.localFields)
    (before after : List UInt8) :
    Buffers.read ArchiveError.outOfRange field.width (before ++ (record.localBytes ++ after))
      (before.length + field.offset) = .ok field.value.toNat := by
  have hread := Buffers.read_field ArchiveError.outOfRange (localHeaderFields_consecutive _ _ _ _) hfield
    (hfits.1 field hfield) before (record.filename ++ (record.compressed ++ after))
  rw [Nat.sub_zero] at hread
  rw [ZipRecord.localBytes, List.append_assoc, List.append_assoc]
  exact hread

theorem readCentralNumbers_centralBytes {record : ZipRecord} (hfits : record.Fits) (before after : List UInt8)
    (nameLength : Nat) :
    readCentralNumbers (before ++ (record.centralBytes ++ after)) ⟨before.length, nameLength, 0, 0⟩ =
      .ok ⟨8, (crc32 record.entry.contents).toNat, record.compressed.length, record.entry.contents.length,
        record.offset⟩ := by
  have hread (field : Field) (hfield : field ∈ record.centralFields) := read_centralFields hfits hfield before after
  have hmethod : readUInt16LE (before ++ (record.centralBytes ++ after)) (before.length + 10) = .ok 8 :=
    hread (uInt16LE 8 10) (by simp [ZipRecord.centralFields, centralHeaderFields])
  have hcrc : readUInt32LE (before ++ (record.centralBytes ++ after)) (before.length + 16) =
      .ok (crc32 record.entry.contents).toNat :=
    hread (uInt32LE (crc32 record.entry.contents) 16) (by simp [ZipRecord.centralFields, centralHeaderFields])
  have hcompressed : readUInt32LE (before ++ (record.centralBytes ++ after)) (before.length + 20) =
      .ok record.compressed.length :=
    hread (uInt32LE record.compressed.length 20) (by simp [ZipRecord.centralFields, centralHeaderFields])
  have hsize : readUInt32LE (before ++ (record.centralBytes ++ after)) (before.length + 24) =
      .ok record.entry.contents.length :=
    hread (uInt32LE record.entry.contents.length 24) (by simp [ZipRecord.centralFields, centralHeaderFields])
  have hoffset : readUInt32LE (before ++ (record.centralBytes ++ after)) (before.length + 42) = .ok record.offset :=
    hread (uInt32LE record.offset 42) (by simp [ZipRecord.centralFields, centralHeaderFields])
  rw [readCentralNumbers, hmethod, ok_bind, hcrc, ok_bind, hcompressed, ok_bind, hsize, ok_bind, hoffset, ok_bind]

theorem readLocalStart_localBytes {record : ZipRecord} (hfits : record.Fits) (before after : List UInt8) :
    readLocalStart (before ++ (record.localBytes ++ after)) before.length =
      .ok (before.length + 30 + record.filename.length) := by
  have hread (field : Field) (hfield : field ∈ record.localFields) := read_localFields hfits hfield before after
  have hsignature : readUInt32LE (before ++ (record.localBytes ++ after)) before.length = .ok 0x04034b50 :=
    hread (uInt32LE 0x04034b50 0) (by simp [ZipRecord.localFields, localHeaderFields])
  have hname : readUInt16LE (before ++ (record.localBytes ++ after)) (before.length + 26) = .ok record.filename.length :=
    hread (uInt16LE record.filename.length 26) (by simp [ZipRecord.localFields, localHeaderFields])
  have hextra : readUInt16LE (before ++ (record.localBytes ++ after)) (before.length + 28) = .ok 0 :=
    hread (uInt16LE 0 28) (by simp [ZipRecord.localFields, localHeaderFields])
  rw [readLocalStart, hsignature, ok_bind, if_neg (by simp), hname, ok_bind, hextra, ok_bind, Nat.add_zero]

/-- Behind the name stands what the compression has given. -/
theorem contents_localBytes (record : ZipRecord) (before after : List UInt8) :
    ((before ++ (record.localBytes ++ after)).drop (before.length + 30 + record.filename.length)).take
      record.compressed.length = record.compressed := by
  let header := before ++ (record.localFields.flatMap Field.bytes ++ record.filename)
  have hheader : header.length = before.length + 30 + record.filename.length := by
    rw [List.length_append, List.length_append, Buffers.length_flatMap_bytes, sum_width_localFields, Nat.add_assoc]
  have hbuffer : before ++ (record.localBytes ++ after) = header ++ (record.compressed ++ after) := by
    simp [header, ZipRecord.localBytes]
  rw [hbuffer, List.drop_left' hheader, List.take_left' rfl]

/-! ### The round trip -/

/-- The contents of the record can be decompressed. -/
def Inflates (inflate : List UInt8 → Option (List UInt8)) (record : ZipRecord) : Prop :=
  inflate record.compressed = some record.entry.contents

/-- A record gives its entry back. -/
theorem extractEntry_archiveOf {before after : List ZipRecord} {record : ZipRecord} {archive : List UInt8}
    (h : ArchiveOf (before ++ record :: after) archive) (hinflates : Inflates inflate record) :
    extractEntry inflate archive ⟨((before ++ record :: after).flatMap ZipRecord.localBytes).length +
      (before.flatMap ZipRecord.centralBytes).length, record.filename.length, 0, 0⟩ = .ok record.entry := by
  have hfits : record.Fits := h.fits record (by simp)
  have hplace : record.offset = (before.flatMap ZipRecord.localBytes).length := by
    rw [h.placed.offset, Nat.zero_add]
  -- The archive, split at the central record and at the local one.
  let locals := before.flatMap ZipRecord.localBytes
  let centrals := (before ++ record :: after).flatMap ZipRecord.localBytes ++ before.flatMap ZipRecord.centralBytes
  let rest := after.flatMap ZipRecord.centralBytes ++ (endFields (before ++ record :: after)).flatMap Field.bytes
  have hcentral : archive = centrals ++ (record.centralBytes ++ rest) := by
    rw [h.bytes]
    simp [centrals, rest]
  have hlocal : archive = locals ++ (record.localBytes ++ (after.flatMap ZipRecord.localBytes ++
      (before.flatMap ZipRecord.centralBytes ++ (record.centralBytes ++ rest)))) := by
    rw [h.bytes]
    simp [locals, rest]
  have hstart : ((before ++ record :: after).flatMap ZipRecord.localBytes).length +
      (before.flatMap ZipRecord.centralBytes).length = centrals.length := List.length_append.symm
  have hnumbers := readCentralNumbers_centralBytes hfits centrals rest record.filename.length
  have hname := name_centralBytes record centrals rest
  have hlocalStart := readLocalStart_localBytes hfits locals (after.flatMap ZipRecord.localBytes ++
    (before.flatMap ZipRecord.centralBytes ++ (record.centralBytes ++ rest)))
  have hcontents := contents_localBytes record locals (after.flatMap ZipRecord.localBytes ++
    (before.flatMap ZipRecord.centralBytes ++ (record.centralBytes ++ rest)))
  rw [← hcentral] at hnumbers hname
  rw [← hlocal] at hlocalStart hcontents
  rw [hplace] at hnumbers
  rw [hstart, extractEntry, hnumbers, ok_bind, hlocalStart, ok_bind]
  dsimp only
  rw [hcontents, hinflates]
  dsimp only
  rw [if_pos ⟨rfl, rfl, rfl⟩, hname]

/-- The entries of the records from one on, which are read from their directory. -/
theorem mapM_extractEntry {before records : List ZipRecord} {archive : List UInt8}
    (h : ArchiveOf (before ++ records) archive) (hinflates : ∀ record ∈ records, Inflates inflate record) :
    (directoryOf (((before ++ records).flatMap ZipRecord.localBytes).length +
      (before.flatMap ZipRecord.centralBytes).length) records).mapM (extractEntry inflate archive) =
        .ok (records.map ZipRecord.entry) := by
  induction records generalizing before with
  | nil => rfl
  | cons record records ih =>
    rw [List.forall_mem_cons] at hinflates
    have hentry := extractEntry_archiveOf h hinflates.1
    have hbefore : before ++ record :: records = before ++ [record] ++ records := by simp
    rw [hbefore] at h
    have hrest := ih h hinflates.2
    have hnext : ((before ++ record :: records).flatMap ZipRecord.localBytes).length +
        (before.flatMap ZipRecord.centralBytes).length + record.centralBytes.length =
        ((before ++ [record] ++ records).flatMap ZipRecord.localBytes).length +
          ((before ++ [record]).flatMap ZipRecord.centralBytes).length := by
      have hcentrals : (before ++ [record]).flatMap ZipRecord.centralBytes =
          before.flatMap ZipRecord.centralBytes ++ record.centralBytes := by
        rw [List.flatMap_append, List.flatMap_singleton]
      rw [← hbefore, hcentrals, List.length_append, Nat.add_assoc]
    rw [directoryOf, List.mapM_cons, hentry, ok_bind, hnext, hrest, ok_bind]
    rfl

theorem extractEntries_archiveOf {records : List ZipRecord} {archive : List UInt8} (h : ArchiveOf records archive)
    (hinflates : ∀ record ∈ records, Inflates inflate record) :
    extractEntries inflate archive = .ok (records.map ZipRecord.entry) := by
  rw [extractEntries, listZipEntries_archiveOf h, ok_bind]
  have hall : ArchiveOf ([] ++ records) archive := h
  exact mapM_extractEntry hall hinflates

/-- What the compression makes of the contents can be decompressed. -/
def Undoes (inflate : List UInt8 → Option (List UInt8)) (deflateRawSync : List UInt8 → Except ArchiveError (List UInt8))
    (entries : List ZipEntry) : Prop :=
  ∀ entry ∈ entries, ∀ compressed, deflateRawSync entry.contents = .ok compressed →
    inflate compressed = some entry.contents

theorem extractEntries_recordsOf {deflateRawSync : List UInt8 → Except ArchiveError (List UInt8)}
    {entries : List ZipEntry} {records : List ZipRecord} {archive : List UInt8}
    (hundoes : Undoes inflate deflateRawSync entries) (hrecords : RecordsOf deflateRawSync entries records)
    (harchive : ArchiveOf records archive) : extractEntries inflate archive = .ok entries := by
  have hentries : records.map ZipRecord.entry = entries ∧ ∀ record ∈ records, Inflates inflate record := by
    clear harchive
    induction hrecords with
    | nil => exact ⟨rfl, by simp⟩
    | cons hrecord _ ih =>
      obtain ⟨rfl, hcompressed⟩ := hrecord
      obtain ⟨hfirst, hrest⟩ := List.forall_mem_cons.1 hundoes
      obtain ⟨hmap, hall⟩ := ih hrest
      exact ⟨by rw [List.map_cons, hmap], List.forall_mem_cons.2 ⟨hfirst _ hcompressed, hall⟩⟩
  rw [extractEntries_archiveOf harchive hentries.2, hentries.1]

/-- An archive that has been written gives its entries back. -/
theorem extractEntries_createZipArchive {deflateRawSync : List UInt8 → Except ArchiveError (List UInt8)}
    {entries : List ZipEntry} {archive : List UInt8} (hundoes : Undoes inflate deflateRawSync entries)
    (h : createZipArchive deflateRawSync entries = .ok archive) : extractEntries inflate archive = .ok entries := by
  obtain ⟨records, hrecords, harchive⟩ := createZipArchive_eq_ok h
  exact extractEntries_recordsOf hundoes hrecords harchive

/-- The compression of a text of at most one letter. -/
def sampleDeflate (contents : List UInt8) : Except ArchiveError (List UInt8) :=
  if contents = [97] then .ok [75, 4, 0] else .ok [3, 0]

def sampleInflate (compressed : List UInt8) : Option (List UInt8) :=
  if compressed = [75, 4, 0] then some [97] else some []

theorem extractEntries_createZipArchive_sample :
    ∃ archive, createZipArchive sampleDeflate [⟨"ä.txt".toList, [97]⟩, ⟨"b".toList, []⟩] = .ok archive ∧
      extractEntries sampleInflate archive = .ok [⟨"ä.txt".toList, [97]⟩, ⟨"b".toList, []⟩] := by
  have hreturns : Throwing.Returns (createZipArchive sampleDeflate [⟨"ä.txt".toList, [97]⟩, ⟨"b".toList, []⟩]) := by
    decide +kernel
  have hundoes : Undoes sampleInflate sampleDeflate [⟨"ä.txt".toList, [97]⟩, ⟨"b".toList, []⟩] := by
    intro entry hentry compressed hcompressed
    rcases List.mem_cons.1 hentry with rfl | hentry
    · cases hcompressed
      rfl
    · cases List.mem_singleton.1 hentry
      cases hcompressed
      rfl
  obtain ⟨archive, harchive⟩ := hreturns
  exact ⟨archive, harchive, extractEntries_createZipArchive hundoes harchive⟩

end EasyMc.Packs
