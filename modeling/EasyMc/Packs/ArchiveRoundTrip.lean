import EasyMc.Packs.Archive

/-!
# Archives that are read again

What the writer returns is made of records whose numbers are what they stand for: a number that does not fit into its field
throws (`createZipArchive_eq_ok`).  The end record is at the very end, so it is the first that the search comes to, and each
central record is read where the one before it ends.  The names are those of the entries (`listZipEntryNames_createZipArchive`).
-/

namespace EasyMc.Packs

open Throwing (bind_eq_ok ok_bind)
open Buffers (Field Consecutive)

/-! ### Headers -/

theorem localHeaderFields_consecutive (filename : List UInt8) (crc : Int) (compressed uncompressed : List UInt8) :
    Consecutive 0 (localHeaderFields filename crc compressed uncompressed) := by
  simp [localHeaderFields, Consecutive, uInt16LE, uInt32LE]

theorem centralHeaderFields_consecutive (filename : List UInt8) (crc : Int) (compressed uncompressed : List UInt8)
    (offset : Nat) : Consecutive 0 (centralHeaderFields filename crc compressed uncompressed offset) := by
  simp [centralHeaderFields, Consecutive, uInt16LE, uInt32LE]

theorem sum_width_centralHeaderFields (filename : List UInt8) (crc : Int) (compressed uncompressed : List UInt8)
    (offset : Nat) : ((centralHeaderFields filename crc compressed uncompressed offset).map Field.width).sum = 46 := by
  simp [centralHeaderFields, uInt16LE, uInt32LE]

theorem endOfCentralDirectoryFields_consecutive (entryCount centralSize centralOffset : Nat) :
    Consecutive 0 (endOfCentralDirectoryFields entryCount centralSize centralOffset) := by
  simp [endOfCentralDirectoryFields, Consecutive, uInt16LE, uInt32LE]

theorem createLocalHeader_eq_ok {filename compressed uncompressed header : List UInt8} {crc : Int}
    (h : createLocalHeader filename crc compressed uncompressed = .ok header) :
    (∀ field ∈ localHeaderFields filename crc compressed uncompressed, field.Fits) ∧
      header = (localHeaderFields filename crc compressed uncompressed).flatMap Field.bytes ++ filename := by
  obtain ⟨bytes, hbytes, h⟩ := bind_eq_ok.1 h
  obtain rfl := Except.ok.inj h
  obtain ⟨hfits, rfl⟩ := Buffers.fill_eq_ok _ (localHeaderFields_consecutive filename crc compressed uncompressed) rfl hbytes
  exact ⟨hfits, rfl⟩

theorem createCentralHeader_eq_ok {filename compressed uncompressed header : List UInt8} {crc : Int} {offset : Nat}
    (h : createCentralHeader filename crc compressed uncompressed offset = .ok header) :
    (∀ field ∈ centralHeaderFields filename crc compressed uncompressed offset, field.Fits) ∧
      header = (centralHeaderFields filename crc compressed uncompressed offset).flatMap Field.bytes ++ filename := by
  obtain ⟨bytes, hbytes, h⟩ := bind_eq_ok.1 h
  obtain rfl := Except.ok.inj h
  obtain ⟨hfits, rfl⟩ :=
    Buffers.fill_eq_ok _ (centralHeaderFields_consecutive filename crc compressed uncompressed offset)
      (sum_width_centralHeaderFields filename crc compressed uncompressed offset) hbytes
  exact ⟨hfits, rfl⟩

/-! ### Records -/

/-- An entry that has been written: its compressed contents and where its local record begins. -/
structure ZipRecord where
  entry : ZipEntry
  compressed : List UInt8
  offset : Nat

namespace ZipRecord

def filename (record : ZipRecord) : List UInt8 := Text.utf8 record.entry.name

def localFields (record : ZipRecord) : List Field :=
  localHeaderFields record.filename (crc32 record.entry.contents) record.compressed record.entry.contents

def centralFields (record : ZipRecord) : List Field :=
  centralHeaderFields record.filename (crc32 record.entry.contents) record.compressed record.entry.contents record.offset

def localBytes (record : ZipRecord) : List UInt8 :=
  record.localFields.flatMap Field.bytes ++ record.filename ++ record.compressed

def centralBytes (record : ZipRecord) : List UInt8 := record.centralFields.flatMap Field.bytes ++ record.filename

/-- Every number fits into its field. -/
def Fits (record : ZipRecord) : Prop :=
  (∀ field ∈ record.localFields, field.Fits) ∧ ∀ field ∈ record.centralFields, field.Fits

theorem length_centralBytes (record : ZipRecord) : record.centralBytes.length = 46 + record.filename.length := by
  rw [centralBytes, List.length_append, Buffers.length_flatMap_bytes, centralFields, sum_width_centralHeaderFields]

end ZipRecord

/-- Each record begins where the one before it ends. -/
def Placed : Nat → List ZipRecord → Prop
  | _, [] => True
  | start, record :: records => record.offset = start ∧ Placed (start + record.localBytes.length) records

theorem Placed.concat {records : List ZipRecord} {record : ZipRecord} {start : Nat} (h : Placed start records)
    (hoffset : record.offset = start + (records.flatMap ZipRecord.localBytes).length) : Placed start (records ++ [record]) := by
  induction records generalizing start with
  | nil => exact ⟨hoffset, trivial⟩
  | cons first records ih =>
    refine ⟨h.1, ih h.2 ?_⟩
    rw [hoffset, List.flatMap_cons, List.length_append, Nat.add_assoc]

def endFields (records : List ZipRecord) : List Field :=
  endOfCentralDirectoryFields records.length (records.flatMap ZipRecord.centralBytes).length
    (records.flatMap ZipRecord.localBytes).length

/-- The bytes are an archive of the records: no number is anything but what it stands for. -/
structure ArchiveOf (records : List ZipRecord) (archive : List UInt8) : Prop where
  placed : Placed 0 records
  fits : ∀ record ∈ records, record.Fits
  endFits : ∀ field ∈ endFields records, field.Fits
  bytes : archive = records.flatMap ZipRecord.localBytes ++
    (records.flatMap ZipRecord.centralBytes ++ (endFields records).flatMap Field.bytes)

/-! ### Writing -/

section Writing

variable {deflateRawSync : List UInt8 → Except ArchiveError (List UInt8)}

/-- The records are those of the entries, with what the compression has given. -/
def RecordsOf (deflateRawSync : List UInt8 → Except ArchiveError (List UInt8)) (entries : List ZipEntry)
    (records : List ZipRecord) : Prop :=
  List.Forall₂ (fun entry record => record.entry = entry ∧ deflateRawSync entry.contents = .ok record.compressed) entries records

/-- What the loop has written are the records of the entries so far. -/
structure Wrote (deflateRawSync : List UInt8 → Except ArchiveError (List UInt8)) (entries : List ZipEntry) (written : Written)
    (records : List ZipRecord) : Prop where
  ofEntries : RecordsOf deflateRawSync entries records
  placed : Placed 0 records
  fits : ∀ record ∈ records, record.Fits
  locals : written.localRecords.flatten = records.flatMap ZipRecord.localBytes
  centrals : written.centralRecords.flatten = records.flatMap ZipRecord.centralBytes
  offset : written.offset = (records.flatMap ZipRecord.localBytes).length

theorem Wrote.step {entries : List ZipEntry} {written written' : Written} {entry : ZipEntry} {records : List ZipRecord}
    (hwrote : Wrote deflateRawSync entries written records) (h : writeEntry deflateRawSync written entry = .ok written') :
    ∃ record, Wrote deflateRawSync (entries ++ [entry]) written' (records ++ [record]) := by
  obtain ⟨compressed, hcompressed, h⟩ := bind_eq_ok.1 h
  obtain ⟨localHeader, hlocal, h⟩ := bind_eq_ok.1 h
  obtain ⟨centralHeader, hcentral, h⟩ := bind_eq_ok.1 h
  obtain rfl := Except.ok.inj h
  obtain ⟨hlocalFits, rfl⟩ := createLocalHeader_eq_ok hlocal
  obtain ⟨hcentralFits, rfl⟩ := createCentralHeader_eq_ok hcentral
  let record : ZipRecord := ⟨entry, compressed, written.offset⟩
  have hbytes : (record.localFields.flatMap Field.bytes ++ record.filename).length + compressed.length =
      record.localBytes.length := by
    rw [← List.length_append]
    rfl
  refine ⟨record, List.rel_append hwrote.ofEntries (.cons ⟨rfl, hcompressed⟩ .nil), hwrote.placed.concat ?_, ?_, ?_, ?_, ?_⟩
  · show written.offset = _
    rw [hwrote.offset, Nat.zero_add]
  · rw [List.forall_mem_append]
    refine ⟨hwrote.fits, ?_⟩
    rw [List.forall_mem_singleton]
    exact ⟨hlocalFits, hcentralFits⟩
  · rw [List.flatMap_append, List.flatten_append, hwrote.locals]
    simp [ZipRecord.localBytes, ZipRecord.localFields, ZipRecord.filename, record]
  · rw [List.flatMap_append, List.flatten_append, hwrote.centrals]
    simp [ZipRecord.centralBytes, ZipRecord.centralFields, ZipRecord.filename, record]
  · show written.offset + ((record.localFields.flatMap Field.bytes ++ record.filename).length + compressed.length) = _
    rw [hbytes, hwrote.offset, List.flatMap_append, List.length_append, List.flatMap_singleton]

theorem foldlM_writeEntry {entries : List ZipEntry} {written : Written}
    (h : entries.foldlM (writeEntry deflateRawSync) ⟨[], [], 0⟩ = .ok written) :
    ∃ records, Wrote deflateRawSync entries written records := by
  refine Throwing.foldlM_invariant (fun done written => ∃ records, Wrote deflateRawSync done written records) ?_ ?_ h
  · rintro done entry written written' ⟨records, hwrote⟩ hstep
    obtain ⟨record, hwrote'⟩ := hwrote.step hstep
    exact ⟨records ++ [record], hwrote'⟩
  · exact ⟨[], .nil, trivial, by simp, rfl, rfl, rfl⟩

/-- What the writer returns is an archive of the entries. -/
theorem createZipArchive_eq_ok {entries : List ZipEntry} {archive : List UInt8}
    (h : createZipArchive deflateRawSync entries = .ok archive) :
    ∃ records, RecordsOf deflateRawSync entries records ∧ ArchiveOf records archive := by
  obtain ⟨written, hwritten, h⟩ := bind_eq_ok.1 h
  obtain ⟨endRecord, hend, h⟩ := bind_eq_ok.1 h
  obtain rfl := Except.ok.inj h
  obtain ⟨records, hwrote⟩ := foldlM_writeEntry hwritten
  have hlength : entries.length = records.length := hwrote.ofEntries.length_eq
  rw [hlength, hwrote.centrals, hwrote.offset] at hend
  obtain ⟨hfits, rfl⟩ := Buffers.fill_eq_ok _ (endOfCentralDirectoryFields_consecutive _ _ _) rfl hend
  refine ⟨records, hwrote.ofEntries, hwrote.placed, hwrote.fits, hfits, ?_⟩
  rw [hwrote.locals, hwrote.centrals, List.append_assoc]
  rfl

end Writing

/-! ### Reading -/

/-- Each number of a central record is read from wherever the record stands. -/
theorem read_centralFields {record : ZipRecord} (hfits : record.Fits) {field : Field} (hfield : field ∈ record.centralFields)
    (before after : List UInt8) :
    Buffers.read ArchiveError.outOfRange field.width (before ++ (record.centralBytes ++ after))
      (before.length + field.offset) = .ok field.value.toNat := by
  have hread := Buffers.read_field ArchiveError.outOfRange (centralHeaderFields_consecutive _ _ _ _ _) hfield
    (hfits.2 field hfield) before (record.filename ++ after)
  rw [Nat.sub_zero] at hread
  rw [ZipRecord.centralBytes, List.append_assoc]
  exact hread

/-- A record is read with the length of its name, and with nothing behind the name. -/
theorem readEntry_centralBytes {record : ZipRecord} (hfits : record.Fits) (before after : List UInt8) :
    readEntry (before ++ (record.centralBytes ++ after)) before.length =
      .ok ⟨before.length, record.filename.length, 0, 0⟩ := by
  have hread (field : Field) (hfield : field ∈ record.centralFields) := read_centralFields hfits hfield before after
  have hsignature : readUInt32LE (before ++ (record.centralBytes ++ after)) before.length = .ok 0x02014b50 :=
    hread (uInt32LE 0x02014b50 0) (by simp [ZipRecord.centralFields, centralHeaderFields])
  have hname : readUInt16LE (before ++ (record.centralBytes ++ after)) (before.length + 28) = .ok record.filename.length :=
    hread (uInt16LE record.filename.length 28) (by simp [ZipRecord.centralFields, centralHeaderFields])
  have hextra : readUInt16LE (before ++ (record.centralBytes ++ after)) (before.length + 30) = .ok 0 :=
    hread (uInt16LE 0 30) (by simp [ZipRecord.centralFields, centralHeaderFields])
  have hcomment : readUInt16LE (before ++ (record.centralBytes ++ after)) (before.length + 32) = .ok 0 :=
    hread (uInt16LE 0 32) (by simp [ZipRecord.centralFields, centralHeaderFields])
  have hlength : (before ++ (record.centralBytes ++ after)).length =
      before.length + (46 + record.filename.length + after.length) := by
    rw [List.length_append, List.length_append, record.length_centralBytes]
  unfold readEntry
  rw [if_neg (by omega), hsignature, ok_bind, if_neg (by simp), hname, ok_bind, hextra, ok_bind, hcomment, ok_bind]
  have hnameEnd : ¬ (⟨before.length, record.filename.length, 0, 0⟩ : CentralEntry).nameEnd >
      (before ++ (record.centralBytes ++ after)).length := by
    simp only [CentralEntry.nameEnd, CentralEntry.nameStart]
    omega
  exact if_neg hnameEnd

/-- The name between the header and what follows the record is the entry's. -/
theorem name_centralBytes (record : ZipRecord) (before after : List UInt8) :
    CentralEntry.name (before ++ (record.centralBytes ++ after)) ⟨before.length, record.filename.length, 0, 0⟩ =
      record.entry.name := by
  let header := before ++ record.centralFields.flatMap Field.bytes
  have hheader : header.length = before.length + 46 := by
    rw [List.length_append, Buffers.length_flatMap_bytes, ZipRecord.centralFields, sum_width_centralHeaderFields]
  have hbuffer : before ++ (record.centralBytes ++ after) = header ++ record.filename ++ after := by
    simp [header, ZipRecord.centralBytes]
  have htake : (header ++ record.filename ++ after).take (before.length + 46 + record.filename.length) =
      header ++ record.filename := by
    apply List.take_left'
    rw [List.length_append, hheader]
  have hdrop : (header ++ record.filename).drop (before.length + 46) = record.filename := List.drop_left' hheader
  rw [hbuffer]
  simp only [CentralEntry.name, textBetween, CentralEntry.nameEnd, CentralEntry.nameStart]
  rw [htake, hdrop]
  exact Utf8.decode_utf8 record.entry.name

/-- The records of a directory are read one behind the other. -/
theorem readEntries_centralBytes {records : List ZipRecord} (hfits : ∀ record ∈ records, record.Fits)
    (before after : List UInt8) :
    ∃ entries, readEntries (before ++ (records.flatMap ZipRecord.centralBytes ++ after)) records.length before.length =
        .ok entries ∧
      entries.map (CentralEntry.name (before ++ (records.flatMap ZipRecord.centralBytes ++ after))) =
        records.map fun record => record.entry.name := by
  induction records generalizing before with
  | nil => exact ⟨[], rfl, rfl⟩
  | cons record records ih =>
    rw [List.forall_mem_cons] at hfits
    obtain ⟨entries, hentries, hnames⟩ := ih hfits.2 (before ++ record.centralBytes)
    have hlength : (before ++ record.centralBytes).length = before.length + 46 + record.filename.length := by
      rw [List.length_append, record.length_centralBytes, Nat.add_assoc]
    rw [hlength] at hentries
    rw [List.append_assoc] at hentries hnames
    have hentry := readEntry_centralBytes hfits.1 before (records.flatMap ZipRecord.centralBytes ++ after)
    have hname := name_centralBytes record before (records.flatMap ZipRecord.centralBytes ++ after)
    rw [List.flatMap_cons, List.append_assoc record.centralBytes]
    refine ⟨⟨before.length, record.filename.length, 0, 0⟩ :: entries, ?_, ?_⟩
    · rw [List.length_cons, readEntries, hentry, ok_bind]
      show (do
        let rest ← readEntries _ records.length (before.length + 46 + record.filename.length)
        Except.ok (_ :: rest)) = _
      rw [hentries, ok_bind]
    · rw [List.map_cons, List.map_cons, hname, hnames]

/-- An end record at the very end is found at once. -/
theorem findEndOfCentralDirectory_last {buffer : List UInt8} {endOffset : Nat} (hlength : buffer.length = endOffset + 22)
    (hsignature : readUInt32LE buffer endOffset = .ok 0x06054b50) : findEndOfCentralDirectory buffer = .ok endOffset := by
  have hremaining : buffer.length - 22 + 1 - (buffer.length - 0xffff - 22) = endOffset - (buffer.length - 0xffff - 22) + 1 := by
    omega
  have hoffset : buffer.length - 0xffff - 22 + (endOffset - (buffer.length - 0xffff - 22)) = endOffset := by
    omega
  rw [findEndOfCentralDirectory, hremaining, findEndFrom, hoffset, hsignature, ok_bind, if_pos rfl]

/-- The end record is read with the number of the records, and with where their directory is. -/
theorem readEndRecord_archiveOf {records : List ZipRecord} {archive : List UInt8} (h : ArchiveOf records archive) :
    readEndRecord archive = .ok ⟨records.length, (records.flatMap ZipRecord.centralBytes).length,
      (records.flatMap ZipRecord.localBytes).length⟩ := by
  obtain ⟨-, -, hfits, rfl⟩ := h
  let body := records.flatMap ZipRecord.localBytes ++ records.flatMap ZipRecord.centralBytes
  have harchive : records.flatMap ZipRecord.localBytes ++
      (records.flatMap ZipRecord.centralBytes ++ (endFields records).flatMap Field.bytes) =
        body ++ ((endFields records).flatMap Field.bytes ++ []) := by
    simp [body]
  have hread (field : Field) (hfield : field ∈ endFields records) :
      Buffers.read ArchiveError.outOfRange field.width (body ++ ((endFields records).flatMap Field.bytes ++ []))
        (body.length + field.offset) = .ok field.value.toNat :=
    Buffers.read_field _ (endOfCentralDirectoryFields_consecutive _ _ _) hfield (hfits field hfield) body []
  have hlength : (body ++ ((endFields records).flatMap Field.bytes ++ [])).length = body.length + 22 := by
    rw [List.append_nil, List.length_append, Buffers.length_flatMap_bytes]
    rfl
  have hbody : body.length = (records.flatMap ZipRecord.localBytes).length + (records.flatMap ZipRecord.centralBytes).length :=
    List.length_append
  rw [harchive]
  have hsignature : readUInt32LE (body ++ ((endFields records).flatMap Field.bytes ++ [])) body.length = .ok 0x06054b50 :=
    hread (uInt32LE 0x06054b50 0) (by simp [endFields, endOfCentralDirectoryFields])
  have hcount : readUInt16LE (body ++ ((endFields records).flatMap Field.bytes ++ [])) (body.length + 10) =
      .ok records.length :=
    hread (uInt16LE records.length 10) (by simp [endFields, endOfCentralDirectoryFields])
  have hsize : readUInt32LE (body ++ ((endFields records).flatMap Field.bytes ++ [])) (body.length + 12) =
      .ok (records.flatMap ZipRecord.centralBytes).length :=
    hread (uInt32LE (records.flatMap ZipRecord.centralBytes).length 12)
      (by simp [endFields, endOfCentralDirectoryFields])
  have hoffset : readUInt32LE (body ++ ((endFields records).flatMap Field.bytes ++ [])) (body.length + 16) =
      .ok (records.flatMap ZipRecord.localBytes).length :=
    hread (uInt32LE (records.flatMap ZipRecord.localBytes).length 16)
      (by simp [endFields, endOfCentralDirectoryFields])
  unfold readEndRecord
  rw [if_neg (by omega), findEndOfCentralDirectory_last hlength hsignature, ok_bind, hcount, ok_bind, hsize, ok_bind,
    hoffset, ok_bind, if_neg (by omega)]

theorem listZipEntryNames_archiveOf {records : List ZipRecord} {archive : List UInt8} (h : ArchiveOf records archive) :
    listZipEntryNames archive = .ok (records.map fun record => record.entry.name) := by
  obtain ⟨entries, hentries, hnames⟩ := readEntries_centralBytes h.fits (records.flatMap ZipRecord.localBytes)
    ((endFields records).flatMap Field.bytes)
  rw [← h.bytes] at hentries hnames
  rw [listZipEntryNames, listZipEntries, readEndRecord_archiveOf h, ok_bind, hentries, ok_bind, hnames]

/-- What the writer returns is an archive of its entries in which every number fits into its field, and the reader returns
the names of the entries in their order. -/
theorem listZipEntryNames_createZipArchive {deflateRawSync : List UInt8 → Except ArchiveError (List UInt8)}
    {entries : List ZipEntry} {archive : List UInt8} (h : createZipArchive deflateRawSync entries = .ok archive) :
    listZipEntryNames archive = .ok (entries.map ZipEntry.name) ∧
      ∃ records, RecordsOf deflateRawSync entries records ∧ ArchiveOf records archive := by
  obtain ⟨records, hrecords, harchive⟩ := createZipArchive_eq_ok h
  refine ⟨?_, records, hrecords, harchive⟩
  have hnames : records.map (fun record => record.entry.name) = entries.map ZipEntry.name := by
    clear h harchive
    induction hrecords with
    | nil => rfl
    | cons hrecord _ ih => rw [List.map_cons, List.map_cons, ih, hrecord.1]
  rw [listZipEntryNames_archiveOf harchive, hnames]

theorem listZipEntryNames_createZipArchive_sample :
    ∃ archive, createZipArchive (fun _ => .ok [3, 0]) [⟨"ä.txt".toList, []⟩, ⟨"b".toList, []⟩] = .ok archive ∧
      listZipEntryNames archive = .ok ["ä.txt".toList, "b".toList] := by
  have hreturns : Throwing.Returns (createZipArchive (fun _ => .ok [3, 0]) [⟨"ä.txt".toList, []⟩, ⟨"b".toList, []⟩]) := by
    decide +kernel
  obtain ⟨archive, harchive⟩ := hreturns
  exact ⟨archive, harchive, (listZipEntryNames_createZipArchive harchive).1⟩

end EasyMc.Packs
