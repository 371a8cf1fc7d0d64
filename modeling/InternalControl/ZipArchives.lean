import InternalControl.Bytes
import InternalControl.Fallible

/-!
# Limits of an uploaded archive

Before an archive is handed to the library that reads it, its central directory
is checked: as many records as its end declares, each with its local header and
with data that inflate to no more than the size it declares. A reader walks the
same directory by its signatures instead, whatever number is declared.
-/

namespace InternalControl.ZipArchives

open Bytes

abbrev Buffer := List UInt8

def mib : ℕ := 1024 * 1024

/-- Numbers of entries and of bytes. -/
structure ZipLimits where
  maxEntries : ℕ
  maxUncompressedBytes : ℕ
  deriving DecidableEq, Repr

def xlsxLimits : ZipLimits := ⟨1000, 64 * mib⟩

def docxLimits : ZipLimits := ⟨1000, 50 * mib⟩

def eocdSignature : ℕ := 0x06054b50

def centralSignature : ℕ := 0x02014b50

def localSignature : ℕ := 0x04034b50

def eocdMin : ℕ := 22

def maxComment : ℕ := 0xffff

inductive ErrorCode
  | archiveTooLarge
  | fileTypeNotAllowed
  deriving DecidableEq, Repr

/-- What is thrown: an exception of the interface, or the error of a read outside the buffer. -/
inductive Failure
  | apiException (code : ErrorCode) (message : String)
  | rangeError
  deriving DecidableEq, Repr

def tooLarge (detail : String) : Failure :=
  .apiException .archiveTooLarge s!"El archivo es demasiado grande para procesarlo. {detail}"

def corrupt : Failure :=
  .apiException .fileTypeNotAllowed "El archivo está dañado o no es un documento de Office."

/-! ### The platform -/

/-- What becomes of a deflated text of which at most some bytes are wanted. -/
inductive Inflated
  | produced (length : ℕ)
  /-- More is produced than is wanted. -/
  | rangeError
  | invalid
  deriving DecidableEq, Repr

/-- Inflation: how long a text is once it is inflated, if it is one, and what the platform answers
when it inflates it up to a limit. -/
structure Inflate where
  size : Buffer → Option ℕ
  inflateRawSync : Buffer → ℕ → Inflated
  produced : ∀ data limit length, inflateRawSync data limit = .produced length →
    size data = some length

def readUInt16LE (content : Buffer) (offset : ℕ) : Except Failure ℕ :=
  if offset + 2 ≤ content.length then .ok (uint16 content offset) else .error .rangeError

def readUInt32LE (content : Buffer) (offset : ℕ) : Except Failure ℕ :=
  if offset + 4 ≤ content.length then .ok (uint32 content offset) else .error .rangeError

def subarray (content : Buffer) (start length : ℕ) : Buffer := (content.drop start).take length

/-! ### The check -/

/-- Look for the end of the central directory from an offset down to another. -/
def searchBack (content : Buffer) (stop : ℕ) : ℕ → Except Failure (Option ℕ)
  | 0 => do
    let signature ← readUInt32LE content 0
    if signature = eocdSignature then .ok (some 0) else .ok none
  | offset + 1 => do
    let signature ← readUInt32LE content (offset + 1)
    if signature = eocdSignature then .ok (some (offset + 1))
    else if offset < stop then .ok none
    else searchBack content stop offset

def findEndOfCentralDirectory (content : Buffer) : Except Failure (Option ℕ) :=
  searchBack content (content.length - eocdMin - maxComment) (content.length - eocdMin)

def within (content : Buffer) (offset length : ℕ) : Prop := offset + length ≤ content.length

instance (content : Buffer) (offset length : ℕ) : Decidable (within content offset length) :=
  inferInstanceAs (Decidable (_ ≤ _))

/-- What is read of a record of the central directory. -/
structure CentralRecord where
  method : ℕ
  compressed : ℕ
  uncompressed : ℕ
  nameLength : ℕ
  extraLength : ℕ
  commentLength : ℕ
  localOffset : ℕ
  deriving DecidableEq, Repr

/-- How many bytes a record takes in the directory. -/
def CentralRecord.size (record : CentralRecord) : ℕ :=
  46 + record.nameLength + record.extraLength + record.commentLength

def readCentralRecord (content : Buffer) (cursor : ℕ) : Except Failure CentralRecord := do
  let method ← readUInt16LE content (cursor + 10)
  let compressed ← readUInt32LE content (cursor + 20)
  let uncompressed ← readUInt32LE content (cursor + 24)
  let nameLength ← readUInt16LE content (cursor + 28)
  let extraLength ← readUInt16LE content (cursor + 30)
  let commentLength ← readUInt16LE content (cursor + 32)
  let localOffset ← readUInt32LE content (cursor + 42)
  .ok ⟨method, compressed, uncompressed, nameLength, extraLength, commentLength, localOffset⟩

/-- Whether the sizes that a record declares can be taken, with those before it. -/
def checkDeclared (limits : ZipLimits) (record : CentralRecord) (declaredTotal : ℕ) :
    Except Failure Unit :=
  if record.compressed = 0xffffffff ∨ record.uncompressed = 0xffffffff ∨
      record.localOffset = 0xffffffff then
    .error (tooLarge "Use un archivo más pequeño.")
  else if limits.maxUncompressedBytes < declaredTotal then
    let megabytes := (limits.maxUncompressedBytes + mib / 2) / mib
    .error (tooLarge s!"Descomprimido pasa de {megabytes} MB.")
  else .ok ()

/-- The records that the end of the directory declares, from a cursor on. -/
def readEntries (content : Buffer) (limits : ZipLimits) :
    ℕ → ℕ → ℕ → Except Failure (List CentralRecord)
  | 0, _, _ => .ok []
  | count + 1, cursor, declaredTotal =>
    if ¬within content cursor 46 then .error corrupt
    else do
      let signature ← readUInt32LE content cursor
      if signature ≠ centralSignature then .error corrupt
      else do
        let record ← readCentralRecord content cursor
        let total := declaredTotal + record.uncompressed
        checkDeclared limits record total
        let pending ← readEntries content limits count (cursor + record.size) total
        .ok (record :: pending)

/-- The data of a record, and whether they inflate to no more than is declared. -/
def checkEntry (inflate : Inflate) (content : Buffer) (entry : CentralRecord) :
    Except Failure Unit :=
  if ¬within content entry.localOffset 30 then .error corrupt
  else do
    let signature ← readUInt32LE content entry.localOffset
    if signature ≠ localSignature then .error corrupt
    else do
      let nameLength ← readUInt16LE content (entry.localOffset + 26)
      let extraLength ← readUInt16LE content (entry.localOffset + 28)
      let dataStart := entry.localOffset + 30 + nameLength + extraLength
      if ¬within content dataStart entry.compressed then .error corrupt
      else if entry.method = 0 then
        if entry.compressed ≠ entry.uncompressed then .error corrupt else .ok ()
      else if entry.method ≠ 8 then .error corrupt
      else
        match inflate.inflateRawSync (subarray content dataStart entry.compressed)
            (max 1 entry.uncompressed) with
        | .rangeError => .error (tooLarge "Una parte interna está dañada.")
        | .invalid => .error corrupt
        | .produced length =>
          if entry.uncompressed < length then .error (tooLarge "Una parte interna está dañada.")
          else .ok ()

def checkEntries (inflate : Inflate) (content : Buffer) : List CentralRecord → Except Failure Unit
  | [] => .ok ()
  | entry :: pending => do
    checkEntry inflate content entry
    checkEntries inflate content pending

/-- Whether the directory that an end declares can be read. -/
def checkEnd (content : Buffer) (limits : ZipLimits) (entries centralSize centralOffset : ℕ) :
    Except Failure Unit :=
  if entries = 0xffff ∨ centralSize = 0xffffffff ∨ centralOffset = 0xffffffff then
    .error (tooLarge "Use un archivo más pequeño.")
  else if limits.maxEntries < entries then
    let maxEntries := limits.maxEntries
    .error (tooLarge s!"Tiene {entries} partes internas y el máximo es {maxEntries}.")
  else if ¬within content centralOffset centralSize then .error corrupt
  else .ok ()

/-- The check of the directory that an end declares. -/
def checkDirectory (inflate : Inflate) (content : Buffer) (limits : ZipLimits) (eocd : ℕ) :
    Except Failure Unit := do
  let entries ← readUInt16LE content (eocd + 10)
  let centralSize ← readUInt32LE content (eocd + 12)
  let centralOffset ← readUInt32LE content (eocd + 16)
  checkEnd content limits entries centralSize centralOffset
  let pending ← readEntries content limits entries centralOffset 0
  checkEntries inflate content pending

def assertZipWithinLimits (inflate : Inflate) (content : Buffer) (limits : ZipLimits) :
    Except Failure Unit :=
  if content.length < eocdMin then .ok ()
  else do
    let found ← findEndOfCentralDirectory content
    match found with
    | none => .ok ()
    | some eocd => checkDirectory inflate content limits eocd

/-! ### The reader -/

/-- The record at an offset. -/
def centralRecord (content : Buffer) (offset : ℕ) : CentralRecord where
  method := uint16 content (offset + 10)
  compressed := uint32 content (offset + 20)
  uncompressed := uint32 content (offset + 24)
  nameLength := uint16 content (offset + 28)
  extraLength := uint16 content (offset + 30)
  commentLength := uint16 content (offset + 32)
  localOffset := uint32 content (offset + 42)

/-- The records that a reader meets from an offset on, for as long as their signature is there. -/
def walk (content : Buffer) (offset : ℕ) : List CentralRecord :=
  if offset + 46 ≤ content.length ∧ uint32 content offset = centralSignature then
    centralRecord content offset :: walk content (offset + (centralRecord content offset).size)
  else []
termination_by content.length - offset
decreasing_by
  unfold CentralRecord.size
  omega

/-- Where the last end of a central directory starts. -/
def endOfCentralDirectory (content : Buffer) : Option ℕ :=
  if content.length < eocdMin then none
  else lastFrom (fun offset => uint32 content offset = eocdSignature) 0 (content.length - eocdMin)

/-- The records that a reader loads. -/
def loaded (content : Buffer) : List CentralRecord :=
  match endOfCentralDirectory content with
  | none => []
  | some eocd => walk content (uint32 content (eocd + 16))

/-- Where the data of a record start, after its local header. -/
def dataStart (content : Buffer) (record : CentralRecord) : ℕ :=
  record.localOffset + 30 + uint16 content (record.localOffset + 26) +
    uint16 content (record.localOffset + 28)

/-- What the data of a record inflate to, when a reader can inflate them. -/
def inflatedSize (inflate : Inflate) (content : Buffer) (record : CentralRecord) : Option ℕ :=
  if within content record.localOffset 30 ∧ uint32 content record.localOffset = localSignature ∧
      within content (dataStart content record) record.compressed then
    if record.method = 0 then some record.compressed
    else if record.method = 8 then
      inflate.size (subarray content (dataStart content record) record.compressed)
    else none
  else none

def inflatedTotal (inflate : Inflate) (content : Buffer) (records : List CentralRecord) : ℕ :=
  (records.map fun record => (inflatedSize inflate content record).getD 0).sum

/-- What a reader loads is within the limits. -/
structure WithinLimits (inflate : Inflate) (content : Buffer) (limits : ZipLimits) : Prop where
  entries : (loaded content).length ≤ limits.maxEntries
  bytes : inflatedTotal inflate content (loaded content) ≤ limits.maxUncompressedBytes

/-- The end that the check finds: the last one, if it starts early enough. -/
def checkedEnd (content : Buffer) : Option ℕ :=
  lastFrom (fun offset => uint32 content offset = eocdSignature)
    (content.length - eocdMin - maxComment) (content.length - eocdMin)

/-- How many records that end declares. Where the check finds none, it checks none. -/
def declaredRecords (content : Buffer) : ℕ :=
  match checkedEnd content with
  | none => 0
  | some eocd => uint16 content (eocd + 10)

/-! ### What the check reads -/

section Reads

variable {content : Buffer} {limits : ZipLimits} {offset cursor count : ℕ}

theorem readUInt16LE_eq (h : offset + 2 ≤ content.length) :
    readUInt16LE content offset = .ok (uint16 content offset) := if_pos h

theorem readUInt32LE_eq (h : offset + 4 ≤ content.length) :
    readUInt32LE content offset = .ok (uint32 content offset) := if_pos h

theorem searchBack_eq {stop : ℕ} (h : offset + 4 ≤ content.length) :
    searchBack content stop offset =
      .ok (lastFrom (fun offset => uint32 content offset = eocdSignature) stop offset) := by
  induction offset with
  | zero =>
    rw [searchBack, readUInt32LE_eq h, lastFrom]
    by_cases hsignature : uint32 content 0 = eocdSignature <;> simp [bind, Except.bind, hsignature]
  | succ offset ih =>
    rw [searchBack, readUInt32LE_eq h, lastFrom]
    have hbelow := ih (by omega)
    by_cases hsignature : uint32 content (offset + 1) = eocdSignature
    · simp [bind, Except.bind, hsignature]
    · by_cases hstop : offset < stop
      · simp [bind, Except.bind, hsignature, hstop]
      · simp [bind, Except.bind, hsignature, hstop, hbelow]

theorem findEndOfCentralDirectory_eq (h : ¬content.length < eocdMin) :
    findEndOfCentralDirectory content = .ok (checkedEnd content) := by
  have hmin : eocdMin = 22 := rfl
  exact searchBack_eq (by omega)

theorem readCentralRecord_eq (h : cursor + 46 ≤ content.length) :
    readCentralRecord content cursor = .ok (centralRecord content cursor) := by
  unfold readCentralRecord
  simp (disch := omega) only [readUInt16LE_eq, readUInt32LE_eq]
  rfl

/-- One round of the loop, over a record that is in the buffer. -/
theorem readEntries_succ (h : within content cursor 46) (declaredTotal : ℕ) :
    readEntries content limits (count + 1) cursor declaredTotal =
      if uint32 content cursor ≠ centralSignature then .error corrupt
      else (do
        let record := centralRecord content cursor
        checkDeclared limits record (declaredTotal + record.uncompressed)
        let pending ← readEntries content limits count (cursor + record.size)
          (declaredTotal + record.uncompressed)
        .ok (record :: pending)) := by
  have hfits : cursor + 46 ≤ content.length := h
  rw [readEntries, if_neg (not_not.mpr h), readUInt32LE_eq (by omega), readCentralRecord_eq hfits]
  rfl

/-- What is done with the end of the directory, when it is in the buffer. -/
theorem checkDirectory_eq (inflate : Inflate) {eocd : ℕ} (hend : eocd + 22 ≤ content.length) :
    checkDirectory inflate content limits eocd = (do
      checkEnd content limits (uint16 content (eocd + 10)) (uint32 content (eocd + 12))
        (uint32 content (eocd + 16))
      let pending ← readEntries content limits (uint16 content (eocd + 10))
        (uint32 content (eocd + 16)) 0
      checkEntries inflate content pending) := by
  unfold checkDirectory
  rw [readUInt16LE_eq (by omega), readUInt32LE_eq (by omega), readUInt32LE_eq (by omega)]
  rfl

end Reads

/-! ### What is accepted -/

section Accepted

variable {inflate : Inflate} {content : Buffer} {limits : ZipLimits}

theorem checkDeclared_eq_ok {record : CentralRecord} {total : ℕ}
    (h : checkDeclared limits record total = .ok ()) :
    total ≤ limits.maxUncompressedBytes ∧ ∀ wider : ZipLimits, total ≤ wider.maxUncompressedBytes →
      checkDeclared wider record total = .ok () := by
  unfold checkDeclared at h ⊢
  split at h
  · cases h
  · next hplain =>
    split at h
    · cases h
    · next hfits =>
      refine ⟨Nat.le_of_not_lt hfits, fun wider hwider => ?_⟩
      rw [if_neg hplain, if_neg (Nat.not_lt.mpr hwider)]

/-- What the loop returns is the first part of the walk, and its sizes were added up. -/
theorem readEntries_eq_ok {count cursor declaredTotal : ℕ} {pending : List CentralRecord}
    (h : readEntries content limits count cursor declaredTotal = .ok pending) :
    pending.length = count ∧ (∃ rest, walk content cursor = pending ++ rest) ∧
      (declaredTotal ≤ limits.maxUncompressedBytes →
        declaredTotal + (pending.map CentralRecord.uncompressed).sum ≤ limits.maxUncompressedBytes) ∧
      ∀ wider : ZipLimits, declaredTotal + (pending.map CentralRecord.uncompressed).sum ≤
        wider.maxUncompressedBytes →
          readEntries content wider count cursor declaredTotal = .ok pending := by
  induction count generalizing cursor declaredTotal pending with
  | zero =>
    cases h
    exact ⟨rfl, ⟨_, rfl⟩, fun hfits => hfits, fun _ _ => rfl⟩
  | succ count ih =>
    by_cases hwithin : within content cursor 46
    · rw [readEntries_succ hwithin] at h
      split at h
      · cases h
      · next hsignature =>
        have hcentral : uint32 content cursor = centralSignature := not_not.mp hsignature
        obtain ⟨⟨⟩, hdeclared, h⟩ := Fallible.bind_eq_ok h
        obtain ⟨rest, hrest, h⟩ := Fallible.bind_eq_ok h
        cases h
        obtain ⟨hlength, ⟨beyond, hwalk⟩, hsum, hwider⟩ := ih hrest
        obtain ⟨hfits, hagain⟩ := checkDeclared_eq_ok hdeclared
        refine ⟨by rw [List.length_cons, hlength], ⟨beyond, ?_⟩, fun _ => ?_, fun wider htotal => ?_⟩
        · rw [walk, if_pos ⟨hwithin, hcentral⟩, hwalk, List.cons_append]
        · have htotal := hsum hfits
          rw [List.map_cons, List.sum_cons]
          omega
        · rw [List.map_cons, List.sum_cons] at htotal
          have hdeclared' := hagain wider (by omega)
          have hrest' := hwider wider (by omega)
          rw [readEntries_succ hwithin, if_neg (not_not.mpr hcentral)]
          dsimp only
          rw [hdeclared', hrest']
          rfl
    · rw [readEntries, if_pos hwithin] at h
      cases h

/-- The data of an entry that passes can be inflated, to no more than it declares. -/
theorem checkEntry_eq_ok {entry : CentralRecord} (h : checkEntry inflate content entry = .ok ()) :
    ∃ length, inflatedSize inflate content entry = some length ∧ length ≤ entry.uncompressed := by
  unfold checkEntry at h
  split at h
  · cases h
  · next hlocal =>
    have hlocal := not_not.mp hlocal
    have hbound : entry.localOffset + 30 ≤ content.length := hlocal
    rw [readUInt32LE_eq (by omega), readUInt16LE_eq (by omega), readUInt16LE_eq (by omega)] at h
    dsimp only [bind, Except.bind] at h
    split at h
    · cases h
    · next hsignature =>
      split at h
      · cases h
      · next hdata =>
        have hloaded : within content entry.localOffset 30 ∧
            uint32 content entry.localOffset = localSignature ∧
            within content (dataStart content entry) entry.compressed :=
          ⟨hlocal, not_not.mp hsignature, not_not.mp hdata⟩
        unfold inflatedSize
        rw [if_pos hloaded]
        split at h
        · next hstored =>
          split at h
          · cases h
          · next hsame => exact ⟨entry.compressed, by rw [if_pos hstored], Nat.le_of_eq (not_not.mp hsame)⟩
        · next hstored =>
          split at h
          · cases h
          · next hdeflated =>
            split at h
            · cases h
            · cases h
            · next length hproduced =>
              split at h
              · cases h
              · next hfits =>
                refine ⟨length, ?_, Nat.le_of_not_lt hfits⟩
                rw [if_neg hstored, if_pos (not_not.mp hdeflated)]
                exact inflate.produced _ _ _ hproduced

theorem checkEntries_eq_ok {pending : List CentralRecord}
    (h : checkEntries inflate content pending = .ok ()) :
    inflatedTotal inflate content pending ≤ (pending.map CentralRecord.uncompressed).sum := by
  induction pending with
  | nil => exact Nat.le_refl 0
  | cons entry pending ih =>
    obtain ⟨⟨⟩, hentry, hrest⟩ := Fallible.bind_eq_ok h
    obtain ⟨length, hsize, hle⟩ := checkEntry_eq_ok hentry
    have htotal := ih hrest
    unfold inflatedTotal at htotal ⊢
    simp only [List.map_cons, List.sum_cons, hsize, Option.getD_some]
    omega

/-- A directory that is accepted is so with the limits that it declares itself, and its records
are the first ones that a reader meets. -/
theorem checkDirectory_eq_ok {eocd : ℕ} (hend : eocd + 22 ≤ content.length)
    (h : checkDirectory inflate content limits eocd = .ok ()) :
    ∃ pending rest, walk content (uint32 content (eocd + 16)) = pending ++ rest ∧
      pending.length = uint16 content (eocd + 10) ∧ pending.length ≤ limits.maxEntries ∧
      inflatedTotal inflate content pending ≤ limits.maxUncompressedBytes ∧
      ∃ bytes, checkDirectory inflate content ⟨pending.length, bytes⟩ eocd = .ok () := by
  rw [checkDirectory_eq inflate hend] at h
  obtain ⟨⟨⟩, hcheck, h⟩ := Fallible.bind_eq_ok h
  obtain ⟨pending, hread, hentries⟩ := Fallible.bind_eq_ok h
  obtain ⟨hlength, ⟨rest, hwalk⟩, hsum, hwider⟩ := readEntries_eq_ok hread
  have hinflated := checkEntries_eq_ok hentries
  have htotal := hsum (Nat.zero_le _)
  have hcheck' := hcheck
  unfold checkEnd at hcheck'
  split at hcheck'
  · cases hcheck'
  · next hplain =>
    split at hcheck'
    · cases hcheck'
    · next hcount =>
      split at hcheck'
      · cases hcheck'
      · next hwithin =>
        refine ⟨pending, rest, hwalk, hlength, by omega, by omega,
          (pending.map CentralRecord.uncompressed).sum, ?_⟩
        have hnarrow : ¬pending.length < uint16 content (eocd + 10) := by omega
        have hend' : checkEnd content ⟨pending.length, (pending.map CentralRecord.uncompressed).sum⟩
            (uint16 content (eocd + 10)) (uint32 content (eocd + 12))
            (uint32 content (eocd + 16)) = .ok () := by
          unfold checkEnd
          rw [if_neg hplain, if_neg hnarrow, if_neg hwithin]
        have hread' := hwider ⟨pending.length, (pending.map CentralRecord.uncompressed).sum⟩
          (Nat.le_of_eq (Nat.zero_add _))
        rw [checkDirectory_eq inflate hend, hend', hread']
        exact hentries

end Accepted

/-! ### What is thrown -/

section Thrown

variable {α β : Type} {inflate : Inflate} {content : Buffer} {limits : ZipLimits}

/-- A computation that reads no offset outside the buffer. -/
def Inside (x : Except Failure α) : Prop := x ≠ .error .rangeError

theorem Inside.ok (a : α) : Inside (.ok a : Except Failure α) := nofun

theorem Inside.api (code : ErrorCode) (message : String) :
    Inside (.error (.apiException code message) : Except Failure α) := nofun

theorem Inside.bind {x : Except Failure α} {f : α → Except Failure β} (h : Inside x)
    (hf : ∀ a, Inside (f a)) : Inside (x >>= f) := by
  cases x with
  | error failure =>
    intro hrange
    cases hrange
    exact h rfl
  | ok a => exact hf a

theorem inside_checkDeclared (record : CentralRecord) (total : ℕ) :
    Inside (checkDeclared limits record total) := by
  unfold checkDeclared
  split
  · exact .api _ _
  · split
    · exact .api _ _
    · exact .ok ()

theorem inside_readEntries (count cursor declaredTotal : ℕ) :
    Inside (readEntries content limits count cursor declaredTotal) := by
  induction count generalizing cursor declaredTotal with
  | zero => exact .ok []
  | succ count ih =>
    by_cases hwithin : within content cursor 46
    · rw [readEntries_succ hwithin]
      split
      · exact .api _ _
      · exact (inside_checkDeclared _ _).bind fun _ => (ih _ _).bind fun _ => .ok _
    · rw [readEntries, if_pos hwithin]
      exact .api _ _

theorem inside_checkEntry (entry : CentralRecord) : Inside (checkEntry inflate content entry) := by
  unfold checkEntry
  split
  · exact .api _ _
  · next hlocal =>
    have hbound : entry.localOffset + 30 ≤ content.length := not_not.mp hlocal
    rw [readUInt32LE_eq (by omega), readUInt16LE_eq (by omega), readUInt16LE_eq (by omega)]
    dsimp only [Bind.bind, Except.bind]
    split
    · exact .api _ _
    · split
      · exact .api _ _
      · split
        · split
          · exact .api _ _
          · exact .ok ()
        · split
          · exact .api _ _
          · split
            · exact .api _ _
            · exact .api _ _
            · split
              · exact .api _ _
              · exact .ok ()

theorem inside_checkEntries (pending : List CentralRecord) :
    Inside (checkEntries inflate content pending) := by
  induction pending with
  | nil => exact .ok ()
  | cons entry pending ih => exact (inside_checkEntry entry).bind fun _ => ih

theorem inside_checkEnd (entries centralSize centralOffset : ℕ) :
    Inside (checkEnd content limits entries centralSize centralOffset) := by
  unfold checkEnd
  split
  · exact .api _ _
  · split
    · exact .api _ _
    · split
      · exact .api _ _
      · exact .ok ()

theorem inside_checkDirectory {eocd : ℕ} (hend : eocd + 22 ≤ content.length) :
    Inside (checkDirectory inflate content limits eocd) := by
  rw [checkDirectory_eq inflate hend]
  exact (inside_checkEnd _ _ _).bind fun _ => (inside_readEntries _ _ _).bind fun _ =>
    inside_checkEntries _

end Thrown

/-! ### Check and reader -/

section Limits

variable {inflate : Inflate} {content : Buffer} {limits : ZipLimits}

/-- The end that the check finds is in the buffer. -/
theorem checkedEnd_fits {eocd : ℕ} (hlong : ¬content.length < eocdMin)
    (h : checkedEnd content = some eocd) : eocd + 22 ≤ content.length := by
  have hle := lastFrom_le h
  have hmin : eocdMin = 22 := rfl
  omega

theorem assertZipWithinLimits_eq (hlong : ¬content.length < eocdMin) :
    assertZipWithinLimits inflate content limits =
      match checkedEnd content with
      | none => .ok ()
      | some eocd => checkDirectory inflate content limits eocd := by
  unfold assertZipWithinLimits
  rw [if_neg hlong, findEndOfCentralDirectory_eq hlong]
  rfl

/-- The check reads nothing outside the buffer: what it throws is an exception of the interface. -/
theorem inside_assertZipWithinLimits : Inside (assertZipWithinLimits inflate content limits) := by
  by_cases hlong : content.length < eocdMin
  · unfold assertZipWithinLimits
    rw [if_pos hlong]
    exact .ok ()
  · rw [assertZipWithinLimits_eq hlong]
    cases hfound : checkedEnd content with
    | none => exact .ok ()
    | some eocd => exact inside_checkDirectory (checkedEnd_fits hlong hfound)

theorem WithinLimits.of_eq_nil (h : loaded content = []) : WithinLimits inflate content limits := by
  constructor
  · rw [h]
    exact Nat.zero_le _
  · rw [h]
    exact Nat.zero_le _

/-- A reader that finds the end of the directory where the check does loads the records from
there. -/
theorem loaded_of_checkedEnd {eocd : ℕ} (hlong : ¬content.length < eocdMin)
    (h : checkedEnd content = some eocd) :
    loaded content = walk content (uint32 content (eocd + 16)) := by
  have hend : endOfCentralDirectory content = some eocd := by
    unfold endOfCentralDirectory
    rw [if_neg hlong]
    exact lastFrom_zero h
  unfold loaded
  rw [hend]

/-- The check reads nothing outside the buffer. An archive that some limits accept is within every
limits that accept it when, and only when, a reader finds no more records than the check has seen
declared. -/
theorem archive_is_within_limits (inflate : Inflate) (content : Buffer) :
    (∀ limits, assertZipWithinLimits inflate content limits ≠ .error .rangeError) ∧
      ((∃ limits, assertZipWithinLimits inflate content limits = .ok ()) →
        ((∀ limits, assertZipWithinLimits inflate content limits = .ok () →
          WithinLimits inflate content limits) ↔
            (loaded content).length ≤ declaredRecords content)) := by
  refine ⟨fun limits => inside_assertZipWithinLimits, fun ⟨limits, haccepted⟩ => ?_⟩
  by_cases hlong : content.length < eocdMin
  · have hnone : loaded content = [] := by
      unfold loaded endOfCentralDirectory
      rw [if_pos hlong]
    have hcount : (loaded content).length ≤ declaredRecords content := by
      rw [hnone]
      exact Nat.zero_le _
    exact ⟨fun _ => hcount, fun _ _ _ => .of_eq_nil hnone⟩
  · cases hfound : checkedEnd content with
    | none =>
      have hzero : declaredRecords content = 0 := by
        unfold declaredRecords
        rw [hfound]
      rw [hzero]
      constructor
      · intro hwithin
        have hnothing : assertZipWithinLimits inflate content ⟨0, 0⟩ = .ok () := by
          rw [assertZipWithinLimits_eq hlong, hfound]
        exact (hwithin ⟨0, 0⟩ hnothing).entries
      · intro hcount limits _
        exact .of_eq_nil (List.length_eq_zero_iff.mp (Nat.le_zero.mp hcount))
    | some eocd =>
      have hend := checkedEnd_fits hlong hfound
      have hloaded := loaded_of_checkedEnd hlong hfound
      have hdeclared : declaredRecords content = uint16 content (eocd + 10) := by
        unfold declaredRecords
        rw [hfound]
      have hcheck : ∀ limits, assertZipWithinLimits inflate content limits =
          checkDirectory inflate content limits eocd := fun limits => by
        rw [assertZipWithinLimits_eq hlong, hfound]
      rw [hcheck] at haccepted
      rw [hdeclared]
      constructor
      · intro hwithin
        obtain ⟨pending, rest, hwalk, hlength, -, -, bytes, hnarrow⟩ :=
          checkDirectory_eq_ok hend haccepted
        rw [← hcheck] at hnarrow
        have hentries := (hwithin _ hnarrow).entries
        dsimp only at hentries
        omega
      · intro hcount limits haccepted
        rw [hcheck] at haccepted
        obtain ⟨pending, rest, hwalk, hlength, hentries, hbytes, -⟩ :=
          checkDirectory_eq_ok hend haccepted
        rw [hloaded, hwalk, List.length_append] at hcount
        have hnone : rest = [] := List.length_eq_zero_iff.mp (by omega)
        have hpending : loaded content = pending := by
          rw [hloaded, hwalk, hnone, List.append_nil]
        exact ⟨hpending ▸ hentries, hpending ▸ hbytes⟩

end Limits

section Samples

def noInflate : Inflate := ⟨fun _ => none, fun _ _ => .invalid, nofun⟩

/-- The local header of an empty file without a name. -/
def emptyLocal : Buffer := [0x50, 0x4b, 3, 4] ++ List.replicate 26 0

/-- The record of that file. -/
def emptyCentral : Buffer := [0x50, 0x4b, 1, 2] ++ List.replicate 42 0

/-- The end of a directory that starts after the local header. -/
def endRecord (declared : UInt8) : Buffer :=
  [0x50, 0x4b, 5, 6, 0, 0, 0, 0, declared, 0, declared, 0, 0, 0, 0, 0, 30, 0, 0, 0, 0, 0]

/-- An archive with some records, and the number that it declares. -/
def archive (declared : UInt8) (records : ℕ) : Buffer :=
  emptyLocal ++ (List.replicate records emptyCentral).flatten ++ endRecord declared

/-- What the check and a reader find in an archive that declares its one record. -/
theorem archive_is_within_limits_one :
    (∀ limits, assertZipWithinLimits noInflate (archive 1 1) limits ≠ .error .rangeError) ∧
      ((∀ limits, assertZipWithinLimits noInflate (archive 1 1) limits = .ok () →
        WithinLimits noInflate (archive 1 1) limits) ↔
          (loaded (archive 1 1)).length ≤ declaredRecords (archive 1 1)) := by
  have haccepted : assertZipWithinLimits noInflate (archive 1 1) xlsxLimits = .ok () := rfl
  exact ⟨(archive_is_within_limits noInflate (archive 1 1)).1,
    (archive_is_within_limits noInflate (archive 1 1)).2 ⟨xlsxLimits, haccepted⟩⟩

theorem length_records (records : ℕ) :
    (emptyLocal ++ (List.replicate records emptyCentral).flatten).length = 30 + 46 * records := by
  have hlocal : emptyLocal.length = 30 := rfl
  have hcentral : emptyCentral.length = 46 := rfl
  simp [hlocal, hcentral, Nat.mul_comm]

theorem checkedEnd_archive (declared : UInt8) (records : ℕ) :
    checkedEnd (archive declared records) = some (30 + 46 * records) := by
  have hlength : (archive declared records).length - eocdMin = 30 + 46 * records := by
    unfold archive
    rw [List.length_append, length_records]
    rfl
  have hsignature : uint32 (archive declared records) (30 + 46 * records) = eocdSignature := by
    have happend := uint32_append (emptyLocal ++ (List.replicate records emptyCentral).flatten)
      (endRecord declared) 0
    rw [length_records, Nat.add_zero] at happend
    have hvalue : uint32 (endRecord declared) 0 = eocdSignature := by
      simp [uint32, uint16, endRecord, eocdSignature]
    rw [← hvalue]
    exact happend
  unfold checkedEnd
  rw [hlength]
  exact lastFrom_self (decide_eq_true hsignature)

/-- A reader walks over all records, up to the end. -/
theorem length_walk_records (before : Buffer) (declared : UInt8) (records : ℕ) :
    (walk (before ++ ((List.replicate records emptyCentral).flatten ++ endRecord declared))
      before.length).length = records := by
  induction records generalizing before with
  | zero =>
    rw [walk, if_neg]
    · rfl
    · intro ⟨hfits, _⟩
      simp [endRecord] at hfits
  | succ records ih =>
    have hrest := ih (before ++ emptyCentral)
    rw [List.append_assoc, List.length_append] at hrest
    rw [List.replicate_succ, List.flatten_cons, List.append_assoc, walk, if_pos]
    · have hsize : (centralRecord (before ++ (emptyCentral ++
          ((List.replicate records emptyCentral).flatten ++ endRecord declared)))
            before.length).size = emptyCentral.length := by
        unfold centralRecord CentralRecord.size
        simp only [uint16_append]
        rfl
      rw [List.length_cons, hsize, hrest]
    · constructor
      · simp [emptyCentral]
      · have happend := uint32_append before (emptyCentral ++
          ((List.replicate records emptyCentral).flatten ++ endRecord declared)) 0
        rw [Nat.add_zero] at happend
        rw [happend]
        simp [uint32, uint16, emptyCentral, centralSignature]

/-- An archive that declares none of its records passes, however many they are. -/
theorem undeclared_accepted (records : ℕ) (limits : ZipLimits) :
    assertZipWithinLimits noInflate (archive 0 records) limits = .ok () ∧
      (loaded (archive 0 records)).length = records := by
  have hlength : (archive 0 records).length = 30 + 46 * records + 22 := by
    unfold archive
    rw [List.length_append, length_records]
    rfl
  have hlong : ¬(archive 0 records).length < eocdMin := by
    have hmin : eocdMin = 22 := rfl
    omega
  have hfield : ∀ offset, uint32 (archive 0 records) (30 + 46 * records + offset) =
      uint32 (endRecord 0) offset := fun offset => by
    have happend := uint32_append (emptyLocal ++ (List.replicate records emptyCentral).flatten)
      (endRecord 0) offset
    rw [length_records] at happend
    exact happend
  have hentries : uint16 (archive 0 records) (30 + 46 * records + 10) = 0 := by
    have happend := uint16_append (emptyLocal ++ (List.replicate records emptyCentral).flatten)
      (endRecord 0) 10
    rw [length_records] at happend
    exact happend
  have hend := checkedEnd_archive 0 records
  constructor
  · rw [assertZipWithinLimits_eq hlong, hend]
    dsimp only
    rw [checkDirectory_eq noInflate (by omega), hfield, hfield, hentries]
    have hwithin : within (archive 0 records) (uint32 (endRecord 0) 16)
        (uint32 (endRecord 0) 12) := by
      have hoffset : uint32 (endRecord 0) 16 = 30 := rfl
      have hsize : uint32 (endRecord 0) 12 = 0 := rfl
      unfold within
      omega
    have hcheck : checkEnd (archive 0 records) limits 0 (uint32 (endRecord 0) 12)
        (uint32 (endRecord 0) 16) = .ok () := by
      unfold checkEnd
      rw [if_neg (by decide), if_neg (Nat.not_lt_zero _), if_neg (not_not.mpr hwithin)]
    rw [hcheck]
    rfl
  · rw [loaded_of_checkedEnd hlong hend, hfield]
    have hwalk := length_walk_records emptyLocal 0 records
    rw [← List.append_assoc] at hwalk
    exact hwalk

/-- A workbook with a record more than is allowed passes when it declares none. -/
theorem undeclared_records_are_loaded :
    ¬∀ (inflate : Inflate) (content : Buffer) (limits : ZipLimits),
      assertZipWithinLimits inflate content limits ≠ .error .rangeError ∧
        (assertZipWithinLimits inflate content limits = .ok () →
          endOfCentralDirectory content ≠ none → WithinLimits inflate content limits) := by
  intro h
  obtain ⟨haccepted, hloaded⟩ := undeclared_accepted 1001 xlsxLimits
  have hlong : ¬(archive 0 1001).length < eocdMin := by
    unfold archive
    rw [List.length_append, length_records]
    decide
  have hend : endOfCentralDirectory (archive 0 1001) ≠ none := by
    unfold endOfCentralDirectory
    rw [if_neg hlong]
    have hfound := lastFrom_zero (checkedEnd_archive 0 1001)
    rw [hfound]
    exact Option.some_ne_none _
  have hentries := ((h noInflate (archive 0 1001) xlsxLimits).2 haccepted hend).entries
  rw [hloaded] at hentries
  exact absurd hentries (by decide)

end Samples

end InternalControl.ZipArchives
