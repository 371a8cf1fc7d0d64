import InternalControl.KeySegments

/-!
# Builders of storage keys

Each builder checks the parts that name a file, puts the text of its key together under
the folder of its kind and has the text checked. The last check refuses no text that was
put together, and the key stays in its folder. A date that is not valid is refused before
anything else, so the dates here are instants.
-/

namespace InternalControl.StorageKeys

open CodeUnits Text

/-! ### Parts of a key -/

/-- A date with dashes. -/
def isoDatePattern (value : String) : Bool :=
  value.toList.length = 10 && value.toList.zipIdx.all fun (c, i) =>
    if i ∈ [4, 7] then c = '-' else c.isDigit

/-- From one to twenty characters of a segment. -/
def templateVersionPattern (value : String) : Bool :=
  1 ≤ value.toList.length && value.toList.length ≤ 20 && value.toList.all segmentChar

/-- SAFE_SEGMENT on a text of characters. -/
def safeSegmentPattern (value : String) : Bool :=
  value.toList.length ≤ 120 && value.toList.head?.any Char.isAlphanum &&
    value.toList.all segmentChar

/-- A number given to a builder: an integer, or one that is not, as a fraction or NaN. -/
inductive KeyNumber where
  | integer (value : ℤ)
  | other

/-- The number, when it is an integer from zero on. -/
def KeyNumber.natural : KeyNumber → Option ℕ
  | integer value => if 0 ≤ value then some value.toNat else none
  | other => none

/-- A number in a key, unless it is negative or not a safe integer. -/
def KeyNumber.positiveInt (number : KeyNumber) : Option ℕ := do
  let value ← number.natural
  StorageKeys.positiveInt value

/-- The date of the name of a photo, given the calendar of the time zone. -/
def storageDate (calendarDate : Instant → String) (instant : Instant) : Option String :=
  checked (calendarDate instant) isoDatePattern

/-! ### Documents -/

/-- What the keys of a document are made of. -/
structure DocumentKeyInput where
  createdAt : Instant
  formatKey : Units
  number : Units

/-- The format of a stored document. -/
inductive DocumentExtension where
  | docx
  | pdf

/-- The letters of the extension. -/
def DocumentExtension.text : DocumentExtension → String
  | docx => "docx"
  | pdf => "pdf"

/-- What a revision adds to the number of its document. -/
def revisionSuffix : Option KeyNumber → Option String
  | none => some ""
  | some revision => revision.positiveInt.map fun number => "-r" ++ Nat.repr number

section Builders

variable (runtime : KeyRuntime)

/-- The path of a file of a document. -/
def documentFilePath (input : DocumentKeyInput) (extension : DocumentExtension)
    (revision : Option KeyNumber) : Option String := do
  let revision ← revisionSuffix revision
  let year ← storageYear runtime.calendarYear input.createdAt
  return "documents/" ++ year ++ "/" ++ safeKeySegment runtime input.formatKey ++ "/" ++
    (safeKeySegment runtime input.number ++ revision ++ "." ++ extension.text)

/-- The key of a file of a document. -/
def documentFileKey (input : DocumentKeyInput) (extension : DocumentExtension)
    (revision : Option KeyNumber) : Option String := do
  finish (← documentFilePath runtime input extension revision)

/-- The path of a signed document. -/
def signedDocumentPath (input : DocumentKeyInput) : Option String := do
  let year ← storageYear runtime.calendarYear input.createdAt
  return "documents/" ++ year ++ "/" ++ safeKeySegment runtime input.formatKey ++ "/" ++
    (safeKeySegment runtime input.number ++ "-firmado.pdf")

/-- The key of a signed document. -/
def signedDocumentKey (input : DocumentKeyInput) : Option String := do
  finish (← signedDocumentPath runtime input)

/-! ### Templates -/

/-- What the key of a document template is made of, with the version as it is printed. -/
structure DocumentTemplateKeyInput where
  formatKey : Units
  version : String
  id : String
  effectiveDate : Option String

/-- What the effective date adds before the version. -/
def effectivePrefix : Option String → Option String
  | none => some ""
  | some date => (checked date isoDatePattern).map fun date => date ++ "-"

/-- The path of a document template. -/
def documentTemplatePath (input : DocumentTemplateKeyInput) : Option String := do
  let date ← effectivePrefix input.effectiveDate
  let version ← checked input.version templateVersionPattern
  let id ← checked input.id uuidPattern
  return "templates/documents/" ++ safeKeySegment runtime input.formatKey ++ "/" ++
    (date ++ "v" ++ version ++ "-" ++ id ++ ".docx")

/-- The key of a document template. -/
def documentTemplateKey (input : DocumentTemplateKeyInput) : Option String := do
  finish (← documentTemplatePath runtime input)

/-- What the key of an import template is made of. -/
structure ImportTemplateKeyInput where
  target : Units
  version : String
  contentHash : String

/-- The path of an import template. -/
def importTemplatePath (input : ImportTemplateKeyInput) : Option String := do
  let version ← checked input.version safeSegmentPattern
  let contentHash ← checked input.contentHash hexPattern
  return "templates/imports/" ++ safeKeySegment runtime input.target ++ "/" ++ version ++ "/" ++
    (sliceTo contentHash 16 ++ ".xlsx")

/-- The key of an import template. -/
def importTemplateKey (input : ImportTemplateKeyInput) : Option String := do
  finish (← importTemplatePath runtime input)

/-! ### Images -/

/-- The format of an image of a mail. -/
inductive EmailImageExtension where
  | png
  | jpg

/-- The letters of the extension. -/
def EmailImageExtension.text : EmailImageExtension → String
  | png => "png"
  | jpg => "jpg"

/-- The path of an image of a mail. -/
def emailImagePath (id : String) (extension : EmailImageExtension) : Option String := do
  let id ← checked id uuidPattern
  return "images/email/" ++ (id ++ "." ++ extension.text)

/-- The key of an image of a mail. -/
def emailImageKey (id : String) (extension : EmailImageExtension) : Option String := do
  finish (← emailImagePath id extension)

/-- What the keys of a photo of an asset are made of. -/
structure AssetPhotoKeyInput where
  uploadedAt : Instant
  costCenterCode : Units
  assetCode : Units
  seq : KeyNumber
  ext : String

/-- The start of the path of an asset's photos, up to the number. -/
def assetPhotoStemPath (input : AssetPhotoKeyInput) : Option String := do
  let year ← storageYear runtime.calendarYear input.uploadedAt
  let date ← storageDate runtime.calendarDate input.uploadedAt
  return year ++ "/" ++ safeKeySegment runtime input.costCenterCode ++ "/" ++
    safeKeySegment runtime input.assetCode ++ "_" ++ date ++ "_"

/-- The path of a photo with its number, which starts at one. -/
def assetPhotoPath (input : AssetPhotoKeyInput) : Option String := do
  let seq ← input.seq.positiveInt
  if seq < 1 then none
  let stem ← assetPhotoStemPath runtime input
  return stem ++ Nat.repr seq

/-- The formats a photo may have. -/
def photoExtensions : List String := ["jpg", "png", "webp"]

/-- The path of a photo under the folder of assets. -/
def assetPhotoFilePath (input : AssetPhotoKeyInput) : Option String := do
  if input.ext ∉ photoExtensions then none
  let path ← assetPhotoPath runtime input
  return "assets/" ++ path ++ "." ++ input.ext

/-- The key of a photo. -/
def assetPhotoKey (input : AssetPhotoKeyInput) : Option String := do
  finish (← assetPhotoFilePath runtime input)

/-- The path of the small copy of a photo. -/
def assetPhotoThumbPath (input : AssetPhotoKeyInput) : Option String := do
  let path ← assetPhotoPath runtime input
  return "assets/miniaturas/" ++ path ++ ".webp"

/-- The key of the small copy of a photo, whose own format does not count. -/
def assetPhotoThumbKey (input : AssetPhotoKeyInput) : Option String := do
  finish (← assetPhotoThumbPath runtime input)

/-- The path of a photo not yet given to an asset. -/
def assetPhotoStagedPath (id : String) : Option String := do
  let id ← checked id uuidPattern
  return "assets/_pendientes/" ++ id

/-- The key of a photo not yet given to an asset. -/
def assetPhotoStagedKey (id : String) : Option String := do
  finish (← assetPhotoStagedPath id)

end Builders

/-! ### Requests -/

/-- A call of one of the builders, with any arguments. -/
inductive KeyRequest where
  | documentFile (input : DocumentKeyInput) (extension : DocumentExtension)
      (revision : Option KeyNumber)
  | signedDocument (input : DocumentKeyInput)
  | signaturePreparedPdf (input : SignatureKeyInput) (originalSha256Prefix : Option String)
  | signatureRubric (input : SignatureKeyInput) (order : KeyNumber)
  | signatureStampedPdf (input : SignatureKeyInput) (order : KeyNumber)
  | documentTemplate (input : DocumentTemplateKeyInput)
  | importTemplate (input : ImportTemplateKeyInput)
  | emailImage (id : String) (extension : EmailImageExtension)
  | assetPhoto (input : AssetPhotoKeyInput)
  | assetPhotoThumb (input : AssetPhotoKeyInput)
  | assetPhotoStaged (id : String)

/-- The key the call gives. -/
def KeyRequest.build (runtime : KeyRuntime) : KeyRequest → Option String
  | documentFile input extension revision => documentFileKey runtime input extension revision
  | signedDocument input => signedDocumentKey runtime input
  | signaturePreparedPdf input start => signaturePreparedPdfKey runtime.calendarYear input start
  | signatureRubric input order => do
    signatureRubricKey runtime.calendarYear input (← order.natural)
  | signatureStampedPdf input order => do
    signatureStampedPdfKey runtime.calendarYear input (← order.natural)
  | documentTemplate input => documentTemplateKey runtime input
  | importTemplate input => importTemplateKey runtime input
  | emailImage id extension => emailImageKey id extension
  | assetPhoto input => assetPhotoKey runtime input
  | assetPhotoThumb input => assetPhotoThumbKey runtime input
  | assetPhotoStaged id => assetPhotoStagedKey id

/-- The text the call puts together, before it is checked as a key. -/
def KeyRequest.path (runtime : KeyRuntime) : KeyRequest → Option String
  | documentFile input extension revision => documentFilePath runtime input extension revision
  | signedDocument input => signedDocumentPath runtime input
  | signaturePreparedPdf input start => do
    let suffix ← preparedSuffix start
    let folder ← signatureFolder runtime.calendarYear input
    return folder ++ "/" ++ (SignatureFile.prepared suffix).name
  | signatureRubric input order => do
    let value ← order.natural
    let folder ← signatureFolder runtime.calendarYear input
    let order ← positiveInt value
    return folder ++ "/" ++ (SignatureFile.rubric order).name
  | signatureStampedPdf input order => do
    let value ← order.natural
    let folder ← signatureFolder runtime.calendarYear input
    let order ← positiveInt value
    return folder ++ "/" ++ (SignatureFile.stamped order).name
  | documentTemplate input => documentTemplatePath runtime input
  | importTemplate input => importTemplatePath runtime input
  | emailImage id extension => emailImagePath id extension
  | assetPhoto input => assetPhotoFilePath runtime input
  | assetPhotoThumb input => assetPhotoThumbPath runtime input
  | assetPhotoStaged id => assetPhotoStagedPath id

/-- The folders of a kind of key. -/
def KeyRequest.folders : KeyRequest → List String
  | documentFile .. | signedDocument .. => ["documents"]
  | signaturePreparedPdf .. | signatureRubric .. | signatureStampedPdf .. => ["signatures"]
  | documentTemplate .. => ["templates", "documents"]
  | importTemplate .. => ["templates", "imports"]
  | emailImage .. => ["images", "email"]
  | assetPhoto .. => ["assets"]
  | assetPhotoThumb .. => ["assets", "miniaturas"]
  | assetPhotoStaged .. => ["assets", "_pendientes"]

/-- The folders of a kind of key as the start of a key. -/
def KeyRequest.kindPrefix (request : KeyRequest) : String := "/".intercalate request.folders ++ "/"

/-- A call gives the text it puts together, unless the check refuses it. -/
theorem KeyRequest.build_eq (runtime : KeyRuntime) (request : KeyRequest) :
    request.build runtime = request.path runtime >>= finish := by
  cases request with
  | signaturePreparedPdf input start =>
    simp [build, path, signaturePreparedPdfKey, Option.bind_assoc]
  | signatureRubric input order =>
    simp [build, path, signatureRubricKey, Option.bind_assoc]
  | signatureStampedPdf input order =>
    simp [build, path, signatureStampedPdfKey, Option.bind_assoc]
  | _ => rfl

/-! ### Paths of segments -/

/-- A segment of at most so many characters. -/
def ShortSegment (bound : ℕ) (text : String) : Prop :=
  Segment text ∧ text.toList.length ≤ bound

/-- Characters that a segment goes on with, at most so many. -/
def ShortTail (bound : ℕ) (text : String) : Prop :=
  (∀ c ∈ text.toList, segmentChar c = true) ∧ text.toList.length ≤ bound

/-- A key of a few segments, none of them long, in the folders given. -/
def SegmentedUnder (folders : List String) (key : String) : Prop :=
  ∃ rest, rest ≠ [] ∧ key = "/".intercalate (folders ++ rest) ∧ (folders ++ rest).length ≤ 5 ∧
    ∀ segment ∈ rest, ShortSegment 200 segment

section Paths

variable {m n : ℕ} {text other key value result : String} {c : Char}

theorem ShortSegment.mono (h : ShortSegment m text) (hle : m ≤ n) : ShortSegment n text :=
  ⟨h.1, h.2.trans hle⟩

theorem ShortSegment.tail (h : ShortSegment n text) : ShortTail n text := ⟨h.1.chars, h.2⟩

theorem ShortSegment.append (h : ShortSegment m text) (hother : ShortTail n other) :
    ShortSegment (m + n) (text ++ other) := by
  refine ⟨h.1.append hother.1, ?_⟩
  rw [String.toList_append, List.length_append]
  exact Nat.add_le_add h.2 hother.2

theorem ShortTail.append (h : ShortTail m text) (hother : ShortTail n other) :
    ShortTail (m + n) (text ++ other) := by
  constructor
  · intro c hc
    rw [String.toList_append] at hc
    exact (List.mem_append.mp hc).elim (h.1 c) (hother.1 c)
  · rw [String.toList_append, List.length_append]
    exact Nat.add_le_add h.2 hother.2

/-- A text with characters, none of them a point, is a segment. -/
theorem shortSegment_of_plain (hne : text.toList ≠ [])
    (hchars : ∀ c ∈ text.toList, segmentChar c = true ∧ c ≠ '.')
    (hlength : text.toList.length ≤ n) : ShortSegment n text := by
  refine ⟨⟨fun c hc => (hchars c hc).1, ?_⟩, hlength⟩
  cases hlist : text.toList with
  | nil => exact absurd hlist hne
  | cons c rest =>
    rw [hlist] at hchars
    exact ⟨c, rest, rfl, (hchars c List.mem_cons_self).2⟩

/-- A fixed text, by the check of its characters. -/
theorem shortTail_of_all (hchars : text.toList.all segmentChar = true)
    (hlength : text.toList.length ≤ n) : ShortTail n text :=
  ⟨List.all_eq_true.mp hchars, hlength⟩

theorem shortSegment_of_all (hne : text.toList ≠ [])
    (hchars : (text.toList.all fun c => segmentChar c && c != '.') = true)
    (hlength : text.toList.length ≤ n) : ShortSegment n text := by
  refine shortSegment_of_plain hne (fun c hc => ?_) hlength
  have hplain := List.all_eq_true.mp hchars c hc
  rwa [Bool.and_eq_true, bne_iff_ne] at hplain

theorem plain_of_isAlphanum (hc : c.isAlphanum = true) : segmentChar c = true ∧ c ≠ '.' :=
  ⟨segmentChar_of_isAlphanum hc, ne_point_of_isAlphanum hc⟩

theorem plain_of_isDigit (hc : c.isDigit = true) : segmentChar c = true ∧ c ≠ '.' :=
  plain_of_isAlphanum (by rw [Char.isAlphanum, hc, Bool.or_true])

theorem plain_of_hexChar (hc : hexChar c = true) : segmentChar c = true ∧ c ≠ '.' :=
  plain_of_isAlphanum (isAlphanum_of_hexChar hc)

theorem plain_dash : segmentChar '-' = true ∧ '-' ≠ '.' := by decide

/-- The decimal digits of a number that may stand in a key. -/
theorem shortTail_repr {number : ℕ} (h : number ≤ 9007199254740991) :
    ShortTail 16 (Nat.repr number) := by
  constructor
  · intro c hc
    rw [Nat.toList_repr] at hc
    exact (plain_of_isDigit (Nat.isDigit_of_mem_toDigits (by decide) (by decide) hc)).1
  · rw [Nat.toList_repr]
    exact (Nat.length_toDigits_le_iff (by decide) (by decide)).mpr (by omega)

theorem KeyNumber.positiveInt_spec {number : KeyNumber} {value : ℕ}
    (h : number.positiveInt = some value) : ShortTail 16 (Nat.repr value) := by
  obtain ⟨natural, -, hvalue⟩ := Option.bind_eq_some_iff.mp h
  unfold StorageKeys.positiveInt at hvalue
  split_ifs at hvalue with hsafe
  exact Option.some.inj hvalue ▸ shortTail_repr hsafe

/-- A pattern of characters that names its dashes by their places. -/
theorem plain_of_zipIdx {places : List ℕ} {valid : Char → Bool} {chars : List Char}
    (hvalid : ∀ c, valid c = true → segmentChar c = true ∧ c ≠ '.')
    (hall : (chars.zipIdx.all fun (c, i) => if i ∈ places then c = '-' else valid c) = true) :
    ∀ c ∈ chars, segmentChar c = true ∧ c ≠ '.' := by
  intro c hc
  obtain ⟨i, hi⟩ := List.mem_iff_getElem?.mp hc
  have hplace := List.all_eq_true.mp hall (c, i) (List.mk_mem_zipIdx_iff_getElem?.mpr hi)
  by_cases hdash : i ∈ places
  · simp only [if_pos hdash, decide_eq_true_eq] at hplace
    rw [hplace]
    exact plain_dash
  · simp only [if_neg hdash] at hplace
    exact hvalid c hplace

theorem shortSegment_uuid (h : checked value uuidPattern = some result) :
    ShortSegment 36 result := by
  obtain ⟨rfl, hpattern⟩ := checked_eq_some h
  rw [uuidPattern, Bool.and_eq_true, decide_eq_true_eq] at hpattern
  refine shortSegment_of_plain ?_ (plain_of_zipIdx (fun c => plain_of_hexChar) hpattern.2)
    hpattern.1.le
  exact List.ne_nil_of_length_pos (by omega)

theorem shortSegment_isoDate (h : checked value isoDatePattern = some result) :
    ShortSegment 10 result := by
  obtain ⟨rfl, hpattern⟩ := checked_eq_some h
  rw [isoDatePattern, Bool.and_eq_true, decide_eq_true_eq] at hpattern
  refine shortSegment_of_plain ?_ (plain_of_zipIdx (fun c => plain_of_isDigit) hpattern.2)
    hpattern.1.le
  exact List.ne_nil_of_length_pos (by omega)

theorem shortSegment_year (h : checked value yearPattern = some result) :
    ShortSegment 4 result := by
  obtain ⟨rfl, hpattern⟩ := checked_eq_some h
  rw [yearPattern, Bool.and_eq_true, decide_eq_true_eq, List.all_eq_true] at hpattern
  refine shortSegment_of_plain ?_ (fun c hc => plain_of_isDigit (hpattern.2 c hc)) hpattern.1.le
  exact List.ne_nil_of_length_pos (by omega)

theorem shortSegment_verificationCode (h : checked value verificationCodePattern = some result) :
    ShortSegment 64 result := by
  obtain ⟨rfl, hpattern⟩ := checked_eq_some h
  rw [verificationCodePattern, Bool.and_eq_true, Bool.and_eq_true, decide_eq_true_eq,
    decide_eq_true_eq, List.all_eq_true] at hpattern
  obtain ⟨⟨hleast, hmost⟩, hchars⟩ := hpattern
  refine shortSegment_of_plain (List.ne_nil_of_length_pos (by omega)) (fun c hc => ?_) hmost
  have hchar := hchars c hc
  rw [Bool.or_eq_true, Bool.or_eq_true, decide_eq_true_eq, decide_eq_true_eq] at hchar
  rcases hchar with (halphanum | rfl) | rfl
  · exact plain_of_isAlphanum halphanum
  · decide
  · decide

/-- The start of a hexadecimal text. -/
theorem shortSegment_hexStart {length : ℕ} (hpos : 0 < length)
    (h : checked value hexPattern = some result) : ShortSegment length (sliceTo result length) := by
  obtain ⟨rfl, hpattern⟩ := checked_eq_some h
  rw [hexPattern, Bool.and_eq_true, Bool.not_eq_true', List.isEmpty_eq_false_iff,
    List.all_eq_true] at hpattern
  have hlist : (sliceTo result length).toList = result.toList.take length := String.toList_ofList
  refine shortSegment_of_plain ?_ (fun c hc => ?_) ?_
  · rw [hlist, Ne, List.take_eq_nil_iff]
    rintro (hzero | hnil)
    · omega
    · exact hpattern.1 hnil
  · exact plain_of_hexChar (hpattern.2 c (List.mem_of_mem_take (hlist ▸ hc)))
  · rw [hlist]
    exact List.length_take_le length _

theorem shortTail_templateVersion (h : checked value templateVersionPattern = some result) :
    ShortTail 20 result := by
  obtain ⟨rfl, hpattern⟩ := checked_eq_some h
  rw [templateVersionPattern, Bool.and_eq_true, Bool.and_eq_true, decide_eq_true_eq,
    decide_eq_true_eq, List.all_eq_true] at hpattern
  exact ⟨hpattern.2, hpattern.1.2⟩

theorem shortSegment_safe (h : checked value safeSegmentPattern = some result) :
    ShortSegment 120 result := by
  obtain ⟨rfl, hpattern⟩ := checked_eq_some h
  rw [safeSegmentPattern, Bool.and_eq_true, Bool.and_eq_true, decide_eq_true_eq,
    List.all_eq_true] at hpattern
  obtain ⟨⟨hlength, hfirst⟩, hchars⟩ := hpattern
  refine ⟨⟨hchars, ?_⟩, hlength⟩
  cases hlist : result.toList with
  | nil =>
    rw [hlist] at hfirst
    cases hfirst
  | cons c rest =>
    rw [hlist] at hfirst
    exact ⟨c, rest, rfl, ne_point_of_isAlphanum hfirst⟩

theorem shortSegment_safeKeySegment (runtime : KeyRuntime) (raw : Units) :
    ShortSegment 120 (safeKeySegment runtime raw) := safeKeySegment_spec runtime raw

end Paths

/-! ### Every path is made of segments -/

section Requests

variable {runtime : KeyRuntime} {key : String}

theorem revisionSuffix_spec {revision : Option KeyNumber} {suffix : String}
    (h : revisionSuffix revision = some suffix) : ShortTail 18 suffix := by
  cases revision with
  | none => exact Option.some.inj h ▸ shortTail_of_all (by decide) (by decide)
  | some revision =>
    obtain ⟨number, hnumber, rfl⟩ := Option.map_eq_some_iff.mp h
    have hmark : ShortTail 2 "-r" := shortTail_of_all (by decide) (by decide)
    exact hmark.append (KeyNumber.positiveInt_spec hnumber)

theorem documentFilePath_spec {input : DocumentKeyInput} {extension : DocumentExtension}
    {revision : Option KeyNumber}
    (h : documentFilePath runtime input extension revision = some key) :
    SegmentedUnder ["documents"] key := by
  simp only [documentFilePath, Option.bind_eq_bind, Option.bind_eq_some_iff] at h
  obtain ⟨suffix, hsuffix, year, hyear, hkey⟩ := h
  have hformat := shortSegment_safeKeySegment runtime input.formatKey
  have hpoint : ShortTail 1 "." := shortTail_of_all (by decide) (by decide)
  have hextension : ShortTail 4 extension.text := by
    cases extension with
    | docx => exact shortTail_of_all (by decide) (by decide)
    | pdf => exact shortTail_of_all (by decide) (by decide)
  have hname := (((shortSegment_safeKeySegment runtime input.number).append
    (revisionSuffix_spec hsuffix)).append hpoint).append hextension
  refine ⟨[year, safeKeySegment runtime input.formatKey,
    safeKeySegment runtime input.number ++ suffix ++ "." ++ extension.text], by simp, ?_, by simp, ?_⟩
  · rw [← Option.some.inj hkey]
    simp [String.append_assoc]
  · simp only [List.forall_mem_cons]
    exact ⟨(shortSegment_year hyear).mono (by decide), hformat.mono (by decide),
      hname.mono (by decide), nofun⟩

theorem signedDocumentPath_spec {input : DocumentKeyInput}
    (h : signedDocumentPath runtime input = some key) : SegmentedUnder ["documents"] key := by
  simp only [signedDocumentPath, Option.bind_eq_bind, Option.bind_eq_some_iff] at h
  obtain ⟨year, hyear, hkey⟩ := h
  have hformat := shortSegment_safeKeySegment runtime input.formatKey
  have hsigned : ShortTail 12 "-firmado.pdf" := shortTail_of_all (by decide) (by decide)
  have hname := (shortSegment_safeKeySegment runtime input.number).append hsigned
  refine ⟨[year, safeKeySegment runtime input.formatKey,
    safeKeySegment runtime input.number ++ "-firmado.pdf"], by simp, ?_, by simp, ?_⟩
  · rw [← Option.some.inj hkey]
    simp [String.append_assoc]
  · simp only [List.forall_mem_cons]
    exact ⟨(shortSegment_year hyear).mono (by decide), hformat.mono (by decide),
      hname.mono (by decide), nofun⟩

/-- A file of the folder of an envelope. -/
theorem segmentedUnder_of_folder {calendarYear : Instant → String} {input : SignatureKeyInput}
    {folder name : String} (hfolder : signatureFolder calendarYear input = some folder)
    (hname : ShortSegment 200 name) : SegmentedUnder ["signatures"] (folder ++ "/" ++ name) := by
  simp only [signatureFolder, Option.bind_eq_bind, Option.bind_eq_some_iff] at hfolder
  obtain ⟨year, hyear, documentId, hdocument, code, hcode, hfolder⟩ := hfolder
  refine ⟨[year, documentId, code, name], by simp, ?_, by simp, ?_⟩
  · rw [← Option.some.inj hfolder]
    simp [String.append_assoc]
  · simp only [List.forall_mem_cons]
    exact ⟨(shortSegment_year hyear).mono (by decide), (shortSegment_uuid hdocument).mono (by decide),
      (shortSegment_verificationCode hcode).mono (by decide), hname, List.forall_mem_nil _⟩

theorem shortSegment_preparedName {start : Option String} {suffix : String}
    (h : preparedSuffix start = some suffix) :
    ShortSegment 200 (SignatureFile.prepared suffix).name := by
  have hversion : ShortSegment 2 "v0" := shortSegment_of_all (by decide) (by decide) (by decide)
  have hpdf : ShortTail 4 ".pdf" := shortTail_of_all (by decide) (by decide)
  have hsuffix : ShortTail 13 suffix := by
    cases start with
    | none => exact Option.some.inj h ▸ shortTail_of_all (by decide) (by decide)
    | some start =>
      obtain ⟨value, hvalue, rfl⟩ := Option.map_eq_some_iff.mp h
      have hdash : ShortTail 1 "-" := shortTail_of_all (by decide) (by decide)
      exact hdash.append (shortSegment_hexStart (by decide) hvalue).tail
  exact ((hversion.append hsuffix).append hpdf).mono (by decide)

/-- The names with the order of a signer. -/
theorem shortSegment_orderName {value order : ℕ} (h : positiveInt value = some order) :
    ShortSegment 200 (SignatureFile.rubric order).name ∧
      ShortSegment 200 (SignatureFile.stamped order).name := by
  unfold positiveInt at h
  split_ifs at h with hsafe
  have hdigits := Option.some.inj h ▸ shortTail_repr hsafe
  have hrubric : ShortSegment 8 "rubrica-" :=
    shortSegment_of_all (by decide) (by decide) (by decide)
  have hversion : ShortSegment 1 "v" := shortSegment_of_all (by decide) (by decide) (by decide)
  have hpng : ShortTail 4 ".png" := shortTail_of_all (by decide) (by decide)
  have hpdf : ShortTail 4 ".pdf" := shortTail_of_all (by decide) (by decide)
  exact ⟨((hrubric.append hdigits).append hpng).mono (by decide),
    ((hversion.append hdigits).append hpdf).mono (by decide)⟩

theorem documentTemplatePath_spec {input : DocumentTemplateKeyInput}
    (h : documentTemplatePath runtime input = some key) :
    SegmentedUnder ["templates", "documents"] key := by
  simp only [documentTemplatePath, Option.bind_eq_bind, Option.bind_eq_some_iff] at h
  obtain ⟨date, hdate, version, hversion, id, hid, hkey⟩ := h
  have hformat := shortSegment_safeKeySegment runtime input.formatKey
  have hmark : ShortSegment 1 "v" := shortSegment_of_all (by decide) (by decide) (by decide)
  have hdash : ShortTail 1 "-" := shortTail_of_all (by decide) (by decide)
  have hdocx : ShortTail 5 ".docx" := shortTail_of_all (by decide) (by decide)
  have hrest := (((hmark.append (shortTail_templateVersion hversion)).append hdash).append
    (shortSegment_uuid hid).tail).append hdocx
  have hname : ShortSegment 200 (date ++ "v" ++ version ++ "-" ++ id ++ ".docx") := by
    cases heffective : input.effectiveDate with
    | none =>
      rw [heffective] at hdate
      rw [← Option.some.inj hdate, String.empty_append]
      exact hrest.mono (by decide)
    | some effectiveDate =>
      rw [heffective] at hdate
      obtain ⟨checkedDate, hchecked, rfl⟩ := Option.map_eq_some_iff.mp hdate
      have hwhole := ((shortSegment_isoDate hchecked).append hdash).append hrest.tail
      simp only [String.append_assoc] at hwhole ⊢
      exact hwhole.mono (by decide)
  refine ⟨[safeKeySegment runtime input.formatKey, date ++ "v" ++ version ++ "-" ++ id ++ ".docx"],
    by simp, ?_, by simp, ?_⟩
  · rw [← Option.some.inj hkey, ← String.toList_inj]
    simp
  · simp only [List.forall_mem_cons]
    exact ⟨hformat.mono (by decide), hname, nofun⟩

theorem importTemplatePath_spec {input : ImportTemplateKeyInput}
    (h : importTemplatePath runtime input = some key) :
    SegmentedUnder ["templates", "imports"] key := by
  simp only [importTemplatePath, Option.bind_eq_bind, Option.bind_eq_some_iff] at h
  obtain ⟨version, hversion, contentHash, hhash, hkey⟩ := h
  have htarget := shortSegment_safeKeySegment runtime input.target
  have hxlsx : ShortTail 5 ".xlsx" := shortTail_of_all (by decide) (by decide)
  have hstart : ShortSegment 16 (sliceTo contentHash 16) := shortSegment_hexStart (by decide) hhash
  refine ⟨[safeKeySegment runtime input.target, version, sliceTo contentHash 16 ++ ".xlsx"],
    by simp, ?_, by simp, ?_⟩
  · rw [← Option.some.inj hkey, ← String.toList_inj]
    simp
  · simp only [List.forall_mem_cons]
    exact ⟨htarget.mono (by decide), (shortSegment_safe hversion).mono (by decide),
      (hstart.append hxlsx).mono (by decide), nofun⟩

theorem emailImagePath_spec {id : String} {extension : EmailImageExtension}
    (h : emailImagePath id extension = some key) : SegmentedUnder ["images", "email"] key := by
  simp only [emailImagePath, Option.bind_eq_bind, Option.bind_eq_some_iff] at h
  obtain ⟨id, hid, hkey⟩ := h
  have hpoint : ShortTail 1 "." := shortTail_of_all (by decide) (by decide)
  have hextension : ShortTail 3 extension.text := by
    cases extension with
    | png => exact shortTail_of_all (by decide) (by decide)
    | jpg => exact shortTail_of_all (by decide) (by decide)
  have hname := ((shortSegment_uuid hid).append hpoint).append hextension
  refine ⟨[id ++ "." ++ extension.text], by simp, ?_, by simp, ?_⟩
  · rw [← Option.some.inj hkey, ← String.toList_inj]
    simp
  · simp only [List.forall_mem_cons]
    exact ⟨hname.mono (by decide), nofun⟩

/-- The path of a photo is its year, its center and its name. -/
theorem assetPhotoPath_spec {input : AssetPhotoKeyInput} {path : String}
    (h : assetPhotoPath runtime input = some path) :
    ∃ year center name, path = year ++ "/" ++ center ++ "/" ++ name ∧ ShortSegment 200 year ∧
      ShortSegment 200 center ∧ ShortSegment 148 name := by
  simp only [assetPhotoPath, assetPhotoStemPath, Option.bind_eq_bind, Option.bind_eq_some_iff] at h
  obtain ⟨seq, hseq, hpath⟩ := h
  split at hpath
  · cases hpath
  simp only [Option.bind_eq_some_iff] at hpath
  obtain ⟨stem, ⟨year, hyear, date, hdate, hstem⟩, hpath⟩ := hpath
  have hcenter := shortSegment_safeKeySegment runtime input.costCenterCode
  have hunderscore : ShortTail 1 "_" := shortTail_of_all (by decide) (by decide)
  have hname := ((((shortSegment_safeKeySegment runtime input.assetCode).append
    hunderscore).append (shortSegment_isoDate hdate).tail).append hunderscore).append
    (KeyNumber.positiveInt_spec hseq)
  refine ⟨year, safeKeySegment runtime input.costCenterCode,
    safeKeySegment runtime input.assetCode ++ "_" ++ date ++ "_" ++ Nat.repr seq, ?_,
    (shortSegment_year hyear).mono (by decide), hcenter.mono (by decide), hname⟩
  rw [← Option.some.inj hpath, ← Option.some.inj hstem]
  simp [String.append_assoc]

theorem assetPhotoFilePath_spec {input : AssetPhotoKeyInput}
    (h : assetPhotoFilePath runtime input = some key) : SegmentedUnder ["assets"] key := by
  simp only [assetPhotoFilePath, Option.bind_eq_bind] at h
  split at h
  · cases h
  next hext =>
  simp only [Option.bind_eq_some_iff] at h
  obtain ⟨path, hpath, hkey⟩ := h
  obtain ⟨year, center, name, rfl, hyear, hcenter, hname⟩ := assetPhotoPath_spec hpath
  have hpoint : ShortTail 1 "." := shortTail_of_all (by decide) (by decide)
  have hextension : ShortTail 4 input.ext := by
    have hall : ∀ ext ∈ photoExtensions, ShortTail 4 ext := by
      simp only [photoExtensions, List.forall_mem_cons]
      exact ⟨shortTail_of_all (by decide) (by decide), shortTail_of_all (by decide) (by decide),
        shortTail_of_all (by decide) (by decide), nofun⟩
    exact hall _ (not_not.mp hext)
  refine ⟨[year, center, name ++ "." ++ input.ext], by simp, ?_, by simp, ?_⟩
  · rw [← Option.some.inj hkey, ← String.toList_inj]
    simp
  · simp only [List.forall_mem_cons]
    exact ⟨hyear, hcenter, ((hname.append hpoint).append hextension).mono (by decide), nofun⟩

theorem assetPhotoThumbPath_spec {input : AssetPhotoKeyInput}
    (h : assetPhotoThumbPath runtime input = some key) :
    SegmentedUnder ["assets", "miniaturas"] key := by
  simp only [assetPhotoThumbPath, Option.bind_eq_bind, Option.bind_eq_some_iff] at h
  obtain ⟨path, hpath, hkey⟩ := h
  obtain ⟨year, center, name, rfl, hyear, hcenter, hname⟩ := assetPhotoPath_spec hpath
  have hwebp : ShortTail 5 ".webp" := shortTail_of_all (by decide) (by decide)
  refine ⟨[year, center, name ++ ".webp"], by simp, ?_, by simp, ?_⟩
  · rw [← Option.some.inj hkey, ← String.toList_inj]
    simp
  · simp only [List.forall_mem_cons]
    exact ⟨hyear, hcenter, (hname.append hwebp).mono (by decide), nofun⟩

theorem assetPhotoStagedPath_spec {id : String} (h : assetPhotoStagedPath id = some key) :
    SegmentedUnder ["assets", "_pendientes"] key := by
  simp only [assetPhotoStagedPath, Option.bind_eq_bind, Option.bind_eq_some_iff] at h
  obtain ⟨id, hid, hkey⟩ := h
  refine ⟨[id], by simp, ?_, by simp, ?_⟩
  · rw [← Option.some.inj hkey, ← String.toList_inj]
    simp
  · simp only [List.forall_mem_cons]
    exact ⟨(shortSegment_uuid hid).mono (by decide), nofun⟩

/-- The text a call puts together is made of segments under the folders of its kind. -/
theorem KeyRequest.path_spec {request : KeyRequest} (h : request.path runtime = some key) :
    SegmentedUnder request.folders key := by
  cases request with
  | documentFile input extension revision => exact documentFilePath_spec h
  | signedDocument input => exact signedDocumentPath_spec h
  | signaturePreparedPdf input start =>
    simp only [path, Option.bind_eq_bind, Option.bind_eq_some_iff] at h
    obtain ⟨suffix, hsuffix, folder, hfolder, hkey⟩ := h
    exact Option.some.inj hkey ▸ segmentedUnder_of_folder hfolder (shortSegment_preparedName hsuffix)
  | signatureRubric input order =>
    simp only [path, Option.bind_eq_bind, Option.bind_eq_some_iff] at h
    obtain ⟨value, -, folder, hfolder, order, horder, hkey⟩ := h
    exact Option.some.inj hkey ▸ segmentedUnder_of_folder hfolder (shortSegment_orderName horder).1
  | signatureStampedPdf input order =>
    simp only [path, Option.bind_eq_bind, Option.bind_eq_some_iff] at h
    obtain ⟨value, -, folder, hfolder, order, horder, hkey⟩ := h
    exact Option.some.inj hkey ▸ segmentedUnder_of_folder hfolder (shortSegment_orderName horder).2
  | documentTemplate input => exact documentTemplatePath_spec h
  | importTemplate input => exact importTemplatePath_spec h
  | emailImage id extension => exact emailImagePath_spec h
  | assetPhoto input => exact assetPhotoFilePath_spec h
  | assetPhotoThumb input => exact assetPhotoThumbPath_spec h
  | assetPhotoStaged id => exact assetPhotoStagedPath_spec h

theorem KeyRequest.shortSegment_folders (request : KeyRequest) :
    request.folders ≠ [] ∧ ∀ folder ∈ request.folders, ShortSegment 200 folder := by
  have hplain : request.folders ≠ [] ∧ ∀ folder ∈ request.folders, folder.toList ≠ [] ∧
      (folder.toList.all fun c => segmentChar c && c != '.') = true ∧
        folder.toList.length ≤ 200 := by
    cases request <;> simp only [folders] <;> decide
  refine ⟨hplain.1, fun folder hfolder => ?_⟩
  obtain ⟨hne, hchars, hlength⟩ := hplain.2 folder hfolder
  exact shortSegment_of_all hne hchars hlength

end Requests

/-! ### Paths of segments are safe -/

section Safety

variable {segments folders : List String} {key : String}

theorem toNat_of_segmentChar {c : Char} (hc : segmentChar c = true) :
    0x1f < c.toNat ∧ c.toNat < 0x7f := by
  rw [segmentChar, Bool.or_eq_true, Bool.or_eq_true, Bool.or_eq_true, beq_iff_eq, beq_iff_eq,
    beq_iff_eq] at hc
  rcases hc with ((halphanum | rfl) | rfl) | rfl
  · simp only [Char.isAlphanum, Char.isAlpha, Char.isUpper, Char.isLower, Char.isDigit,
      Bool.or_eq_true, Bool.and_eq_true, decide_eq_true_eq, UInt32.le_iff_toNat_le, ge_iff_le]
      at halphanum
    change (((65 ≤ c.toNat ∧ c.toNat ≤ 90) ∨ (97 ≤ c.toNat ∧ c.toNat ≤ 122)) ∨
      (48 ≤ c.toNat ∧ c.toNat ≤ 57)) at halphanum
    omega
  · decide
  · decide
  · decide

/-- The characters of joined segments are theirs or slashes between them. -/
theorem mem_intercalate {lists : List (List Char)} {c : Char}
    (hc : c ∈ ['/'].intercalate lists) : c = '/' ∨ ∃ chars ∈ lists, c ∈ chars := by
  induction lists with
  | nil => cases hc
  | cons first rest ih =>
    cases rest with
    | nil => exact .inr ⟨first, List.mem_cons_self, by simpa using hc⟩
    | cons second rest =>
      rw [List.intercalate_cons_cons, List.append_assoc, List.mem_append] at hc
      rcases hc with hc | hc
      · exact .inr ⟨first, List.mem_cons_self, hc⟩
      · rcases List.mem_cons.mp hc with rfl | hc
        · exact .inl rfl
        · rcases ih hc with rfl | ⟨chars, hchars, hc⟩
          · exact .inl rfl
          · exact .inr ⟨chars, List.mem_cons_of_mem _ hchars, hc⟩

/-- Each segment brings its characters and at most one slash. -/
theorem length_intercalate_le {lists : List (List Char)} {bound : ℕ}
    (h : ∀ chars ∈ lists, chars.length ≤ bound) :
    (['/'].intercalate lists).length ≤ lists.length * (bound + 1) := by
  induction lists with
  | nil => exact Nat.zero_le _
  | cons first rest ih =>
    have hfirst := h first List.mem_cons_self
    have hrest := ih fun chars hchars => h chars (List.mem_cons_of_mem _ hchars)
    have hcount : (first :: rest).length * (bound + 1) = rest.length * (bound + 1) + (bound + 1) :=
      Nat.succ_mul rest.length (bound + 1)
    cases rest with
    | nil =>
      rw [List.intercalate_singleton, hcount]
      omega
    | cons second rest =>
      rw [List.intercalate_cons_cons, hcount, List.length_append, List.length_append]
      change first.length + 1 + _ ≤ _
      omega

/-- A path starts as its first segment does. -/
theorem exists_first_intercalate (hne : segments ≠ [])
    (hsegments : ∀ segment ∈ segments, Segment segment) :
    ∃ c more, ("/".intercalate segments).toList = c :: more ∧ segmentChar c = true := by
  obtain ⟨first, rest, rfl⟩ := List.exists_cons_of_ne_nil hne
  have hfirst := hsegments first List.mem_cons_self
  obtain ⟨c, tail, hlist, -⟩ := hfirst.first
  have hc : segmentChar c = true := hfirst.chars c (hlist ▸ List.mem_cons_self)
  cases rest with
  | nil => exact ⟨c, tail, by rw [String.intercalate_singleton, hlist], hc⟩
  | cons second rest =>
    refine ⟨c, tail ++ "/".toList ++ ("/".intercalate (second :: rest)).toList, ?_, hc⟩
    rw [String.intercalate_cons_of_ne_nil (List.cons_ne_nil second rest), String.toList_append,
      String.toList_append, hlist, List.cons_append, List.cons_append]

/-- A path of segments passes the check of keys. -/
theorem assertSafeStorageKey_intercalate (hne : segments ≠ []) (hcount : segments.length ≤ 5)
    (hsegments : ∀ segment ∈ segments, ShortSegment 200 segment) :
    assertSafeStorageKey ("/".intercalate segments) = true := by
  have hlist : ("/".intercalate segments).toList = ['/'].intercalate (segments.map String.toList) :=
    String.toList_intercalate
  have hchars : ∀ c ∈ ("/".intercalate segments).toList, c = '/' ∨ segmentChar c = true := by
    intro c hc
    rw [hlist] at hc
    rcases mem_intercalate hc with rfl | ⟨chars, hmem, hc⟩
    · exact .inl rfl
    · obtain ⟨segment, hsegment, rfl⟩ := List.mem_map.mp hmem
      exact .inr ((hsegments segment hsegment).1.chars c hc)
  have hlength : ("/".intercalate segments).toList.length ≤ maxStorageKeyLength := by
    have hshort : ∀ chars ∈ segments.map String.toList, chars.length ≤ 200 := by
      intro chars hmem
      obtain ⟨segment, hsegment, rfl⟩ := List.mem_map.mp hmem
      exact (hsegments segment hsegment).2
    have hbound := length_intercalate_le hshort
    rw [List.length_map] at hbound
    rw [hlist, maxStorageKeyLength]
    omega
  have hsplit : ("/".intercalate segments).toList.splitOn '/' = segments.map String.toList := by
    rw [hlist]
    refine List.splitOn_intercalate '/' (fun chars hmem => ?_) (by simpa using hne)
    obtain ⟨segment, hsegment, rfl⟩ := List.mem_map.mp hmem
    exact (hsegments segment hsegment).1.notMem (by decide)
  have hpieces : ∀ chars ∈ segments.map String.toList, chars ∉ [[], ['.'], ['.', '.']] := by
    intro chars hmem hbad
    obtain ⟨segment, hsegment, rfl⟩ := List.mem_map.mp hmem
    obtain ⟨c, rest, hstart, hpoint⟩ := (hsegments segment hsegment).1.first
    rw [hstart] at hbad
    simp only [List.mem_cons, List.not_mem_nil, or_false, List.cons.injEq] at hbad
    rcases hbad with h | ⟨rfl, -⟩ | ⟨rfl, -⟩
    · cases h
    · exact hpoint rfl
    · exact hpoint rfl
  have hsingle : ∀ c ∈ ("/".intercalate segments).toList, c.toNat < 0x10000 := by
    intro c hc
    rcases hchars c hc with rfl | hc
    · decide
    · have hsmall := toNat_of_segmentChar hc
      omega
  have hplain : ("/".intercalate segments).toList.any forbiddenChar = false := by
    rw [List.any_eq_false]
    intro c hc hbad
    rw [forbiddenChar, Bool.or_eq_true, Bool.or_eq_true, decide_eq_true_eq, decide_eq_true_eq,
      decide_eq_true_eq] at hbad
    rcases hchars c hc with rfl | hc
    · exact absurd hbad (by decide)
    · have hsmall := toNat_of_segmentChar hc
      rcases hbad with (hlow | hdelete) | rfl
      · omega
      · omega
      · cases hc
  obtain ⟨c, more, hstart, hc⟩ : ∃ c more, ("/".intercalate segments).toList = c :: more ∧
      segmentChar c = true := exists_first_intercalate hne fun segment h => (hsegments segment h).1
  have hslash : startsWith ("/".intercalate segments) "/" = false := by
    rw [startsWith, hstart]
    cases hstarts : "/".toList.isPrefixOf (c :: more) with
    | false => rfl
    | true =>
      have hsame := (List.cons_prefix_cons.mp (List.isPrefixOf_iff_prefix.mp hstarts)).1
      rw [← hsame] at hc
      cases hc
  have hdrive : driveLetter ("/".intercalate segments) = false := by
    rw [driveLetter]
    split
    · next hcolon =>
      rcases hchars ':' (by rw [hcolon]; simp) with h | h
      · cases h
      · cases h
    · rfl
  have hne_empty : "/".intercalate segments ≠ "" := by
    intro hempty
    rw [hempty] at hstart
    cases hstart
  rw [assertSafeStorageKey, utf16Length_of_single hsingle, hplain, hslash, hdrive, hsplit,
    decide_eq_true hlength, decide_eq_true hne_empty, List.all_eq_true.mpr]
  · rfl
  · exact fun chars hmem => decide_eq_true (hpieces chars hmem)

/-- A key of segments passes the check of keys and is in its folders. -/
theorem SegmentedUnder.safe (hne : folders ≠ [])
    (hfolders : ∀ folder ∈ folders, ShortSegment 200 folder) (h : SegmentedUnder folders key) :
    assertSafeStorageKey key = true ∧ startsWith key ("/".intercalate folders ++ "/") = true := by
  obtain ⟨rest, hrest, rfl, hcount, hsegments⟩ := h
  constructor
  · refine assertSafeStorageKey_intercalate (List.append_ne_nil_of_left_ne_nil hne rest) hcount ?_
    intro segment hmem
    exact (List.mem_append.mp hmem).elim (hfolders segment) (hsegments segment)
  · rw [startsWith_iff, String.intercalate_append_of_ne_nil hne hrest]
    simp only [String.toList_append]
    exact List.prefix_append _ _

end Safety

/-- Every value becomes one segment that names neither its folder nor the one above, and every
text a builder puts together passes the check and stays in the folders of its kind, so the
check never refuses a key once its parts are accepted. -/
theorem built_keys_are_safe (runtime : KeyRuntime) :
    (∀ raw, safeKeySegment runtime raw ∉ ["", ".", ".."] ∧
      '/' ∉ (safeKeySegment runtime raw).toList ∧ '\\' ∉ (safeKeySegment runtime raw).toList) ∧
    (∀ (request : KeyRequest) (key : String), request.path runtime = some key →
      assertSafeStorageKey key = true ∧ startsWith key request.kindPrefix = true ∧
        request.build runtime = some key) ∧
    ∀ (request : KeyRequest) (key : String), request.build runtime = some key →
      assertSafeStorageKey key = true ∧ startsWith key request.kindPrefix = true := by
  have hpath : ∀ (request : KeyRequest) (key : String), request.path runtime = some key →
      assertSafeStorageKey key = true ∧ startsWith key request.kindPrefix = true := by
    intro request key h
    obtain ⟨hne, hfolders⟩ := request.shortSegment_folders
    exact (KeyRequest.path_spec h).safe hne hfolders
  refine ⟨fun raw => ?_, fun request key h => ?_, fun request key h => ?_⟩
  · have hsegment := (safeKeySegment_spec runtime raw).1
    refine ⟨fun hmem => ?_, hsegment.notMem (by decide), hsegment.notMem (by decide)⟩
    simp only [List.mem_cons, List.not_mem_nil, or_false] at hmem
    rcases hmem with hempty | hpoint | hpoints
    · exact hsegment.ne_empty hempty
    · exact hsegment.ne_point.1 hpoint
    · exact hsegment.ne_point.2 hpoints
  · obtain ⟨hsafe, hstarts⟩ := hpath request key h
    refine ⟨hsafe, hstarts, ?_⟩
    rw [KeyRequest.build_eq, h]
    exact if_pos hsafe
  · rw [KeyRequest.build_eq] at h
    obtain ⟨text, htext, hkey⟩ := Option.bind_eq_some_iff.mp h
    exact finish_eq_some hkey ▸ hpath request text htext
/-- A runtime of the year 2026 that knows the digest of one text. -/
def sampleKeyRuntime : KeyRuntime where
  calendarYear _ := "2026"
  calendarDate _ := "2026-03-09"
  normalizeNFKD raw := raw
  sha256Hex _ := "74ccf3c5b4c19a8167f9a3d1dd63e0e41fe451bc9616184fb273054c5743786c"
  length_sha256Hex _ := by decide
  hex_sha256Hex _ := List.all_eq_true.mp (by decide)

/-- A document whose number would leave its folder. -/
def sampleRequest : KeyRequest :=
  .documentFile ⟨⟨2026, 3, 9, 12, 0, 0, 0, by decide⟩, plain "ACTA", plain "../../etc"⟩ .pdf none

theorem built_keys_are_safe_climbing :
    assertSafeStorageKey "documents/2026/ACTA/etc-74ccf3c5.pdf" = true ∧
      startsWith "documents/2026/ACTA/etc-74ccf3c5.pdf" sampleRequest.kindPrefix = true :=
  (built_keys_are_safe sampleKeyRuntime).2.2 sampleRequest "documents/2026/ACTA/etc-74ccf3c5.pdf"
    (by decide +kernel)

end InternalControl.StorageKeys
