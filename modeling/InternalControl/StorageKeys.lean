import InternalControl.Instant
import InternalControl.Text

/-!
# Keys of stored files

The key of a signature file is made of a folder for its envelope and a name for
its content. Files of different envelopes, or with different names, never share
a key.
-/

namespace InternalControl.StorageKeys

/-- A lower-case hexadecimal digit. -/
def hexChar (c : Char) : Bool := c.isDigit || (decide ('a' ≤ c) && decide (c ≤ 'f'))

/-- A UUID in lower case. -/
def uuidPattern (value : String) : Bool :=
  value.toList.length = 36 && value.toList.zipIdx.all fun (c, i) =>
    if i ∈ [8, 13, 18, 23] then c = '-' else hexChar c

/-- Four digits. -/
def yearPattern (value : String) : Bool := value.toList.length = 4 && value.toList.all Char.isDigit

/-- From eight to sixty-four letters, digits, dashes and underscores. -/
def verificationCodePattern (value : String) : Bool :=
  8 ≤ value.toList.length && value.toList.length ≤ 64 &&
    value.toList.all fun c => c.isAlphanum || c = '_' || c = '-'

/-- Hexadecimal digits. -/
def hexPattern (value : String) : Bool := !value.toList.isEmpty && value.toList.all hexChar

/-- Two dots in a row. -/
def hasDots (value : String) : Bool :=
  (value.toList.zip value.toList.tail).any fun (c, d) => c = '.' && d = '.'

/-- A part of a key, unless it may not stand in one. -/
def checked (value : String) (pattern : String → Bool) : Option String :=
  if pattern value && !hasDots value then some value else none

/-- A number in a key, unless it is not a safe integer. -/
def positiveInt (value : ℕ) : Option ℕ := if value ≤ 9007199254740991 then some value else none

/-- The length a key may have. -/
def maxStorageKeyLength : ℕ := 1024

/-- A character no key may have. -/
def forbiddenChar (c : Char) : Bool := c.toNat ≤ 0x1f || c.toNat = 0x7f || c = '\\'

/-- A drive letter at the start. -/
def driveLetter (key : String) : Bool :=
  match key.toList with
  | c :: ':' :: _ => c.isAlpha
  | _ => false

/-- The key is not empty or long, stays below the root and has plain characters. -/
def assertSafeStorageKey (key : String) : Bool :=
  key ≠ "" && Text.utf16Length key ≤ maxStorageKeyLength && !key.toList.any forbiddenChar &&
    !Text.startsWith key "/" && !driveLetter key &&
    (key.toList.splitOn '/').all fun segment => segment ∉ [[], ['.'], ['.', '.']]

/-- The key, unless it is not safe. -/
def finish (key : String) : Option String := if assertSafeStorageKey key then some key else none

/-- The year of the folder of an instant, given the calendar of the time zone. -/
def storageYear (calendarYear : Instant → String) (instant : Instant) : Option String :=
  checked (calendarYear instant) yearPattern

/-- What the keys of an envelope are made of. -/
structure SignatureKeyInput where
  documentCreatedAt : Instant
  documentId : String
  verificationCode : String

/-- The folder of an envelope's files. -/
def signatureFolder (calendarYear : Instant → String) (input : SignatureKeyInput) :
    Option String := do
  let year ← storageYear calendarYear input.documentCreatedAt
  let documentId ← checked input.documentId uuidPattern
  let verificationCode ← checked input.verificationCode verificationCodePattern
  return "signatures/" ++ year ++ "/" ++ documentId ++ "/" ++ verificationCode

/-- A file of an envelope, by what it holds. -/
inductive SignatureFile where
  /-- The document prepared for signature, with the first digits of its original's hash. -/
  | prepared (suffix : String)
  /-- The rubric of a signer. -/
  | rubric (order : ℕ)
  /-- The document a signer's rubric was stamped on. -/
  | stamped (order : ℕ)

/-- The last segment of the key of a file. -/
def SignatureFile.name : SignatureFile → String
  | prepared suffix => "v0" ++ suffix ++ ".pdf"
  | rubric order => "rubrica-" ++ Nat.repr order ++ ".png"
  | stamped order => "v" ++ Nat.repr order ++ ".pdf"

/-- What the hash of the original adds to the name of a prepared document. -/
def preparedSuffix : Option String → Option String
  | none => some ""
  | some start => (checked start hexPattern).map fun start => "-" ++ Text.sliceTo start 12

/-- The key of a prepared document. -/
def signaturePreparedPdfKey (calendarYear : Instant → String) (input : SignatureKeyInput)
    (originalSha256Prefix : Option String) : Option String := do
  let suffix ← preparedSuffix originalSha256Prefix
  let folder ← signatureFolder calendarYear input
  finish (folder ++ "/" ++ (SignatureFile.prepared suffix).name)

/-- The key of a signer's rubric. -/
def signatureRubricKey (calendarYear : Instant → String) (input : SignatureKeyInput)
    (order : ℕ) : Option String := do
  let folder ← signatureFolder calendarYear input
  let order ← positiveInt order
  finish (folder ++ "/" ++ (SignatureFile.rubric order).name)

/-- The key of the document a signer's rubric was stamped on. -/
def signatureStampedPdfKey (calendarYear : Instant → String) (input : SignatureKeyInput)
    (order : ℕ) : Option String := do
  let folder ← signatureFolder calendarYear input
  let order ← positiveInt order
  finish (folder ++ "/" ++ (SignatureFile.stamped order).name)

/-! ### Names are apart -/

/-- A file as the keys name it, for signers whose orders start at one. -/
def SignatureFile.Proper : SignatureFile → Prop
  | prepared suffix => suffix = "" ∨
      ∃ rest : String, suffix = "-" ++ rest ∧ ∀ c ∈ rest.toList, hexChar c = true
  | rubric _ => True
  | stamped order => 1 ≤ order

/-- The decimal digits of a number give the number back. -/
theorem toDigits_inj {m n : ℕ} (h : Nat.toDigits 10 m = Nat.toDigits 10 n) : m = n := by
  simpa using congrArg (fun digits => Nat.ofDigitChars 10 digits 0) h

theorem notMem_toDigits {c : Char} (hc : c.isDigit = false) (n : ℕ) : c ∉ Nat.toDigits 10 n := by
  intro h
  rw [Nat.isDigit_of_mem_toDigits (by decide) (by decide) h] at hc
  cases hc

theorem stampedName_ne_preparedName {order : ℕ} (horder : 1 ≤ order) {suffix : String}
    (hsuffix : (SignatureFile.prepared suffix).Proper) :
    (SignatureFile.stamped order).name ≠ (SignatureFile.prepared suffix).name := by
  intro h
  have hlist : Nat.toDigits 10 order = '0' :: suffix.toList := by
    have hchars := congrArg String.toList h
    simp only [SignatureFile.name, String.toList_append, Nat.toList_repr, List.append_assoc]
      at hchars
    exact List.append_cancel_right (List.cons.inj hchars).2
  rcases hsuffix with rfl | ⟨rest, rfl, -⟩
  · have hzero : order = 0 := toDigits_inj hlist
    omega
  · have hmem : '-' ∈ Nat.toDigits 10 order := by
      rw [hlist]
      simp
    exact notMem_toDigits (by decide) order hmem

/-- Different files have different names. -/
theorem SignatureFile.name_inj {a b : SignatureFile} (ha : a.Proper) (hb : b.Proper)
    (h : a.name = b.name) : a = b := by
  have hlist := congrArg String.toList h
  cases a with
  | prepared suffix =>
    cases b with
    | prepared other =>
      have hsame : suffix.toList = other.toList := by simpa [name] using hlist
      rw [String.toList_inj.mp hsame]
    | rubric order => simp [name] at hlist
    | stamped order => exact absurd h.symm (stampedName_ne_preparedName hb ha)
  | rubric order =>
    cases b with
    | prepared suffix => simp [name] at hlist
    | rubric other =>
      have hsame : Nat.toDigits 10 order = Nat.toDigits 10 other := by simpa [name] using hlist
      rw [toDigits_inj hsame]
    | stamped other => simp [name] at hlist
  | stamped order =>
    cases b with
    | prepared suffix => exact absurd h (stampedName_ne_preparedName ha hb)
    | rubric other => simp [name] at hlist
    | stamped other =>
      have hsame : Nat.toDigits 10 order = Nat.toDigits 10 other := by simpa [name] using hlist
      rw [toDigits_inj hsame]

theorem SignatureFile.slash_notMem {file : SignatureFile} (h : file.Proper) :
    '/' ∉ file.name.toList := by
  cases file with
  | prepared suffix =>
    rcases h with rfl | ⟨rest, rfl, hrest⟩
    · decide
    · have hslash : '/' ∉ rest.toList := fun hmem => absurd (hrest _ hmem) (by decide)
      simpa [name] using hslash
  | rubric order =>
    have hslash : '/' ∉ Nat.toDigits 10 order := notMem_toDigits (by decide) order
    simpa [name] using hslash
  | stamped order =>
    have hslash : '/' ∉ Nat.toDigits 10 order := notMem_toDigits (by decide) order
    simpa [name] using hslash

/-! ### Keys are apart -/

/-- The key of a file in the folder of a verification code. -/
structure IsKeyOf (verificationCode : String) (file : SignatureFile) (key : String) : Prop where
  code : verificationCodePattern verificationCode = true
  path : ∃ folder, key = folder ++ "/" ++ verificationCode ++ "/" ++ file.name

theorem slash_notMem_code {code : String} (h : verificationCodePattern code = true) :
    '/' ∉ code.toList := by
  intro hmem
  have hall := List.all_eq_true.mp (Bool.and_eq_true_iff.mp h).2 '/' hmem
  revert hall
  decide

/-- Texts up to the first mark are the same when the whole texts are. -/
theorem append_mark_inj {mark : Char} {xs ys vs ws : List Char} (hxs : mark ∉ xs)
    (hys : mark ∉ ys) (h : xs ++ mark :: vs = ys ++ mark :: ws) : xs = ys ∧ vs = ws := by
  induction xs generalizing ys with
  | nil =>
    cases ys with
    | nil => exact ⟨rfl, (List.cons.inj h).2⟩
    | cons y ys => exact absurd ((List.cons.inj h).1 ▸ List.mem_cons_self) hys
  | cons x xs ih =>
    cases ys with
    | nil => exact absurd ((List.cons.inj h).1 ▸ List.mem_cons_self) hxs
    | cons y ys =>
      obtain ⟨rfl, hrest⟩ := List.cons.inj h
      obtain ⟨rfl, hvs⟩ := ih (fun hmem => hxs (List.mem_cons_of_mem _ hmem))
        (fun hmem => hys (List.mem_cons_of_mem _ hmem)) hrest
      exact ⟨rfl, hvs⟩

/-- Keys that are the same are of one file of one envelope. -/
theorem IsKeyOf.inj {code other key : String} {a b : SignatureFile} (ha : IsKeyOf code a key)
    (hb : IsKeyOf other b key) (hproper : a.Proper) (hproper' : b.Proper) :
    code = other ∧ a = b := by
  obtain ⟨folder, hfolder⟩ := ha.path
  obtain ⟨folder', hfolder'⟩ := hb.path
  -- read backwards, a key is its name up to the first slash and its code up to the second
  have hreverse := congrArg (fun path : String => path.toList.reverse)
    (hfolder.symm.trans hfolder')
  simp only [String.toList_append, show "/".toList = ['/'] from rfl, List.reverse_append,
    List.reverse_singleton, List.singleton_append] at hreverse
  obtain ⟨hname, hrest⟩ := append_mark_inj
    (by simpa using SignatureFile.slash_notMem hproper)
    (by simpa using SignatureFile.slash_notMem hproper') hreverse
  obtain ⟨hcode, -⟩ := append_mark_inj (by simpa using slash_notMem_code ha.code)
    (by simpa using slash_notMem_code hb.code) hrest
  exact ⟨String.toList_inj.mp (List.reverse_injective hcode),
    SignatureFile.name_inj hproper hproper' (String.toList_inj.mp (List.reverse_injective hname))⟩

theorem checked_eq_some {value result : String} {pattern : String → Bool}
    (h : checked value pattern = some result) : result = value ∧ pattern value = true := by
  unfold checked at h
  split_ifs at h with hc
  · cases h
    exact ⟨rfl, (Bool.and_eq_true_iff.mp hc).1⟩

theorem finish_eq_some {key result : String} (h : finish key = some result) : result = key := by
  unfold finish at h
  split_ifs at h
  exact (Option.some.inj h).symm

theorem positiveInt_eq_some {value result : ℕ} (h : positiveInt value = some result) :
    result = value := by
  unfold positiveInt at h
  split_ifs at h
  exact (Option.some.inj h).symm

section Folder

variable {calendarYear : Instant → String} {input : SignatureKeyInput}

/-- A file of the folder has a key of the verification code. -/
theorem isKeyOf_of_folder {folder key : String} {file : SignatureFile}
    (hfolder : signatureFolder calendarYear input = some folder)
    (hkey : finish (folder ++ "/" ++ file.name) = some key) :
    IsKeyOf input.verificationCode file key := by
  simp only [signatureFolder, Option.bind_eq_bind, Option.bind_eq_some_iff] at hfolder
  obtain ⟨year, -, documentId, -, code, hcode, hfolder⟩ := hfolder
  obtain ⟨rfl, hpattern⟩ := checked_eq_some hcode
  refine ⟨hpattern, "signatures/" ++ year ++ "/" ++ documentId, ?_⟩
  rw [finish_eq_some hkey, ← Option.some.inj hfolder]

theorem isKeyOf_prepared {start : Option String} {key : String}
    (h : signaturePreparedPdfKey calendarYear input start = some key) :
    ∃ suffix, (SignatureFile.prepared suffix).Proper ∧
      IsKeyOf input.verificationCode (.prepared suffix) key := by
  simp only [signaturePreparedPdfKey, Option.bind_eq_bind, Option.bind_eq_some_iff] at h
  obtain ⟨suffix, hsuffix, folder, hfolder, hkey⟩ := h
  refine ⟨suffix, ?_, isKeyOf_of_folder hfolder hkey⟩
  cases start with
  | none => exact Or.inl (Option.some.inj hsuffix).symm
  | some start =>
    obtain ⟨value, hvalue, rfl⟩ := Option.map_eq_some_iff.mp hsuffix
    obtain ⟨rfl, hpattern⟩ := checked_eq_some hvalue
    refine Or.inr ⟨_, rfl, fun c hc => ?_⟩
    rw [Text.sliceTo, String.toList_ofList] at hc
    exact List.all_eq_true.mp (Bool.and_eq_true_iff.mp hpattern).2 c (List.mem_of_mem_take hc)

theorem isKeyOf_rubric {order : ℕ} {key : String}
    (h : signatureRubricKey calendarYear input order = some key) :
    IsKeyOf input.verificationCode (.rubric order) key := by
  simp only [signatureRubricKey, Option.bind_eq_bind, Option.bind_eq_some_iff] at h
  obtain ⟨folder, hfolder, number, hnumber, hkey⟩ := h
  exact positiveInt_eq_some hnumber ▸ isKeyOf_of_folder hfolder hkey

theorem isKeyOf_stamped {order : ℕ} {key : String}
    (h : signatureStampedPdfKey calendarYear input order = some key) :
    IsKeyOf input.verificationCode (.stamped order) key := by
  simp only [signatureStampedPdfKey, Option.bind_eq_bind, Option.bind_eq_some_iff] at h
  obtain ⟨folder, hfolder, number, hnumber, hkey⟩ := h
  exact positiveInt_eq_some hnumber ▸ isKeyOf_of_folder hfolder hkey

end Folder

end InternalControl.StorageKeys
