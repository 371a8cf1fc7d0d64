import InternalControl.CodeUnits
import InternalControl.StorageKeys
import Mathlib.Data.List.DropRight

/-!
# Segments of storage keys

A value that goes into a key is left as it is when it has the form of a segment.
Otherwise it is cleaned, and the start of its digest tells it from other values
that clean to the same. Either way it is one segment, which names no folder above.
-/

namespace InternalControl.StorageKeys

open CodeUnits Text

/-- What the runtime knows of texts and of the time zone. -/
structure KeyRuntime where
  /-- The year of an instant. -/
  calendarYear : Instant → String
  /-- The date of an instant. -/
  calendarDate : Instant → String
  /-- Compatibility decomposition. -/
  normalizeNFKD : Units → Units
  /-- The digest of a text, in hexadecimal digits. -/
  sha256Hex : Units → String
  length_sha256Hex : ∀ raw, (sha256Hex raw).toList.length = 64
  hex_sha256Hex : ∀ raw, ∀ c ∈ (sha256Hex raw).toList, hexChar c = true

/-! ### Cleaning -/

/-- A letter without accent or a digit. -/
def alnumUnit (u : UInt16) : Bool :=
  (48 ≤ u && u ≤ 57) || (65 ≤ u && u ≤ 90) || (97 ≤ u && u ≤ 122)

/-- A character of a segment: alphanumeric, a point, an underscore or a dash. -/
def segmentUnit (u : UInt16) : Bool := alnumUnit u || u == 46 || u == 95 || u == 45

/-- Two points in a row. -/
def hasPoints : Units → Bool
  | u :: v :: rest => (u == 46 && v == 46) || hasPoints (v :: rest)
  | _ => false

/-- SAFE_SEGMENT: up to 120 characters of a segment, the first one alphanumeric. -/
def safeSegment (raw : Units) : Bool :=
  raw.length ≤ 120 && raw.head?.any alnumUnit && raw.all segmentUnit

/-- Every run of other characters becomes a dash; `inRun` tells that one was written. -/
def dashed : Bool → Units → Units
  | _, [] => []
  | inRun, u :: rest =>
    if segmentUnit u then u :: dashed false rest
    else if inRun then dashed true rest else 45 :: dashed true rest

/-- Every run of points becomes one; `inRun` tells that it was written. -/
def onePoint : Bool → Units → Units
  | _, [] => []
  | inRun, u :: rest =>
    if u == 46 then if inRun then onePoint true rest else u :: onePoint true rest
    else u :: onePoint false rest

/-- The text of code units of ASCII. -/
def asciiText (units : Units) : String := String.ofList (units.map fun u => Char.ofNat u.toNat)

/-- What is left of a value that is not a segment. -/
def cleaned (runtime : KeyRuntime) (raw : Units) : Units :=
  (((onePoint false (dashed false (runtime.normalizeNFKD raw))).dropWhile (!alnumUnit ·)).take
    100).rdropWhile fun u => u == 45 || u == 46

/-- A value as one segment of a key. -/
def safeKeySegment (runtime : KeyRuntime) (raw : Units) : String :=
  if safeSegment raw && !hasPoints raw then asciiText raw
  else
    let suffix := sliceTo (runtime.sha256Hex raw) 8
    if cleaned runtime raw ≠ [] then asciiText (cleaned runtime raw) ++ "-" ++ suffix else suffix

/-! ### Segments -/

/-- A character that a segment may have. -/
def segmentChar (c : Char) : Bool := c.isAlphanum || c == '.' || c == '_' || c == '-'

/-- A text of those characters whose first one is no point. -/
structure Segment (text : String) : Prop where
  chars : ∀ c ∈ text.toList, segmentChar c = true
  first : ∃ c rest, text.toList = c :: rest ∧ c ≠ '.'

section Segments

variable {text other : String} {units : Units} {u : UInt16} {c : Char}

theorem Segment.toList_ne_nil (h : Segment text) : text.toList ≠ [] := by
  obtain ⟨c, rest, hlist, -⟩ := h.first
  rw [hlist]
  exact List.cons_ne_nil c rest

theorem Segment.ne_empty (h : Segment text) : text ≠ "" :=
  fun hempty => h.toList_ne_nil (by rw [hempty]; rfl)

/-- A segment is not the folder itself or the one above. -/
theorem Segment.ne_point (h : Segment text) : text ≠ "." ∧ text ≠ ".." := by
  obtain ⟨c, rest, hlist, hpoint⟩ := h.first
  constructor
  · rintro rfl
    exact hpoint (List.cons.inj hlist).1.symm
  · rintro rfl
    exact hpoint (List.cons.inj hlist).1.symm

theorem Segment.notMem (h : Segment text) (hc : segmentChar c = false) : c ∉ text.toList := by
  intro hmem
  rw [h.chars c hmem] at hc
  cases hc

/-- A segment goes on with any of its characters. -/
theorem Segment.append (h : Segment text) (hother : ∀ c ∈ other.toList, segmentChar c = true) :
    Segment (text ++ other) := by
  constructor
  · intro c hc
    rw [String.toList_append] at hc
    rcases List.mem_append.mp hc with hc | hc
    · exact h.chars c hc
    · exact hother c hc
  · obtain ⟨c, rest, hlist, hpoint⟩ := h.first
    exact ⟨c, rest ++ other.toList, by rw [String.toList_append, hlist, List.cons_append], hpoint⟩

theorem segmentChar_of_isAlphanum (hc : c.isAlphanum = true) : segmentChar c = true := by
  simp [segmentChar, hc]

theorem ne_point_of_isAlphanum (hc : c.isAlphanum = true) : c ≠ '.' := by
  rintro rfl
  exact absurd hc (by decide)

theorem isAlphanum_of_hexChar (hc : hexChar c = true) : c.isAlphanum = true := by
  rw [hexChar, Bool.or_eq_true, Bool.and_eq_true, decide_eq_true_eq, decide_eq_true_eq] at hc
  rw [Char.isAlphanum, Bool.or_eq_true]
  rcases hc with hdigit | ⟨hlow, hhigh⟩
  · exact .inr hdigit
  · refine .inl ?_
    rw [Char.isAlpha, Bool.or_eq_true]
    refine .inr ?_
    rw [Char.isLower, Bool.and_eq_true, decide_eq_true_eq, decide_eq_true_eq]
    exact ⟨hlow, Char.le_trans hhigh (show 'f' ≤ 'z' by decide)⟩

theorem segmentUnit_table : ∀ n < 128, segmentUnit (UInt16.ofNat n) = true →
    segmentChar (Char.ofNat n) = true ∧
      (alnumUnit (UInt16.ofNat n) = true → (Char.ofNat n).isAlphanum = true) := by
  decide

/-- The character of a unit of a segment. -/
theorem segmentChar_of_segmentUnit (hu : segmentUnit u = true) :
    segmentChar (Char.ofNat u.toNat) = true ∧
      (alnumUnit u = true → (Char.ofNat u.toNat).isAlphanum = true) := by
  have hsmall : u.toNat < 128 := by
    simp only [segmentUnit, alnumUnit, Bool.or_eq_true, Bool.and_eq_true, decide_eq_true_eq,
      beq_iff_eq, UInt16.le_iff_toNat_le] at hu
    rcases hu with ((((⟨-, h⟩ | ⟨-, h⟩) | ⟨-, h⟩) | rfl) | rfl) | rfl
    · exact lt_of_le_of_lt h (by decide)
    · exact lt_of_le_of_lt h (by decide)
    · exact lt_of_le_of_lt h (by decide)
    · decide
    · decide
    · decide
  have htable := segmentUnit_table u.toNat hsmall
  rw [UInt16.ofNat_toNat] at htable
  exact htable hu

/-- Units of a segment, the first one alphanumeric, are the text of one. -/
theorem segment_asciiText (hunits : ∀ u ∈ units, segmentUnit u = true)
    (hfirst : units.head?.any alnumUnit = true) : Segment (asciiText units) := by
  have hlist : (asciiText units).toList = units.map fun u => Char.ofNat u.toNat := String.toList_ofList
  constructor
  · intro c hc
    rw [hlist] at hc
    obtain ⟨u, hu, rfl⟩ := List.mem_map.mp hc
    exact (segmentChar_of_segmentUnit (hunits u hu)).1
  · cases units with
    | nil => cases hfirst
    | cons u rest =>
      refine ⟨_, _, hlist, ne_point_of_isAlphanum ?_⟩
      exact (segmentChar_of_segmentUnit (hunits u List.mem_cons_self)).2 hfirst

/-! ### The cleaned value -/

theorem segmentUnit_of_mem_dashed {inRun : Bool} (hu : u ∈ dashed inRun units) :
    segmentUnit u = true := by
  induction units generalizing inRun with
  | nil => cases hu
  | cons first rest ih =>
    rw [dashed] at hu
    split at hu
    · next hsafe =>
      rcases List.mem_cons.mp hu with rfl | hu
      · exact hsafe
      · exact ih hu
    · split at hu
      · exact ih hu
      · rcases List.mem_cons.mp hu with rfl | hu
        · rfl
        · exact ih hu

theorem mem_of_mem_onePoint {inRun : Bool} (hu : u ∈ onePoint inRun units) : u ∈ units := by
  induction units generalizing inRun with
  | nil => cases hu
  | cons first rest ih =>
    rw [onePoint] at hu
    split at hu
    · split at hu
      · exact List.mem_cons_of_mem _ (ih hu)
      · rcases List.mem_cons.mp hu with rfl | hu
        · exact List.mem_cons_self
        · exact List.mem_cons_of_mem _ (ih hu)
    · rcases List.mem_cons.mp hu with rfl | hu
      · exact List.mem_cons_self
      · exact List.mem_cons_of_mem _ (ih hu)

variable (runtime : KeyRuntime) (raw : Units)

/-- What is cleaned is cut from what starts at the first alphanumeric character. -/
theorem cleaned_isPrefix : cleaned runtime raw <+:
    (onePoint false (dashed false (runtime.normalizeNFKD raw))).dropWhile (!alnumUnit ·) :=
  (List.rdropWhile_prefix _ _).trans (List.take_prefix 100 _)

theorem segmentUnit_of_mem_cleaned (hu : u ∈ cleaned runtime raw) : segmentUnit u = true := by
  have hkept := (List.dropWhile_suffix _).subset ((cleaned_isPrefix runtime raw).subset hu)
  exact segmentUnit_of_mem_dashed (mem_of_mem_onePoint hkept)

theorem head?_cleaned (hne : cleaned runtime raw ≠ []) :
    (cleaned runtime raw).head?.any alnumUnit = true := by
  have hcut := cleaned_isPrefix runtime raw
  have hfirst := List.head?_dropWhile_not (!alnumUnit ·)
    (onePoint false (dashed false (runtime.normalizeNFKD raw)))
  generalize (onePoint false (dashed false (runtime.normalizeNFKD raw))).dropWhile (!alnumUnit ·) =
    kept at hcut hfirst
  cases hlist : cleaned runtime raw with
  | nil => exact absurd hlist hne
  | cons u rest =>
    rw [hlist] at hcut
    obtain ⟨tail, rfl⟩ := hcut
    simpa using hfirst

theorem length_cleaned : (cleaned runtime raw).length ≤ 100 :=
  (List.rdropWhile_prefix _ _).length_le.trans (List.length_take_le 100 _)

theorem length_asciiText (units : Units) : (asciiText units).toList.length = units.length := by
  rw [asciiText, String.toList_ofList, List.length_map]

/-- The start of a digest is a segment of eight characters. -/
theorem digestStart_spec : Segment (sliceTo (runtime.sha256Hex raw) 8) ∧
    (sliceTo (runtime.sha256Hex raw) 8).toList.length = 8 := by
  have hlist : (sliceTo (runtime.sha256Hex raw) 8).toList = (runtime.sha256Hex raw).toList.take 8 :=
    String.toList_ofList
  have hlength := runtime.length_sha256Hex raw
  have hchars : ∀ c ∈ (runtime.sha256Hex raw).toList.take 8, c.isAlphanum = true := fun c hc =>
    isAlphanum_of_hexChar (runtime.hex_sha256Hex raw c (List.mem_of_mem_take hc))
  have hcount : ((runtime.sha256Hex raw).toList.take 8).length = 8 := by
    rw [List.length_take]
    omega
  rw [hlist]
  refine ⟨⟨fun c hc => ?_, ?_⟩, hcount⟩
  · exact segmentChar_of_isAlphanum (hchars c (hlist ▸ hc))
  · rw [hlist]
    cases hstart : (runtime.sha256Hex raw).toList.take 8 with
    | nil =>
      rw [hstart] at hcount
      cases hcount
    | cons c rest =>
      rw [hstart] at hchars
      exact ⟨c, rest, rfl, ne_point_of_isAlphanum (hchars c List.mem_cons_self)⟩

/-- Every value becomes one segment of at most 120 characters. -/
theorem safeKeySegment_spec : Segment (safeKeySegment runtime raw) ∧
    (safeKeySegment runtime raw).toList.length ≤ 120 := by
  obtain ⟨hdigest, hlength⟩ := digestStart_spec runtime raw
  unfold safeKeySegment
  split
  · next hsafe =>
    rw [Bool.and_eq_true, safeSegment, Bool.and_eq_true, Bool.and_eq_true, decide_eq_true_eq,
      List.all_eq_true] at hsafe
    obtain ⟨⟨⟨hshort, hfirst⟩, hunits⟩, -⟩ := hsafe
    exact ⟨segment_asciiText hunits hfirst, by rwa [length_asciiText]⟩
  · dsimp only
    split
    · next hne =>
      have hshort := length_cleaned runtime raw
      have hsegment := segment_asciiText (fun u => segmentUnit_of_mem_cleaned runtime raw)
        (head?_cleaned runtime raw hne)
      have hdash : ∀ c ∈ "-".toList, segmentChar c = true := List.all_eq_true.mp (by decide)
      refine ⟨(hsegment.append hdash).append hdigest.chars, ?_⟩
      rw [String.toList_append, String.toList_append, List.length_append, List.length_append,
        length_asciiText, hlength]
      change _ + 1 + 8 ≤ 120
      omega
    · exact ⟨hdigest, by omega⟩

end Segments

end InternalControl.StorageKeys
