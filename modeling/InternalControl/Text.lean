import Mathlib.Data.List.Basic
import Mathlib.Data.List.Lex
import Mathlib.Order.Basic
import Mathlib.Tactic.Common

/-!
# Script strings

The string operations of the modelled language that differ from Lean's own:
lengths and comparisons in UTF-16 code units, truthiness of optional strings,
digit tests and letter case of ASCII text.
-/

namespace InternalControl

/-- The identifier of a stored row. It is never empty, so it counts as true. -/
structure RowId where
  /-- The identifier as text. -/
  text : String
  /-- No row has an empty identifier. -/
  nonempty : text ≠ ""
  deriving DecidableEq

/-- The comparison of texts by a locale: a sort may rely on it. -/
structure Collation where
  /-- The first text does not come after the second. -/
  le : String → String → Bool
  /-- Any two texts compare. -/
  total : ∀ s t, le s t = true ∨ le t s = true
  /-- Comparisons chain. -/
  trans : ∀ {s t u}, le s t = true → le t u = true → le s u = true

/-- A digest in hexadecimal text. -/
structure Sha256 where
  /-- The digest of a text, as 64 hexadecimal characters. -/
  hex : String → String
  /-- Every digest has the full length. -/
  length_hex : ∀ s, (hex s).toList.length = 64

/-- A digest known at the listed texts, which is all a run on fixed inputs asks for. -/
def Sha256.ofTable (table : List (String × String))
    (h : ∀ entry ∈ table, entry.2.toList.length = 64) : Sha256 where
  hex s := ((table.find? fun entry => entry.1 = s).map Prod.snd).getD
    (String.ofList (List.replicate 64 '0'))
  length_hex s := by
    cases hs : table.find? fun entry => entry.1 = s with
    | none => simp
    | some entry => simpa using h entry (List.mem_of_find?_eq_some hs)

namespace Text

instance lawfulBEqChars : LawfulBEq (List Char) := inferInstance

/-- The UTF-16 code units of one character. -/
def charUnits (c : Char) : List ℕ :=
  if c.toNat < 0x10000 then [c.toNat]
  else [0xD800 + (c.toNat - 0x10000) / 0x400, 0xDC00 + (c.toNat - 0x10000) % 0x400]

/-- The UTF-16 code units of a string. -/
def units (s : String) : List ℕ := s.toList.flatMap charUnits

/-- The length property of a string. -/
def utf16Length (s : String) : ℕ := (units s).length

/-- The comparison of two strings with the relational operators. -/
def unitsLe (s t : String) : Bool := decide (units s ≤ units t)

/-- Prefix test, character by character. -/
def startsWith (s start : String) : Bool := start.toList.isPrefixOf s.toList

/-- The first characters of a string. -/
def sliceTo (s : String) (n : ℕ) : String := String.ofList (s.toList.take n)

/-- One or more decimal digits and nothing else. -/
def allDigits (s : String) : Bool := !s.toList.isEmpty && s.toList.all Char.isDigit

/-- Lower case of text known to be ASCII. -/
def asciiLower (s : String) : String := String.ofList (s.toList.map Char.toLower)

/-- An optional string that counts as true: present and not empty. -/
def present (value : Option String) : Option String := value.filter fun s => s ≠ ""

theorem present_eq_some {value : Option String} {s : String} :
    present value = some s ↔ value = some s ∧ s ≠ "" := by
  simp [present, Option.filter_eq_some_iff]

theorem startsWith_iff {s start : String} :
    startsWith s start = true ↔ start.toList <+: s.toList := List.isPrefixOf_iff_prefix

/-- The length of a text of characters of one code unit counts them. -/
theorem utf16Length_of_single {s : String} (hsingle : ∀ c ∈ s.toList, c.toNat < 0x10000) :
    utf16Length s = s.toList.length := by
  have hunit : ∀ c ∈ s.toList, (charUnits c).length = 1 := by
    intro c hc
    rw [charUnits, if_pos (hsingle c hc)]
    rfl
  rw [utf16Length, units, List.length_flatMap, List.map_congr_left hunit]
  simp

theorem charUnits_ne_nil (c : Char) : charUnits c ≠ [] := by
  unfold charUnits
  split <;> simp

/-- A character is read back from the front of its code units. -/
theorem charUnits_append_inj {c d : Char} {xs ys : List ℕ}
    (h : charUnits c ++ xs = charUnits d ++ ys) : c = d ∧ xs = ys := by
  -- a surrogate pair and a single unit differ in the first unit
  have hvalid : ∀ e : Char, e.toNat < 0xD800 ∨ 0xDFFF < e.toNat ∧ e.toNat < 0x110000 :=
    fun e => e.valid
  have hc := hvalid c
  have hd := hvalid d
  unfold charUnits at h
  split at h <;> split at h
  · simp only [List.cons_append, List.nil_append, List.cons.injEq] at h
    exact ⟨Char.toNat_inj.mp h.1, h.2⟩
  · simp only [List.cons_append, List.nil_append, List.cons.injEq] at h
    omega
  · simp only [List.cons_append, List.nil_append, List.cons.injEq] at h
    omega
  · simp only [List.cons_append, List.nil_append, List.cons.injEq] at h
    exact ⟨Char.toNat_inj.mp (by omega), h.2.2⟩

/-- Strings with the same code units are the same. -/
theorem units_injective : Function.Injective units := by
  intro s t h
  refine String.toList_injective ?_
  unfold units at h
  generalize s.toList = cs at h ⊢
  generalize t.toList = ds at h ⊢
  induction cs generalizing ds with
  | nil =>
    cases ds with
    | nil => rfl
    | cons d ds => simp [charUnits_ne_nil] at h
  | cons c cs ih =>
    cases ds with
    | nil => simp [charUnits_ne_nil] at h
    | cons d ds =>
      rw [List.flatMap_cons, List.flatMap_cons] at h
      obtain ⟨hc, hrest⟩ := charUnits_append_inj h
      rw [hc, ih ds hrest]

theorem unitsLe_total (s t : String) : unitsLe s t = true ∨ unitsLe t s = true := by
  simpa [unitsLe] using le_total (units s) (units t)

theorem unitsLe_trans {s t u : String} (hst : unitsLe s t = true) (htu : unitsLe t u = true) :
    unitsLe s u = true := by
  simp only [unitsLe, decide_eq_true_eq] at *
  exact le_trans hst htu

theorem unitsLe_antisymm {s t : String} (hst : unitsLe s t = true) (hts : unitsLe t s = true) :
    s = t := by
  simp only [unitsLe, decide_eq_true_eq] at *
  exact units_injective (le_antisymm hst hts)

/-- The comparison by code units, which is how a locale compares plain digits
and unaccented capitals. -/
def codeUnitCollation : Collation where
  le := unitsLe
  total := unitsLe_total
  trans := unitsLe_trans

end Text

end InternalControl
