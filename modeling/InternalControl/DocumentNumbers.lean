import Mathlib

/-!
# Numbers of generated documents

Every format counts its documents in a row of the store, one row for each
period. A generation reserves the next value within its transaction, so it
holds the row until it ends, and its document is recorded by the same
transaction. Any number of generations interleave and each may fail at any
step; the documents that are committed carry consecutive values all the same,
and no two of a period are printed alike.
-/

namespace InternalControl.DocumentNumbers

inductive DocumentNumberingPolicy where
  | continue_
  | restart
  deriving DecidableEq

/-- How a format numbers its documents, as the catalogue accepts it. -/
structure Numbering where
  width : ℕ
  perYear : Bool
  lastIssued : ℕ
  lastIssuedPeriod : Option String
  /-- The width has one to ten digits, and the last number is a safe integer. -/
  valid : 1 ≤ width ∧ width ≤ 10 ∧ lastIssued < 2 ^ 53

/-- A version of a format. -/
structure DocumentFormat where
  key : String
  versionId : String
  numbering : Numbering

/-- The period of a date, by its year in the time of the server. -/
def periodFor (format : DocumentFormat) (year : ℤ) : String :=
  if format.numbering.perYear then toString year else ""

def initialSequenceValue (format : DocumentFormat) (period : String)
    (policy : DocumentNumberingPolicy) : ℕ :=
  if policy = .restart then 0
  else if format.numbering.perYear ∧ format.numbering.lastIssuedPeriod ≠ some period then 0
  else format.numbering.lastIssued

/-- Fill a text of digits from the left up to a width. -/
def padStart (text : List Char) (width : ℕ) : List Char :=
  List.replicate (width - text.length) '0' ++ text

def formatNumber (format : DocumentFormat) (period : String) (value : ℕ) : String :=
  let padded := padStart (Nat.toDigits 10 value) format.numbering.width
  if format.numbering.perYear then String.ofList (period.toList ++ '-' :: padded)
  else String.ofList padded

/-- The number of the language that is nearest to an integer of the store: above 53 bits the
low bits are rounded, to the even one when it is half way. -/
def toNumber (value : ℕ) : ℕ :=
  if value < 2 ^ 53 then value
  else
    let unit := 2 ^ (Nat.log2 value - 52)
    let high := value / unit
    let low := value % unit
    if low * 2 < unit ∨ (low * 2 = unit ∧ high % 2 = 0) then high * unit else (high + 1) * unit

section Printing

/-- Integers of up to 53 bits are numbers, and so is the one after them. -/
theorem toNumber_of_le {value : ℕ} (h : value ≤ 2 ^ 53) : toNumber value = value := by
  unfold toNumber
  split
  · rfl
  · next hlarge =>
    have hvalue : value = 2 ^ 53 := by omega
    subst hvalue
    decide

/-- The integer after is rounded back. -/
theorem toNumber_next : toNumber (2 ^ 53 + 1) = 2 ^ 53 := by decide

/-- What is printed tells the value, whatever it is filled with. -/
theorem ofDigitChars_padStart (value width : ℕ) :
    Nat.ofDigitChars 10 (padStart (Nat.toDigits 10 value) width) 0 = value := by
  unfold padStart
  rw [Nat.ofDigitChars_append, Nat.ofDigitChars_replicate_zero, Nat.mul_zero,
    Nat.ofDigitChars_ten_toDigits]

/-- A year is written with at least one character. -/
theorem toString_ne_empty (year : ℤ) : toString year ≠ "" := by
  cases year with
  | ofNat n => exact Nat.repr_ne_empty
  | negSucc n =>
    intro h
    have hlist := congrArg String.toList h
    simp [toString, Int.repr] at hlist

/-- The period of a format tells whether it counts by year. -/
theorem perYear_of_periodFor {format other : DocumentFormat} {year year' : ℤ}
    (h : periodFor format year = periodFor other year') :
    format.numbering.perYear = other.numbering.perYear := by
  unfold periodFor at h
  cases hformat : format.numbering.perYear <;> cases hother : other.numbering.perYear
  · rfl
  · rw [hformat, hother] at h
    exact absurd h.symm (toString_ne_empty year')
  · rw [hformat, hother] at h
    exact absurd h (toString_ne_empty year)
  · rfl

/-- Within a period, documents with one printed number have one value. -/
theorem formatNumber_inj {format other : DocumentFormat} {period : String} {value value' : ℕ}
    (hyear : format.numbering.perYear = other.numbering.perYear)
    (h : formatNumber format period value = formatNumber other period value') :
    value = value' := by
  have hpadded : padStart (Nat.toDigits 10 value) format.numbering.width =
      padStart (Nat.toDigits 10 value') other.numbering.width := by
    unfold formatNumber at h
    rw [← hyear] at h
    have hlist := congrArg String.toList h
    cases hperYear : format.numbering.perYear with
    | true =>
      simp only [hperYear, if_true, String.toList_ofList] at hlist
      exact (List.cons.inj (List.append_cancel_left hlist)).2
    | false =>
      simp only [hperYear, Bool.false_eq_true, if_false, String.toList_ofList] at hlist
      exact hlist
  rw [← ofDigitChars_padStart value format.numbering.width, hpadded, ofDigitChars_padStart]

/-- A value with more digits than the widest format is printed alike by all of a kind. -/
theorem formatNumber_of_long {format other : DocumentFormat} {period : String} {value : ℕ}
    (hyear : format.numbering.perYear = other.numbering.perYear)
    (hlong : 10 ≤ (Nat.toDigits 10 value).length) :
    formatNumber format period value = formatNumber other period value := by
  have hpad : ∀ width ≤ 10, padStart (Nat.toDigits 10 value) width = Nat.toDigits 10 value := by
    intro width hwidth
    unfold padStart
    rw [Nat.sub_eq_zero_of_le (Nat.le_trans hwidth hlong)]
    rfl
  unfold formatNumber
  rw [hpad _ format.numbering.valid.2.1, hpad _ other.numbering.valid.2.1, hyear]

/-- An initial value is a safe integer. -/
theorem initialSequenceValue_lt (format : DocumentFormat) (period : String)
    (policy : DocumentNumberingPolicy) : initialSequenceValue format period policy < 2 ^ 53 := by
  unfold initialSequenceValue
  split
  · decide
  · split
    · decide
    · exact format.numbering.valid.2.2

end Printing

/-! ### Generations -/

/-- What a generation is given: the version of the format, the policy of its server and the
year of its clock. -/
structure Generation where
  format : DocumentFormat
  policy : DocumentNumberingPolicy
  year : ℤ

/-- The row of the sequences that a generation takes its value from. -/
abbrev SequenceKey := String × String

namespace Generation

def period (generation : Generation) : String := periodFor generation.format generation.year

def key (generation : Generation) : SequenceKey := (generation.format.key, generation.period)

def initial (generation : Generation) : ℕ :=
  initialSequenceValue generation.format generation.period generation.policy

end Generation

/-- A document of the store, by the generation that recorded it. -/
structure Document where
  generation : Generation
  sequenceValue : ℕ
  number : String

/-- The document that a generation records with the value it has reserved. -/
def documentOf (generation : Generation) (current : ℕ) : Document where
  generation := generation
  sequenceValue := toNumber current
  number := formatNumber generation.format generation.period (toNumber current)

/-- How far a transaction has come. The row of a sequence that it has itself inserted is known
to nobody else until it commits. -/
inductive Stage where
  /-- The format, the signers and the template have been read. -/
  | begun (generation : Generation)
  /-- The row of the sequence is there: committed, or inserted by the transaction. -/
  | sequenced (generation : Generation) (own : Option ℕ)
  /-- The next value is reserved, and the files are rendered and stored. -/
  | reserved (generation : Generation) (own : Option ℕ) (current : ℕ)
  /-- The document is recorded, with its signers, and its process has been told. -/
  | recorded (generation : Generation) (own : Option ℕ) (current : ℕ)

/-- The row that a transaction has written, and holds until it ends. -/
def Stage.held : Stage → Option SequenceKey
  | .begun _ => none
  | .sequenced generation own => own.map fun _ => generation.key
  | .reserved generation _ _ => some generation.key
  | .recorded generation _ _ => some generation.key

/-- What is committed, and the transactions in progress. -/
structure System where
  sequences : SequenceKey → Option ℕ
  documents : List Document
  transactions : ℕ → Option Stage

/-- Before the first document. -/
def System.start : System where
  sequences := fun _ => none
  documents := []
  transactions := fun _ => none

/-- Put a transaction in a stage, or end it. -/
def System.at (system : System) (n : ℕ) (stage : Option Stage) : System :=
  { system with transactions := Function.update system.transactions n stage }

/-- No other transaction holds a row. -/
def System.Free (system : System) (n : ℕ) (key : SequenceKey) : Prop :=
  ∀ other stage, other ≠ n → system.transactions other = some stage → stage.held ≠ some key

/-- No document of the format, committed or recorded by another transaction, has a number. -/
def System.Unprinted (system : System) (n : ℕ) (document : Document) : Prop :=
  (∀ other ∈ system.documents, other.generation.format.key = document.generation.format.key →
    other.number ≠ document.number) ∧
  ∀ other generation own current, other ≠ n →
    system.transactions other = some (.recorded generation own current) →
    generation.format.key = document.generation.format.key →
    (documentOf generation current).number ≠ document.number

/-- A statement of a transaction, or its end. A statement that has to wait for a row is not
taken until the transaction that holds the row has ended. -/
inductive Step (system : System) : System → Prop
  | begun (n : ℕ) (generation : Generation) (hfree : system.transactions n = none) :
      Step system (system.at n (some (.begun generation)))
  | found (n : ℕ) (generation : Generation) (value : ℕ)
      (hstage : system.transactions n = some (.begun generation))
      (hvalue : system.sequences generation.key = some value) :
      Step system (system.at n (some (.sequenced generation none)))
  | inserted (n : ℕ) (generation : Generation)
      (hstage : system.transactions n = some (.begun generation))
      (habsent : system.sequences generation.key = none)
      (hfree : system.Free n generation.key) :
      Step system (system.at n (some (.sequenced generation (some generation.initial))))
  | reserved (n : ℕ) (generation : Generation) (own : Option ℕ) (value : ℕ)
      (hstage : system.transactions n = some (.sequenced generation own))
      (hvalue : (own <|> system.sequences generation.key) = some value)
      (hfree : system.Free n generation.key) :
      Step system (system.at n (some (.reserved generation own (value + 1))))
  | recorded (n : ℕ) (generation : Generation) (own : Option ℕ) (current : ℕ)
      (hstage : system.transactions n = some (.reserved generation own current))
      (hunique : system.Unprinted n (documentOf generation current)) :
      Step system (system.at n (some (.recorded generation own current)))
  | committed (n : ℕ) (generation : Generation) (own : Option ℕ) (current : ℕ)
      (hstage : system.transactions n = some (.recorded generation own current)) :
      Step system { system.at n none with
        sequences := Function.update system.sequences generation.key (some current)
        documents := system.documents ++ [documentOf generation current] }
  | failed (n : ℕ) : Step system (system.at n none)

/-- The systems that steps lead to from before the first document. -/
def Reachable (system : System) : Prop := Relation.ReflTransGen Step .start system

/-- The committed documents of a format and a period, in the order they were committed. -/
def documentsOf (documents : List Document) (key : SequenceKey) : List Document :=
  documents.filter fun document => document.generation.key = key

section Invariant

/-- The documents of a row of the sequences, against its committed value: consecutive values
from the one after the initial value of the first. -/
def Ledger (documents : List Document) : Option ℕ → Prop
  | none => documents = []
  | some value => ∃ first rest, documents = first :: rest ∧
      documents.map Document.sequenceValue =
        List.range' (first.generation.initial + 1) documents.length ∧
      value = first.generation.initial + documents.length ∧ value ≤ 2 ^ 53

/-- What a transaction that has reserved a value knows of the committed row. -/
def Reserves (sequences : SequenceKey → Option ℕ) (generation : Generation) (own : Option ℕ)
    (current : ℕ) : Prop :=
  match own with
  | some initial => sequences generation.key = none ∧ initial = generation.initial ∧
      current = generation.initial + 1
  | none => ∃ value, sequences generation.key = some value ∧ current = value + 1

/-- What holds of a transaction in progress. -/
def Sound (sequences : SequenceKey → Option ℕ) : Stage → Prop
  | .begun _ => True
  | .sequenced generation own => ∀ initial, own = some initial →
      sequences generation.key = none ∧ initial = generation.initial
  | .reserved generation own current => Reserves sequences generation own current
  | .recorded generation own current =>
    Reserves sequences generation own current ∧ current ≤ 2 ^ 53

/-- What a transaction knows of the row that it holds is not changed by the others. -/
theorem Sound.of_kept {sequences after : SequenceKey → Option ℕ} {stage : Stage}
    (h : Sound sequences stage)
    (hkept : ∀ key, stage.held = some key → after key = sequences key) : Sound after stage := by
  cases stage with
  | begun generation => trivial
  | sequenced generation own =>
    intro initial hown
    subst hown
    rw [hkept generation.key rfl]
    exact h initial rfl
  | reserved generation own current =>
    unfold Sound Reserves at h ⊢
    dsimp only at h ⊢
    rw [hkept generation.key rfl]
    exact h
  | recorded generation own current =>
    unfold Sound Reserves at h ⊢
    dsimp only at h ⊢
    rw [hkept generation.key rfl]
    exact h

/-- What holds of every reachable system. -/
structure Numbered (system : System) : Prop where
  ledger : ∀ key, Ledger (documentsOf system.documents key) (system.sequences key)
  printed : ∀ document ∈ system.documents, document.number =
    formatNumber document.generation.format document.generation.period document.sequenceValue
  sound : ∀ n stage, system.transactions n = some stage → Sound system.sequences stage
  /-- A row is held by one transaction. -/
  apart : ∀ n other stage stage' key, system.transactions n = some stage →
    system.transactions other = some stage' → stage.held = some key → stage'.held = some key →
    n = other

theorem Numbered.start : Numbered .start where
  ledger _ := rfl
  printed _ h := by cases h
  sound _ _ h := by cases h
  apart _ _ _ _ _ h := by cases h

theorem System.at_transactions {system : System} {n other : ℕ} {stage : Option Stage}
    {found : Stage} (h : (system.at n stage).transactions other = some found) :
    (other = n ∧ stage = some found) ∨ (other ≠ n ∧ system.transactions other = some found) := by
  unfold System.at at h
  dsimp only at h
  rcases eq_or_ne other n with rfl | hne
  · rw [Function.update_self] at h
    exact .inl ⟨rfl, h⟩
  · rw [Function.update_of_ne hne] at h
    exact .inr ⟨hne, h⟩

/-- A transaction goes on or ends. A row that it holds then is held by no other. -/
theorem Numbered.at {system : System} (h : Numbered system) (n : ℕ) (stage : Option Stage)
    (hsound : ∀ found, stage = some found → Sound system.sequences found)
    (hfree : ∀ found key, stage = some found → found.held = some key → system.Free n key) :
    Numbered (system.at n stage) where
  ledger := h.ledger
  printed := h.printed
  sound other found hother := by
    rcases System.at_transactions hother with ⟨rfl, hfound⟩ | ⟨-, hbefore⟩
    · exact hsound found hfound
    · exact h.sound other found hbefore
  apart first second found found' key hfirst hsecond hheld hheld' := by
    rcases System.at_transactions hfirst with ⟨rfl, hfound⟩ | ⟨hne, hbefore⟩
    · rcases System.at_transactions hsecond with ⟨rfl, -⟩ | ⟨hne', hbefore'⟩
      · rfl
      · exact absurd hheld' (hfree found key hfound hheld second found' hne' hbefore')
    · rcases System.at_transactions hsecond with ⟨rfl, hfound'⟩ | ⟨-, hbefore'⟩
      · exact absurd hheld (hfree found' key hfound' hheld' first found hne hbefore)
      · exact h.apart first second found found' key hbefore hbefore' hheld hheld'

/-- No other transaction holds a row that a transaction holds. -/
theorem Numbered.free {system : System} (h : Numbered system) {n : ℕ} {stage : Stage}
    {key : SequenceKey} (hstage : system.transactions n = some stage)
    (hheld : stage.held = some key) : system.Free n key :=
  fun other found hne hother hfound => hne (h.apart other n found stage key hother hstage hfound hheld)

theorem mem_documentsOf {documents : List Document} {key : SequenceKey} {document : Document} :
    document ∈ documentsOf documents key ↔
      document ∈ documents ∧ document.generation.key = key := by
  unfold documentsOf
  rw [List.mem_filter, decide_eq_true_eq]

/-- A committed value is that of a committed document. -/
theorem Ledger.exists_last {documents : List Document} {value : ℕ}
    (h : Ledger documents (some value)) :
    ∃ document ∈ documents, document.sequenceValue = value := by
  obtain ⟨first, rest, hdocuments, hvalues, hvalue, -⟩ := h
  have hmem : value ∈ documents.map Document.sequenceValue := by
    rw [hvalues, List.mem_range'_1, hdocuments, List.length_cons]
    rw [hdocuments, List.length_cons] at hvalue
    omega
  exact List.mem_map.mp hmem

/-- A value that is reserved and then recorded is a safe integer or the one after: were it a
larger one, its number would be rounded to the last, which is taken. -/
theorem Numbered.recorded_le {system : System} (h : Numbered system) {n : ℕ}
    {generation : Generation} {own : Option ℕ} {current : ℕ}
    (hstage : system.transactions n = some (.reserved generation own current))
    (hunique : system.Unprinted n (documentOf generation current)) : current ≤ 2 ^ 53 := by
  have hreserves : Reserves system.sequences generation own current := h.sound n _ hstage
  have hledger := h.ledger generation.key
  cases own with
  | some initial =>
    obtain ⟨-, -, rfl⟩ := hreserves
    have hlt : generation.initial < 2 ^ 53 := initialSequenceValue_lt _ _ _
    omega
  | none =>
    obtain ⟨value, hvalue, rfl⟩ := hreserves
    rw [hvalue] at hledger
    have hle : value ≤ 2 ^ 53 := by
      obtain ⟨-, -, -, -, -, hle⟩ := hledger
      exact hle
    by_contra hlarge
    have hlast : value = 2 ^ 53 := by omega
    obtain ⟨document, hdocument, hsequence⟩ := hledger.exists_last
    obtain ⟨hmem, hkey⟩ := mem_documentsOf.mp hdocument
    have hformat : document.generation.format.key = generation.format.key :=
      congrArg Prod.fst hkey
    have hperiod : document.generation.period = generation.period := congrArg Prod.snd hkey
    refine hunique.1 document hmem hformat ?_
    rw [h.printed document hmem, hsequence, hperiod, hlast]
    unfold documentOf
    dsimp only
    rw [toNumber_next]
    exact formatNumber_of_long (perYear_of_periodFor hperiod) (by decide)

/-- The documents of a key after another one is committed. -/
theorem documentsOf_append (documents : List Document) (document : Document)
    (key : SequenceKey) :
    documentsOf (documents ++ [document]) key =
      documentsOf documents key ++ if document.generation.key = key then [document] else [] := by
  unfold documentsOf
  rw [List.filter_append]
  by_cases hkey : document.generation.key = key <;> simp [hkey]

/-- The ledger goes on with the value after the committed one. -/
theorem Ledger.concat {documents : List Document} {value : ℕ} {document : Document}
    (h : Ledger documents (some value)) (hnext : document.sequenceValue = value + 1)
    (hle : value + 1 ≤ 2 ^ 53) : Ledger (documents ++ [document]) (some (value + 1)) := by
  obtain ⟨first, rest, rfl, hvalues, hvalue, -⟩ := h
  refine ⟨first, rest ++ [document], rfl, ?_, ?_, hle⟩
  · rw [List.map_append, hvalues, List.map_singleton, hnext, hvalue, List.length_append,
      List.length_singleton, List.range'_concat]
    simp only [Nat.one_mul]
    congr 2
    omega
  · rw [List.length_append, List.length_singleton]
    omega

/-- A ledger begins with the value after the initial one. -/
theorem Ledger.first {document : Document}
    (hnext : document.sequenceValue = document.generation.initial + 1)
    (hle : document.generation.initial + 1 ≤ 2 ^ 53) :
    Ledger [document] (some (document.generation.initial + 1)) :=
  ⟨document, [], rfl, by rw [List.map_singleton, hnext]; rfl, rfl, hle⟩

/-- A transaction commits its document and its row. -/
theorem Numbered.commit {system : System} (h : Numbered system) {n : ℕ}
    {generation : Generation} {own : Option ℕ} {current : ℕ}
    (hstage : system.transactions n = some (.recorded generation own current)) :
    Numbered { system.at n none with
      sequences := Function.update system.sequences generation.key (some current)
      documents := system.documents ++ [documentOf generation current] } := by
  have hrecorded : Reserves system.sequences generation own current ∧ current ≤ 2 ^ 53 :=
    h.sound n _ hstage
  obtain ⟨hreserves, hle⟩ := hrecorded
  have hsequence : (documentOf generation current).sequenceValue = current := toNumber_of_le hle
  have hfree : system.Free n generation.key := h.free hstage rfl
  have hothers : ∀ other found, (system.at n none).transactions other = some found →
      other ≠ n ∧ system.transactions other = some found := by
    intro other found hother
    rcases System.at_transactions hother with ⟨-, hnone⟩ | hbefore
    · cases hnone
    · exact hbefore
  constructor
  case ledger =>
    intro key
    dsimp only
    rw [documentsOf_append]
    by_cases hkey : generation.key = key
    · subst hkey
      rw [Function.update_self]
      have happended : (if (documentOf generation current).generation.key = generation.key then
          [documentOf generation current] else []) = [documentOf generation current] := if_pos rfl
      rw [happended]
      have hledger := h.ledger generation.key
      cases own with
      | some initial =>
        obtain ⟨hnone, -, rfl⟩ := hreserves
        rw [hnone] at hledger
        have hempty : documentsOf system.documents generation.key = [] := hledger
        rw [hempty]
        exact Ledger.first hsequence hle
      | none =>
        obtain ⟨value, hvalue, rfl⟩ := hreserves
        rw [hvalue] at hledger
        exact hledger.concat hsequence hle
    · have hskipped : (if (documentOf generation current).generation.key = key then
          [documentOf generation current] else []) = [] := if_neg hkey
      rw [hskipped, List.append_nil, Function.update_of_ne (Ne.symm hkey)]
      exact h.ledger key
  case printed =>
    intro document hmem
    rcases List.mem_append.mp hmem with hbefore | hlast
    · exact h.printed document hbefore
    · rw [List.mem_singleton.mp hlast]
      rfl
  case sound =>
    -- the others hold other rows, so what they know of theirs stays
    intro other found hother
    obtain ⟨hne, hbefore⟩ := hothers other found hother
    refine (h.sound other found hbefore).of_kept fun key hheld => ?_
    refine Function.update_of_ne ?_ _ _
    rintro rfl
    exact hfree other found hne hbefore hheld
  case apart =>
    intro first second found found' key hfirst hsecond hheld hheld'
    exact h.apart first second found found' key (hothers first found hfirst).2
      (hothers second found' hsecond).2 hheld hheld'

/-- Every step keeps the invariant. -/
theorem Numbered.step {system after : System} (h : Numbered system) (hstep : Step system after) :
    Numbered after := by
  cases hstep with
  | begun n generation hfree =>
    refine h.at n _ (fun found hfound => ?_) fun found key hfound hheld => ?_
    · cases hfound
      trivial
    · cases hfound
      cases hheld
  | found n generation value hstage hvalue =>
    refine h.at n _ (fun found hfound => ?_) fun found key hfound hheld => ?_
    · cases hfound
      intro initial hown
      cases hown
    · cases hfound
      cases hheld
  | inserted n generation hstage habsent hfree =>
    refine h.at n _ (fun found hfound => ?_) fun found key hfound hheld => ?_
    · cases hfound
      intro initial hown
      cases hown
      exact ⟨habsent, rfl⟩
    · cases hfound
      cases hheld
      exact hfree
  | reserved n generation own value hstage hvalue hfree =>
    have hsequenced : Sound system.sequences (.sequenced generation own) := h.sound n _ hstage
    refine h.at n _ (fun found hfound => ?_) fun found key hfound hheld => ?_
    · cases hfound
      cases own with
      | none => exact ⟨value, hvalue, rfl⟩
      | some initial =>
        obtain ⟨habsent, hinitial⟩ := hsequenced initial rfl
        have hsame : initial = value := Option.some.inj hvalue
        exact ⟨habsent, hinitial, by rw [← hsame, hinitial]⟩
    · cases hfound
      cases hheld
      exact hfree
  | recorded n generation own current hstage hunique =>
    refine h.at n _ (fun found hfound => ?_) fun found key hfound hheld => ?_
    · cases hfound
      exact ⟨h.sound n _ hstage, h.recorded_le hstage hunique⟩
    · cases hfound
      exact h.free hstage hheld
  | committed n generation own current hstage => exact h.commit hstage
  | failed n =>
    refine h.at n none (fun found hfound => ?_) fun found key hfound => ?_
    · cases hfound
    · cases hfound

theorem Reachable.numbered {system : System} (h : Reachable system) : Numbered system := by
  induction h with
  | refl => exact Numbered.start
  | tail _ hstep ih => exact ih.step hstep

end Invariant

section Numbers

/-- The committed documents of a key carry the period of the key, and are printed by it. -/
theorem Numbered.printed_of_mem {system : System} (h : Numbered system)
    {formatKey period : String} {document : Document}
    (hdocument : document ∈ documentsOf system.documents (formatKey, period)) :
    document.generation.period = period ∧
      document.number = formatNumber document.generation.format period
        document.sequenceValue := by
  obtain ⟨hmem, hkey⟩ := mem_documentsOf.mp hdocument
  have hperiod : document.generation.period = period := congrArg Prod.snd hkey
  refine ⟨hperiod, ?_⟩
  rw [h.printed document hmem, hperiod]

/-- The committed values of a key are consecutive. -/
theorem Numbered.values_eq {system : System} (h : Numbered system) {key : SequenceKey}
    {first : Document} {rest : List Document}
    (hdocuments : documentsOf system.documents key = first :: rest) :
    (documentsOf system.documents key).map Document.sequenceValue =
      List.range' (first.generation.initial + 1) (documentsOf system.documents key).length := by
  have hledger := h.ledger key
  cases hsequence : system.sequences key with
  | none =>
    rw [hsequence] at hledger
    have hempty : documentsOf system.documents key = [] := hledger
    rw [hempty] at hdocuments
    cases hdocuments
  | some value =>
    rw [hsequence] at hledger
    obtain ⟨first', rest', hdocuments', hvalues, -, -⟩ := hledger
    rw [hdocuments] at hdocuments'
    cases hdocuments'
    exact hvalues

/-- No two committed documents of a key are printed alike: the values are all different, and a
number tells its value. -/
theorem Numbered.nodup_numbers {system : System} (h : Numbered system)
    (formatKey period : String) :
    ((documentsOf system.documents (formatKey, period)).map Document.number).Nodup := by
  have hnodup : ((documentsOf system.documents (formatKey, period)).map
      Document.sequenceValue).Nodup := by
    cases hdocuments : documentsOf system.documents (formatKey, period) with
    | nil => exact List.nodup_nil
    | cons first rest =>
      rw [← hdocuments, h.values_eq hdocuments]
      exact List.nodup_range'
  refine List.Nodup.map_on ?_ (List.Nodup.of_map _ hnodup)
  intro document hdocument other hother hnumber
  have hprinted := h.printed_of_mem hdocument
  have hprinted' := h.printed_of_mem hother
  rw [hprinted.2, hprinted'.2] at hnumber
  have hyear := perYear_of_periodFor (hprinted.1.trans hprinted'.1.symm)
  exact List.inj_on_of_nodup_map hnodup hdocument hother (formatNumber_inj hyear hnumber)

/-- At every moment of every run the committed documents of a format and a period carry
consecutive values, in the order they were committed and each once, from the one after the
initial value of the first, and their printed numbers are all different. -/
theorem committed_documents_consecutive {system : System} (h : Reachable system)
    (formatKey period : String) :
    (∀ first rest, documentsOf system.documents (formatKey, period) = first :: rest →
        (documentsOf system.documents (formatKey, period)).map Document.sequenceValue =
          List.range' (initialSequenceValue first.generation.format period
              first.generation.policy + 1)
            (documentsOf system.documents (formatKey, period)).length) ∧
      ((documentsOf system.documents (formatKey, period)).map Document.number).Nodup ∧
      ∀ document ∈ documentsOf system.documents (formatKey, period),
        document.number = formatNumber document.generation.format period
          document.sequenceValue := by
  have hnumbered := h.numbered
  refine ⟨fun first rest hdocuments => ?_, hnumbered.nodup_numbers formatKey period,
    fun document hdocument => (hnumbered.printed_of_mem hdocument).2⟩
  have hfirst : first ∈ documentsOf system.documents (formatKey, period) := by
    rw [hdocuments]
    exact List.mem_cons_self ..
  rw [hnumbered.values_eq hdocuments, Generation.initial, (hnumbered.printed_of_mem hfirst).1]

/-- No transaction is in progress. -/
def System.Idle (system : System) : Prop := ∀ n, system.transactions n = none

theorem System.Idle.at_none {system : System} (h : system.Idle) (n : ℕ) (stage : Option Stage) :
    ((system.at n stage).at n none).Idle := by
  intro other
  unfold System.at
  dsimp only
  rw [Function.update_idem]
  rcases eq_or_ne other n with rfl | hne
  · exact Function.update_self ..
  · exact (Function.update_of_ne hne ..).trans (h other)

/-- A transaction that is alone finds every row free. -/
theorem System.Idle.free {system : System} (h : system.Idle) (n : ℕ) (stage : Option Stage)
    (key : SequenceKey) : (system.at n stage).Free n key := by
  intro other found hne hother
  rcases System.at_transactions hother with ⟨rfl, -⟩ | ⟨-, hbefore⟩
  · exact absurd rfl hne
  · rw [h other] at hbefore
    cases hbefore

/-- A generation that runs alone takes its row and reserves the value after the committed one,
or after the initial one when there is none. -/
theorem Reachable.reserve {system : System} (h : Reachable system) (hidle : system.Idle) (n : ℕ)
    (generation : Generation) :
    ∃ own, Reachable (system.at n (some (.reserved generation own
      ((system.sequences generation.key).getD generation.initial + 1)))) := by
  have hbegun := h.tail (Step.begun n generation (hidle n))
  have hat : ∀ stage : Stage, (system.at n (some stage)).transactions n = some stage :=
    fun stage => Function.update_self ..
  have htwice : ∀ first second : Option Stage,
      (system.at n first).at n second = system.at n second := by
    intro first second
    unfold System.at
    simp
  cases hsequence : system.sequences generation.key with
  | some value =>
    have hfound := hbegun.tail (Step.found n generation value (hat _) hsequence)
    rw [htwice] at hfound
    have hreserved := hfound.tail
      (Step.reserved n generation none value (hat _) hsequence (hidle.free n _ _))
    rw [htwice] at hreserved
    exact ⟨none, hreserved⟩
  | none =>
    have hinserted := hbegun.tail
      (Step.inserted n generation (hat _) hsequence (hidle.free n _ _))
    rw [htwice] at hinserted
    have hreserved := hinserted.tail (Step.reserved n generation (some generation.initial)
      generation.initial (hat _) rfl (hidle.free n _ _))
    rw [htwice] at hreserved
    exact ⟨some generation.initial, hreserved⟩

/-- A generation that runs alone commits its document when its number is not taken. -/
theorem Reachable.generate {system : System} (h : Reachable system) (hidle : system.Idle) (n : ℕ)
    (generation : Generation) (current : ℕ)
    (hcurrent : (system.sequences generation.key).getD generation.initial + 1 = current)
    (hunique : ∀ other ∈ system.documents,
      other.generation.format.key = generation.format.key →
      other.number ≠ (documentOf generation current).number) :
    ∃ after, Reachable after ∧ after.Idle ∧
      after.sequences = Function.update system.sequences generation.key (some current) ∧
      after.documents = system.documents ++ [documentOf generation current] := by
  obtain ⟨own, hreserved⟩ := h.reserve hidle n generation
  rw [hcurrent] at hreserved
  have hrecorded := hreserved.tail (Step.recorded n generation own current
    (Function.update_self ..) ⟨hunique, fun other found own' current' hne hother => by
      rcases System.at_transactions hother with ⟨rfl, -⟩ | ⟨-, hbefore⟩
      · exact absurd rfl hne
      · rw [hidle other] at hbefore
        cases hbefore⟩)
  have hcommitted := hrecorded.tail
    (Step.committed n generation own current (Function.update_self ..))
  refine ⟨_, hcommitted, ?_, rfl, rfl⟩
  have hended := hidle.at_none n (some (.recorded generation own current))
  intro other
  have hother := hended other
  unfold System.at at hother ⊢
  simpa using hother

/-- The act of a delivery, of which 92 were issued before the system. -/
def deliveryAct : DocumentFormat where
  key := "OCI-01-55"
  versionId := "v1"
  numbering := ⟨4, false, 92, none, by decide⟩

def delivery : Generation := ⟨deliveryAct, .continue_, 2026⟩

/-- A generation that fails after it took its number, and two that commit. -/
theorem deliveries_reachable : ∃ system, Reachable system ∧
    documentsOf system.documents ("OCI-01-55", "") =
      [documentOf delivery 93, documentOf delivery 94] := by
  have hidle : System.start.Idle := fun _ => rfl
  have hstart : Reachable .start := .refl
  obtain ⟨own, hreserved⟩ := hstart.reserve hidle 1 delivery
  have hfailed := hreserved.tail (Step.failed 1)
  obtain ⟨first, hfirst, hfirstIdle, hsequences, hdocuments⟩ :=
    Reachable.generate hfailed (hidle.at_none 1 _) 2 delivery 93 rfl
      fun other hother => by cases hother
  obtain ⟨second, hsecond, -, -, hdocuments'⟩ := hfirst.generate hfirstIdle 3 delivery 94
    (by rw [hsequences, Function.update_self]; rfl)
    (by
      intro other hother _
      rw [hdocuments] at hother
      cases List.mem_singleton.mp hother
      decide)
  refine ⟨second, hsecond, ?_⟩
  rw [hdocuments', hdocuments]
  rfl

theorem committed_documents_consecutive_deliveries : ∃ system, Reachable system ∧
    (documentsOf system.documents ("OCI-01-55", "")).map Document.number = ["0093", "0094"] ∧
    (documentsOf system.documents ("OCI-01-55", "")).map Document.sequenceValue =
      List.range' (initialSequenceValue deliveryAct "" .continue_ + 1) 2 ∧
    ((documentsOf system.documents ("OCI-01-55", "")).map Document.number).Nodup := by
  obtain ⟨system, hreachable, hdocuments⟩ := deliveries_reachable
  have hconsecutive := committed_documents_consecutive hreachable "OCI-01-55" ""
  have hvalues := hconsecutive.1 (documentOf delivery 93) [documentOf delivery 94] hdocuments
  rw [hdocuments] at hvalues
  refine ⟨system, hreachable, ?_, ?_, hconsecutive.2.1⟩
  · rw [hdocuments]
    decide
  · rw [hdocuments]
    exact hvalues

end Numbers

end InternalControl.DocumentNumbers
