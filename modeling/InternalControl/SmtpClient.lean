import Mathlib
import InternalControl.Base64
import InternalControl.EmailUrl

/-!
# Mails on the wire

A mail is sent as two commands and a payload. Its addresses are checked and its subject, its
names and its bodies are encoded, so that each part of it stands on lines of its own.
-/

namespace InternalControl.SmtpClient

open CodeUnits EmailUrl HtmlText Base64

/-! ### Bytes -/

/-- The characters of a text, one or two code units each. -/
def characters : Units → List Units
  | [] => []
  | [u] => [[u]]
  | u :: v :: rest =>
    if isHigh u && isLow v then [u, v] :: characters rest else [u] :: characters (v :: rest)

/-- The scalar value of a character. A surrogate alone is replaced. -/
def scalar : Units → ℕ
  | [u, v] => 0x10000 + (u.toNat - 0xD800) * 1024 + (v.toNat - 0xDC00)
  | [u] => (replacement u).toNat
  | _ => 0

def scalarBytes (point : ℕ) : List UInt8 :=
  if point < 0x80 then [point.toUInt8]
  else if point < 0x800 then [(0xC0 + point / 64).toUInt8, (0x80 + point % 64).toUInt8]
  else if point < 0x10000 then
    [(0xE0 + point / 4096).toUInt8, (0x80 + point / 64 % 64).toUInt8, (0x80 + point % 64).toUInt8]
  else
    [(0xF0 + point / 262144).toUInt8, (0x80 + point / 4096 % 64).toUInt8,
      (0x80 + point / 64 % 64).toUInt8, (0x80 + point % 64).toUInt8]

def utf8 (text : Units) : List UInt8 :=
  (characters text).flatMap fun char => scalarBytes (scalar char)

/-! ### Addresses -/

/-- The field of a mail that is refused. -/
inductive MailField where
  | to_
  | from_
  | fromName
  deriving DecidableEq

def isControl (u : UInt16) : Bool := u ≤ 0x1F || u = 0x7F || u = 0x2028 || u = 0x2029

def hasControlChars (value : Units) : Bool := value.any isControl

def isAlnum (u : UInt16) : Bool := isLetter u || isDigit u

def isAtomUnit (u : UInt16) : Bool :=
  isAlnum u || (plain "!#$%&'*+/=?^_`\x7b|\x7d~-").contains u

def atSign : UInt16 := 64

def dot : UInt16 := 46

/-- A part of the name of a domain. -/
def isLabel (label : Units) : Bool :=
  decide (label.length ≤ 63) && label.head?.any isAlnum && label.getLast?.any isAlnum &&
    label.all fun u => isAlnum u || u = 45

def isMailbox (value : Units) : Bool :=
  match value.splitOn atSign with
  | [name, domain] =>
    ((name.splitOn dot).all fun atom => !atom.isEmpty && atom.all isAtomUnit) &&
      decide (2 ≤ (domain.splitOn dot).length) && (domain.splitOn dot).all isLabel
  | _ => false

/-- Where the last at sign of an address stands. -/
def lastAt (value : Units) : Option ℕ :=
  (value.reverse.findIdx? fun u => u = atSign).map fun index => value.length - 1 - index

def isValidMailbox (value : Units) : Bool :=
  if value.length = 0 || 254 < value.length || hasControlChars value then false
  else (lastAt value).any fun at_ => decide (0 < at_) && decide (at_ ≤ 64) && isMailbox value

structure ParsedFrom where
  name : Option Units
  address : Units

/-- A name and the address between angle brackets after it. -/
def angled (text : Units) : Option (Units × Units) :=
  let isInner := fun u : UInt16 => u != lessThan && u != greaterThan
  match text.dropWhile isInner with
  | [] => none
  | u :: inner =>
    if u = lessThan && inner.takeWhile isInner ≠ [] && inner.dropWhile isInner = [greaterThan] then
      some (text.takeWhile isInner, inner.takeWhile isInner)
    else none

def parseFrom (from_ : Units) : Except MailField ParsedFrom :=
  match angled (trimUnits from_) with
  | some (name, address) =>
    if hasControlChars (trimUnits name) then .error .fromName
    else if isValidMailbox (trimUnits address) then
      .ok ⟨if trimUnits name = [] then none else some (trimUnits name), trimUnits address⟩
    else .error .from_
  | none =>
    if isValidMailbox (trimUnits from_) then .ok ⟨none, trimUnits from_⟩ else .error .from_

/-! ### Messages -/

def crlf : Units := [13, 10]

def encodedWordBytes : ℕ := 39

/-- The words of a header, none of them longer than what an encoded word may have. -/
def headerWords (chunk : Units) : List Units → List Units
  | [] => [chunk]
  | char :: rest =>
    if encodedWordBytes < (utf8 (chunk ++ char)).length then chunk :: headerWords char rest
    else headerWords (chunk ++ char) rest

def encodedWord (word : Units) : Units :=
  plain "=?UTF-8?B?" ++ base64 (utf8 word) ++ plain "?="

def encodeHeaderWord (value : Units) : Units :=
  (crlf ++ [space]).intercalate ((headerWords [] (characters value)).map encodedWord)

/-- Every end of a line becomes a carriage return with a line feed. -/
def crlfLines : Units → Units
  | [] => []
  | [u] => if u = 13 || u = 10 then crlf else [u]
  | u :: v :: rest =>
    if u = 13 && v = 10 then crlf ++ crlfLines rest
    else if u = 13 || u = 10 then crlf ++ crlfLines (v :: rest)
    else u :: crlfLines (v :: rest)

/-- The pieces of a text of a length; the first number is at least how many they are. -/
def piecesWithin (size : ℕ) : ℕ → Units → List Units
  | 0, _ => []
  | fuel + 1, text =>
    if text = [] then [] else text.take size :: piecesWithin size fuel (text.drop size)

def bodyLines (content : Units) : List Units :=
  let encoded := base64 (utf8 (crlfLines content))
  if encoded = [] then [[]] else piecesWithin 76 encoded.length encoded

def encodeBase64Body (content : Units) : Units := crlf.intercalate (bodyLines content)

structure SmtpSendOptions where
  from_ : Units
  to_ : Units
  subject : Units
  text : Units
  html : Option Units

/-- What a mail takes from the clock and from the random generator: a date, an identifier and
a boundary. None of them has a control character. -/
structure Stamp where
  date : Units
  uuid : Units
  boundary : Units
  noControl : hasControlChars (date ++ uuid ++ boundary) = false

structure SmtpMessage where
  mailFrom : Units
  rcptTo : Units
  payload : Units

def fromHeader (sender : ParsedFrom) : Units :=
  match sender.name with
  | some name => encodeHeaderWord name ++ plain " <" ++ sender.address ++ plain ">"
  | none => sender.address

/-- What follows the last at sign. -/
def domainOf (address : Units) : Units := address.rtakeWhile fun u => u != atSign

def headers (options : SmtpSendOptions) (stamp : Stamp) (to_ : Units) (sender : ParsedFrom) :
    List Units :=
  [plain "From: " ++ fromHeader sender, plain "To: " ++ to_,
    plain "Subject: " ++ encodeHeaderWord options.subject, plain "Date: " ++ stamp.date,
    plain "Message-ID: <" ++ stamp.uuid ++ plain "@" ++ domainOf sender.address ++ plain ">",
    plain "MIME-Version: 1.0"]

def partHeaders (type : Units) : List Units :=
  [plain "Content-Type: " ++ type ++ plain "; charset=utf-8",
    plain "Content-Transfer-Encoding: base64"]

def part (type content : Units) : List Units := partHeaders type ++ [[], encodeBase64Body content]

def multipartHeader (stamp : Stamp) : Units :=
  plain "Content-Type: multipart/alternative; boundary=\"" ++ stamp.boundary ++ plain "\""

def messageLines (options : SmtpSendOptions) (stamp : Stamp) (to_ : Units) (sender : ParsedFrom) :
    List Units :=
  match options.html with
  | none => headers options stamp to_ sender ++ part (plain "text/plain") options.text
  | some html =>
    headers options stamp to_ sender ++
      [multipartHeader stamp, [], plain "--" ++ stamp.boundary] ++
      part (plain "text/plain") options.text ++ [plain "--" ++ stamp.boundary] ++
      part (plain "text/html") html ++ [plain "--" ++ stamp.boundary ++ plain "--"]

def prepareSmtpMessage (options : SmtpSendOptions) (stamp : Stamp) :
    Except MailField SmtpMessage :=
  let to_ := trimUnits options.to_
  if isValidMailbox to_ then
    match parseFrom options.from_ with
    | .error field => .error field
    | .ok sender => .ok
        { mailFrom := plain "MAIL FROM:<" ++ sender.address ++ plain ">"
          rcptTo := plain "RCPT TO:<" ++ to_ ++ plain ">"
          payload := crlf.intercalate (messageLines options stamp to_ sender ++ [plain "."]) }
  else .error .to_

/-- What is written to the connection, in its order. -/
def deliver (message : SmtpMessage) : List Units :=
  [message.mailFrom, message.rcptTo, plain "DATA", message.payload, plain "QUIT"].map (· ++ crlf)

/-! ### Lines -/

/-- A text without the end of a line. -/
def Unbroken (text : Units) : Prop := ∀ u ∈ text, u ≠ 13 ∧ u ≠ 10

/-- A line that a server takes as it is: unbroken, and not with a dot first. -/
def IsLine (line : Units) : Prop := Unbroken line ∧ line.head? ≠ some dot

theorem Unbroken.append {first second : Units} (hfirst : Unbroken first)
    (hsecond : Unbroken second) : Unbroken (first ++ second) := by
  intro u hu
  rcases List.mem_append.mp hu with hu | hu
  · exact hfirst u hu
  · exact hsecond u hu

theorem Unbroken.of_subset {part text : Units} (h : Unbroken text) (hsub : part ⊆ text) :
    Unbroken part := fun u hu => h u (hsub hu)

theorem unbroken_of_noControl {text : Units} (h : hasControlChars text = false) :
    Unbroken text := by
  have hcr : isControl 13 = true := by decide
  have hlf : isControl 10 = true := by decide
  intro u hu
  have hnot := List.any_eq_false.mp h u hu
  constructor
  · rintro rfl
    exact hnot hcr
  · rintro rfl
    exact hnot hlf

theorem unbroken_of_base64 {line : Units} (h : ∀ u ∈ line, isBase64Unit u = true) :
    Unbroken line := by
  have hcr : isBase64Unit 13 = false := by decide
  have hlf : isBase64Unit 10 = false := by decide
  intro u hu
  have hunit := h u hu
  constructor
  · rintro rfl
    rw [hcr] at hunit
    cases hunit
  · rintro rfl
    rw [hlf] at hunit
    cases hunit

theorem unbroken_base64 (bytes : List UInt8) : Unbroken (base64 bytes) :=
  unbroken_of_base64 (isBase64Unit_base64 bytes)

/-- A line goes on with any text that is unbroken. -/
theorem IsLine.append {first second : Units} (hfirst : IsLine first) (hne : first ≠ [])
    (hsecond : Unbroken second) : IsLine (first ++ second) := by
  refine ⟨hfirst.1.append hsecond, ?_⟩
  rw [List.head?_append_of_ne_nil _ hne]
  exact hfirst.2

instance decidableUnbroken (text : Units) : Decidable (Unbroken text) :=
  decidable_of_iff ((text.all fun u => u != 13 && u != 10) = true) (by simp [Unbroken])

instance decidableIsLine (line : Units) : Decidable (IsLine line) :=
  inferInstanceAs (Decidable (Unbroken line ∧ line.head? ≠ some dot))

theorem intercalate_append {separator : Units} {first second : List Units} (hfirst : first ≠ [])
    (hsecond : second ≠ []) : separator.intercalate (first ++ second) =
      separator.intercalate first ++ separator ++ separator.intercalate second := by
  induction first with
  | nil => exact absurd rfl hfirst
  | cons line rest ih =>
    cases rest with
    | nil =>
      obtain ⟨next, more, rfl⟩ := List.exists_cons_of_ne_nil hsecond
      simp
    | cons next more =>
      have hrest := ih (by simp)
      simp only [List.cons_append, List.intercalate_cons_cons] at hrest ⊢
      rw [hrest]
      simp

/-! ### The lines of a message -/

theorem unbroken_encodedWord (word : Units) : Unbroken (encodedWord word) := by
  have hstart : Unbroken (plain "=?UTF-8?B?") := by decide
  have hend : Unbroken (plain "?=") := by decide
  exact (hstart.append (unbroken_base64 _)).append hend

/-- A line that goes on with the header before it. -/
def isFolded (line : Units) : Bool := line.head? = some space || line.head? = some 9

/-- A header with a start, folded into some lines. -/
def IsHeader (start text : Units) : Prop :=
  ∃ first rest, start <+: first ∧ IsLine first ∧
    (∀ line ∈ rest, IsLine line ∧ isFolded line = true) ∧
    crlf.intercalate (first :: rest) = text

theorem isHeader_of_unbroken {start rest : Units} (hstart : IsLine start) (hne : start ≠ [])
    (hrest : Unbroken rest) : IsHeader start (start ++ rest) :=
  ⟨start ++ rest, [], List.prefix_append _ _, hstart.append hne hrest, by simp, by simp⟩

theorem isHeader_folded {start last : Units} {words : List Units} (hstart : IsLine start)
    (hne : start ≠ []) (hwords : ∀ word ∈ words, Unbroken word) (hlast : Unbroken last) :
    IsHeader start (start ++ ((crlf ++ [space]).intercalate words ++ last)) := by
  induction words generalizing start with
  | nil => exact isHeader_of_unbroken hstart hne hlast
  | cons word rest ih =>
    have hword := hwords word List.mem_cons_self
    cases rest with
    | nil =>
      rw [List.intercalate_singleton]
      exact isHeader_of_unbroken hstart hne (hword.append hlast)
    | cons next more =>
      have hspace : IsLine [space] := by decide
      obtain ⟨first, others, hprefix, hfirst, hothers, heq⟩ :=
        ih hspace (by simp) fun word hword => hwords word (List.mem_cons_of_mem _ hword)
      have hfolded : isFolded first = true := by
        obtain ⟨tail, rfl⟩ := hprefix
        rfl
      refine ⟨start ++ word, first :: others, List.prefix_append _ _,
        hstart.append hne hword, ?_, ?_⟩
      · intro line hline
        rcases List.mem_cons.mp hline with rfl | hline
        · exact ⟨hfirst, hfolded⟩
        · exact hothers line hline
      · rw [List.intercalate_cons_cons, heq, List.intercalate_cons_cons]
        simp

theorem isHeader_word {start last : Units} (hstart : IsLine start) (hne : start ≠ [])
    (value : Units) (hlast : Unbroken last) :
    IsHeader start (start ++ (encodeHeaderWord value ++ last)) := by
  refine isHeader_folded hstart hne (fun word hword => ?_) hlast
  obtain ⟨chunk, _, rfl⟩ := List.mem_map.mp hword
  exact unbroken_encodedWord chunk

theorem mem_piecesWithin {size : ℕ} {fuel : ℕ} {text piece : Units}
    (h : piece ∈ piecesWithin size fuel text) : piece ⊆ text := by
  induction fuel generalizing text with
  | zero => cases h
  | succ fuel ih =>
    rw [piecesWithin] at h
    split at h
    · cases h
    · rcases List.mem_cons.mp h with rfl | hrest
      · exact List.take_subset _ _
      · exact List.Subset.trans (ih hrest) (List.drop_subset _ _)

theorem isBase64Unit_bodyLines {content line : Units} (h : line ∈ bodyLines content) :
    ∀ u ∈ line, isBase64Unit u = true := by
  rw [bodyLines] at h
  split at h
  · rw [List.mem_singleton.mp h]
    simp
  · intro u hu
    exact isBase64Unit_base64 _ u (mem_piecesWithin h hu)

theorem bodyLines_ne_nil (content : Units) : bodyLines content ≠ [] := by
  rw [bodyLines]
  split
  · simp
  · next hne =>
    obtain ⟨u, rest, heq⟩ := List.exists_cons_of_ne_nil hne
    rw [heq, List.length_cons, piecesWithin, if_neg (by simp)]
    simp

/-- A text of digits does not start with another character. -/
theorem head?_ne_of_base64 {line : Units} (h : ∀ u ∈ line, isBase64Unit u = true) {u : UInt16}
    (hu : isBase64Unit u = false) : line.head? ≠ some u := by
  intro hhead
  have hunit := h u (List.mem_of_head? hhead)
  rw [hu] at hunit
  cases hunit

theorem isLine_bodyLines {content line : Units} (h : line ∈ bodyLines content) : IsLine line :=
  ⟨unbroken_of_base64 (isBase64Unit_bodyLines h),
    head?_ne_of_base64 (isBase64Unit_bodyLines h) (by decide)⟩

theorem noControl_of_isValidMailbox {value : Units} (h : isValidMailbox value = true) :
    hasControlChars value = false := by
  rw [isValidMailbox] at h
  split at h
  · cases h
  · next hvalue =>
    simp only [Bool.or_eq_true, not_or, Bool.not_eq_true] at hvalue
    exact hvalue.2

theorem parseFrom_eq_ok {from_ : Units} {sender : ParsedFrom} (h : parseFrom from_ = .ok sender) :
    isValidMailbox sender.address = true := by
  unfold parseFrom at h
  split at h
  · split at h
    · cases h
    · split at h
      · next hvalid =>
        rw [← Except.ok.inj h]
        exact hvalid
      · cases h
  · split at h
    · next hvalid =>
      rw [← Except.ok.inj h]
      exact hvalid
    · cases h

/-- What a message that is sent was made of. -/
theorem prepareSmtpMessage_eq_ok {options : SmtpSendOptions} {stamp : Stamp}
    {message : SmtpMessage} (h : prepareSmtpMessage options stamp = .ok message) :
    ∃ to_ sender, Unbroken to_ ∧ Unbroken sender.address ∧
      message = ⟨plain "MAIL FROM:<" ++ sender.address ++ plain ">",
        plain "RCPT TO:<" ++ to_ ++ plain ">",
        crlf.intercalate (messageLines options stamp to_ sender ++ [plain "."])⟩ := by
  unfold prepareSmtpMessage at h
  dsimp only at h
  split at h
  · next hto =>
    split at h
    · cases h
    · next sender hsender =>
      exact ⟨trimUnits options.to_, sender, unbroken_of_noControl (noControl_of_isValidMailbox hto),
        unbroken_of_noControl (noControl_of_isValidMailbox (parseFrom_eq_ok hsender)),
        (Except.ok.inj h).symm⟩
  · cases h

theorem isHeader_from {sender : ParsedFrom} (haddress : Unbroken sender.address) :
    IsHeader (plain "From: ") (plain "From: " ++ fromHeader sender) := by
  have hstart : IsLine (plain "From: ") := by decide
  have hne : plain "From: " ≠ [] := by decide
  unfold fromHeader
  split
  · next name _ =>
    have hopen : Unbroken (plain " <") := by decide
    have hclose : Unbroken (plain ">") := by decide
    have hfolded := isHeader_word hstart hne name (hopen.append (haddress.append hclose))
    simpa using hfolded
  · exact isHeader_of_unbroken hstart hne haddress

/-- What a mail takes from outside has no ends of lines. -/
theorem unbroken_stamp (stamp : Stamp) :
    Unbroken stamp.date ∧ Unbroken stamp.uuid ∧ Unbroken stamp.boundary := by
  have hall := unbroken_of_noControl stamp.noControl
  exact ⟨hall.of_subset (by simp), hall.of_subset (by simp), hall.of_subset (by simp)⟩

/-- How the headers of every mail start. -/
def headerStarts : List Units :=
  [plain "From: ", plain "To: ", plain "Subject: ", plain "Date: ", plain "Message-ID: <",
    plain "MIME-Version: "]

theorem isHeader_headers (options : SmtpSendOptions) (stamp : Stamp) {to_ : Units}
    {sender : ParsedFrom} (hto : Unbroken to_) (haddress : Unbroken sender.address) :
    List.Forall₂ IsHeader headerStarts (headers options stamp to_ sender) := by
  obtain ⟨hdate, huuid, _⟩ := unbroken_stamp stamp
  have hdomain : Unbroken (domainOf sender.address) :=
    haddress.of_subset (List.rtakeWhile_suffix _ _).subset
  have hsubject := isHeader_word (by decide : IsLine (plain "Subject: ")) (by decide)
    options.subject (by decide : Unbroken [])
  have hid : Unbroken (stamp.uuid ++ (plain "@" ++ (domainOf sender.address ++ plain ">"))) :=
    huuid.append ((by decide : Unbroken (plain "@")).append (hdomain.append (by decide)))
  have hmessageId := isHeader_of_unbroken (by decide : IsLine (plain "Message-ID: <"))
    (by decide) hid
  have hversion : plain "MIME-Version: 1.0" = plain "MIME-Version: " ++ plain "1.0" := by decide
  refine .cons (isHeader_from haddress) (.cons ?_ (.cons ?_ (.cons ?_ (.cons ?_ (.cons ?_ .nil)))))
  · exact isHeader_of_unbroken (by decide) (by decide) hto
  · simpa using hsubject
  · exact isHeader_of_unbroken (by decide) (by decide) hdate
  · simpa using hmessageId
  · rw [hversion]
    exact isHeader_of_unbroken (by decide) (by decide) (by decide)

/-- How the headers of a part start. -/
def partStarts : List Units := [plain "Content-Type: ", plain "Content-Transfer-Encoding: "]

theorem isHeader_part {type : Units} (htype : Unbroken type) :
    List.Forall₂ IsHeader partStarts (partHeaders type) := by
  have hend : Unbroken (plain "; charset=utf-8") := by decide
  have htyped := isHeader_of_unbroken (by decide : IsLine (plain "Content-Type: ")) (by decide)
    (htype.append hend)
  have hencoding : plain "Content-Transfer-Encoding: base64" =
      plain "Content-Transfer-Encoding: " ++ plain "base64" := by decide
  refine .cons ?_ (.cons ?_ .nil)
  · simpa using htyped
  · rw [hencoding]
    exact isHeader_of_unbroken (by decide) (by decide) (by decide)

/-- The lines of a part: its headers, an empty line and its content. -/
def partLines (type content : Units) : List Units := partHeaders type ++ [] :: bodyLines content

theorem isLine_partHeaders {type : Units} (htype : Unbroken type) :
    ∀ line ∈ partHeaders type, IsLine line ∧ line.head? = some 67 := by
  have hend : Unbroken (type ++ plain "; charset=utf-8") := htype.append (by decide)
  have htyped : IsLine (plain "Content-Type: " ++ (type ++ plain "; charset=utf-8")) :=
    IsLine.append (by decide) (by decide) hend
  intro line hline
  simp only [partHeaders, List.mem_cons, List.not_mem_nil, or_false] at hline
  rcases hline with rfl | rfl
  · exact ⟨by simpa using htyped, rfl⟩
  · decide

theorem isLine_partLines {type : Units} (htype : Unbroken type) (content : Units) :
    ∀ line ∈ partLines type content, IsLine line ∧ line.head? ≠ some 45 := by
  intro line hline
  rcases List.mem_append.mp hline with hline | hline
  · obtain ⟨hisLine, hhead⟩ := isLine_partHeaders htype line hline
    exact ⟨hisLine, by rw [hhead]; decide⟩
  · rcases List.mem_cons.mp hline with rfl | hline
    · decide
    · exact ⟨isLine_bodyLines hline,
        head?_ne_of_base64 (isBase64Unit_bodyLines hline) (by decide)⟩

theorem intercalate_part (type content : Units) :
    crlf.intercalate (part type content) = crlf.intercalate (partLines type content) := by
  have hpart : part type content = (partHeaders type ++ [[]]) ++ [encodeBase64Body content] := by
    simp [part]
  have hlines : partLines type content = (partHeaders type ++ [[]]) ++ bodyLines content := by
    simp [partLines]
  rw [hpart, hlines, intercalate_append (by simp) (by simp),
    intercalate_append (by simp) (bodyLines_ne_nil content), List.intercalate_singleton,
    encodeBase64Body]

/-- The mark before a part, and the one after the last part. -/
def delimiter (boundary : Units) : Units := plain "--" ++ boundary

def closeDelimiter (boundary : Units) : Units := plain "--" ++ boundary ++ plain "--"

/-- The lines of a mail after its headers. -/
def contentLines (options : SmtpSendOptions) (boundary : Units) : List Units :=
  match options.html with
  | none => bodyLines options.text
  | some html =>
    [delimiter boundary] ++ partLines (plain "text/plain") options.text ++ [delimiter boundary] ++
      partLines (plain "text/html") html ++ [closeDelimiter boundary]

theorem isLine_contentLines (options : SmtpSendOptions) (stamp : Stamp) :
    ∀ line ∈ contentLines options stamp.boundary, IsLine line := by
  obtain ⟨_, _, hboundary⟩ := unbroken_stamp stamp
  have hmark : IsLine (delimiter stamp.boundary) := IsLine.append (by decide) (by decide) hboundary
  have hclose : IsLine (closeDelimiter stamp.boundary) :=
    hmark.append (by simp [delimiter, plain]) (by decide)
  have htext := isLine_partLines (by decide : Unbroken (plain "text/plain")) options.text
  intro line hline
  unfold contentLines at hline
  split at hline
  · exact isLine_bodyLines hline
  · next html _ =>
    have hhtml := isLine_partLines (by decide : Unbroken (plain "text/html")) html
    simp only [List.mem_append, List.mem_singleton] at hline
    rcases hline with (((rfl | hline) | rfl) | hline) | rfl
    · exact hmark
    · exact (htext line hline).1
    · exact hmark
    · exact (hhtml line hline).1
    · exact hclose

/-- How the headers of a mail start, with the hypertext or without it. -/
def ownStarts (hasHtml : Bool) : List Units :=
  headerStarts ++ if hasHtml then [plain "Content-Type: "] else partStarts

/-- The texts of a message are its own headers, an empty line and its content. -/
theorem messageLines_split (options : SmtpSendOptions) (stamp : Stamp) {to_ : Units}
    {sender : ParsedFrom} (hto : Unbroken to_) (haddress : Unbroken sender.address) :
    ∃ fields content : List Units, messageLines options stamp to_ sender = fields ++ [] :: content ∧
      List.Forall₂ IsHeader (ownStarts options.html.isSome) fields ∧ content ≠ [] ∧
      crlf.intercalate content = crlf.intercalate (contentLines options stamp.boundary) := by
  have hheaders := isHeader_headers options stamp hto haddress
  have htype : Unbroken (plain "text/plain") := by decide
  obtain ⟨_, _, hboundary⟩ := unbroken_stamp stamp
  rw [messageLines, contentLines]
  cases options.html with
  | none =>
    refine ⟨headers options stamp to_ sender ++ partHeaders (plain "text/plain"),
      [encodeBase64Body options.text], by simp [part], ?_, by simp, ?_⟩
    · exact List.rel_append hheaders (isHeader_part htype)
    · rw [List.intercalate_singleton, encodeBase64Body]
  | some html =>
    have hmultipart : Unbroken (plain "multipart/alternative; boundary=\"" ++ stamp.boundary ++
        plain "\"") := ((by decide : Unbroken _).append hboundary).append (by decide)
    have htyped := isHeader_of_unbroken (by decide : IsLine (plain "Content-Type: ")) (by decide)
      hmultipart
    refine ⟨headers options stamp to_ sender ++ [multipartHeader stamp],
      [delimiter stamp.boundary] ++ part (plain "text/plain") options.text ++
        [delimiter stamp.boundary] ++ part (plain "text/html") html ++
        [closeDelimiter stamp.boundary], by simp [delimiter, closeDelimiter], ?_, by simp, ?_⟩
    · have hcut : plain "Content-Type: multipart/alternative; boundary=\"" =
          plain "Content-Type: " ++ plain "multipart/alternative; boundary=\"" := by decide
      refine List.rel_append hheaders (.cons ?_ .nil)
      rw [multipartHeader, hcut]
      simpa using htyped
    · have hpart : ∀ type content : Units, part type content ≠ [] := by simp [part]
      have hlines : ∀ type content : Units, partLines type content ≠ [] := by simp [partLines]
      rw [intercalate_append (by simp) (by simp), intercalate_append (by simp) (hpart _ _),
        intercalate_append (by simp) (by simp), intercalate_append (by simp) (hpart _ _),
        intercalate_part, intercalate_part, intercalate_append (by simp) (by simp),
        intercalate_append (by simp) (hlines _ _), intercalate_append (by simp) (by simp),
        intercalate_append (by simp) (hlines _ _)]

end InternalControl.SmtpClient
