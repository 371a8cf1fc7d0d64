import InternalControl.SmtpClient

/-!
# Mails as they are read

A server reads from a connection the one mail that was sent, up to its own last line, with the
headers that the client names. The reader of the mail gets back its bodies.
-/

namespace InternalControl.SmtpClient

open CodeUnits EmailUrl HtmlText Base64

/-! ### The server -/

/-- The first line of what a server gets, and what follows it. -/
def splitLine : Units → Option (Units × Units)
  | [] => none
  | [_] => none
  | u :: v :: rest =>
    if u = 13 && v = 10 then some ([], rest)
    else (splitLine (v :: rest)).map fun found => (u :: found.1, found.2)

/-- A dot at the start of a line is left out. -/
def unstuffed (line : Units) : Units := if line.head? = some dot then line.tail else line

/-- The lines up to the one that has only a dot, and what follows it. -/
def readLines : ℕ → Units → Option (List Units × Units)
  | 0, _ => none
  | fuel + 1, input =>
    (splitLine input).bind fun found =>
      if found.1 = [dot] then some ([], found.2)
      else (readLines fuel found.2).map fun more => (unstuffed found.1 :: more.1, more.2)

def readData (input : Units) : Option (List Units × Units) := readLines input.length input

/-- The sender, the recipient and the lines of the one mail that a connection sends. -/
def serve (input : Units) : Option (Units × Units × List Units) :=
  (splitLine input).bind fun mailFrom =>
    (splitLine mailFrom.2).bind fun rcptTo =>
      (splitLine rcptTo.2).bind fun data =>
        (readData data.2).bind fun content =>
          (splitLine content.2).bind fun quit =>
            if data.1 = plain "DATA" && quit.1 = plain "QUIT" && quit.2 = [] then
              some (mailFrom.1, rcptTo.1, content.1)
            else none

theorem splitLine_append {line : Units} (h : Unbroken line) (rest : Units) :
    splitLine (line ++ (crlf ++ rest)) = some (line, rest) := by
  induction line with
  | nil => rfl
  | cons u more ih =>
    have hmore := ih fun v hv => h v (List.mem_cons_of_mem _ hv)
    have hu : u ≠ 13 := (h u List.mem_cons_self).1
    obtain ⟨v, others, heq⟩ := List.exists_cons_of_ne_nil
      (by simp [crlf] : more ++ (crlf ++ rest) ≠ [])
    rw [List.cons_append, heq, splitLine, if_neg (by simp [hu]), ← heq, hmore]
    rfl

theorem intercalate_cons (separator line : Units) {rest : List Units} (hne : rest ≠ []) :
    separator.intercalate (line :: rest) = line ++ (separator ++ separator.intercalate rest) := by
  obtain ⟨next, more, rfl⟩ := List.exists_cons_of_ne_nil hne
  rw [List.intercalate_cons_cons, List.append_assoc]

theorem readLines_intercalate {lines : List Units} (h : ∀ line ∈ lines, IsLine line) (more : Units)
    {fuel : ℕ} (hfuel : lines.length < fuel) :
    readLines fuel (crlf.intercalate (lines ++ [[dot]]) ++ (crlf ++ more)) =
      some (lines, more) := by
  induction lines generalizing fuel with
  | nil =>
    obtain ⟨rest, rfl⟩ := Nat.exists_eq_succ_of_ne_zero (Nat.ne_of_gt hfuel)
    have hdot : Unbroken [dot] := by decide
    have hsplit := splitLine_append hdot more
    rw [List.nil_append, List.intercalate_singleton, readLines, hsplit]
    rfl
  | cons line rest ih =>
    obtain ⟨left, rfl⟩ := Nat.exists_eq_succ_of_ne_zero (Nat.ne_of_gt (Nat.zero_lt_of_lt hfuel))
    have hline := h line List.mem_cons_self
    have hrest := ih (fun other hother => h other (List.mem_cons_of_mem _ hother))
      (Nat.lt_of_succ_lt_succ hfuel)
    have hnotDot : line ≠ [dot] := by
      rintro rfl
      exact hline.2 rfl
    rw [List.cons_append, intercalate_cons _ _ (by simp), List.append_assoc, List.append_assoc,
      readLines, splitLine_append hline.1, Option.bind_some, if_neg hnotDot, hrest]
    rw [Option.map_some, unstuffed, if_neg hline.2]

theorem length_lt_intercalate (lines : List Units) :
    lines.length < (crlf.intercalate (lines ++ [[dot]])).length := by
  induction lines with
  | nil => simp
  | cons line rest ih =>
    rw [List.cons_append, intercalate_cons _ _ (by simp), List.length_append, List.length_append,
      List.length_cons]
    have hcrlf : crlf.length = 2 := rfl
    omega

theorem readData_payload {lines : List Units} (h : ∀ line ∈ lines, IsLine line) (more : Units) :
    readData (crlf.intercalate (lines ++ [[dot]]) ++ (crlf ++ more)) = some (lines, more) := by
  have hlength := length_lt_intercalate lines
  refine readLines_intercalate h more ?_
  rw [List.length_append]
  omega

theorem serve_deliver {mailFrom rcptTo : Units} {lines : List Units} (hfrom : Unbroken mailFrom)
    (hrcpt : Unbroken rcptTo) (h : ∀ line ∈ lines, IsLine line) :
    serve (deliver ⟨mailFrom, rcptTo, crlf.intercalate (lines ++ [[dot]])⟩).flatten =
      some (mailFrom, rcptTo, lines) := by
  have hdata : Unbroken (plain "DATA") := by decide
  have hquit : Unbroken (plain "QUIT") := by decide
  have hlast := splitLine_append hquit []
  rw [List.append_nil] at hlast
  rw [deliver]
  simp only [List.map_cons, List.map_nil, List.flatten_cons, List.flatten_nil, List.append_nil]
  rw [serve, List.append_assoc mailFrom, splitLine_append hfrom, Option.bind_some,
    List.append_assoc rcptTo, splitLine_append hrcpt, Option.bind_some,
    List.append_assoc (plain "DATA"), splitLine_append hdata, Option.bind_some,
    List.append_assoc (crlf.intercalate _), readData_payload h, Option.bind_some, hlast]
  simp

/-! ### Headers as they are read -/

def colon : UInt16 := 58

/-- The names of the headers that stand before the first empty line. -/
def fieldNames (lines : List Units) : List Units :=
  ((lines.takeWhile fun line => !line.isEmpty).filter fun line => !isFolded line).map fun line =>
    line.takeWhile fun u => u != colon

/-- A start that says the name of a header. -/
def saysName (start : Units) : Bool :=
  !start.isEmpty && !isFolded start && start.contains colon

/-- Lines of headers with these names. -/
def AreFields (names : List Units) (text : Units) : Prop :=
  ∃ lines : List Units, lines ≠ [] ∧ (∀ line ∈ lines, IsLine line ∧ line ≠ []) ∧
    crlf.intercalate lines = text ∧ fieldNames lines = names

theorem fieldNames_append {lines : List Units} (h : ∀ line ∈ lines, line ≠ []) (more : List Units) :
    fieldNames (lines ++ more) = fieldNames lines ++ fieldNames more := by
  have hfilled : ∀ line ∈ lines, (!line.isEmpty) = true := by
    intro line hline
    simpa using h line hline
  have hself : lines.takeWhile (fun line => !line.isEmpty) = lines :=
    List.takeWhile_eq_self_iff.mpr hfilled
  rw [fieldNames, List.takeWhile_append_of_pos hfilled, List.filter_append, List.map_append,
    fieldNames, hself, fieldNames]

theorem takeWhile_of_prefix {start first : Units} (h : start <+: first) (hcolon : colon ∈ start) :
    first.takeWhile (fun u => u != colon) = start.takeWhile fun u => u != colon := by
  obtain ⟨rest, rfl⟩ := h
  rw [List.takeWhile_append, if_neg]
  intro hlength
  have hall := List.takeWhile_eq_self_iff.mp ((List.takeWhile_prefix _).eq_of_length hlength)
  simpa using hall colon hcolon

theorem IsHeader.areFields {start text : Units} (h : IsHeader start text)
    (hstart : saysName start = true) :
    AreFields [start.takeWhile fun u => u != colon] text := by
  obtain ⟨first, rest, hprefix, hfirst, hrest, heq⟩ := h
  rw [saysName, Bool.and_eq_true, Bool.and_eq_true, List.contains_iff_mem] at hstart
  obtain ⟨⟨hfilled, hfolded⟩, hcolon⟩ := hstart
  have hne : start ≠ [] := by simpa using hfilled
  have hfirstNe : first ≠ [] := by
    rintro rfl
    exact hne (List.prefix_nil.mp hprefix)
  have hhead : first.head? = start.head? := by
    obtain ⟨tail, rfl⟩ := hprefix
    exact List.head?_append_of_ne_nil _ hne
  have hkept : (!isFolded first) = true := by
    rwa [isFolded, hhead]
  have hrestNe : ∀ line ∈ rest, line ≠ [] := by
    rintro line hline rfl
    exact absurd (hrest [] hline).2 (by decide)
  have hnames : fieldNames rest = [] := by
    rw [fieldNames, List.map_eq_nil_iff, List.filter_eq_nil_iff]
    intro line hline
    have hmem := (List.takeWhile_prefix _).subset hline
    simp [(hrest line hmem).2]
  refine ⟨first :: rest, by simp, ?_, heq, ?_⟩
  · intro line hline
    rcases List.mem_cons.mp hline with rfl | hline
    · exact ⟨hfirst, hfirstNe⟩
    · exact ⟨(hrest line hline).1, hrestNe line hline⟩
  · have hone : fieldNames [first] = [start.takeWhile fun u => u != colon] := by
      simp [fieldNames, hfirstNe, hkept, takeWhile_of_prefix hprefix hcolon]
    have happend := @fieldNames_append [first] (by simpa using hfirstNe) rest
    rw [List.singleton_append, hone, hnames] at happend
    exact happend

theorem areFields_intercalate {starts texts : List Units} (h : List.Forall₂ IsHeader starts texts)
    (hstarts : ∀ start ∈ starts, saysName start = true) (hne : texts ≠ []) :
    AreFields (starts.map fun start => start.takeWhile fun u => u != colon)
      (crlf.intercalate texts) := by
  induction h with
  | nil => exact absurd rfl hne
  | @cons start text starts texts hheader hrest ih =>
    have hfirst := hheader.areFields (hstarts start List.mem_cons_self)
    cases texts with
    | nil =>
      cases hrest
      simpa using hfirst
    | cons next more =>
      obtain ⟨lines, hlines, hall, heq, hnames⟩ := hfirst
      obtain ⟨others, hothers, hallOthers, heqOthers, hnamesOthers⟩ :=
        ih (fun other hother => hstarts other (List.mem_cons_of_mem _ hother)) (by simp)
      refine ⟨lines ++ others, by simp [hlines], ?_, ?_, ?_⟩
      · intro line hline
        rcases List.mem_append.mp hline with hline | hline
        · exact hall line hline
        · exact hallOthers line hline
      · rw [intercalate_append hlines hothers, heq, heqOthers, List.intercalate_cons_cons]
      · rw [fieldNames_append fun line hline => (hall line hline).2, hnames, hnamesOthers]
        rfl

/-! ### One mail -/

/-- The headers that a mail has of its own. -/
def ownFields (hasHtml : Bool) : List Units :=
  (ownStarts hasHtml).map fun start => start.takeWhile fun u => u != colon

theorem saysName_ownStarts (hasHtml : Bool) :
    ∀ start ∈ ownStarts hasHtml, saysName start = true := by
  cases hasHtml <;> decide

/-- What follows the first empty line. -/
def afterHeaders (lines : List Units) : List Units :=
  (lines.dropWhile fun line => !line.isEmpty).tail

theorem afterHeaders_append {lines : List Units} (h : ∀ line ∈ lines, line ≠ [])
    (content : List Units) : afterHeaders (lines ++ [] :: content) = content := by
  have hfilled : ∀ line ∈ lines, (!line.isEmpty) = true := by
    intro line hline
    simpa using h line hline
  rw [afterHeaders, List.dropWhile_append_of_pos hfilled]
  rfl

/-- The lines of a message that is sent: its headers, with their names, and its content. -/
theorem exists_lines (options : SmtpSendOptions) (stamp : Stamp) {to_ : Units}
    {sender : ParsedFrom} (hto : Unbroken to_) (haddress : Unbroken sender.address) :
    ∃ lines : List Units, (∀ line ∈ lines, IsLine line) ∧
      fieldNames lines = ownFields options.html.isSome ∧
      afterHeaders lines = contentLines options stamp.boundary ∧
      crlf.intercalate (messageLines options stamp to_ sender ++ [plain "."]) =
        crlf.intercalate (lines ++ [[dot]]) := by
  obtain ⟨fields, content, hsplit, hfields, hcontent, heqContent⟩ :=
    messageLines_split options stamp hto haddress
  have hfieldsNe : fields ≠ [] := by
    rintro rfl
    cases hstarts : options.html.isSome <;> rw [hstarts] at hfields <;> cases hfields
  obtain ⟨names, hnamesNe, hnames, heqNames, hfieldNames⟩ :=
    areFields_intercalate hfields (saysName_ownStarts _) hfieldsNe
  have hfilled : ∀ line ∈ names, line ≠ [] := fun line hline => (hnames line hline).2
  have hlinesNe : contentLines options stamp.boundary ≠ [] := by
    unfold contentLines
    split
    · exact bodyLines_ne_nil _
    · simp
  have hdot : plain "." = [dot] := by decide
  have hempty : IsLine [] := by decide
  refine ⟨names ++ [] :: contentLines options stamp.boundary, ?_, ?_,
    afterHeaders_append hfilled _, ?_⟩
  · intro line hline
    rcases List.mem_append.mp hline with hline | hline
    · exact (hnames line hline).1
    · rcases List.mem_cons.mp hline with rfl | hline
      · exact hempty
      · exact isLine_contentLines options stamp line hline
  · have hblank : fieldNames ([] :: contentLines options stamp.boundary) = [] := rfl
    rw [fieldNames_append hfilled, hfieldNames, hblank, List.append_nil, ownFields]
  · rw [hsplit, hdot, intercalate_append (by simp) (by simp),
      intercalate_append hfieldsNe (by simp), intercalate_cons _ _ hcontent,
      intercalate_append (by simp) (by simp), intercalate_append hnamesNe (by simp),
      intercalate_cons _ _ hlinesNe, heqNames, heqContent]

theorem unbroken_commands {to_ : Units} {sender : ParsedFrom} (hto : Unbroken to_)
    (haddress : Unbroken sender.address) :
    Unbroken (plain "MAIL FROM:<" ++ sender.address ++ plain ">") ∧
      Unbroken (plain "RCPT TO:<" ++ to_ ++ plain ">") := by
  have hclose : Unbroken (plain ">") := by decide
  have hfrom : Unbroken (plain "MAIL FROM:<") := by decide
  have hrcpt : Unbroken (plain "RCPT TO:<") := by decide
  exact ⟨(hfrom.append haddress).append hclose, (hrcpt.append hto).append hclose⟩

/-! ### What the reader of a mail gets -/

theorem flatten_piecesWithin {size : ℕ} (hsize : 0 < size) {fuel : ℕ} {text : Units}
    (h : text.length ≤ fuel) : (piecesWithin size fuel text).flatten = text := by
  induction fuel generalizing text with
  | zero =>
    rw [List.length_eq_zero_iff.mp (Nat.le_zero.mp h)]
    rfl
  | succ fuel ih =>
    rw [piecesWithin]
    split
    · next hempty => rw [hempty, List.flatten_nil]
    · next hne =>
      have hlength := List.length_pos_iff.mpr hne
      rw [List.flatten_cons, ih (by rw [List.length_drop]; omega), List.take_append_drop]

theorem fromBase64_bodyLines (content : Units) :
    fromBase64 (bodyLines content).flatten = utf8 (crlfLines content) := by
  have hround := fromBase64_base64 (utf8 (crlfLines content))
  rw [bodyLines]
  split
  · next hempty =>
    rw [hempty] at hround
    rw [← hround]
    rfl
  · rw [flatten_piecesWithin (by omega) le_rfl, hround]

/-- The bytes of a part of a mail. -/
def partBytes (lines : List Units) : List UInt8 := fromBase64 (afterHeaders lines).flatten

theorem partBytes_partLines {type : Units} (htype : Unbroken type) (content : Units) :
    partBytes (partLines type content) = utf8 (crlfLines content) := by
  have hfilled : ∀ line ∈ partHeaders type, line ≠ [] := by
    rintro line hline rfl
    exact absurd (isLine_partHeaders htype [] hline).2 (by simp)
  rw [partBytes, partLines, afterHeaders_append hfilled, fromBase64_bodyLines]

/-- The parts of a content: the lines between the marks of a boundary. -/
def partsOf (boundary : Units) (content : List Units) : List (List Units) :=
  ((content.takeWhile fun line => line != closeDelimiter boundary).splitOnP fun line =>
    line == delimiter boundary).tail

theorem partsOf_two {boundary : Units} {first second : List Units}
    (hfirst : ∀ line ∈ first, line.head? ≠ some 45)
    (hsecond : ∀ line ∈ second, line.head? ≠ some 45) :
    partsOf boundary ([delimiter boundary] ++ first ++ [delimiter boundary] ++ second ++
      [closeDelimiter boundary]) = [first, second] := by
  have hmark : (delimiter boundary).head? = some 45 := rfl
  have hclose : (closeDelimiter boundary).head? = some 45 := rfl
  have hne : delimiter boundary ≠ closeDelimiter boundary := by
    intro heq
    have hlength := congrArg List.length heq
    simp [delimiter, closeDelimiter, plain] at hlength
  have hopen : ∀ line ∈ [delimiter boundary] ++ first ++ [delimiter boundary] ++ second,
      (line != closeDelimiter boundary) = true := by
    intro line hline
    rw [bne_iff_ne]
    simp only [List.mem_append, List.mem_singleton] at hline
    rcases hline with ((rfl | hline) | rfl) | hline
    · exact hne
    · rintro rfl
      exact hfirst _ hline hclose
    · exact hne
    · rintro rfl
      exact hsecond _ hline hclose
  have hinner : ∀ lines : List Units, (∀ line ∈ lines, line.head? ≠ some 45) →
      ∀ line ∈ lines, (line == delimiter boundary) = false := by
    intro lines hlines line hline
    rw [beq_eq_false_iff_ne]
    rintro rfl
    exact hlines _ hline hmark
  have hself : (delimiter boundary == delimiter boundary) = true := beq_self_eq_true _
  have hstop : [closeDelimiter boundary].takeWhile (fun line => line != closeDelimiter boundary) =
      [] := by simp
  rw [partsOf, List.takeWhile_append_of_pos hopen, hstop,
    List.append_nil, List.append_assoc, List.append_assoc, List.singleton_append,
    List.singleton_append]
  rw [List.splitOnP_cons_eq_if_modifyHead, if_pos hself, List.tail_cons,
    List.splitOnP_append_cons_of_forall_mem (hinner first hfirst) _ hself,
    List.splitOnP_eq_singleton (hinner second hsecond)]

/-- What a reader gets of a mail: the bytes of its text, or of each of its parts when the mail
has no encoding of its own. -/
def readBodies (boundary : Units) (lines : List Units) : List (List UInt8) :=
  if plain "Content-Transfer-Encoding" ∈ fieldNames lines then [partBytes lines]
  else (partsOf boundary (afterHeaders lines)).map partBytes

theorem readBodies_eq {options : SmtpSendOptions} {boundary : Units} {lines : List Units}
    (hnames : fieldNames lines = ownFields options.html.isSome)
    (hcontent : afterHeaders lines = contentLines options boundary) :
    readBodies boundary lines =
      (options.text :: options.html.toList).map fun content => utf8 (crlfLines content) := by
  have hencoded : plain "Content-Transfer-Encoding" ∈ ownFields false := by decide
  have hnot : plain "Content-Transfer-Encoding" ∉ ownFields true := by decide
  have htext : Unbroken (plain "text/plain") := by decide
  have hhtml : Unbroken (plain "text/html") := by decide
  rw [contentLines] at hcontent
  rw [readBodies, hnames]
  cases hbody : options.html with
  | none =>
    rw [hbody] at hcontent
    rw [Option.isSome_none, if_pos hencoded, partBytes, hcontent]
    dsimp only
    rw [fromBase64_bodyLines]
    rfl
  | some html =>
    rw [hbody] at hcontent
    rw [Option.isSome_some, if_neg hnot, hcontent]
    dsimp only
    rw [partsOf_two (fun line hline => (isLine_partLines htext _ line hline).2)
      (fun line hline => (isLine_partLines hhtml _ line hline).2)]
    simp [partBytes_partLines htext, partBytes_partLines hhtml]

/-! ### One mail -/

/-- A mail whose text would end the mail by itself. -/
def dotNote : SmtpSendOptions :=
  ⟨plain "ana@a.co", plain " eva@b.co", plain "Hola\nBcc: x@y.co", plain ".\nQUIT",
    some (plain "<p>")⟩

def dotStamp : Stamp :=
  ⟨plain "Fri, 20 Nov 2026 00:00:00 GMT", plain "0a1b", plain "=_ci_0c", by decide⟩

def dotMessage : SmtpMessage where
  mailFrom := plain "MAIL FROM:<" ++ plain "ana@a.co" ++ plain ">"
  rcptTo := plain "RCPT TO:<" ++ plain "eva@b.co" ++ plain ">"
  payload := crlf.intercalate
    (messageLines dotNote dotStamp (plain "eva@b.co") ⟨none, plain "ana@a.co"⟩ ++ [plain "."])

theorem dotNote_isSent : prepareSmtpMessage dotNote dotStamp = .ok dotMessage := by
  have hto : trimUnits dotNote.to_ = plain "eva@b.co" := by decide
  have hfrom : trimUnits dotNote.from_ = plain "ana@a.co" := by decide
  have hvalidTo : isValidMailbox (plain "eva@b.co") = true := by decide
  have hvalidFrom : isValidMailbox (plain "ana@a.co") = true := by decide
  have hangled : angled (plain "ana@a.co") = none := by decide
  have hsender : parseFrom dotNote.from_ = .ok ⟨none, plain "ana@a.co"⟩ := by
    rw [parseFrom, hfrom, hangled]
    exact if_pos hvalidFrom
  rw [prepareSmtpMessage, hto, hsender]
  exact if_pos hvalidTo

/-- Whatever a mail is made of, the server reads from the connection one mail and nothing else:
the commands that the client wrote and all the lines of its payload, with the headers that the
client names and no others. -/
theorem server_reads_one_mail (options : SmtpSendOptions) (stamp : Stamp) (message : SmtpMessage)
    (h : prepareSmtpMessage options stamp = .ok message) :
    ∃ lines : List Units, (∀ line ∈ lines, Unbroken line) ∧
      crlf.intercalate (lines ++ [[dot]]) = message.payload ∧
      serve (deliver message).flatten = some (message.mailFrom, message.rcptTo, lines) ∧
      fieldNames lines = ownFields options.html.isSome := by
  obtain ⟨to_, sender, hto, haddress, rfl⟩ := prepareSmtpMessage_eq_ok h
  obtain ⟨lines, hall, hnames, _, hpayload⟩ := exists_lines options stamp hto haddress
  obtain ⟨hfrom, hrcpt⟩ := unbroken_commands hto haddress
  refine ⟨lines, fun line hline => (hall line hline).1, hpayload.symm, ?_, hnames⟩
  rw [hpayload]
  exact serve_deliver hfrom hrcpt hall

theorem server_reads_one_mail_dotNote :
    ∃ lines : List Units, (∀ line ∈ lines, Unbroken line) ∧
      crlf.intercalate (lines ++ [[dot]]) = dotMessage.payload ∧
      serve (deliver dotMessage).flatten = some (dotMessage.mailFrom, dotMessage.rcptTo, lines) ∧
      fieldNames lines = ownFields true :=
  server_reads_one_mail dotNote dotStamp dotMessage dotNote_isSent

/-- The reader of a mail gets back the bytes of its text and of its hypertext, with every end of
a line as a carriage return and a line feed. -/
theorem reader_gets_the_bodies (options : SmtpSendOptions) (stamp : Stamp) (message : SmtpMessage)
    (h : prepareSmtpMessage options stamp = .ok message) :
    (serve (deliver message).flatten).map (fun mail => readBodies stamp.boundary mail.2.2) =
      some ((options.text :: options.html.toList).map fun content => utf8 (crlfLines content)) := by
  obtain ⟨to_, sender, hto, haddress, rfl⟩ := prepareSmtpMessage_eq_ok h
  obtain ⟨lines, hall, hnames, hcontent, hpayload⟩ := exists_lines options stamp hto haddress
  obtain ⟨hfrom, hrcpt⟩ := unbroken_commands hto haddress
  rw [hpayload, serve_deliver hfrom hrcpt hall, Option.map_some, readBodies_eq hnames hcontent]

theorem reader_gets_the_bodies_dotNote :
    (serve (deliver dotMessage).flatten).map (fun mail => readBodies dotStamp.boundary mail.2.2) =
      some [utf8 (crlfLines (plain ".\nQUIT")), utf8 (crlfLines (plain "<p>"))] :=
  reader_gets_the_bodies dotNote dotStamp dotMessage dotNote_isSent

end InternalControl.SmtpClient
