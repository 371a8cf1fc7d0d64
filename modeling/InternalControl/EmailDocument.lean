import InternalControl.EmailRenderer
import InternalControl.HtmlText

/-!
# What a rendered mail shows

The hypertext of a mail is read as the tags of its design and the texts of its variables. No
value of a variable adds a tag or an attribute, and every link goes to a web address.
-/

namespace InternalControl.EmailRenderer

open CodeUnits EmailUrl RichText HtmlText

/-! ### Tokens of a mail -/

def hrefName : Units := [104, 114, 101, 102]

def srcName : Units := [115, 114, 99]

def altName : Units := [97, 108, 116]

/-- The attributes whose values come from the design and from the variables. -/
def keeps (name : Units) : Bool := name = hrefName || name = srcName || name = altName

def opening (name : String) (attrs : List String) : Token :=
  .opening ⟨plain name, attrs.map fun attr => (plain attr, [])⟩

def closing (name : String) : Token := .closing (plain name)

def element (name : String) (attrs : List String) (inner : List Token) : List Token :=
  opening name attrs :: inner ++ [closing name]

/-- A blank that is never left out. -/
def blankToken : Token := .char 160

/-- The characters of a text, with a break at the end of each line. -/
def textTokens (template : Units) (context : EmailContext) : List Token :=
  (lineEnds (substitute template context)).map fun u =>
    if u = lineFeed then opening "br" [] else .char u

def linkTokens (href : Units) (inner : List Token) : List Token :=
  .opening ⟨plain "a", [(hrefName, href), (plain "target", []), (plain "rel", []),
    (plain "style", [])]⟩ :: inner ++ [closing "a"]

/-- The tokens between the tags of an element, if it is there. -/
def elementIf (condition : Bool) (name : String) (inner : List Token) : List Token :=
  if condition then element name [] inner else inner

def rowTokens (inner : List Token) : List Token :=
  element "tr" [] (element "td" ["style"] inner)

section Tokens

variable (parseUrl : Units → Option ParsedUrl) (context : EmailContext)

def inlineTokens : Inline → List Token
  | .hardBreak => [opening "br" []]
  | .text text marks =>
    let tokens := elementIf (.bold ∈ marks) "strong" (elementIf (.italic ∈ marks) "em"
      (elementIf (.underline ∈ marks) "u" (textTokens text context)))
    match linkHref parseUrl marks context with
    | some href => linkTokens href tokens
    | none => tokens

def paragraphTokens (paragraph : Paragraph) : List Token :=
  let tokens := paragraph.content.flatMap (inlineTokens parseUrl context)
  if tokens = [] then [blankToken] else tokens

def listItemTokens (item : ListItem) : List Token :=
  element "li" ["style"]
    ([opening "br" []].intercalate (item.content.map (paragraphTokens parseUrl context)))

def listName : ListKind → String
  | .orderedList => "ol"
  | .bulletList => "ul"

def richBlockTokens : Block → List Token
  | .paragraph paragraph => element "p" ["style"] (paragraphTokens parseUrl context paragraph)
  | .list kind content =>
    element (listName kind) ["style"] (content.flatMap (listItemTokens parseUrl context))

def imgTokens (block : ImageBlock) (asset : EmailImageAsset) : List Token :=
  [.opening ⟨plain "img", [(srcName, asset.url),
    (altName, singleLine (substitute block.alt context)), (plain "width", []),
    (plain "height", []), (plain "border", []), (plain "style", [])]⟩]

def imageTokens (block : ImageBlock) (assets : EmailAssetLookup) : List Token :=
  match assets (lowerCase block.assetId) with
  | none => []
  | some asset =>
    element "tr" [] (element "td" ["align", "style"]
      (match block.href.bind fun href => resolveButtonUrl parseUrl href context with
      | none => imgTokens context block asset
      | some href => linkTokens href (imgTokens context block asset)))

def keyValueTokens (item : KeyValueItem) : List Token :=
  element "tr" [] (element "td" ["valign", "style"] (textTokens item.label context) ++
    element "td" ["valign", "style"] (textTokens item.value context))

def blockTokens (assets : EmailAssetLookup) : EmailBlock → List Token
  | .heading text => rowTokens (element "h1" ["style"] (textTokens text context))
  | .paragraph content => rowTokens (content.content.flatMap (richBlockTokens parseUrl context))
  | .button label url =>
    match resolveButtonUrl parseUrl url context with
    | none => []
    | some href => rowTokens (element "table" ["role", "cellpadding", "cellspacing", "border"]
        (element "tr" [] (element "td" ["align", "bgcolor", "style"]
          (linkTokens href (textTokens label context)))))
  | .divider => rowTokens (element "table" ["role", "width", "cellpadding", "cellspacing", "border"]
      (element "tr" [] (element "td" ["style"] [blankToken])))
  | .keyValueList items => rowTokens
      (element "table" ["role", "width", "cellpadding", "cellspacing", "border"]
        (items.flatMap (keyValueTokens context)))
  | .callout _ text => rowTokens
      (element "table" ["role", "width", "cellpadding", "cellspacing", "border"]
        (element "tr" [] (element "td" ["style"] (textTokens text context))))
  | .spacer _ => rowTokens [blankToken]
  | .image block => imageTokens parseUrl context block assets

def headerTokens (brand : EmailBrand) : List Token :=
  element "tr" [] (element "td" ["style", "bgcolor"]
    (match brand.logoUrl.filter (isHttpsLiteral (parsesAsHttps parseUrl)) with
    | some logo => [.opening ⟨plain "img", [(srcName, logo), (altName, brand.name),
        (plain "height", []), (plain "style", [])]⟩]
    | none => element "span" ["style"] (chars brand.name)))

def footerTokens (brand : EmailBrand) : List Token :=
  rowTokens (chars (emailFooterText brand.name))

/-- What a mail is meant to show. -/
def mailTokens (design : EmailDesign) (brand : EmailBrand) (assets : EmailAssetLookup) :
    List Token :=
  .declaration (plain "DOCTYPE html") :: element "html" ["lang"]
    (element "head" []
      ([opening "meta" ["charset"], opening "meta" ["name", "content"], opening "meta" ["name"]] ++
        element "title" [] (chars (renderSubject design.subject context))) ++
    element "body" ["style"]
      (element "table" ["role", "width", "cellpadding", "cellspacing", "border", "bgcolor", "style"]
        (element "tr" [] (element "td" ["align", "style"]
          (element "table" ["role", "width", "cellpadding", "cellspacing", "border", "style"]
            (headerTokens parseUrl brand ++ rowTokens [blankToken] ++
              design.blocks.flatMap (blockTokens parseUrl context assets) ++
              footerTokens brand))))))

end Tokens

/-! ### Escaped texts -/

theorem replaceUnit_flatMap (u : UInt16) (by_ : Units) {write : UInt16 → Units} (text : Units) :
    replaceUnit u by_ (text.flatMap write) = text.flatMap fun v => replaceUnit u by_ (write v) := by
  rw [replaceUnit, List.flatMap_assoc]
  rfl

/-- Five replacements in a row escape each character once. -/
theorem escapeHtml_eq (value : Units) : escapeHtml value = escape value := by
  have hstart : value = value.flatMap fun u => [u] := by rw [List.flatMap_singleton']
  have hunits : escapeHtml value = value.flatMap fun u => escapeHtml [u] := by
    rw [hstart]
    simp only [escapeHtml, replaceUnit_flatMap]
    rw [List.flatMap_singleton']
  rw [hunits, escape]
  refine List.flatMap_congr fun u _ => ?_
  unfold escapeUnit
  split_ifs with hamp hless hgreater hdouble hsingle
  · subst hamp
    decide
  · subst hless
    decide
  · subst hgreater
    decide
  · subst hdouble
    decide
  · subst hsingle
    decide
  · simp only [ampersand, lessThan, greaterThan, doubleQuote, singleQuote] at *
    simp [escapeHtml, replaceUnit, hamp, hless, hgreater, hdouble, hsingle]

theorem reads_escapeHtml (value : Units) : Reads (escapeHtml value) (chars value) := by
  rw [escapeHtml_eq]
  exact reads_escape value

theorem shows_escapeHtml (value : Units) : Shows keeps (escapeHtml value) (chars value) :=
  shows_chars (reads_escapeHtml value)

/-- Escaping leaves the ends of lines alone, and nothing else is one. -/
theorem replaceUnit_lineFeed {u : UInt16} (hu : u ≠ lineFeed) :
    replaceUnit lineFeed (plain "<br>") (escapeUnit u) = escapeUnit u := by
  unfold escapeUnit
  split_ifs
  · decide
  · decide
  · decide
  · decide
  · decide
  · simp [replaceUnit, hu]

theorem shows_break : Shows keeps (plain "<br>") [opening "br" []] :=
  (Spells.plain rfl).shows (by decide)

theorem shows_htmlText (template : Units) (context : EmailContext) :
    Shows keeps (htmlText template context) (textTokens template context) := by
  rw [htmlText, escapeHtml_eq, escape, replaceUnit_flatMap, textTokens, List.map_eq_flatMap]
  refine Shows.flatMap fun u _ => ?_
  split
  · next hline =>
    have hbreak : replaceUnit lineFeed (plain "<br>") (escapeUnit u) = plain "<br>" := by
      subst hline
      decide
    rw [hbreak]
    exact shows_break
  · next hline =>
    rw [replaceUnit_lineFeed hline]
    exact (reads_escapeUnit u).shows

/-! ### Tags -/

-- the templates are read character by character
set_option maxRecDepth 8000

/-- What stands between an opening and a closing tag is shown between them. -/
theorem shows_between {start end_ inner : Units} {first last tokens : List Token}
    (hstart : Shows keeps start first) (hinner : Shows keeps inner tokens)
    (hend : Shows keeps end_ last) : Shows keeps (start ++ inner ++ end_) (first ++ tokens ++ last) :=
  (hstart.append hinner).append hend

/-- The padding of the rows with a button or a line. -/
def widePadding : Units := plain "8px 32px 24px"

theorem shows_row {inner padding : Units} {tokens : List Token}
    (hinner : Shows keeps inner tokens) (hpadding : padding = rowPadding ∨ padding = widePadding) :
    Shows keeps (row inner padding) (rowTokens tokens) := by
  have hopen : Shows keeps (plain "<tr><td style=\"padding:" ++ padding ++ plain ";\">")
      [opening "tr" [], opening "td" ["style"]] := by
    rcases hpadding with rfl | rfl
    · exact (((Spells.plain rfl).append (Spells.plain rfl)).append (Spells.plain rfl)).shows
        (by decide)
    · exact (((Spells.plain rfl).append (Spells.plain rfl)).append (Spells.plain rfl)).shows
        (by decide)
  have hclose : Shows keeps (plain "</td></tr>") [closing "td", closing "tr"] :=
    (Spells.plain rfl).shows (by decide)
  have hrow := shows_between hopen hinner hclose
  simpa [row, rowTokens, element] using hrow

/-- A text cut in two. -/
theorem plain_cut {whole first second : String} {characters more : List Char}
    (hfirst : first = String.ofList characters) (hsecond : second = String.ofList more)
    (hwhole : whole = String.ofList (characters ++ more)) :
    plain whole = plain first ++ plain second := by
  have hspells := (Spells.plain hfirst).append (Spells.plain hsecond)
  rw [hspells]
  exact Spells.plain hwhole

theorem fixed_plain {text : String} {characters : List Char} (h : text = String.ofList characters)
    (hplain : (characters.map fun c => c.toNat.toUInt16).all isPlainUnit = true) :
    (AttrValue.fixed (plain text)).isWritable = true := by
  rw [AttrValue.isWritable, Spells.plain h]
  exact hplain

theorem shows_linkStart {style : Units} (hstyle : (AttrValue.fixed style).isWritable = true)
    (href : Units) :
    Shows keeps (plain "<a href=\"" ++ escapeHtml href ++
      plain "\" target=\"_blank\" rel=\"noopener\" style=\"" ++ style ++ plain "\">")
      [.opening ⟨plain "a", [(hrefName, href), (plain "target", []), (plain "rel", []),
        (plain "style", [])]⟩] := by
  have hwritable : (Markup.opening (plain "a") [(hrefName, .escaped href),
      (plain "target", .fixed (plain "_blank")), (plain "rel", .fixed (plain "noopener")),
      (plain "style", .fixed style)]).isWritable = true := by
    have hnames : (isName (plain "a") && isName hrefName && isName (plain "target") &&
        isName (plain "rel") && isName (plain "style") &&
        (AttrValue.fixed (plain "_blank")).isWritable &&
        (AttrValue.fixed (plain "noopener")).isWritable) = true := by decide
    simp only [Bool.and_eq_true] at hnames
    have hhref : (AttrValue.escaped href).isWritable = true := rfl
    simp [Markup.isWritable, hnames, hstyle, hhref]
  have hmatter : keeps hrefName = true ∧ keeps (plain "target") = false ∧
      keeps (plain "rel") = false ∧ keeps (plain "style") = false := by decide
  have hstart : plain "<a href=\"" = plain "<" ++ plain "a" ++ plain " " ++ hrefName ++ plain "=\"" := by
    decide
  have hmiddle : plain "\" target=\"_blank\" rel=\"noopener\" style=\"" =
      plain "\"" ++ plain " " ++ plain "target" ++ plain "=\"" ++ plain "_blank" ++ plain "\"" ++
        plain " " ++ plain "rel" ++ plain "=\"" ++ plain "noopener" ++ plain "\"" ++
        plain " " ++ plain "style" ++ plain "=\"" := by decide
  have hend : plain "\">" = plain "\"" ++ plain ">" := by decide
  have hshows : Shows keeps _ _ := Markup.shows hwritable
  simp only [Token.forget, Markup.token, List.map_cons, List.map_nil, hmatter, AttrValue.value,
    if_true, Bool.false_eq_true, if_false] at hshows
  rw [hstart, hmiddle, hend, escapeHtml_eq]
  simpa [Markup.write, writeAttr, AttrValue.write] using hshows

/-- A link that shows what it is around. -/
theorem shows_link {style inner : Units} {tokens : List Token}
    (hstyle : (AttrValue.fixed style).isWritable = true) (href : Units)
    (hinner : Shows keeps inner tokens) :
    Shows keeps (plain "<a href=\"" ++ escapeHtml href ++
      plain "\" target=\"_blank\" rel=\"noopener\" style=\"" ++ style ++ plain "\">" ++ inner ++
      plain "</a>") (linkTokens href tokens) := by
  have hclose : Shows keeps (plain "</a>") [closing "a"] := (Spells.plain rfl).shows (by decide)
  exact shows_between (shows_linkStart hstyle href) hinner hclose

theorem digits_plain (n : ℕ) : (AttrValue.fixed (digits n)).isWritable = true := by
  rw [AttrValue.isWritable, digits, plain, List.all_map, List.all_eq_true]
  intro c hc
  rw [Nat.toList_repr] at hc
  have hdigit := Nat.isDigit_of_mem_toDigits (by omega) (by omega) hc
  have hbounds : 48 ≤ c.toNat ∧ c.toNat ≤ 57 := by
    rw [Char.isDigit, Bool.and_eq_true, decide_eq_true_eq, decide_eq_true_eq] at hdigit
    exact ⟨hdigit.1, hdigit.2⟩
  have hunit : c.toNat.toUInt16.toNat = c.toNat := by
    simp only [Nat.toUInt16_eq, UInt16.toNat_ofNat']
    omega
  rw [Function.comp_apply, isPlainUnit, Bool.and_eq_true, bne_iff_ne, bne_iff_ne]
  constructor
  · intro hquote
    rw [hquote] at hunit
    have : doubleQuote.toNat = 34 := rfl
    omega
  · intro hamp
    rw [hamp] at hunit
    have : ampersand.toNat = 38 := rfl
    omega

theorem fixed_append {first second : Units} (hfirst : (AttrValue.fixed first).isWritable = true)
    (hsecond : (AttrValue.fixed second).isWritable = true) :
    (AttrValue.fixed (first ++ second)).isWritable = true := by
  rw [AttrValue.isWritable] at *
  rw [List.all_append, hfirst, hsecond]
  rfl

theorem keeps_srcName : keeps srcName = true := by decide

theorem keeps_altName : keeps altName = true := by decide

theorem shows_img (block : ImageBlock) (asset : EmailImageAsset) (context : EmailContext) :
    Shows keeps (imgHtml block asset context) (imgTokens context block asset) := by
  rcases hbox : imageBox block asset with ⟨width, height⟩
  obtain ⟨style, hstyleEq⟩ : ∃ style, style = plain "display:block;width:" ++ digits width ++
      plain "px;max-width:100%;height:auto;border:0;outline:none;text-decoration:none;" ++
      (if block.align = .center then plain "margin:0 auto;" else []) := ⟨_, rfl⟩
  have hstyle : (AttrValue.fixed style).isWritable = true := by
    rw [hstyleEq]
    refine fixed_append (fixed_append (fixed_append (fixed_plain rfl (by decide))
      (digits_plain width)) (fixed_plain rfl (by decide))) ?_
    split
    · exact fixed_plain rfl (by decide)
    · rfl
  have hwritable : (Markup.opening (plain "img") [(srcName, .escaped asset.url),
      (altName, .escaped (singleLine (substitute block.alt context))),
      (plain "width", .fixed (digits width)), (plain "height", .fixed (digits height)),
      (plain "border", .fixed (plain "0")), (plain "style", .fixed style)]).isWritable = true := by
    have hnames : (isName (plain "img") && isName srcName && isName altName &&
        isName (plain "width") && isName (plain "height") && isName (plain "border") &&
        isName (plain "style") && (AttrValue.fixed (plain "0")).isWritable) = true := by
      decide
    simp only [Bool.and_eq_true] at hnames
    have hescaped : ∀ text : Units, (AttrValue.escaped text).isWritable = true := fun _ => rfl
    simp [Markup.isWritable, hnames, hstyle, hescaped, digits_plain]
  have hmatter : keeps (plain "width") = false ∧ keeps (plain "height") = false ∧
      keeps (plain "border") = false ∧ keeps (plain "style") = false := by decide
  have hsrc : plain "<img src=\"" =
      plain "<" ++ plain "img" ++ plain " " ++ srcName ++ plain "=\"" := by decide
  have halt : plain "\" alt=\"" = plain "\"" ++ plain " " ++ altName ++ plain "=\"" := by decide
  have hwidth : plain "\" width=\"" = plain "\"" ++ plain " " ++ plain "width" ++ plain "=\"" := by
    decide
  have hheight : plain "\" height=\"" =
      plain "\"" ++ plain " " ++ plain "height" ++ plain "=\"" := by decide
  have hborder : plain "\" border=\"0\" style=\"display:block;width:" =
      plain "\"" ++ plain " " ++ plain "border" ++ plain "=\"" ++ plain "0" ++ plain "\"" ++
        plain " " ++ plain "style" ++ plain "=\"" ++ plain "display:block;width:" := by
    decide
  have hend : plain "\">" = plain "\"" ++ plain ">" := by decide
  have hshows : Shows keeps _ _ := Markup.shows hwritable
  simp only [Token.forget, Markup.token, List.map_cons, List.map_nil, hmatter, keeps_srcName,
    keeps_altName, AttrValue.value, if_true, Bool.false_eq_true, if_false] at hshows
  rw [imgHtml, hbox]
  dsimp only
  rw [hsrc, halt, hwidth, hheight, hborder, hend, escapeHtml_eq, escapeHtml_eq]
  rw [hstyleEq] at hshows
  simpa [imgTokens, Markup.write, writeAttr, AttrValue.write] using hshows

theorem shows_logo (logo name : Units) :
    Shows keeps (plain "<img src=\"" ++ escapeHtml logo ++ plain "\" alt=\"" ++ escapeHtml name ++
      plain "\" height=\"48\" style=\"display:block;height:48px;width:auto;border:0;outline:none;text-decoration:none;\">")
      [.opening ⟨plain "img", [(srcName, logo), (altName, name), (plain "height", []),
        (plain "style", [])]⟩] := by
  have hwritable : (Markup.opening (plain "img") [(srcName, .escaped logo), (altName, .escaped name),
      (plain "height", .fixed (plain "48")), (plain "style", .fixed
        (plain "display:block;height:48px;width:auto;border:0;outline:none;text-decoration:none;"))]).isWritable =
      true := by
    have hnames : (isName (plain "img") && isName srcName && isName altName &&
        isName (plain "height") && isName (plain "style") &&
        (AttrValue.fixed (plain "48")).isWritable) = true := by decide
    simp only [Bool.and_eq_true] at hnames
    have hstyle : (AttrValue.fixed
        (plain "display:block;height:48px;width:auto;border:0;outline:none;text-decoration:none;")).isWritable =
        true := fixed_plain rfl (by decide)
    have hescaped : ∀ text : Units, (AttrValue.escaped text).isWritable = true := fun _ => rfl
    simp [Markup.isWritable, hnames, hstyle, hescaped]
  have hmatter : keeps (plain "height") = false ∧ keeps (plain "style") = false := by decide
  have hsrc : plain "<img src=\"" =
      plain "<" ++ plain "img" ++ plain " " ++ srcName ++ plain "=\"" := by decide
  have halt : plain "\" alt=\"" = plain "\"" ++ plain " " ++ altName ++ plain "=\"" := by decide
  have hheight : plain "\" height=\"48\" style=\"display:block;height:48px;width:auto;border:0;outline:none;text-decoration:none;\">" =
      plain "\" height=\"48\" style=\"" ++
        plain "display:block;height:48px;width:auto;border:0;outline:none;text-decoration:none;\">" :=
    plain_cut rfl rfl rfl
  have hstart : plain "\" height=\"48\" style=\"" = plain "\"" ++ plain " " ++ plain "height" ++
      plain "=\"" ++ plain "48" ++ plain "\"" ++ plain " " ++ plain "style" ++ plain "=\"" := by
    decide
  have hstyle : plain "display:block;height:48px;width:auto;border:0;outline:none;text-decoration:none;\">" =
      plain "display:block;height:48px;width:auto;border:0;outline:none;text-decoration:none;" ++
        plain "\">" := plain_cut rfl rfl rfl
  have hend : plain "\">" = plain "\"" ++ plain ">" := by decide
  have hshows : Shows keeps _ _ := Markup.shows hwritable
  simp only [Token.forget, Markup.token, List.map_cons, List.map_nil, hmatter, keeps_srcName,
    keeps_altName, AttrValue.value, if_true, Bool.false_eq_true, if_false] at hshows
  rw [hheight, hsrc, halt, hstart, hstyle, hend, escapeHtml_eq, escapeHtml_eq]
  simpa [Markup.write, writeAttr, AttrValue.write] using hshows

/-! ### Rich texts -/

section Mail

variable {parseUrl : Units → Option ParsedUrl} {context : EmailContext} {assets : EmailAssetLookup}

theorem shows_elementIf {start end_ inner : Units} {name : String} {tokens : List Token}
    (condition : Prop) [Decidable condition] (hstart : Shows keeps start [opening name []])
    (hend : Shows keeps end_ [closing name]) (hinner : Shows keeps inner tokens) :
    Shows keeps (if condition then start ++ inner ++ end_ else inner)
      (elementIf (decide condition) name tokens) := by
  by_cases h : condition
  · simpa [h, elementIf, element] using shows_between hstart hinner hend
  · simpa [h, elementIf] using hinner

theorem linkStyle_fixed : (AttrValue.fixed linkStyle).isWritable = true :=
  fixed_append (fixed_append (fixed_plain rfl (by decide)) (fixed_plain rfl (by decide)))
    (fixed_plain rfl (by decide))

theorem shows_inline (node : Inline) :
    Shows keeps (inlineHtml parseUrl context node) (inlineTokens parseUrl context node) := by
  cases node with
  | hardBreak => exact shows_break
  | text text marks =>
    have hunderline := shows_elementIf (.underline ∈ marks)
      ((Spells.plain rfl).shows (by decide) : Shows keeps (plain "<u>") [opening "u" []])
      ((Spells.plain rfl).shows (by decide) : Shows keeps (plain "</u>") [closing "u"])
      (shows_htmlText text context)
    have hitalic := shows_elementIf (.italic ∈ marks)
      ((Spells.plain rfl).shows (by decide) : Shows keeps (plain "<em>") [opening "em" []])
      ((Spells.plain rfl).shows (by decide) : Shows keeps (plain "</em>") [closing "em"]) hunderline
    have hbold := shows_elementIf (.bold ∈ marks)
      ((Spells.plain rfl).shows (by decide) : Shows keeps (plain "<strong>") [opening "strong" []])
      ((Spells.plain rfl).shows (by decide) : Shows keeps (plain "</strong>") [closing "strong"])
      hitalic
    rw [inlineHtml, inlineTokens]
    cases hlink : linkHref parseUrl marks context with
    | none => exact hbold
    | some href => exact shows_link linkStyle_fixed href hbold

theorem shows_paragraph (paragraph : Paragraph) :
    Shows keeps (paragraphInlineHtml parseUrl context paragraph)
      (paragraphTokens parseUrl context paragraph) := by
  have hcontent : Shows keeps (paragraph.content.flatMap (inlineHtml parseUrl context))
      (paragraph.content.flatMap (inlineTokens parseUrl context)) :=
    Shows.flatMap fun node _ => shows_inline node
  rw [paragraphInlineHtml, paragraphTokens]
  by_cases hempty : paragraph.content.flatMap (inlineHtml parseUrl context) = []
  · rw [if_pos hempty, if_pos (hcontent.eq_nil_iff.mp hempty)]
    exact (Spells.plain rfl).shows (by decide)
  · rw [if_neg hempty, if_neg (mt hcontent.eq_nil_iff.mpr hempty)]
    exact hcontent

theorem shows_listItem (count : ℕ) (item : ListItem) (itemIndex : ℕ) :
    Shows keeps (listItemHtml parseUrl context count item itemIndex)
      (listItemTokens parseUrl context item) := by
  have hstart : Shows keeps (plain "<li style=\"margin:" ++
      (if itemIndex + 1 = count then plain "0" else plain "0 0 4px") ++ plain ";\">")
      [opening "li" ["style"]] := by
    split
    · exact (((Spells.plain rfl).append (Spells.plain rfl)).append (Spells.plain rfl)).shows
        (by decide)
    · exact (((Spells.plain rfl).append (Spells.plain rfl)).append (Spells.plain rfl)).shows
        (by decide)
  have hend : Shows keeps (plain "</li>") [closing "li"] := (Spells.plain rfl).shows (by decide)
  have hitems : Shows keeps
      ((plain "<br>").intercalate (item.content.map (paragraphInlineHtml parseUrl context)))
      ([opening "br" []].intercalate (item.content.map (paragraphTokens parseUrl context))) :=
    Shows.intercalate shows_break fun paragraph _ => shows_paragraph paragraph
  exact shows_between hstart hitems hend

theorem blockMargin_cases (index : ℕ) :
    blockMargin index = plain "0" ∨ blockMargin index = plain "12px 0 0" := by
  unfold blockMargin
  split
  · exact Or.inl rfl
  · have hcut : plain "12px 0 0" = plain "12px" ++ plain " 0 0" := plain_cut rfl rfl rfl
    exact Or.inr hcut.symm

theorem shows_richBlock (block : Block) (index : ℕ) :
    Shows keeps (richBlockHtml parseUrl context block index)
      (richBlockTokens parseUrl context block) := by
  cases block with
  | paragraph paragraph =>
    have hstart : Shows keeps (plain "<p style=\"margin:" ++ blockMargin index ++ plain ";" ++
        textStyle ++ plain "\">") [opening "p" ["style"]] := by
      rcases blockMargin_cases index with hmargin | hmargin <;> rw [hmargin, textStyle] <;>
        exact ((((Spells.plain rfl).append (Spells.plain rfl)).append (Spells.plain rfl)).append
          (((((Spells.plain rfl).append (Spells.plain rfl)).append (Spells.plain rfl)).append
            (Spells.plain rfl)).append (Spells.plain rfl)) |>.append (Spells.plain rfl)).shows
          (by decide)
    have hend : Shows keeps (plain "</p>") [closing "p"] := (Spells.plain rfl).shows (by decide)
    exact shows_between hstart (shows_paragraph paragraph) hend
  | list kind content =>
    have hstart : Shows keeps (plain "<" ++ listTag kind ++ plain " style=\"margin:" ++
        blockMargin index ++ plain ";padding:0 0 0 24px;" ++ textStyle ++ plain "\">")
        [opening (listName kind) ["style"]] := by
      rcases blockMargin_cases index with hmargin | hmargin <;> rw [hmargin, textStyle] <;>
        cases kind <;>
        exact (((((((Spells.plain rfl).append (Spells.plain rfl)).append (Spells.plain rfl)).append
          (Spells.plain rfl)).append (Spells.plain rfl)).append
          (((((Spells.plain rfl).append (Spells.plain rfl)).append (Spells.plain rfl)).append
            (Spells.plain rfl)).append (Spells.plain rfl))).append (Spells.plain rfl)).shows
          (by decide)
    have hend : Shows keeps (plain "</" ++ listTag kind ++ plain ">") [closing (listName kind)] := by
      cases kind <;>
        exact (((Spells.plain rfl).append (Spells.plain rfl)).append (Spells.plain rfl)).shows
          (by decide)
    have hitems : Shows keeps (content.zipIdx.flatMap fun item =>
        listItemHtml parseUrl context content.length item.1 item.2)
        (content.flatMap (listItemTokens parseUrl context)) :=
      Shows.zipIdx fun item => shows_listItem content.length item.1 item.2
    simpa only [richBlockHtml, richBlockTokens, element, List.append_assoc, List.cons_append,
      List.nil_append] using shows_between hstart hitems hend

theorem shows_richText (doc : Doc) :
    Shows keeps (richTextHtml parseUrl doc context)
      (doc.content.flatMap (richBlockTokens parseUrl context)) :=
  Shows.zipIdx fun item => shows_richBlock item.1 item.2

/-! ### Blocks -/

theorem shows_keyValueRow (item : KeyValueItem) :
    Shows keeps (keyValueRow context item) (keyValueTokens context item) := by
  have hfirst : Shows keeps
      (plain "<tr><td valign=\"top\" style=\"padding:6px 12px 6px 0;width:40%;font-family:" ++
        emailFontStack ++ plain ";font-size:14px;line-height:20px;font-weight:bold;color:" ++
        EmailColors.mutedText ++ plain ";border-bottom:1px solid " ++ EmailColors.border ++
        plain ";\">") [opening "tr" [], opening "td" ["valign", "style"]] :=
    (((((((Spells.plain rfl).append (Spells.plain rfl)).append (Spells.plain rfl)).append
      (Spells.plain rfl)).append (Spells.plain rfl)).append (Spells.plain rfl)).append
      (Spells.plain rfl)).shows (by decide)
  have hsecond : Shows keeps
      (plain "</td><td valign=\"top\" style=\"padding:6px 0;font-family:" ++ emailFontStack ++
        plain ";font-size:14px;line-height:20px;color:" ++ EmailColors.text ++
        plain ";border-bottom:1px solid " ++ EmailColors.border ++ plain ";\">")
      [closing "td", opening "td" ["valign", "style"]] :=
    (((((((Spells.plain rfl).append (Spells.plain rfl)).append (Spells.plain rfl)).append
      (Spells.plain rfl)).append (Spells.plain rfl)).append (Spells.plain rfl)).append
      (Spells.plain rfl)).shows (by decide)
  have hend : Shows keeps (plain "</td></tr>") [closing "td", closing "tr"] :=
    (Spells.plain rfl).shows (by decide)
  have hrow := shows_between (shows_between hfirst (shows_htmlText item.label context) hsecond)
    (shows_htmlText item.value context) hend
  simpa [keyValueRow, keyValueTokens, element] using hrow

theorem shows_heading (text : Units) :
    Shows keeps (blockHtml parseUrl context assets (.heading text))
      (blockTokens parseUrl context assets (.heading text)) := by
  have hstart : Shows keeps (plain "<h1 style=\"margin:0;font-family:" ++ emailFontStack ++
      plain ";font-size:22px;line-height:30px;font-weight:bold;color:" ++ EmailColors.text ++
      plain ";\">") [opening "h1" ["style"]] :=
    (((((Spells.plain rfl).append (Spells.plain rfl)).append (Spells.plain rfl)).append
      (Spells.plain rfl)).append (Spells.plain rfl)).shows (by decide)
  have hend : Shows keeps (plain "</h1>") [closing "h1"] := (Spells.plain rfl).shows (by decide)
  exact shows_row (shows_between hstart (shows_htmlText text context) hend) (Or.inl rfl)

theorem shows_divider :
    Shows keeps (blockHtml parseUrl context assets .divider)
      (blockTokens parseUrl context assets .divider) := by
  have hline : Shows keeps
      (plain "<table role=\"presentation\" width=\"100%\" cellpadding=\"0\" cellspacing=\"0\" border=\"0\">" ++
        plain "<tr><td style=\"border-top:1px solid " ++ EmailColors.border ++
        plain ";font-size:0;line-height:0;\">&nbsp;</td></tr></table>")
      (element "table" ["role", "width", "cellpadding", "cellspacing", "border"]
        (element "tr" [] (element "td" ["style"] [blankToken]))) :=
    ((((Spells.plain rfl).append (Spells.plain rfl)).append (Spells.plain rfl)).append
      (Spells.plain rfl)).shows (by decide)
  exact shows_row hline (Or.inr rfl : widePadding = rowPadding ∨ _)

theorem shows_spacer (size : SpacerSize) :
    Shows keeps (blockHtml parseUrl context assets (.spacer size))
      (blockTokens parseUrl context assets (.spacer size)) := by
  have hdigits : Spells (digits (spacerPx size)) (Nat.repr (spacerPx size)).toList := rfl
  have hspacer : Shows keeps (plain "<tr><td style=\"height:" ++ digits (spacerPx size) ++
      plain "px;font-size:0;line-height:0;\">&nbsp;</td></tr>") (rowTokens [blankToken]) := by
    cases size <;>
      exact (((Spells.plain rfl).append hdigits).append (Spells.plain rfl)).shows (by decide)
  exact hspacer

/-- The start of a table as wide as its row. -/
theorem shows_tableStart :
    Shows keeps
      (plain "<table role=\"presentation\" width=\"100%\" cellpadding=\"0\" cellspacing=\"0\" border=\"0\">")
      [opening "table" ["role", "width", "cellpadding", "cellspacing", "border"]] :=
  (Spells.plain rfl).shows (by decide)

theorem shows_keyValueList (items : List KeyValueItem) :
    Shows keeps (blockHtml parseUrl context assets (.keyValueList items))
      (blockTokens parseUrl context assets (.keyValueList items)) := by
  have hitems : Shows keeps (items.flatMap (keyValueRow context))
      (items.flatMap (keyValueTokens context)) := Shows.flatMap fun item _ => shows_keyValueRow item
  have hend : Shows keeps (plain "</table>") [closing "table"] :=
    (Spells.plain rfl).shows (by decide)
  exact shows_row (shows_between shows_tableStart hitems hend) (Or.inl rfl)

theorem shows_callout (tone : CalloutTone) (text : Units) :
    Shows keeps (blockHtml parseUrl context assets (.callout tone text))
      (blockTokens parseUrl context assets (.callout tone text)) := by
  have hstart : Shows keeps
      (plain "<table role=\"presentation\" width=\"100%\" cellpadding=\"0\" cellspacing=\"0\" border=\"0\"><tr>" ++
        plain "<td style=\"padding:12px 16px;background-color:" ++ toneBackground tone ++
        plain ";border-left:4px solid " ++ toneBorder tone ++ plain ";font-family:" ++
        emailFontStack ++ plain ";font-size:14px;line-height:21px;color:" ++ EmailColors.text ++
        plain ";\">")
      [opening "table" ["role", "width", "cellpadding", "cellspacing", "border"],
        opening "tr" [], opening "td" ["style"]] := by
    cases tone <;>
      exact ((((((((((Spells.plain rfl).append (Spells.plain rfl)).append (Spells.plain rfl)).append
        (Spells.plain rfl)).append (Spells.plain rfl)).append (Spells.plain rfl)).append
        (Spells.plain rfl)).append (Spells.plain rfl)).append (Spells.plain rfl)).append
        (Spells.plain rfl)).shows (by decide)
  have hend : Shows keeps (plain "</td>" ++ plain "</tr></table>")
      [closing "td", closing "tr", closing "table"] :=
    ((Spells.plain rfl).append (Spells.plain rfl)).shows (by decide)
  have hcallout := shows_row (shows_between hstart (shows_htmlText text context) hend)
    (Or.inl rfl : rowPadding = rowPadding ∨ _)
  simpa [blockHtml, blockTokens, element] using hcallout

theorem shows_button (label url : Units) :
    Shows keeps (blockHtml parseUrl context assets (.button label url))
      (blockTokens parseUrl context assets (.button label url)) := by
  rw [blockHtml, blockTokens]
  cases hresolved : resolveButtonUrl parseUrl url context with
  | none => exact Shows.nil
  | some href =>
    have hstart : Shows keeps
        (plain "<table role=\"presentation\" cellpadding=\"0\" cellspacing=\"0\" border=\"0\"><tr>" ++
          plain "<td align=\"center\" bgcolor=\"" ++ EmailColors.accent ++
          plain "\" style=\"border-radius:4px;background-color:" ++ EmailColors.accent ++
          plain ";\">")
        [opening "table" ["role", "cellpadding", "cellspacing", "border"], opening "tr" [],
          opening "td" ["align", "bgcolor", "style"]] :=
      ((((((Spells.plain rfl).append (Spells.plain rfl)).append (Spells.plain rfl)).append
        (Spells.plain rfl)).append (Spells.plain rfl)).append (Spells.plain rfl)).shows
        (by decide)
    have hend : Shows keeps (plain "</td></tr></table>")
        [closing "td", closing "tr", closing "table"] := (Spells.plain rfl).shows (by decide)
    have hcut : plain "\" target=\"_blank\" rel=\"noopener\" style=\"display:inline-block;padding:12px 24px;font-family:" =
        plain "\" target=\"_blank\" rel=\"noopener\" style=\"" ++
          plain "display:inline-block;padding:12px 24px;font-family:" := plain_cut rfl rfl rfl
    have hcutEnd : plain ";text-decoration:none;border-radius:4px;\">" =
        plain ";text-decoration:none;border-radius:4px;" ++ plain "\">" := plain_cut rfl rfl rfl
    have hstyle : (AttrValue.fixed (plain "display:inline-block;padding:12px 24px;font-family:" ++
        (emailFontStack ++ (plain ";font-size:15px;line-height:20px;font-weight:bold;color:" ++
        (EmailColors.accentText ++ plain ";text-decoration:none;border-radius:4px;"))))).isWritable =
        true :=
      fixed_append (fixed_plain rfl (by decide)) (fixed_append (fixed_plain rfl (by decide))
        (fixed_append (fixed_plain rfl (by decide)) (fixed_append (fixed_plain rfl (by decide))
          (fixed_plain rfl (by decide)))))
    have hlink := shows_link hstyle href (shows_htmlText label context)
    have hbutton := shows_row (shows_between hstart hlink hend)
      (Or.inr rfl : widePadding = rowPadding ∨ _)
    rw [hcut, hcutEnd]
    simpa [element, widePadding] using hbutton

theorem shows_image (block : ImageBlock) (assets : EmailAssetLookup) :
    Shows keeps (imageHtml parseUrl block context assets)
      (imageTokens parseUrl context block assets) := by
  rw [imageHtml, imageTokens]
  cases hasset : assets (lowerCase block.assetId) with
  | none => exact Shows.nil
  | some asset =>
    have hstart : Shows keeps (plain "<tr><td align=\"" ++
        (if block.align = .center then plain "center" else plain "left") ++
        plain "\" style=\"padding:0 32px 16px;\">")
        [opening "tr" [], opening "td" ["align", "style"]] := by
      split <;>
        exact (((Spells.plain rfl).append (Spells.plain rfl)).append (Spells.plain rfl)).shows
          (by decide)
    have hend : Shows keeps (plain "</td></tr>") [closing "td", closing "tr"] :=
      (Spells.plain rfl).shows (by decide)
    have himg := shows_img block asset context
    cases hlink : block.href.bind fun href => resolveButtonUrl parseUrl href context with
    | none => simpa [element] using shows_between hstart himg hend
    | some href =>
      have hcut : plain "\" target=\"_blank\" rel=\"noopener\" style=\"text-decoration:none;\">" =
          plain "\" target=\"_blank\" rel=\"noopener\" style=\"" ++
            plain "text-decoration:none;" ++ plain "\">" := by
        have hstyle : plain "text-decoration:none;\">" =
            plain "text-decoration:none;" ++ plain "\">" := plain_cut rfl rfl rfl
        rw [List.append_assoc, ← hstyle]
        exact plain_cut rfl rfl rfl
      have hstyle : (AttrValue.fixed (plain "text-decoration:none;")).isWritable = true :=
        fixed_plain rfl (by decide)
      have hlinked := shows_link hstyle href himg
      rw [hcut]
      simpa [element] using shows_between hstart hlinked hend

theorem shows_block (block : EmailBlock) (assets : EmailAssetLookup) :
    Shows keeps (blockHtml parseUrl context assets block)
      (blockTokens parseUrl context assets block) := by
  cases block with
  | heading text => exact shows_heading text
  | paragraph content => exact shows_row (shows_richText content) (Or.inl rfl)
  | button label url => exact shows_button label url
  | divider => exact shows_divider
  | keyValueList items => exact shows_keyValueList items
  | callout tone text => exact shows_callout tone text
  | spacer size => exact shows_spacer size
  | image block => exact shows_image block assets

/-! ### The whole mail -/

theorem shows_header (brand : EmailBrand) :
    Shows keeps (headerHtml parseUrl brand) (headerTokens parseUrl brand) := by
  have hstart : Shows keeps (plain "<tr><td style=\"padding:20px 32px;background-color:" ++
      EmailColors.headerBackground ++ plain ";\" bgcolor=\"" ++ EmailColors.headerBackground ++
      plain "\">") [opening "tr" [], opening "td" ["style", "bgcolor"]] :=
    (((((Spells.plain rfl).append (Spells.plain rfl)).append (Spells.plain rfl)).append
      (Spells.plain rfl)).append (Spells.plain rfl)).shows (by decide)
  have hend : Shows keeps (plain "</td></tr>") [closing "td", closing "tr"] :=
    (Spells.plain rfl).shows (by decide)
  rw [headerHtml, headerTokens]
  cases hlogo : brand.logoUrl.filter (isHttpsLiteral (parsesAsHttps parseUrl)) with
  | none =>
    have hspan : Shows keeps (plain "<span style=\"font-family:" ++ emailFontStack ++
        plain ";font-size:20px;line-height:28px;font-weight:bold;color:" ++
        EmailColors.headerText ++ plain ";\">") [opening "span" ["style"]] :=
      (((((Spells.plain rfl).append (Spells.plain rfl)).append (Spells.plain rfl)).append
        (Spells.plain rfl)).append (Spells.plain rfl)).shows (by decide)
    have hclose : Shows keeps (plain "</span>") [closing "span"] :=
      (Spells.plain rfl).shows (by decide)
    have hname := shows_between hspan (shows_escapeHtml brand.name) hclose
    simpa [element] using shows_between hstart hname hend
  | some logo =>
    simpa [element] using shows_between hstart (shows_logo logo brand.name) hend

theorem shows_footer (brand : EmailBrand) :
    Shows keeps (footerHtml brand) (footerTokens brand) := by
  have hstart : Shows keeps (plain "<tr><td style=\"padding:16px 32px 24px;border-top:1px solid " ++
      EmailColors.border ++ plain ";font-family:" ++ emailFontStack ++
      plain ";font-size:12px;line-height:18px;color:" ++ EmailColors.mutedText ++ plain ";\">")
      [opening "tr" [], opening "td" ["style"]] :=
    (((((((Spells.plain rfl).append (Spells.plain rfl)).append (Spells.plain rfl)).append
      (Spells.plain rfl)).append (Spells.plain rfl)).append (Spells.plain rfl)).append
      (Spells.plain rfl)).shows (by decide)
  have hend : Shows keeps (plain "</td></tr>") [closing "td", closing "tr"] :=
    (Spells.plain rfl).shows (by decide)
  simpa [footerHtml, footerTokens, rowTokens, element] using
    shows_between hstart (shows_escapeHtml (emailFooterText brand.name)) hend

/-- The start of a mail, up to its title. -/
theorem shows_headStart :
    Shows keeps (plain "<!DOCTYPE html>" ++ plain "<html lang=\"es\"><head>" ++
      plain "<meta charset=\"utf-8\">" ++
      plain "<meta name=\"viewport\" content=\"width=device-width, initial-scale=1\">" ++
      plain "<meta name=\"x-apple-disable-message-reformatting\">" ++ plain "<title>")
      [.declaration (plain "DOCTYPE html"), opening "html" ["lang"], opening "head" [],
        opening "meta" ["charset"], opening "meta" ["name", "content"], opening "meta" ["name"],
        opening "title" []] :=
  ((((((Spells.plain rfl).append (Spells.plain rfl)).append (Spells.plain rfl)).append
    (Spells.plain rfl)).append (Spells.plain rfl)).append (Spells.plain rfl)).shows
    (by decide)

theorem shows_bodyStart :
    Shows keeps (plain "</title>" ++ plain "</head>" ++
      plain "<body style=\"margin:0;padding:0;background-color:" ++ EmailColors.pageBackground ++
      plain ";\">") [closing "title", closing "head", opening "body" ["style"]] :=
  (((((Spells.plain rfl).append (Spells.plain rfl)).append (Spells.plain rfl)).append
    (Spells.plain rfl)).append (Spells.plain rfl)).shows (by decide)

theorem shows_pageStart :
    Shows keeps
      (plain "<table role=\"presentation\" width=\"100%\" cellpadding=\"0\" cellspacing=\"0\" border=\"0\" bgcolor=\"" ++
        EmailColors.pageBackground ++ plain "\" style=\"background-color:" ++
        EmailColors.pageBackground ++ plain ";\">" ++
        plain "<tr><td align=\"center\" style=\"padding:24px 12px;\">")
      [opening "table" ["role", "width", "cellpadding", "cellspacing", "border", "bgcolor", "style"],
        opening "tr" [], opening "td" ["align", "style"]] :=
  ((((((Spells.plain rfl).append (Spells.plain rfl)).append (Spells.plain rfl)).append
    (Spells.plain rfl)).append (Spells.plain rfl)).append (Spells.plain rfl)).shows
    (by decide)

theorem shows_cardStart :
    Shows keeps
      (plain "<table role=\"presentation\" width=\"" ++ digits emailContentWidth ++
        plain "\" cellpadding=\"0\" cellspacing=\"0\" border=\"0\" style=\"width:100%;max-width:" ++
        digits emailContentWidth ++ plain "px;background-color:" ++ EmailColors.cardBackground ++
        plain ";border:1px solid " ++ EmailColors.border ++ plain ";\">")
      [opening "table" ["role", "width", "cellpadding", "cellspacing", "border", "style"]] := by
  have hdigits : Spells (digits emailContentWidth) (Nat.repr emailContentWidth).toList := rfl
  exact (((((((((Spells.plain rfl).append hdigits).append (Spells.plain rfl)).append hdigits).append
    (Spells.plain rfl)).append (Spells.plain rfl)).append (Spells.plain rfl)).append
    (Spells.plain rfl)).append (Spells.plain rfl)).shows (by decide)

theorem shows_mailEnd :
    Shows keeps (plain "</table>" ++ plain "</td></tr></table>" ++ plain "</body></html>")
      [closing "table", closing "td", closing "tr", closing "table", closing "body",
        closing "html"] :=
  (((Spells.plain rfl).append (Spells.plain rfl)).append (Spells.plain rfl)).shows
    (by decide)

theorem shows_gap :
    Shows keeps (plain "<tr><td style=\"height:24px;font-size:0;line-height:0;\">&nbsp;</td></tr>")
      (rowTokens [blankToken]) := (Spells.plain rfl).shows (by decide)

theorem shows_html (design : EmailDesign) (brand : EmailBrand) :
    Shows keeps (renderEmail parseUrl design context brand assets).html
      (mailTokens parseUrl context design brand assets) := by
  have hheader : Shows keeps (headerHtml parseUrl brand) (headerTokens parseUrl brand) :=
    shows_header brand
  have hblocks : Shows keeps (design.blocks.flatMap (blockHtml parseUrl context assets))
      (design.blocks.flatMap (blockTokens parseUrl context assets)) :=
    Shows.flatMap fun block _ => shows_block block assets
  have htitle := shows_between shows_headStart
    (shows_escapeHtml (renderSubject design.subject context)) shows_bodyStart
  have hframe := (htitle.append shows_pageStart).append shows_cardStart
  have hcard := ((hframe.append hheader).append shows_gap).append hblocks
  have hmail := (hcard.append (shows_footer brand)).append shows_mailEnd
  have hhtml : (renderEmail parseUrl design context brand assets).html =
      renderEmailHtml parseUrl design.subject design.blocks context brand assets := rfl
  rw [hhtml]
  delta renderEmailHtml mailTokens
  simp only [element, List.append_assoc, List.cons_append, List.nil_append] at hmail ⊢
  exact hmail

end Mail

/-- The hypertext of a mail is read as the tags and the texts of its design, whatever the values
of its variables are. -/
theorem mail_shows_its_design (parseUrl : Units → Option ParsedUrl) (design : EmailDesign)
    (context : EmailContext) (brand : EmailBrand) (assets : EmailAssetLookup) :
    (read (renderEmail parseUrl design context brand assets).html).map (Token.forget keeps) =
      mailTokens parseUrl context design brand assets :=
  (shows_html design brand).read_eq

end InternalControl.EmailRenderer
