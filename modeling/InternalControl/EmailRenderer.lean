import InternalControl.EmailUrl
import InternalControl.RichText

/-!
# Rendered mails

A mail is rendered from the blocks of its design and from the values of its variables: a
subject of one line, a hypertext and a plain text.
-/

namespace InternalControl.EmailRenderer

open CodeUnits EmailUrl RichText

/-! ### Designs -/

inductive CalloutTone where
  | info
  | warning
  deriving DecidableEq

inductive SpacerSize where
  | sm
  | md
  | lg
  deriving DecidableEq

inductive ImageAlign where
  | left
  | center
  deriving DecidableEq

structure KeyValueItem where
  label : Units
  value : Units

structure ImageBlock where
  assetId : Units
  alt : Units
  width : Option ℕ
  align : ImageAlign
  href : Option Units

inductive EmailBlock where
  | heading (text : Units)
  | paragraph (content : Doc)
  | button (label url : Units)
  | divider
  | keyValueList (items : List KeyValueItem)
  | callout (tone : CalloutTone) (text : Units)
  | spacer (size : SpacerSize)
  | image (block : ImageBlock)

structure EmailDesign where
  subject : Units
  blocks : List EmailBlock

/-- The values of the variables of a mail, by name. -/
abbrev EmailContext := Units → Option Units

/-- The name and the logo that go with every mail. -/
structure EmailBrand where
  name : Units
  logoUrl : Option Units

/-- An uploaded image. Its size is known from its file. -/
structure EmailImageAsset where
  url : Units
  width : ℕ
  height : ℕ
  width_pos : 0 < width

/-- The uploaded images, by identifier. -/
abbrev EmailAssetLookup := Units → Option EmailImageAsset

structure RenderedEmail where
  subject : Units
  html : Units
  text : Units

/-! ### Texts -/

/-- A text with every occurrence of one code unit replaced. -/
def replaceUnit (u : UInt16) (by_ text : Units) : Units :=
  text.flatMap fun v => if v = u then by_ else [v]

def escapeHtml (value : Units) : Units :=
  replaceUnit 39 (plain "&#39;") (replaceUnit 34 (plain "&quot;") (replaceUnit 62 (plain "&gt;")
    (replaceUnit 60 (plain "&lt;") (replaceUnit 38 (plain "&amp;") value))))

/-- A text with its variables replaced; the first characters to leave out are of the one
before. -/
def substituteFrom (context : EmailContext) : ℕ → Units → Units
  | _, [] => []
  | inToken + 1, _ :: rest => substituteFrom context inToken rest
  | 0, u :: rest =>
    match tokenAtStart (u :: rest) with
    | some (token, after) =>
      (context token).getD [] ++ substituteFrom context (rest.length - after.length) rest
    | none => u :: substituteFrom context 0 rest

def substitute (template : Units) (context : EmailContext) : Units :=
  substituteFrom context 0 template

/-- A character that ends a line, in one of the ways that mail readers know. -/
def isLineBreak (u : UInt16) : Bool := u = 10 || u = 13 || u = 0x2028 || u = 0x2029

/-- A text in which a space stands for each run of enough characters of a kind. -/
def collapseRuns (p : UInt16 → Bool) (least : ℕ) (text : Units) : Units :=
  (text.splitBy fun u v => p u && p v).flatMap fun run =>
    if run.all p && decide (least ≤ run.length) then [32] else run

def singleLine (value : Units) : Units :=
  trimUnits (collapseRuns isSpaceUnit 2 (collapseRuns isLineBreak 1 value))

def renderSubject (subject : Units) (context : EmailContext) : Units :=
  singleLine (substitute subject context)

def htmlText (template : Units) (context : EmailContext) : Units :=
  replaceUnit lineFeed (plain "<br>") (escapeHtml (lineEnds (substitute template context)))

/-! ### Colours and measures -/

namespace EmailColors

def pageBackground : Units := plain "#f3f7fc"

def cardBackground : Units := plain "#ffffff"

def headerBackground : Units := plain "#233e57"

def headerText : Units := plain "#ffffff"

def text : Units := plain "#17283a"

def mutedText : Units := plain "#2a5983"

def border : Units := plain "#cadded"

def accent : Units := plain "#306999"

def accentText : Units := plain "#ffffff"

def infoBackground : Units := plain "#e7eff7"

def infoBorder : Units := plain "#4184b6"

def warningBackground : Units := plain "#fdf3e1"

def warningBorder : Units := plain "#c98a1a"

end EmailColors

def emailFontStack : Units := plain "Arial, 'Helvetica Neue', Helvetica, sans-serif"

def emailContentWidth : ℕ := 600

def emailFooterText (brandName : Units) : Units :=
  plain "Mensaje automático enviado por " ++ brandName ++ plain "."

def defaultEmailBrand : EmailBrand := ⟨plain "Control Interno UNAC", none⟩

def imageMaxWidth : ℕ := 560

/-- A number as the templates print it. -/
def digits (n : ℕ) : Units := plain (Nat.repr n)

def spacerPx : SpacerSize → ℕ
  | .sm => 8
  | .md => 16
  | .lg => 32

/-- The width and the height at which an image is shown. -/
def imageBox (block : ImageBlock) (asset : EmailImageAsset) : ℕ × ℕ :=
  let width := block.width.getD (min asset.width imageMaxWidth)
  (width, max 1 ((2 * (width * asset.height) + asset.width) / (2 * asset.width)))

/-- The capital letters of an identifier made small. -/
def lowerCase (units : Units) : Units := units.map fun u => if 65 ≤ u && u ≤ 90 then u + 32 else u

/-! ### Addresses -/

/-- What the runtime reads in an address. -/
structure ParsedUrl where
  protocol : Units
  href : Units

section Rendering

-- `parseUrl` is the reader of addresses of the runtime, and `context` has the variables
variable (parseUrl : Units → Option ParsedUrl)

/-- Whether the runtime reads an address as one over https. -/
def parsesAsHttps (value : Units) : Bool :=
  (parseUrl value).any fun parsed => decide (parsed.protocol = plain "https:")

/-- An address as it stands in a mail, when it is one that a mail may link to. -/
def resolveButtonUrl (url : Units) (context : EmailContext) : Option Units :=
  match buttonUrlToken url with
  | none =>
    if isHttpsLiteral (parsesAsHttps parseUrl) (trimUnits url) then some (trimUnits url) else none
  | some token =>
    let value := trimUnits ((context token).getD [])
    if value = [] || value.any isSpaceUnit then none
    else
      match parseUrl value with
      | some parsed =>
        if parsed.protocol = plain "https:" || parsed.protocol = plain "http:" then
          some parsed.href
        else none
      | none => none

/-- The address that a text links to. -/
def linkHref (marks : List Mark) (context : EmailContext) : Option Units :=
  (marks.findSome? Mark.href?).bind fun href => resolveButtonUrl parseUrl href context

/-! ### Hypertext -/

def row (inner padding : Units) : Units :=
  plain "<tr><td style=\"padding:" ++ padding ++ plain ";\">" ++ inner ++ plain "</td></tr>"

/-- The padding of a row that does not say another one. -/
def rowPadding : Units := plain "0 32px 16px"

def textStyle : Units :=
  plain "font-family:" ++ emailFontStack ++ plain ";font-size:15px;line-height:23px;color:" ++
    EmailColors.text ++ plain ";"

def linkStyle : Units :=
  plain "color:" ++ EmailColors.accent ++ plain ";text-decoration:underline;"

def richBlockGap : Units := plain "12px"

def inlineHtml (context : EmailContext) : Inline → Units
  | .hardBreak => plain "<br>"
  | .text text marks =>
    let html := htmlText text context
    let html := if .underline ∈ marks then plain "<u>" ++ html ++ plain "</u>" else html
    let html := if .italic ∈ marks then plain "<em>" ++ html ++ plain "</em>" else html
    let html := if .bold ∈ marks then plain "<strong>" ++ html ++ plain "</strong>" else html
    match linkHref parseUrl marks context with
    | some href =>
      plain "<a href=\"" ++ escapeHtml href ++ plain "\" target=\"_blank\" rel=\"noopener\" style=\"" ++
        linkStyle ++ plain "\">" ++ html ++ plain "</a>"
    | none => html

def paragraphInlineHtml (context : EmailContext) (paragraph : Paragraph) : Units :=
  let html := paragraph.content.flatMap (inlineHtml parseUrl context)
  if html = [] then plain "&nbsp;" else html

/-- The margin of a block of a rich text. -/
def blockMargin (index : ℕ) : Units :=
  if index = 0 then plain "0" else richBlockGap ++ plain " 0 0"

def listTag : ListKind → Units
  | .orderedList => plain "ol"
  | .bulletList => plain "ul"

def listItemHtml (context : EmailContext) (count : ℕ) (item : ListItem) (itemIndex : ℕ) : Units :=
  plain "<li style=\"margin:" ++ (if itemIndex + 1 = count then plain "0" else plain "0 0 4px") ++
    plain ";\">" ++
    (plain "<br>").intercalate (item.content.map (paragraphInlineHtml parseUrl context)) ++
    plain "</li>"

def richBlockHtml (context : EmailContext) (block : Block) (index : ℕ) : Units :=
  let margin := blockMargin index
  match block with
  | .paragraph paragraph =>
    plain "<p style=\"margin:" ++ margin ++ plain ";" ++ textStyle ++ plain "\">" ++
      paragraphInlineHtml parseUrl context paragraph ++ plain "</p>"
  | .list kind content =>
    let items := content.zipIdx.flatMap fun (item, itemIndex) =>
      listItemHtml parseUrl context content.length item itemIndex
    plain "<" ++ listTag kind ++ plain " style=\"margin:" ++ margin ++
      plain ";padding:0 0 0 24px;" ++ textStyle ++ plain "\">" ++ items ++ plain "</" ++
      listTag kind ++ plain ">"

def richTextHtml (doc : Doc) (context : EmailContext) : Units :=
  doc.content.zipIdx.flatMap fun (block, index) => richBlockHtml parseUrl context block index

def imgHtml (block : ImageBlock) (asset : EmailImageAsset) (context : EmailContext) : Units :=
  let (width, height) := imageBox block asset
  plain "<img src=\"" ++ escapeHtml asset.url ++ plain "\" alt=\"" ++
    escapeHtml (singleLine (substitute block.alt context)) ++ plain "\" width=\"" ++ digits width ++
    plain "\" height=\"" ++ digits height ++ plain "\" border=\"0\" style=\"display:block;width:" ++
    digits width ++
    plain "px;max-width:100%;height:auto;border:0;outline:none;text-decoration:none;" ++
    (if block.align = .center then plain "margin:0 auto;" else []) ++ plain "\">"

def imageHtml (block : ImageBlock) (context : EmailContext) (assets : EmailAssetLookup) : Units :=
  match assets (lowerCase block.assetId) with
  | none => []
  | some asset =>
    let img := imgHtml block asset context
    let inner :=
      match block.href.bind fun href => resolveButtonUrl parseUrl href context with
      | none => img
      | some href =>
        plain "<a href=\"" ++ escapeHtml href ++
          plain "\" target=\"_blank\" rel=\"noopener\" style=\"text-decoration:none;\">" ++ img ++
          plain "</a>"
    plain "<tr><td align=\"" ++ (if block.align = .center then plain "center" else plain "left") ++
      plain "\" style=\"padding:0 32px 16px;\">" ++ inner ++ plain "</td></tr>"

def keyValueRow (context : EmailContext) (item : KeyValueItem) : Units :=
  plain "<tr><td valign=\"top\" style=\"padding:6px 12px 6px 0;width:40%;font-family:" ++
    emailFontStack ++ plain ";font-size:14px;line-height:20px;font-weight:bold;color:" ++
    EmailColors.mutedText ++ plain ";border-bottom:1px solid " ++ EmailColors.border ++
    plain ";\">" ++ htmlText item.label context ++
    plain "</td><td valign=\"top\" style=\"padding:6px 0;font-family:" ++ emailFontStack ++
    plain ";font-size:14px;line-height:20px;color:" ++ EmailColors.text ++
    plain ";border-bottom:1px solid " ++ EmailColors.border ++ plain ";\">" ++
    htmlText item.value context ++ plain "</td></tr>"

def toneBackground : CalloutTone → Units
  | .warning => EmailColors.warningBackground
  | .info => EmailColors.infoBackground

def toneBorder : CalloutTone → Units
  | .warning => EmailColors.warningBorder
  | .info => EmailColors.infoBorder

def blockHtml (context : EmailContext) (assets : EmailAssetLookup) : EmailBlock → Units
  | .heading text =>
    row (plain "<h1 style=\"margin:0;font-family:" ++ emailFontStack ++
      plain ";font-size:22px;line-height:30px;font-weight:bold;color:" ++ EmailColors.text ++
      plain ";\">" ++ htmlText text context ++ plain "</h1>") rowPadding
  | .paragraph content => row (richTextHtml parseUrl content context) rowPadding
  | .button label url =>
    match resolveButtonUrl parseUrl url context with
    | none => []
    | some href =>
      row (plain "<table role=\"presentation\" cellpadding=\"0\" cellspacing=\"0\" border=\"0\"><tr>" ++
        plain "<td align=\"center\" bgcolor=\"" ++ EmailColors.accent ++
        plain "\" style=\"border-radius:4px;background-color:" ++ EmailColors.accent ++
        plain ";\">" ++ plain "<a href=\"" ++ escapeHtml href ++
        plain "\" target=\"_blank\" rel=\"noopener\" style=\"display:inline-block;padding:12px 24px;font-family:" ++
        emailFontStack ++ plain ";font-size:15px;line-height:20px;font-weight:bold;color:" ++
        EmailColors.accentText ++ plain ";text-decoration:none;border-radius:4px;\">" ++
        htmlText label context ++ plain "</a>" ++ plain "</td></tr></table>")
        (plain "8px 32px 24px")
  | .divider =>
    row (plain "<table role=\"presentation\" width=\"100%\" cellpadding=\"0\" cellspacing=\"0\" border=\"0\">" ++
      plain "<tr><td style=\"border-top:1px solid " ++ EmailColors.border ++
      plain ";font-size:0;line-height:0;\">&nbsp;</td></tr></table>")
      (plain "8px 32px 24px")
  | .keyValueList items =>
    row (plain "<table role=\"presentation\" width=\"100%\" cellpadding=\"0\" cellspacing=\"0\" border=\"0\">" ++
      items.flatMap (keyValueRow context) ++ plain "</table>") rowPadding
  | .callout tone text =>
    row (plain "<table role=\"presentation\" width=\"100%\" cellpadding=\"0\" cellspacing=\"0\" border=\"0\"><tr>" ++
      plain "<td style=\"padding:12px 16px;background-color:" ++ toneBackground tone ++
      plain ";border-left:4px solid " ++ toneBorder tone ++ plain ";font-family:" ++ emailFontStack ++
      plain ";font-size:14px;line-height:21px;color:" ++ EmailColors.text ++ plain ";\">" ++
      htmlText text context ++ plain "</td>" ++ plain "</tr></table>") rowPadding
  | .spacer size =>
    plain "<tr><td style=\"height:" ++ digits (spacerPx size) ++
      plain "px;font-size:0;line-height:0;\">&nbsp;</td></tr>"
  | .image block => imageHtml parseUrl block context assets

def headerHtml (brand : EmailBrand) : Units :=
  let inner :=
    match brand.logoUrl.filter (isHttpsLiteral (parsesAsHttps parseUrl)) with
    | some logo =>
      plain "<img src=\"" ++ escapeHtml logo ++ plain "\" alt=\"" ++ escapeHtml brand.name ++
        plain "\" height=\"48\" style=\"display:block;height:48px;width:auto;border:0;outline:none;text-decoration:none;\">"
    | none =>
      plain "<span style=\"font-family:" ++ emailFontStack ++
        plain ";font-size:20px;line-height:28px;font-weight:bold;color:" ++ EmailColors.headerText ++
        plain ";\">" ++ escapeHtml brand.name ++ plain "</span>"
  plain "<tr><td style=\"padding:20px 32px;background-color:" ++ EmailColors.headerBackground ++
    plain ";\" bgcolor=\"" ++ EmailColors.headerBackground ++ plain "\">" ++ inner ++
    plain "</td></tr>"

def footerHtml (brand : EmailBrand) : Units :=
  plain "<tr><td style=\"padding:16px 32px 24px;border-top:1px solid " ++ EmailColors.border ++
    plain ";font-family:" ++ emailFontStack ++ plain ";font-size:12px;line-height:18px;color:" ++
    EmailColors.mutedText ++ plain ";\">" ++ escapeHtml (emailFooterText brand.name) ++
    plain "</td></tr>"

def renderEmailHtml (subject : Units) (blocks : List EmailBlock) (context : EmailContext)
    (brand : EmailBrand) (assets : EmailAssetLookup) : Units :=
  let content := blocks.flatMap (blockHtml parseUrl context assets)
  plain "<!DOCTYPE html>" ++
    plain "<html lang=\"es\"><head>" ++
    plain "<meta charset=\"utf-8\">" ++
    plain "<meta name=\"viewport\" content=\"width=device-width, initial-scale=1\">" ++
    plain "<meta name=\"x-apple-disable-message-reformatting\">" ++
    plain "<title>" ++ escapeHtml (renderSubject subject context) ++ plain "</title>" ++
    plain "</head>" ++
    plain "<body style=\"margin:0;padding:0;background-color:" ++ EmailColors.pageBackground ++
    plain ";\">" ++
    plain "<table role=\"presentation\" width=\"100%\" cellpadding=\"0\" cellspacing=\"0\" border=\"0\" bgcolor=\"" ++
    EmailColors.pageBackground ++ plain "\" style=\"background-color:" ++
    EmailColors.pageBackground ++ plain ";\">" ++
    plain "<tr><td align=\"center\" style=\"padding:24px 12px;\">" ++
    plain "<table role=\"presentation\" width=\"" ++ digits emailContentWidth ++
    plain "\" cellpadding=\"0\" cellspacing=\"0\" border=\"0\" style=\"width:100%;max-width:" ++
    digits emailContentWidth ++ plain "px;background-color:" ++ EmailColors.cardBackground ++
    plain ";border:1px solid " ++ EmailColors.border ++ plain ";\">" ++
    headerHtml parseUrl brand ++
    plain "<tr><td style=\"height:24px;font-size:0;line-height:0;\">&nbsp;</td></tr>" ++
    content ++
    footerHtml brand ++
    plain "</table>" ++
    plain "</td></tr></table>" ++
    plain "</body></html>"

/-! ### Plain text -/

def inlineText (context : EmailContext) : Inline → Units
  | .hardBreak => [lineFeed]
  | .text template marks =>
    let text := lineEnds (substitute template context)
    match linkHref parseUrl marks context with
    | some href => if href = trimUnits text then text else text ++ plain " (" ++ href ++ plain ")"
    | none => text

def paragraphText (context : EmailContext) (paragraph : Paragraph) : Units :=
  paragraph.content.flatMap (inlineText parseUrl context)

def richBlockText (context : EmailContext) : Block → Units
  | .paragraph paragraph => paragraphText parseUrl context paragraph
  | .list kind content => [lineFeed].intercalate (content.zipIdx.map fun (item, index) =>
      itemMark kind index ++ plain " " ++
        [lineFeed].intercalate (item.content.map (paragraphText parseUrl context)))

def richTextPlain (doc : Doc) (context : EmailContext) : Units :=
  trimUnits ([lineFeed, lineFeed].intercalate (doc.content.map (richBlockText parseUrl context)))

/-- A text of a block on its own lines. -/
def plainValue (template : Units) (context : EmailContext) : Units :=
  trimUnits (lineEnds (substitute template context))

def blockText (context : EmailContext) (assets : EmailAssetLookup) : EmailBlock → Option Units
  | .heading text => some (plainValue text context)
  | .paragraph content => some (richTextPlain parseUrl content context)
  | .callout _ text => some (plainValue text context)
  | .button label url => (resolveButtonUrl parseUrl url context).map fun href =>
      plainValue label context ++ plain ": " ++ href
  | .divider => some (plain "----------------------------------------")
  | .keyValueList items => some ([lineFeed].intercalate (items.map fun item =>
      plainValue item.label context ++ plain ": " ++ plainValue item.value context))
  | .spacer _ => none
  | .image block =>
    if (assets (lowerCase block.assetId)).isNone then none
    else
      let label := plain "[Imagen: " ++ singleLine (substitute block.alt context) ++ plain "]"
      match block.href.bind fun href => resolveButtonUrl parseUrl href context with
      | none => some label
      | some href => some (label ++ plain " (" ++ href ++ plain ")")

def renderEmailPlainText (blocks : List EmailBlock) (context : EmailContext) (brand : EmailBrand)
    (assets : EmailAssetLookup) : Units :=
  let parts := (blocks.filterMap (blockText parseUrl context assets)).filter fun part => part ≠ []
  [lineFeed, lineFeed].intercalate
    (parts ++ [plain "-- \n" ++ emailFooterText brand.name])

def renderEmail (design : EmailDesign) (context : EmailContext) (brand : EmailBrand)
    (assets : EmailAssetLookup) : RenderedEmail where
  subject := renderSubject design.subject context
  html := renderEmailHtml parseUrl design.subject design.blocks context brand assets
  text := renderEmailPlainText parseUrl design.blocks context brand assets

end Rendering

end InternalControl.EmailRenderer
