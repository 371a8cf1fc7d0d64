import InternalControl.EmailDocument

/-!
# Tags and links of a mail

The values of the variables change neither the tags of a mail nor the names of their attributes.
Its links go to web addresses, in the order of the design, and its plain text has them too.
-/

namespace InternalControl.EmailRenderer

open CodeUnits EmailUrl RichText HtmlText

variable (parseUrl : Units → Option ParsedUrl)

/-! ### Addresses of a design -/

/-- The address that a part of a paragraph links to, as the design has it. -/
def inlineAddresses : Inline → List Units
  | .hardBreak => []
  | .text _ marks => (marks.findSome? Mark.href?).toList

def paragraphAddresses (paragraph : Paragraph) : List Units :=
  paragraph.content.flatMap inlineAddresses

def richBlockAddresses : Block → List Units
  | .paragraph paragraph => paragraphAddresses paragraph
  | .list _ content => content.flatMap fun item => item.content.flatMap paragraphAddresses

def blockAddresses : EmailBlock → List Units
  | .paragraph content => content.content.flatMap richBlockAddresses
  | .button _ url => [url]
  | .image block => block.href.toList
  | _ => []

/-- An image without its file is left out. -/
def isShown (assets : EmailAssetLookup) : EmailBlock → Bool
  | .image image => (assets (lowerCase image.assetId)).isSome
  | _ => true

/-- The addresses that resolve, where the block shows them. -/
def blockLinks (context : EmailContext) (assets : EmailAssetLookup) (block : EmailBlock) :
    List Units :=
  if isShown assets block then
    (blockAddresses block).filterMap fun url => resolveButtonUrl parseUrl url context
  else []

/-! ### The tags of a mail -/

/-- A tag with the names of its attributes. The breaks between lines belong to the texts. -/
def tagOf : Token → Option Token
  | .char _ => none
  | .opening tag =>
    if tag.name = plain "br" then none
    else some (.opening ⟨tag.name, tag.attrs.map fun attr => (attr.1, [])⟩)
  | token => some token

def outline (tokens : List Token) : List Token := tokens.filterMap tagOf

@[simp] theorem outline_append (first second : List Token) :
    outline (first ++ second) = outline first ++ outline second := List.filterMap_append

theorem outline_forget (tokens : List Token) :
    outline (tokens.map (Token.forget keeps)) = outline tokens := by
  rw [outline, outline, List.filterMap_map]
  refine List.filterMap_congr fun token _ => ?_
  cases token with
  | opening tag => simp [Token.forget, tagOf, Function.comp_def]
  | _ => rfl

theorem outline_flatMap {α : Type*} (items : List α) (mean : α → List Token) :
    outline (items.flatMap mean) = items.flatMap fun item => outline (mean item) := by
  induction items with
  | nil => rfl
  | cons item rest ih => rw [List.flatMap_cons, List.flatMap_cons, outline_append, ih]

theorem outline_break : outline [opening "br" []] = [] := rfl

@[simp] theorem outline_chars (text : Units) : outline (chars text) = [] := by
  rw [outline, chars, List.filterMap_map, List.filterMap_eq_nil_iff]
  intro u _
  rfl

@[simp] theorem outline_textTokens (template : Units) (context : EmailContext) :
    outline (textTokens template context) = [] := by
  rw [outline, textTokens, List.filterMap_map, List.filterMap_eq_nil_iff]
  intro u _
  rw [Function.comp_apply]
  split <;> rfl

/-- The tags around a part stay when the part changes. -/
theorem outline_around (first last : List Token) {inner other : List Token}
    (h : outline inner = outline other) :
    outline (first ++ inner ++ last) = outline (first ++ other ++ last) := by
  simp only [outline_append, h]

theorem outline_cons (token : Token) {inner other : List Token} (h : outline inner = outline other) :
    outline (token :: inner) = outline (token :: other) := by
  have haround := outline_around [token] [] h
  rwa [List.append_nil, List.append_nil] at haround

theorem outline_element (name : String) (attrs : List String) {inner other : List Token}
    (h : outline inner = outline other) :
    outline (element name attrs inner) = outline (element name attrs other) :=
  outline_around [opening name attrs] [closing name] h

theorem outline_elementIf (condition : Bool) (name : String) {inner other : List Token}
    (h : outline inner = outline other) :
    outline (elementIf condition name inner) = outline (elementIf condition name other) := by
  unfold elementIf
  split
  · exact outline_element name [] h
  · exact h

/-- The address of a link is no part of the tags. -/
theorem outline_link (href href' : Units) {inner other : List Token}
    (h : outline inner = outline other) :
    outline (linkTokens href inner) = outline (linkTokens href' other) := by
  have haround := outline_around [] [closing "a"] h
  simp only [linkTokens, List.nil_append] at haround ⊢
  simp only [List.cons_append, outline, List.filterMap_cons, tagOf] at haround ⊢
  rw [haround]
  rfl

theorem outline_intercalate {α : Type*} {separator : List Token} (hseparator : outline separator = [])
    (items : List α) (mean : α → List Token) :
    outline (separator.intercalate (items.map mean)) =
      items.flatMap fun item => outline (mean item) := by
  induction items with
  | nil => rfl
  | cons item rest ih =>
    cases rest with
    | nil => simp
    | cons next more =>
      simp only [List.map_cons, List.intercalate_cons_cons, outline_append, hseparator] at ih ⊢
      rw [ih]
      simp

section Outline

variable {parseUrl} {context other : EmailContext}

/-- Two sets of values resolve the same addresses of a list. -/
def SameLinks (parseUrl : Units → Option ParsedUrl) (context other : EmailContext)
    (urls : List Units) : Prop :=
  ∀ url ∈ urls, (resolveButtonUrl parseUrl url context).isSome =
    (resolveButtonUrl parseUrl url other).isSome

theorem SameLinks.of_flatMap {α : Type*} {items : List α} {urls : α → List Units}
    (h : SameLinks parseUrl context other (items.flatMap urls)) {item : α} (hitem : item ∈ items) :
    SameLinks parseUrl context other (urls item) :=
  fun url hurl => h url (List.mem_flatMap.mpr ⟨item, hitem, hurl⟩)

theorem outline_inline {node : Inline}
    (h : SameLinks parseUrl context other (inlineAddresses node)) :
    outline (inlineTokens parseUrl context node) = outline (inlineTokens parseUrl other node) := by
  cases node with
  | hardBreak => rfl
  | text text marks =>
    have htext : outline (textTokens text context) = outline (textTokens text other) := by
      rw [outline_textTokens, outline_textTokens]
    have hmarks := outline_elementIf (.bold ∈ marks) "strong" (outline_elementIf (.italic ∈ marks) "em"
      (outline_elementIf (.underline ∈ marks) "u" htext))
    simp only [inlineTokens, linkHref]
    cases hhref : marks.findSome? Mark.href? with
    | none => exact hmarks
    | some url =>
      have hsame := h url (by simp [inlineAddresses, hhref])
      simp only [Option.bind_some]
      cases hfirst : resolveButtonUrl parseUrl url context <;>
        cases hsecond : resolveButtonUrl parseUrl url other <;> rw [hfirst, hsecond] at hsame
      · exact hmarks
      · cases hsame
      · cases hsame
      · exact outline_link _ _ hmarks

theorem outline_paragraphTokens (context : EmailContext) (paragraph : Paragraph) :
    outline (paragraphTokens parseUrl context paragraph) =
      paragraph.content.flatMap fun node => outline (inlineTokens parseUrl context node) := by
  rw [← outline_flatMap, paragraphTokens]
  split
  · next hempty =>
    rw [hempty]
    rfl
  · rfl

theorem outline_paragraph {paragraph : Paragraph}
    (h : SameLinks parseUrl context other (paragraphAddresses paragraph)) :
    outline (paragraphTokens parseUrl context paragraph) =
      outline (paragraphTokens parseUrl other paragraph) := by
  rw [outline_paragraphTokens, outline_paragraphTokens]
  exact List.flatMap_congr fun node hnode => outline_inline (h.of_flatMap hnode)

theorem outline_listItem {item : ListItem}
    (h : SameLinks parseUrl context other (item.content.flatMap paragraphAddresses)) :
    outline (listItemTokens parseUrl context item) =
      outline (listItemTokens parseUrl other item) := by
  refine outline_element "li" ["style"] ?_
  rw [outline_intercalate outline_break, outline_intercalate outline_break]
  exact List.flatMap_congr fun paragraph hparagraph => outline_paragraph (h.of_flatMap hparagraph)

theorem outline_richBlock {block : Block}
    (h : SameLinks parseUrl context other (richBlockAddresses block)) :
    outline (richBlockTokens parseUrl context block) =
      outline (richBlockTokens parseUrl other block) := by
  cases block with
  | paragraph paragraph => exact outline_element "p" ["style"] (outline_paragraph h)
  | list kind content =>
    refine outline_element (listName kind) ["style"] ?_
    rw [outline_flatMap, outline_flatMap]
    exact List.flatMap_congr fun item hitem => outline_listItem (h.of_flatMap hitem)

theorem outline_row {inner other : List Token} (h : outline inner = outline other) :
    outline (rowTokens inner) = outline (rowTokens other) :=
  outline_element "tr" [] (outline_element "td" ["style"] h)

theorem outline_texts (template : Units) (context other : EmailContext) :
    outline (textTokens template context) = outline (textTokens template other) := by
  rw [outline_textTokens, outline_textTokens]

theorem outline_block {block : EmailBlock} (assets : EmailAssetLookup)
    (h : SameLinks parseUrl context other (blockAddresses block)) :
    outline (blockTokens parseUrl context assets block) =
      outline (blockTokens parseUrl other assets block) := by
  cases block with
  | heading text =>
    exact outline_row (outline_element "h1" ["style"] (outline_texts text context other))
  | paragraph content =>
    refine outline_row ?_
    rw [outline_flatMap, outline_flatMap]
    exact List.flatMap_congr fun block hblock => outline_richBlock (h.of_flatMap hblock)
  | button label url =>
    have hsame := h url (List.mem_singleton.mpr rfl)
    rw [blockTokens, blockTokens]
    cases hfirst : resolveButtonUrl parseUrl url context <;>
      cases hsecond : resolveButtonUrl parseUrl url other <;> rw [hfirst, hsecond] at hsame
    · cases hsame
    · cases hsame
    · exact outline_row (outline_element _ _ (outline_element "tr" [] (outline_element "td" _
        (outline_link _ _ (outline_texts label context other)))))
  | divider => rfl
  | keyValueList items =>
    refine outline_row (outline_element _ _ ?_)
    rw [outline_flatMap, outline_flatMap]
    refine List.flatMap_congr fun item _ => outline_element "tr" [] ?_
    rw [outline_append, outline_append]
    rw [outline_element "td" ["valign", "style"] (outline_texts item.label context other),
      outline_element "td" ["valign", "style"] (outline_texts item.value context other)]
  | callout tone text =>
    exact outline_row (outline_element _ _ (outline_element "tr" [] (outline_element "td" ["style"]
      (outline_texts text context other))))
  | spacer size => rfl
  | image block =>
    simp only [blockTokens, imageTokens]
    cases hasset : assets (lowerCase block.assetId) with
    | none => rfl
    | some asset =>
      have himg : outline (imgTokens context block asset) = outline (imgTokens other block asset) :=
        rfl
      refine outline_element "tr" [] (outline_element "td" ["align", "style"] ?_)
      cases hhref : block.href with
      | none => exact himg
      | some url =>
        have hsame := h url (by simp [blockAddresses, hhref])
        simp only [Option.bind_some]
        cases hfirst : resolveButtonUrl parseUrl url context <;>
          cases hsecond : resolveButtonUrl parseUrl url other <;> rw [hfirst, hsecond] at hsame
        · exact himg
        · cases hsame
        · cases hsame
        · exact outline_link _ _ himg

end Outline

/-- A runtime that reads one address. -/
def readsOneUrl (value : Units) : Option ParsedUrl :=
  if value = plain "https://a.co/" then some ⟨plain "https:", value⟩ else none

theorem readsOneUrl_eq {value : Units} {parsed : ParsedUrl} (h : readsOneUrl value = some parsed) :
    parsed = ⟨plain "https:", plain "https://a.co/"⟩ := by
  unfold readsOneUrl at h
  split at h
  · next hvalue =>
    rw [← Option.some.inj h, hvalue]
  · cases h

/-- A mail with one button, to the address of a variable. -/
def buttonDesign : EmailDesign :=
  ⟨plain "Aviso", [.button (plain "Abrir \x7b\x7bnombre\x7d\x7d") (plain "\x7b\x7benlace\x7d\x7d")]⟩

def buttonValues (name : Units) : EmailContext := fun token =>
  if token = plain "enlace" then some (plain "https://a.co/") else some name

def buttonBrand : EmailBrand := ⟨plain "Control", none⟩

/-- The values of the variables do not change the tags of a mail nor the names of their
attributes, as long as the same addresses resolve. -/
theorem tags_do_not_depend_on_values (parseUrl : Units → Option ParsedUrl) (design : EmailDesign)
    (brand : EmailBrand) (assets : EmailAssetLookup) (context other : EmailContext)
    (hlinks : SameLinks parseUrl context other (design.blocks.flatMap blockAddresses)) :
    outline (read (renderEmail parseUrl design context brand assets).html) =
      outline (read (renderEmail parseUrl design other brand assets).html) := by
  have hblocks : outline (design.blocks.flatMap (blockTokens parseUrl context assets)) =
      outline (design.blocks.flatMap (blockTokens parseUrl other assets)) := by
    rw [outline_flatMap, outline_flatMap]
    exact List.flatMap_congr fun block hblock => outline_block assets (hlinks.of_flatMap hblock)
  have hsubject : outline (chars (renderSubject design.subject context)) =
      outline (chars (renderSubject design.subject other)) := by
    rw [outline_chars, outline_chars]
  have hread : ∀ values : EmailContext,
      outline (read (renderEmail parseUrl design values brand assets).html) =
        outline (mailTokens parseUrl values design brand assets) := by
    intro values
    rw [← (shows_html design brand).read_eq, outline_forget]
  rw [hread, hread]
  have hcard : outline (headerTokens parseUrl brand ++ rowTokens [blankToken] ++
      design.blocks.flatMap (blockTokens parseUrl context assets) ++ footerTokens brand) =
      outline (headerTokens parseUrl brand ++ rowTokens [blankToken] ++
        design.blocks.flatMap (blockTokens parseUrl other assets) ++ footerTokens brand) :=
    outline_around _ _ hblocks
  have htitle := outline_around
    [opening "meta" ["charset"], opening "meta" ["name", "content"], opening "meta" ["name"]] []
    (outline_element "title" [] hsubject)
  rw [List.append_nil, List.append_nil] at htitle
  have hhead := outline_element "head" [] htitle
  have hbody := outline_element "body" ["style"]
    (outline_element "table"
      ["role", "width", "cellpadding", "cellspacing", "border", "bgcolor", "style"]
      (outline_element "tr" [] (outline_element "td" ["align", "style"]
        (outline_element "table" ["role", "width", "cellpadding", "cellspacing", "border", "style"]
          hcard))))
  delta mailTokens
  refine outline_cons _ (outline_element "html" ["lang"] ?_)
  rw [outline_append, outline_append, hhead, hbody]

theorem tags_do_not_depend_on_values_button :
    outline (read (renderEmail readsOneUrl buttonDesign (buttonValues (plain "<b>")) buttonBrand
        fun _ => none).html) =
      outline (read (renderEmail readsOneUrl buttonDesign (buttonValues (plain "Ana")) buttonBrand
        fun _ => none).html) :=
  tags_do_not_depend_on_values readsOneUrl buttonDesign buttonBrand (fun _ => none)
    (buttonValues (plain "<b>")) (buttonValues (plain "Ana")) (by
      intro url hurl
      rw [List.mem_singleton.mp hurl]
      decide)

/-! ### The links of a mail -/

/-- The addresses that a token links to. -/
def hrefsOf : Token → List Units
  | .opening tag => (tag.attrs.filter fun attr => attr.1 = hrefName).map Prod.snd
  | _ => []

def hrefs (tokens : List Token) : List Units := tokens.flatMap hrefsOf

/-- A tag without the attribute links to nothing. -/
theorem hrefsOf_opening {name : Units} {attrs : List (Units × Units)}
    (h : hrefName ∉ attrs.map Prod.fst) : hrefsOf (.opening ⟨name, attrs⟩) = [] := by
  rw [hrefsOf, List.map_eq_nil_iff, List.filter_eq_nil_iff]
  intro attr hattr hname
  rw [decide_eq_true_eq] at hname
  exact h (hname ▸ List.mem_map_of_mem hattr)

theorem hrefs_append (first second : List Token) :
    hrefs (first ++ second) = hrefs first ++ hrefs second := List.flatMap_append

theorem hrefs_flatMap {α : Type*} (items : List α) (mean : α → List Token) :
    hrefs (items.flatMap mean) = items.flatMap fun item => hrefs (mean item) := List.flatMap_assoc

theorem hrefs_forget (tokens : List Token) :
    hrefs (tokens.map (Token.forget keeps)) = hrefs tokens := by
  rw [hrefs, hrefs, List.flatMap_map]
  refine List.flatMap_congr fun token _ => ?_
  cases token with
  | opening tag =>
    have hkeeps : keeps hrefName = true := by decide
    simp only [Token.forget, hrefsOf, List.filter_map, List.map_map]
    refine List.map_congr_left fun attr hattr => ?_
    have hname : attr.1 = hrefName := by
      have hfiltered := (List.mem_filter.mp hattr).2
      simpa using hfiltered
    simp [hname, hkeeps]
  | _ => rfl

theorem hrefs_chars (text : Units) : hrefs (chars text) = [] := by
  rw [hrefs, chars, List.flatMap_map, List.flatMap_eq_nil_iff]
  intro u _
  rfl

theorem hrefs_textTokens (template : Units) (context : EmailContext) :
    hrefs (textTokens template context) = [] := by
  rw [hrefs, textTokens, List.flatMap_map, List.flatMap_eq_nil_iff]
  intro u _
  split <;> rfl

theorem hrefs_element {name : String} {attrs : List String} (inner : List Token)
    (h : hrefsOf (opening name attrs) = []) : hrefs (element name attrs inner) = hrefs inner := by
  have hclosing : hrefsOf (closing name) = [] := rfl
  rw [element, hrefs_append, hrefs, List.flatMap_cons, h]
  simp [hrefs, hclosing]

theorem hrefs_elementIf (condition : Bool) (name : String) (inner : List Token) :
    hrefs (elementIf condition name inner) = hrefs inner := by
  unfold elementIf
  split
  · exact hrefs_element inner rfl
  · rfl

theorem hrefs_link (href : Units) (inner : List Token) :
    hrefs (linkTokens href inner) = href :: hrefs inner := by
  have hclosing : hrefsOf (closing "a") = [] := rfl
  have hopening : hrefsOf (.opening ⟨plain "a", [(hrefName, href), (plain "target", []),
      (plain "rel", []), (plain "style", [])]⟩) = [href] := by
    have htarget : plain "target" ≠ hrefName := by decide
    have hrel : plain "rel" ≠ hrefName := by decide
    have hstyle : plain "style" ≠ hrefName := by decide
    simp [hrefsOf, htarget, hrel, hstyle]
  rw [linkTokens, hrefs_append, hrefs, List.flatMap_cons, hopening]
  simp [hrefs, hclosing]

theorem hrefs_intercalate {α : Type*} {separator : List Token} (hseparator : hrefs separator = [])
    (items : List α) (mean : α → List Token) :
    hrefs (separator.intercalate (items.map mean)) = items.flatMap fun item => hrefs (mean item) := by
  induction items with
  | nil => rfl
  | cons item rest ih =>
    cases rest with
    | nil => simp
    | cons next more =>
      simp only [List.map_cons, List.intercalate_cons_cons, hrefs_append, hseparator] at ih ⊢
      rw [ih]
      simp

section Links

variable {parseUrl} {context : EmailContext}

theorem hrefs_inline (node : Inline) :
    hrefs (inlineTokens parseUrl context node) =
      (inlineAddresses node).filterMap fun url => resolveButtonUrl parseUrl url context := by
  cases node with
  | hardBreak => rfl
  | text text marks =>
    have hmarks : hrefs (elementIf (.bold ∈ marks) "strong" (elementIf (.italic ∈ marks) "em"
        (elementIf (.underline ∈ marks) "u" (textTokens text context)))) = [] := by
      rw [hrefs_elementIf, hrefs_elementIf, hrefs_elementIf, hrefs_textTokens]
    simp only [inlineTokens, linkHref, inlineAddresses]
    cases hhref : marks.findSome? Mark.href? with
    | none => exact hmarks
    | some url =>
      simp only [Option.bind_some, Option.toList_some]
      cases hresolved : resolveButtonUrl parseUrl url context with
      | none => simpa [hresolved] using hmarks
      | some href => simp [hresolved, hrefs_link, hmarks]

theorem hrefs_paragraph (paragraph : Paragraph) :
    hrefs (paragraphTokens parseUrl context paragraph) =
      (paragraphAddresses paragraph).filterMap fun url => resolveButtonUrl parseUrl url context := by
  have hcontent : hrefs (paragraph.content.flatMap (inlineTokens parseUrl context)) =
      (paragraphAddresses paragraph).filterMap fun url => resolveButtonUrl parseUrl url context := by
    rw [hrefs_flatMap, paragraphAddresses, List.filterMap_flatMap]
    exact List.flatMap_congr fun node _ => hrefs_inline node
  rw [← hcontent, paragraphTokens]
  split
  · next hempty =>
    rw [hempty]
    rfl
  · rfl

theorem hrefs_richBlock (block : Block) :
    hrefs (richBlockTokens parseUrl context block) =
      (richBlockAddresses block).filterMap fun url => resolveButtonUrl parseUrl url context := by
  cases block with
  | paragraph paragraph =>
    rw [richBlockTokens, hrefs_element _ (by decide), hrefs_paragraph]
    rfl
  | list kind content =>
    have hlist : hrefsOf (opening (listName kind) ["style"]) = [] := by cases kind <;> decide
    rw [richBlockTokens, hrefs_element _ hlist, hrefs_flatMap, richBlockAddresses,
      List.filterMap_flatMap]
    refine List.flatMap_congr fun item _ => ?_
    rw [listItemTokens, hrefs_element _ (by decide), hrefs_intercalate rfl, List.filterMap_flatMap]
    exact List.flatMap_congr fun paragraph _ => hrefs_paragraph paragraph

theorem hrefs_row (inner : List Token) : hrefs (rowTokens inner) = hrefs inner := by
  rw [rowTokens, hrefs_element _ rfl, hrefs_element _ (by decide)]

theorem hrefs_img (block : ImageBlock) (asset : EmailImageAsset) :
    hrefs (imgTokens context block asset) = [] := by
  have hnames : hrefName ∉ [srcName, altName, plain "width", plain "height", plain "border",
      plain "style"] := by decide
  rw [imgTokens, hrefs, List.flatMap_singleton]
  exact hrefsOf_opening hnames

theorem hrefs_image (assets : EmailAssetLookup) (block : ImageBlock) :
    hrefs (imageTokens parseUrl context block assets) =
      blockLinks parseUrl context assets (.image block) := by
  cases hasset : assets (lowerCase block.assetId) with
  | none =>
    have hshown : isShown assets (.image block) = false := by simp [isShown, hasset]
    simp [imageTokens, blockLinks, hasset, hshown, hrefs]
  | some asset =>
    have hshown : isShown assets (.image block) = true := by simp [isShown, hasset]
    have himg : hrefs (imgTokens context block asset) = [] := hrefs_img block asset
    simp only [imageTokens, hasset, blockLinks, hshown, if_true, blockAddresses]
    rw [hrefs_element _ rfl, hrefs_element _ (by decide)]
    cases hhref : block.href with
    | none => exact himg
    | some url =>
      simp only [Option.bind_some, Option.toList_some]
      cases hresolved : resolveButtonUrl parseUrl url context with
      | none => simpa [hresolved] using himg
      | some href => simp [hresolved, hrefs_link, himg]

theorem hrefs_block (assets : EmailAssetLookup) (block : EmailBlock) :
    hrefs (blockTokens parseUrl context assets block) = blockLinks parseUrl context assets block := by
  cases block with
  | heading text =>
    rw [blockTokens, hrefs_row, hrefs_element _ (by decide), hrefs_textTokens]
    rfl
  | paragraph content =>
    have hlinks : blockLinks parseUrl context assets (.paragraph content) =
        (content.content.flatMap richBlockAddresses).filterMap fun url =>
          resolveButtonUrl parseUrl url context := rfl
    rw [blockTokens, hrefs_row, hrefs_flatMap, hlinks, List.filterMap_flatMap]
    exact List.flatMap_congr fun block _ => hrefs_richBlock block
  | button label url =>
    have hlinks : blockLinks parseUrl context assets (.button label url) =
        [url].filterMap fun url => resolveButtonUrl parseUrl url context := rfl
    rw [blockTokens, hlinks]
    cases hresolved : resolveButtonUrl parseUrl url context with
    | none => simp [hresolved, hrefs]
    | some href =>
      dsimp only
      rw [hrefs_row, hrefs_element _ (by decide), hrefs_element _ rfl, hrefs_element _ (by decide),
        hrefs_link, hrefs_textTokens]
      simp [hresolved]
  | divider =>
    rw [blockTokens, hrefs_row, hrefs_element _ (by decide), hrefs_element _ rfl,
      hrefs_element _ (by decide)]
    rfl
  | keyValueList items =>
    have hlinks : blockLinks parseUrl context assets (.keyValueList items) = [] := rfl
    rw [blockTokens, hrefs_row, hrefs_element _ (by decide), hrefs_flatMap, hlinks,
      List.flatMap_eq_nil_iff]
    intro item _
    rw [keyValueTokens, hrefs_element _ rfl, hrefs_append, hrefs_element _ (by decide),
      hrefs_element _ (by decide), hrefs_textTokens, hrefs_textTokens]
    rfl
  | callout tone text =>
    rw [blockTokens, hrefs_row, hrefs_element _ (by decide), hrefs_element _ rfl,
      hrefs_element _ (by decide), hrefs_textTokens]
    rfl
  | spacer size =>
    rw [blockTokens, hrefs_row]
    rfl
  | image block => exact hrefs_image assets block

/-! ### Web addresses -/

/-- What resolves is a literal address over https, or what the runtime reads as a web address. -/
theorem resolveButtonUrl_cases {url href : Units}
    (h : resolveButtonUrl parseUrl url context = some href) :
    isHttpsLiteral (parsesAsHttps parseUrl) href = true ∨
      ∃ value parsed, parseUrl value = some parsed ∧ parsed.href = href ∧
        (parsed.protocol = plain "https:" ∨ parsed.protocol = plain "http:") := by
  unfold resolveButtonUrl at h
  split at h
  · split at h
    · next hliteral =>
      rw [← Option.some.inj h]
      exact Or.inl hliteral
    · cases h
  · dsimp only at h
    split at h
    · cases h
    · split at h
      · next parsed hparsed =>
        split at h
        · next hprotocol =>
          rw [Bool.or_eq_true, decide_eq_true_eq, decide_eq_true_eq] at hprotocol
          exact Or.inr ⟨_, parsed, hparsed, Option.some.inj h, hprotocol⟩
        · cases h
      · cases h

theorem isWeb_of_resolve
    (hparse : ∀ value parsed, parseUrl value = some parsed → parsed.protocol <+: parsed.href)
    {url href : Units} (h : resolveButtonUrl parseUrl url context = some href) :
    plain "https:" <+: href ∨ plain "http:" <+: href := by
  rcases resolveButtonUrl_cases h with hliteral | ⟨value, parsed, hparsed, rfl, hprotocol⟩
  · have hstart : (plain "https://").isPrefixOf href = true := by
      rw [isHttpsLiteral, Bool.and_eq_true, Bool.and_eq_true] at hliteral
      exact hliteral.1.1
    have hshort : plain "https:" <+: plain "https://" := ⟨plain "//", by decide⟩
    exact Or.inl (hshort.trans (List.isPrefixOf_iff_prefix.mp hstart))
  · have hstart := hparse value parsed hparsed
    rcases hprotocol with hprotocol | hprotocol
    · exact Or.inl (hprotocol ▸ hstart)
    · exact Or.inr (hprotocol ▸ hstart)

theorem ne_nil_of_resolve
    (hparse : ∀ value parsed, parseUrl value = some parsed → parsed.protocol <+: parsed.href)
    {url href : Units} (h : resolveButtonUrl parseUrl url context = some href) : href ≠ [] := by
  have hsecure : plain "https:" ≠ [] := by decide
  have hplain : plain "http:" ≠ [] := by decide
  rintro rfl
  rcases isWeb_of_resolve hparse h with hstart | hstart
  · exact hsecure (List.prefix_nil.mp hstart)
  · exact hplain (List.prefix_nil.mp hstart)

theorem noSpaces_of_resolve
    (hspaces : ∀ value parsed, parseUrl value = some parsed →
      parsed.protocol = plain "https:" ∨ parsed.protocol = plain "http:" →
        parsed.href.any isSpaceUnit = false)
    {url href : Units} (h : resolveButtonUrl parseUrl url context = some href) :
    href.any isSpaceUnit = false := by
  rcases resolveButtonUrl_cases h with hliteral | ⟨value, parsed, hparsed, rfl, hprotocol⟩
  · rw [isHttpsLiteral, Bool.and_eq_true, Bool.and_eq_true, Bool.not_eq_true',
      Bool.or_eq_false_iff, Bool.or_eq_false_iff] at hliteral
    exact hliteral.1.2.1.1
  · exact hspaces value parsed hparsed hprotocol

theorem mem_blockLinks {assets : EmailAssetLookup} {block : EmailBlock} {href : Units}
    (h : href ∈ blockLinks parseUrl context assets block) :
    isShown assets block = true ∧
      ∃ url ∈ blockAddresses block, resolveButtonUrl parseUrl url context = some href := by
  unfold blockLinks at h
  split at h
  · next hshown => exact ⟨hshown, List.mem_filterMap.mp h⟩
  · cases h

theorem hrefs_read (design : EmailDesign) (brand : EmailBrand) (assets : EmailAssetLookup) :
    hrefs (read (renderEmail parseUrl design context brand assets).html) =
      design.blocks.flatMap (blockLinks parseUrl context assets) := by
  rw [← hrefs_forget, (shows_html design brand).read_eq]
  have hheader : hrefs (headerTokens parseUrl brand) = [] := by
    rw [headerTokens, hrefs_element _ rfl, hrefs_element _ (by decide)]
    split
    · next logo _ =>
      have hnames : hrefName ∉ [srcName, altName, plain "height", plain "style"] := by decide
      rw [hrefs, List.flatMap_singleton]
      exact hrefsOf_opening hnames
    · rw [hrefs_element _ (by decide), hrefs_chars]
  have hfooter : hrefs (footerTokens brand) = [] := by
    rw [footerTokens, hrefs_row, hrefs_chars]
  have hblocks : hrefs (design.blocks.flatMap (blockTokens parseUrl context assets)) =
      design.blocks.flatMap (blockLinks parseUrl context assets) := by
    rw [hrefs_flatMap]
    exact List.flatMap_congr fun block _ => hrefs_block assets block
  have hhead : hrefs (element "head" []
      ([opening "meta" ["charset"], opening "meta" ["name", "content"], opening "meta" ["name"]] ++
        element "title" [] (chars (renderSubject design.subject context)))) = [] := by
    have hmeta : hrefs [opening "meta" ["charset"], opening "meta" ["name", "content"],
        opening "meta" ["name"]] = [] := by decide
    rw [hrefs_element _ rfl, hrefs_append, hmeta, hrefs_element _ rfl, hrefs_chars]
    rfl
  have hgap : hrefs (rowTokens [blankToken]) = [] := by decide
  have hcons : ∀ tokens, hrefs (.declaration (plain "DOCTYPE html") :: tokens) = hrefs tokens :=
    fun _ => rfl
  delta mailTokens
  rw [hcons, hrefs_element _ (by decide), hrefs_append, hhead, hrefs_element _ (by decide),
    hrefs_element _ (by decide), hrefs_element _ rfl, hrefs_element _ (by decide),
    hrefs_element _ (by decide), hrefs_append, hrefs_append, hrefs_append, hheader, hgap, hblocks,
    hfooter]
  simp

end Links

/-- The links of a mail are those of its design that resolve, in their order, and each one goes
to a web address. -/
theorem links_go_to_the_web (parseUrl : Units → Option ParsedUrl)
    (hparse : ∀ value parsed, parseUrl value = some parsed → parsed.protocol <+: parsed.href)
    (design : EmailDesign) (context : EmailContext) (brand : EmailBrand)
    (assets : EmailAssetLookup) :
    hrefs (read (renderEmail parseUrl design context brand assets).html) =
        design.blocks.flatMap (blockLinks parseUrl context assets) ∧
      ∀ href ∈ hrefs (read (renderEmail parseUrl design context brand assets).html),
        plain "https:" <+: href ∨ plain "http:" <+: href := by
  refine ⟨hrefs_read design brand assets, fun href hhref => ?_⟩
  rw [hrefs_read] at hhref
  obtain ⟨block, _, hlink⟩ := List.mem_flatMap.mp hhref
  obtain ⟨_, url, _, hresolved⟩ := mem_blockLinks hlink
  exact isWeb_of_resolve hparse hresolved

theorem links_go_to_the_web_button :
    hrefs (read (renderEmail readsOneUrl buttonDesign (buttonValues []) buttonBrand
        fun _ => none).html) =
      buttonDesign.blocks.flatMap
        (blockLinks readsOneUrl (buttonValues []) fun _ => none) ∧
      ∀ href ∈ hrefs (read (renderEmail readsOneUrl buttonDesign (buttonValues []) buttonBrand
          fun _ => none).html),
        plain "https:" <+: href ∨ plain "http:" <+: href :=
  links_go_to_the_web readsOneUrl
    (fun _ _ hparsed => readsOneUrl_eq hparsed ▸ ⟨plain "//a.co/", by decide⟩)
    buttonDesign (buttonValues []) buttonBrand fun _ => none

/-! ### The links of the plain text -/

section PlainText

variable {parseUrl} {context : EmailContext} {href : Units}

theorem infix_dropWhile {p : UInt16 → Bool} {part text : Units} (hne : part ≠ [])
    (hpart : ∀ u ∈ part, p u = false) (h : part <:+: text) : part <:+: text.dropWhile p := by
  obtain ⟨before, after, rfl⟩ := h
  have hkept : (part ++ after).dropWhile p = part ++ after := by
    cases part with
    | nil => exact absurd rfl hne
    | cons u rest =>
      have hfirst := hpart u List.mem_cons_self
      exact List.dropWhile_cons_of_neg (by simp [hfirst])
  rw [List.append_assoc, List.dropWhile_append, hkept]
  split
  · exact (List.prefix_append part after).isInfix
  · exact ⟨before.dropWhile p, after, List.append_assoc _ _ _⟩

/-- What has no spaces is not trimmed away. -/
theorem infix_trimUnits {part text : Units} (hne : part ≠ [])
    (hpart : part.any isSpaceUnit = false) (h : part <:+: text) : part <:+: trimUnits text := by
  have hunits : ∀ u ∈ part, isSpaceUnit u = false := by
    intro u hu
    simpa using List.any_eq_false.mp hpart u hu
  have hfront := infix_dropWhile hne hunits h
  have hback : part.reverse <:+: ((text.dropWhile isSpaceUnit).reverse).dropWhile isSpaceUnit := by
    refine infix_dropWhile (by simpa using hne) (fun u hu => hunits u (List.mem_reverse.mp hu)) ?_
    exact List.reverse_infix.mpr hfront
  rw [← List.reverse_infix, trimUnits, List.rdropWhile, List.reverse_reverse]
  exact hback

theorem trimUnits_infix (text : Units) : trimUnits text <:+: text :=
  (List.rdropWhile_prefix _ _).isInfix.trans (List.dropWhile_suffix _).isInfix

theorem infix_flatMap {α : Type*} {items : List α} {write : α → Units} {item : α}
    (hitem : item ∈ items) : write item <:+: items.flatMap write :=
  List.infix_of_mem_flatten (List.mem_map_of_mem hitem)

theorem infix_intercalate {separator part : Units} {parts : List Units} (h : part ∈ parts) :
    part <:+: separator.intercalate parts := by
  induction parts with
  | nil => cases h
  | cons first rest ih =>
    cases rest with
    | nil =>
      rw [List.mem_singleton.mp h]
      simp
    | cons second more =>
      rw [List.intercalate_cons_cons]
      rcases List.mem_cons.mp h with rfl | hrest
      · exact (List.prefix_append _ _).isInfix.trans (List.prefix_append _ _).isInfix
      · exact (ih hrest).trans (List.suffix_append _ _).isInfix

theorem infix_inlineText {node : Inline} {url : Units} (hurl : url ∈ inlineAddresses node)
    (hresolved : resolveButtonUrl parseUrl url context = some href) :
    href <:+: inlineText parseUrl context node := by
  cases node with
  | hardBreak => cases hurl
  | text text marks =>
    have hfirst : marks.findSome? Mark.href? = some url := by
      rw [inlineAddresses, Option.mem_toList] at hurl
      exact hurl
    simp only [inlineText, linkHref, hfirst, Option.bind_some, hresolved]
    split
    · next hsame =>
      rw [hsame]
      exact trimUnits_infix _
    · exact ⟨lineEnds (substitute text context) ++ plain " (", plain ")", rfl⟩

theorem infix_paragraphText {paragraph : Paragraph} {url : Units}
    (hurl : url ∈ paragraphAddresses paragraph)
    (hresolved : resolveButtonUrl parseUrl url context = some href) :
    href <:+: paragraphText parseUrl context paragraph := by
  obtain ⟨node, hnode, hin⟩ := List.mem_flatMap.mp hurl
  exact (infix_inlineText hin hresolved).trans (infix_flatMap hnode)

theorem infix_richBlockText {block : Block} {url : Units} (hurl : url ∈ richBlockAddresses block)
    (hresolved : resolveButtonUrl parseUrl url context = some href) :
    href <:+: richBlockText parseUrl context block := by
  cases block with
  | paragraph paragraph => exact infix_paragraphText hurl hresolved
  | list kind content =>
    obtain ⟨item, hitem, hin⟩ := List.mem_flatMap.mp hurl
    obtain ⟨paragraph, hparagraph, haddress⟩ := List.mem_flatMap.mp hin
    obtain ⟨⟨shown, index⟩, hindex, rfl⟩ : ∃ entry ∈ content.zipIdx, entry.1 = item :=
      List.mem_map.mp (by rwa [List.zipIdx_map_fst])
    have htext := infix_paragraphText haddress hresolved
    have hparagraphs := htext.trans (infix_intercalate
      (List.mem_map_of_mem hparagraph : _ ∈ shown.content.map (paragraphText parseUrl context)) :
        _ <:+: [lineFeed].intercalate (shown.content.map (paragraphText parseUrl context)))
    have hline := hparagraphs.trans
      (List.suffix_append (itemMark kind index ++ plain " ") _).isInfix
    exact hline.trans (infix_intercalate (List.mem_map_of_mem hindex))

/-- The text of a block has the addresses that the block links to. -/
theorem infix_blockText {assets : EmailAssetLookup} {block : EmailBlock} (hne : href ≠ [])
    (hspaces : href.any isSpaceUnit = false)
    (h : href ∈ blockLinks parseUrl context assets block) :
    ∃ part, blockText parseUrl context assets block = some part ∧ href <:+: part := by
  obtain ⟨hshown, url, hurl, hresolved⟩ := mem_blockLinks h
  cases block with
  | paragraph content =>
    obtain ⟨block, hblock, hin⟩ := List.mem_flatMap.mp hurl
    have hpart := (infix_richBlockText hin hresolved).trans
      (infix_intercalate (List.mem_map_of_mem hblock) :
        _ <:+: [lineFeed, lineFeed].intercalate (content.content.map (richBlockText parseUrl context)))
    exact ⟨_, rfl, infix_trimUnits hne hspaces hpart⟩
  | button label address =>
    rw [List.mem_singleton.mp hurl] at hresolved
    refine ⟨plainValue label context ++ plain ": " ++ href, ?_, (List.suffix_append _ _).isInfix⟩
    rw [blockText, hresolved]
    rfl
  | image block =>
    have hhref : block.href = some url := by
      rw [blockAddresses, Option.mem_toList] at hurl
      exact hurl
    have hasset : (assets (lowerCase block.assetId)).isNone = false := by
      rw [isShown] at hshown
      simpa using hshown
    refine ⟨plain "[Imagen: " ++ singleLine (substitute block.alt context) ++ plain "]" ++
      plain " (" ++ href ++ plain ")", ?_, ⟨_, _, rfl⟩⟩
    simp [blockText, hasset, hhref, hresolved]
  | _ => cases hurl

end PlainText

/-- Every link of the hypertext of a mail is in its plain text too. -/
theorem plain_text_has_the_links (parseUrl : Units → Option ParsedUrl)
    (hparse : ∀ value parsed, parseUrl value = some parsed → parsed.protocol <+: parsed.href)
    (hspaces : ∀ value parsed, parseUrl value = some parsed →
      parsed.protocol = plain "https:" ∨ parsed.protocol = plain "http:" →
        parsed.href.any isSpaceUnit = false)
    (design : EmailDesign) (context : EmailContext) (brand : EmailBrand)
    (assets : EmailAssetLookup) :
    ∀ href ∈ hrefs (read (renderEmail parseUrl design context brand assets).html),
      href <:+: (renderEmail parseUrl design context brand assets).text := by
  intro href hhref
  rw [hrefs_read] at hhref
  obtain ⟨block, hblock, hlink⟩ := List.mem_flatMap.mp hhref
  obtain ⟨_, url, _, hresolved⟩ := mem_blockLinks hlink
  have hne : href ≠ [] := ne_nil_of_resolve hparse hresolved
  obtain ⟨part, hpart, hin⟩ := infix_blockText hne (noSpaces_of_resolve hspaces hresolved) hlink
  have hfilled : part ≠ [] := by
    intro hempty
    rw [hempty, List.infix_nil] at hin
    exact hne hin
  have hlisted : part ∈ (design.blocks.filterMap (blockText parseUrl context assets)).filter
      fun part => part ≠ [] :=
    List.mem_filter.mpr ⟨List.mem_filterMap.mpr ⟨block, hblock, hpart⟩, by simpa using hfilled⟩
  exact hin.trans (infix_intercalate (List.mem_append_left _ hlisted))

theorem plain_text_has_the_links_button :
    plain "https://a.co/" <:+: (renderEmail readsOneUrl buttonDesign (buttonValues []) buttonBrand
      fun _ => none).text :=
  plain_text_has_the_links readsOneUrl
    (fun _ _ hparsed => readsOneUrl_eq hparsed ▸ ⟨plain "//a.co/", by decide⟩)
    (fun _ _ hparsed _ => readsOneUrl_eq hparsed ▸ by decide)
    buttonDesign (buttonValues []) buttonBrand (fun _ => none) (plain "https://a.co/") (by
      rw [hrefs_read]
      decide)

end InternalControl.EmailRenderer
