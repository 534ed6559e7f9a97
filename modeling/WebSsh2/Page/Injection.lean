import WebSsh2.Page.HtmlTransformer

namespace WebSsh2.Page

open WebSsh2.Library WebSsh2.Library.Text

-- A template around its two placeholders.
inductive Layout where
  | blockFirst (before between after : JsString)
  | inlineFirst (before between after : JsString)

def Layout.page : Layout → JsString → JsString → JsString
  | .blockFirst before between after, block, inline =>
    before ++ block ++ between ++ inline ++ after
  | .inlineFirst before between after, block, inline =>
    before ++ inline ++ between ++ block ++ after

-- The page is the template with the two placeholders filled in.
def Filled (html serialized page : JsString) : Prop :=
  ∃ layout : Layout, html = layout.page jsonBlockPlaceholder configPlaceholder ∧
    page = layout.page (jsonBlock serialized) (configScript serialized)

-- A page that carries the value in a text that cannot leave the script element.
def Exact {ν : Type} (format : Json.NumberFormat ν) (html serialized page : JsString)
    (value : Json ν) : Prop :=
  Filled html serialized page ∧ 60 ∉ serialized ∧ Json.parse format serialized = some value

def BlockFirst (html : JsString) : Prop :=
  ∃ before between after,
    html = (Layout.blockFirst before between after).page jsonBlockPlaceholder configPlaceholder

-- No string has a dollar pattern, nor the inline placeholder where that would
-- be found first.
def Harmless (html : JsString) (texts : List JsString) : Prop :=
  ∀ text ∈ texts, ¬ Special text ∧ (BlockFirst html → ¬ configPlaceholder <:+: text)

-- The block stands between tags.
def Markup (html : JsString) : Prop :=
  ∃ before after, html = before ++ jsonBlockPlaceholder ++ after ∧ 60 ∈ before ∧ 60 ∈ after

theorem jsonBlockPlaceholder_eq : jsonBlockPlaceholder = jsonBlock (js "null") := by
  decide +kernel

theorem configPlaceholder_eq : configPlaceholder = configScript (js "null") := by decide

theorem configPlaceholder_ne_nil : configPlaceholder ≠ [] := by
  have hend : js ";" ≠ [] := by decide
  rw [configPlaceholder_eq, configScript]
  exact List.append_ne_nil_of_right_ne_nil _ hend

theorem jsonBlockPlaceholder_ne_nil : jsonBlockPlaceholder ≠ [] := by
  have hclose : js "</script>" ≠ [] := by decide
  rw [jsonBlockPlaceholder_eq, jsonBlock]
  exact List.append_ne_nil_of_right_ne_nil _ hclose

-- Around the block the inline placeholder stays on one side.
theorem infix_around_block {before serialized after : JsString} :
    configPlaceholder <:+: before ++ jsonBlock serialized ++ after ↔
      configPlaceholder <:+: before ∨ configPlaceholder <:+: serialized ∨
        configPlaceholder <:+: after := by
  have hopen : js "<script type=\"application/json\" id=\"webssh2-config\">" =
      60 :: js "script type=\"application/json\" id=\"webssh2-config\"" ++ [62] := by decide +kernel
  have hclose : js "</script>" = 60 :: js "/script" ++ [62] := by decide +kernel
  have hlt : 60 ∉ configPlaceholder := by decide +kernel
  have hgt : 62 ∉ configPlaceholder := by decide +kernel
  have hattributes : ¬ configPlaceholder <:+:
      js "script type=\"application/json\" id=\"webssh2-config\"" := by decide +kernel
  have hname : ¬ configPlaceholder <:+: js "/script" := by decide +kernel
  rw [jsonBlock, hopen, hclose]
  simp only [List.append_assoc, List.cons_append, List.nil_append, infix_append_cons_iff hlt,
    infix_append_cons_iff hgt, hattributes, hname, false_or]

theorem substitute_jsonBlock (before matched after serialized : JsString) :
    substitute before matched after (jsonBlock serialized) =
      jsonBlock (substitute before matched after serialized) := by
  rw [jsonBlock, List.append_assoc, substitute_append_left (by decide +kernel),
    substitute_append_right (by decide +kernel) (by decide +kernel), jsonBlock, List.append_assoc]

theorem substitute_configScript (before matched after serialized : JsString) :
    substitute before matched after (configScript serialized) =
      configScript (substitute before matched after serialized) := by
  rw [configScript, List.append_assoc, substitute_append_left (by decide),
    substitute_append_right (by decide) (by decide), configScript,
    List.append_assoc]

theorem exists_layout {html : JsString} (hblock : occurrences jsonBlockPlaceholder html = 1)
    (hinline : occurrences configPlaceholder html = 1) :
    ∃ layout : Layout, html = layout.page jsonBlockPlaceholder configPlaceholder := by
  have hpos : jsonBlockPlaceholder <:+: html := (occurrences_pos_iff _ _).mp (by omega)
  have hpos' : configPlaceholder <:+: html := (occurrences_pos_iff _ _).mp (by omega)
  obtain ⟨before, after, rfl⟩ := hpos
  rw [jsonBlockPlaceholder_eq, infix_around_block] at hpos'
  rcases hpos' with ⟨first, second, rfl⟩ | hnull | ⟨first, second, rfl⟩
  · refine ⟨.inlineFirst first second after, ?_⟩
    rw [Layout.page]
  · exact absurd hnull (by decide)
  · refine ⟨.blockFirst before first second, ?_⟩
    simp only [Layout.page, List.append_assoc]

-- A template with each placeholder once, cut at the two of them.
structure Template where
  layout : Layout
  block : occurrences jsonBlockPlaceholder
    (layout.page jsonBlockPlaceholder configPlaceholder) = 1
  inline : occurrences configPlaceholder
    (layout.page jsonBlockPlaceholder configPlaceholder) = 1

def Template.html (template : Template) : JsString :=
  template.layout.page jsonBlockPlaceholder configPlaceholder

def Layout.aroundBlock : Layout → JsString → JsString × JsString
  | .blockFirst before between after, inline => (before, between ++ inline ++ after)
  | .inlineFirst before between after, inline => (before ++ inline ++ between, after)

def Layout.aroundInline : Layout → JsString → JsString × JsString
  | .blockFirst before between after, block => (before ++ block ++ between, after)
  | .inlineFirst before between after, block => (before, between ++ block ++ after)

theorem page_eq_aroundBlock (layout : Layout) (block inline : JsString) :
    layout.page block inline =
      (layout.aroundBlock inline).1 ++ block ++ (layout.aroundBlock inline).2 := by
  cases layout <;> simp only [Layout.page, Layout.aroundBlock, List.append_assoc]

theorem page_eq_aroundInline (layout : Layout) (block inline : JsString) :
    layout.page block inline =
      (layout.aroundInline block).1 ++ inline ++ (layout.aroundInline block).2 := by
  cases layout <;> simp only [Layout.page, Layout.aroundInline, List.append_assoc]

namespace Template

variable (template : Template)

theorem cut_block : cut jsonBlockPlaceholder template.html =
    some (template.layout.aroundBlock configPlaceholder) := by
  have honce := template.block
  rw [page_eq_aroundBlock] at honce
  rw [html, page_eq_aroundBlock]
  exact cut_of_occurs_once jsonBlockPlaceholder_ne_nil honce

theorem inline_first : ¬ configPlaceholder <:+:
    (template.layout.aroundInline jsonBlockPlaceholder).1 ++ configPlaceholder.dropLast := by
  have honce := template.inline
  rw [page_eq_aroundInline] at honce
  exact first_of_occurs_once configPlaceholder_ne_nil honce

theorem cut_inline : cut configPlaceholder template.html =
    some (template.layout.aroundInline jsonBlockPlaceholder) := by
  rw [html, page_eq_aroundInline]
  exact cut_eq_of_first _ configPlaceholder_ne_nil template.inline_first

-- There is one way only to cut the template.
theorem layout_unique {first second : Template} (h : first.html = second.html) :
    first.layout = second.layout := by
  have hblock := first.cut_block
  have hinline := first.cut_inline
  rw [h, second.cut_block, Option.some.injEq] at hblock
  rw [h, second.cut_inline, Option.some.injEq] at hinline
  obtain ⟨layout, _, _⟩ := first
  obtain ⟨layout', _, _⟩ := second
  cases layout with
  | blockFirst before between after =>
    cases layout' with
    | blockFirst before' between' after' =>
      obtain ⟨rfl, _⟩ := Prod.mk.inj hblock
      obtain ⟨hleft, rfl⟩ := Prod.mk.inj hinline
      exact congrArg (Layout.blockFirst before' · after') (List.append_cancel_left hleft).symm
    | inlineFirst before' between' after' =>
      have hfirst := congrArg List.length (Prod.mk.inj hblock).1
      have hsecond := congrArg List.length (Prod.mk.inj hinline).1
      have hpos := List.length_pos_of_ne_nil configPlaceholder_ne_nil
      simp only [List.length_append] at hfirst hsecond
      omega
  | inlineFirst before between after =>
    cases layout' with
    | blockFirst before' between' after' =>
      have hfirst := congrArg List.length (Prod.mk.inj hblock).1
      have hsecond := congrArg List.length (Prod.mk.inj hinline).1
      have hpos := List.length_pos_of_ne_nil configPlaceholder_ne_nil
      simp only [List.length_append] at hfirst hsecond
      omega
    | inlineFirst before' between' after' =>
      obtain ⟨hleft, rfl⟩ := Prod.mk.inj hblock
      obtain ⟨rfl, _⟩ := Prod.mk.inj hinline
      exact congrArg (Layout.inlineFirst before' · after') (List.append_cancel_left hleft).symm

theorem filled_iff {serialized page : JsString} :
    Filled template.html serialized page ↔
      page = template.layout.page (jsonBlock serialized) (configScript serialized) := by
  constructor
  · rintro ⟨layout, hhtml, rfl⟩
    have hblock := template.block
    have hinline := template.inline
    change occurrences _ template.html = 1 at hblock hinline
    rw [hhtml] at hblock hinline
    rw [@layout_unique template ⟨layout, hblock, hinline⟩ hhtml]
  · rintro rfl
    exact ⟨template.layout, rfl, rfl⟩

theorem markup_aroundBlock (h : Markup template.html) :
    60 ∈ (template.layout.aroundBlock configPlaceholder).1 ∧
      60 ∈ (template.layout.aroundBlock configPlaceholder).2 := by
  obtain ⟨before, after, heq, hbefore, hafter⟩ := h
  have honce : occurrences jsonBlockPlaceholder template.html = 1 := template.block
  have hcut := template.cut_block
  rw [heq] at honce hcut
  rw [cut_of_occurs_once jsonBlockPlaceholder_ne_nil honce, Option.some.injEq] at hcut
  rw [← hcut]
  exact ⟨hbefore, hafter⟩

-- The page after the first of the two replacements.
theorem replace_block (serialized : JsString) :
    ∃ substituted,
      substituted = substitute (template.layout.aroundBlock configPlaceholder).1
        jsonBlockPlaceholder (template.layout.aroundBlock configPlaceholder).2 serialized ∧
      replace jsonBlockPlaceholder (jsonBlock serialized) template.html =
        template.layout.page (jsonBlock substituted) configPlaceholder := by
  refine ⟨_, rfl, ?_⟩
  rw [replace_of_cut template.cut_block, substitute_jsonBlock, page_eq_aroundBlock]

-- Where the second placeholder is found after the first replacement.
theorem cut_inline_after {substituted : JsString}
    (h : BlockFirst template.html → ¬ configPlaceholder <:+: substituted) :
    cut configPlaceholder (template.layout.page (jsonBlock substituted) configPlaceholder) =
      some (template.layout.aroundInline (jsonBlock substituted)) := by
  rw [page_eq_aroundInline]
  refine cut_eq_of_first _ configPlaceholder_ne_nil ?_
  have hfirst := template.inline_first
  rw [jsonBlockPlaceholder_eq] at hfirst
  have hhtml : template.html = template.layout.page jsonBlockPlaceholder configPlaceholder := rfl
  generalize template.layout = layout at hfirst hhtml ⊢
  cases layout with
  | blockFirst before between after =>
    simp only [Layout.aroundInline] at hfirst ⊢
    rw [List.append_assoc, infix_around_block] at hfirst ⊢
    simp only [not_or] at hfirst ⊢
    exact ⟨hfirst.1, h ⟨before, between, after, hhtml⟩, hfirst.2.2⟩
  | inlineFirst before between after =>
    simp only [Layout.aroundInline] at hfirst ⊢
    exact hfirst

variable {serialized : JsString}

theorem filled_of_plain (hplain : ¬ Special serialized)
    (hinline : BlockFirst template.html → ¬ configPlaceholder <:+: serialized) :
    Filled template.html serialized (injectSerialized template.html serialized) := by
  obtain ⟨substituted, hsubstituted, hreplace⟩ := template.replace_block serialized
  rw [substitute_of_plain hplain] at hsubstituted
  subst hsubstituted
  rw [filled_iff, injectSerialized, hreplace, replace_of_cut (template.cut_inline_after hinline),
    substitute_configScript, substitute_of_plain hplain, ← page_eq_aroundInline]

theorem count_page (layout : Layout) (block inline : JsString) (unit : UInt16) :
    (layout.page block inline).count unit =
      (layout.page [] []).count unit + block.count unit + inline.count unit := by
  cases layout <;> simp only [Layout.page, List.count_append, List.count_nil] <;> omega

theorem length_page (layout : Layout) (block inline : JsString) :
    (layout.page block inline).length =
      (layout.page [] []).length + block.length + inline.length := by
  cases layout <;> simp only [Layout.page, List.length_append, List.length_nil] <;> omega

-- Between tags, a dollar pattern brings in tags or loses a dollar sign.
theorem not_special_of_filled (hmarkup : Markup template.html) (hlt : 60 ∉ serialized)
    (hfilled : Filled template.html serialized (injectSerialized template.html serialized)) :
    ¬ Special serialized := by
  obtain ⟨substituted, hsubstituted, hreplace⟩ := template.replace_block serialized
  have hin : configPlaceholder <:+:
      template.layout.page (jsonBlock substituted) configPlaceholder := by
    rw [page_eq_aroundInline]
    exact ⟨_, _, rfl⟩
  obtain ⟨⟨before, after⟩, hcut⟩ := Option.isSome_iff_exists.mp ((cut_isSome_iff _ _).mpr hin)
  have hsplit := cut_eq_some hcut
  rw [filled_iff, injectSerialized, hreplace, replace_of_cut hcut, substitute_configScript]
    at hfilled
  -- the tags of the page are those of the template
  have hopen : (js "<script type=\"application/json\" id=\"webssh2-config\">").count 60 = 1 := by
    decide +kernel
  have hclose : (js "</script>").count 60 = 1 := by decide +kernel
  have hassign : (js "window.webssh2Config = ").count 60 = 0 := by decide +kernel
  have hend : (js ";").count 60 = 0 := by decide +kernel
  have hinline : configPlaceholder.count 60 = 0 := by decide +kernel
  have hnone := List.count_eq_zero_of_not_mem hlt
  have hcount := congrArg (List.count 60) hfilled
  have hcount' := congrArg (List.count 60) hsplit
  rw [count_page] at hcount hcount'
  simp only [jsonBlock, configScript, List.count_append] at hcount hcount'
  obtain ⟨hbefore, hafter⟩ := template.markup_aroundBlock hmarkup
  have htags : 60 ∈ jsonBlockPlaceholder := by decide +kernel
  have hquiet : (substitute (template.layout.aroundBlock configPlaceholder).1 jsonBlockPlaceholder
      (template.layout.aroundBlock configPlaceholder).2 serialized).count 60 ≤
      serialized.count 60 := by
    rw [← hsubstituted]
    omega
  obtain ⟨hsame, _, hless⟩ :=
    substitute_quiet (by decide +kernel) (by decide +kernel) hbefore htags hafter hquiet
  -- and so are its units
  have hlength := congrArg List.length hfilled
  have hlength' := congrArg List.length hsplit
  rw [hsame, ← hsubstituted, length_page] at hlength
  rw [length_page] at hlength'
  simp only [jsonBlock, configScript, List.length_append] at hlength hlength'
  intro hspecial
  have hshort := hless hspecial
  rw [← hsubstituted] at hshort
  omega

-- The placeholder inside of the block is the one the second replacement finds.
theorem not_placeholder_of_filled (hplain : ¬ Special serialized)
    (hhead : serialized.head? ≠ some 110)
    (hfilled : Filled template.html serialized (injectSerialized template.html serialized)) :
    BlockFirst template.html → ¬ configPlaceholder <:+: serialized := by
  rintro ⟨before, between, after, hhtml⟩ hin
  have hplaced : configPlaceholder <:+: before ++ jsonBlock serialized := by
    have := (@infix_around_block before serialized []).mpr (.inr (.inl hin))
    rwa [List.append_nil] at this
  obtain ⟨⟨front, back⟩, hcut⟩ := Option.isSome_iff_exists.mp ((cut_isSome_iff _ _).mpr hplaced)
  have hlayout : template.layout = .blockFirst before between after := by
    have hblock := template.block
    have hinline := template.inline
    change occurrences _ template.html = 1 at hblock hinline
    rw [hhtml] at hblock hinline
    exact @layout_unique template ⟨_, hblock, hinline⟩ hhtml
  obtain ⟨substituted, hsubstituted, hreplace⟩ := template.replace_block serialized
  rw [substitute_of_plain hplain] at hsubstituted
  subst hsubstituted
  have hfound : cut configPlaceholder (template.layout.page (jsonBlock substituted)
      configPlaceholder) = some (front, back ++ (between ++ configPlaceholder ++ after)) := by
    have := cut_append hcut (between ++ configPlaceholder ++ after)
    rw [hlayout, Layout.page]
    simpa only [List.append_assoc] using this
  rw [filled_iff, injectSerialized, hreplace, replace_of_cut hfound, substitute_configScript,
    substitute_of_plain hplain, hlayout, Layout.page, cut_eq_some hcut] at hfilled
  simp only [List.append_assoc] at hfilled
  have hcancel := List.append_cancel_left hfilled
  rw [configPlaceholder_eq] at hcancel
  simp only [configScript, List.append_assoc] at hcancel
  have hnull := congrArg List.head? (List.append_cancel_left hcancel)
  cases substituted with
  | nil => exact absurd (List.infix_nil.mp hin) configPlaceholder_ne_nil
  | cons unit rest => exact hhead hnull

end Template

section Config

variable {ν : Type} {format : Json.NumberFormat ν}

theorem special_render_iff (value : Json ν) :
    Special (Json.render format scriptString value) ↔ ∃ text ∈ value.texts, Special text := by
  have hpattern : ∀ pattern ∈ dollarPatterns,
      (pattern <:+: Json.render format scriptString value ↔
        ∃ text ∈ value.texts, pattern <:+: text) := by
    intro pattern hmem
    have hdollar : pattern ≠ [] ∧ (∀ unit ∈ pattern, Json.escapeUnit unit = [unit]) ∧
        (∀ unit ∈ pattern.head?, Json.isEscapeLetter unit = false) ∧ 34 ∉ pattern ∧
        36 ∈ pattern ∧ ∀ unit ∈ pattern, unit ≠ 60 ∧ unit ≠ 0x2028 ∧ unit ≠ 0x2029 := by
      revert pattern
      decide
    obtain ⟨hne, hplain, hstart, hquotation, hmarker, hscript⟩ := hdollar
    exact infix_render_scriptString_iff ⟨hne, hplain, hstart⟩
      ⟨hquotation, 36, hmarker, by decide⟩ hscript value
  constructor
  · rintro ⟨pattern, hmem, hin⟩
    obtain ⟨text, htext, hin'⟩ := (hpattern pattern hmem).mp hin
    exact ⟨text, htext, pattern, hmem, hin'⟩
  · rintro ⟨text, htext, pattern, hmem, hin⟩
    exact ⟨pattern, hmem, (hpattern pattern hmem).mpr ⟨text, htext, hin⟩⟩

theorem configPlaceholder_render_iff (value : Json ν) :
    configPlaceholder <:+: Json.render format scriptString value ↔
      ∃ text ∈ value.texts, configPlaceholder <:+: text :=
  infix_render_scriptString_iff ⟨by decide, by decide, by decide⟩
    ⟨by decide, 32, by decide, by decide⟩ (by decide) value

-- What is injected arrives exactly when no string of the value disturbs it.
theorem injectSerialized_exact (template : Template) {value result : Json ν}
    (hparse : Json.parse format (Json.render format scriptString value) = some result) :
    (Harmless template.html value.texts →
      Exact format template.html (Json.render format scriptString value)
        (injectSerialized template.html (Json.render format scriptString value)) result) ∧
    (Markup template.html →
      Exact format template.html (Json.render format scriptString value)
        (injectSerialized template.html (Json.render format scriptString value)) result →
      Harmless template.html value.texts) := by
  constructor
  · intro h
    refine ⟨template.filled_of_plain ?_ ?_, lt_notMem_render value, hparse⟩
    · rw [special_render_iff]
      rintro ⟨text, htext, hspecial⟩
      exact (h text htext).1 hspecial
    · rw [configPlaceholder_render_iff]
      rintro hfirst ⟨text, htext, hin⟩
      exact (h text htext).2 hfirst hin
  · rintro hmarkup ⟨hfilled, hlt, _⟩ text htext
    have hplain := template.not_special_of_filled hmarkup hlt hfilled
    refine ⟨fun hspecial => hplain ((special_render_iff value).mpr ⟨text, htext, hspecial⟩),
      fun hfirst hin => ?_⟩
    have hvalue : value ≠ .null := by
      rintro rfl
      exact absurd htext (by simp [Json.texts])
    exact template.not_placeholder_of_filled hplain (Json.render_head hvalue) hfilled hfirst
      ((configPlaceholder_render_iff value).mpr ⟨text, htext, hin⟩)

theorem harmless_merged_iff (html : JsString) (fields : List (JsString × Json ν))
    (theming : Json ν) :
    Harmless html (Json.object (fields ++ [(js "theming", theming)])).texts ↔
      Harmless html (Json.textsOfFields fields ++ theming.texts) := by
  have htexts : (Json.object (fields ++ [(js "theming", theming)])).texts =
      Json.textsOfFields fields ++ js "theming" :: theming.texts := by
    rw [Json.texts]
    induction fields with
    | nil => simp [Json.textsOfFields]
    | cons field rest ih =>
      simp only [List.cons_append, Json.textsOfFields, ih, List.append_assoc]
  have hkey : ¬ Special (js "theming") ∧ ¬ configPlaceholder <:+: js "theming" := by decide
  rw [htexts]
  constructor
  · intro h text htext
    refine h text ?_
    rcases List.mem_append.mp htext with hmem | hmem
    · exact List.mem_append_left _ hmem
    · exact List.mem_append_right _ (List.mem_cons_of_mem _ hmem)
  · intro h text htext
    rcases List.mem_append.mp htext with hmem | hmem
    · exact h text (List.mem_append_left _ hmem)
    · rcases List.mem_cons.mp hmem with rfl | hmem
      · exact ⟨hkey.1, fun _ => hkey.2⟩
      · exact h text (List.mem_append_right _ hmem)

theorem harmless_of_plain {html : JsString} {texts : List JsString}
    (h : ∀ text ∈ texts, ¬ Special text ∧ ¬ configPlaceholder <:+: text) : Harmless html texts :=
  fun text htext => ⟨(h text htext).1, fun _ => (h text htext).2⟩

theorem config_injected_exactly_iff (format : Json.NumberFormat ν) (html : JsString)
    (config theming : Json ν) (fields : List (JsString × Json ν))
    (hblock : occurrences jsonBlockPlaceholder html = 1)
    (hinline : occurrences configPlaceholder html = 1) (hconfig : config.distinct = true)
    (hfields : (Json.object fields).distinct = true) (htheming : theming.distinct = true) :
    ((Harmless html config.texts →
        Exact format html (serializeConfig format config) (injectConfig format html config)
          config) ∧
      (Markup html →
        Exact format html (serializeConfig format config) (injectConfig format html config)
          config → Harmless html config.texts)) ∧
    ((Harmless html (Json.textsOfFields fields ++ theming.texts) →
        Exact format html
          (mergeTheming (serializeConfig format (.object fields)) (serializeConfig format theming))
          (injectConfigWithThemingString format html fields (serializeConfig format theming))
          (.object (Json.setField (js "theming") theming fields))) ∧
      (Markup html →
        Exact format html
          (mergeTheming (serializeConfig format (.object fields)) (serializeConfig format theming))
          (injectConfigWithThemingString format html fields (serializeConfig format theming))
          (.object (Json.setField (js "theming") theming fields)) →
        Harmless html (Json.textsOfFields fields ++ theming.texts))) := by
  obtain ⟨layout, rfl⟩ := exists_layout hblock hinline
  have hparse := @parse_serializeConfig ν format config hconfig
  have hmerged := @parse_mergeTheming ν format fields theming hfields htheming
  rw [mergeTheming_eq_render] at hmerged
  rw [serializeConfig_eq_render] at hparse
  rw [← harmless_merged_iff]
  rw [injectConfigWithThemingString, mergeTheming_eq_render, injectConfig,
    serializeConfig_eq_render]
  exact ⟨injectSerialized_exact ⟨layout, hblock, hinline⟩ hparse,
    injectSerialized_exact ⟨layout, hblock, hinline⟩ hmerged⟩

end Config

def samplePage : JsString :=
  js "<html>" ++ jsonBlockPlaceholder ++ js "<script>" ++ configPlaceholder ++ js "</script>"

def sampleConfig (headerText : String) : List (JsString × Json Int) :=
  [(js "header", .object [(js "text", .string (js headerText))]), (js "port", .number 22)]

theorem occurrences_block_samplePage : occurrences jsonBlockPlaceholder samplePage = 1 := by
  decide +kernel

theorem occurrences_inline_samplePage : occurrences configPlaceholder samplePage = 1 := by
  decide +kernel

theorem price_header_injected_exactly :
    Exact Json.integers samplePage
        (serializeConfig Json.integers (.object (sampleConfig "only $5 </script>")))
        (injectConfig Json.integers samplePage (.object (sampleConfig "only $5 </script>")))
        (.object (sampleConfig "only $5 </script>")) ∧
      Exact Json.integers samplePage
        (mergeTheming (serializeConfig Json.integers (.object (sampleConfig "only $5 </script>")))
          (serializeConfig Json.integers (.bool true)))
        (injectConfigWithThemingString Json.integers samplePage (sampleConfig "only $5 </script>")
          (serializeConfig Json.integers (.bool true)))
        (.object (Json.setField (js "theming") (.bool true)
          (sampleConfig "only $5 </script>"))) := by
  have h := config_injected_exactly_iff Json.integers samplePage
    (.object (sampleConfig "only $5 </script>")) (.bool true) (sampleConfig "only $5 </script>")
    occurrences_block_samplePage occurrences_inline_samplePage (by decide)
    (by decide) (by decide)
  exact ⟨h.1.1 (harmless_of_plain (by decide)),
    h.2.1 (harmless_of_plain (by decide))⟩

-- A header text of `$&` puts the placeholder itself into the page.
theorem dollar_header_not_exact :
    occurrences jsonBlockPlaceholder samplePage = 1 ∧ occurrences configPlaceholder samplePage = 1 ∧
      (Json.object (sampleConfig "$&")).distinct = true ∧
      ¬ Exact Json.integers samplePage
        (serializeConfig Json.integers (.object (sampleConfig "$&")))
        (injectConfig Json.integers samplePage (.object (sampleConfig "$&")))
        (.object (sampleConfig "$&")) := by
  have hblock := occurrences_block_samplePage
  have hinline := occurrences_inline_samplePage
  have hdistinct : (Json.object (sampleConfig "$&")).distinct = true := by decide
  refine ⟨hblock, hinline, hdistinct, ?_⟩
  obtain ⟨layout, hhtml⟩ := exists_layout hblock hinline
  rw [hhtml] at hblock hinline
  have hmarkup : Markup samplePage :=
    ⟨js "<html>", js "<script>" ++ configPlaceholder ++ js "</script>", by
      simp only [samplePage, List.append_assoc], by decide, by decide⟩
  have hparse := @parse_serializeConfig Int Json.integers _ hdistinct
  rw [serializeConfig_eq_render] at hparse
  rw [injectConfig, serializeConfig_eq_render]
  intro hexact
  have hharmless := (injectSerialized_exact ⟨layout, hblock, hinline⟩ hparse).2
    (by rwa [hhtml] at hmarkup) (by rwa [hhtml] at hexact)
  exact (hharmless (js "$&") (by decide)).1 (by decide)

end WebSsh2.Page
