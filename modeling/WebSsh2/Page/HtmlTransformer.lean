import WebSsh2.Values
import WebSsh2.Library.JsonOccurrence
import WebSsh2.Library.Substitution

namespace WebSsh2.Page

open WebSsh2.Library WebSsh2.Library.Text

def configPlaceholder : JsString := js "window.webssh2Config = null;"

def jsonBlockPlaceholder : JsString :=
  js "<script type=\"application/json\" id=\"webssh2-config\">null</script>"

-- `text.replaceAll(pattern, replacement)`, for a pattern of one unit.
def replaceAll (pattern : UInt16) (replacement text : JsString) : JsString :=
  text.flatMap fun unit => if unit = pattern then replacement else [unit]

def escapeForScript (json : JsString) : JsString :=
  replaceAll 0x2029 (js "\\u2029") (replaceAll 0x2028 (js "\\u2028")
    (replaceAll 60 (js "\\u003c") json))

-- What the two placeholders become.
def jsonBlock (serialized : JsString) : JsString :=
  js "<script type=\"application/json\" id=\"webssh2-config\">" ++ serialized ++ js "</script>"

def configScript (serialized : JsString) : JsString :=
  js "window.webssh2Config = " ++ serialized ++ js ";"

def injectSerialized (html serialized : JsString) : JsString :=
  replace configPlaceholder (configScript serialized)
    (replace jsonBlockPlaceholder (jsonBlock serialized) html)

section Serialization

variable {ν : Type} (format : Json.NumberFormat ν)

def serializeConfig (config : Json ν) : JsString :=
  escapeForScript (Json.stringify format config)

def injectConfig (html : JsString) (config : Json ν) : JsString :=
  injectSerialized html (serializeConfig format config)

-- The text of an object, with the theming spliced in behind its last field.
def mergeTheming (base themingJson : JsString) : JsString :=
  if base = [123, 125] then
    123 :: js "\"theming\":" ++ themingJson ++ [125]
  else
    base.dropLast ++ js ",\"theming\":" ++ themingJson ++ [125]

def injectConfigWithThemingString (html : JsString)
    (configWithoutTheming : List (JsString × Json ν)) (themingJson : JsString) : JsString :=
  injectSerialized html
    (mergeTheming (serializeConfig format (.object configWithoutTheming)) themingJson)

end Serialization

-- The text between quotation marks, once it is safe inside of a script element.
def scriptString (text : JsString) : JsString :=
  escapeForScript (Json.escapeString text)

theorem escapeForScript_append (first second : JsString) :
    escapeForScript (first ++ second) = escapeForScript first ++ escapeForScript second := by
  simp only [escapeForScript, replaceAll, List.flatMap_append]

theorem escapeForScript_of_plain {text : JsString}
    (h : ∀ unit ∈ text, unit ≠ 60 ∧ unit ≠ 0x2028 ∧ unit ≠ 0x2029) :
    escapeForScript text = text := by
  have hunit : ∀ pattern replacement, pattern ∉ text →
      replaceAll pattern replacement text = text := by
    intro pattern replacement hpattern
    clear h
    induction text with
    | nil => rfl
    | cons unit rest ih =>
      rw [List.mem_cons, not_or] at hpattern
      rw [replaceAll, List.flatMap_cons, if_neg (Ne.symm hpattern.1)]
      exact congrArg (unit :: ·) (ih hpattern.2)
  rw [escapeForScript, hunit 60 _ fun hmem => (h _ hmem).1 rfl,
    hunit 0x2028 _ fun hmem => (h _ hmem).2.1 rfl, hunit 0x2029 _ fun hmem => (h _ hmem).2.2 rfl]

theorem notMem_replaceAll (pattern : UInt16) {replacement : JsString} {unit : UInt16}
    (hreplacement : unit ∉ replacement) {text : JsString} (h : unit ∈ text → unit = pattern) :
    unit ∉ replaceAll pattern replacement text := by
  rw [replaceAll, List.mem_flatMap]
  rintro ⟨other, hother, hmem⟩
  split at hmem
  · exact hreplacement hmem
  · rename_i hne
    obtain rfl := List.mem_singleton.mp hmem
    exact hne (h hother)

theorem lt_notMem_escapeForScript (text : JsString) : 60 ∉ escapeForScript text := by
  have hfirst : 60 ∉ replaceAll 60 (js "\\u003c") text :=
    notMem_replaceAll 60 (by decide) fun _ => rfl
  have hsecond : 60 ∉ replaceAll 0x2028 (js "\\u2028") (replaceAll 60 (js "\\u003c") text) :=
    notMem_replaceAll 0x2028 (by decide) fun hmem => absurd hmem hfirst
  exact notMem_replaceAll 0x2029 (by decide) fun hmem => absurd hmem hsecond

theorem readString_scriptUnit (unit : UInt16) (rest : JsString) :
    Json.readString (escapeForScript (Json.escapeUnit unit) ++ rest) =
      (Json.readString rest).map (Prod.map (unit :: ·) id) := by
  by_cases hscript : unit = 60 ∨ unit = 0x2028 ∨ unit = 0x2029
  · have hcode : escapeForScript (Json.escapeUnit unit) = Json.unicodeEscape unit := by
      rcases hscript with rfl | rfl | rfl <;> decide
    rw [hcode]
    exact Json.readString_unicodeEscape unit rest
  · simp only [not_or] at hscript
    rw [escapeForScript_of_plain, Json.readString_escapeUnit]
    intro other hother
    rcases Json.escapeUnit_cases unit with heq | ⟨letters, heq, hletters⟩
    · rw [heq, List.mem_singleton] at hother
      rw [hother]
      exact hscript
    · rw [heq, List.mem_cons] at hother
      rcases hother with rfl | hmem
      · decide
      · have hletter := hletters other hmem
        refine ⟨?_, ?_, ?_⟩ <;> rintro rfl <;> exact absurd hletter (by decide)

theorem reads_scriptString : Json.Reads scriptString := by
  intro text rest
  rw [scriptString]
  fun_induction Json.escapeString text with
  | case1 => exact Json.readString_quote rest
  | case2 unit =>
    rw [readString_scriptUnit, Json.readString_quote]
    rfl
  | case3 unit next later hpair ih =>
    obtain ⟨hunit, hnext⟩ := Json.surrogates_le hpair
    have hplain : escapeForScript [unit, next] = [unit, next] := by
      refine escapeForScript_of_plain fun other hother => ?_
      have hlow : 0xd800 ≤ other := by
        rcases List.mem_cons.mp hother with rfl | hmem
        · exact hunit
        · rwa [List.mem_singleton.mp hmem]
      refine ⟨?_, ?_, ?_⟩ <;> rintro rfl <;> exact absurd hlow (by decide)
    have hsplit := escapeForScript_append [unit, next] (Json.escapeString later)
    rw [hplain] at hsplit
    simp only [List.cons_append, List.nil_append] at hsplit
    rw [hsplit, List.cons_append, List.cons_append, Json.readString_surrogate hunit,
      Json.readString_surrogate hnext, ih]
    rfl
  | case4 unit next later hpair ih =>
    rw [escapeForScript_append, List.append_assoc, readString_scriptUnit, ih]
    rfl

section Render

variable {ν : Type} {format : Json.NumberFormat ν}

theorem serializeConfig_eq_render (config : Json ν) :
    serializeConfig format config = Json.render format scriptString config := by
  have houtside : ∀ pattern replacement, Json.isOutsideUnit pattern = false →
      ∀ unit, Json.isOutsideUnit unit = true →
        (if unit = pattern then replacement else [unit] : JsString) = [unit] := by
    intro pattern replacement hpattern unit hunit
    refine if_neg ?_
    rintro rfl
    rw [hpattern] at hunit
    cases hunit
  rw [serializeConfig, Json.stringify, escapeForScript, replaceAll, replaceAll, replaceAll,
    Json.flatMap_render (houtside 60 _ (by decide)),
    Json.flatMap_render (houtside 0x2028 _ (by decide)),
    Json.flatMap_render (houtside 0x2029 _ (by decide))]
  rfl

theorem parse_serializeConfig {config : Json ν} (h : config.distinct = true) :
    Json.parse format (serializeConfig format config) = some config := by
  rw [serializeConfig_eq_render]
  exact Json.parse_render reads_scriptString h

-- The splice is the text of the object with one field more.
theorem mergeTheming_eq_render (fields : List (JsString × Json ν)) (theming : Json ν) :
    mergeTheming (serializeConfig format (.object fields)) (serializeConfig format theming) =
      Json.render format scriptString (.object (fields ++ [(js "theming", theming)])) := by
  have hkey : Json.quoted scriptString (js "theming") = js "\"theming\"" := by decide
  have hcomma : 44 :: js "\"theming\"" ++ [58] = js ",\"theming\":" := by decide
  have hcolon : js "\"theming\"" ++ [58] = js "\"theming\":" := by decide
  rw [mergeTheming, serializeConfig_eq_render, serializeConfig_eq_render, Json.render, Json.render,
    Json.renderFields_append, Json.renderFields, Json.renderFields, hkey]
  cases fields with
  | nil =>
    have hempty : 123 :: ([] : JsString).tail ++ [125] = [123, 125] := rfl
    rw [Json.renderFields, if_pos hempty, ← hcolon]
    simp
  | cons field rest =>
    have hfields : ∃ unit tail, Json.renderFields format scriptString (field :: rest) =
        44 :: unit :: tail := ⟨_, _, rfl⟩
    obtain ⟨unit, tail, heq⟩ := hfields
    rw [heq, if_neg (by simp), List.dropLast_concat, ← hcomma]
    simp

theorem parse_mergeTheming {fields : List (JsString × Json ν)} {theming : Json ν}
    (hfields : (Json.object fields).distinct = true) (htheming : theming.distinct = true) :
    Json.parse format (mergeTheming (serializeConfig format (.object fields))
      (serializeConfig format theming)) =
        some (.object (Json.setField (js "theming") theming fields)) := by
  rw [Json.distinct, Bool.and_eq_true, decide_eq_true_eq] at hfields
  have hall : Json.distinctFields (fields ++ [(js "theming", theming)]) = true := by
    rw [Json.distinctFields_append, hfields.2, Json.distinctFields, htheming,
      Json.distinctFields]
    rfl
  rw [mergeTheming_eq_render, Json.parse_object reads_scriptString hall,
    Json.ofFields_append_field _ _ hfields.1]

theorem lt_notMem_render (value : Json ν) : 60 ∉ Json.render format scriptString value := by
  rw [← serializeConfig_eq_render]
  exact lt_notMem_escapeForScript _

-- A pattern of plain text occurs in the serialized value exactly where it
-- occurs in a string of the value.
theorem infix_render_scriptString_iff {pattern : JsString} (h : Json.Unescaped pattern)
    (hinside : Json.InsideStrings pattern)
    (hscript : ∀ unit ∈ pattern, unit ≠ 60 ∧ unit ≠ 0x2028 ∧ unit ≠ 0x2029) (value : Json ν) :
    pattern <:+: Json.render format scriptString value ↔
      ∃ text ∈ value.texts, pattern <:+: text := by
  have hreplace : ∀ unit letters text, unit ∉ pattern →
      (∀ letter ∈ letters, Json.isEscapeLetter letter = true) →
      (pattern <:+: replaceAll unit (92 :: letters) text ↔ pattern <:+: text) := by
    intro unit letters text hunit hletters
    refine Json.infix_flatMap_iff h (fun other => ?_) text
    split
    · rename_i heq
      exact .inr ⟨heq ▸ hunit, letters, rfl, hletters⟩
    · exact .inl rfl
  have htext : ∀ text, pattern <:+: scriptString text ↔ pattern <:+: text := by
    intro text
    rw [scriptString, escapeForScript]
    refine (hreplace 0x2029 (js "u2029") _ (fun hmem => (hscript _ hmem).2.2 rfl)
      (by decide)).trans ?_
    refine (hreplace 0x2028 (js "u2028") _ (fun hmem => (hscript _ hmem).2.1 rfl)
      (by decide)).trans ?_
    refine (hreplace 60 (js "u003c") _ (fun hmem => (hscript _ hmem).1 rfl) (by decide)).trans ?_
    exact Json.infix_escapeString_iff h text
  simp only [Json.infix_render_iff hinside, htext]

end Render

end WebSsh2.Page
