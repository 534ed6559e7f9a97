import WebSsh2.Library.Text

namespace WebSsh2.Library.Directives

variable {α : Type*}

-- Words stand between blanks, directives before stops.
structure Grammar (α : Type*) where
  blank : α → Bool
  space : α
  stop : α
  blank_space : blank space = true
  blank_stop : blank stop = false

-- A directive is a name with its values.
abbrev Directive (α : Type*) := List α × List (List α)

namespace Grammar

def IsWord (g : Grammar α) (text : List α) : Prop :=
  text ≠ [] ∧ ∀ unit ∈ text, g.blank unit = false ∧ unit ≠ g.stop

def words (g : Grammar α) (text : List α) : List (List α) :=
  (text.splitOnP g.blank).filter fun word => !word.isEmpty

def directive (g : Grammar α) (text : List α) : Option (Directive α) :=
  match g.words text with
  | [] => none
  | name :: values => some (name, values)

def parse [DecidableEq α] (g : Grammar α) (text : List α) : List (Directive α) :=
  (text.splitOn g.stop).filterMap g.directive

def render (g : Grammar α) (directive : Directive α) : List α :=
  [g.space].intercalate (directive.1 :: directive.2)

def serialize (g : Grammar α) (directives : List (Directive α)) : List α :=
  [g.stop, g.space].intercalate (directives.map g.render)

section Reading

variable (g : Grammar α)

theorem words_nil : g.words [] = [] := by
  simp [words]

theorem words_cons_blank {unit : α} (hblank : g.blank unit = true) (text : List α) :
    g.words (unit :: text) = g.words text := by
  rw [words, List.splitOnP_cons_eq_if_modifyHead, if_pos hblank]
  rfl

theorem words_word {word : List α} (hne : word ≠ [])
    (hword : ∀ unit ∈ word, g.blank unit = false) : g.words word = [word] := by
  rw [words, List.splitOnP_eq_singleton hword]
  simp [hne]

theorem words_append_cons {word : List α} (hne : word ≠ [])
    (hword : ∀ unit ∈ word, g.blank unit = false) {unit : α} (hblank : g.blank unit = true)
    (text : List α) : g.words (word ++ unit :: text) = word :: g.words text := by
  have hsplit : (word ++ unit :: text).splitOnP g.blank = word :: text.splitOnP g.blank :=
    List.splitOnP_append_cons_of_forall_mem hword unit hblank text
  rw [words, hsplit, List.filter_cons_of_pos (by simp [hne])]
  rfl

theorem words_intercalate {texts : List (List α)}
    (h : ∀ text ∈ texts, text ≠ [] ∧ ∀ unit ∈ text, g.blank unit = false) :
    g.words ([g.space].intercalate texts) = texts := by
  induction texts with
  | nil => exact g.words_nil
  | cons head rest ih =>
    obtain ⟨hne, hhead⟩ := h head List.mem_cons_self
    have hrest := ih fun text htext => h text (List.mem_cons_of_mem head htext)
    by_cases hnil : rest = []
    · rw [hnil, List.intercalate_singleton]
      exact g.words_word hne hhead
    · rw [List.intercalate_cons_of_ne_nil hnil, List.append_assoc, List.singleton_append,
        g.words_append_cons hne hhead g.blank_space, hrest]

theorem mem_words {text word : List α} (h : word ∈ g.words text) :
    word ≠ [] ∧ ∀ unit ∈ word, g.blank unit = false ∧ unit ∈ text := by
  obtain ⟨hmem, hne⟩ := List.mem_filter.mp h
  refine ⟨by simpa using hne, ?_⟩
  clear h hne
  induction text generalizing word with
  | nil =>
    rw [List.splitOnP_nil, List.mem_singleton] at hmem
    simp [hmem]
  | cons head rest ih =>
    obtain ⟨first, others, hsplit⟩ :=
      List.exists_cons_of_ne_nil (List.splitOnP_ne_nil g.blank rest)
    rw [List.splitOnP_cons_eq_if_modifyHead] at hmem
    rw [hsplit] at ih hmem
    have hlater : ∀ other ∈ first :: others, ∀ unit ∈ other,
        g.blank unit = false ∧ unit ∈ head :: rest := by
      intro other hother unit hunit
      obtain ⟨hblank, hin⟩ := ih hother unit hunit
      exact ⟨hblank, List.mem_cons_of_mem head hin⟩
    by_cases hblank : g.blank head = true
    · rw [if_pos hblank] at hmem
      rcases List.mem_cons.mp hmem with rfl | hmem
      · simp
      · exact hlater word hmem
    · rw [if_neg hblank, List.modifyHead_cons] at hmem
      rcases List.mem_cons.mp hmem with rfl | hmem
      · intro unit hunit
        rcases List.mem_cons.mp hunit with rfl | hunit
        · exact ⟨by simpa using hblank, List.mem_cons_self⟩
        · exact hlater first List.mem_cons_self unit hunit
      · exact hlater word (List.mem_cons_of_mem first hmem)

variable {directive : Directive α}

theorem directive_eq_some {text : List α} (h : g.directive text = some directive) :
    g.words text = directive.1 :: directive.2 := by
  unfold Grammar.directive at h
  split at h
  · cases h
  · rename_i name values hwords
    rw [hwords, ← Option.some.inj h]

theorem directive_render (h : ∀ word ∈ directive.1 :: directive.2, g.IsWord word) :
    g.directive (g.render directive) = some directive := by
  have hwords : g.words (g.render directive) = directive.1 :: directive.2 :=
    g.words_intercalate fun word hword =>
      ⟨(h word hword).1, fun unit hunit => ((h word hword).2 unit hunit).1⟩
  rw [Grammar.directive, hwords]

theorem stop_notMem_render (h : ∀ word ∈ directive.1 :: directive.2, g.IsWord word) :
    g.stop ∉ g.render directive := by
  intro hmem
  rcases Text.mem_intercalate hmem with hspace | ⟨word, hword, hin⟩
  · rw [List.mem_singleton] at hspace
    have hblank := g.blank_stop
    rw [hspace, g.blank_space] at hblank
    cases hblank
  · exact ((h word hword).2 g.stop hin).2 rfl

end Reading

section RoundTrip

variable [DecidableEq α] (g : Grammar α)

theorem mem_parse {text : List α} {directive : Directive α} (h : directive ∈ g.parse text) :
    ∀ word ∈ directive.1 :: directive.2, g.IsWord word := by
  obtain ⟨piece, hpiece, hdirective⟩ := List.mem_filterMap.mp h
  have hstop := (Text.mem_splitOn g.stop text piece hpiece).1
  intro word hword
  rw [← g.directive_eq_some hdirective] at hword
  obtain ⟨hne, hunits⟩ := g.mem_words hword
  refine ⟨hne, fun unit hunit => ⟨(hunits unit hunit).1, ?_⟩⟩
  rintro rfl
  exact hstop (hunits _ hunit).2

theorem parse_cons_blank {unit : α} (hblank : g.blank unit = true) (text : List α) :
    g.parse (unit :: text) = g.parse text := by
  have hne : (unit == g.stop) = false := by
    rw [beq_eq_false_iff_ne]
    rintro rfl
    rw [g.blank_stop] at hblank
    cases hblank
  obtain ⟨first, others, hsplit⟩ :=
    List.exists_cons_of_ne_nil (List.splitOn_ne_nil g.stop text)
  have hfirst : g.directive (unit :: first) = g.directive first := by
    rw [Grammar.directive, g.words_cons_blank hblank]
    rfl
  rw [parse, parse, List.splitOn_cons_eq_if_modifyHead, hne, if_neg Bool.false_ne_true, hsplit,
    List.modifyHead_cons, List.filterMap_cons, List.filterMap_cons, hfirst]

theorem parse_piece {text : List α} (h : g.stop ∉ text) :
    g.parse text = (g.directive text).toList := by
  rw [parse, List.splitOn_eq_singleton h]
  cases hdirective : g.directive text <;> simp [hdirective]

theorem parse_append_stop {text : List α} (h : g.stop ∉ text) (rest : List α) :
    g.parse (text ++ g.stop :: rest) = (g.directive text).toList ++ g.parse rest := by
  rw [parse, List.splitOn_append_cons_self_of_not_mem h]
  cases hdirective : g.directive text <;> simp [hdirective, parse]

-- Directives of words are read back, and only they.
theorem parse_serialize_iff (directives : List (Directive α)) :
    g.parse (g.serialize directives) = directives ↔
      ∀ directive ∈ directives, ∀ word ∈ directive.1 :: directive.2, g.IsWord word := by
  constructor
  · intro h directive hmem
    rw [← h] at hmem
    exact g.mem_parse hmem
  · intro h
    induction directives with
    | nil => simp [serialize, parse, Grammar.directive, words_nil]
    | cons head rest ih =>
      have hhead := h head List.mem_cons_self
      have hrest := ih fun directive hmem => h directive (List.mem_cons_of_mem head hmem)
      have hstop := g.stop_notMem_render hhead
      by_cases hnil : rest = []
      · rw [hnil, serialize, List.map_singleton, List.intercalate_singleton,
          g.parse_piece hstop, g.directive_render hhead]
        rfl
      · have hserialize : g.serialize (head :: rest) =
            g.render head ++ g.stop :: g.space :: g.serialize rest := by
          rw [serialize, List.map_cons,
            List.intercalate_cons_of_ne_nil (by simpa using hnil), List.append_assoc]
          rfl
        rw [hserialize, g.parse_append_stop hstop, g.directive_render hhead,
          g.parse_cons_blank g.blank_space, hrest]
        rfl

end RoundTrip

end Grammar

end WebSsh2.Library.Directives
