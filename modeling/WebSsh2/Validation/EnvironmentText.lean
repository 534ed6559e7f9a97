import WebSsh2.Decimal
import WebSsh2.Validation.Environment

namespace WebSsh2.Validation

open WebSsh2.Library

def IsBlank (text : JsString) : Prop :=
  ∀ unit ∈ text, isWhiteSpace unit = true

-- One entry of the text as somebody writes it: a key and a value that are allowed,
-- with blanks around both of them.
structure WrittenVar where
  key : JsString
  value : JsString
  beforeKey : JsString
  afterKey : JsString
  beforeValue : JsString
  afterValue : JsString
  validKey : isValidEnvKey key = true
  shortKey : key.length ≤ EnvLimits.maxKeyLength
  safeValue : isValidEnvValue value = true
  shortValue : value.length ≤ EnvLimits.maxValueLength
  commaless : 44 ∉ value
  trimmed : trim value = value
  blanks : IsBlank beforeKey ∧ IsBlank afterKey ∧ IsBlank beforeValue ∧ IsBlank afterValue

namespace WrittenVar

def left (entry : WrittenVar) : JsString :=
  entry.beforeKey ++ entry.key ++ entry.afterKey

def right (entry : WrittenVar) : JsString :=
  entry.beforeValue ++ entry.value ++ entry.afterValue

def text (entry : WrittenVar) : JsString :=
  entry.left ++ 58 :: entry.right

def pair (entry : WrittenVar) : JsString × JsString :=
  (entry.key, entry.value)

end WrittenVar

variable (entries : List WrittenVar)

def writeEnvVars : JsString :=
  [44].intercalate (entries.map WrittenVar.text)

-- What the entries say: the last entry of a key wins.
def writtenMap : EnvVars :=
  setPairs OrderedMap.empty (entries.map WrittenVar.pair)

-- The entries that count: a value with a colon makes its entry malformed, and the
-- first fifty entries that are left stand, repeated keys among them.
def countedVars : List WrittenVar :=
  (entries.filter fun entry => 58 ∉ entry.value).take EnvLimits.maxPairs

theorem isKeyUnit_of_isValidEnvKey {key : JsString} (h : isValidEnvKey key = true) :
    ∀ unit ∈ key, isUpperLetter unit = true ∨ isDigit unit = true ∨ unit = 95 := by
  cases key with
  | nil => cases h
  | cons first rest =>
    simp only [isValidEnvKey, Bool.and_eq_true, List.all_eq_true, Bool.or_eq_true,
      decide_eq_true_eq] at h
    obtain ⟨hfirst, hrest⟩ := h
    intro unit hunit
    rcases List.mem_cons.mp hunit with rfl | hmem
    · exact .inl hfirst
    · rcases hrest unit hmem with (hletter | hdigit) | hline
      · exact .inl hletter
      · exact .inr (.inl hdigit)
      · exact .inr (.inr hline)

theorem keyUnit_range {unit : UInt16}
    (h : isUpperLetter unit = true ∨ isDigit unit = true ∨ unit = 95) :
    48 ≤ unit.toNat ∧ unit.toNat ≤ 95 ∧ unit ≠ 58 := by
  rcases h with hletter | hdigit | rfl
  · simp only [isUpperLetter, Bool.and_eq_true, decide_eq_true_eq, UInt16.le_iff_toNat_le]
      at hletter
    change 65 ≤ unit.toNat ∧ unit.toNat ≤ 90 at hletter
    refine ⟨by omega, by omega, ?_⟩
    rintro rfl
    exact absurd hletter.1 (by decide)
  · have hrange := isDigit_iff.mp hdigit
    refine ⟨by omega, by omega, ?_⟩
    rintro rfl
    exact absurd hdigit (by decide)
  · decide

theorem notMem_of_isBlank {text : JsString} {unit : UInt16} (h : IsBlank text)
    (hunit : isWhiteSpace unit = false) : unit ∉ text := by
  intro hmem
  rw [h unit hmem] at hunit
  cases hunit

namespace WrittenVar

variable (entry : WrittenVar)

theorem keyUnits {unit : UInt16} (h : unit ∈ entry.key) :
    48 ≤ unit.toNat ∧ unit.toNat ≤ 95 ∧ unit ≠ 58 :=
  keyUnit_range (isKeyUnit_of_isValidEnvKey entry.validKey unit h)

theorem trim_left : trim entry.left = entry.key := by
  have hink : ∀ unit ∈ entry.key, isWhiteSpace unit = false := by
    intro unit hunit
    have hrange := entry.keyUnits hunit
    exact isWhiteSpace_of_printable (by omega)
  exact trim_surrounded entry.blanks.1 entry.blanks.2.1 (trim_of_ink hink)

theorem trim_right : trim entry.right = entry.value :=
  trim_surrounded entry.blanks.2.2.1 entry.blanks.2.2.2 entry.trimmed

theorem colon_notMem_left : 58 ∉ entry.left := by
  have hbefore := @notMem_of_isBlank _ 58 entry.blanks.1 (by decide)
  have hafter := @notMem_of_isBlank _ 58 entry.blanks.2.1 (by decide)
  have hkey : 58 ∉ entry.key := fun hmem => (entry.keyUnits hmem).2.2 rfl
  simp [left, hbefore, hafter, hkey]

theorem colon_mem_right_iff : 58 ∈ entry.right ↔ 58 ∈ entry.value := by
  have hbefore := @notMem_of_isBlank _ 58 entry.blanks.2.2.1 (by decide)
  have hafter := @notMem_of_isBlank _ 58 entry.blanks.2.2.2 (by decide)
  simp [right, hbefore, hafter]

theorem comma_notMem_text : 44 ∉ entry.text := by
  obtain ⟨hbeforeKey, hafterKey, hbeforeValue, hafterValue⟩ := entry.blanks
  have hblank : ∀ {text : JsString}, IsBlank text → 44 ∉ text := fun h =>
    notMem_of_isBlank h (by decide)
  have hkey : 44 ∉ entry.key := by
    intro hmem
    exact absurd (entry.keyUnits hmem).1 (by decide)
  simp [text, left, right, hkey, entry.commaless, hblank hbeforeKey, hblank hafterKey,
    hblank hbeforeValue, hblank hafterValue]

end WrittenVar

-- An entry is read back unless its value has a colon.
theorem parsePair_text (entry : WrittenVar) :
    parsePair entry.text = if 58 ∈ entry.value then none else some entry.pair := by
  have hsplit : entry.text.splitOn 58 = entry.left :: entry.right.splitOn 58 := by
    rw [WrittenVar.text, List.splitOn_append_cons_self,
      List.splitOn_eq_singleton entry.colon_notMem_left, List.singleton_append]
  unfold parsePair
  rw [hsplit]
  by_cases hcolon : 58 ∈ entry.value
  · rw [if_pos hcolon]
    -- a colon in the value leaves a third piece
    obtain ⟨first, last, hright⟩ := List.append_of_mem (entry.colon_mem_right_iff.mpr hcolon)
    obtain ⟨piece, pieces, hfirst⟩ :=
      List.exists_cons_of_ne_nil (List.splitOn_ne_nil 58 first)
    obtain ⟨next, others, hlast⟩ := List.exists_cons_of_ne_nil (List.splitOn_ne_nil 58 last)
    rw [hright, List.splitOn_append_cons_self, hfirst, hlast]
    cases pieces with
    | nil => rfl
    | cons _ _ => rfl
  · have hright : entry.right.splitOn 58 = [entry.right] :=
      List.splitOn_eq_singleton (mt entry.colon_mem_right_iff.mp hcolon)
    have hshortKey : decide (entry.key.length ≤ EnvLimits.maxKeyLength) = true :=
      decide_eq_true entry.shortKey
    have hshortValue : decide (entry.value.length ≤ EnvLimits.maxValueLength) = true :=
      decide_eq_true entry.shortValue
    rw [if_neg hcolon, hright]
    dsimp only
    rw [entry.trim_left, entry.trim_right, entry.validKey, entry.safeValue, hshortKey, hshortValue]
    rfl

theorem filterMap_parsePair :
    (entries.map WrittenVar.text).filterMap parsePair =
      (entries.filter fun entry => 58 ∉ entry.value).map WrittenVar.pair := by
  induction entries with
  | nil => rfl
  | cons entry rest ih =>
    have hentry := parsePair_text entry
    by_cases hcolon : 58 ∈ entry.value
    · rw [if_pos hcolon] at hentry
      rw [List.map_cons, List.filterMap_cons_none hentry, ih]
      simp [hcolon]
    · rw [if_neg hcolon] at hentry
      rw [List.map_cons, List.filterMap_cons_some hentry, ih]
      simp [hcolon]

theorem admittedPairs_writeEnvVars :
    admittedPairs (writeEnvVars entries) = (countedVars entries).map WrittenVar.pair := by
  unfold admittedPairs countedVars writeEnvVars
  rw [List.map_take, ← filterMap_parsePair]
  by_cases hempty : entries = []
  · subst hempty
    decide
  · rw [List.splitOn_intercalate]
    · intro text htext
      obtain ⟨entry, _, rfl⟩ := List.mem_map.mp htext
      exact entry.comma_notMem_text
    · simpa using hempty

theorem parseEnvVars_write :
    parseEnvVars (writeEnvVars entries) =
      if countedVars entries = [] then none else some (writtenMap (countedVars entries)) := by
  rw [parseEnvVars_eq, admittedPairs_writeEnvVars]
  simp only [List.map_eq_nil_iff, writtenMap]

-- Of the entries of one key the last one wins.
theorem get_writtenMap (key : JsString) :
    (writtenMap entries).get key =
      (entries.reverse.find? fun entry => decide (entry.key = key)).map WrittenVar.value := by
  rw [← OrderedMap.get_foldl_set]
  unfold writtenMap setPairs
  rw [List.foldl_map]
  rfl

theorem keys_set (map : EnvVars) (key value : JsString) :
    (map.set key value).entries.map Prod.fst =
      if key ∈ map.entries.map Prod.fst then map.entries.map Prod.fst
      else map.entries.map Prod.fst ++ [key] := by
  show (OrderedMap.setEntries key value map.entries).map Prod.fst = _
  induction map.entries with
  | nil => rfl
  | cons entry rest ih =>
    by_cases hkey : entry.1 = key
    · simp [OrderedMap.setEntries, hkey]
    · simp only [OrderedMap.setEntries, if_neg hkey, List.map_cons, ih, List.mem_cons,
        Ne.symm hkey, false_or]
      split <;> rfl

-- The keys stand in the order in which they first occur.
theorem keys_writtenMap :
    (writtenMap entries).entries.map Prod.fst = (entries.map WrittenVar.key).eraseDups := by
  induction entries using List.reverseRecOn with
  | nil => rfl
  | append_singleton entries entry ih =>
    have hset : writtenMap (entries ++ [entry]) =
        (writtenMap entries).set entry.key entry.value := by
      simp [writtenMap, setPairs, WrittenVar.pair]
    rw [hset, keys_set, ih, List.map_append, List.eraseDups_append, List.map_singleton,
      List.removeAll, List.filter_singleton]
    by_cases hkey : entry.key ∈ entries.map WrittenVar.key
    · simp [hkey]
    · simp [hkey, List.eraseDups_cons]

theorem countedVars_eq_self {entries : List WrittenVar}
    (hroom : entries.length ≤ EnvLimits.maxPairs)
    (hcolons : ∀ entry ∈ entries, 58 ∉ entry.value) : countedVars entries = entries := by
  have hall : (entries.filter fun entry => 58 ∉ entry.value) = entries := by
    apply List.filter_eq_self.mpr
    intro entry hentry
    exact decide_eq_true (hcolons entry hentry)
  unfold countedVars
  rw [hall, List.take_of_length_le hroom]

-- The text is read back as the map of the entries that count, which are all of them
-- where no value has a colon and there are at most fifty entries.
theorem parseEnvVars_writeEnvVars (entries : List WrittenVar) :
    (parseEnvVars (writeEnvVars entries) =
        if countedVars entries = [] then none else some (writtenMap (countedVars entries))) ∧
      (∀ key, (writtenMap (countedVars entries)).get key =
        ((countedVars entries).reverse.find? fun entry => decide (entry.key = key)).map
          WrittenVar.value) ∧
      (entries.length ≤ EnvLimits.maxPairs → (∀ entry ∈ entries, 58 ∉ entry.value) →
        countedVars entries = entries) :=
  ⟨parseEnvVars_write entries, get_writtenMap (countedVars entries), countedVars_eq_self⟩

def writeVar (key value : JsString) (validKey : isValidEnvKey key = true)
    (safeValue : isValidEnvValue value = true)
    (short : key.length ≤ EnvLimits.maxKeyLength ∧ value.length ≤ EnvLimits.maxValueLength)
    (commaless : 44 ∉ value) (trimmed : trim value = value) : WrittenVar where
  key := key
  value := value
  beforeKey := []
  afterKey := []
  beforeValue := js " "
  afterValue := []
  validKey := validKey
  shortKey := short.1
  safeValue := safeValue
  shortValue := short.2
  commaless := commaless
  trimmed := trimmed
  blanks := by unfold IsBlank; decide

def displayVar : WrittenVar :=
  writeVar (js "DISPLAY") (js ":0") (by decide) (by decide) (by decide) (by decide) (by decide)

def levelOne : WrittenVar :=
  writeVar (js "LEVEL") (js "1") (by decide) (by decide) (by decide) (by decide) (by decide)

def levelTwo : WrittenVar :=
  writeVar (js "LEVEL") (js "2") (by decide) (by decide) (by decide) (by decide) (by decide)

-- Fifty times the one level, and then the other one.
def changedLevel : List WrittenVar :=
  List.replicate EnvLimits.maxPairs levelOne ++ [levelTwo]

theorem parseEnvVars_writeEnvVars_witness :
    parseEnvVars (writeEnvVars [levelOne, levelTwo]) = some (writtenMap [levelOne, levelTwo]) := by
  obtain ⟨hparse, _, hcounted⟩ := parseEnvVars_writeEnvVars [levelOne, levelTwo]
  rw [hparse, hcounted (by decide) (by decide)]
  rfl

-- A display is dropped for its colon, and of fifty-one entries for one key the last
-- one is not read.
theorem parseEnvVars_not_roundTrip :
    parseEnvVars (writeEnvVars [displayVar]) ≠ some (writtenMap [displayVar]) ∧
      (changedLevel.map WrittenVar.key).dedup.length ≤ EnvLimits.maxPairs ∧
      parseEnvVars (writeEnvVars changedLevel) ≠ some (writtenMap changedLevel) := by
  have hlevel : (writtenMap changedLevel).get (js "LEVEL") = some (js "2") := by
    rw [get_writtenMap]
    decide
  have hread : (writtenMap (countedVars changedLevel)).get (js "LEVEL") = some (js "1") := by
    rw [get_writtenMap]
    decide
  refine ⟨?_, by decide, ?_⟩
  · have hdropped : countedVars [displayVar] = [] := rfl
    rw [parseEnvVars_write, if_pos hdropped]
    intro heq
    cases heq
  · intro heq
    rw [parseEnvVars_write] at heq
    split at heq
    · cases heq
    · rw [Option.some.inj heq, hlevel] at hread
      exact absurd hread (by decide)

end WebSsh2.Validation
