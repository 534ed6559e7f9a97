import WebSsh2.Values
import WebSsh2.Library.OrderedMap

namespace WebSsh2.Validation

open WebSsh2.Library

abbrev EnvVars := OrderedMap JsString JsString

namespace EnvLimits

def maxPairs : Nat := 50
def maxKeyLength : Nat := 32
def maxValueLength : Nat := 512

end EnvLimits

def isUpperLetter (unit : UInt16) : Bool :=
  65 ≤ unit && unit ≤ 90

-- `/^[A-Z][A-Z0-9_]*$/`
def isValidEnvKey : JsString → Bool
  | [] => false
  | first :: rest =>
    isUpperLetter first && rest.all fun unit => isUpperLetter unit || isDigit unit || unit = 95

def forbiddenEnvUnits : JsString := js ";&|`$"

def isValidEnvValue (value : JsString) : Bool :=
  value ≠ [] && !value.any (· ∈ forbiddenEnvUnits)

-- The key and the value of a pair that passes the checks.
def parsePair (pairString : JsString) : Option (JsString × JsString) :=
  match pairString.splitOn 58 with
  | [keyRaw, valueRaw] =>
    let key := trim keyRaw
    let value := trim valueRaw
    if isValidEnvKey key && isValidEnvValue value && key.length ≤ EnvLimits.maxKeyLength &&
        value.length ≤ EnvLimits.maxValueLength then
      some (key, value)
    else
      none
  | _ => none

-- One turn of the loop of `parseEnvVars`: `added` counts repeated keys too.
def addPair (collected : EnvVars × Nat) (pairString : JsString) : EnvVars × Nat :=
  match parsePair pairString with
  | some (key, value) =>
    if collected.2 < EnvLimits.maxPairs then
      (collected.1.set key value, collected.2 + 1)
    else
      collected
  | none => collected

variable (envString : JsString)

def parseEnvVars : Option EnvVars :=
  if envString = [] then
    none
  else
    let envVars := ((envString.splitOn 44).foldl addPair (OrderedMap.empty, 0)).1
    if 0 < envVars.entries.length then some envVars else none

-- The pairs of a text that pass the checks, up to the limit.
def admittedPairs : List (JsString × JsString) :=
  ((envString.splitOn 44).filterMap parsePair).take EnvLimits.maxPairs

variable (envVars : EnvVars) (pairs : List (JsString × JsString))

def setPairs : EnvVars :=
  pairs.foldl (fun envVars (key, value) => envVars.set key value) envVars

theorem foldl_addPair (pairStrings : List JsString) (envVars : EnvVars) (added : Nat) :
    (pairStrings.foldl addPair (envVars, added)).1 =
      setPairs envVars ((pairStrings.filterMap parsePair).take (EnvLimits.maxPairs - added)) := by
  induction pairStrings generalizing envVars added with
  | nil => simp [setPairs]
  | cons pairString rest ih =>
    rw [List.foldl_cons, addPair]
    cases hpair : parsePair pairString with
    | none =>
      rw [List.filterMap_cons_none hpair]
      exact ih envVars added
    | some pair =>
      rw [List.filterMap_cons_some hpair]
      by_cases hroom : added < EnvLimits.maxPairs
      · have hleft : EnvLimits.maxPairs - added = (EnvLimits.maxPairs - (added + 1)) + 1 := by
          omega
        simp only [if_pos hroom]
        rw [ih, hleft, List.take_succ_cons]
        rfl
      · have hfull : EnvLimits.maxPairs - added = 0 := by omega
        simp only [if_neg hroom]
        rw [ih, hfull, List.take_zero, List.take_zero]

theorem mem_setPairs {envVars : EnvVars} {pairs : List (JsString × JsString)}
    {entry : JsString × JsString} (h : entry ∈ (setPairs envVars pairs).entries) :
    entry ∈ envVars.entries ∨ entry ∈ pairs := by
  induction pairs generalizing envVars with
  | nil => exact .inl h
  | cons pair rest ih =>
    rcases ih h with hset | hrest
    · rcases OrderedMap.mem_setEntries hset with rfl | hold
      · exact .inr List.mem_cons_self
      · exact .inl hold
    · exact .inr (List.mem_cons_of_mem _ hrest)

theorem mem_keys_setPairs (key : JsString) :
    key ∈ (setPairs envVars pairs).entries.map Prod.fst ↔
      key ∈ envVars.entries.map Prod.fst ∨ key ∈ pairs.map Prod.fst := by
  induction pairs generalizing envVars with
  | nil => simp [setPairs]
  | cons pair rest ih =>
    have hset := OrderedMap.mem_keys_setEntries pair.1 key pair.2 envVars.entries
    show key ∈ (setPairs (envVars.set pair.1 pair.2) rest).entries.map Prod.fst ↔ _
    rw [ih]
    show (key ∈ (OrderedMap.setEntries pair.1 pair.2 envVars.entries).map Prod.fst ∨ _) ↔ _
    rw [hset, List.map_cons, List.mem_cons]
    tauto

theorem length_setPairs :
    (setPairs envVars pairs).entries.length ≤ envVars.entries.length + pairs.length := by
  induction pairs generalizing envVars with
  | nil => simp [setPairs]
  | cons pair rest ih =>
    have hset := OrderedMap.length_setEntries_le pair.1 pair.2 envVars.entries
    have hrest := ih (envVars.set pair.1 pair.2)
    show (setPairs (envVars.set pair.1 pair.2) rest).entries.length ≤ _
    rw [List.length_cons]
    change (envVars.set pair.1 pair.2).entries.length ≤ _ at hset
    omega

-- The loop sets the admitted pairs, one after the other.
theorem parseEnvVars_eq :
    parseEnvVars envString =
      if admittedPairs envString = [] then none
      else some (setPairs OrderedMap.empty (admittedPairs envString)) := by
  have hfold := foldl_addPair (envString.splitOn 44) OrderedMap.empty 0
  rw [Nat.sub_zero] at hfold
  change _ = setPairs OrderedMap.empty (admittedPairs envString) at hfold
  unfold parseEnvVars
  rw [hfold]
  by_cases hempty : envString = []
  · subst hempty
    rfl
  · rw [if_neg hempty]
    by_cases hpairs : admittedPairs envString = []
    · rw [if_pos hpairs, hpairs]
      rfl
    · obtain ⟨pair, rest, heq⟩ := List.exists_cons_of_ne_nil hpairs
      have hkey : pair.1 ∈ (setPairs OrderedMap.empty
          (admittedPairs envString)).entries.map Prod.fst := by
        rw [mem_keys_setPairs, heq]
        exact .inr List.mem_cons_self
      have hpos := List.length_pos_of_mem hkey
      rw [List.length_map] at hpos
      rw [if_neg hpairs]
      exact if_pos hpos

theorem parsePair_spec {pairString key value : JsString}
    (h : parsePair pairString = some (key, value)) :
    isValidEnvKey key = true ∧ isValidEnvValue value = true ∧
      key.length ≤ EnvLimits.maxKeyLength ∧ value.length ≤ EnvLimits.maxValueLength ∧
      ∃ keyRaw valueRaw, pairString.splitOn 58 = [keyRaw, valueRaw] ∧ key = trim keyRaw ∧
        value = trim valueRaw := by
  unfold parsePair at h
  split at h
  · rename_i keyRaw valueRaw hsplit
    dsimp only at h
    split at h
    · rename_i hvalid
      obtain ⟨rfl, rfl⟩ := Prod.mk.inj (Option.some.inj h)
      simp only [Bool.and_eq_true, decide_eq_true_eq] at hvalid
      exact ⟨hvalid.1.1.1, hvalid.1.1.2, hvalid.1.2, hvalid.2, keyRaw, valueRaw, hsplit, rfl, rfl⟩
    · cases h
  · cases h

theorem mem_admittedPairs {envString key value : JsString}
    (h : (key, value) ∈ admittedPairs envString) :
    ∃ pairString ∈ envString.splitOn 44, parsePair pairString = some (key, value) := by
  obtain ⟨pairString, hmem, hpair⟩ := List.mem_filterMap.mp (List.mem_of_mem_take h)
  exact ⟨pairString, hmem, hpair⟩

theorem length_admittedPairs : (admittedPairs envString).length ≤ EnvLimits.maxPairs :=
  List.length_take_le _ _

end WebSsh2.Validation
