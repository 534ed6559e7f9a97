import WebSsh2.Validation.Environment

namespace WebSsh2.Validation

open WebSsh2.Library

-- A value of any kind. An object, a function and the like come with the text that
-- `String` makes of them, which neither filter asks for.
inductive EnvValue where
  | undefined
  | null
  | bool (value : Bool)
  | number (value : Number)
  | string (text : JsString)
  | other (text : JsString)

abbrev EnvInput := OrderedMap JsString EnvValue

section Loop

variable (runtime : Runtime)

def isKeyValid (key : JsString) (allowSet : Option (List JsString)) : Bool :=
  if !isValidEnvKey key then
    false
  else if EnvLimits.maxKeyLength < key.length then
    false
  else
    match allowSet with
    | some allowed => decide (key ∈ allowed)
    | none => true

def checkEnvText (stringValue : JsString) : Option JsString :=
  if !isValidEnvValue stringValue || EnvLimits.maxValueLength < stringValue.length then
    none
  else
    some stringValue

def validateEnvValue : EnvValue → Option JsString
  | .undefined | .null => none
  | .string stringValue => checkEnvText stringValue
  | .number value => checkEnvText (runtime.numberToString value)
  | .bool value => checkEnvText (js (if value then "true" else "false"))
  | .other _ => none

def processEnvEntry (key : JsString) (value : EnvValue) (allowSet : Option (List JsString)) :
    Option (JsString × JsString) :=
  if !isKeyValid key allowSet then
    none
  else
    match validateEnvValue runtime value with
    | none => none
    | some validatedValue => some (key, validatedValue)

-- The loop over the entries, with what it has set and counted so far.
def collectEnvEntries (allowSet : Option (List JsString)) :
    List (JsString × EnvValue) → EnvVars → Nat → EnvVars
  | [], result, _ => result
  | (key, value) :: rest, result, count =>
    if EnvLimits.maxPairs ≤ count then
      result
    else
      match processEnvEntry runtime key value allowSet with
      | none => collectEnvEntries allowSet rest result count
      | some (key, value) => collectEnvEntries allowSet rest (result.set key value) (count + 1)

-- `none` stands for whatever is not an object, and for a missing allowlist.
def filterEnvironmentVariables (envVars : Option EnvInput) (allowlist : Option (List JsString)) :
    EnvVars :=
  match envVars with
  | none => OrderedMap.empty
  | some envVars => collectEnvEntries runtime allowlist envVars.entries OrderedMap.empty 0

end Loop

end WebSsh2.Validation

namespace WebSsh2.Connection

open WebSsh2.Library WebSsh2.Validation

section Pipeline

variable (runtime : Runtime)

-- `String(v)`
def envText : EnvValue → JsString
  | .string text => text
  | .number value => runtime.numberToString value
  | .bool value => js (if value then "true" else "false")
  | .undefined => js "undefined"
  | .null => js "null"
  | .other text => text

-- `v == null`
def isMissing : EnvValue → Bool
  | .undefined | .null => true
  | _ => false

def isTextLike : EnvValue → Bool
  | .string _ | .number _ | .bool _ => true
  | _ => false

def keepsEntry (allow : Option (List JsString)) : JsString × EnvValue → Bool
  | (k, v) =>
    if !isValidEnvKey k || EnvLimits.maxKeyLength < k.length then
      false
    else if (match allow with
        | some allowed => decide (k ∉ allowed)
        | none => false) then
      false
    else if isMissing v then
      false
    else if !isTextLike v then
      false
    else
      isValidEnvValue (envText runtime v) &&
        decide ((envText runtime v).length ≤ EnvLimits.maxValueLength)

-- `Object.fromEntries`
def fromEntries (entries : List (JsString × JsString)) : EnvVars :=
  setPairs OrderedMap.empty entries

def filterEnvironmentVariables (envVars : Option EnvInput) (allowlist : Option (List JsString)) :
    EnvVars :=
  match envVars with
  | none => OrderedMap.empty
  | some envVars =>
    fromEntries (((envVars.entries.filter (keepsEntry runtime allowlist)).take
      EnvLimits.maxPairs).map fun (k, v) => (k, envText runtime v))

end Pipeline

end WebSsh2.Connection

namespace WebSsh2.Validation

open WebSsh2.Library

section Agreement

variable (runtime : Runtime) (allowlist : Option (List JsString))

def processPair (entry : JsString × EnvValue) : Option (JsString × JsString) :=
  processEnvEntry runtime entry.1 entry.2 allowlist

variable (entries : List (JsString × EnvValue))

-- The entries that pass the checks, as texts, up to the limit.
def admittedEntries : List (JsString × JsString) :=
  (entries.filterMap (processPair runtime allowlist)).take EnvLimits.maxPairs

variable {runtime allowlist}

-- The loop sets the admitted entries, one after the other.
theorem collectEnvEntries_eq (result : EnvVars) (count : Nat) :
    collectEnvEntries runtime allowlist entries result count =
      setPairs result ((entries.filterMap (processPair runtime allowlist)).take
        (EnvLimits.maxPairs - count)) := by
  induction entries generalizing result count with
  | nil => simp [collectEnvEntries, setPairs]
  | cons entry rest ih =>
    rcases entry with ⟨key, value⟩
    unfold collectEnvEntries
    by_cases hfull : EnvLimits.maxPairs ≤ count
    · have hnone : EnvLimits.maxPairs - count = 0 := by omega
      rw [if_pos hfull, hnone, List.take_zero]
      rfl
    · rw [if_neg hfull]
      cases hentry : processEnvEntry runtime key value allowlist with
      | none =>
        have hpair : processPair runtime allowlist (key, value) = none := hentry
        rw [List.filterMap_cons_none hpair]
        exact ih result count
      | some pair =>
        have hpair : processPair runtime allowlist (key, value) = some pair := hentry
        have hleft : EnvLimits.maxPairs - count = (EnvLimits.maxPairs - (count + 1)) + 1 := by
          omega
        rw [List.filterMap_cons_some hpair, hleft, List.take_succ_cons]
        exact ih (result.set pair.1 pair.2) (count + 1)

theorem checkEnvText_eq (text : JsString) :
    checkEnvText text =
      if isValidEnvValue text && decide (text.length ≤ EnvLimits.maxValueLength) then some text
      else none := by
  unfold checkEnvText
  by_cases hvalid : isValidEnvValue text = true
  · by_cases hshort : text.length ≤ EnvLimits.maxValueLength
    · simp [hvalid, hshort, Nat.not_lt.mpr hshort]
    · simp [hvalid, hshort, Nat.lt_of_not_le hshort]
  · simp [hvalid]

theorem validateEnvValue_eq (value : EnvValue) :
    validateEnvValue runtime value =
      if !Connection.isMissing value && Connection.isTextLike value then
        checkEnvText (Connection.envText runtime value)
      else none := by
  cases value with
  | undefined | null | bool _ | number _ | string _ | other _ => rfl

theorem keepsEntry_eq (key : JsString) (value : EnvValue) :
    Connection.keepsEntry runtime allowlist (key, value) =
      (isKeyValid key allowlist && (!Connection.isMissing value && Connection.isTextLike value) &&
        (isValidEnvValue (Connection.envText runtime value) &&
          decide ((Connection.envText runtime value).length ≤ EnvLimits.maxValueLength))) := by
  unfold Connection.keepsEntry isKeyValid
  dsimp only
  cases isValidEnvKey key with
  | false => rfl
  | true =>
    by_cases hlong : EnvLimits.maxKeyLength < key.length
    · simp [hlong]
    · cases Connection.isMissing value with
      | true => cases allowlist <;> simp [hlong]
      | false =>
        cases Connection.isTextLike value with
        | false => cases allowlist <;> simp [hlong]
        | true =>
          cases allowlist with
          | none => simp [hlong]
          | some allowed =>
            by_cases hmem : key ∈ allowed
            · simp [hlong, hmem]
            · simp [hlong, hmem]

-- The checks of the two filters are the same.
theorem processPair_eq (entry : JsString × EnvValue) :
    processPair runtime allowlist entry =
      if Connection.keepsEntry runtime allowlist entry then
        some (entry.1, Connection.envText runtime entry.2)
      else none := by
  rcases entry with ⟨key, value⟩
  unfold processPair processEnvEntry
  dsimp only
  rw [keepsEntry_eq, validateEnvValue_eq, checkEnvText_eq]
  cases isKeyValid key allowlist with
  | false => rfl
  | true =>
    cases !Connection.isMissing value && Connection.isTextLike value with
    | false => rfl
    | true =>
      cases isValidEnvValue (Connection.envText runtime value) &&
          decide ((Connection.envText runtime value).length ≤ EnvLimits.maxValueLength) with
      | false => rfl
      | true => rfl

theorem filterMap_processPair :
    entries.filterMap (processPair runtime allowlist) =
      (entries.filter (Connection.keepsEntry runtime allowlist)).map
        fun (k, v) => (k, Connection.envText runtime v) := by
  induction entries with
  | nil => rfl
  | cons entry rest ih =>
    have hentry := @processPair_eq runtime allowlist entry
    cases hkeeps : Connection.keepsEntry runtime allowlist entry with
    | false =>
      rw [hkeeps] at hentry
      rw [List.filterMap_cons_none hentry, ih]
      simp [hkeeps]
    | true =>
      rw [hkeeps] at hentry
      rw [List.filterMap_cons_some hentry, ih]
      simp [hkeeps]

variable (envVars : EnvInput)

theorem filterEnvironmentVariables_eq :
    filterEnvironmentVariables runtime (some envVars) allowlist =
      setPairs OrderedMap.empty (admittedEntries runtime allowlist envVars.entries) :=
  collectEnvEntries_eq envVars.entries OrderedMap.empty 0

theorem connection_filterEnvironmentVariables_eq :
    Connection.filterEnvironmentVariables runtime (some envVars) allowlist =
      setPairs OrderedMap.empty (admittedEntries runtime allowlist envVars.entries) := by
  unfold admittedEntries
  rw [filterMap_processPair, ← List.map_take]
  rfl

theorem processPair_key {entry : JsString × EnvValue} {pair : JsString × JsString}
    (h : processPair runtime allowlist entry = some pair) : pair.1 = entry.1 := by
  rw [processPair_eq] at h
  split at h
  · rw [← Option.some.inj h]
  · cases h

-- Keys that are admitted are some of the keys that were there, in the same order.
theorem keys_filterMap_sublist :
    ((entries.filterMap (processPair runtime allowlist)).map Prod.fst).Sublist
      (entries.map Prod.fst) := by
  induction entries with
  | nil => exact List.Sublist.slnil
  | cons entry rest ih =>
    cases hentry : processPair runtime allowlist entry with
    | none =>
      rw [List.filterMap_cons_none hentry]
      exact ih.trans (List.sublist_cons_self _ _)
    | some pair =>
      rw [List.filterMap_cons_some hentry, List.map_cons, List.map_cons,
        processPair_key hentry]
      exact ih.cons_cons _

theorem entries_filterEnvironmentVariables :
    (filterEnvironmentVariables runtime (some envVars) allowlist).entries =
      admittedEntries runtime allowlist envVars.entries := by
  have hsublist : ((admittedEntries runtime allowlist envVars.entries).map Prod.fst).Sublist
      (envVars.entries.map Prod.fst) :=
    ((List.take_sublist _ _).map Prod.fst).trans (keys_filterMap_sublist envVars.entries)
  rw [filterEnvironmentVariables_eq]
  exact OrderedMap.entries_foldl_set _ OrderedMap.empty (hsublist.nodup envVars.nodup)

-- A result as an input again.
def asInput (envVars : EnvVars) : EnvInput where
  entries := envVars.entries.map fun (key, value) => (key, .string value)
  nodup := by
    rw [List.map_map]
    exact envVars.nodup

-- An entry that was admitted is admitted again, as it is.
theorem processPair_again {entry : JsString × EnvValue} {pair : JsString × JsString}
    (h : processPair runtime allowlist entry = some pair) :
    processPair runtime allowlist (pair.1, .string pair.2) = some pair := by
  rw [processPair_eq] at h
  split at h
  · rename_i hkeeps
    rcases entry with ⟨key, value⟩
    obtain rfl := Option.some.inj h
    rw [keepsEntry_eq, Bool.and_eq_true, Bool.and_eq_true] at hkeeps
    have hagain : Connection.keepsEntry runtime allowlist
        (key, .string (Connection.envText runtime value)) = true := by
      rw [keepsEntry_eq, hkeeps.1.1]
      exact hkeeps.2
    rw [processPair_eq, if_pos hagain]
    rfl
  · cases h

theorem admittedEntries_again :
    admittedEntries runtime allowlist
        ((admittedEntries runtime allowlist entries).map fun (key, value) => (key, .string value)) =
      admittedEntries runtime allowlist entries := by
  have hkept : ∀ pairs : List (JsString × JsString),
      (∀ pair ∈ pairs, processPair runtime allowlist (pair.1, .string pair.2) = some pair) →
        (pairs.map fun (key, value) => (key, EnvValue.string value)).filterMap
          (processPair runtime allowlist) = pairs := by
    intro pairs hpairs
    induction pairs with
    | nil => rfl
    | cons pair rest ih =>
      rw [List.map_cons, List.filterMap_cons_some (hpairs pair List.mem_cons_self),
        ih fun other hother => hpairs other (List.mem_cons_of_mem _ hother)]
  have hadmitted : ∀ pair ∈ admittedEntries runtime allowlist entries,
      processPair runtime allowlist (pair.1, .string pair.2) = some pair := by
    intro pair hpair
    obtain ⟨entry, _, hentry⟩ := List.mem_filterMap.mp (List.mem_of_mem_take hpair)
    exact processPair_again hentry
  unfold admittedEntries at hadmitted ⊢
  rw [hkept _ hadmitted, List.take_take, min_self]

end Agreement

-- The two filters give the same map, of at most fifty entries, and filtering it again
-- changes nothing.
theorem filterEnvironmentVariables_agree (runtime : Runtime) (envVars : Option EnvInput)
    (allowlist : Option (List JsString)) :
    Connection.filterEnvironmentVariables runtime envVars allowlist =
        filterEnvironmentVariables runtime envVars allowlist ∧
      (filterEnvironmentVariables runtime envVars allowlist).entries.length ≤ EnvLimits.maxPairs ∧
      filterEnvironmentVariables runtime
          (some (asInput (filterEnvironmentVariables runtime envVars allowlist))) allowlist =
        filterEnvironmentVariables runtime envVars allowlist ∧
      Connection.filterEnvironmentVariables runtime
          (some (asInput (Connection.filterEnvironmentVariables runtime envVars allowlist)))
          allowlist =
        Connection.filterEnvironmentVariables runtime envVars allowlist := by
  have hagree : ∀ input, Connection.filterEnvironmentVariables runtime input allowlist =
      filterEnvironmentVariables runtime input allowlist := by
    intro input
    cases input with
    | none => rfl
    | some input =>
      rw [connection_filterEnvironmentVariables_eq, filterEnvironmentVariables_eq]
  have hagain : filterEnvironmentVariables runtime
      (some (asInput (filterEnvironmentVariables runtime envVars allowlist))) allowlist =
        filterEnvironmentVariables runtime envVars allowlist := by
    cases envVars with
    | none => rfl
    | some envVars =>
      have hentries : ∀ result : EnvVars, (asInput result).entries =
          result.entries.map fun (key, value) => (key, .string value) := fun _ => rfl
      apply OrderedMap.ext
      rw [entries_filterEnvironmentVariables, hentries, entries_filterEnvironmentVariables,
        admittedEntries_again]
  refine ⟨hagree envVars, ?_, hagain, ?_⟩
  · cases envVars with
    | none => exact Nat.zero_le _
    | some envVars =>
      rw [entries_filterEnvironmentVariables]
      exact List.length_take_le _ _
  · rw [hagree envVars, hagree, hagain]

end WebSsh2.Validation
