import WebSsh2.Library.JsonOverlay

namespace WebSsh2.Library.Json

section Layers

variable {ν : Type}

-- What stands at a path: nothing, or nothing because a value above it is no object, or an
-- object, or a value that is no object.
inductive Found (ν : Type) where
  | missing
  | hidden
  | object
  | value (leaf : Json ν)

def found : List (List UInt16) → Json ν → Found ν
  | [], .object _ => .object
  | [], leaf => .value leaf
  | key :: path, .object fields =>
    match lookup key fields with
    | some inner => found path inner
    | none => .missing
  | _ :: _, _ => .hidden

-- Without the difference between the two ways of finding nothing.
def Found.seen : Found ν → Found ν
  | .hidden => .missing
  | other => other

-- What is found in the upper layer, or in the lower one if the upper leaves it open.
def Found.over (upper lower : Found ν) : Found ν :=
  match upper with
  | .missing => lower
  | other => other.seen

variable (path : List (List UInt16))

def look (value : Json ν) : Found ν :=
  (found path value).seen

@[simp] theorem Found.missing_over (lower : Found ν) : Found.missing.over lower = lower := rfl

theorem found_cons_object (key : List UInt16) (path : List (List UInt16))
    (fields : List (List UInt16 × Json ν)) :
    found (key :: path) (.object fields) =
      match lookup key fields with
      | some inner => found path inner
      | none => .missing := rfl

variable {value : Json ν}

theorem found_cons_of_not_object (h : value.isObject = false) (key : List UInt16)
    (path : List (List UInt16)) : found (key :: path) value = .hidden := by
  cases value with
  | object fields => cases h
  | null | bool _ | number _ | string _ | array _ => rfl

theorem found_nil_of_not_object (h : value.isObject = false) : found [] value = .value value := by
  cases value with
  | object fields => cases h
  | null | bool _ | number _ | string _ | array _ => rfl

theorem overlay_of_not_object (h : value.isObject = false) (below : Option (Json ν)) :
    overlay below value = value := by
  cases value with
  | object fields => cases h
  | null | bool _ | number _ | string _ | array _ => simp [overlay]

variable (below : Option (Json ν))

theorem overlay_object (fields : List (List UInt16 × Json ν)) :
    (∃ base, below = some (.object base) ∧
        overlay below (.object fields) = .object (overlayFields base fields)) ∨
      ((∀ value, below = some value → value.isObject = false) ∧
        overlay below (.object fields) = .object fields) := by
  unfold overlay
  split
  · rename_i base
    exact .inl ⟨base, rfl, rfl⟩
  · rename_i hbelow
    refine .inr ⟨?_, rfl⟩
    rintro (_ | _ | _ | _ | _ | base) rfl
    · rfl
    · rfl
    · rfl
    · rfl
    · rfl
    · exact absurd rfl (hbelow base)

-- What is found below a layer that may not be there.
def lookBelow : Found ν :=
  (below.map (look path)).getD .missing

theorem lookBelow_cons_object (key : List UInt16) (path : List (List UInt16))
    (base : List (List UInt16 × Json ν)) :
    lookBelow (key :: path) (some (.object base)) = lookBelow path (lookup key base) := by
  simp only [lookBelow, look, Option.map_some, Option.getD_some, found_cons_object]
  cases lookup key base with
  | none => rfl
  | some inner => rfl

theorem lookBelow_cons_of_not_object {below : Option (Json ν)}
    (h : ∀ value, below = some value → value.isObject = false) (key : List UInt16)
    (path : List (List UInt16)) : lookBelow (key :: path) below = .missing := by
  cases below with
  | none => rfl
  | some value =>
    simp only [lookBelow, look, Option.map_some, Option.getD_some,
      found_cons_of_not_object (h value rfl)]
    rfl

-- One value over another is read layer by layer, at every path.
theorem look_overlay (hdistinct : value.distinct = true) :
    look path (overlay below value) = (found path value).over (lookBelow path below) := by
  induction path generalizing below value with
  | nil =>
    cases hobject : value.isObject with
    | false =>
      rw [overlay_of_not_object hobject, look, found_nil_of_not_object hobject]
      rfl
    | true =>
      cases value with
      | object fields =>
        rcases overlay_object below fields with ⟨base, -, heq⟩ | ⟨-, heq⟩
        · rw [heq]
          rfl
        · rw [heq]
          rfl
      | null | bool _ | number _ | string _ | array _ => cases hobject
  | cons key path ih =>
    cases hobject : value.isObject with
    | false =>
      rw [overlay_of_not_object hobject, look, found_cons_of_not_object hobject]
      rfl
    | true =>
      cases value with
      | object fields =>
        rw [distinct, Bool.and_eq_true, decide_eq_true_eq] at hdistinct
        rcases overlay_object below fields with ⟨base, rfl, heq⟩ | ⟨hbelow, heq⟩
        · rw [heq, lookBelow_cons_object, look, found_cons_object, found_cons_object,
            lookup_overlayFields key base hdistinct.1]
          cases hinner : lookup key fields with
          | none =>
            simp only [Found.missing_over]
            cases lookup key base with
            | none => rfl
            | some inner => rfl
          | some inner => exact ih (lookup key base) (distinct_lookup hdistinct.2 hinner)
        · rw [heq, lookBelow_cons_of_not_object hbelow, look]
          cases found (key :: path) (.object fields) with
          | missing | hidden | object | value _ => rfl
      | null | bool _ | number _ | string _ | array _ => cases hobject

end Layers

section Assignment

variable {ν : Type}

-- A value is put at a path; objects are made on the way where there are none.
def setNested : List (List UInt16) → Json ν → List (List UInt16 × Json ν) →
    List (List UInt16 × Json ν)
  | [], _, fields => fields
  | [key], value, fields => OrderedMap.setEntries key value fields
  | key :: next :: path, value, fields =>
    let inner := match lookup key fields with
      | some (.object inner) => inner
      | _ => []
    OrderedMap.setEntries key (.object (setNested (next :: path) value inner)) fields

variable {path : List (List UInt16)}

theorem setNested_cons (key : List UInt16) (hpath : path ≠ []) (value : Json ν)
    (fields : List (List UInt16 × Json ν)) :
    ∃ inner, setNested (key :: path) value fields =
        OrderedMap.setEntries key (.object (setNested path value inner)) fields ∧
      (lookup key fields = some (.object inner) ∨
        inner = [] ∧ ∀ base, lookup key fields ≠ some (.object base)) := by
  obtain ⟨next, rest, rfl⟩ := List.exists_cons_of_ne_nil hpath
  rw [setNested]
  split
  · rename_i inner hinner
    exact ⟨inner, rfl, .inl hinner⟩
  · rename_i hnone
    exact ⟨[], rfl, .inr ⟨rfl, hnone⟩⟩

variable (before : Found ν)

-- What the assignment of a value to a path makes of what is found at another.
def Found.assign (target : List (List UInt16)) (value : Json ν) (path : List (List UInt16)) :
    Found ν :=
  if target <+: path then found (path.drop target.length) value
  else if path <+: target then .object
  else before

theorem Found.assign_cons (key : List UInt16) (target : List (List UInt16)) (value : Json ν)
    (path : List (List UInt16)) :
    before.assign (key :: target) value (key :: path) = before.assign target value path := by
  simp [Found.assign, List.cons_prefix_cons]

theorem Found.assign_of_ne {key name : List UInt16} (h : key ≠ name) (target : List (List UInt16))
    (value : Json ν) (path : List (List UInt16)) :
    before.assign (key :: target) value (name :: path) = before := by
  simp [Found.assign, List.cons_prefix_cons, h, Ne.symm h]

theorem Found.assign_congr {first second : Found ν} {target path : List (List UInt16)}
    (h : path ≠ [] → first = second) (value : Json ν) :
    first.assign target value path = second.assign target value path := by
  by_cases hpath : path = []
  · subst hpath
    simp [Found.assign]
  · rw [h hpath]

theorem found_empty (h : path ≠ []) : found path (.object [] : Json ν) = .missing := by
  obtain ⟨key, rest, rfl⟩ := List.exists_cons_of_ne_nil h
  rfl

variable {fields : List (List UInt16 × Json ν)}

-- Induction over the path of the assignment. A value in its way would be replaced by an
-- object, and what it hides be missing instead.
theorem found_setNested {target : List (List UInt16)} (htarget : target ≠ []) (value : Json ν)
    (hopen : found target (.object fields) ≠ .hidden) (path : List (List UInt16)) :
    found path (.object (setNested target value fields)) =
      (found path (.object fields)).assign target value path := by
  induction target generalizing fields path with
  | nil => exact absurd rfl htarget
  | cons key target ih =>
    cases path with
    | nil => simp [found, Found.assign]
    | cons name path =>
      by_cases htail : target = []
      · subst htail
        rw [setNested, found_cons_object, lookup_setEntries]
        by_cases hname : key = name
        · subst hname
          simp [Found.assign]
        · rw [if_neg hname, Found.assign_of_ne _ hname]
          rfl
      · obtain ⟨inner, hset, hinner⟩ := setNested_cons key htail value fields
        rw [hset, found_cons_object, lookup_setEntries]
        by_cases hname : key = name
        · subst hname
          rw [if_pos rfl, Found.assign_cons]
          rw [found_cons_object] at hopen ⊢
          rcases hinner with hobject | ⟨rfl, hnone⟩
          · rw [hobject] at hopen ⊢
            exact ih htail hopen path
          · have hempty : found target (.object [] : Json ν) ≠ .hidden := by
              rw [found_empty htail]
              simp
            dsimp only
            rw [ih htail hempty path]
            apply Found.assign_congr
            intro hpath
            rw [found_empty hpath]
            cases hlookup : lookup key fields with
            | none => rfl
            | some other =>
              rw [hlookup] at hopen
              obtain ⟨next, rest, rfl⟩ := List.exists_cons_of_ne_nil htail
              have hother : other.isObject = false := by
                cases other with
                | object base => exact absurd hlookup (hnone base)
                | null | bool _ | number _ | string _ | array _ => rfl
              exact absurd (found_cons_of_not_object hother next rest) hopen
        · rw [if_neg hname, Found.assign_of_ne _ hname]
          rfl

-- Assignments one after the other.
def assignAll (entries : List (List (List UInt16) × Json ν)) : List (List UInt16 × Json ν) :=
  entries.foldl (fun fields entry => setNested entry.1 entry.2 fields) []

def foundIn (entries : List (List (List UInt16) × Json ν)) (path : List (List UInt16)) :
    Found ν :=
  entries.foldl (fun before entry => before.assign entry.1 entry.2 path)
    (if path = [] then .object else .missing)

-- No value that is no object is put above the path of a later assignment.
def Unhindered (entries : List (List (List UInt16) × Json ν)) : Prop :=
  ∀ before entry after, entries = before ++ entry :: after →
    entry.1 ≠ [] ∧ foundIn before entry.1 ≠ .hidden

theorem foundIn_append (entries : List (List (List UInt16) × Json ν))
    (entry : List (List UInt16) × Json ν) (path : List (List UInt16)) :
    foundIn (entries ++ [entry]) path = (foundIn entries path).assign entry.1 entry.2 path := by
  simp [foundIn, List.foldl_append]

variable {entries : List (List (List UInt16) × Json ν)}

theorem found_assignAll (h : Unhindered entries) (path : List (List UInt16)) :
    found path (.object (assignAll entries)) = foundIn entries path := by
  induction entries using List.reverseRecOn generalizing path with
  | nil =>
    cases path with
    | nil => rfl
    | cons key path => rfl
  | append_singleton entries entry ih =>
    have hbefore : Unhindered entries := by
      intro before other after heq
      apply h before other (after ++ [entry])
      rw [heq, List.append_assoc, List.cons_append]
    obtain ⟨htarget, hopen⟩ := h entries entry [] rfl
    rw [← ih hbefore] at hopen
    rw [foundIn_append, ← ih hbefore, ← found_setNested htarget entry.2 hopen path]
    simp [assignAll, List.foldl_append]

-- What the last assignment says that has to do with a path.
theorem foundIn_of_last {before after : List (List (List UInt16) × Json ν)}
    {entry : List (List UInt16) × Json ν} (hpath : entry.1 <+: path)
    (hafter : ∀ later ∈ after, ¬later.1 <+: path ∧ ¬path <+: later.1) :
    foundIn (before ++ entry :: after) path = found (path.drop entry.1.length) entry.2 := by
  induction after using List.reverseRecOn with
  | nil =>
    rw [foundIn_append, Found.assign, if_pos hpath]
  | append_singleton after later ih =>
    have hlater := hafter later (List.mem_append_right _ List.mem_cons_self)
    rw [← List.cons_append, ← List.append_assoc, foundIn_append, Found.assign,
      if_neg hlater.1, if_neg hlater.2]
    exact ih fun other hother => hafter other (List.mem_append_left _ hother)

theorem foundIn_missing (hpath : path ≠ [])
    (h : ∀ entry ∈ entries, ¬entry.1 <+: path ∧ ¬path <+: entry.1) :
    foundIn entries path = .missing := by
  induction entries using List.reverseRecOn with
  | nil => simp [foundIn, hpath]
  | append_singleton entries entry ih =>
    have hentry := h entry (List.mem_append_right _ List.mem_cons_self)
    rw [foundIn_append, Found.assign, if_neg hentry.1, if_neg hentry.2]
    exact ih fun other hother => h other (List.mem_append_left _ hother)

-- Above the path of an assignment there is an object, unless another one says otherwise.
theorem foundIn_object (hbelow : ∃ entry ∈ entries, path <+: entry.1 ∧ path ≠ entry.1)
    (h : ∀ entry ∈ entries, entry.1 <+: path → found (path.drop entry.1.length) entry.2 = .object) :
    foundIn entries path = .object := by
  induction entries using List.reverseRecOn with
  | nil =>
    obtain ⟨entry, hmem, -⟩ := hbelow
    cases hmem
  | append_singleton entries entry ih =>
    rw [foundIn_append, Found.assign]
    split
    · rename_i hleads
      exact h entry (List.mem_append_right _ List.mem_cons_self) hleads
    · split
      · rfl
      · rename_i hnot
        apply ih
        · obtain ⟨other, hmem, hother⟩ := hbelow
          rcases List.mem_append.mp hmem with hmem | hmem
          · exact ⟨other, hmem, hother⟩
          · rw [List.mem_singleton.mp hmem] at hother
            exact absurd hother.1 hnot
        · exact fun other hother => h other (List.mem_append_left _ hother)

theorem found_nil_ne_hidden (value : Json ν) : found [] value ≠ .hidden := by
  cases value with
  | object fields => simp [found]
  | null | bool _ | number _ | string _ | array _ => simp [found]

theorem foundIn_ne_hidden
    (h : ∀ entry ∈ entries, entry.1 <+: path → found (path.drop entry.1.length) entry.2 ≠ .hidden) :
    foundIn entries path ≠ .hidden := by
  induction entries using List.reverseRecOn with
  | nil =>
    by_cases hpath : path = []
    · simp [foundIn, hpath]
    · simp [foundIn, hpath]
  | append_singleton entries entry ih =>
    have hbefore := ih fun other hother => h other (List.mem_append_left _ hother)
    have hentry := h entry (List.mem_append_right _ List.mem_cons_self)
    rw [foundIn_append, Found.assign]
    split
    · rename_i hleads
      exact hentry hleads
    · split
      · simp
      · exact hbefore

theorem distinctFields_setEntries (key : List UInt16) {value : Json ν}
    (hvalue : value.distinct = true) (h : distinctFields fields = true) :
    distinctFields (OrderedMap.setEntries key value fields) = true := by
  induction fields with
  | nil => simp [OrderedMap.setEntries, distinctFields, hvalue]
  | cons head rest ih =>
    rcases head with ⟨name, old⟩
    obtain ⟨hhead, hrest⟩ := Bool.and_eq_true_iff.mp h
    rw [OrderedMap.setEntries]
    split
    · rw [distinctFields, hvalue, hrest]
      rfl
    · rw [distinctFields, hhead, ih hrest]
      rfl

theorem distinct_setNested (target : List (List UInt16)) {value : Json ν}
    (hvalue : value.distinct = true) (h : (Json.object fields).distinct = true) :
    (Json.object (setNested target value fields)).distinct = true := by
  induction target generalizing fields with
  | nil => exact h
  | cons key target ih =>
    rw [distinct, Bool.and_eq_true, decide_eq_true_eq] at h
    have hset : ∀ inner : Json ν, inner.distinct = true →
        (Json.object (OrderedMap.setEntries key inner fields)).distinct = true := by
      intro inner hinner
      rw [distinct, Bool.and_eq_true, decide_eq_true_eq]
      exact ⟨OrderedMap.nodup_setEntries key inner fields h.1,
        distinctFields_setEntries key hinner h.2⟩
    by_cases htail : target = []
    · subst htail
      exact hset value hvalue
    · obtain ⟨inner, heq, hinner⟩ := setNested_cons key htail value fields
      rw [heq]
      apply hset
      apply ih
      rcases hinner with hobject | ⟨rfl, -⟩
      · exact distinct_lookup h.2 hobject
      · rfl

theorem distinct_assignAll (h : ∀ entry ∈ entries, entry.2.distinct = true) :
    (Json.object (assignAll entries)).distinct = true := by
  induction entries using List.reverseRecOn with
  | nil => rfl
  | append_singleton entries entry ih =>
    have hbefore := ih fun other hother => h other (List.mem_append_left _ hother)
    have hentry := h entry (List.mem_append_right _ List.mem_cons_self)
    simp only [assignAll, List.foldl_append, List.foldl_cons, List.foldl_nil]
    exact distinct_setNested entry.1 hentry hbefore

end Assignment

end WebSsh2.Library.Json
