import WebSsh2.Library.JsonLayers

-- What is left of a value when the leaves at some paths are told apart no further than
-- a coarser view of them allows. Values with one mask differ at those paths at most.
namespace WebSsh2.Library.Json

variable {ν : Type}

-- A view of leaves, by which a leaf does not become an object.
structure LeafView (ν : Type) where
  view : Json ν → Json ν
  isObject_view : ∀ value, value.isObject = false → (view value).isObject = false

abbrev Paths := List (List UInt16) → Bool

def Paths.below (secret : Paths) (key : List UInt16) : Paths :=
  fun path => secret (key :: path)

def Paths.after (secret : Paths) (before : List (List UInt16)) : Paths :=
  fun path => secret (before ++ path)

theorem Paths.after_cons (secret : Paths) (key : List UInt16) (before : List (List UInt16)) :
    secret.after (key :: before) = (secret.below key).after before := rfl

variable (leaf : LeafView ν)

mutual

def mask (secret : Paths) : Json ν → Json ν
  | .object fields => .object (maskFields secret fields)
  | value => if secret [] then leaf.view value else value

def maskFields (secret : Paths) : List (List UInt16 × Json ν) → List (List UInt16 × Json ν)
  | [] => []
  | (key, value) :: rest => (key, mask (secret.below key) value) :: maskFields secret rest

end

theorem mask_of_not_object (secret : Paths) {value : Json ν} (h : value.isObject = false) :
    mask leaf secret value = if secret [] then leaf.view value else value := by
  cases value with
  | object fields => cases h
  | null | bool _ | number _ | string _ | array _ => simp [mask]

theorem isObject_mask (secret : Paths) (value : Json ν) :
    (mask leaf secret value).isObject = value.isObject := by
  cases hvalue : value.isObject with
  | true =>
    cases value with
    | object fields => rw [mask]; rfl
    | null | bool _ | number _ | string _ | array _ => cases hvalue
  | false =>
    rw [mask_of_not_object leaf secret hvalue]
    split
    · exact leaf.isObject_view value hvalue
    · exact hvalue

theorem lookup_maskFields (secret : Paths) (key : List UInt16)
    (fields : List (List UInt16 × Json ν)) :
    lookup key (maskFields leaf secret fields) =
      (lookup key fields).map (mask leaf (secret.below key)) := by
  induction fields with
  | nil => rfl
  | cons head rest ih =>
    rcases head with ⟨name, value⟩
    rw [maskFields, lookup, lookup]
    by_cases hname : name = key
    · rw [if_pos hname, if_pos hname, hname]
      rfl
    · rw [if_neg hname, if_neg hname, ih]

theorem field_of_not_object (key : List UInt16) {value : Json ν} (h : value.isObject = false) :
    field key value = none := by
  cases value with
  | object fields => cases h
  | null | bool _ | number _ | string _ | array _ => rfl

theorem field_mask (secret : Paths) (key : List UInt16) (value : Json ν) :
    field key (mask leaf secret value) =
      (field key value).map (mask leaf (secret.below key)) := by
  cases hvalue : value.isObject with
  | true =>
    cases value with
    | object fields =>
      rw [mask]
      exact lookup_maskFields leaf secret key fields
    | null | bool _ | number _ | string _ | array _ => cases hvalue
  | false =>
    rw [field_of_not_object key hvalue, field_of_not_object key]
    · rfl
    · rw [isObject_mask, hvalue]

theorem atPath_mask (secret : Paths) (path : List (List UInt16)) (value : Json ν) :
    atPath path (mask leaf secret value) =
      (atPath path value).map (mask leaf (secret.after path)) := by
  induction path generalizing secret value with
  | nil => rfl
  | cons key path ih =>
    rw [atPath, atPath, field_mask, Paths.after_cons]
    cases field key value with
    | none => rfl
    | some inner => exact ih (secret.below key) inner

theorem mask_leaf_of_open {secret : Paths} {value : Json ν} (hvalue : value.isObject = false)
    (h : ∀ path, secret path = false) : mask leaf secret value = value := by
  rw [mask_of_not_object leaf secret hvalue, h, if_neg Bool.false_ne_true]

mutual

theorem mask_of_open : ∀ (secret : Paths) (value : Json ν), (∀ path, secret path = false) →
    mask leaf secret value = value
  | secret, .object fields, h => by
    rw [mask, maskFields_of_open secret fields fun key path => h (key :: path)]
  | _, .null, h => mask_leaf_of_open leaf rfl h
  | _, .bool _, h => mask_leaf_of_open leaf rfl h
  | _, .number _, h => mask_leaf_of_open leaf rfl h
  | _, .string _, h => mask_leaf_of_open leaf rfl h
  | _, .array _, h => mask_leaf_of_open leaf rfl h

theorem maskFields_of_open : ∀ (secret : Paths) (fields : List (List UInt16 × Json ν)),
    (∀ key path, secret (key :: path) = false) → maskFields leaf secret fields = fields
  | _, [], _ => rfl
  | secret, (key, value) :: rest, h => by
    rw [maskFields, mask_of_open (secret.below key) value (h key),
      maskFields_of_open secret rest h]

end

-- Values with one mask are the same at a path where no secret is.
theorem atPath_of_mask_eq {secret : Paths} {first second : Json ν}
    (h : mask leaf secret first = mask leaf secret second) {path : List (List UInt16)}
    (hopen : ∀ rest, secret (path ++ rest) = false) : atPath path first = atPath path second := by
  have hpath := congrArg (atPath path) h
  rw [atPath_mask, atPath_mask] at hpath
  have hid : mask leaf (secret.after path) = id :=
    funext fun value => mask_of_open leaf _ value hopen
  rw [hid, Option.map_id_fun] at hpath
  exact hpath

theorem maskFields_setEntries (secret : Paths) (key : List UInt16) (value : Json ν)
    (fields : List (List UInt16 × Json ν)) :
    maskFields leaf secret (OrderedMap.setEntries key value fields) =
      OrderedMap.setEntries key (mask leaf (secret.below key) value)
        (maskFields leaf secret fields) := by
  induction fields with
  | nil => rfl
  | cons head rest ih =>
    rcases head with ⟨name, old⟩
    rw [OrderedMap.setEntries, maskFields, OrderedMap.setEntries]
    by_cases hname : name = key
    · rw [if_pos hname, if_pos hname, maskFields, hname]
    · rw [if_neg hname, if_neg hname, maskFields, ih]

theorem keys_maskFields (secret : Paths) (fields : List (List UInt16 × Json ν)) :
    (maskFields leaf secret fields).map Prod.fst = fields.map Prod.fst := by
  induction fields with
  | nil => rfl
  | cons head rest ih => rw [maskFields, List.map_cons, List.map_cons, ih]

-- Fields are left out by their names, which a mask keeps.
theorem maskFields_filter (secret : Paths) (keep : List UInt16 → Bool)
    (fields : List (List UInt16 × Json ν)) :
    maskFields leaf secret (fields.filter fun entry => keep entry.1) =
      (maskFields leaf secret fields).filter fun entry => keep entry.1 := by
  induction fields with
  | nil => rfl
  | cons head rest ih =>
    rcases head with ⟨key, value⟩
    rw [maskFields, List.filter_cons, List.filter_cons]
    cases hkeep : keep key with
    | true => rw [if_pos rfl, if_pos rfl, maskFields, ih]
    | false =>
      rw [if_neg Bool.false_ne_true, if_neg Bool.false_ne_true, ih]

theorem mask_overlay_leaf (secret : Paths) (below : Option (Json ν)) {value : Json ν}
    (h : value.isObject = false) : mask leaf secret (overlay below value) =
      overlay (below.map (mask leaf secret)) (mask leaf secret value) := by
  rw [overlay_of_not_object h, overlay_of_not_object]
  rw [isObject_mask, h]

mutual

theorem mask_overlay : ∀ (secret : Paths) (below : Option (Json ν)) (value : Json ν),
    mask leaf secret (overlay below value) =
      overlay (below.map (mask leaf secret)) (mask leaf secret value)
  | secret, below, .object fields => by
    rcases overlay_object below fields with ⟨base, rfl, hover⟩ | ⟨hnone, hover⟩
    · rw [hover, mask, mask, Option.map_some, mask, overlay,
        maskFields_overlayFields secret base fields]
    · rw [hover, mask]
      rcases overlay_object (below.map (mask leaf secret)) (maskFields leaf secret fields) with
        ⟨base, hbase, _⟩ | ⟨_, hmasked⟩
      · obtain ⟨value, rfl, hvalue⟩ := Option.map_eq_some_iff.mp hbase
        have hobject := isObject_mask leaf secret value
        rw [hnone value rfl, hvalue] at hobject
        cases hobject
      · exact hmasked.symm
  | secret, below, .null => mask_overlay_leaf leaf secret below rfl
  | secret, below, .bool _ => mask_overlay_leaf leaf secret below rfl
  | secret, below, .number _ => mask_overlay_leaf leaf secret below rfl
  | secret, below, .string _ => mask_overlay_leaf leaf secret below rfl
  | secret, below, .array _ => mask_overlay_leaf leaf secret below rfl

theorem maskFields_overlayFields : ∀ (secret : Paths) (base fields : List (List UInt16 × Json ν)),
    maskFields leaf secret (overlayFields base fields) =
      overlayFields (maskFields leaf secret base) (maskFields leaf secret fields)
  | _, _, [] => by rw [overlayFields, maskFields, overlayFields]
  | secret, base, (key, value) :: rest => by
    rw [overlayFields, maskFields, overlayFields, maskFields_overlayFields secret _ rest,
      maskFields_setEntries, mask_overlay (secret.below key) _ value, lookup_maskFields]

end

theorem fields_of_not_object {value : Json ν} (h : value.isObject = false) :
    (match some value with | some (.object inner) => inner | _ => []) = [] := by
  cases value with
  | object fields => cases h
  | null | bool _ | number _ | string _ | array _ => rfl

theorem fields_mask (secret : Paths) (value : Option (Json ν)) :
    (match value.map (mask leaf secret) with | some (.object inner) => inner | _ => []) =
      maskFields leaf secret (match value with | some (.object inner) => inner | _ => []) := by
  cases value with
  | none => rfl
  | some value =>
    cases hvalue : value.isObject with
    | true =>
      cases value with
      | object inner => rw [Option.map_some, mask]
      | null | bool _ | number _ | string _ | array _ => cases hvalue
    | false =>
      have hmask := isObject_mask leaf secret value
      rw [hvalue] at hmask
      rw [Option.map_some, fields_of_not_object hvalue, fields_of_not_object hmask]
      rfl

-- What is put at a path is masked there.
theorem maskFields_setNested (secret : Paths) (path : List (List UInt16)) (value : Json ν)
    (fields : List (List UInt16 × Json ν)) :
    maskFields leaf secret (setNested path value fields) =
      setNested path (mask leaf (secret.after path) value) (maskFields leaf secret fields) := by
  induction path generalizing secret fields with
  | nil => rfl
  | cons key path ih =>
    cases path with
    | nil =>
      rw [setNested, setNested, maskFields_setEntries]
      rfl
    | cons next rest =>
      rw [setNested, setNested, maskFields_setEntries, mask, ih, lookup_maskFields]
      exact congrArg (fun inner => OrderedMap.setEntries key (object (setNested (next :: rest)
        (mask leaf ((secret.below key).after (next :: rest)) value) inner))
        (maskFields leaf secret fields))
        (fields_mask leaf (secret.below key) (lookup key fields)).symm

section Finer

variable {leaf} {fine : LeafView ν}

theorem mask_mask_leaf
    (h : ∀ value, value.isObject = false → leaf.view (fine.view value) = leaf.view value)
    (secret : Paths) {value : Json ν} (hvalue : value.isObject = false) :
    mask leaf secret (mask fine secret value) = mask leaf secret value := by
  rw [mask_of_not_object leaf secret hvalue, mask_of_not_object leaf secret,
    mask_of_not_object fine secret hvalue]
  · split
    · exact h value hvalue
    · rfl
  · rw [isObject_mask, hvalue]

mutual

-- A finer view keeps apart what the coarser one does.
theorem mask_mask
    (h : ∀ value, value.isObject = false → leaf.view (fine.view value) = leaf.view value) :
    ∀ (secret : Paths) (value : Json ν),
      mask leaf secret (mask fine secret value) = mask leaf secret value
  | secret, .object fields => by rw [mask, mask, maskFields_maskFields h secret fields, mask]
  | secret, .null => mask_mask_leaf h secret rfl
  | secret, .bool _ => mask_mask_leaf h secret rfl
  | secret, .number _ => mask_mask_leaf h secret rfl
  | secret, .string _ => mask_mask_leaf h secret rfl
  | secret, .array _ => mask_mask_leaf h secret rfl

theorem maskFields_maskFields
    (h : ∀ value, value.isObject = false → leaf.view (fine.view value) = leaf.view value) :
    ∀ (secret : Paths) (fields : List (List UInt16 × Json ν)),
      maskFields leaf secret (maskFields fine secret fields) = maskFields leaf secret fields
  | _, [] => rfl
  | secret, (key, value) :: rest => by
    rw [maskFields, maskFields, mask_mask h (secret.below key) value,
      maskFields_maskFields h secret rest, maskFields]

end

end Finer

end WebSsh2.Library.Json
