import WebSsh2.Library.JsonMask

-- How a value is printed for a reader: down to some depth, with long lists and long
-- texts cut off.
namespace WebSsh2.Library.Json

inductive Shown (ν : Type) where
  | null
  | bool (value : Bool)
  | number (value : ν)
  | string (start : List UInt16) (more : Nat)
  | array (items : List (Shown ν)) (more : Nat)
  | object (fields : List (List UInt16 × Shown ν))
  -- `[Array]` or `[Object]`
  | closed (isArray : Bool)

-- Without a depth everything is printed.
structure InspectOptions where
  depth : Option Nat
  maxArrayLength : Nat
  maxStringLength : Nat

variable {ν : Type}

def isArray : Json ν → Bool
  | .array _ => true
  | _ => false

def hasMembers : Json ν → Bool
  | .array items => !items.isEmpty
  | .object fields => !fields.isEmpty
  | _ => false

variable (options : InspectOptions)

mutual

-- A value that is printed itself, with room for so many levels of members that have
-- members again.
def shown (room : Option Nat) : Json ν → Shown ν
  | .null => .null
  | .bool value => .bool value
  | .number value => .number value
  | .string text =>
    .string (text.take options.maxStringLength) (text.length - options.maxStringLength)
  | .array items =>
    .array (shownItems room options.maxArrayLength items)
      (items.length - options.maxArrayLength)
  | .object fields => .object (shownFields room fields)

def shownItems (room : Option Nat) : Nat → List (Json ν) → List (Shown ν)
  | _, [] => []
  | 0, _ => []
  | limit + 1, item :: rest =>
    (if room = some 0 ∧ item.hasMembers = true then .closed item.isArray
      else shown (room.map Nat.pred) item) :: shownItems room limit rest

def shownFields (room : Option Nat) : List (List UInt16 × Json ν) → List (List UInt16 × Shown ν)
  | [] => []
  | (key, value) :: rest =>
    (key, if room = some 0 ∧ value.hasMembers = true then .closed value.isArray
      else shown (room.map Nat.pred) value) :: shownFields room rest

end

def shownMember (room : Option Nat) (value : Json ν) : Shown ν :=
  if room = some 0 ∧ value.hasMembers = true then .closed value.isArray
  else shown options (room.map Nat.pred) value

def inspect (value : Json ν) : Shown ν :=
  shown options options.depth value

-- Printed alike wherever they stand.
def SameShown (first second : Json ν) : Prop :=
  ∀ room, shown options room first = shown options room second ∧
    shownMember options room first = shownMember options room second

-- A leaf so far down is printed.
def Reaches (room : Option Nat) (length : Nat) : Prop :=
  ∀ levels ∈ room, length ≤ levels + 1

variable {options}

variable (room : Option Nat)

theorem shownFields_cons (key : List UInt16) (value : Json ν) (rest : List (List UInt16 × Json ν)) :
    shownFields options room ((key, value) :: rest) =
      (key, shownMember options room value) :: shownFields options room rest := by
  rw [shownFields, shownMember]

theorem shownItems_eq_map (limit : Nat) (items : List (Json ν)) :
    shownItems options room limit items = (items.take limit).map (shownMember options room) := by
  induction items generalizing limit with
  | nil => rw [shownItems, List.take_nil]; rfl
  | cons item rest ih =>
    cases limit with
    | zero => rw [shownItems, List.take_zero]; rfl; exact nofun
    | succ limit =>
      rw [shownItems, ih, List.take_succ_cons]
      rfl

theorem shown_array (items : List (Json ν)) :
    shown options room (.array items) =
      .array ((items.take options.maxArrayLength).map (shownMember options room))
        (items.length - options.maxArrayLength) := by
  rw [shown, shownItems_eq_map]

-- Lists that differ in one item are printed alike if that item is cut off or printed alike.
theorem shown_array_eq_iff (before after : List (Json ν)) (one other : Json ν) :
    shown options room (.array (before ++ one :: after)) =
        shown options room (.array (before ++ other :: after)) ↔
      (before.length < options.maxArrayLength →
        shownMember options room one = shownMember options room other) := by
  rw [shown_array, shown_array, List.length_append, List.length_append, List.length_cons,
    List.length_cons, Shown.array.injEq, and_iff_left rfl]
  by_cases hroom : before.length < options.maxArrayLength
  · obtain ⟨more, hmore⟩ : ∃ more, options.maxArrayLength - before.length = more + 1 :=
      ⟨options.maxArrayLength - before.length - 1, by omega⟩
    rw [List.take_append, List.take_append, hmore, List.take_succ_cons, List.take_succ_cons,
      List.map_append, List.map_append, List.append_right_inj, List.map_cons, List.map_cons,
      List.cons.injEq, and_iff_left rfl]
    exact ⟨fun h _ => h, fun h => h hroom⟩
  · have hle : options.maxArrayLength ≤ before.length := Nat.le_of_not_lt hroom
    rw [List.take_append_of_le_length hle, List.take_append_of_le_length hle]
    exact iff_of_true rfl fun h => absurd h hroom

-- What is printed of a text: its start, and how long the rest is.
def printed (options : InspectOptions) : LeafView ν where
  view
    | .string text => .string (text.take options.maxStringLength ++
        List.replicate (text.length - options.maxStringLength) 0)
    | value => value
  isObject_view value h := by
    cases value with
    | string _ => rfl
    | null | bool _ | number _ | array _ => rfl
    | object _ => cases h

def isText : Json ν → Bool
  | .null => true
  | .string _ => true
  | _ => false

theorem sameShown_refl (value : Json ν) : SameShown options value value :=
  fun _ => ⟨rfl, rfl⟩

theorem shownMember_of_no_members {value : Json ν} (h : value.hasMembers = false) :
    shownMember options room value = shown options (room.map Nat.pred) value := by
  rw [shownMember, h, if_neg]
  exact fun hboth => Bool.false_ne_true hboth.2

theorem length_printed (limit : Nat) (text : List UInt16) :
    (text.take limit ++ List.replicate (text.length - limit) 0).length = text.length := by
  rw [List.length_append, List.length_take, List.length_replicate]
  omega

variable {first second : Json ν}

theorem printed_view_cases (h : (printed options).view first = (printed options).view second) :
    first = second ∨ ∃ text other, first = .string text ∧ second = .string other ∧
      text.take options.maxStringLength = other.take options.maxStringLength ∧
        text.length = other.length := by
  cases first with
  | string text =>
    cases second with
    | string other =>
      have hunits := Json.string.inj h
      have hlength := congrArg List.length hunits
      rw [length_printed, length_printed] at hlength
      refine .inr ⟨text, other, rfl, rfl, (List.append_inj hunits ?_).1, hlength⟩
      rw [List.length_take, List.length_take, hlength]
    | _ => cases h
  | _ =>
    cases second with
    | string other => cases h
    | _ => exact .inl h

theorem shown_string (text : List UInt16) :
    shown options room (.string text : Json ν) =
      .string (text.take options.maxStringLength) (text.length - options.maxStringLength) := by
  rw [shown]

theorem sameShown_of_printed (h : (printed options).view first = (printed options).view second) :
    SameShown options first second := by
  rcases printed_view_cases h with rfl | ⟨text, other, rfl, rfl, htake, hlength⟩
  · exact sameShown_refl _
  · intro room
    rw [shownMember_of_no_members room rfl, shownMember_of_no_members room rfl]
    simp only [shown_string, htake, hlength, and_self]

-- Of two texts that are printed alike no more can be seen.
theorem printed_of_shown {room : Option Nat}
    (h : first = second ∨ first.isText = true ∧ second.isText = true)
    (hshown : shown options room first = shown options room second) :
    (printed options).view first = (printed options).view second := by
  rcases h with rfl | ⟨hfirst, hsecond⟩
  · rfl
  · cases first with
    | null =>
      cases second with
      | null => rfl
      | string other =>
        rw [shown, shown] at hshown
        cases hshown
      | _ => cases hsecond
    | string text =>
      cases second with
      | null =>
        rw [shown, shown] at hshown
        cases hshown
      | string other =>
        rw [shown_string, shown_string] at hshown
        obtain ⟨htake, hmore⟩ := Shown.string.inj hshown
        exact congrArg Json.string (by rw [htake, hmore])
      | _ => cases hsecond
    | _ => cases hfirst

section Masked

variable {leaf : LeafView ν}

variable {secret : Paths} {first second : List (List UInt16 × Json ν)}

theorem hasMembers_of_maskFields (h : maskFields leaf secret first = maskFields leaf secret second) :
    (object first).hasMembers = (object second).hasMembers := by
  have hkeys := congrArg (List.map Prod.fst) h
  rw [keys_maskFields, keys_maskFields] at hkeys
  have hlength := congrArg List.length hkeys
  rw [List.length_map, List.length_map] at hlength
  cases first with
  | nil =>
    cases second with
    | nil => rfl
    | cons head rest => cases hlength
  | cons head rest =>
    cases second with
    | nil => cases hlength
    | cons next later => rfl

theorem reaches_zero (room : Option Nat) : Reaches room 0 :=
  fun _ _ => Nat.zero_le _

variable {room : Option Nat}

theorem reaches_cons {length : Nat} (hroom : room ≠ some 0) (h : Reaches (room.map Nat.pred) length) :
    Reaches room (length + 1) := by
  intro levels hlevels
  obtain rfl := Option.mem_def.mp hlevels
  have hpositive : levels ≠ 0 := fun hzero => hroom (by rw [hzero])
  have hle := h (Nat.pred levels) rfl
  rw [Nat.pred_eq_sub_one] at hle
  omega

theorem reaches_one (room : Option Nat) : Reaches room 1 :=
  fun levels _ => Nat.succ_le_succ (Nat.zero_le levels)

theorem isObject_eq_of_mask {first second : Json ν}
    (h : mask leaf secret first = mask leaf secret second) : first.isObject = second.isObject := by
  rw [← isObject_mask leaf secret first, h, isObject_mask]

-- Leaves under one mask are printed alike if no secret stands there, or the view that the
-- mask allows is no coarser than what is printed.
theorem sameShown_leaf {first second : Json ν} (hfirst : first.isObject = false)
    (h : mask leaf secret first = mask leaf secret second)
    (hsecret : secret [] = true → ∀ one other, leaf.view one = leaf.view other → SameShown options one other) :
    SameShown options first second := by
  have hsecond : second.isObject = false := (isObject_eq_of_mask h).symm.trans hfirst
  rw [mask_of_not_object leaf secret hfirst, mask_of_not_object leaf secret hsecond] at h
  cases hopen : secret [] with
  | true =>
    rw [hopen, if_pos rfl, if_pos rfl] at h
    exact hsecret hopen first second h
  | false =>
    rw [hopen, if_neg Bool.false_ne_true, if_neg Bool.false_ne_true] at h
    rw [h]
    exact sameShown_refl _

def AllowsPrinted (options : InspectOptions) (leaf : LeafView ν) (secret : Paths)
    (room : Option Nat) : Prop :=
  ∀ path, secret path = true → Reaches room path.length →
    ∀ one other, leaf.view one = leaf.view other → SameShown options one other

theorem AllowsPrinted.below (hroom : room ≠ some 0) (h : AllowsPrinted options leaf secret room)
    (key : List UInt16) : AllowsPrinted options leaf (secret.below key) (room.map Nat.pred) :=
  fun path hpath hreaches => h (key :: path) hpath (reaches_cons hroom hreaches)

theorem shownMember_leaf {first second : Json ν} {key : List UInt16}
    (hfirst : first.isObject = false)
    (h : mask leaf (secret.below key) first = mask leaf (secret.below key) second)
    (hallows : AllowsPrinted options leaf secret room) :
    shownMember options room first = shownMember options room second :=
  (sameShown_leaf hfirst h (fun hopen => hallows [key] hopen (reaches_one room)) room).2

theorem shownMember_object (h : maskFields leaf secret first = maskFields leaf secret second)
    (hshown : room ≠ some 0 → shown options (room.map Nat.pred) (.object first) = shown options (room.map Nat.pred) (.object second)) :
    shownMember options room (.object first) = shownMember options room (.object second) := by
  have hmembers := hasMembers_of_maskFields h
  rw [shownMember, shownMember, ← hmembers]
  by_cases hclosed : room = some 0 ∧ (object first).hasMembers = true
  · rw [if_pos hclosed, if_pos hclosed]
    rfl
  · rw [if_neg hclosed, if_neg hclosed]
    by_cases hroom : room = some 0
    · have hnone : (object first).hasMembers = false :=
        eq_false_of_ne_true fun hsome => hclosed ⟨hroom, hsome⟩
      cases first with
      | nil =>
        cases second with
        | nil => rfl
        | cons head rest => cases h
      | cons head rest => cases hnone
    · exact hshown hroom

mutual

theorem shown_of_mask : ∀ (secret : Paths) (room : Option Nat) (first second : Json ν),
    mask leaf secret first = mask leaf secret second → AllowsPrinted options leaf secret room →
      shown options room first = shown options room second
  | secret, room, .object first, second, h, hallows => by
    cases second with
    | object second =>
      rw [mask, mask] at h
      rw [shown, shown, shownFields_of_mask secret room first second (object.inj h) hallows]
    | _ => cases isObject_eq_of_mask h
  | secret, room, .null, second, h, hallows =>
    (sameShown_leaf rfl h (fun hopen => hallows [] hopen (reaches_zero room)) room).1
  | secret, room, .bool _, second, h, hallows =>
    (sameShown_leaf rfl h (fun hopen => hallows [] hopen (reaches_zero room)) room).1
  | secret, room, .number _, second, h, hallows =>
    (sameShown_leaf rfl h (fun hopen => hallows [] hopen (reaches_zero room)) room).1
  | secret, room, .string _, second, h, hallows =>
    (sameShown_leaf rfl h (fun hopen => hallows [] hopen (reaches_zero room)) room).1
  | secret, room, .array _, second, h, hallows =>
    (sameShown_leaf rfl h (fun hopen => hallows [] hopen (reaches_zero room)) room).1

theorem shownFields_of_mask : ∀ (secret : Paths) (room : Option Nat)
    (first second : List (List UInt16 × Json ν)),
    maskFields leaf secret first = maskFields leaf secret second →
      AllowsPrinted options leaf secret room →
        shownFields options room first = shownFields options room second
  | secret, room, [], second, h, hallows => by
    cases second with
    | nil => rfl
    | cons head rest => cases h
  | secret, room, (key, value) :: rest, second, h, hallows => by
    cases second with
    | nil => cases h
    | cons head later =>
      rcases head with ⟨name, other⟩
      rw [maskFields, maskFields] at h
      obtain ⟨hhead, hrest⟩ := List.cons.inj h
      obtain ⟨rfl, hvalue⟩ := Prod.mk.inj hhead
      rw [shownFields_cons, shownFields_cons,
        shownFields_of_mask secret room rest later hrest hallows]
      refine congrArg (fun one => (key, one) :: _) ?_
      cases value with
      | object fields =>
        cases other with
        | object others =>
          rw [mask, mask] at hvalue
          refine shownMember_object (object.inj hvalue) fun hroom => ?_
          rw [shown, shown, shownFields_of_mask (secret.below key) (room.map Nat.pred)
            fields others (object.inj hvalue) (hallows.below hroom key)]
        | _ => cases isObject_eq_of_mask hvalue
      | _ => exact shownMember_leaf rfl hvalue hallows

end

def TellsNonTexts (leaf : LeafView ν) : Prop :=
  ∀ one other : Json ν, leaf.view one = leaf.view other →
    one = other ∨ one.isText = true ∧ other.isText = true

theorem reaches_pred {length : Nat} (h : Reaches room (length + 1)) (hroom : room ≠ some 0) :
    Reaches (room.map Nat.pred) length := by
  intro levels hlevels
  obtain ⟨before, rfl, rfl⟩ := Option.map_eq_some_iff.mp hlevels
  have hpositive : before ≠ 0 := fun hzero => hroom (by rw [hzero])
  have hle := h before rfl
  rw [Nat.pred_eq_sub_one]
  omega

theorem printed_leaf {secret : Paths} {room : Option Nat} {first second : Json ν}
    (hview : TellsNonTexts leaf) (hfirst : first.isObject = false)
    (h : mask leaf secret first = mask leaf secret second)
    (hshown : first.isText = true → second.isText = true →
      shown options room first = shown options room second) :
    mask (printed options) secret first = mask (printed options) secret second := by
  have hsecond : second.isObject = false := (isObject_eq_of_mask h).symm.trans hfirst
  rw [mask_of_not_object leaf secret hfirst, mask_of_not_object leaf secret hsecond] at h
  rw [mask_of_not_object _ secret hfirst, mask_of_not_object _ secret hsecond]
  split_ifs at h ⊢ with hopen
  · rcases hview first second h with heq | ⟨htext, hother⟩
    · rw [heq]
    · exact printed_of_shown (.inr ⟨htext, hother⟩) (hshown htext hother)
  · exact h

theorem shownMember_text {value : Json ν} (h : value.isText = true) :
    shownMember options room value = shown options (room.map Nat.pred) value := by
  apply shownMember_of_no_members
  cases value with
  | null | string _ => rfl
  | _ => cases h

-- What is below the last level that is printed has no secret, and is the same.
theorem eq_of_mask_closed {key : List UInt16}
    (h : maskFields leaf (secret.below key) first = maskFields leaf (secret.below key) second)
    (hreaches : ∀ path, secret path = true → Reaches (some 0) path.length) : first = second := by
  have hopen : ∀ next path, secret.below key (next :: path) = false := by
    intro next path
    apply eq_false_of_ne_true
    intro hsecret
    have hle := hreaches (key :: next :: path) hsecret 0 rfl
    rw [List.length_cons, List.length_cons] at hle
    omega
  rwa [maskFields_of_open leaf _ _ hopen, maskFields_of_open leaf _ _ hopen] at h

mutual

-- Where every secret is printed, values that look the same have the same there.
theorem printed_of_shown_eq (hview : TellsNonTexts leaf) : ∀ (secret : Paths)
    (room : Option Nat) (first second : Json ν),
    mask leaf secret first = mask leaf secret second →
      (∀ path, secret path = true → Reaches room path.length) →
        shown options room first = shown options room second →
          mask (printed options) secret first = mask (printed options) secret second
  | secret, room, .object first, second, h, hreaches, hshown => by
    cases second with
    | object second =>
      rw [mask, mask] at h
      rw [shown, shown] at hshown
      rw [mask, mask, printedFields_of_shown_eq hview secret room first second (object.inj h)
        hreaches (Shown.object.inj hshown)]
    | _ => cases isObject_eq_of_mask h
  | _, _, .null, _, h, _, hshown => printed_leaf hview rfl h fun _ _ => hshown
  | _, _, .bool _, _, h, _, hshown => printed_leaf hview rfl h fun _ _ => hshown
  | _, _, .number _, _, h, _, hshown => printed_leaf hview rfl h fun _ _ => hshown
  | _, _, .string _, _, h, _, hshown => printed_leaf hview rfl h fun _ _ => hshown
  | _, _, .array _, _, h, _, hshown => printed_leaf hview rfl h fun _ _ => hshown

theorem printedFields_of_shown_eq (hview : TellsNonTexts leaf) : ∀ (secret : Paths)
    (room : Option Nat) (first second : List (List UInt16 × Json ν)),
    maskFields leaf secret first = maskFields leaf secret second →
      (∀ path, secret path = true → Reaches room path.length) →
        shownFields options room first = shownFields options room second →
          maskFields (printed options) secret first = maskFields (printed options) secret second
  | _, _, [], second, h, _, _ => by
    cases second with
    | nil => rfl
    | cons head rest => cases h
  | secret, room, (key, value) :: rest, second, h, hreaches, hshown => by
    cases second with
    | nil => cases h
    | cons head later =>
      rcases head with ⟨name, other⟩
      rw [maskFields, maskFields] at h
      obtain ⟨hhead, hrest⟩ := List.cons.inj h
      obtain ⟨rfl, hvalue⟩ := Prod.mk.inj hhead
      rw [shownFields_cons, shownFields_cons] at hshown
      obtain ⟨hone, hmore⟩ := List.cons.inj hshown
      have hmember := (Prod.mk.inj hone).2
      rw [maskFields, maskFields,
        printedFields_of_shown_eq hview secret room rest later hrest hreaches hmore]
      refine congrArg (fun one => (key, one) :: _) ?_
      cases value with
      | object fields =>
        cases other with
        | object others =>
          rw [mask, mask] at hvalue ⊢
          have hfields := object.inj hvalue
          by_cases hroom : room = some 0
          · subst hroom
            rw [eq_of_mask_closed hfields hreaches]
          · rw [shownMember, shownMember, if_neg fun hboth => hroom hboth.1,
              if_neg fun hboth => hroom hboth.1, shown, shown] at hmember
            rw [printedFields_of_shown_eq hview (secret.below key) (room.map Nat.pred)
              fields others hfields
              (fun path hpath => reaches_pred (hreaches (key :: path) hpath) hroom)
              (Shown.object.inj hmember)]
        | _ => cases isObject_eq_of_mask hvalue
      | _ =>
        refine @printed_leaf _ _ _ _ (room.map Nat.pred) _ _ hview rfl hvalue
          fun htext hother => ?_
        rwa [shownMember_text htext, shownMember_text hother] at hmember

end

-- Members whose secrets are all so far below them.
theorem shownMember_eq_iff (hview : TellsNonTexts leaf) {secret : Paths} {room : Option Nat}
    {first second : List (List UInt16 × Json ν)} {length : Nat}
    (hlength : ∀ path, secret path = true → path.length = length + 1)
    (h : maskFields leaf secret first = maskFields leaf secret second) :
    shownMember options room (.object first) = shownMember options room (.object second) ↔
      (Reaches room (length + 2) →
        maskFields (printed options) secret first =
          maskFields (printed options) secret second) := by
  have hmask : mask leaf secret (.object first) = mask leaf secret (.object second) := by
    rw [mask, mask, h]
  constructor
  · intro hshown hreaches
    have hroom : room ≠ some 0 := by
      rintro rfl
      have hle := hreaches 0 rfl
      omega
    rw [shownMember, shownMember, if_neg fun hboth => hroom hboth.1,
      if_neg fun hboth => hroom hboth.1] at hshown
    have hprinted := printed_of_shown_eq hview secret _ _ _ hmask
      (fun path hpath => by
        rw [hlength path hpath]
        exact reaches_pred hreaches hroom) hshown
    rw [mask, mask] at hprinted
    exact object.inj hprinted
  · intro hprinted
    refine shownMember_object h fun hroom => ?_
    by_cases hreaches : Reaches room (length + 2)
    · have hfine : mask (printed options) secret (.object first) =
          mask (printed options) secret (.object second) := by
        rw [mask, mask, hprinted hreaches]
      exact shown_of_mask secret _ _ _ hfine fun _ _ _ _ _ => sameShown_of_printed
    · refine shown_of_mask secret _ _ _ hmask fun path hpath hpred => ?_
      rw [hlength path hpath] at hpred
      exact absurd (reaches_cons hroom hpred) hreaches

end Masked

end WebSsh2.Library.Json
