import WebSsh2.HostKey.Mode
import WebSsh2.Library.JsonLayers

namespace WebSsh2.Config.InMemory

open WebSsh2.Library WebSsh2.HostKey

variable {ν : Type}

section Merge

-- One round of the loop over the fields of the source.
def mergeField (merge : Heap ν → Nat → Slot ν → Option (Heap ν × Nat))
    (state : Heap ν × Record ν) (field : List UInt16 × Slot ν) : Option (Heap ν × Record ν) :=
  match field.2, OrderedMap.lookupEntries field.1 state.2 with
  | .object source, some (.object target) =>
    (merge state.1 target (.object source)).map fun merged =>
      (merged.1, OrderedMap.setEntries field.1 (.object merged.2) state.2)
  | sourceValue, _ => some (state.1, OrderedMap.setEntries field.1 sourceValue state.2)

-- The fuel bounds how deep the objects lie. The copy that the fields are put into is not in
-- memory before it is returned.
def deepMergePure : Nat → Heap ν → Nat → Slot ν → Option (Heap ν × Nat)
  | 0, _, _, _ => none
  | fuel + 1, heap, target, source =>
    (heap[target]?).bind fun output =>
      match source with
      | .plain _ => some (heap.alloc output)
      | .object place =>
        (heap[place]?).bind fun fields =>
          (fields.foldlM (mergeField (deepMergePure fuel)) (heap, output)).map fun merged =>
            merged.1.alloc merged.2

def mergeOptional (fuel : Nat) (merged : Heap ν × Nat) : Option (Slot ν) → Option (Heap ν × Nat)
  | some config => deepMergePure fuel merged.1 merged.2 config
  | none => some merged

def mergeConfigs (fuel : Nat) (heap : Heap ν) (defaultConfig : Nat)
    (fileConfig envConfig : Option (Slot ν)) : Option (Heap ν × Nat) :=
  (mergeOptional fuel (heap, defaultConfig) fileConfig).bind fun merged =>
    mergeOptional fuel merged envConfig

end Merge

section Allocation

variable {α β : Type} {heap : Heap ν}

-- With enough fuel there is a result, and memory holds what it held and new objects.
def Allocates (heap : Heap ν) (run : Nat → Option (Heap ν × α)) (good : Heap ν → α → Prop) :
    Prop :=
  ∃ least new result, good (heap ++ new) result ∧
    ∀ fuel, least ≤ fuel → run fuel = some (heap ++ new, result)

variable {good : Heap ν → α → Prop}

theorem Allocates.done {result : α} (h : good heap result) :
    Allocates heap (fun _ => some (heap, result)) good := by
  refine ⟨0, [], result, ?_, ?_⟩
  · rw [List.append_nil]
    exact h
  · intro fuel _
    rw [List.append_nil]

theorem Allocates.bind {run : Nat → Option (Heap ν × α)}
    {next : Nat → Heap ν × α → Option (Heap ν × β)} {finished : Heap ν → β → Prop}
    (h : Allocates heap run good)
    (hnext : ∀ new result, good (heap ++ new) result → Allocates (heap ++ new) (fun fuel => next fuel (heap ++ new, result)) finished) :
    Allocates heap (fun fuel => (run fuel).bind (next fuel)) finished := by
  obtain ⟨least, new, result, hgood, hrun⟩ := h
  obtain ⟨bound, more, last, hfinished, hlast⟩ := hnext new result hgood
  refine ⟨max least bound, new ++ more, last, ?_, ?_⟩
  · rw [← List.append_assoc]
    exact hfinished
  · intro fuel hfuel
    have hfirst := hrun fuel (by omega)
    have hsecond := hlast fuel (by omega)
    simp only [hfirst, Option.bind_some, hsecond, List.append_assoc]

theorem Allocates.map {run : Nat → Option (Heap ν × α)} {next : Heap ν × α → Heap ν × β}
    {finished : Heap ν → β → Prop} (h : Allocates heap run good)
    (hnext : ∀ new result, good (heap ++ new) result → ∃ more last, next (heap ++ new, result) = (heap ++ new ++ more, last) ∧ finished (heap ++ new ++ more) last) :
    Allocates heap (fun fuel => (run fuel).map next) finished := by
  have hbind : Allocates heap (fun fuel => (run fuel).bind fun state => some (next state))
      finished := by
    apply h.bind
    intro new result hgood
    obtain ⟨more, last, heq, hfinished⟩ := hnext new result hgood
    exact ⟨0, more, last, hfinished, fun _ _ => by rw [heq]⟩
  simpa only [Option.map_eq_bind, Function.comp_def] using hbind

theorem Allocates.deeper {run deep : Nat → Option (Heap ν × α)} (h : Allocates heap run good)
    (hdeep : ∀ fuel, deep (fuel + 1) = run fuel) : Allocates heap deep good := by
  obtain ⟨least, new, result, hgood, hrun⟩ := h
  refine ⟨least + 1, new, result, hgood, ?_⟩
  intro fuel hfuel
  obtain ⟨before, rfl⟩ := Nat.exists_eq_add_of_le' (show 1 ≤ fuel by omega)
  rw [hdeep]
  exact hrun before (by omega)

end Allocation

section Refinement

open WebSsh2.Library.Heap

variable {heap : Heap ν}

-- What is left of a merge of objects once the loop is known.
theorem deepMergePure_allocates {target place : Nat} {output record : Record ν}
    {merged : List (List UInt16 × Json ν)} (htarget : heap[target]? = some output)
    (hplace : heap[place]? = some record)
    (h : Allocates heap
      (fun fuel => record.foldlM (mergeField (deepMergePure fuel)) (heap, output))
      fun after result => HoldsFields after result merged) :
    Allocates heap (fun fuel => deepMergePure fuel heap target (.object place))
      fun after result => Holds after (.object result) (.object merged) := by
  have hmap : Allocates heap
      (fun fuel => (record.foldlM (mergeField (deepMergePure fuel)) (heap, output)).map
        fun merged => merged.1.alloc merged.2)
      fun after result => Holds after (.object result) (.object merged) := by
    apply h.map
    intro new result hresult
    exact ⟨[result], _, rfl, holds_alloc hresult⟩
  apply hmap.deeper
  intro fuel
  simp only [deepMergePure, htarget, hplace, Option.bind_some]

theorem mergeField_plain {value : Json ν} (hplain : value.isObject = false) {slot : Slot ν}
    {output : Record ν} {base : List (List UInt16 × Json ν)} (key : List UInt16)
    (houtput : HoldsFields heap output base) (hvalue : Holds heap slot value) :
    Allocates heap (fun fuel => mergeField (deepMergePure fuel) (heap, output) (key, slot))
      fun after result => HoldsFields after result
        (OrderedMap.setEntries key (Json.overlay (Json.lookup key base) value) base) := by
  cases hvalue with
  | plain _ =>
    rw [Json.overlay_of_not_object hplain]
    exact Allocates.done (houtput.set (.plain hplain) key)
  | object _ _ => cases hplain

theorem mergeField_object {fields : List (List UInt16 × Json ν)} {slot : Slot ν}
    {output : Record ν} {base : List (List UInt16 × Json ν)} (key : List UInt16)
    (houtput : HoldsFields heap output base) (hvalue : Holds heap slot (.object fields))
    (hmerge : ∀ {record inner lower}, HoldsFields heap inner lower →
      HoldsFields heap record fields →
      Allocates heap
        (fun fuel => record.foldlM (mergeField (deepMergePure fuel)) (heap, inner))
        fun after result => HoldsFields after result (Json.overlayFields lower fields)) :
    Allocates heap (fun fuel => mergeField (deepMergePure fuel) (heap, output) (key, slot))
      fun after result => HoldsFields after result
        (OrderedMap.setEntries key (Json.overlay (Json.lookup key base) (.object fields))
          base) := by
  have hset := houtput.set hvalue key
  cases hvalue with
  | plain hplain => cases hplain
  | @object place record _ hread hfields =>
    rcases houtput.lookup key with ⟨hslot, hbase⟩ | ⟨below, lower, hslot, hbase, hbelow⟩
    · simp only [mergeField, hslot, hbase, Json.overlay]
      exact Allocates.done hset
    · rw [hbase]
      cases hbelow with
      | plain hplain =>
        rcases Json.overlay_object (some lower) fields with ⟨_, heq, -⟩ | ⟨-, heq⟩
        · cases heq
          cases hplain
        · rw [heq]
          simp only [mergeField, hslot]
          exact Allocates.done hset
      | @object target inner lower htarget hinner =>
        simp only [mergeField, hslot, Json.overlay]
        apply (deepMergePure_allocates htarget hread (hmerge hinner hfields)).map
        intro new result hresult
        exact ⟨[], _, by rw [List.append_nil], by
          rw [List.append_nil]
          exact (houtput.extend new).set hresult key⟩

mutual

theorem mergeField_allocates : ∀ (value : Json ν) {heap : Heap ν} {slot : Slot ν}
    {output : Record ν} {base : List (List UInt16 × Json ν)} (key : List UInt16),
    HoldsFields heap output base → Holds heap slot value →
    Allocates heap (fun fuel => mergeField (deepMergePure fuel) (heap, output) (key, slot))
      fun after result => HoldsFields after result
        (OrderedMap.setEntries key (Json.overlay (Json.lookup key base) value) base)
  | .object fields, _, _, _, _, key, houtput, hvalue =>
    mergeField_object key houtput hvalue fun hinner hfields =>
      mergeFields_allocates fields hinner hfields
  | .null, _, _, _, _, key, houtput, hvalue => mergeField_plain rfl key houtput hvalue
  | .bool _, _, _, _, _, key, houtput, hvalue => mergeField_plain rfl key houtput hvalue
  | .number _, _, _, _, _, key, houtput, hvalue => mergeField_plain rfl key houtput hvalue
  | .string _, _, _, _, _, key, houtput, hvalue => mergeField_plain rfl key houtput hvalue
  | .array _, _, _, _, _, key, houtput, hvalue => mergeField_plain rfl key houtput hvalue

theorem mergeFields_allocates : ∀ (fields : List (List UInt16 × Json ν)) {heap : Heap ν}
    {record output : Record ν} {base : List (List UInt16 × Json ν)},
    HoldsFields heap output base → HoldsFields heap record fields →
    Allocates heap
      (fun fuel => record.foldlM (mergeField (deepMergePure fuel)) (heap, output))
      fun after result => HoldsFields after result (Json.overlayFields base fields)
  | [], _, _, _, _, houtput, hrecord => by
    cases hrecord
    exact Allocates.done houtput
  | (key, value) :: rest, _, _, _, _, houtput, hrecord => by
    cases hrecord with
    | cons hvalue hrest =>
      simp only [List.foldlM_cons, Json.overlayFields]
      apply (mergeField_allocates value key houtput hvalue).bind
      intro new result hresult
      exact mergeFields_allocates rest hresult (hrest.extend new)

end

theorem deepMergePure_holds {heap : Heap Number} {target : Nat} {base : Fields}
    {source : Slot Number} {value : JsonValue}
    (htarget : Holds heap (.object target) (.object base)) (hsource : Holds heap source value) :
    Allocates heap (fun fuel => deepMergePure fuel heap target source)
      fun after result => Holds after (.object result) (.object (deepMerge base value)) := by
  cases htarget with
  | @object _ output _ htarget houtput =>
    cases hsource with
    | plain hplain =>
      have hbase : deepMerge base value = base := by
        cases value with
        | object fields => cases hplain
        | null | bool _ | number _ | string _ | array _ => rfl
      rw [hbase]
      refine ⟨1, [output], heap.length, holds_alloc houtput, ?_⟩
      intro fuel hfuel
      obtain ⟨before, rfl⟩ := Nat.exists_eq_add_of_le' hfuel
      simp only [deepMergePure, htarget, Option.bind_some, alloc]
    | @object _ _ fields hread hfields =>
      exact deepMergePure_allocates htarget hread (mergeFields_allocates fields houtput hfields)

def mergeLayer (base : Fields) : Option PartialConfig → Fields
  | some config => deepMerge base config.value
  | none => base

theorem mergeOptional_holds {heap : Heap Number} {place : Nat} {base : Fields}
    {slot : Option (Slot Number)} {config : Option PartialConfig}
    (hbase : Holds heap (.object place) (.object base))
    (hconfig : Option.Rel (Holds heap) slot (config.map PartialConfig.value)) :
    Allocates heap (fun fuel => mergeOptional fuel (heap, place) slot)
      fun after result => Holds after (.object result) (.object (mergeLayer base config)) := by
  cases config with
  | none =>
    cases hconfig
    exact Allocates.done hbase
  | some config =>
    cases hconfig with
    | some hsource => exact deepMergePure_holds hbase hsource

theorem holds_optional_extend {heap : Heap Number} {slot : Option (Slot Number)}
    {value : Option JsonValue} (h : Option.Rel (Holds heap) slot value) (new : Heap Number) :
    Option.Rel (Holds (heap ++ new)) slot value := by
  cases h with
  | none => exact .none
  | some hvalue => exact .some (hvalue.extend new)

-- The merge in memory makes what the merge of values says, and changes none of the objects
-- that it is given.
theorem mergeConfigs_holds {heap : Heap Number} {place : Nat} {defaultConfig : Fields}
    {fileSlot envSlot : Option (Slot Number)} {fileConfig envConfig : Option PartialConfig}
    (hdefault : Holds heap (.object place) (.object defaultConfig))
    (hfile : Option.Rel (Holds heap) fileSlot (fileConfig.map PartialConfig.value))
    (henv : Option.Rel (Holds heap) envSlot (envConfig.map PartialConfig.value)) :
    Allocates heap (fun fuel => mergeConfigs fuel heap place fileSlot envSlot)
      fun after result => Holds after (.object result)
        (.object (HostKey.mergeConfigs defaultConfig fileConfig envConfig)) := by
  apply (mergeOptional_holds hdefault hfile).bind
  intro new result hresult
  exact mergeOptional_holds hresult (holds_optional_extend henv new)

end Refinement

end WebSsh2.Config.InMemory
