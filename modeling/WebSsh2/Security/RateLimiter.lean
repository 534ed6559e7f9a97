import Mathlib.Data.Rat.Floor
import Mathlib.Tactic.Linarith
import WebSsh2.Library.OrderedMap
import WebSsh2.Library.RecentlyUsed
import WebSsh2.Library.Run

namespace WebSsh2.Security.RateLimiter

open Library Library.Run Library.RecentlyUsed

structure RateLimiterOptions where
  capacity : ℚ
  refillPerSec : ℚ
  maxKeys : ℚ

structure Bucket where
  tokens : ℚ
  last : ℚ
deriving DecidableEq

variable {κ : Type*} [DecidableEq κ]

abbrev Buckets (κ : Type*) := OrderedMap κ Bucket

def touch (buckets : Buckets κ) (key : κ) (bucket : Bucket) : Buckets κ :=
  (buckets.delete key).set key bucket

-- The loop of `evictIfNeeded` over the entries in the order of insertion.
def dropOldest (maxKeys : ℚ) : List (κ × Bucket) → List (κ × Bucket)
  | [] => []
  | oldest :: rest =>
    if maxKeys < ((oldest :: rest).length : ℚ) then dropOldest maxKeys rest else oldest :: rest

omit [DecidableEq κ] in
theorem dropOldest_suffix (maxKeys : ℚ) (entries : List (κ × Bucket)) :
    dropOldest maxKeys entries <:+ entries := by
  induction entries with
  | nil => exact List.suffix_rfl
  | cons oldest rest ih =>
    unfold dropOldest
    split
    · exact ih.trans (List.suffix_cons oldest rest)
    · exact List.suffix_rfl

omit [DecidableEq κ] in
def evictIfNeeded (maxKeys : ℚ) (buckets : Buckets κ) : Buckets κ :=
  ⟨dropOldest maxKeys buckets.entries,
    buckets.nodup.sublist ((dropOldest_suffix maxKeys buckets.entries).sublist.map Prod.fst)⟩

theorem keys_replaced (key : κ) (bucket : Bucket) (entries : List (κ × Bucket)) :
    (entries.map fun entry => if entry.1 = key then (entry.1, bucket) else entry).map Prod.fst =
      entries.map Prod.fst := by
  rw [List.map_map]
  refine List.map_congr_left fun entry _ => ?_
  by_cases h : entry.1 = key
  · simp [h]
  · simp [h]

-- The bucket is changed where it lies: an evicted one stays out of the map.
def mutate (buckets : Buckets κ) (key : κ) (bucket : Bucket) : Buckets κ :=
  ⟨buckets.entries.map fun entry => if entry.1 = key then (entry.1, bucket) else entry, by
    rw [keys_replaced]
    exact buckets.nodup⟩

def refilled (options : RateLimiterOptions) (existing : Option Bucket) (now : ℚ) : Bucket :=
  match existing with
  | none => { tokens := options.capacity, last := now }
  | some bucket =>
    let elapsedSec := (now - bucket.last) / 1000
    { tokens := min options.capacity (bucket.tokens + elapsedSec * options.refillPerSec)
      last := now }

-- The answer and the buckets after the call.
def allow (options : RateLimiterOptions) (buckets : Buckets κ) (key : κ) (now : ℚ) :
    Bool × Buckets κ :=
  let bucket := refilled options (buckets.get key) now
  let kept := evictIfNeeded options.maxKeys (touch buckets key bucket)
  if 1 ≤ bucket.tokens then
    (true, mutate kept key { bucket with tokens := bucket.tokens - 1 })
  else
    (false, kept)

omit [DecidableEq κ] in
def size (buckets : Buckets κ) : ℕ :=
  buckets.entries.length

def step (options : RateLimiterOptions) (buckets : Buckets κ) (call : κ × ℚ) : Buckets κ :=
  (allow options buckets call.1 call.2).2

-- The times of the calls for `key` that were let through, in their order.
def allowedAt (options : RateLimiterOptions) (key : κ) : Buckets κ → List (κ × ℚ) → List ℚ
  | _, [] => []
  | buckets, (k, now) :: rest =>
    if k = key ∧ (allow options buckets k now).1 = true then
      now :: allowedAt options key (step options buckets (k, now)) rest
    else
      allowedAt options key (step options buckets (k, now)) rest

section Eviction

omit [DecidableEq κ] in
theorem dropOldest_eq (maxKeys : ℚ) (entries : List (κ × Bucket)) :
    dropOldest maxKeys entries = entries.rtake ⌊maxKeys⌋₊ := by
  induction entries with
  | nil => simp [dropOldest]
  | cons oldest rest ih =>
    have hfloor : maxKeys < ((oldest :: rest).length : ℚ) ↔
        ⌊maxKeys⌋₊ < (oldest :: rest).length :=
      (Nat.floor_lt' (by simp)).symm
    unfold dropOldest
    by_cases h : ⌊maxKeys⌋₊ < (oldest :: rest).length
    · have hroom : ⌊maxKeys⌋₊ ≤ rest.length := by
        rw [List.length_cons] at h
        omega
      rw [if_pos (hfloor.mpr h), ih]
      have happend : ([oldest] ++ rest).rtake ⌊maxKeys⌋₊ = rest.rtake ⌊maxKeys⌋₊ :=
        rtake_append_of_le hroom
      exact happend.symm
    · rw [if_neg (fun hlt => h (hfloor.mp hlt))]
      rw [List.rtake, Nat.sub_eq_zero_of_le (Nat.le_of_not_lt h), List.drop_zero]

omit [DecidableEq κ] in
def keys (buckets : Buckets κ) : List κ :=
  buckets.entries.map Prod.fst

theorem entries_touch (buckets : Buckets κ) (key : κ) (bucket : Bucket) :
    (touch buckets key bucket).entries =
      OrderedMap.deleteEntries key buckets.entries ++ [(key, bucket)] := by
  refine OrderedMap.setEntries_of_absent bucket ?_
  rw [OrderedMap.delete, OrderedMap.keys_deleteEntries]
  simp

theorem keys_mutate (buckets : Buckets κ) (key : κ) (bucket : Bucket) :
    keys (mutate buckets key bucket) = keys buckets :=
  keys_replaced key bucket buckets.entries

theorem keys_evict_touch (maxKeys : ℚ) (buckets : Buckets κ) (key : κ) (bucket : Bucket) :
    keys (evictIfNeeded maxKeys (touch buckets key bucket)) =
      (RecentlyUsed.touch key (keys buckets)).rtake ⌊maxKeys⌋₊ := by
  simp only [keys, evictIfNeeded]
  rw [dropOldest_eq, entries_touch, RecentlyUsed.map_rtake, List.map_append,
    OrderedMap.keys_deleteEntries, RecentlyUsed.touch, List.map_singleton]

-- What a call does to the keys: its own becomes the newest, and the oldest ones go.
theorem keys_step (options : RateLimiterOptions) (buckets : Buckets κ) (call : κ × ℚ) :
    keys (step options buckets call) =
      (RecentlyUsed.touch call.1 (keys buckets)).rtake ⌊options.maxKeys⌋₊ := by
  simp only [step, allow]
  split
  · rw [keys_mutate, keys_evict_touch]
  · rw [keys_evict_touch]

theorem keys_run (options : RateLimiterOptions) (hmax : 1 ≤ options.maxKeys)
    (calls : List (κ × ℚ)) :
    keys (run (step options) OrderedMap.empty calls) =
      (calls.map Prod.fst).dedup.rtake ⌊options.maxKeys⌋₊ := by
  have hroom : 0 < ⌊options.maxKeys⌋₊ := Nat.floor_pos.mpr hmax
  induction calls using List.reverseRecOn with
  | nil => simp [keys, OrderedMap.empty]
  | append_singleton calls call ih =>
    rw [run_append, run_cons, run_nil, keys_step, ih, List.map_append, List.map_singleton,
      dedup_append_singleton, rtake_touch_rtake (List.nodup_dedup _) _ hroom]

end Eviction

section Tokens

variable {buckets : Buckets κ} {bucket : Bucket}

theorem get_of_get_evict {maxKeys : ℚ} {key : κ}
    (h : (evictIfNeeded maxKeys buckets).get key = some bucket) :
    buckets.get key = some bucket := by
  rw [OrderedMap.get_eq_some_iff] at h ⊢
  exact (dropOldest_suffix maxKeys buckets.entries).subset h

theorem get_mutate (buckets : Buckets κ) (key k : κ) (bucket : Bucket) :
    (mutate buckets key bucket).get k =
      if k = key then (buckets.get k).map fun _ => bucket else buckets.get k := by
  simp only [OrderedMap.get, mutate]
  induction buckets.entries with
  | nil => simp [OrderedMap.lookupEntries]
  | cons entry rest ih =>
    rcases entry with ⟨k', old⟩
    rw [List.map_cons]
    by_cases hk : k' = k
    · subst hk
      by_cases hkey : k' = key
      · simp [OrderedMap.lookupEntries, hkey]
      · simp [OrderedMap.lookupEntries, hkey]
    · by_cases hkey : k' = key
      · simp only [hkey, if_true, OrderedMap.lookupEntries, if_neg (hkey ▸ hk)]
        exact ih
      · simp only [if_neg hkey, OrderedMap.lookupEntries, if_neg hk]
        exact ih

-- The bucket of the call's key after the call.
def charged (options : RateLimiterOptions) (existing : Option Bucket) (now : ℚ) : Bucket :=
  let bucket := refilled options existing now
  if 1 ≤ bucket.tokens then { bucket with tokens := bucket.tokens - 1 } else bucket

theorem get_step_of_ne {options : RateLimiterOptions} {k key : κ} {now : ℚ} (hk : k ≠ key)
    (h : (step options buckets (k, now)).get key = some bucket) :
    buckets.get key = some bucket := by
  have hkept : (evictIfNeeded options.maxKeys
      (touch buckets k (refilled options (buckets.get k) now))).get key = some bucket := by
    simp only [step, allow] at h
    split at h
    · rwa [get_mutate, if_neg (Ne.symm hk)] at h
    · exact h
  have htouched := get_of_get_evict hkept
  rwa [touch, OrderedMap.get_set, if_neg hk, OrderedMap.get_delete, if_neg hk] at htouched

theorem get_step_self {options : RateLimiterOptions} {key : κ} {now : ℚ}
    (h : (step options buckets (key, now)).get key = some bucket) :
    bucket = charged options (buckets.get key) now := by
  have htouch : ∀ old, (evictIfNeeded options.maxKeys
      (touch buckets key (refilled options (buckets.get key) now))).get key = some old →
        old = refilled options (buckets.get key) now := by
    intro old hold
    have htouched := get_of_get_evict hold
    rw [touch, OrderedMap.get_set_self] at htouched
    exact (Option.some.inj htouched).symm
  simp only [step, allow] at h
  unfold charged
  dsimp only
  split at h
  · rename_i henough
    rw [if_pos henough]
    rw [get_mutate, if_pos rfl] at h
    obtain ⟨old, -, hbucket⟩ := Option.map_eq_some_iff.mp h
    exact hbucket.symm
  · rename_i hshort
    rw [if_neg hshort]
    exact htouch bucket h

variable (options : RateLimiterOptions)

theorem allow_fst (buckets : Buckets κ) (key : κ) (now : ℚ) :
    (allow options buckets key now).1 =
      decide (1 ≤ (refilled options (buckets.get key) now).tokens) := by
  simp only [allow]
  split
  · rename_i h
    simp [h]
  · rename_i h
    simp [h]

variable (existing : Option Bucket)

theorem charged_last (now : ℚ) : (charged options existing now).last = now := by
  have hrefilled : (refilled options existing now).last = now := by
    cases existing with
    | none => rfl
    | some bucket => rfl
  unfold charged
  dsimp only
  split
  · exact hrefilled
  · exact hrefilled

theorem refilled_tokens_le (bucket : Bucket) (now : ℚ) :
    (refilled options (some bucket) now).tokens ≤
      bucket.tokens + (now - bucket.last) / 1000 * options.refillPerSec :=
  min_le_right _ _

theorem refilled_tokens_le_capacity (now : ℚ) :
    (refilled options existing now).tokens ≤ options.capacity := by
  cases existing with
  | none => exact le_rfl
  | some bucket => exact min_le_left _ _

theorem charged_tokens_le_capacity (now : ℚ) :
    (charged options existing now).tokens ≤ options.capacity := by
  have hrefilled := refilled_tokens_le_capacity options existing now
  unfold charged
  dsimp only
  split
  · simp only
    linarith
  · exact hrefilled

-- A call that takes the first of the tokens there are, and what the rest leave to pay.
theorem length_cons_le {now last tokens rate : ℚ} {later : List ℚ} (htokens : 1 ≤ tokens)
    (hlater : later.getLast? = some last →
      (later.length : ℚ) ≤ tokens - 1 + (last - now) / 1000 * rate)
    (hlast : (now :: later).getLast? = some last) :
    ((now :: later).length : ℚ) ≤ tokens + (last - now) / 1000 * rate := by
  cases later with
  | nil =>
    have : last = now := by simpa using hlast.symm
    subst this
    simpa using htokens
  | cons second others =>
    rw [List.getLast?_cons_cons] at hlast
    have hmore := hlater hlast
    rw [List.length_cons]
    push_cast
    linarith

-- Every call that is let through takes a token, so what the bucket holds now and
-- what flows in up to the last of them pays for them all.
theorem length_allowedAt_le {options : RateLimiterOptions} {key : κ} (calls : List (κ × ℚ))
    {last : ℚ} (hget : buckets.get key = some bucket)
    (hkept : Throughout (step options) (fun buckets => buckets.get key ≠ none) buckets calls)
    (hlast : (allowedAt options key buckets calls).getLast? = some last) :
    ((allowedAt options key buckets calls).length : ℚ) ≤
      bucket.tokens + (last - bucket.last) / 1000 * options.refillPerSec := by
  induction calls generalizing buckets bucket with
  | nil => simp [allowedAt] at hlast
  | cons call rest ih =>
    rcases call with ⟨k, now⟩
    obtain ⟨-, hrest⟩ := hkept
    have hpresent : (step options buckets (k, now)).get key ≠ none :=
      (throughout_iff _ _ _ _).mp hrest [] List.nil_prefix
    obtain ⟨next, hnext⟩ := Option.ne_none_iff_exists'.mp hpresent
    by_cases hk : k = key
    · subst hk
      have hcharged := get_step_self hnext
      have hfill := refilled_tokens_le options bucket now
      rw [hget] at hcharged
      have hat : next.last = now := hcharged ▸ charged_last options (some bucket) now
      by_cases hallowed : 1 ≤ (refilled options (some bucket) now).tokens
      · have hlist : allowedAt options k buckets ((k, now) :: rest) =
            now :: allowedAt options k (step options buckets (k, now)) rest := by
          simp [allowedAt, allow_fst, hget, hallowed]
        have htokens : next.tokens = (refilled options (some bucket) now).tokens - 1 := by
          simp [hcharged, charged, hallowed]
        rw [hlist] at hlast ⊢
        have hpaid := length_cons_le hallowed (fun hlater => by
          have hmore := ih hnext hrest hlater
          rwa [hat, htokens] at hmore) hlast
        linarith
      · have hlist : allowedAt options k buckets ((k, now) :: rest) =
            allowedAt options k (step options buckets (k, now)) rest := by
          simp [allowedAt, allow_fst, hget, hallowed]
        have htokens : next.tokens = (refilled options (some bucket) now).tokens := by
          simp [hcharged, charged, hallowed]
        rw [hlist] at hlast ⊢
        have hmore := ih hnext hrest hlast
        rw [hat, htokens] at hmore
        linarith
    · have hlist : allowedAt options key buckets ((k, now) :: rest) =
          allowedAt options key (step options buckets (k, now)) rest := by
        simp [allowedAt, hk]
      have hsame : next = bucket :=
        Option.some.inj ((get_step_of_ne hk hnext).symm.trans hget)
      rw [hlist] at hlast ⊢
      exact ih (hsame ▸ hnext) hrest hlast

-- A call leaves every bucket it does not drop as it was, its own apart.
theorem tokens_step_le {options : RateLimiterOptions}
    (h : ∀ entry ∈ buckets.entries, entry.2.tokens ≤ options.capacity) (call : κ × ℚ) :
    ∀ entry ∈ (step options buckets call).entries, entry.2.tokens ≤ options.capacity := by
  rintro ⟨key, bucket⟩ hmem
  have hget := ((step options buckets call).get_eq_some_iff key bucket).mpr hmem
  by_cases hk : call.1 = key
  · subst hk
    rw [get_step_self hget]
    exact charged_tokens_le_capacity options _ _
  · exact h (key, bucket) ((buckets.get_eq_some_iff key bucket).mp (get_step_of_ne hk hget))

omit [DecidableEq κ] in
theorem size_eq (buckets : Buckets κ) : size buckets = (keys buckets).length := by
  simp [size, keys]

theorem size_step_le (hmax : 1 ≤ options.maxKeys) (buckets : Buckets κ) (call : κ × ℚ) :
    (size (step options buckets call) : ℚ) ≤ options.maxKeys := by
  have hfloor : (⌊options.maxKeys⌋₊ : ℚ) ≤ options.maxKeys := Nat.floor_le (by linarith)
  have hsize : size (step options buckets call) ≤ ⌊options.maxKeys⌋₊ := by
    rw [size_eq, keys_step]
    simp only [List.rtake, List.length_drop]
    omega
  have : (size (step options buckets call) : ℚ) ≤ (⌊options.maxKeys⌋₊ : ℚ) := by
    exact_mod_cast hsize
  linarith

end Tokens

-- The limiter's promises, for any times: what a key gets between the call that
-- makes its bucket and the last one let through, the room, and who has to go.
theorem createRateLimiter_bound (options : RateLimiterOptions) (hcapacity : 1 ≤ options.capacity)
    (hrefill : 0 ≤ options.refillPerSec) (hmax : 1 ≤ options.maxKeys) :
    (∀ (before : List (κ × ℚ)) (key : κ) (first : ℚ) (during : List (κ × ℚ)) (last : ℚ),
      let absent := run (step options) OrderedMap.empty before
      let allowed := allowedAt options key absent ((key, first) :: during)
      absent.get key = none →
      Throughout (step options) (fun buckets => buckets.get key ≠ none)
        (step options absent (key, first)) during →
      allowed.getLast? = some last →
      (allowed.length : ℚ) ≤
        options.capacity + options.refillPerSec * max 0 (last - first) / 1000) ∧
    (∀ calls : List (κ × ℚ), Throughout (step options) (fun buckets =>
      (∀ entry ∈ buckets.entries, entry.2.tokens ≤ options.capacity) ∧
        (size buckets : ℚ) ≤ options.maxKeys) OrderedMap.empty calls) ∧
    ∀ calls : List (κ × ℚ),
      keys (run (step options) OrderedMap.empty calls) =
        (calls.map Prod.fst).dedup.rtake ⌊options.maxKeys⌋₊ := by
  refine ⟨?_, ?_, fun calls => keys_run options hmax calls⟩
  · intro before key first during last absent allowed hget hkept hlast
    have hpaid : (allowed.length : ℚ) ≤
        options.capacity + (last - first) / 1000 * options.refillPerSec := by
      have hpresent := (throughout_iff _ _ _ _).mp hkept [] List.nil_prefix
      obtain ⟨next, hnext⟩ := Option.ne_none_iff_exists'.mp hpresent
      have hcharged := get_step_self hnext
      rw [hget] at hcharged
      have hat : next.last = first := hcharged ▸ charged_last options none first
      have htokens : next.tokens = options.capacity - 1 := by
        simp [hcharged, charged, refilled, hcapacity]
      have hlist : allowed =
          first :: allowedAt options key (step options absent (key, first)) during := by
        simp [allowed, allowedAt, allow_fst, hget, refilled, hcapacity]
      rw [hlist] at hlast ⊢
      refine length_cons_le hcapacity (fun hlater => ?_) hlast
      have hmore := length_allowedAt_le during hnext hkept hlater
      rwa [hat, htokens] at hmore
    have hspan : (last - first) / 1000 * options.refillPerSec ≤
        options.refillPerSec * max 0 (last - first) / 1000 := by
      have := mul_le_mul_of_nonneg_left (le_max_right 0 (last - first)) hrefill
      linarith
    linarith
  · intro calls
    refine throughout_of_step (P := fun _ _ => True) ⟨?_, ?_⟩ ?_
      (along_of_forall_mem _ _ _ fun _ _ _ => trivial)
    · intro entry hmem
      cases hmem
    · simp only [size, OrderedMap.empty, List.length_nil, Nat.cast_zero]
      linarith
    · intro buckets call h _
      exact ⟨tokens_step_le h.1 call, size_step_le options hmax buckets call⟩

-- Two tokens and one more each second: of four calls the third one is refused.
theorem createRateLimiter_bound_four :
    ((allowedAt { capacity := 2, refillPerSec := 1, maxKeys := 8 } "a" OrderedMap.empty
      [("a", 0), ("a", 500), ("a", 900), ("a", 1000)]).length : ℚ) ≤
        2 + 1 * max 0 (1000 - 0) / 1000 :=
  (createRateLimiter_bound { capacity := 2, refillPerSec := 1, maxKeys := 8 }
    (by norm_num) (by norm_num) (by norm_num)).1 [] "a" 0 [("a", 500), ("a", 900), ("a", 1000)]
    1000 rfl (by decide +kernel) (by decide +kernel)

end WebSsh2.Security.RateLimiter
