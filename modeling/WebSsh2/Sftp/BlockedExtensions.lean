import WebSsh2.Sftp.PathValidator
import Mathlib.Data.List.DropRight

namespace WebSsh2.Sftp

open WebSsh2.Library

namespace PathPosix

theorem slash_notMem_basename (path : JsString) : alphabet.slash ∉ basename path := by
  unfold basename
  cases hlast : ((PosixPath.components alphabet path).filter (· ≠ [])).getLast? with
  | none => exact List.not_mem_nil
  | some name =>
    have hmem := (List.mem_filter.mp (List.mem_of_getLast? hlast)).1
    exact (Text.mem_splitOn _ path name hmem).1

theorem basename_of_notMem {name : JsString} (h : alphabet.slash ∉ name) :
    basename name = name := by
  have hsingle : PosixPath.components alphabet name = [name] := by
    unfold PosixPath.components
    exact List.splitOn_eq_singleton h
  unfold basename
  rw [hsingle]
  by_cases hname : name = []
  · simp [hname]
  · simp [hname]

variable (name : JsString)

-- The text behind the last dot, as the source of `extname` finds it.
def afterDot : JsString :=
  name.rtakeWhile (· ≠ alphabet.dot)

theorem dot_notMem_afterDot : alphabet.dot ∉ afterDot name := by
  intro hmem
  have hne := List.mem_rtakeWhile_imp hmem
  simp at hne

theorem exists_last_dot {name : JsString} (h : alphabet.dot ∈ name) :
    ∃ stem, name = stem ++ alphabet.dot :: afterDot name := by
  have hfront : name.rdropWhile (· ≠ alphabet.dot) ≠ [] := by
    intro hnil
    have hall := List.rdropWhile_eq_nil_iff.mp hnil _ h
    simp at hall
  have hlast : (name.rdropWhile (· ≠ alphabet.dot)).getLast hfront = alphabet.dot := by
    simpa using List.rdropWhile_last_not (· ≠ alphabet.dot) name hfront
  have hsplit := List.dropLast_append_getLast hfront
  rw [hlast] at hsplit
  refine ⟨(name.rdropWhile (· ≠ alphabet.dot)).dropLast, ?_⟩
  have hwhole : name.rdropWhile (· ≠ alphabet.dot) ++ afterDot name = name :=
    List.rdropWhile_append_rtakeWhile
  rw [← hsplit, List.append_assoc] at hwhole
  exact hwhole.symm

theorem afterDot_append {stem suffix : JsString} (h : alphabet.dot ∉ suffix) :
    afterDot (stem ++ alphabet.dot :: suffix) = suffix := by
  have hsuffix : ∀ unit ∈ suffix.reverse, decide (unit ≠ alphabet.dot) = true := by
    intro unit hmem
    rw [decide_eq_true_eq]
    rintro rfl
    exact h (List.mem_reverse.mp hmem)
  unfold afterDot List.rtakeWhile
  rw [List.reverse_append, List.reverse_cons, List.append_assoc,
    List.takeWhile_append_of_pos hsuffix]
  simp

-- An extension is what stands behind the last dot, with something before it.
theorem extname_eq_iff {name suffix : JsString} (h : alphabet.slash ∉ name) :
    extname name = alphabet.dot :: suffix ↔
      ∃ stem, stem ≠ [] ∧ name = stem ++ alphabet.dot :: suffix ∧ alphabet.dot ∉ suffix ∧
        name ≠ alphabet.up := by
  have hext : extname name =
      if alphabet.dot ∉ name ∨ name.take (name.length - (afterDot name).length - 1) = [] ∨
        name = alphabet.up then [] else alphabet.dot :: afterDot name := by
    unfold extname
    rw [basename_of_notMem h]
    rfl
  rw [hext]
  constructor
  · intro heq
    split at heq
    · cases heq
    · rename_i hcond
      obtain ⟨hdot, hstem, hup⟩ := not_or.mp hcond |>.imp_right not_or.mp
      obtain ⟨stem, hname⟩ := exists_last_dot (not_not.mp hdot)
      have hsuffix : afterDot name = suffix := (List.cons.inj heq).2
      rw [hsuffix] at hname hstem
      refine ⟨stem, ?_, hname, ?_, hup⟩
      · rintro rfl
        rw [hname] at hstem
        simp at hstem
      · rw [← hsuffix]
        exact dot_notMem_afterDot name
  · rintro ⟨stem, hstem, hname, hdot, hup⟩
    have hsuffix : afterDot name = suffix := by
      rw [hname]
      exact afterDot_append hdot
    rw [hsuffix, if_neg]
    simp only [not_or, not_not]
    have hlength : (stem ++ alphabet.dot :: suffix).length - suffix.length - 1 = stem.length := by
      rw [List.length_append, List.length_cons]
      omega
    refine ⟨by simp [hname], ?_, hup⟩
    rwa [hname, hlength, List.take_left]

theorem extname_cases : extname name = [] ∨ ∃ suffix, extname name = alphabet.dot :: suffix := by
  unfold extname
  dsimp only
  split
  · exact .inl rfl
  · exact .inr ⟨_, rfl⟩

end PathPosix

-- What `toLowerCase` does with the dot: it is no letter, begins no case
-- mapping and comes out of none.
structure LowerCase where
  toLowerCase : JsString → JsString
  empty : toLowerCase [] = []
  dot : ∀ rest, toLowerCase (46 :: rest) = 46 :: toLowerCase rest
  head : ∀ text, (toLowerCase text).head? = some 46 → text.head? = some 46
  mem : ∀ text, 46 ∈ toLowerCase text ↔ 46 ∈ text

theorem asciiLower_eq_dot (unit : UInt16) :
    (if 65 ≤ unit && unit ≤ 90 then unit + 32 else unit) = 46 ↔ unit = 46 := by
  by_cases hletter : (65 ≤ unit && unit ≤ 90) = true
  · rw [if_pos hletter]
    rw [Bool.and_eq_true, decide_eq_true_eq, decide_eq_true_eq] at hletter
    rw [UInt16.le_iff_toNat_le, UInt16.le_iff_toNat_le] at hletter
    rw [← UInt16.toNat_inj, ← UInt16.toNat_inj, UInt16.toNat_add]
    have h65 : (65 : UInt16).toNat = 65 := rfl
    have h90 : (90 : UInt16).toNat = 90 := rfl
    have h32 : (32 : UInt16).toNat = 32 := rfl
    have h46 : (46 : UInt16).toNat = 46 := rfl
    omega
  · rw [if_neg hletter]

def asciiLowerCase : LowerCase where
  toLowerCase := asciiRuntime.toLowerCase
  empty := rfl
  dot _ := rfl
  head text h := by
    cases text with
    | nil => cases h
    | cons unit rest =>
      have hunit := (asciiLower_eq_dot unit).mp (Option.some.inj h)
      rw [List.head?_cons, hunit]
  mem text := by
    simp only [asciiRuntime, List.mem_map, asciiLower_eq_dot]
    exact ⟨fun ⟨_, hmem, heq⟩ => heq ▸ hmem, fun hmem => ⟨46, hmem, rfl⟩⟩

-- A configured extension without the dot it may begin with.
def bareExtension (extension : JsString) : JsString :=
  if (js ".").isPrefixOf extension then extension.drop 1 else extension

section Blocking

variable (lower : LowerCase)

-- The name ends with a dot and the extension, whatever the case of its letters.
def EndsWithExtension (name extension : JsString) : Prop :=
  ∃ stem tail, name = stem ++ 46 :: tail ∧
    lower.toLowerCase tail = lower.toLowerCase (bareExtension extension)

-- The same for an extension without a dot inside, with a name in front of it.
def Blocks (name extension : JsString) : Prop :=
  46 ∉ bareExtension extension ∧ name ≠ js ".." ∧
    ∃ stem tail, stem ≠ [] ∧ name = stem ++ 46 :: tail ∧
      lower.toLowerCase tail = lower.toLowerCase (bareExtension extension)

variable {lower}

theorem startsWithDot_iff {text : JsString} :
    (js ".").isPrefixOf text = true ↔ ∃ rest, text = 46 :: rest := by
  rw [List.isPrefixOf_iff_prefix]
  exact ⟨fun ⟨rest, h⟩ => ⟨rest, h.symm⟩, fun ⟨rest, h⟩ => ⟨rest, h.symm⟩⟩

-- An entry is compared as a dot and the bare extension.
theorem normalizedBlocked_eq (extension : JsString) :
    (let lowered := lower.toLowerCase extension
      if (js ".").isPrefixOf lowered then lowered else js "." ++ lowered) =
      46 :: lower.toLowerCase (bareExtension extension) := by
  dsimp only
  unfold bareExtension
  by_cases hdot : (js ".").isPrefixOf extension = true
  · obtain ⟨rest, rfl⟩ := startsWithDot_iff.mp hdot
    rw [lower.dot, if_pos (startsWithDot_iff.mpr ⟨_, rfl⟩), if_pos hdot]
    rfl
  · have hlowered : ¬ (js ".").isPrefixOf (lower.toLowerCase extension) = true := by
      intro h
      obtain ⟨rest, hrest⟩ := startsWithDot_iff.mp h
      have hhead := lower.head extension (by rw [hrest]; rfl)
      obtain ⟨tail, htail⟩ := List.head?_eq_some_iff.mp hhead
      exact hdot (startsWithDot_iff.mpr ⟨tail, htail⟩)
    rw [if_neg hlowered, if_neg hdot]
    rfl

theorem blocks_iff_extname {name extension : JsString} (hname : 47 ∉ name) :
    Blocks lower name extension ↔
      ∃ suffix, PathPosix.extname name = 46 :: suffix ∧
        lower.toLowerCase suffix = lower.toLowerCase (bareExtension extension) := by
  constructor
  · rintro ⟨hdot, hup, stem, tail, hstem, hcut, hlower⟩
    refine ⟨tail, (PathPosix.extname_eq_iff hname).mpr ⟨stem, hstem, hcut, ?_, hup⟩, hlower⟩
    intro hmem
    have hlowered := (lower.mem tail).mpr hmem
    rw [hlower, lower.mem] at hlowered
    exact hdot hlowered
  · rintro ⟨suffix, hext, hlower⟩
    obtain ⟨stem, hstem, hcut, hdot, hup⟩ := (PathPosix.extname_eq_iff hname).mp hext
    refine ⟨?_, hup, stem, suffix, hstem, hcut, hlower⟩
    rw [← lower.mem, ← hlower, lower.mem]
    exact hdot

theorem checkBlockedExtension_isOk_iff (normalizedPath : JsString) (blocked : List JsString) :
    (checkBlockedExtension lower.toLowerCase normalizedPath blocked).isOk = true ↔
      ∀ extension ∈ blocked, ¬ Blocks lower (PathPosix.basename normalizedPath) extension := by
  have hname := PathPosix.slash_notMem_basename normalizedPath
  unfold checkBlockedExtension
  by_cases hempty : blocked = []
  · simp [hempty, Except.isOk, Except.toBool]
  · rw [if_neg hempty]
    rcases PathPosix.extname_cases (PathPosix.basename normalizedPath) with hext | ⟨suffix, hext⟩
    · rw [hext, lower.empty]
      refine iff_of_true rfl fun extension _ hblocks => ?_
      obtain ⟨suffix, hsuffix, _⟩ := (blocks_iff_extname hname).mp hblocks
      rw [hext] at hsuffix
      cases hsuffix
    · have hblocked : (46 :: lower.toLowerCase suffix ∈ blocked.map fun e =>
          let lowered := lower.toLowerCase e
          if (js ".").isPrefixOf lowered then lowered else js "." ++ lowered) ↔
          ∃ extension ∈ blocked, Blocks lower (PathPosix.basename normalizedPath) extension := by
        simp only [normalizedBlocked_eq, List.mem_map, blocks_iff_extname hname, hext,
          List.cons.injEq, true_and]
        refine exists_congr fun extension => and_congr_right fun _ => ?_
        constructor
        · exact fun h => ⟨suffix, ⟨rfl, rfl⟩, h.symm⟩
        · rintro ⟨_, ⟨_, hsame⟩, h⟩
          exact hsame ▸ h.symm
      have hlowered : lower.toLowerCase (PathPosix.alphabet.dot :: suffix) =
          46 :: lower.toLowerCase suffix := lower.dot suffix
      rw [hext, hlowered]
      dsimp only
      rw [if_neg (List.cons_ne_nil _ _)]
      by_cases hmem : ∃ extension ∈ blocked,
          Blocks lower (PathPosix.basename normalizedPath) extension
      · rw [if_pos (hblocked.mpr hmem)]
        refine iff_of_false Bool.false_ne_true fun hnone => ?_
        obtain ⟨extension, hentry, hblocks⟩ := hmem
        exact hnone extension hentry hblocks
      · rw [if_neg fun h => hmem (hblocked.mp h)]
        refine iff_of_true rfl fun extension hentry hblocks => ?_
        exact hmem ⟨extension, hentry, hblocks⟩

end Blocking

-- The extension check adds to the other checks that no entry blocks the last
-- component.
theorem accepts_checked_iff (lower : LowerCase) (path : JsString)
    (options : PathValidationOptions) :
    accepts lower.toLowerCase path { options with checkExtension := some true } = true ↔
      accepts lower.toLowerCase path { options with checkExtension := some false } = true ∧
        ∀ extension ∈ options.blockedExtensions,
          ¬ Blocks lower (PathPosix.basename (normalizePath path)) extension := by
  rw [← checkBlockedExtension_isOk_iff]
  unfold accepts validatePath
  dsimp only
  by_cases hnul : 0 ∈ path
  · simp [hnul, Except.isOk, Except.toBool]
  by_cases hlong : maxPathLength < path.length
  · simp [hnul, hlong, Except.isOk, Except.toBool]
  rw [if_neg hnul, if_neg hlong, if_neg hnul, if_neg hlong]
  cases checkPathTraversal (normalizePath path) path with
  | error error => simp [Except.isOk, Except.toBool]
  | ok =>
    cases checkAllowedPaths (normalizePath path) options.allowedPaths with
    | error error => simp [Except.isOk, Except.toBool]
    | ok =>
      cases checkBlockedExtension lower.toLowerCase (normalizePath path)
          options.blockedExtensions <;> simp [Except.isOk, Except.toBool]

-- `.env` as a whole and `tar.gz` end as the entries say, and are accepted.
theorem accepts_multi_part :
    (EndsWithExtension asciiLowerCase (PathPosix.basename (normalizePath (js "/app/.env")))
        (js ".env") ∧
      accepts asciiLowerCase.toLowerCase (js "/app/.env")
        ⟨none, [js ".env"], some true⟩ = true) ∧
    (EndsWithExtension asciiLowerCase (PathPosix.basename (normalizePath (js "/app/a.tar.gz")))
        (js "tar.gz") ∧
      accepts asciiLowerCase.toLowerCase (js "/app/a.tar.gz")
        ⟨none, [js "tar.gz"], some true⟩ = true) := by
  refine ⟨⟨⟨[], js "env", ?_, rfl⟩, ?_⟩, ⟨js "a", js "tar.gz", ?_, rfl⟩, ?_⟩ <;> decide

end WebSsh2.Sftp
