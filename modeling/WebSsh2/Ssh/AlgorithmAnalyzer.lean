import WebSsh2.Config.AlgorithmPresets
import Mathlib.Data.List.Forall2
import Mathlib.Data.List.Perm.Basic

namespace WebSsh2.Ssh.AlgorithmAnalyzer

open WebSsh2.Library
open WebSsh2.Config (Algorithms algorithmPresets)
open WebSsh2.Config.Algorithms (modern legacy strict)

inductive AlgorithmCategory where
  | kex
  | serverHostKey
  | cipher
  | mac
  | compress
deriving DecidableEq

structure AlgorithmSet where
  kex : List JsString
  serverHostKey : List JsString
  cipher : List JsString
  mac : List JsString
  compress : List JsString

def AlgorithmSet.get (set : AlgorithmSet) : AlgorithmCategory → List JsString
  | .kex => set.kex
  | .serverHostKey => set.serverHostKey
  | .cipher => set.cipher
  | .mac => set.mac
  | .compress => set.compress

def categoryLabel : AlgorithmCategory → JsString
  | .kex => js "Key Exchange"
  | .serverHostKey => js "Host Key"
  | .cipher => js "Cipher"
  | .mac => js "MAC"
  | .compress => js "Compression"

-- `CATEGORY_TO_ENV_VAR`
def categoryToEnvVar : AlgorithmCategory → JsString
  | .kex => js "WEBSSH2_SSH_ALGORITHMS_KEX"
  | .serverHostKey => js "WEBSSH2_SSH_ALGORITHMS_SERVER_HOST_KEY"
  | .cipher => js "WEBSSH2_SSH_ALGORITHMS_CIPHER"
  | .mac => js "WEBSSH2_SSH_ALGORITHMS_HMAC"
  | .compress => js "WEBSSH2_SSH_ALGORITHMS_COMPRESS"

structure CategoryAnalysis where
  category : AlgorithmCategory
  label : JsString
  common : List JsString
  clientOnly : List JsString
  serverOnly : List JsString
  hasMatch : Bool

structure AlgorithmAnalysis where
  categories : List CategoryAnalysis
  hasAnyMismatch : Bool
  suggestedPreset : Option JsString
  suggestedEnvVars : List JsString

def findCommonAlgorithms (clientList serverList : List JsString) : List JsString :=
  clientList.filter (· ∈ serverList)

def findExclusiveAlgorithms (list otherList : List JsString) : List JsString :=
  list.filter (· ∉ otherList)

variable (category : AlgorithmCategory)

def analyzeCategory (clientAlgorithms serverAlgorithms : List JsString) : CategoryAnalysis :=
  let common := findCommonAlgorithms clientAlgorithms serverAlgorithms
  { category := category
    label := categoryLabel category
    common := common
    clientOnly := findExclusiveAlgorithms clientAlgorithms serverAlgorithms
    serverOnly := findExclusiveAlgorithms serverAlgorithms clientAlgorithms
    hasMatch := 0 < common.length }

def categoryMappings : List ((Algorithms → List JsString) × AlgorithmCategory) :=
  [(Algorithms.kex, .kex), (Algorithms.serverHostKey, .serverHostKey),
    (Algorithms.cipher, .cipher), (Algorithms.hmac, .mac), (Algorithms.compress, .compress)]

def presetCoversServer (preset : Algorithms) (server : AlgorithmSet) : Bool :=
  categoryMappings.all fun (presetKey, serverKey) =>
    !(0 < (server.get serverKey).length &&
      (findCommonAlgorithms (presetKey preset) (server.get serverKey)).length = 0)

def presetOrder : List JsString :=
  [js "strict", js "modern", js "legacy"]

def suggestPreset (server : AlgorithmSet) : Option JsString :=
  presetOrder.find? fun presetName =>
    match algorithmPresets.lookup presetName with
    | some preset => presetCoversServer preset server
    | none => false

-- One turn of the loop: the first algorithm of the server, where nothing matches.
def envVarSuggestion (categoryAnalysis : CategoryAnalysis) : Option JsString :=
  if !categoryAnalysis.hasMatch && 0 < categoryAnalysis.serverOnly.length then
    categoryAnalysis.serverOnly.head?.map fun firstServerAlg =>
      categoryToEnvVar categoryAnalysis.category ++ js "=" ++ firstServerAlg
  else
    none

def generateEnvVarSuggestions (analysis : List CategoryAnalysis) : List JsString :=
  analysis.filterMap envVarSuggestion

def categories : List AlgorithmCategory :=
  [.kex, .serverHostKey, .cipher, .mac, .compress]

def analyzeAlgorithms (client server : AlgorithmSet) : AlgorithmAnalysis :=
  let categoryAnalyses := categories.map fun category =>
    analyzeCategory category (client.get category) (server.get category)
  let hasAnyMismatch := categoryAnalyses.any fun analysis =>
    !analysis.hasMatch && (0 < analysis.clientOnly.length || 0 < analysis.serverOnly.length)
  { categories := categoryAnalyses
    hasAnyMismatch := hasAnyMismatch
    suggestedPreset := if hasAnyMismatch then suggestPreset server else none
    suggestedEnvVars := if hasAnyMismatch then generateEnvVarSuggestions categoryAnalyses else [] }

section Meaning

-- Algorithms on both sides, and none in common.
def Mismatched (client server : AlgorithmSet) (category : AlgorithmCategory) : Prop :=
  client.get category ≠ [] ∧ server.get category ≠ [] ∧
    ∀ alg ∈ client.get category, alg ∉ server.get category

instance (client server : AlgorithmSet) (category : AlgorithmCategory) :
    Decidable (Mismatched client server category) :=
  inferInstanceAs (Decidable (_ ∧ _ ∧ ∀ alg ∈ client.get category, alg ∉ server.get category))

-- The field of a preset for a category.
def forCategory (preset : Algorithms) : AlgorithmCategory → List JsString
  | .kex => preset.kex
  | .serverHostKey => preset.serverHostKey
  | .cipher => preset.cipher
  | .mac => preset.hmac
  | .compress => preset.compress

def Covers (preset : Algorithms) (server : AlgorithmSet) : Prop :=
  ∀ category, server.get category ≠ [] →
    ∃ alg ∈ forCategory preset category, alg ∈ server.get category

-- The first of the presets that covers the server.
inductive FirstCovering (server : AlgorithmSet) : Option JsString → Prop where
  | strict (h : Covers strict server) : FirstCovering server (some (js "strict"))
  | modern (hstrict : ¬Covers strict server) (h : Covers modern server) :
      FirstCovering server (some (js "modern"))
  | legacy (hstrict : ¬Covers strict server) (hmodern : ¬Covers modern server)
      (h : Covers legacy server) : FirstCovering server (some (js "legacy"))
  | none (hstrict : ¬Covers strict server) (hmodern : ¬Covers modern server)
      (hlegacy : ¬Covers legacy server) : FirstCovering server none

-- The lists of one category partition the two lists and keep their order.
structure Partitions (client server : List JsString) (analysis : CategoryAnalysis) : Prop where
  common : ∀ alg, alg ∈ analysis.common ↔ alg ∈ client ∧ alg ∈ server
  clientOnly : ∀ alg, alg ∈ analysis.clientOnly ↔ alg ∈ client ∧ alg ∉ server
  serverOnly : ∀ alg, alg ∈ analysis.serverOnly ↔ alg ∈ server ∧ alg ∉ client
  commonOrder : analysis.common.Sublist client
  clientOrder : analysis.clientOnly.Sublist client
  serverOrder : analysis.serverOnly.Sublist server
  wholeClient : (analysis.common ++ analysis.clientOnly).Perm client
  wholeServer : (server.filter (· ∈ analysis.common) ++ analysis.serverOnly).Perm server

-- An entry that names an algorithm of the server for the category.
def NamesOffered (server : AlgorithmSet) (category : AlgorithmCategory) (entry : JsString) : Prop :=
  ∃ alg ∈ server.get category, entry = categoryToEnvVar category ++ js "=" ++ alg

structure AnalysisRight (client server : AlgorithmSet) (analysis : AlgorithmAnalysis) : Prop where
  mismatch : analysis.hasAnyMismatch = true ↔ ∃ category, Mismatched client server category
  partition : List.Forall₂ (fun category entry => entry.category = category ∧
    Partitions (client.get category) (server.get category) entry) categories analysis.categories
  preset : (∃ category, Mismatched client server category) →
    FirstCovering server analysis.suggestedPreset
  envVars : List.Forall₂ (NamesOffered server)
    (categories.filter fun category => Mismatched client server category)
    analysis.suggestedEnvVars

-- Where the client offers nothing, neither does the server; and if it is only the
-- client that offers something in a category, then another category is mismatched.
structure OffersMeet (client server : AlgorithmSet) : Prop where
  answered : ∀ category, client.get category = [] → server.get category = []
  asked : (∀ category, server.get category = [] → client.get category = []) ∨
    ∃ category, Mismatched client server category

end Meaning

theorem mem_categories : category ∈ categories := by
  cases category <;> decide

theorem partitions_analyzeCategory (client server : List JsString) :
    Partitions client server (analyzeCategory category client server) where
  common alg := by simp [analyzeCategory, findCommonAlgorithms]
  clientOnly alg := by simp [analyzeCategory, findExclusiveAlgorithms]
  serverOnly alg := by simp [analyzeCategory, findExclusiveAlgorithms]
  commonOrder := List.filter_sublist
  clientOrder := List.filter_sublist
  serverOrder := List.filter_sublist
  wholeClient := by
    have hperm := List.filter_append_perm (fun alg => decide (alg ∈ server)) client
    simpa [analyzeCategory, findCommonAlgorithms, findExclusiveAlgorithms] using hperm
  wholeServer := by
    have hperm := List.filter_append_perm (fun alg => decide (alg ∈ client)) server
    have hshared : server.filter (fun alg =>
        decide (alg ∈ findCommonAlgorithms client server)) =
          server.filter fun alg => decide (alg ∈ client) := by
      apply List.filter_congr
      intro alg halg
      simp [findCommonAlgorithms, halg]
    show (server.filter (fun alg => decide (alg ∈ findCommonAlgorithms client server)) ++
      findExclusiveAlgorithms server client).Perm server
    rw [hshared]
    simpa [findExclusiveAlgorithms] using hperm

-- Nothing in common, read from the lists that were given.
def Disjoint (client server : AlgorithmSet) (category : AlgorithmCategory) : Prop :=
  ∀ alg ∈ client.get category, alg ∉ server.get category

instance (client server : AlgorithmSet) (category : AlgorithmCategory) :
    Decidable (Disjoint client server category) :=
  inferInstanceAs (Decidable (∀ alg ∈ client.get category, alg ∉ server.get category))

theorem findCommonAlgorithms_eq_nil_iff (clientList serverList : List JsString) :
    findCommonAlgorithms clientList serverList = [] ↔ ∀ alg ∈ clientList, alg ∉ serverList := by
  simp [findCommonAlgorithms]

section Analysis

variable {client server : AlgorithmSet}

def analysisOf (client server : AlgorithmSet) (category : AlgorithmCategory) : CategoryAnalysis :=
  analyzeCategory category (client.get category) (server.get category)

theorem hasMatch_analysisOf (category : AlgorithmCategory) :
    (analysisOf client server category).hasMatch = decide ¬Disjoint client server category := by
  have hcommon := findCommonAlgorithms_eq_nil_iff (client.get category) (server.get category)
  show decide (0 < (findCommonAlgorithms (client.get category) (server.get category)).length) = _
  rw [decide_eq_decide, List.length_pos_iff, Ne, hcommon]
  rfl

variable {category : AlgorithmCategory}

-- Lists with nothing in common are exclusive as they are.
theorem exclusive_analysisOf (h : Disjoint client server category) :
    (analysisOf client server category).clientOnly = client.get category ∧
      (analysisOf client server category).serverOnly = server.get category := by
  constructor
  · apply List.filter_eq_self.mpr
    intro alg halg
    exact decide_eq_true (h alg halg)
  · apply List.filter_eq_self.mpr
    intro alg halg
    exact decide_eq_true fun hclient => h alg hclient halg

theorem hasAnyMismatch_iff :
    (analyzeAlgorithms client server).hasAnyMismatch = true ↔
      ∃ category, Disjoint client server category ∧
        (client.get category ≠ [] ∨ server.get category ≠ []) := by
  have hone : ∀ category, (!(analysisOf client server category).hasMatch &&
      (decide (0 < (analysisOf client server category).clientOnly.length) ||
        decide (0 < (analysisOf client server category).serverOnly.length))) = true ↔
      Disjoint client server category ∧
        (client.get category ≠ [] ∨ server.get category ≠ []) := by
    intro category
    rw [hasMatch_analysisOf]
    by_cases hdisjoint : Disjoint client server category
    · obtain ⟨hclient, hserver⟩ := exclusive_analysisOf hdisjoint
      rw [hclient, hserver]
      simp [hdisjoint, List.length_pos_iff]
    · simp [hdisjoint]
  have hany : (analyzeAlgorithms client server).hasAnyMismatch =
      categories.any fun category => !(analysisOf client server category).hasMatch &&
        (decide (0 < (analysisOf client server category).clientOnly.length) ||
          decide (0 < (analysisOf client server category).serverOnly.length)) := by
    unfold analyzeAlgorithms
    dsimp only
    rw [List.any_map]
    rfl
  rw [hany, List.any_eq_true]
  constructor
  · rintro ⟨category, _, h⟩
    exact ⟨category, (hone category).mp h⟩
  · rintro ⟨category, h⟩
    exact ⟨category, mem_categories category, (hone category).mpr h⟩

theorem presetCoversServer_iff (preset : Algorithms) (server : AlgorithmSet) :
    presetCoversServer preset server = true ↔ Covers preset server := by
  have hone : ∀ presetList serverList : List JsString,
      (!(decide (0 < serverList.length) &&
        decide ((findCommonAlgorithms presetList serverList).length = 0))) = true ↔
        (serverList ≠ [] → ∃ alg ∈ presetList, alg ∈ serverList) := by
    intro presetList serverList
    rw [Bool.not_eq_true', Bool.and_eq_false_iff, decide_eq_false_iff_not, decide_eq_false_iff_not,
      List.length_pos_iff, List.length_eq_zero_iff, findCommonAlgorithms_eq_nil_iff]
    simp only [not_forall, not_not, exists_prop]
    tauto
  unfold presetCoversServer categoryMappings Covers
  simp only [List.all_cons, List.all_nil, Bool.and_true, Bool.and_eq_true, hone]
  constructor
  · rintro ⟨hkex, hkey, hcipher, hmac, hcompress⟩ category
    cases category with
    | kex => exact hkex
    | serverHostKey => exact hkey
    | cipher => exact hcipher
    | mac => exact hmac
    | compress => exact hcompress
  · intro h
    exact ⟨h .kex, h .serverHostKey, h .cipher, h .mac, h .compress⟩

theorem firstCovering_suggestPreset (server : AlgorithmSet) :
    FirstCovering server (suggestPreset server) := by
  unfold suggestPreset presetOrder
  have hlookup : algorithmPresets.lookup (js "strict") = some strict ∧
      algorithmPresets.lookup (js "modern") = some modern ∧
      algorithmPresets.lookup (js "legacy") = some legacy := ⟨rfl, rfl, rfl⟩
  obtain ⟨hstrictPreset, hmodernPreset, hlegacyPreset⟩ := hlookup
  simp only [List.find?_cons, List.find?_nil, hstrictPreset, hmodernPreset, hlegacyPreset]
  cases hstrict : presetCoversServer strict server with
  | true => exact .strict ((presetCoversServer_iff _ _).mp hstrict)
  | false =>
    have hnotStrict : ¬Covers strict server := by
      rw [← presetCoversServer_iff, hstrict]
      exact Bool.false_ne_true
    cases hmodern : presetCoversServer modern server with
    | true => exact .modern hnotStrict ((presetCoversServer_iff _ _).mp hmodern)
    | false =>
      have hnotModern : ¬Covers modern server := by
        rw [← presetCoversServer_iff, hmodern]
        exact Bool.false_ne_true
      cases hlegacy : presetCoversServer legacy server with
      | true => exact .legacy hnotStrict hnotModern ((presetCoversServer_iff _ _).mp hlegacy)
      | false =>
        refine .none hnotStrict hnotModern ?_
        rw [← presetCoversServer_iff, hlegacy]
        exact Bool.false_ne_true

-- A category for which a suggestion is made.
def Suggested (client server : AlgorithmSet) (category : AlgorithmCategory) : Prop :=
  Disjoint client server category ∧ server.get category ≠ []

instance (client server : AlgorithmSet) (category : AlgorithmCategory) :
    Decidable (Suggested client server category) :=
  inferInstanceAs (Decidable (_ ∧ _))

theorem suggested_of_mismatched (h : Mismatched client server category) :
    Suggested client server category :=
  ⟨h.2.2, h.2.1⟩

theorem mismatched_of_suggested (h : Suggested client server category)
    (hclient : client.get category ≠ []) : Mismatched client server category :=
  ⟨hclient, h.2, h.1⟩

theorem envVarSuggestion_analysisOf (category : AlgorithmCategory) :
    envVarSuggestion (analysisOf client server category) =
      if Suggested client server category then
        (server.get category).head?.map fun alg => categoryToEnvVar category ++ js "=" ++ alg
      else none := by
  unfold envVarSuggestion
  rw [hasMatch_analysisOf]
  by_cases hdisjoint : Disjoint client server category
  · rw [(exclusive_analysisOf hdisjoint).2]
    by_cases hserver : server.get category = []
    · have hnot : ¬Suggested client server category := fun h => h.2 hserver
      rw [if_neg hnot]
      simp [hserver]
    · have hsuggested : Suggested client server category := ⟨hdisjoint, hserver⟩
      rw [if_pos hsuggested, if_pos (by simp [hdisjoint, List.length_pos_iff, hserver])]
      rfl
  · have hnot : ¬Suggested client server category := fun h => hdisjoint h.1
    rw [if_neg hnot]
    simp [hdisjoint]

-- The suggestions, one for each such category, in their order.
theorem generateEnvVarSuggestions_offered (list : List AlgorithmCategory) :
    List.Forall₂ (NamesOffered server)
      (list.filter fun category => Suggested client server category)
      (generateEnvVarSuggestions (list.map (analysisOf client server))) := by
  induction list with
  | nil => exact .nil
  | cons category rest ih =>
    have hentry := @envVarSuggestion_analysisOf client server category
    unfold generateEnvVarSuggestions at ih ⊢
    rw [List.map_cons]
    by_cases hsuggested : Suggested client server category
    · obtain ⟨alg, others, hlist⟩ := List.exists_cons_of_ne_nil hsuggested.2
      rw [if_pos hsuggested, hlist, List.head?_cons, Option.map_some] at hentry
      rw [List.filter_cons_of_pos (by simpa using hsuggested), List.filterMap_cons_some hentry]
      exact .cons ⟨alg, by rw [hlist]; exact List.mem_cons_self, rfl⟩ ih
    · rw [if_neg hsuggested] at hentry
      rw [List.filter_cons_of_neg (by simpa using hsuggested), List.filterMap_cons_none hentry]
      exact ih

theorem generateEnvVarSuggestions_eq_nil (h : ∀ category, ¬Suggested client server category) :
    generateEnvVarSuggestions (categories.map (analysisOf client server)) = [] := by
  have hnone : (categories.filter fun category => Suggested client server category) = [] := by
    apply List.filter_eq_nil_iff.mpr
    intro category _
    simpa using h category
  have hforall := @generateEnvVarSuggestions_offered client server categories
  rw [hnone] at hforall
  exact List.forall₂_nil_left_iff.mp hforall

-- Without a mismatch there is nothing to suggest in any case.
theorem suggestedEnvVars_eq :
    (analyzeAlgorithms client server).suggestedEnvVars =
      generateEnvVarSuggestions (categories.map (analysisOf client server)) := by
  have hbranch : (analyzeAlgorithms client server).suggestedEnvVars =
      if (analyzeAlgorithms client server).hasAnyMismatch = true then
        generateEnvVarSuggestions (categories.map (analysisOf client server)) else [] := rfl
  rw [hbranch]
  by_cases hany : (analyzeAlgorithms client server).hasAnyMismatch = true
  · rw [if_pos hany]
  · rw [if_neg hany, generateEnvVarSuggestions_eq_nil]
    intro category hsuggested
    exact hany (hasAnyMismatch_iff.mpr ⟨category, hsuggested.1, .inr hsuggested.2⟩)

-- Every suggestion is for a mismatched category exactly when the server offers nothing
-- where the client offers nothing.
theorem envVars_iff :
    List.Forall₂ (NamesOffered server)
        (categories.filter fun category => Mismatched client server category)
        (analyzeAlgorithms client server).suggestedEnvVars ↔
      ∀ category, client.get category = [] → server.get category = [] := by
  have hoffered := @generateEnvVarSuggestions_offered client server categories
  have hsame : (categories.filter fun category => Mismatched client server category) =
      (categories.filter fun category => Suggested client server category).filter
        fun category => Mismatched client server category := by
    rw [List.filter_filter]
    apply List.filter_congr
    intro category _
    by_cases hmismatched : Mismatched client server category
    · simp [hmismatched, suggested_of_mismatched hmismatched]
    · simp [hmismatched]
  rw [suggestedEnvVars_eq]
  constructor
  · intro h category hclient
    by_contra hserver
    -- the category has a suggestion, and as many categories are mismatched
    have hlength := h.length_eq.trans hoffered.length_eq.symm
    rw [hsame] at hlength
    have hall := List.filter_sublist.eq_of_length hlength
    have hdisjoint : Disjoint client server category := by
      intro alg halg
      rw [hclient] at halg
      cases halg
    have hmem : category ∈ categories.filter fun category => Suggested client server category :=
      List.mem_filter.mpr ⟨mem_categories category, by simp [Suggested, hdisjoint, hserver]⟩
    rw [← hall] at hmem
    have hmismatched : Mismatched client server category := by
      simpa using (List.mem_filter.mp hmem).2
    exact hmismatched.1 hclient
  · intro h
    have heq : (categories.filter fun category => Mismatched client server category) =
        categories.filter fun category => Suggested client server category := by
      rw [hsame]
      apply List.filter_eq_self.mpr
      intro category hmem
      have hsuggested : Suggested client server category := by
        simpa using (List.mem_filter.mp hmem).2
      exact decide_eq_true
        (mismatched_of_suggested hsuggested fun hclient => hsuggested.2 (h category hclient))
    rw [heq]
    exact hoffered

theorem partition_analyzeAlgorithms :
    List.Forall₂ (fun category entry => entry.category = category ∧
      Partitions (client.get category) (server.get category) entry) categories
      (analyzeAlgorithms client server).categories := by
  show List.Forall₂ _ categories (categories.map (analysisOf client server))
  rw [List.forall₂_map_right_iff, List.forall₂_same]
  intro category _
  exact ⟨rfl, partitions_analyzeCategory category _ _⟩

theorem mismatch_iff :
    ((analyzeAlgorithms client server).hasAnyMismatch = true ↔
        ∃ category, Mismatched client server category) ↔
      (∀ category, (client.get category = [] ↔ server.get category = [])) ∨
        ∃ category, Mismatched client server category := by
  rw [hasAnyMismatch_iff]
  constructor
  · intro h
    by_cases hmismatched : ∃ category, Mismatched client server category
    · exact .inr hmismatched
    · left
      intro category
      by_contra hone
      have hdisjoint : Disjoint client server category := by
        intro alg hclient hserver
        apply hone
        constructor
        · intro hempty
          rw [hempty] at hclient
          cases hclient
        · intro hempty
          rw [hempty] at hserver
          cases hserver
      exact hmismatched (h.mp ⟨category, hdisjoint, by tauto⟩)
  · rintro (hboth | hmismatched)
    · constructor
      · rintro ⟨category, hdisjoint, hoffers⟩
        have hiff := hboth category
        exact ⟨category, by tauto, by tauto, hdisjoint⟩
      · rintro ⟨category, hclient, hserver, hdisjoint⟩
        exact ⟨category, hdisjoint, .inl hclient⟩
    · obtain ⟨category, hclient, hserver, hdisjoint⟩ := hmismatched
      exact ⟨fun _ => ⟨category, hclient, hserver, hdisjoint⟩,
        fun _ => ⟨category, hdisjoint, .inl hclient⟩⟩

theorem preset_analyzeAlgorithms (h : ∃ category, Mismatched client server category) :
    FirstCovering server (analyzeAlgorithms client server).suggestedPreset := by
  obtain ⟨category, hclient, _, hdisjoint⟩ := h
  have hany : (analyzeAlgorithms client server).hasAnyMismatch = true :=
    hasAnyMismatch_iff.mpr ⟨category, hdisjoint, .inl hclient⟩
  have hbranch : (analyzeAlgorithms client server).suggestedPreset =
      if (analyzeAlgorithms client server).hasAnyMismatch = true then suggestPreset server
      else none := rfl
  rw [hbranch, if_pos hany]
  exact firstCovering_suggestPreset server

end Analysis

-- The analysis is right exactly where a category that only one side offers cannot be
-- taken for a mismatch.
theorem analyzeAlgorithms_right_iff (client server : AlgorithmSet) :
    AnalysisRight client server (analyzeAlgorithms client server) ↔ OffersMeet client server := by
  constructor
  · intro h
    have hanswered := envVars_iff.mp h.envVars
    refine ⟨hanswered, (mismatch_iff.mp h.mismatch).imp_left fun hboth category => ?_⟩
    exact (hboth category).mpr
  · intro h
    refine ⟨mismatch_iff.mpr (h.asked.imp_left fun hasked category => ?_),
      partition_analyzeAlgorithms, preset_analyzeAlgorithms, envVars_iff.mpr h.answered⟩
    exact ⟨h.answered category, hasked category⟩

def noAlgorithms : AlgorithmSet where
  kex := []
  serverHostKey := []
  cipher := []
  mac := []
  compress := []

-- The handshake broke off before the server had offered anything.
theorem analyzeAlgorithms_not_right :
    ¬AnalysisRight { noAlgorithms with kex := [js "curve25519-sha256"] } noAlgorithms
      (analyzeAlgorithms { noAlgorithms with kex := [js "curve25519-sha256"] } noAlgorithms) := by
  intro h
  obtain ⟨category, _, hserver, _⟩ := h.mismatch.mp rfl
  cases category <;> exact hserver rfl

end WebSsh2.Ssh.AlgorithmAnalyzer
