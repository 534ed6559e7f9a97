import Mathlib.Data.List.Basic
import Mathlib.Data.List.Perm.Basic
import Mathlib.Data.List.Infix
import Mathlib.Data.List.Nodup

-- Trees of files under names, as a walk finds them: in some order in each directory.
namespace WebSsh2.Library.FileTrees

inductive Entry (ν β : Type) where
  | file (name : ν) (contents : β)
  | directory (name : ν) (entries : List (Entry ν β))
  | other (name : ν)

variable {ν β : Type}

def Entry.name : Entry ν β → ν
  | .file name _ => name
  | .directory name _ => name
  | .other name => name

mutual

-- The files with their paths, in the order in which the walk finds them.
def Entry.files (below : List ν) : Entry ν β → List (List ν × β)
  | .file name contents => [(below ++ [name], contents)]
  | .directory name entries => filesOf (below ++ [name]) entries
  | .other _ => []

def filesOf (below : List ν) : List (Entry ν β) → List (List ν × β)
  | [] => []
  | entry :: rest => entry.files below ++ filesOf below rest

end

mutual

-- No directory has two entries of one name, and every name is one.
def Entry.Sound (IsName : ν → Prop) : Entry ν β → Prop
  | .file name _ => IsName name
  | .directory name entries => IsName name ∧ SoundEntries IsName entries
  | .other name => IsName name

def SoundEntries (IsName : ν → Prop) : List (Entry ν β) → Prop
  | [] => True
  | entry :: rest =>
    entry.Sound IsName ∧ entry.name ∉ rest.map Entry.name ∧ SoundEntries IsName rest

end

-- Neither path leads through the other, as two files of one tree have it.
def Beside (first second : List ν) : Prop :=
  ¬first <+: second ∧ ¬second <+: first

def SameTree (first second : List (Entry ν β)) : Prop :=
  (filesOf [] first).Perm (filesOf [] second)

section Paths

variable {IsName : ν → Prop}

mutual

-- A path goes through the name of its entry, and then on by names.
theorem path_of_mem_files : ∀ (entry : Entry ν β) (below : List ν), entry.Sound IsName →
    ∀ file ∈ entry.files below, ∃ tail, file.1 = below ++ entry.name :: tail ∧
      ∀ name ∈ entry.name :: tail, IsName name
  | .file name contents, below, h, file, hmem => by
    obtain rfl := List.mem_singleton.mp hmem
    exact ⟨[], rfl, fun other hother => by rw [List.mem_singleton.mp hother]; exact h⟩
  | .directory name entries, below, h, file, hmem => by
    obtain ⟨entry, hentry, tail, hpath, hnames⟩ :=
      path_of_mem_filesOf entries (below ++ [name]) h.2 file hmem
    refine ⟨entry.name :: tail, by rw [hpath, List.append_assoc]; rfl, ?_⟩
    intro other hother
    rcases List.mem_cons.mp hother with rfl | hlater
    · exact h.1
    · exact hnames other hlater
  | .other _, _, _, _, hmem => by cases hmem

theorem path_of_mem_filesOf : ∀ (entries : List (Entry ν β)) (below : List ν),
    SoundEntries IsName entries → ∀ file ∈ filesOf below entries, ∃ entry ∈ entries, ∃ tail,
      file.1 = below ++ entry.name :: tail ∧ ∀ name ∈ entry.name :: tail, IsName name
  | [], _, _, _, hmem => by cases hmem
  | entry :: rest, below, h, file, hmem => by
    rcases List.mem_append.mp hmem with hfirst | hlater
    · obtain ⟨tail, hpath, hnames⟩ := path_of_mem_files entry below h.1 file hfirst
      exact ⟨entry, List.mem_cons_self, tail, hpath, hnames⟩
    · obtain ⟨other, hother, tail, hpath, hnames⟩ :=
        path_of_mem_filesOf rest below h.2.2 file hlater
      exact ⟨other, List.mem_cons_of_mem _ hother, tail, hpath, hnames⟩

end

theorem beside_of_names {below first second : List ν} {name other : ν} (h : name ≠ other) :
    Beside (below ++ name :: first) (below ++ other :: second) := by
  constructor
  · intro hstart
    rw [List.prefix_append_right_inj, List.cons_prefix_cons] at hstart
    exact h hstart.1
  · intro hstart
    rw [List.prefix_append_right_inj, List.cons_prefix_cons] at hstart
    exact h hstart.1.symm

mutual

-- Two files of a tree are beside each other.
theorem pairwise_files : ∀ (entry : Entry ν β) (below : List ν), entry.Sound IsName →
    (entry.files below).Pairwise fun first second => Beside first.1 second.1
  | .file _ _, _, _ => List.pairwise_singleton _ _
  | .directory _ entries, _, h => pairwise_filesOf entries _ h.2
  | .other _, _, _ => List.Pairwise.nil

theorem pairwise_filesOf : ∀ (entries : List (Entry ν β)) (below : List ν),
    SoundEntries IsName entries →
      (filesOf below entries).Pairwise fun first second => Beside first.1 second.1
  | [], _, _ => List.Pairwise.nil
  | entry :: rest, below, h => by
    refine List.pairwise_append.mpr ⟨pairwise_files entry below h.1,
      pairwise_filesOf rest below h.2.2, ?_⟩
    intro first hfirst second hsecond
    obtain ⟨tail, hpath, _⟩ := path_of_mem_files entry below h.1 first hfirst
    obtain ⟨other, hother, tail', hpath', _⟩ :=
      path_of_mem_filesOf rest below h.2.2 second hsecond
    rw [hpath, hpath']
    apply beside_of_names
    intro heq
    exact h.2.1 (List.mem_map.mpr ⟨other, hother, heq.symm⟩)

end

theorem Beside.ne {first second : List ν} (h : Beside first second) : first ≠ second := by
  rintro rfl
  exact h.1 (List.prefix_refl _)

theorem Beside.symm {first second : List ν} (h : Beside first second) : Beside second first :=
  ⟨h.2, h.1⟩

theorem nodup_paths {entries : List (Entry ν β)} (h : SoundEntries IsName entries) :
    ((filesOf [] entries).map Prod.fst).Nodup :=
  List.pairwise_map.mpr ((pairwise_filesOf entries [] h).imp Beside.ne)

theorem isName_of_mem {entries : List (Entry ν β)} (h : SoundEntries IsName entries)
    {file : List ν × β} (hmem : file ∈ filesOf [] entries) :
    file.1 ≠ [] ∧ ∀ name ∈ file.1, IsName name := by
  obtain ⟨entry, _, tail, hpath, hnames⟩ := path_of_mem_filesOf entries [] h file hmem
  rw [hpath]
  exact ⟨List.cons_ne_nil _ _, hnames⟩

end Paths

section Listing

variable (le : List ν → List ν → Bool)

mutual

-- The walk of one entry, where the list of a directory is sorted on the way back.
def Entry.listed (below : List ν) : Entry ν β → List (List ν)
  | .file name _ => [below ++ [name]]
  | .directory name entries => (listedOf (below ++ [name]) entries).mergeSort le
  | .other _ => []

def listedOf (below : List ν) : List (Entry ν β) → List (List ν)
  | [] => []
  | entry :: rest => entry.listed below ++ listedOf below rest

end

def listFiles (entries : List (Entry ν β)) : List (List ν) :=
  (listedOf le [] entries).mergeSort le

variable {le}

mutual

theorem listed_perm : ∀ (entry : Entry ν β) (below : List ν),
    (entry.listed le below).Perm ((entry.files below).map Prod.fst)
  | .file _ _, _ => List.Perm.refl _
  | .directory _ entries, _ => (List.mergeSort_perm _ _).trans (listedOf_perm entries _)
  | .other _, _ => List.Perm.refl _

theorem listedOf_perm : ∀ (entries : List (Entry ν β)) (below : List ν),
    (listedOf le below entries).Perm ((filesOf below entries).map Prod.fst)
  | [], _ => List.Perm.refl _
  | entry :: rest, below => by
    rw [listedOf, filesOf, List.map_append]
    exact (listed_perm entry below).append (listedOf_perm rest below)

end

theorem listFiles_perm (entries : List (Entry ν β)) :
    (listFiles le entries).Perm ((filesOf [] entries).map Prod.fst) :=
  (List.mergeSort_perm _ _).trans (listedOf_perm entries [])

-- Two elements stand in one part or in two, the earlier one first.
theorem pair_sublist_append_iff {α : Type} {a b : α} {first second : List α} :
    [a, b].Sublist (first ++ second) ↔
      [a, b].Sublist first ∨ (a ∈ first ∧ b ∈ second) ∨ [a, b].Sublist second := by
  constructor
  · intro h
    obtain ⟨left, right, heq, hleft, hright⟩ := List.sublist_append_iff.mp h
    cases left with
    | nil =>
      rw [List.nil_append] at heq
      rw [← heq] at hright
      exact .inr (.inr hright)
    | cons head tail =>
      obtain ⟨rfl, htail⟩ := List.cons.inj heq
      cases tail with
      | nil =>
        change [b] = right at htail
        rw [← htail] at hright
        exact .inr (.inl ⟨List.singleton_sublist.mp hleft, List.singleton_sublist.mp hright⟩)
      | cons next others =>
        obtain ⟨rfl, hothers⟩ := List.cons.inj htail
        obtain ⟨rfl, rfl⟩ := List.append_eq_nil_iff.mp hothers.symm
        exact .inl hleft
  · rintro (h | ⟨ha, hb⟩ | h)
    · exact h.trans (List.sublist_append_left _ _)
    · exact (List.singleton_sublist.mpr ha).append (List.singleton_sublist.mpr hb)
    · exact h.trans (List.sublist_append_right _ _)

theorem pair_sublist_of_mem {α : Type} {a b : α} {items : List α} (ha : a ∈ items)
    (hb : b ∈ items) (hne : a ≠ b) : [a, b].Sublist items ∨ [b, a].Sublist items := by
  obtain ⟨before, after, rfl⟩ := List.append_of_mem ha
  rcases List.mem_append.mp hb with hbefore | hafter
  · exact .inr (pair_sublist_append_iff.mpr (.inr (.inl ⟨hbefore, List.mem_cons_self⟩)))
  · have hlater : b ∈ after := (List.mem_cons.mp hafter).resolve_left hne.symm
    have hpair : [a, b].Sublist (a :: after) := (List.singleton_sublist.mpr hlater).cons_cons a
    exact .inl (pair_sublist_append_iff.mpr (.inr (.inr hpair)))

-- Where nothing stands twice, one of two elements is the earlier one.
theorem not_pair_sublist_of_nodup {α : Type} {a b : α} {items : List α} (h : items.Nodup)
    (hab : [a, b].Sublist items) : ¬[b, a].Sublist items := by
  intro hba
  induction items with
  | nil => cases hab
  | cons head rest ih =>
    obtain ⟨hhead, hrest⟩ := List.nodup_cons.mp h
    rcases List.sublist_cons_iff.mp hab with hab' | ⟨_, heq, hb⟩
    · rcases List.sublist_cons_iff.mp hba with hba' | ⟨_, heq', _⟩
      · exact ih hrest hab' hba'
      · obtain ⟨rfl, rfl⟩ := List.cons.inj heq'
        exact hhead (hab'.subset (List.mem_cons_of_mem _ List.mem_cons_self))
    · obtain ⟨rfl, rfl⟩ := List.cons.inj heq
      rcases List.sublist_cons_iff.mp hba with hba' | ⟨_, heq', _⟩
      · exact hhead (hba'.subset (List.mem_cons_of_mem _ List.mem_cons_self))
      · obtain ⟨rfl, _⟩ := List.cons.inj heq'
        exact hhead (List.singleton_sublist.mp hb)

-- An order to sort by, where different paths may tie.
structure Sorts (le : List ν → List ν → Bool) : Prop where
  trans : ∀ a b c, le a b = true → le b c = true → le a c = true
  total : ∀ a b, (le a b || le b a) = true

theorem pairwise_listFiles (hle : Sorts le) (entries : List (Entry ν β)) :
    (listFiles le entries).Pairwise fun first second => le first second = true :=
  List.pairwise_mergeSort hle.trans hle.total _

mutual

-- Paths that may stay as they are found do so, through every directory.
theorem listed_pair (hle : Sorts le) {a b : List ν} (hab : le a b = true) :
    ∀ (entry : Entry ν β) (below : List ν), [a, b].Sublist ((entry.files below).map Prod.fst) →
      [a, b].Sublist (entry.listed le below)
  | .file _ _, _, h => h
  | .directory _ entries, _, h =>
    List.pair_sublist_mergeSort hle.trans hle.total hab (listedOf_pair hle hab entries _ h)
  | .other _, _, h => h

theorem listedOf_pair (hle : Sorts le) {a b : List ν} (hab : le a b = true) :
    ∀ (entries : List (Entry ν β)) (below : List ν),
      [a, b].Sublist ((filesOf below entries).map Prod.fst) →
        [a, b].Sublist (listedOf le below entries)
  | [], _, h => h
  | entry :: rest, below, h => by
    rw [filesOf, List.map_append, pair_sublist_append_iff] at h
    rw [listedOf, pair_sublist_append_iff]
    rcases h with hfirst | ⟨ha, hb⟩ | hlater
    · exact .inl (listed_pair hle hab entry below hfirst)
    · exact .inr (.inl ⟨(listed_perm entry below).mem_iff.mpr ha,
        (listedOf_perm rest below).mem_iff.mpr hb⟩)
    · exact .inr (.inr (listedOf_pair hle hab rest below hlater))

end

theorem listFiles_pair (hle : Sorts le) {a b : List ν} (hab : le a b = true)
    {entries : List (Entry ν β)} (h : [a, b].Sublist ((filesOf [] entries).map Prod.fst)) :
    [a, b].Sublist (listFiles le entries) :=
  List.pair_sublist_mergeSort hle.trans hle.total hab (listedOf_pair hle hab entries [] h)

end Listing

section Reversal

mutual

-- The same tree, found the other way round in each directory.
def Entry.reversed : Entry ν β → Entry ν β
  | .file name contents => .file name contents
  | .directory name entries => .directory name (reversedOf entries)
  | .other name => .other name

def reversedOf : List (Entry ν β) → List (Entry ν β)
  | [] => []
  | entry :: rest => reversedOf rest ++ [entry.reversed]

end

theorem filesOf_append (below : List ν) (first second : List (Entry ν β)) :
    filesOf below (first ++ second) = filesOf below first ++ filesOf below second := by
  induction first with
  | nil => rfl
  | cons entry rest ih => rw [List.cons_append, filesOf, ih, filesOf, List.append_assoc]

theorem filesOf_singleton (below : List ν) (entry : Entry ν β) :
    filesOf below [entry] = entry.files below :=
  List.append_nil _

mutual

theorem files_reversed : ∀ (entry : Entry ν β) (below : List ν),
    entry.reversed.files below = (entry.files below).reverse
  | .file _ _, _ => rfl
  | .directory _ entries, _ => filesOf_reversed entries _
  | .other _, _ => rfl

theorem filesOf_reversed : ∀ (entries : List (Entry ν β)) (below : List ν),
    filesOf below (reversedOf entries) = (filesOf below entries).reverse
  | [], _ => rfl
  | entry :: rest, below => by
    rw [reversedOf, filesOf_append, filesOf_singleton, files_reversed entry below,
      filesOf_reversed rest below, filesOf, List.reverse_append]

end

theorem soundEntries_iff {IsName : ν → Prop} (entries : List (Entry ν β)) :
    SoundEntries IsName entries ↔
      (entries.map Entry.name).Nodup ∧ ∀ entry ∈ entries, entry.Sound IsName := by
  induction entries with
  | nil => exact iff_of_true trivial ⟨List.nodup_nil, fun _ hmem => absurd hmem List.not_mem_nil⟩
  | cons entry rest ih =>
    rw [SoundEntries, ih, List.map_cons, List.nodup_cons, List.forall_mem_cons]
    tauto

theorem name_reversed (entry : Entry ν β) : entry.reversed.name = entry.name := by
  cases entry <;> rfl

theorem names_reversedOf (entries : List (Entry ν β)) :
    (reversedOf entries).map Entry.name = (entries.map Entry.name).reverse := by
  induction entries with
  | nil => rfl
  | cons entry rest ih =>
    rw [reversedOf, List.map_append, ih, List.map_singleton, name_reversed, List.map_cons,
      List.reverse_cons]

mutual

theorem sound_reversed {IsName : ν → Prop} : ∀ entry : Entry ν β,
    entry.Sound IsName → entry.reversed.Sound IsName
  | .file _ _, h => h
  | .directory _ entries, h => ⟨h.1, sound_reversedOf entries h.2⟩
  | .other _, h => h

theorem sound_reversedOf {IsName : ν → Prop} : ∀ entries : List (Entry ν β),
    SoundEntries IsName entries → SoundEntries IsName (reversedOf entries)
  | [], h => h
  | entry :: rest, h => by
    have hrest := (soundEntries_iff _).mp (sound_reversedOf rest h.2.2)
    have hnames : ((reversedOf (entry :: rest)).map Entry.name).Nodup := by
      rw [names_reversedOf, List.nodup_reverse]
      exact ((soundEntries_iff _).mp h).1
    refine (soundEntries_iff _).mpr ⟨hnames, fun other hother => ?_⟩
    rcases List.mem_append.mp hother with hold | hnew
    · exact hrest.2 other hold
    · rw [List.mem_singleton.mp hnew]
      exact sound_reversed entry h.1

end

end Reversal

section Building

-- The directories down to one file.
def chain (name : ν) (contents : β) : List ν → Entry ν β
  | [] => .file name contents
  | next :: rest => .directory name [chain next contents rest]

theorem files_chain (name : ν) (contents : β) (rest below : List ν) :
    (chain name contents rest).files below = [(below ++ name :: rest, contents)] := by
  induction rest generalizing name below with
  | nil => rfl
  | cons next rest ih =>
    rw [chain, Entry.files, filesOf_singleton, ih, List.append_assoc]
    rfl

theorem name_chain (name : ν) (contents : β) (rest : List ν) :
    (chain name contents rest).name = name := by
  cases rest <;> rfl

theorem sound_chain {IsName : ν → Prop} {name : ν} (contents : β) {rest : List ν}
    (h : ∀ other ∈ name :: rest, IsName other) : (chain name contents rest).Sound IsName := by
  induction rest generalizing name with
  | nil => exact h name List.mem_cons_self
  | cons next rest ih =>
    exact ⟨h name List.mem_cons_self,
      ih fun other hother => h other (List.mem_cons_of_mem _ hother), List.not_mem_nil, trivial⟩

variable [DecidableEq ν]

-- Two files beside each other, below the directories that they share.
def pairOf (first second : β) : List ν → List ν → List (Entry ν β)
  | name :: rest, other :: later =>
    if name = other then [.directory name (pairOf first second rest later)]
    else [chain name first rest, chain other second later]
  | _, _ => []

theorem filesOf_pairOf (first second : β) {path other : List ν} (h : Beside path other)
    (below : List ν) :
    filesOf below (pairOf first second path other) =
      [(below ++ path, first), (below ++ other, second)] := by
  induction path generalizing other below with
  | nil => exact absurd List.nil_prefix h.1
  | cons name rest ih =>
    cases other with
    | nil => exact absurd List.nil_prefix h.2
    | cons next later =>
      rw [pairOf]
      by_cases hname : name = next
      · subst hname
        have hrest : Beside rest later :=
          ⟨fun hstart => h.1 (List.cons_prefix_cons.mpr ⟨rfl, hstart⟩),
            fun hstart => h.2 (List.cons_prefix_cons.mpr ⟨rfl, hstart⟩)⟩
        rw [if_pos rfl, filesOf_singleton, Entry.files, ih hrest, List.append_assoc,
          List.append_assoc]
        rfl
      · rw [if_neg hname, filesOf, files_chain, filesOf_singleton, files_chain]
        rfl

theorem sound_pairOf {IsName : ν → Prop} (first second : β) {path other : List ν}
    (hpath : ∀ name ∈ path, IsName name) (hother : ∀ name ∈ other, IsName name) :
    SoundEntries IsName (pairOf first second path other) := by
  induction path generalizing other with
  | nil => exact trivial
  | cons name rest ih =>
    cases other with
    | nil => exact trivial
    | cons next later =>
      rw [pairOf]
      by_cases hname : name = next
      · rw [if_pos hname]
        refine ⟨⟨hpath name List.mem_cons_self, ih ?_ ?_⟩, List.not_mem_nil, trivial⟩
        · exact fun later hlater => hpath later (List.mem_cons_of_mem _ hlater)
        · exact fun later hlater => hother later (List.mem_cons_of_mem _ hlater)
      · rw [if_neg hname]
        refine ⟨sound_chain first hpath, ?_, sound_chain second hother, List.not_mem_nil,
          trivial⟩
        rw [List.map_singleton, List.mem_singleton, name_chain, name_chain]
        exact hname

end Building

end WebSsh2.Library.FileTrees
