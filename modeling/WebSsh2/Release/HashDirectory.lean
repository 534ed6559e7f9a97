import WebSsh2.Library.FileTrees
import WebSsh2.Values
import Mathlib.Data.Char
import Mathlib.Data.List.Nodup

namespace WebSsh2.Release

open WebSsh2.Library

-- A name or a path as text, without lone surrogates.
abbrev PathText := List Char

abbrev DirEntry := FileTrees.Entry PathText Bytes

def IsName (name : PathText) : Prop :=
  name ≠ [] ∧ '/' ∉ name ∧ Char.ofNat 0 ∉ name ∧ name ≠ ['.'] ∧ name ≠ ['.', '.']

instance : DecidablePred IsName := fun name =>
  inferInstanceAs (Decidable (name ≠ [] ∧ '/' ∉ name ∧ Char.ofNat 0 ∉ name ∧ name ≠ ['.'] ∧
    name ≠ ['.', '.']))

-- A directory as `readdir` gives it, with what is below.
abbrev IsDirectory (entries : List DirEntry) : Prop :=
  FileTrees.SoundEntries IsName entries

-- `relative(basePath, entryPath)`, of the names from the one to the other.
def pathText (path : List PathText) : PathText :=
  ['/'].intercalate path

def utf8 (text : PathText) : Bytes :=
  text.flatMap String.utf8EncodeChar

section Hash

variable (localeCompare : PathText → PathText → Int)

def sortsBefore (first second : List PathText) : Bool :=
  decide (localeCompare (pathText first) (pathText second) ≤ 0)

def listFiles (entries : List DirEntry) : List (List PathText) :=
  FileTrees.listFiles (sortsBefore localeCompare) entries

def readFile (entries : List DirEntry) (path : List PathText) : Bytes :=
  (((FileTrees.filesOf [] entries).find? fun file => file.1 = path).map Prod.snd).getD []

-- What is fed to the hash, one file after the other.
def framed (contents : List PathText → Bytes) (paths : List (List PathText)) : Bytes :=
  paths.flatMap fun path => utf8 (pathText path) ++ 0 :: contents path

def hashInput (entries : List DirEntry) : Bytes :=
  framed (readFile entries) (listFiles localeCompare entries)

-- The comparison is an order in which different texts may tie.
structure Collates : Prop where
  trans : ∀ first second third, localeCompare first second ≤ 0 → localeCompare second third ≤ 0 →
    localeCompare first third ≤ 0
  total : ∀ first second, localeCompare first second ≤ 0 ∨ localeCompare second first ≤ 0

-- Whatever feeds the same bytes is the same tree.
def Identified (entries : List DirEntry) : Prop :=
  ∀ other, IsDirectory other → hashInput localeCompare other = hashInput localeCompare entries →
    FileTrees.SameTree other entries

-- The same tree feeds the same bytes, in whatever order it is read.
def OrderFree (entries : List DirEntry) : Prop :=
  ∀ other, IsDirectory other → FileTrees.SameTree other entries →
    hashInput localeCompare other = hashInput localeCompare entries

-- No file at all, or a single one without a zero byte behind the path of a file that
-- may stand beside it and be sorted after it.
def StandsAlone (entries : List DirEntry) : Prop :=
  FileTrees.filesOf [] entries = [] ∨
    ∃ path contents, FileTrees.filesOf [] entries = [(path, contents)] ∧
      ∀ other before after, (∀ name ∈ other, IsName name) → FileTrees.Beside path other →
        sortsBefore localeCompare path other = true →
          contents ≠ before ++ (utf8 (pathText other) ++ 0 :: after)

def NoTies (entries : List DirEntry) : Prop :=
  ∀ first ∈ FileTrees.filesOf [] entries, ∀ second ∈ FileTrees.filesOf [] entries,
    sortsBefore localeCompare first.1 second.1 = true →
      sortsBefore localeCompare second.1 first.1 = true → first.1 = second.1

end Hash

section Encoding

theorem utf8_injective : Function.Injective utf8 := by
  intro first second h
  have hencode : first.utf8Encode = second.utf8Encode := congrArg List.toByteArray h
  have hdecode := congrArg ByteArray.utf8Decode? hencode
  rw [List.utf8Decode?_utf8Encode, List.utf8Decode?_utf8Encode] at hdecode
  simpa using hdecode

-- The bytes of a character of several bytes are 128 or more.
theorem zero_notMem_utf8EncodeChar {c : Char} (h : c ≠ Char.ofNat 0) :
    0 ∉ String.utf8EncodeChar c := by
  have hne : c.val.toNat ≠ 0 := fun heq => h (Char.ext (UInt32.toNat_inj.mp heq))
  have hzero : ∀ n, 0 < n % 256 → (0 : UInt8) ≠ UInt8.ofNat n := by
    intro n hn heq
    have hmod := congrArg UInt8.toNat heq
    rw [UInt8.toNat_ofNat'] at hmod
    exact absurd hmod (Nat.ne_of_lt hn)
  intro hmem
  unfold String.utf8EncodeChar at hmem
  dsimp only at hmem
  split at hmem
  · simp only [List.mem_singleton] at hmem
    exact hzero _ (by omega) hmem
  · split at hmem
    · simp only [List.mem_cons, List.not_mem_nil, or_false] at hmem
      rcases hmem with hmem | hmem <;> exact hzero _ (by omega) hmem
    · split at hmem
      · simp only [List.mem_cons, List.not_mem_nil, or_false] at hmem
        rcases hmem with hmem | hmem | hmem <;> exact hzero _ (by omega) hmem
      · simp only [List.mem_cons, List.not_mem_nil, or_false] at hmem
        rcases hmem with hmem | hmem | hmem | hmem <;> exact hzero _ (by omega) hmem

theorem zero_notMem_utf8 {text : PathText} (h : Char.ofNat 0 ∉ text) : 0 ∉ utf8 text := by
  intro hmem
  obtain ⟨c, hc, hzero⟩ := List.mem_flatMap.mp hmem
  exact zero_notMem_utf8EncodeChar (fun heq => h (heq ▸ hc)) hzero

theorem zero_notMem_path {path : List PathText} (h : ∀ name ∈ path, IsName name) :
    0 ∉ utf8 (pathText path) := by
  apply zero_notMem_utf8
  intro hmem
  rcases Text.mem_intercalate hmem with hslash | ⟨name, hname, hin⟩
  · exact absurd (List.mem_singleton.mp hslash) (by decide)
  · exact (h name hname).2.2.1 hin

theorem pathText_inj {first second : List PathText} (hfirst : first ≠ [])
    (hsecond : second ≠ []) (hnames : ∀ name ∈ first, IsName name)
    (hothers : ∀ name ∈ second, IsName name) (h : pathText first = pathText second) :
    first = second := by
  have hsplit : ∀ path : List PathText, path ≠ [] → (∀ name ∈ path, IsName name) →
      (pathText path).splitOn '/' = path := fun path hne hpath =>
    List.splitOn_intercalate '/' (fun name hname => (hpath name hname).2.1) hne
  rw [← hsplit first hfirst hnames, h, hsplit second hsecond hothers]

-- The path at the front can be read back, and with it what comes behind its zero byte.
theorem framed_head_inj {first second : List PathText} {after later : Bytes}
    (hfirst : first ≠ []) (hsecond : second ≠ []) (hnames : ∀ name ∈ first, IsName name)
    (hothers : ∀ name ∈ second, IsName name)
    (h : utf8 (pathText first) ++ 0 :: after = utf8 (pathText second) ++ 0 :: later) :
    first = second ∧ after = later := by
  obtain ⟨hpath, hrest⟩ :=
    Text.append_cons_inj (zero_notMem_path hnames) (zero_notMem_path hothers) h
  exact ⟨pathText_inj hfirst hsecond hnames hothers (utf8_injective hpath), hrest⟩

theorem framed_cons (contents : List PathText → Bytes) (path : List PathText)
    (rest : List (List PathText)) :
    framed contents (path :: rest) =
      utf8 (pathText path) ++ 0 :: (contents path ++ framed contents rest) := by
  simp only [framed, List.flatMap_cons, List.append_assoc, List.cons_append]

theorem framed_ne_nil (contents : List PathText → Bytes) (path : List PathText)
    (rest : List (List PathText)) : framed contents (path :: rest) ≠ [] := by
  rw [framed_cons]
  exact List.append_ne_nil_of_right_ne_nil _ (List.cons_ne_nil _ _)

theorem framed_congr {contents others : List PathText → Bytes} {paths : List (List PathText)}
    (h : ∀ path ∈ paths, contents path = others path) :
    framed contents paths = framed others paths := by
  induction paths with
  | nil => rfl
  | cons path rest ih =>
    rw [framed_cons, framed_cons, h path List.mem_cons_self,
      ih fun later hlater => h later (List.mem_cons_of_mem _ hlater)]

-- When it is known what each file has, the bytes say in which order the files came.
theorem framed_inj {contents : List PathText → Bytes} {first second : List (List PathText)}
    (hfirst : ∀ path ∈ first, path ≠ [] ∧ ∀ name ∈ path, IsName name)
    (hsecond : ∀ path ∈ second, path ≠ [] ∧ ∀ name ∈ path, IsName name)
    (h : framed contents first = framed contents second) : first = second := by
  induction first generalizing second with
  | nil =>
    cases second with
    | nil => rfl
    | cons other later => exact absurd h.symm (framed_ne_nil _ _ _)
  | cons path rest ih =>
    cases second with
    | nil => exact absurd h (framed_ne_nil _ _ _)
    | cons other later =>
      obtain ⟨hpath, hrest⟩ := List.forall_mem_cons.mp hfirst
      obtain ⟨hother, hlater⟩ := List.forall_mem_cons.mp hsecond
      rw [framed_cons, framed_cons] at h
      obtain ⟨rfl, hafter⟩ := framed_head_inj hpath.1 hother.1 hpath.2 hother.2 h
      rw [ih hrest hlater (List.append_cancel_left hafter)]

end Encoding

section Trees

variable {entries : List DirEntry}

variable {path : List PathText}

theorem readFile_of_mem (hsound : IsDirectory entries) {contents : Bytes}
    (hmem : (path, contents) ∈ FileTrees.filesOf [] entries) :
    readFile entries path = contents := by
  have hunique := List.inj_on_of_nodup_map (FileTrees.nodup_paths hsound)
  have hsome : ((FileTrees.filesOf [] entries).find? fun file => file.1 = path).isSome :=
    List.find?_isSome.mpr ⟨(path, contents), hmem, decide_eq_true rfl⟩
  obtain ⟨file, hfile⟩ := Option.isSome_iff_exists.mp hsome
  have hfound := List.find?_some hfile
  have hpath : file.1 = path := of_decide_eq_true hfound
  have heq : file = (path, contents) := hunique (List.mem_of_find?_eq_some hfile) hmem hpath
  rw [readFile, hfile, heq]
  rfl

theorem readFile_of_sameTree {other : List DirEntry} (hsound : IsDirectory entries)
    (hother : IsDirectory other) (h : FileTrees.SameTree other entries)
    (hmem : path ∈ (FileTrees.filesOf [] entries).map Prod.fst) :
    readFile other path = readFile entries path := by
  obtain ⟨⟨_, contents⟩, hfile, rfl⟩ := List.mem_map.mp hmem
  rw [readFile_of_mem hsound hfile, readFile_of_mem hother (h.mem_iff.mpr hfile)]

variable {localeCompare : PathText → PathText → Int}

theorem sorts_of_collates (h : Collates localeCompare) :
    FileTrees.Sorts (sortsBefore localeCompare) where
  trans a b c hab hbc :=
    decide_eq_true (h.trans _ _ _ (of_decide_eq_true hab) (of_decide_eq_true hbc))
  total a b := by
    rw [Bool.or_eq_true]
    exact (h.total _ _).imp decide_eq_true decide_eq_true

theorem mem_listFiles :
    path ∈ listFiles localeCompare entries ↔ path ∈ (FileTrees.filesOf [] entries).map Prod.fst :=
  (FileTrees.listFiles_perm entries).mem_iff

theorem isPath_of_listed (hsound : IsDirectory entries) :
    ∀ path ∈ listFiles localeCompare entries, path ≠ [] ∧ ∀ name ∈ path, IsName name := by
  intro path hpath
  obtain ⟨file, hfile, rfl⟩ := List.mem_map.mp (mem_listFiles.mp hpath)
  exact FileTrees.isName_of_mem hsound hfile

theorem beside_listFiles (hsound : IsDirectory entries) :
    (listFiles localeCompare entries).Pairwise FileTrees.Beside := by
  refine ((FileTrees.listFiles_perm entries).pairwise_iff FileTrees.Beside.symm).mpr ?_
  exact List.pairwise_map.mpr (FileTrees.pairwise_filesOf entries [] hsound)

theorem length_listFiles :
    (listFiles localeCompare entries).length = (FileTrees.filesOf [] entries).length :=
  (FileTrees.listFiles_perm entries).length_eq.trans (List.length_map _)

theorem hashInput_of_nil (h : FileTrees.filesOf [] entries = []) :
    hashInput localeCompare entries = [] := by
  have hlist : listFiles localeCompare entries = [] := by
    rw [← List.length_eq_zero_iff, length_listFiles, h]
    rfl
  rw [hashInput, hlist]
  rfl

theorem hashInput_of_single (hsound : IsDirectory entries) {contents : Bytes}
    (h : FileTrees.filesOf [] entries = [(path, contents)]) :
    hashInput localeCompare entries = utf8 (pathText path) ++ 0 :: contents := by
  have hlist : listFiles localeCompare entries = [path] := by
    rw [← List.perm_singleton]
    have hperm : (listFiles localeCompare entries).Perm _ := FileTrees.listFiles_perm entries
    rw [h] at hperm
    exact hperm
  have hread : readFile entries path = contents :=
    readFile_of_mem hsound (h ▸ List.mem_cons_self)
  rw [hashInput, hlist, framed_cons, hread]
  exact congrArg (fun rest => utf8 (pathText path) ++ 0 :: rest) (List.append_nil _)

theorem hashInput_of_pair (hcompare : Collates localeCompare) (hsound : IsDirectory entries)
    {first second : List PathText} {before after : Bytes}
    (h : FileTrees.filesOf [] entries = [(first, before), (second, after)])
    (hsorts : sortsBefore localeCompare first second = true) :
    hashInput localeCompare entries =
      utf8 (pathText first) ++ 0 :: (before ++ (utf8 (pathText second) ++ 0 :: after)) := by
  have hlist : listFiles localeCompare entries = [first, second] := by
    have hpair : [first, second].Sublist ((FileTrees.filesOf [] entries).map Prod.fst) := by
      rw [h]
      exact List.Sublist.refl _
    refine ((FileTrees.listFiles_pair (sorts_of_collates hcompare) hsorts hpair).eq_of_length
      ?_).symm
    exact (length_listFiles.trans (congrArg List.length h)).symm
  have hfirst : readFile entries first = before :=
    readFile_of_mem hsound (h ▸ List.mem_cons_self)
  have hsecond : readFile entries second = after :=
    readFile_of_mem hsound (h ▸ List.mem_cons_of_mem _ List.mem_cons_self)
  rw [hashInput, hlist, framed_cons, framed_cons, hfirst, hsecond]
  exact congrArg (fun rest => utf8 (pathText first) ++
    0 :: (before ++ (utf8 (pathText second) ++ 0 :: rest))) (List.append_nil _)

end Trees

section Identity

variable {entries : List DirEntry} {localeCompare : PathText → PathText → Int}

theorem identified_of_nil (h : FileTrees.filesOf [] entries = []) :
    Identified localeCompare entries := by
  intro other _ hinput
  rw [hashInput_of_nil h] at hinput
  have hlist : listFiles localeCompare other = [] := by
    cases hfiles : listFiles localeCompare other with
    | nil => rfl
    | cons path rest =>
      rw [hashInput, hfiles] at hinput
      exact absurd hinput (framed_ne_nil _ _ _)
  have hnone : FileTrees.filesOf [] other = [] := by
    rw [← List.length_eq_zero_iff, ← @length_listFiles other localeCompare, hlist]
    rfl
  rw [FileTrees.SameTree, hnone, h]

-- Other bytes than those of one file begin with its path as well, and what follows
-- the contents of that file would be another path in these contents.
theorem identified_of_single (hcompare : Collates localeCompare) (hsound : IsDirectory entries)
    {path : List PathText} {contents : Bytes}
    (h : FileTrees.filesOf [] entries = [(path, contents)])
    (halone : ∀ other before after, (∀ name ∈ other, IsName name) →
      FileTrees.Beside path other → sortsBefore localeCompare path other = true →
        contents ≠ before ++ (utf8 (pathText other) ++ 0 :: after)) :
    Identified localeCompare entries := by
  intro other hother hinput
  rw [hashInput_of_single hsound h, hashInput] at hinput
  have hpath := FileTrees.isName_of_mem hsound (h ▸ List.mem_cons_self)
  have hpaths := @isPath_of_listed other localeCompare hother
  have hbeside := @beside_listFiles other localeCompare hother
  have hsorted : (listFiles localeCompare other).Pairwise
      fun first second => sortsBefore localeCompare first second = true :=
    FileTrees.pairwise_listFiles (sorts_of_collates hcompare) other
  have hperm : (listFiles localeCompare other).Perm _ := FileTrees.listFiles_perm other
  cases hfiles : listFiles localeCompare other with
  | nil =>
    rw [hfiles] at hinput
    exact absurd hinput.symm (List.append_ne_nil_of_right_ne_nil _ (List.cons_ne_nil _ _))
  | cons first rest =>
    rw [hfiles] at hinput hpaths hbeside hsorted hperm
    rw [framed_cons] at hinput
    have hfirst := hpaths first List.mem_cons_self
    obtain ⟨rfl, hcontents⟩ := framed_head_inj hfirst.1 hpath.1 hfirst.2 hpath.2 hinput
    cases rest with
    | nil =>
      obtain ⟨file, hfile, hname⟩ := List.map_eq_singleton_iff.mp hperm.symm.eq_singleton
      have hread : readFile other file.1 = file.2 :=
        readFile_of_mem hother (hfile ▸ List.mem_cons_self)
      rw [hname] at hread
      rw [FileTrees.SameTree, hfile, h, ← hname, ← hcontents, hread]
      rw [framed, List.flatMap_nil, List.append_nil]
    | cons second more =>
      have hsecond := hpaths second (List.mem_cons_of_mem _ List.mem_cons_self)
      rw [framed_cons] at hcontents
      exact absurd hcontents.symm (halone second _ _ hsecond.2
        (List.rel_of_pairwise_cons hbeside List.mem_cons_self)
        (List.rel_of_pairwise_cons hsorted List.mem_cons_self))

-- The bytes of any tree are also those of its first path with all the rest as contents;
-- and contents with another path in them are those of two files.
theorem standsAlone_of_identified (hcompare : Collates localeCompare)
    (hsound : IsDirectory entries) (h : Identified localeCompare entries) :
    StandsAlone localeCompare entries := by
  cases hfiles : listFiles localeCompare entries with
  | nil =>
    left
    rw [← List.length_eq_zero_iff, ← @length_listFiles entries localeCompare, hfiles]
    rfl
  | cons path rest =>
    right
    have hpath := isPath_of_listed hsound path (hfiles ▸ List.mem_cons_self)
    obtain ⟨name, below, rfl⟩ := List.exists_cons_of_ne_nil hpath.1
    obtain ⟨body, hinput⟩ : ∃ body, hashInput localeCompare entries =
        utf8 (pathText (name :: below)) ++ 0 :: body :=
      ⟨_, by rw [hashInput, hfiles, framed_cons]⟩
    have hone := FileTrees.files_chain name body below []
    rw [← FileTrees.filesOf_singleton] at hone
    have hchain : IsDirectory [FileTrees.chain name body below] :=
      ⟨FileTrees.sound_chain _ hpath.2, List.not_mem_nil, trivial⟩
    have hsame := h _ hchain ((hashInput_of_single hchain hone).trans hinput.symm)
    rw [FileTrees.SameTree, hone] at hsame
    refine ⟨name :: below, _, hsame.symm.eq_singleton, ?_⟩
    intro other before after hnames hbeside hsorts hcontents
    have htwo := FileTrees.filesOf_pairOf before after hbeside []
    have hpair : IsDirectory (FileTrees.pairOf before after (name :: below) other) :=
      FileTrees.sound_pairOf before after hpath.2 hnames
    have hsecond := h _ hpair
      ((hashInput_of_pair hcompare hpair htwo hsorts).trans (by rw [hinput, hcontents]; rfl))
    have hlength := (hsecond.trans hsame.symm).length_eq
    rw [htwo] at hlength
    exact absurd hlength (Nat.succ_ne_self 1)

theorem identified_iff (hcompare : Collates localeCompare) (hsound : IsDirectory entries) :
    Identified localeCompare entries ↔ StandsAlone localeCompare entries := by
  constructor
  · exact standsAlone_of_identified hcompare hsound
  · rintro (hnone | ⟨path, contents, hone, halone⟩)
    · exact identified_of_nil hnone
    · exact identified_of_single hcompare hsound hone halone

end Identity

section Order

variable {entries : List DirEntry} {localeCompare : PathText → PathText → Int}

theorem listFiles_of_sameTree (hcompare : Collates localeCompare) {other : List DirEntry}
    (h : FileTrees.SameTree other entries) (hties : NoTies localeCompare entries) :
    listFiles localeCompare other = listFiles localeCompare entries := by
  have hsorts := sorts_of_collates hcompare
  have hperm : (listFiles localeCompare other).Perm (listFiles localeCompare entries) :=
    (FileTrees.listFiles_perm other).trans
      ((h.map Prod.fst).trans (FileTrees.listFiles_perm entries).symm)
  refine List.Perm.eq_of_pairwise ?_ (FileTrees.pairwise_listFiles hsorts other)
    (FileTrees.pairwise_listFiles hsorts entries) hperm
  intro first second hfirst hsecond hle hge
  obtain ⟨file, hfile, rfl⟩ := List.mem_map.mp (mem_listFiles.mp (hperm.mem_iff.mp hfirst))
  obtain ⟨later, hlater, rfl⟩ := List.mem_map.mp (mem_listFiles.mp hsecond)
  exact hties file hfile later hlater hle hge

theorem orderFree_of_noTies (hcompare : Collates localeCompare) (hsound : IsDirectory entries)
    (h : NoTies localeCompare entries) : OrderFree localeCompare entries := by
  intro other hother hsame
  rw [hashInput, hashInput, listFiles_of_sameTree hcompare hsame h]
  exact framed_congr fun path hpath =>
    readFile_of_sameTree hsound hother hsame (mem_listFiles.mp hpath)

-- Paths that tie stand as they are found, and the other way round in the tree that is
-- found the other way round.
theorem not_orderFree_of_tie (hcompare : Collates localeCompare) (hsound : IsDirectory entries)
    {first second : List PathText} (hle : sortsBefore localeCompare first second = true)
    (hge : sortsBefore localeCompare second first = true)
    (hpair : [first, second].Sublist ((FileTrees.filesOf [] entries).map Prod.fst)) :
    ¬OrderFree localeCompare entries := by
  intro h
  have hsorts := sorts_of_collates hcompare
  have hreversed := FileTrees.filesOf_reversed entries []
  have hother : IsDirectory (FileTrees.reversedOf entries) :=
    FileTrees.sound_reversedOf entries hsound
  have hsame : FileTrees.SameTree (FileTrees.reversedOf entries) entries := by
    rw [FileTrees.SameTree, hreversed]
    exact List.reverse_perm _
  have hback : [second, first].Sublist
      ((FileTrees.filesOf [] (FileTrees.reversedOf entries)).map Prod.fst) := by
    rw [hreversed, List.map_reverse]
    exact List.reverse_sublist.mpr hpair
  have hinput := h _ hother hsame
  have hread : framed (readFile (FileTrees.reversedOf entries))
      (listFiles localeCompare (FileTrees.reversedOf entries)) =
        framed (readFile entries) (listFiles localeCompare (FileTrees.reversedOf entries)) := by
    refine framed_congr fun path hpath => readFile_of_sameTree hsound hother hsame ?_
    exact (hsame.map Prod.fst).mem_iff.mp (mem_listFiles.mp hpath)
  rw [hashInput, hread, hashInput] at hinput
  have hlists := framed_inj (isPath_of_listed hother) (isPath_of_listed hsound) hinput
  have hnodup : (listFiles localeCompare entries).Nodup :=
    (FileTrees.listFiles_perm entries).nodup_iff.mpr (FileTrees.nodup_paths hsound)
  refine FileTrees.not_pair_sublist_of_nodup hnodup
    (FileTrees.listFiles_pair hsorts hle hpair) ?_
  rw [← hlists]
  exact FileTrees.listFiles_pair hsorts hge hback

theorem orderFree_iff (hcompare : Collates localeCompare) (hsound : IsDirectory entries) :
    OrderFree localeCompare entries ↔ NoTies localeCompare entries := by
  constructor
  · intro h first hfirst second hsecond hle hge
    by_contra hne
    have hmem := List.mem_map_of_mem (f := Prod.fst) hfirst
    have hmem' := List.mem_map_of_mem (f := Prod.fst) hsecond
    rcases FileTrees.pair_sublist_of_mem hmem hmem' hne with hpair | hpair
    · exact not_orderFree_of_tie hcompare hsound hle hge hpair h
    · exact not_orderFree_of_tie hcompare hsound hge hle hpair h
  · exact orderFree_of_noTies hcompare hsound

end Order

theorem hashDirectory_iff {localeCompare : PathText → PathText → Int}
    (hcompare : Collates localeCompare) {entries : List DirEntry} (hsound : IsDirectory entries) :
    (Identified localeCompare entries ↔ StandsAlone localeCompare entries) ∧
      (OrderFree localeCompare entries ↔ NoTies localeCompare entries) :=
  ⟨identified_iff hcompare hsound, orderFree_iff hcompare hsound⟩

def byFirstLetter (first second : PathText) : Int :=
  (first.headD 'a').toNat - (second.headD 'a').toNat

theorem collates_byFirstLetter : Collates byFirstLetter where
  trans first second third hfirst hsecond := by
    unfold byFirstLetter at hfirst hsecond ⊢
    omega
  total first second := by
    unfold byFirstLetter
    omega

def oneFile : List DirEntry := [.file ['a'] [98, 0, 99]]

def twoFiles : List DirEntry := [.file ['a'] [], .file ['b'] [99]]

theorem isDirectory_oneFile : IsDirectory oneFile :=
  ⟨show IsName ['a'] by decide, by decide, trivial⟩

theorem isDirectory_twoFiles : IsDirectory twoFiles :=
  ⟨show IsName ['a'] by decide, by decide, show IsName ['b'] by decide, by decide, trivial⟩

theorem hashDirectory_iff_twoFiles :
    (Identified byFirstLetter twoFiles ↔ StandsAlone byFirstLetter twoFiles) ∧
      (OrderFree byFirstLetter twoFiles ↔ NoTies byFirstLetter twoFiles) :=
  hashDirectory_iff collates_byFirstLetter isDirectory_twoFiles

theorem hashDirectory_not_identified :
    IsDirectory oneFile ∧ IsDirectory twoFiles ∧
      hashInput byFirstLetter oneFile = hashInput byFirstLetter twoFiles ∧
        ¬FileTrees.SameTree oneFile twoFiles := by
  refine ⟨isDirectory_oneFile, isDirectory_twoFiles, ?_, fun hsame => ?_⟩
  · rw [hashInput_of_single isDirectory_oneFile rfl,
      hashInput_of_pair collates_byFirstLetter isDirectory_twoFiles rfl (by decide)]
    decide
  · exact absurd hsame.length_eq (by decide)

end WebSsh2.Release
