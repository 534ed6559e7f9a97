import WebSsh2.Decimal
import WebSsh2.Library.OrderedMap
import Mathlib.Data.List.TakeWhile

namespace WebSsh2.HostKey

open WebSsh2.Library

def defaultPort : Nat := 22

-- Ports are exact: a number is rounded from 2^53 on only, far above every port.
structure KnownHostEntry where
  host : JsString
  port : Nat
  algorithm : JsString
  key : JsString
deriving DecidableEq

section Parsing

-- `/^\[([^\]]+)\]:(\d+)$/`, with what the two groups match.
def bracketMatch (hostname : JsString) : Option (JsString × JsString) :=
  match hostname with
  | 91 :: rest =>
    let host := rest.takeWhile (· ≠ 93)
    match rest.dropWhile (· ≠ 93) with
    | 93 :: 58 :: digits =>
      if host ≠ [] ∧ digits ≠ [] ∧ digits.all isDigit then some (host, digits) else none
    | _ => none
  | _ => none

def parseHostname (algorithm key hostname : JsString) : Option KnownHostEntry :=
  if hostname = [] then
    none
  else if hostname.head? = some 124 then
    none
  else
    match bracketMatch hostname with
    | none => some { host := hostname, port := defaultPort, algorithm, key }
    | some (host, digits) => some { host, port := digitsValue digits, algorithm, key }

def parseKnownHostLine (line : JsString) : List KnownHostEntry :=
  match splitWhiteSpace line with
  | hostnameField :: algorithm :: key :: _ =>
    if hostnameField = [] ∨ algorithm = [] ∨ key = [] then
      []
    else
      (hostnameField.splitOn 44).filterMap (parseHostname algorithm key)
  | _ => []

def parseKnownHosts (content : JsString) : List KnownHostEntry :=
  (content.splitOn 10).flatMap fun rawLine =>
    let line := trim rawLine
    if line = [] ∨ line.head? = some 35 then [] else parseKnownHostLine line

end Parsing

section Store

-- The primary key of the table.
structure HostKeyId where
  host : JsString
  port : Nat
  algorithm : JsString
deriving DecidableEq

structure HostKeyRow where
  key : JsString
  comment : Option JsString
deriving DecidableEq

abbrev HostKeyTable := OrderedMap HostKeyId HostKeyRow

-- `INSERT OR REPLACE`
def upsertKey (db : HostKeyTable) (host : JsString) (port : Nat) (algorithm key : JsString)
    (comment : Option JsString) : HostKeyTable :=
  db.set { host, port, algorithm } { key, comment }

inductive KnownHostsReport where
  | fileNotFound
  | noValidEntries
  | dryRun (count : Nat)
  | imported (count : Nat)
deriving DecidableEq

-- The command `--known-hosts`; `content` is what the file holds, if there is one.
def handleKnownHosts (db : HostKeyTable) (content : Option JsString) (commit : Bool) :
    HostKeyTable × KnownHostsReport :=
  match content with
  | none => (db, .fileNotFound)
  | some content =>
    let entries := parseKnownHosts content
    if entries.length = 0 then
      (db, .noValidEntries)
    else if !commit then
      (db, .dryRun entries.length)
    else
      (entries.foldl (fun db entry =>
          upsertKey db entry.host entry.port entry.algorithm entry.key none) db,
        .imported entries.length)

inductive LookupStatus where
  | trusted | mismatch | unknown
deriving DecidableEq

structure HostKeyLookupResult where
  status : LookupStatus
  storedKey : Option JsString := none
deriving DecidableEq

-- The table, unless there is no database.
structure HostKeyStore where
  db : Option HostKeyTable

def HostKeyStore.lookup (store : HostKeyStore) (host : JsString) (port : Nat)
    (algorithm : JsString) (presentedKey : Option JsString) : HostKeyLookupResult :=
  match store.db with
  | none => { status := .unknown }
  | some db =>
    match db.get { host, port, algorithm } with
    | none => { status := .unknown }
    | some row =>
      match presentedKey with
      | none => { status := .trusted, storedKey := some row.key }
      | some presentedKey =>
        if row.key = presentedKey then
          { status := .trusted, storedKey := some row.key }
        else
          { status := .mismatch, storedKey := some row.key }

-- The store that the server opens after a file was imported into an empty one.
def importedStore (content : JsString) : HostKeyStore where
  db := some (handleKnownHosts .empty (some content) true).1

end Store

section Listings

-- One pattern of the host list of a line, with the key of the line. A line whose
-- first field is a marker has the marker as its list.
structure Listing where
  marked : Bool
  pattern : JsString
  algorithm : JsString
  key : JsString
deriving DecidableEq

def lineListings (line : JsString) : List Listing :=
  match splitWhiteSpace line with
  | hosts :: algorithm :: key :: _ =>
    if hosts = [] ∨ algorithm = [] ∨ key = [] then
      []
    else
      (hosts.splitOn 44).map fun pattern =>
        { marked := hosts.head? = some 64, pattern, algorithm, key }
  | _ => []

-- The listings of a file, in order; a line that starts with `#` is a comment.
def listings (content : JsString) : List Listing :=
  (content.splitOn 10).flatMap fun rawLine =>
    let line := trim rawLine
    if line = [] ∨ line.head? = some 35 then [] else lineListings line

namespace Listing

def hashed (listing : Listing) : Bool :=
  listing.pattern.head? = some 124

def negated (listing : Listing) : Bool :=
  listing.pattern.head? = some 33

end Listing

-- The pattern of a host with its port.
def bracketed (host digits : JsString) : JsString :=
  91 :: (host ++ 93 :: 58 :: digits)

-- A line without a marker lists the host and port, spelled exactly, with a key of
-- this type.
def ListsExactly (content host : JsString) (port : Nat) (algorithm key : JsString) : Prop :=
  ∃ listing ∈ listings content,
    listing.marked = false ∧ listing.hashed = false ∧ listing.negated = false ∧
    (port = defaultPort ∧ listing.pattern = host ∨
      listing.pattern = bracketed host (decimal port)) ∧
    listing.algorithm = algorithm ∧ listing.key = key

-- What a pattern names: the host and port in brackets, or itself at the default port.
inductive Names : JsString → JsString → Nat → Prop where
  | bracketed {host digits : JsString} {port : Nat} (hhost : host ≠ []) (hplain : 93 ∉ host)
      (hdigits : digits ≠ []) (hall : digits.all isDigit = true)
      (hport : digitsValue digits = port) : Names (bracketed host digits) host port
  | plain {host : JsString} {port : Nat} (hhost : host ≠ []) (hbracket : bracketMatch host = none)
      (hport : port = defaultPort) : Names host host port

-- A listing as a file means it.
structure Lists (listing : Listing) (host : JsString) (port : Nat) (algorithm : JsString) :
    Prop where
  unmarked : listing.marked = false
  unhashed : listing.hashed = false
  unnegated : listing.negated = false
  names : Names listing.pattern host port
  algorithm : listing.algorithm = algorithm

end Listings

section Patterns

theorem bracketMatch_eq_some_iff {hostname host digits : JsString} :
    bracketMatch hostname = some (host, digits) ↔
      hostname = bracketed host digits ∧ host ≠ [] ∧ 93 ∉ host ∧ digits ≠ [] ∧
        digits.all isDigit = true := by
  constructor
  · intro h
    unfold bracketMatch at h
    split at h
    · rename_i rest
      dsimp only at h
      split at h
      · rename_i hdrop
        split at h
        · rename_i hparts
          obtain ⟨hhost, hdigits, hall⟩ := hparts
          cases h
          have hplain : 93 ∉ rest.takeWhile (· ≠ 93) := by
            intro hmem
            simpa using List.mem_takeWhile_imp hmem
          have hrest : rest = rest.takeWhile (· ≠ 93) ++ 93 :: 58 :: digits := by
            rw [← hdrop]
            exact List.takeWhile_append_dropWhile.symm
          exact ⟨congrArg (91 :: ·) hrest, hhost, hplain, hdigits, hall⟩
        · cases h
      · cases h
    · cases h
  · rintro ⟨rfl, hhost, hplain, hdigits, hall⟩
    have hkeep : ∀ unit ∈ host, decide (unit ≠ 93) = true := fun unit hunit => by
      rw [decide_eq_true_eq]
      rintro rfl
      exact hplain hunit
    have htake : (host ++ 93 :: 58 :: digits).takeWhile (· ≠ 93) = host := by
      rw [List.takeWhile_append_of_pos hkeep]
      simp
    have hdrop : (host ++ 93 :: 58 :: digits).dropWhile (· ≠ 93) = 93 :: 58 :: digits := by
      rw [List.dropWhile_append_of_pos hkeep]
      simp
    simp only [bracketMatch, bracketed, htake, hdrop]
    rw [if_pos ⟨hhost, hdigits, hall⟩]

theorem parseHostname_of_names {algorithm key hostname host : JsString} {port : Nat}
    (hhashed : hostname.head? ≠ some 124) (hnames : Names hostname host port) :
    parseHostname algorithm key hostname = some ⟨host, port, algorithm, key⟩ := by
  unfold parseHostname
  cases hnames with
  | @bracketed _ digits _ hhost hplain hdigits hall hport =>
    have hne : bracketed host digits ≠ [] := List.cons_ne_nil _ _
    rw [if_neg hne, if_neg hhashed,
      bracketMatch_eq_some_iff.mpr ⟨rfl, hhost, hplain, hdigits, hall⟩, ← hport]
  | plain hhost hbracket hport =>
    rw [if_neg hhost, if_neg hhashed, hbracket, hport]

theorem parseHostname_eq_some {algorithm key hostname : JsString} {entry : KnownHostEntry}
    (h : parseHostname algorithm key hostname = some entry) :
    hostname.head? ≠ some 124 ∧ Names hostname entry.host entry.port ∧
      entry.algorithm = algorithm ∧ entry.key = key := by
  unfold parseHostname at h
  split at h
  · cases h
  · rename_i hne
    split at h
    · cases h
    · rename_i hhashed
      split at h
      · rename_i hbracket
        cases h
        exact ⟨hhashed, .plain hne hbracket rfl, rfl, rfl⟩
      · rename_i host digits hbracket
        cases h
        obtain ⟨rfl, hhost, hplain, hdigits, hall⟩ := bracketMatch_eq_some_iff.mp hbracket
        exact ⟨hhashed, .bracketed hhost hplain hdigits hall rfl, rfl, rfl⟩

end Patterns

section Imports

theorem parseKnownHostLine_eq (line : JsString) :
    parseKnownHostLine line = (lineListings line).filterMap fun listing =>
      parseHostname listing.algorithm listing.key listing.pattern := by
  unfold parseKnownHostLine lineListings
  split
  · split
    · rfl
    · rw [List.filterMap_map]
      rfl
  · rfl

theorem parseKnownHosts_eq (content : JsString) :
    parseKnownHosts content = (listings content).filterMap fun listing =>
      parseHostname listing.algorithm listing.key listing.pattern := by
  unfold parseKnownHosts listings
  rw [List.filterMap_flatMap]
  apply List.flatMap_congr
  intro rawLine _
  dsimp only
  split
  · rfl
  · exact parseKnownHostLine_eq (trim rawLine)

theorem importedStore_db (content : JsString) :
    (importedStore content).db = some ((parseKnownHosts content).foldl (fun db entry =>
      db.set ⟨entry.host, entry.port, entry.algorithm⟩ ⟨entry.key, none⟩) .empty) := by
  unfold importedStore handleKnownHosts
  dsimp only
  split
  · rename_i hlength
    rw [List.length_eq_zero_iff.mp hlength]
    rfl
  · rfl

theorem lookup_trusted_iff {store : HostKeyStore} {db : HostKeyTable} (hdb : store.db = some db)
    (host : JsString) (port : Nat) (algorithm key : JsString) :
    (store.lookup host port algorithm (some key)).status = .trusted ↔
      ∃ row, db.get ⟨host, port, algorithm⟩ = some row ∧ row.key = key := by
  unfold HostKeyStore.lookup
  rw [hdb]
  dsimp only
  split
  · rename_i hnone
    simp [hnone]
  · rename_i row hrow
    rw [hrow]
    by_cases hkey : row.key = key
    · simp [hkey]
    · simp [hkey]

def KnownHostEntry.id (entry : KnownHostEntry) : HostKeyId :=
  ⟨entry.host, entry.port, entry.algorithm⟩

def Listing.entry (listing : Listing) : Option KnownHostEntry :=
  parseHostname listing.algorithm listing.key listing.pattern

theorem entry_eq_some {listing : Listing} {entry : KnownHostEntry}
    (h : listing.entry = some entry) :
    listing.hashed = false ∧ Names listing.pattern entry.host entry.port ∧
      entry.algorithm = listing.algorithm ∧ entry.key = listing.key := by
  obtain ⟨hhashed, hrest⟩ := parseHostname_eq_some h
  exact ⟨decide_eq_false hhashed, hrest⟩

-- The listings that end up in the row of one host, port and type.
theorem entry_any_iff (listing : Listing) (host : JsString) (port : Nat) (algorithm : JsString) :
    (listing.entry.any fun entry => decide (entry.id = ⟨host, port, algorithm⟩)) = true ↔
      listing.hashed = false ∧ Names listing.pattern host port ∧
        listing.algorithm = algorithm := by
  constructor
  · intro h
    cases hentry : listing.entry with
    | none =>
      rw [hentry] at h
      cases h
    | some entry =>
      rw [hentry, Option.any_some, decide_eq_true_eq] at h
      obtain ⟨hhashed, hnames, halgorithm, -⟩ := entry_eq_some hentry
      cases h
      exact ⟨hhashed, hnames, halgorithm.symm⟩
  · rintro ⟨hhashed, hnames, rfl⟩
    have hentry : listing.entry = some ⟨host, port, listing.algorithm, listing.key⟩ :=
      parseHostname_of_names (of_decide_eq_false hhashed) hnames
    rw [hentry, Option.any_some, decide_eq_true_eq]
    rfl

-- The row of a host, port and type comes from the last listing that is read as such.
theorem imported_trusted_iff (content host : JsString) (port : Nat) (algorithm key : JsString) :
    ((importedStore content).lookup host port algorithm (some key)).status = .trusted ↔
      ∃ listing, ((listings content).reverse.find? fun listing =>
          listing.entry.any fun entry => decide (entry.id = ⟨host, port, algorithm⟩)) =
        some listing ∧ listing.key = key := by
  rw [lookup_trusted_iff (importedStore_db content)]
  have hget := OrderedMap.get_foldl_set KnownHostEntry.id
    (fun entry => (⟨entry.key, none⟩ : HostKeyRow)) (parseKnownHosts content)
    ⟨host, port, algorithm⟩
  rw [parseKnownHosts_eq, ← List.filterMap_reverse, List.find?_filterMap] at hget
  constructor
  · rintro ⟨row, hrow, rfl⟩
    rw [parseKnownHosts_eq] at hrow
    obtain ⟨entry, hentry, rfl⟩ := Option.map_eq_some_iff.mp (hget.symm.trans hrow)
    obtain ⟨listing, hfind, hparse⟩ := Option.bind_eq_some_iff.mp hentry
    exact ⟨listing, hfind, (entry_eq_some hparse).2.2.2.symm⟩
  · rintro ⟨listing, hfind, rfl⟩
    have hany := List.find?_some hfind
    obtain ⟨hhashed, hnames, rfl⟩ := (entry_any_iff listing host port algorithm).mp hany
    have hentry : listing.entry = some ⟨host, port, listing.algorithm, listing.key⟩ :=
      parseHostname_of_names (of_decide_eq_false hhashed) hnames
    refine ⟨⟨listing.key, none⟩, ?_, rfl⟩
    rw [parseKnownHosts_eq]
    refine hget.trans ?_
    rw [Option.map_eq_some_iff]
    exact ⟨_, Option.bind_eq_some_iff.mpr ⟨listing, hfind, hentry⟩, rfl⟩

-- No line with a marker and no negated pattern leaves a row for the host, port and type.
def NothingStray (content host : JsString) (port : Nat) (algorithm : JsString) : Prop :=
  ∀ listing ∈ listings content, listing.marked = true ∨ listing.negated = true →
    ¬ (Names listing.pattern host port ∧ listing.algorithm = algorithm)

theorem lists_iff {content host algorithm : JsString} {port : Nat} {listing : Listing}
    (hstray : NothingStray content host port algorithm) (hmem : listing ∈ listings content) :
    Lists listing host port algorithm ↔
      listing.hashed = false ∧ Names listing.pattern host port ∧
        listing.algorithm = algorithm := by
  constructor
  · intro h
    exact ⟨h.unhashed, h.names, h.algorithm⟩
  · rintro ⟨hhashed, hnames, halgorithm⟩
    have hproper : ¬ (listing.marked = true ∨ listing.negated = true) := fun h =>
      hstray listing hmem h ⟨hnames, halgorithm⟩
    obtain ⟨hmarked, hnegated⟩ := not_or.mp hproper
    exact ⟨Bool.eq_false_iff.mpr hmarked, hhashed, Bool.eq_false_iff.mpr hnegated, hnames,
      halgorithm⟩

-- For every file: the key that is trusted is the one that is listed last.
theorem trusted_iff_listed_last (content host : JsString) (port : Nat)
    (algorithm key : JsString) (hstray : NothingStray content host port algorithm) :
    ((importedStore content).lookup host port algorithm (some key)).status = .trusted ↔
      ∃ before listing after, listings content = before ++ listing :: after ∧
        Lists listing host port algorithm ∧ listing.key = key ∧
        ∀ later ∈ after, ¬ Lists later host port algorithm := by
  rw [imported_trusted_iff]
  simp only [List.find?_eq_some_iff_append, entry_any_iff]
  constructor
  · rintro ⟨listing, ⟨hread, after, before, hreverse, hlater⟩, hkey⟩
    have hsplit : listings content = before.reverse ++ listing :: after.reverse := by
      rw [← List.reverse_reverse (listings content), hreverse]
      simp
    have hmem : listing ∈ listings content := by
      rw [hsplit]
      simp
    refine ⟨before.reverse, listing, after.reverse, hsplit, (lists_iff hstray hmem).mpr hread,
      hkey, fun later hin hlists => ?_⟩
    have hany := (entry_any_iff later host port algorithm).mpr
      ⟨hlists.unhashed, hlists.names, hlists.algorithm⟩
    have hnot := hlater later (List.mem_reverse.mp hin)
    rw [hany] at hnot
    cases hnot
  · rintro ⟨before, listing, after, hsplit, hlists, hkey, hlater⟩
    refine ⟨listing, ⟨⟨hlists.unhashed, hlists.names, hlists.algorithm⟩, after.reverse,
      before.reverse, by rw [hsplit]; simp, fun later hin => ?_⟩, hkey⟩
    have hafter := List.mem_reverse.mp hin
    have hmem : later ∈ listings content := by
      rw [hsplit]
      simp [hafter]
    rw [Bool.not_eq_true', Bool.eq_false_iff]
    intro hany
    exact hlater later hafter
      ((lists_iff hstray hmem).mpr ((entry_any_iff later host port algorithm).mp hany))

-- Two keys of one type for a host, and a key that was revoked.
def sampleKnownHosts : JsString :=
  js "web ssh-rsa A\n@revoked web ssh-rsa R\n[web]:2222,web ssh-rsa B\n"

theorem sample_trusted :
    NothingStray sampleKnownHosts (js "web") 22 (js "ssh-rsa") ∧
    (((importedStore sampleKnownHosts).lookup (js "web") 22 (js "ssh-rsa")
        (some (js "B"))).status = .trusted ↔
      ∃ before listing after, listings sampleKnownHosts = before ++ listing :: after ∧
        Lists listing (js "web") 22 (js "ssh-rsa") ∧ listing.key = js "B" ∧
        ∀ later ∈ after, ¬ Lists later (js "web") 22 (js "ssh-rsa")) := by
  have hother : ∀ listing ∈ listings sampleKnownHosts,
      listing.marked = true ∨ listing.negated = true → listing.algorithm ≠ js "ssh-rsa" := by
    decide +kernel
  have hstray : NothingStray sampleKnownHosts (js "web") 22 (js "ssh-rsa") :=
    fun listing hmem hodd hread => hother listing hmem hodd hread.2
  exact ⟨hstray, trusted_iff_listed_last _ _ _ _ _ hstray⟩

-- Only one of two keys of one type is kept.
theorem listed_not_trusted :
    ¬ ∀ (content host : JsString) (port : Nat) (algorithm key : JsString),
      ((importedStore content).lookup host port algorithm (some key)).status = .trusted ↔
        ListsExactly content host port algorithm key := by
  intro h
  have hlisted : ListsExactly sampleKnownHosts (js "web") 22 (js "ssh-rsa") (js "A") :=
    ⟨⟨false, js "web", js "ssh-rsa", js "A"⟩, by decide +kernel, rfl, by decide +kernel,
      by decide +kernel, .inl ⟨rfl, rfl⟩, rfl, rfl⟩
  have htrusted := (h sampleKnownHosts (js "web") 22 (js "ssh-rsa") (js "A")).mpr hlisted
  have hmismatch : ((importedStore sampleKnownHosts).lookup (js "web") 22 (js "ssh-rsa")
      (some (js "A"))).status ≠ .trusted := by decide +kernel
  exact hmismatch htrusted

end Imports

end WebSsh2.HostKey
