import WebSsh2.Auth.AuthService
import WebSsh2.Library.Run

namespace WebSsh2.Auth.Isolation

open WebSsh2.Library WebSsh2.Library.Run WebSsh2.State

inductive StoreOperation where
  | createSession (sessionId : SessionId) (now : Time)
  | dispatch (sessionId : SessionId) (action : SessionAction) (now : Time)
  | removeSession (sessionId : SessionId) (now : Time)

-- The store is shared, so other services change it between the calls.
inductive Call where
  | authenticate (credentials : Credentials) (clock : AuthenticateClock)
  | validateSession (sessionId : SessionId) (now : Time)
  | revokeSession (sessionId : SessionId) (now : Time)
  | getSessionInfo (sessionId : SessionId) (now : Time)
  | cleanupExpiredSessions (now : Time)
  | sharedStore (operation : StoreOperation)

structure Login where
  credentials : Credentials
  result : AuthResult

-- The service with two records of its history: the credentials each session
-- was issued for, and the successful logins in order.
structure Served where
  service : AuthServiceImpl
  issuedFor : OrderedMap SessionId Credentials
  logins : List Login

def SameLogin (first second : Credentials) : Prop :=
  first.username = second.username ∧ first.host = second.host ∧ first.port = second.port ∧
    first.password = second.password ∧ first.privateKey = second.privateKey

instance (first second : Credentials) : Decidable (SameLogin first second) :=
  inferInstanceAs (Decidable (_ ∧ _))

def Isolated (logins : List Login) : Prop :=
  ∀ first ∈ logins, ∀ second ∈ logins, first.result.sessionId = second.result.sessionId →
    SameLogin first.credentials second.credentials

instance (logins : List Login) : Decidable (Isolated logins) :=
  inferInstanceAs (Decidable (∀ first ∈ logins, _))

theorem SameLogin.refl (credentials : Credentials) : SameLogin credentials credentials :=
  ⟨rfl, rfl, rfl, rfl, rfl⟩

theorem SameLogin.symm {first second : Credentials} (h : SameLogin first second) :
    SameLogin second first := by
  obtain ⟨huser, hhost, hport, hpassword, hkey⟩ := h
  exact ⟨huser.symm, hhost.symm, hport.symm, hpassword.symm, hkey.symm⟩

theorem SameLogin.trans {first second third : Credentials} (h₁ : SameLogin first second)
    (h₂ : SameLogin second third) : SameLogin first third := by
  obtain ⟨huser, hhost, hport, hpassword, hkey⟩ := h₁
  obtain ⟨huser', hhost', hport', hpassword', hkey'⟩ := h₂
  exact ⟨huser.trans huser', hhost.trans hhost', hport.trans hport',
    hpassword.trans hpassword', hkey.trans hkey'⟩

def applyStore (store : SessionStore) : StoreOperation → SessionStore
  | .createSession sessionId now => store.createSession sessionId now
  | .dispatch sessionId action now => store.dispatch sessionId action now
  | .removeSession sessionId now => store.removeSession sessionId now

def start (sessionTimeout : Option Int) (store : SessionStore) : Served where
  service := .new sessionTimeout store
  issuedFor := .empty
  logins := []

section Runs

variable (randomUUID : Nat → JsString)

variable (served : Served)

def login (credentials : Credentials) (clock : AuthenticateClock) : Served :=
  match served.service.authenticate randomUUID credentials clock with
  | (service, .error _) => { served with service }
  | (service, .ok result) => {
      service
      issuedFor :=
        match served.service.findCachedSession credentials clock.lookup with
        | some _ => served.issuedFor
        | none => served.issuedFor.set result.sessionId credentials
      logins := served.logins ++ [{ credentials, result }] }

def step : Call → Served
  | .authenticate credentials clock => login randomUUID served credentials clock
  | .validateSession sessionId now =>
    { served with service := (served.service.validateSession sessionId now).1 }
  | .revokeSession sessionId now =>
    { served with service := (served.service.revokeSession sessionId now).1 }
  | .getSessionInfo sessionId now =>
    { served with service := (served.service.getSessionInfo sessionId now).1 }
  | .cleanupExpiredSessions now =>
    { served with service := served.service.cleanupExpiredSessions now }
  | .sharedStore operation =>
    { served with service := { served.service with
        store := applyStore served.service.store operation } }

-- A login presents the login that a session was issued for, if the cache has an entry of that
-- username which expires later than now; the session is that of the first such entry.
def HitMatches : Call → Prop
  | .authenticate credentials clock =>
    validateCredentials credentials = none →
      ∀ cached ∈ (served.service.authCache.entries.map Prod.snd).find? fun entry =>
          entry.username = credentials.username ∧ clock.lookup < entry.expiresAt,
        ∀ issued ∈ served.issuedFor.get cached.sessionId, SameLogin credentials issued
  | _ => True

instance (served : Served) : ∀ call, Decidable (HitMatches served call)
  | .authenticate credentials clock =>
    inferInstanceAs (Decidable (validateCredentials credentials = none →
      ∀ cached ∈ (served.service.authCache.entries.map Prod.snd).find? fun entry =>
          entry.username = credentials.username ∧ clock.lookup < entry.expiresAt,
        ∀ issued ∈ served.issuedFor.get cached.sessionId, SameLogin credentials issued))
  | .validateSession _ _ | .revokeSession _ _ | .getSessionInfo _ _
  | .cleanupExpiredSessions _ | .sharedStore _ => inferInstanceAs (Decidable True)

-- What every run keeps, matching or not. Identifiers not drawn yet are not in use.
structure Consistent (served : Served) : Prop where
  cache : ∀ sessionId cached, served.service.authCache.get sessionId = some cached →
    cached.sessionId = sessionId ∧ (served.issuedFor.get sessionId).isSome
  issued : ∀ sessionId credentials, served.issuedFor.get sessionId = some credentials →
    (∃ login ∈ served.logins,
      login.credentials = credentials ∧ login.result.sessionId = sessionId) ∧
    ∃ draw < served.service.draws, randomUUID draw = sessionId
  logins : ∀ login ∈ served.logins, (served.issuedFor.get login.result.sessionId).isSome

theorem consistent_start (sessionTimeout : Option Int) (store : SessionStore) :
    Consistent randomUUID (start sessionTimeout store) := by
  refine ⟨?_, ?_, ?_⟩
  · intro sessionId cached h
    cases h
  · intro sessionId credentials h
    cases h
  · intro login hlogin
    cases hlogin

variable {randomUUID}

theorem Consistent.of_cacheWithin {served : Served} {service : AuthServiceImpl}
    (hc : Consistent randomUUID served)
    (hwithin : AuthServiceImpl.CacheWithin service served.service) :
    Consistent randomUUID { served with service } := by
  obtain ⟨hdraws, hcache⟩ := hwithin
  refine ⟨fun sessionId cached h => hc.cache sessionId cached (hcache sessionId cached h), ?_,
    hc.logins⟩
  intro sessionId credentials h
  obtain ⟨hlogin, draw, hdraw, heq⟩ := hc.issued sessionId credentials h
  exact ⟨hlogin, draw, by rw [hdraws]; exact hdraw, heq⟩

-- A login either leaves the records alone, repeats a session of a cached
-- entry, or issues a session under a new identifier.
theorem login_cases (served : Served) (credentials : Credentials) (clock : AuthenticateClock) :
    (validateCredentials credentials ≠ none ∧
      login randomUUID served credentials clock = served) ∨
    (validateCredentials credentials = none ∧ ∃ cached,
      served.service.liveEntry credentials.username clock.lookup = some cached ∧
      login randomUUID served credentials clock = { served with
        logins := served.logins ++ [⟨credentials, cached.toResult⟩] }) ∨
    (validateCredentials credentials = none ∧
      served.service.liveEntry credentials.username clock.lookup = none ∧
      ∃ service result cached,
        login randomUUID served credentials clock = {
          service
          issuedFor := served.issuedFor.set (randomUUID served.service.draws) credentials
          logins := served.logins ++ [⟨credentials, result⟩] } ∧
        result.sessionId = randomUUID served.service.draws ∧
        cached.sessionId = randomUUID served.service.draws ∧
        service.draws = served.service.draws + 2 ∧
        service.authCache =
          served.service.authCache.set (randomUUID served.service.draws) cached) := by
  unfold login AuthServiceImpl.findCachedSession
  rcases AuthServiceImpl.authenticate_cases randomUUID served.service credentials clock with
    ⟨message, hinvalid, heq⟩ | ⟨hvalid, cached, hlive, heq⟩ |
      ⟨hvalid, hlive, service, result, cached, heq, hresult, hcached, hdraws, hcache⟩
  · left
    exact ⟨by simp [hinvalid], by rw [heq]⟩
  · right; left
    exact ⟨hvalid, cached, hlive, by rw [heq, hlive]; rfl⟩
  · right; right
    refine ⟨hvalid, hlive, service, result, cached, ?_, hresult, hcached, hdraws, hcache⟩
    rw [heq, hlive, ← hresult]
    rfl

theorem consistent_login {served : Served} (hc : Consistent randomUUID served)
    (credentials : Credentials) (clock : AuthenticateClock) :
    Consistent randomUUID (login randomUUID served credentials clock) := by
  rcases @login_cases randomUUID served credentials clock with
    ⟨_, heq⟩ | ⟨_, cached, hlive, heq⟩ |
      ⟨_, _, service, result, cached, heq, hresult, hcached, hdraws, hcache⟩
  · rw [heq]
    exact hc
  · rw [heq]
    obtain ⟨⟨sessionId, hget⟩, _⟩ := AuthServiceImpl.liveEntry_mem hlive
    obtain ⟨hid, hissued⟩ := hc.cache sessionId cached hget
    refine ⟨hc.cache, fun key issued h => ?_, fun entry hentry => ?_⟩
    · obtain ⟨⟨entry, hmem, hentry⟩, hdraw⟩ := hc.issued key issued h
      exact ⟨⟨entry, List.mem_append_left _ hmem, hentry⟩, hdraw⟩
    · rcases List.mem_append.mp hentry with hold | hnew
      · exact hc.logins entry hold
      · rw [List.mem_singleton.mp hnew]
        show (served.issuedFor.get cached.sessionId).isSome
        rw [hid]
        exact hissued
  · rw [heq]
    refine ⟨fun key value h => ?_, fun key issued h => ?_, fun entry hentry => ?_⟩
    · change service.authCache.get key = some value at h
      rw [hcache, OrderedMap.get_set] at h
      by_cases hkey : randomUUID served.service.draws = key
      · rw [if_pos hkey, Option.some.injEq] at h
        exact ⟨by rw [← h, hcached, hkey], by simp [hkey]⟩
      · rw [if_neg hkey] at h
        simpa [hkey] using hc.cache key value h
    · show _ ∧ ∃ draw < service.draws, _
      rw [hdraws]
      rw [OrderedMap.get_set] at h
      by_cases hkey : randomUUID served.service.draws = key
      · rw [if_pos hkey, Option.some.injEq] at h
        refine ⟨⟨⟨credentials, result⟩, by simp, h, hresult.trans hkey⟩, ?_⟩
        exact ⟨served.service.draws, by omega, hkey⟩
      · rw [if_neg hkey] at h
        obtain ⟨⟨entry, hmem, hentry⟩, draw, hdraw, hid⟩ := hc.issued key issued h
        exact ⟨⟨entry, List.mem_append_left _ hmem, hentry⟩, draw, by omega, hid⟩
    · rw [OrderedMap.get_set]
      rcases List.mem_append.mp hentry with hold | hnew
      · split
        · rfl
        · exact hc.logins entry hold
      · rw [List.mem_singleton.mp hnew, if_pos hresult.symm]
        rfl

theorem consistent_step (call : Call) (hc : Consistent randomUUID served) :
    Consistent randomUUID (step randomUUID served call) := by
  cases call with
  | authenticate credentials clock => exact consistent_login hc credentials clock
  | validateSession sessionId now =>
    exact hc.of_cacheWithin (AuthServiceImpl.validateSession_cache _ sessionId now)
  | revokeSession sessionId now =>
    exact hc.of_cacheWithin (AuthServiceImpl.revokeSession_cache _ sessionId now)
  | getSessionInfo sessionId now =>
    exact hc.of_cacheWithin (AuthServiceImpl.getSessionInfo_cache _ sessionId now)
  | cleanupExpiredSessions now =>
    exact hc.of_cacheWithin (AuthServiceImpl.cleanupExpiredSessions_cache _ now)
  | sharedStore operation => exact hc.of_cacheWithin ⟨rfl, fun _ _ h => h⟩

-- Isolation says that every login presented what its session was issued for.
theorem isolated_iff {served : Served} (hc : Consistent randomUUID served) :
    Isolated served.logins ↔ ∀ login ∈ served.logins,
      ∀ issued ∈ served.issuedFor.get login.result.sessionId,
        SameLogin login.credentials issued := by
  constructor
  · intro h login hlogin issued hissued
    obtain ⟨⟨origin, horigin, hcredentials, hid⟩, _⟩ :=
      hc.issued login.result.sessionId issued hissued
    rw [← hcredentials]
    exact h login hlogin origin horigin hid.symm
  · intro h first hfirst second hsecond hid
    obtain ⟨issued, hissued⟩ := Option.isSome_iff_exists.mp (hc.logins first hfirst)
    exact (h first hfirst issued hissued).trans (h second hsecond issued (hid ▸ hissued)).symm

theorem isolated_step (hinj : Function.Injective randomUUID) (served : Served) (call : Call)
    (hc : Consistent randomUUID served) (hiso : Isolated served.logins) :
    Isolated (step randomUUID served call).logins ↔ HitMatches served call := by
  cases call with
  | authenticate credentials clock =>
    have hnext := isolated_iff (consistent_login hc credentials clock)
    have hbefore := (isolated_iff hc).mp hiso
    have hlookup : ((served.service.authCache.entries.map Prod.snd).find? fun entry =>
        entry.username = credentials.username ∧ clock.lookup < entry.expiresAt) =
          served.service.liveEntry credentials.username clock.lookup := rfl
    simp only [step, HitMatches]
    rw [hnext, hlookup]
    rcases @login_cases randomUUID served credentials clock with
      ⟨hinvalid, heq⟩ | ⟨hvalid, cached, hlive, heq⟩ |
        ⟨hvalid, hlive, service, result, cached, heq, hresult, _, _, _⟩
    · rw [heq]
      exact ⟨fun _ hvalid => absurd hvalid hinvalid, fun _ => hbefore⟩
    · rw [heq]
      constructor
      · intro h _ entry hentry issued hissued
        obtain rfl : cached = entry := by simpa [hlive] using hentry
        exact h ⟨credentials, cached.toResult⟩ (by simp) issued hissued
      · intro h entry hentry issued hissued
        rcases List.mem_append.mp hentry with hold | hnew
        · exact hbefore entry hold issued hissued
        · rw [List.mem_singleton.mp hnew] at hissued ⊢
          exact h hvalid cached (by simp [hlive]) issued hissued
    · rw [heq]
      refine ⟨fun _ _ entry hentry => by simp [hlive] at hentry, fun _ entry hentry => ?_⟩
      intro issued hissued
      rcases List.mem_append.mp hentry with hold | hnew
      · have hne : randomUUID served.service.draws ≠ entry.result.sessionId := by
          intro hid
          obtain ⟨origin, horigin⟩ := Option.isSome_iff_exists.mp (hc.logins entry hold)
          obtain ⟨_, draw, hdraw, hdrawn⟩ := hc.issued _ _ horigin
          have := hinj (hdrawn.trans hid.symm)
          omega
        rw [OrderedMap.get_set, if_neg hne] at hissued
        exact hbefore entry hold issued hissued
      · rw [List.mem_singleton.mp hnew] at hissued ⊢
        rw [OrderedMap.get_set, if_pos hresult.symm, Option.mem_some_iff] at hissued
        rw [hissued]
        exact .refl issued
  | _ => exact ⟨fun _ => trivial, fun _ => hiso⟩

theorem login_before (call : Call) : served.logins <+: (step randomUUID served call).logins := by
  cases call with
  | authenticate credentials clock =>
    simp only [step]
    rcases @login_cases randomUUID served credentials clock with
      ⟨_, heq⟩ | ⟨_, cached, _, heq⟩ | ⟨_, _, service, result, cached, heq, _⟩
    · rw [heq]
    · rw [heq]
      exact List.prefix_append _ _
    · rw [heq]
      exact List.prefix_append _ _
  | _ => exact List.prefix_refl _

theorem Isolated.of_prefix {before after : List Login} (hpre : before <+: after)
    (h : Isolated after) : Isolated before :=
  fun first hfirst second hsecond =>
    h first (hpre.subset hfirst) second (hpre.subset hsecond)

end Runs

-- Sessions stay apart in a run exactly when no cached session is handed to
-- another login: the lookup compares the name only.
theorem sessions_isolated_iff (randomUUID : Nat → JsString)
    (hunique : Function.Injective randomUUID) (sessionTimeout : Option Int)
    (store : SessionStore) (calls : List Call) :
    Isolated (run (step randomUUID) (start sessionTimeout store) calls).logins ↔
      Along (step randomUUID) HitMatches (start sessionTimeout store) calls := by
  have hback : ∀ served call, Isolated (step randomUUID served call).logins →
      Isolated served.logins :=
    fun served call h => h.of_prefix (login_before served call)
  rw [← @throughout_iff_last _ _ _ (fun served : Served => Isolated served.logins) hback]
  refine throughout_iff_along (consistent_step) (isolated_step hunique)
    (consistent_start randomUUID sessionTimeout store) ?_ calls
  intro first hfirst
  cases hfirst

section Samples

def hexDigit (digit : Nat) : UInt16 :=
  if digit < 10 then (48 + digit).toUInt16 else (87 + digit).toUInt16

def hexGroup : Nat → Nat → JsString
  | 0, _ => []
  | width + 1, value => hexDigit (value % 16) :: hexGroup width (value / 16)

-- Identifiers in the layout of `randomUUID`, the drawing number in the last group.
def sampleUUID (draw : Nat) : JsString :=
  js "00000000-0000-4000-8000-" ++ (hexGroup 12 draw ++ List.replicate (draw / 16 ^ 12) 48)

theorem hexDigit_inj : ∀ first < 16, ∀ second < 16, hexDigit first = hexDigit second →
    first = second := by decide

@[simp] theorem hexGroup_length (width value : Nat) : (hexGroup width value).length = width := by
  induction width generalizing value with
  | zero => rfl
  | succ width ih => simp [hexGroup, ih]

theorem hexGroup_mod (width first second : Nat) (h : hexGroup width first = hexGroup width second) :
    first % 16 ^ width = second % 16 ^ width := by
  induction width generalizing first second with
  | zero => simp [Nat.mod_one]
  | succ width ih =>
    obtain ⟨hhead, htail⟩ := List.cons.inj h
    have hdigit := hexDigit_inj _ (Nat.mod_lt _ (by omega)) _ (Nat.mod_lt _ (by omega)) hhead
    rw [Nat.pow_succ', Nat.mod_mul, Nat.mod_mul, hdigit, ih _ _ htail]

theorem sampleUUID_injective : Function.Injective sampleUUID := by
  intro first second h
  have hgroups := List.append_cancel_left h
  obtain ⟨hlow, hhigh⟩ := List.append_inj hgroups (by simp)
  have hmod := hexGroup_mod 12 first second hlow
  have hdiv : first / 16 ^ 12 = second / 16 ^ 12 := by
    simpa using congrArg List.length hhigh
  rw [← Nat.div_add_mod first (16 ^ 12), hdiv, hmod, Nat.div_add_mod]

def passwordLogin (username password host : JsString) (now : Time) : Call :=
  .authenticate {
    username, host
    password := some password
    privateKey := none
    passphrase := none
    port := .finite 22 }
    ⟨now, now, now, now, now, now⟩

-- One name on two hosts, with two passwords, a second apart.
def twoHosts : List Call := [
  passwordLogin (js "root") (js "alpha") (js "one.example") 0,
  passwordLogin (js "root") (js "beta") (js "two.example") 1000]

theorem twoHosts_not_isolated :
    ¬ Isolated (run (step sampleUUID) (start none (.new 100)) twoHosts).logins := by
  decide

-- The same name moves to another host after its first session was revoked.
theorem revoked_then_moved_isolated :
    Isolated (run (step sampleUUID) (start none (.new 100)) [
      passwordLogin (js "root") (js "alpha") (js "one.example") 0,
      passwordLogin (js "root") (js "alpha") (js "one.example") 500,
      .revokeSession (sampleUUID 0) 800,
      passwordLogin (js "root") (js "beta") (js "two.example") 1000]).logins :=
  (sessions_isolated_iff sampleUUID sampleUUID_injective none (.new 100) _).mpr (by decide)

end Samples

end WebSsh2.Auth.Isolation
