import WebSsh2.Auth.AuthService
import WebSsh2.State.SessionInvariant

namespace WebSsh2.Auth.LiveSessions

open WebSsh2.Library WebSsh2.Library.Run WebSsh2.State

-- The actions that the state of a connection gives rise to.
inductive ConnectionAction where
  | start (host : JsString) (port : Number)
  | established (connectionId : ConnectionId)
  | error (message : JsString)
  | closed (reason : Option JsString)
  | activity

namespace ConnectionAction

def action : ConnectionAction → SessionAction
  | start host port => .connectionStart host port
  | established connectionId => .connectionEstablished connectionId
  | error message => .connectionError message
  | closed reason => .connectionClosed reason
  | activity => .connectionActivity

def ends : ConnectionAction → Bool
  | error _ | closed _ => true
  | _ => false

end ConnectionAction

-- `deleteSession` is the call of the session service when a socket disconnects.
inductive ServiceCall where
  | authenticate (credentials : Credentials) (clock : AuthenticateClock)
  | revokeSession (sessionId : SessionId) (now : Time)
  | cleanupExpiredSessions (now : Time)
  | deleteSession (sessionId : SessionId) (now : Time)
  | connectionAction (sessionId : SessionId) (action : ConnectionAction) (now : Time)

-- The service with a record of the sessions that were deleted, or whose connection
-- failed or closed, since they were issued.
structure Watched where
  service : AuthServiceImpl
  ended : List SessionId

def start (sessionTimeout : Option Int) (store : SessionStore) : Watched where
  service := .new sessionTimeout store
  ended := []

def LoggedIn (store : SessionStore) (sessionId : SessionId) : Prop :=
  ∃ state, store.getState sessionId = some state ∧ state.auth.status = .authenticated

section Runs

variable (randomUUID : Nat → JsString)

def serve (watched : Watched) : ServiceCall → Watched
  | .authenticate credentials clock => {
      service := (watched.service.authenticate randomUUID credentials clock).1
      ended :=
        match validateCredentials credentials,
            watched.service.findCachedSession credentials clock.lookup with
        | none, none => watched.ended.filter (· ≠ randomUUID watched.service.draws)
        | _, _ => watched.ended }
  | .revokeSession sessionId now =>
    { watched with service := (watched.service.revokeSession sessionId now).1 }
  | .cleanupExpiredSessions now =>
    { watched with service := watched.service.cleanupExpiredSessions now }
  | .deleteSession sessionId now => {
      service := { watched.service with
        store := watched.service.store.removeSession sessionId now }
      ended := sessionId :: watched.ended }
  | .connectionAction sessionId action now => {
      service := { watched.service with
        store := watched.service.store.dispatch sessionId action.action now }
      ended := if action.ends then sessionId :: watched.ended else watched.ended }

-- A session that a login hands out is logged in at that moment.
def HandsOutLive (watched : Watched) : ServiceCall → Prop
  | .authenticate credentials clock =>
    ∀ result, (watched.service.authenticate randomUUID credentials clock).2 = .ok result →
      LoggedIn (watched.service.authenticate randomUUID credentials clock).1.store
        result.sessionId
  | _ => True

end Runs

-- A login that the cache answers finds a session that did not end since it was issued.
def HitNotEnded (watched : Watched) : ServiceCall → Prop
  | .authenticate credentials clock => validateCredentials credentials = none →
      ∀ cached ∈ watched.service.liveEntry credentials.username clock.lookup,
        cached.sessionId ∉ watched.ended
  | _ => True

-- The cache has the sessions that were drawn, and of those the ended ones are exactly
-- the ones that the store does not know as logged in.
structure Consistent (randomUUID : Nat → JsString) (watched : Watched) : Prop where
  drawn : ∀ sessionId cached, watched.service.authCache.get sessionId = some cached →
    cached.sessionId = sessionId ∧ ∃ draw < watched.service.draws, randomUUID draw = sessionId
  ended_iff : ∀ sessionId cached, watched.service.authCache.get sessionId = some cached →
    (sessionId ∉ watched.ended ↔ LoggedIn watched.service.store sessionId)

theorem loggedIn_congr {store other : SessionStore} {sessionId : SessionId}
    (h : store.getState sessionId = other.getState sessionId) :
    LoggedIn store sessionId ↔ LoggedIn other sessionId := by
  unfold LoggedIn
  rw [h]

theorem loggedIn_dispatch (store : SessionStore) (sessionId : SessionId)
    (action : ConnectionAction) (now : Time) :
    LoggedIn (store.dispatch sessionId action.action now) sessionId ↔
      action.ends = false ∧ LoggedIn store sessionId := by
  unfold LoggedIn
  rw [SessionStore.getState_dispatch_self]
  cases hstate : store.getState sessionId with
  | none => simp
  | some state =>
    cases action with
    | error message =>
      by_cases hstatus : state.auth.status = .authenticated <;>
        simp [ConnectionAction.action, ConnectionAction.ends, nextState_sub, authReducer,
          hstatus]
    | closed reason =>
      by_cases hstatus : state.auth.status = .authenticated <;>
        simp [ConnectionAction.action, ConnectionAction.ends, nextState_sub, authReducer,
          hstatus]
    | _ => simp [ConnectionAction.action, ConnectionAction.ends, nextState_sub, authReducer]

theorem consistent_start (randomUUID : Nat → JsString) (sessionTimeout : Option Int)
    (store : SessionStore) : Consistent randomUUID (start sessionTimeout store) where
  drawn sessionId cached h := by simp [start, AuthServiceImpl.new] at h
  ended_iff sessionId cached h := by simp [start, AuthServiceImpl.new] at h

variable {randomUUID : Nat → JsString} {watched : Watched}

-- A new session is logged in, and the other sessions are as before.
theorem issueNewSession_store (service : AuthServiceImpl) (credentials : Credentials)
    (clock : AuthenticateClock) :
    let issued := (service.issueNewSession randomUUID credentials clock).1.store
    LoggedIn issued (randomUUID service.draws) ∧
      ∀ other, randomUUID service.draws ≠ other →
        issued.getState other = service.store.getState other := by
  intro issued
  constructor
  · refine (loggedIn_dispatch _ _ (.start credentials.host credentials.port) clock.start).mpr
      ⟨rfl, ?_⟩
    unfold LoggedIn
    rw [SessionStore.getState_dispatch_self, SessionStore.getState_createSession_self,
      Option.map_some]
    exact ⟨_, rfl, by simp [nextState_sub, authReducer]⟩
  · intro other hne
    show ((_ : SessionStore).dispatch _ _ _).getState other = _
    rw [SessionStore.getState_dispatch_of_ne _ _ _ hne,
      SessionStore.getState_dispatch_of_ne _ _ _ hne,
      SessionStore.getState_createSession_of_ne _ _ hne]

-- Every cached session is one that a removal of others leaves alone.
theorem Consistent.of_within (hc : Consistent randomUUID watched) {service : AuthServiceImpl}
    (hwithin : AuthServiceImpl.CacheWithin service watched.service)
    (hstore : ∀ sessionId cached, service.authCache.get sessionId = some cached →
      service.store.getState sessionId = watched.service.store.getState sessionId) :
    Consistent randomUUID { watched with service } where
  drawn sessionId cached h := by
    obtain ⟨hid, draw, hdraw, huuid⟩ := hc.drawn sessionId cached (hwithin.2 sessionId cached h)
    exact ⟨hid, draw, hwithin.1 ▸ hdraw, huuid⟩
  ended_iff sessionId cached h := by
    rw [hc.ended_iff sessionId cached (hwithin.2 sessionId cached h)]
    exact (loggedIn_congr (hstore sessionId cached h)).symm

theorem consistent_authenticate (hinj : Function.Injective randomUUID)
    (hc : Consistent randomUUID watched) (credentials : Credentials)
    (clock : AuthenticateClock) :
    Consistent randomUUID (serve randomUUID watched (.authenticate credentials clock)) := by
  cases hvalid : validateCredentials credentials with
  | some message => simpa [serve, AuthServiceImpl.authenticate, hvalid] using hc
  | none =>
    cases hfound : watched.service.findCachedSession credentials clock.lookup with
    | some result => simpa [serve, AuthServiceImpl.authenticate, hvalid, hfound] using hc
    | none =>
      obtain ⟨hlogged, hothers⟩ :=
        @issueNewSession_store randomUUID watched.service credentials clock
      have hfresh : ∀ sessionId cached,
          watched.service.authCache.get sessionId = some cached →
            randomUUID watched.service.draws ≠ sessionId := by
        intro sessionId cached hget heq
        obtain ⟨_, draw, hdraw, huuid⟩ := hc.drawn sessionId cached hget
        have := hinj (huuid.trans heq.symm)
        omega
      simp only [serve, AuthServiceImpl.authenticate, hvalid, hfound]
      refine ⟨fun sessionId cached hget => ?_, fun sessionId cached hget => ?_⟩
      · change (watched.service.authCache.set (randomUUID watched.service.draws) _).get
          sessionId = some cached at hget
        show _ ∧ ∃ draw < watched.service.draws + 2, _
        rw [OrderedMap.get_set] at hget
        split at hget
        · rename_i hid
          rw [← Option.some.inj hget]
          exact ⟨hid, watched.service.draws, by omega, hid⟩
        · obtain ⟨hid, draw, hdraw, huuid⟩ := hc.drawn sessionId cached hget
          exact ⟨hid, draw, by omega, huuid⟩
      · change (watched.service.authCache.set (randomUUID watched.service.draws) _).get
          sessionId = some cached at hget
        rw [OrderedMap.get_set] at hget
        split at hget
        · rename_i hid
          subst hid
          exact iff_of_true (by simp) hlogged
        · rename_i hne
          have hstore := hothers sessionId hne
          rw [List.mem_filter]
          have hkeep : ¬ (sessionId ∈ watched.ended ∧
              decide (sessionId ≠ randomUUID watched.service.draws) = true) ↔
              sessionId ∉ watched.ended := by simp [Ne.symm hne]
          rw [hkeep, hc.ended_iff sessionId cached hget]
          exact (loggedIn_congr hstore).symm

theorem consistent_revoke (hc : Consistent randomUUID watched) (sessionId : SessionId)
    (now : Time) :
    Consistent randomUUID (serve randomUUID watched (.revokeSession sessionId now)) := by
  refine hc.of_within (AuthServiceImpl.revokeSession_cache _ sessionId now) ?_
  intro other cached hget
  unfold AuthServiceImpl.revokeSession at hget ⊢
  cases hstate : watched.service.store.getState sessionId with
  | none => rfl
  | some state =>
    rw [hstate] at hget
    dsimp only at hget ⊢
    rw [OrderedMap.get_delete] at hget
    split at hget
    · cases hget
    · rename_i hne
      rw [SessionStore.getState_removeSession_of_ne _ _ hne,
        SessionStore.getState_dispatch_of_ne _ _ _ hne]

-- The sweep takes what it removes from the store out of the cache as well.
theorem consistent_cleanup (hc : Consistent randomUUID watched) (now : Time) :
    Consistent randomUUID (serve randomUUID watched (.cleanupExpiredSessions now)) := by
  refine hc.of_within (AuthServiceImpl.cleanupExpiredSessions_cache _ now) ?_
  intro other cached
  unfold AuthServiceImpl.cleanupExpiredSessions
  generalize watched.service.expiredSessions now = expired
  generalize watched.service = service
  intro hget
  induction expired generalizing service with
  | nil => rfl
  | cons sessionId rest ih =>
    rw [List.foldl_cons] at hget ⊢
    rw [ih _ hget]
    have hkept : (service.authCache.delete sessionId).get other = some cached :=
      (AuthServiceImpl.removeSessions_cache _ rest now).2 other cached hget
    rw [OrderedMap.get_delete] at hkept
    split at hkept
    · cases hkept
    · rename_i hne
      exact SessionStore.getState_removeSession_of_ne _ _ hne

theorem consistent_delete (hc : Consistent randomUUID watched) (sessionId : SessionId)
    (now : Time) :
    Consistent randomUUID (serve randomUUID watched (.deleteSession sessionId now)) := by
  refine ⟨hc.drawn, fun other cached hget => ?_⟩
  show other ∉ sessionId :: watched.ended ↔ _
  by_cases hid : sessionId = other
  · subst hid
    refine iff_of_false (by simp) ?_
    rintro ⟨state, hstate, _⟩
    rw [serve, SessionStore.getState_removeSession] at hstate
    cases hstate
  · have hstore := SessionStore.getState_removeSession_of_ne watched.service.store now hid
    rw [List.mem_cons, not_or, hc.ended_iff other cached hget]
    simp only [Ne.symm hid, not_false_eq_true, true_and]
    exact (loggedIn_congr hstore).symm

theorem consistent_connectionAction (hc : Consistent randomUUID watched) (sessionId : SessionId)
    (action : ConnectionAction) (now : Time) :
    Consistent randomUUID
      (serve randomUUID watched (.connectionAction sessionId action now)) := by
  refine ⟨hc.drawn, fun other cached hget => ?_⟩
  have hbefore := hc.ended_iff other cached hget
  show other ∉ (if action.ends then sessionId :: watched.ended else watched.ended) ↔
    LoggedIn (watched.service.store.dispatch sessionId action.action now) other
  by_cases hid : sessionId = other
  · subst hid
    rw [loggedIn_dispatch, ← hbefore]
    cases action.ends <;> simp
  · have hstore := SessionStore.getState_dispatch_of_ne watched.service.store action.action now hid
    rw [loggedIn_congr hstore, ← hbefore]
    cases action.ends <;> simp [Ne.symm hid]

theorem consistent_serve (hinj : Function.Injective randomUUID) (watched : Watched)
    (call : ServiceCall) (hc : Consistent randomUUID watched) :
    Consistent randomUUID (serve randomUUID watched call) := by
  cases call with
  | authenticate credentials clock => exact consistent_authenticate hinj hc credentials clock
  | revokeSession sessionId now => exact consistent_revoke hc sessionId now
  | cleanupExpiredSessions now => exact consistent_cleanup hc now
  | deleteSession sessionId now => exact consistent_delete hc sessionId now
  | connectionAction sessionId action now =>
    exact consistent_connectionAction hc sessionId action now

theorem handsOutLive_iff (hc : Consistent randomUUID watched) (call : ServiceCall) :
    HandsOutLive randomUUID watched call ↔ HitNotEnded watched call := by
  cases call with
  | authenticate credentials clock =>
    unfold HandsOutLive HitNotEnded
    cases hvalid : validateCredentials credentials with
    | some message => simp [AuthServiceImpl.authenticate, hvalid]
    | none =>
      cases hlive : watched.service.liveEntry credentials.username clock.lookup with
      | none =>
        have hissued := (@issueNewSession_store randomUUID watched.service credentials
          clock).1
        simp only [AuthServiceImpl.authenticate, AuthServiceImpl.findCachedSession, hvalid,
          hlive, Option.map_none]
        refine iff_of_true (fun result hresult => ?_) (by simp)
        rw [← Except.ok.inj hresult]
        exact hissued
      | some cached =>
        obtain ⟨⟨sessionId, hget⟩, _⟩ := AuthServiceImpl.liveEntry_mem hlive
        have hid := (hc.drawn sessionId cached hget).1
        have hiff := hc.ended_iff sessionId cached hget
        simp [AuthServiceImpl.authenticate, AuthServiceImpl.findCachedSession, hvalid, hlive,
          AuthCache.toResult, hid, hiff]
  | _ => exact Iff.rfl

-- Every session that the logins of a run hand out is live exactly when no login is
-- answered with a cached session that ended after it was issued.
theorem handsOutLive_run_iff {randomUUID : Nat → JsString}
    (hinj : Function.Injective randomUUID) (sessionTimeout : Option Int) (store : SessionStore)
    (calls : List ServiceCall) :
    Along (serve randomUUID) (HandsOutLive randomUUID) (start sessionTimeout store) calls ↔
      Along (serve randomUUID) HitNotEnded (start sessionTimeout store) calls :=
  along_congr (consistent_serve hinj) (fun _ call hc => handsOutLive_iff hc call)
    (consistent_start randomUUID sessionTimeout store) calls

def exampleUUID (draw : Nat) : JsString :=
  List.replicate draw 48

def exampleCredentials : Credentials where
  username := js "alice"
  password := some (js "secret")
  privateKey := none
  passphrase := none
  host := js "host"
  port := .finite 22

def exampleClock (now : Time) : AuthenticateClock :=
  ⟨now, now, now, now, now, now⟩

-- A login, the disconnect of its socket, and the next login of the same user.
def loginAgain : List ServiceCall :=
  [.authenticate exampleCredentials (exampleClock 0), .deleteSession (exampleUUID 0) 1,
    .authenticate exampleCredentials (exampleClock 2)]

theorem handsOutLive_not_afterDelete :
    ¬ ∀ (randomUUID : Nat → JsString), Function.Injective randomUUID →
      ∀ (sessionTimeout : Option Int) (store : SessionStore) (calls : List ServiceCall),
        Along (serve randomUUID) (HandsOutLive randomUUID) (start sessionTimeout store) calls := by
  intro h
  have hrun := h exampleUUID (List.replicate_left_injective 48) none (SessionStore.new 100)
    loginAgain
  obtain ⟨_, _, hlast, _⟩ := hrun
  obtain ⟨state, hstate, _⟩ := hlast ⟨exampleUUID 0, exampleUUID 1, js "alice", .manual,
    some sessionTimeoutMs⟩ (by rfl)
  cases hstate

theorem handsOutLive_run_iff_twoLogins :
    Along (serve exampleUUID) (HandsOutLive exampleUUID) (start none (SessionStore.new 100))
      [.authenticate exampleCredentials (exampleClock 0),
        .authenticate exampleCredentials (exampleClock 2)] := by
  refine (handsOutLive_run_iff (List.replicate_left_injective 48) none (SessionStore.new 100)
    _).mpr ⟨?_, ?_, trivial⟩
  · intro _ cached h
    cases h
  · intro _ cached h
    exact List.not_mem_nil

end WebSsh2.Auth.LiveSessions
