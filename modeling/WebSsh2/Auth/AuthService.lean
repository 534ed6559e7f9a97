import WebSsh2.State.Store

namespace WebSsh2.Auth

open WebSsh2.Library WebSsh2.State

structure Credentials where
  username : JsString
  password : Option JsString
  privateKey : Option JsString
  passphrase : Option JsString
  host : JsString
  port : Number
deriving DecidableEq

structure AuthResult where
  sessionId : SessionId
  userId : UserId
  username : JsString
  method : AuthMethod
  expiresAt : Option Time
deriving DecidableEq

structure AuthCache where
  sessionId : SessionId
  userId : UserId
  username : JsString
  method : AuthMethod
  createdAt : Time
  expiresAt : Time
deriving DecidableEq

namespace AuthCache

def toResult (cached : AuthCache) : AuthResult where
  sessionId := cached.sessionId
  userId := cached.userId
  username := cached.username
  method := cached.method
  expiresAt := some cached.expiresAt

end AuthCache

-- `draws` counts the calls of `randomUUID` made so far.
structure AuthServiceImpl where
  authCache : OrderedMap SessionId AuthCache
  sessionTimeout : Int
  store : SessionStore
  draws : Nat

-- One reading of the clock for each place where a login reads it.
structure AuthenticateClock where
  lookup : Time
  created : Time
  success : Time
  start : Time
  expiry : Time
  cached : Time

def sessionTimeoutMs : Int := 86400000

def validateCredentials (credentials : Credentials) : Option JsString :=
  if credentials.username = [] then
    some (js "Invalid credentials format")
  else if credentials.host = [] then
    some (js "Invalid credentials format")
  else if credentials.port.le (.finite 0) ∨ (Number.finite 65535).lt credentials.port then
    some (js "Invalid credentials format")
  else
    let hasPassword := credentials.password.any fun password => 0 < password.length
    let hasPrivateKey := credentials.privateKey.any fun privateKey => 0 < privateKey.length
    if !hasPassword && !hasPrivateKey then
      some (js "No authentication method provided")
    else
      none

namespace AuthServiceImpl

def new (sessionTimeout : Option Int) (store : SessionStore) : AuthServiceImpl where
  authCache := .empty
  sessionTimeout := sessionTimeout.getD sessionTimeoutMs
  store
  draws := 0

def Live (username : JsString) (now : Time) (cached : AuthCache) : Prop :=
  cached.username = username ∧ now < cached.expiresAt

instance (username : JsString) (now : Time) (cached : AuthCache) :
    Decidable (Live username now cached) :=
  inferInstanceAs (Decidable (_ ∧ _))

variable (service : AuthServiceImpl)

-- The first entry, in the order of the cache, that the lookup accepts.
def liveEntry (username : JsString) (now : Time) : Option AuthCache :=
  (service.authCache.entries.map Prod.snd).find? fun cached => Live username now cached

def findCachedSession (credentials : Credentials) (now : Time) : Option AuthResult :=
  (service.liveEntry credentials.username now).map AuthCache.toResult

def cacheAuthentication (result : AuthResult) (now : Time) : AuthServiceImpl :=
  let expiration := result.expiresAt.getD (now + service.sessionTimeout)
  { service with
    authCache := service.authCache.set result.sessionId {
      sessionId := result.sessionId
      userId := result.userId
      username := result.username
      method := result.method
      createdAt := now
      expiresAt := expiration } }

variable (sessionId : SessionId)

def validateSession (now : Time) : AuthServiceImpl × Bool :=
  match service.authCache.get sessionId with
  | none => (service, false)
  | some cached =>
    if cached.expiresAt < now then
      ({ service with authCache := service.authCache.delete sessionId }, false)
    else
      match service.store.getState sessionId with
      | some state => (service, state.auth.status = .authenticated)
      | none => (service, false)

def revokeSession (now : Time) : AuthServiceImpl × Except JsString Unit :=
  match service.store.getState sessionId with
  | none => (service, .error (js "Session not found"))
  | some _ =>
    ({ service with
      authCache := service.authCache.delete sessionId
      store := (service.store.dispatch sessionId .authLogout now).removeSession sessionId now },
      .ok ())

def getSessionInfo (now : Time) : AuthServiceImpl × Option AuthResult :=
  match service.authCache.get sessionId with
  | none => (service, none)
  | some cached =>
    if cached.expiresAt < now then
      ({ service with authCache := service.authCache.delete sessionId }, none)
    else
      (service, some cached.toResult)

def expiredSessions (now : Time) : List SessionId :=
  (service.authCache.entries.filter fun entry => entry.2.expiresAt < now).map Prod.fst

def cleanupExpiredSessions (now : Time) : AuthServiceImpl :=
  (service.expiredSessions now).foldl (fun cleaned sessionId => { cleaned with
    authCache := cleaned.authCache.delete sessionId
    store := cleaned.store.removeSession sessionId now }) service

section Login

variable (randomUUID : Nat → JsString)

def issueNewSession (service : AuthServiceImpl) (credentials : Credentials)
    (clock : AuthenticateClock) : AuthServiceImpl × AuthResult :=
  let sessionId := randomUUID service.draws
  let userId := randomUUID (service.draws + 1)
  let created := service.store.createSession sessionId clock.created
  let authenticated :=
    created.dispatch sessionId (.authSuccess credentials.username AuthMethod.manual.text none)
      clock.success
  let connecting :=
    authenticated.dispatch sessionId (.connectionStart credentials.host credentials.port)
      clock.start
  ({ service with store := connecting, draws := service.draws + 2 }, {
    sessionId
    userId
    username := credentials.username
    method := .manual
    expiresAt := some (clock.expiry + service.sessionTimeout) })

def authenticate (service : AuthServiceImpl) (credentials : Credentials)
    (clock : AuthenticateClock) : AuthServiceImpl × Except JsString AuthResult :=
  match validateCredentials credentials with
  | some validationError => (service, .error validationError)
  | none =>
    match service.findCachedSession credentials clock.lookup with
    | some cachedSession => (service, .ok cachedSession)
    | none =>
      let (issuing, authResult) := issueNewSession randomUUID service credentials clock
      (issuing.cacheAuthentication authResult clock.cached, .ok authResult)

end Login

theorem liveEntry_mem {service : AuthServiceImpl} {username : JsString} {now : Time}
    {cached : AuthCache} (h : service.liveEntry username now = some cached) :
    (∃ sessionId, service.authCache.get sessionId = some cached) ∧ Live username now cached := by
  have hmem := List.mem_of_find?_eq_some h
  obtain ⟨⟨sessionId, value⟩, hentry, rfl⟩ := List.mem_map.mp hmem
  refine ⟨⟨sessionId, (OrderedMap.get_eq_some_iff _ _ _).mpr hentry⟩, ?_⟩
  simpa using List.find?_some h

-- Deletions are all that the calls besides a login do to the cache.
def CacheWithin (after before : AuthServiceImpl) : Prop :=
  after.draws = before.draws ∧
    ∀ sessionId cached, after.authCache.get sessionId = some cached →
      before.authCache.get sessionId = some cached

theorem CacheWithin.refl : CacheWithin service service :=
  ⟨rfl, fun _ _ h => h⟩

theorem CacheWithin.trans {first second third : AuthServiceImpl}
    (h₁ : CacheWithin first second) (h₂ : CacheWithin second third) : CacheWithin first third :=
  ⟨h₁.1.trans h₂.1, fun sessionId cached h => h₂.2 sessionId cached (h₁.2 sessionId cached h)⟩

theorem CacheWithin.delete (store : SessionStore) :
    CacheWithin { service with authCache := service.authCache.delete sessionId, store } service :=
  ⟨rfl, fun _ _ h => OrderedMap.get_of_get_delete h⟩

theorem validateSession_cache (now : Time) :
    CacheWithin (service.validateSession sessionId now).1 service := by
  unfold validateSession
  split
  · exact .refl service
  · split
    · exact .delete service sessionId service.store
    · split <;> exact .refl service

theorem revokeSession_cache (now : Time) :
    CacheWithin (service.revokeSession sessionId now).1 service := by
  unfold revokeSession
  split
  · exact .refl service
  · exact .delete service sessionId _

theorem getSessionInfo_cache (now : Time) :
    CacheWithin (service.getSessionInfo sessionId now).1 service := by
  unfold getSessionInfo
  split
  · exact .refl service
  · split
    · exact .delete service sessionId service.store
    · exact .refl service

theorem removeSessions_cache (expired : List SessionId) (now : Time) :
    CacheWithin (expired.foldl (fun cleaned sessionId => { cleaned with
      authCache := cleaned.authCache.delete sessionId
      store := cleaned.store.removeSession sessionId now }) service) service := by
  induction expired generalizing service with
  | nil => exact .refl service
  | cons sessionId rest ih => exact (ih _).trans (.delete service sessionId _)

theorem cleanupExpiredSessions_cache (now : Time) :
    CacheWithin (service.cleanupExpiredSessions now) service :=
  service.removeSessions_cache (service.expiredSessions now) now

-- What a login can do: refuse, hand out the live entry of the name, or issue a new session.
theorem authenticate_cases (randomUUID : Nat → JsString) (service : AuthServiceImpl)
    (credentials : Credentials) (clock : AuthenticateClock) :
    (∃ message, validateCredentials credentials = some message ∧
      authenticate randomUUID service credentials clock = (service, .error message)) ∨
    (validateCredentials credentials = none ∧ ∃ cached,
      service.liveEntry credentials.username clock.lookup = some cached ∧
      authenticate randomUUID service credentials clock = (service, .ok cached.toResult)) ∨
    (validateCredentials credentials = none ∧
      service.liveEntry credentials.username clock.lookup = none ∧
      ∃ issued result cached,
        authenticate randomUUID service credentials clock = (issued, .ok result) ∧
        result.sessionId = randomUUID service.draws ∧
        cached.sessionId = randomUUID service.draws ∧
        issued.draws = service.draws + 2 ∧
        issued.authCache = service.authCache.set (randomUUID service.draws) cached) := by
  unfold authenticate findCachedSession
  cases hvalid : validateCredentials credentials with
  | some message => exact .inl ⟨message, rfl, rfl⟩
  | none =>
    cases hlive : service.liveEntry credentials.username clock.lookup with
    | some cached => exact .inr (.inl ⟨rfl, cached, rfl, rfl⟩)
    | none => exact .inr (.inr ⟨rfl, rfl, _, _, _, rfl, rfl, rfl, rfl, rfl⟩)

end AuthServiceImpl

end WebSsh2.Auth
