import WebSsh2.Library.OrderedMap
import WebSsh2.Library.Run
import WebSsh2.Values

namespace WebSsh2.Http

open WebSsh2.Library

section Cookies

inductive Expires where
  | null
  | date (time : Number)
  | text (value : JsString)

-- A cookie, of the class of express-session or a plain object. That class keeps `expires`
-- in the property `_expires`; the accessor and `toJSON` are in its prototype.
structure SessionCookie where
  isInstance : Bool
  originalMaxAge : Option Number
  expires : Expires
  others : List (JsString × JsonValue)

structure SessionData where
  cookie : SessionCookie
  data : List (JsString × JsonValue)

-- The value of a property: JSON, or a date.
inductive PropertyValue where
  | json (value : JsonValue)
  | date (time : Number)

abbrev Properties := List (JsString × PropertyValue)

-- What the language does with dates: `toJSON` and `Date.parse`.
structure DateFormat where
  toJson : Number → JsonValue
  parse : JsString → Number

def maxAgeValue : Option Number → PropertyValue
  | none => .json .null
  | some age => .json (.number age)

def expiresValue : Expires → PropertyValue
  | .null => .json .null
  | .date time => .date time
  | .text value => .json (.string value)

-- The own properties are all that `structuredClone` keeps.
def cloneCookie (cookie : SessionCookie) : Properties :=
  (js "originalMaxAge", maxAgeValue cookie.originalMaxAge) ::
    (if cookie.isInstance then js "_expires" else js "expires", expiresValue cookie.expires) ::
    cookie.others.map fun (name, value) => (name, .json value)

-- What `toJSON` returns, or the object itself where it has none.
def cookieToJson (cookie : SessionCookie) : Properties :=
  (js "originalMaxAge", maxAgeValue cookie.originalMaxAge) ::
    (js "expires", expiresValue cookie.expires) ::
    cookie.others.map fun (name, value) => (name, .json value)

-- `JSON.stringify`: a date becomes text, a number that is not finite becomes `null`.
def stringifyProperty (dates : DateFormat) : PropertyValue → JsonValue
  | .date time => dates.toJson time
  | .json (.number (.finite value)) => .number (.finite value)
  | .json (.number _) => .null
  | .json value => value

def stringifyCookie (dates : DateFormat) (properties : Properties) :
    List (JsString × JsonValue) :=
  properties.map fun (name, value) => (name, stringifyProperty dates value)

-- What the text of a stored session says, and what `JSON.parse` makes of it: no value
-- in it is a date.
structure SessionPayload where
  cookie : List (JsString × JsonValue)
  data : List (JsString × JsonValue)

def parsedCookie (payload : SessionPayload) : Properties :=
  payload.cookie.map fun (name, value) => (name, .json value)

def positiveNumber : Option PropertyValue → Option Number
  | some (.json (.number value)) => if (Number.ofInt 0).lt value then some value else none
  | _ => none

def cookieProperty (name : String) (cookie : Properties) : Option PropertyValue :=
  OrderedMap.lookupEntries (js name) cookie

-- The time of the call stands for every `Date.now()` in it.
def computeExpiration (now : Int) (cookie : Properties) : Option Number :=
  match positiveNumber (cookieProperty "originalMaxAge" cookie) with
  | some age => some ((Number.ofInt now).add age)
  | none =>
    match positiveNumber (cookieProperty "maxAge" cookie) with
    | some age => some ((Number.ofInt now).add age)
    | none =>
      match cookieProperty "expires" cookie with
      | some (.date time) => some time
      | _ => none

def isExpired (now : Int) (payload : SessionPayload) : Bool :=
  match computeExpiration now (parsedCookie payload) with
  | none => false
  | some expiration => expiration.le (.ofInt now)

end Cookies

section Store

-- A stored session, and beside its text what was last set and when its lifetime ends.
structure StoredSession where
  payload : SessionPayload
  lastSet : List (JsString × JsonValue)
  deadline : Option Number

abbrev SessionMap := OrderedMap JsString StoredSession

-- When the lifetime of a cookie ends that is stored now.
def cookieDeadline (dates : DateFormat) (now : Int) (cookie : SessionCookie) : Option Number :=
  match cookie.originalMaxAge with
  | some age => some ((Number.ofInt now).add age)
  | none =>
    match cookie.expires with
    | .null => none
    | .date time => some time
    | .text value => some (dates.parse value)

def StoredSession.passed (now : Int) (stored : StoredSession) : Bool :=
  match stored.deadline with
  | none => false
  | some deadline => deadline.le (.ofInt now)

inductive StoreCall where
  | get (sessionId : JsString) (now : Int)
  | set (sessionId : JsString) (session : SessionData) (now : Int)
  | destroy (sessionId : JsString)
  | clear
  | length (now : Int)
  | all (now : Int)
  | touch (sessionId : JsString) (session : SessionData) (now : Int)
  | cleanup (now : Int)

-- What the callback is given; it is called later.
inductive StoreAnswer where
  | done
  | session (session : Option SessionPayload)
  | length (length : Nat)
  | sessions (sessions : List SessionPayload)

variable (dates : DateFormat)

def getSession (sessions : SessionMap) (sessionId : JsString) (now : Int) :
    SessionMap × Option SessionPayload :=
  match sessions.get sessionId with
  | none => (sessions, none)
  | some record =>
    if isExpired now record.payload then (sessions.delete sessionId, none)
    else (sessions, some record.payload)

def setSession (sessions : SessionMap) (sessionId : JsString) (session : SessionData) (now : Int) :
    SessionMap :=
  sessions.set sessionId
    { payload :=
        { cookie := stringifyCookie dates (cloneCookie session.cookie), data := session.data }
      lastSet := session.data
      deadline := cookieDeadline dates now session.cookie }

def touchSession (sessions : SessionMap) (sessionId : JsString) (session : SessionData)
    (now : Int) : SessionMap :=
  match sessions.get sessionId with
  | none => sessions
  | some record =>
    sessions.set sessionId
      { record with
        payload :=
          { record.payload with
            cookie := stringifyCookie dates (cookieToJson session.cookie) }
        deadline := cookieDeadline dates now session.cookie }

-- The sessions that are active; the others are deleted.
def collectActiveSessions (sessions : SessionMap) (now : Int) : SessionMap × List SessionPayload :=
  let active := sessions.filter fun _ record => !isExpired now record.payload
  (active, active.entries.map fun entry => entry.2.payload)

def removeExpiredSessions (sessions : SessionMap) (now : Int) : SessionMap :=
  sessions.filter fun _ record => !isExpired now record.payload

def storeCall (sessions : SessionMap) : StoreCall → SessionMap × StoreAnswer
  | .get sessionId now =>
    let (after, session) := getSession sessions sessionId now
    (after, .session session)
  | .set sessionId session now => (setSession dates sessions sessionId session now, .done)
  | .destroy sessionId => (sessions.delete sessionId, .done)
  | .clear => (OrderedMap.empty, .done)
  | .length now =>
    let (after, active) := collectActiveSessions sessions now
    (after, .length active.length)
  | .all now =>
    let (after, active) := collectActiveSessions sessions now
    (after, .sessions active)
  | .touch sessionId session now => (touchSession dates sessions sessionId session now, .done)
  | .cleanup now => (removeExpiredSessions sessions now, .done)

def storeStep (sessions : SessionMap) (call : StoreCall) : SessionMap :=
  (storeCall dates sessions call).1

end Store

section Expiry

theorem not_passed_of_positive {age : Number} (h : (Number.ofInt 0).lt age = true) (now : Int) :
    ((Number.ofInt now).add age).le (.ofInt now) = false := by
  cases age with
  | nan => cases h
  | infinity negative =>
    cases negative with
    | true => cases h
    | false => rfl
  | finite value =>
    have hpositive : (0 : ℚ) < value := by simpa [Number.ofInt, Number.lt] using h
    simp [Number.ofInt, Number.add, Number.le, Number.lt, hpositive]

theorem positiveNumber_lt {value : Option PropertyValue} {age : Number}
    (h : positiveNumber value = some age) : (Number.ofInt 0).lt age = true := by
  unfold positiveNumber at h
  split at h
  · split at h
    · rename_i hlt
      rwa [← Option.some.inj h]
    · cases h
  · cases h

theorem property_parsed (name : String) (payload : SessionPayload) (time : Number) :
    cookieProperty name (parsedCookie payload) ≠ some (.date time) := by
  unfold cookieProperty parsedCookie
  induction payload.cookie with
  | nil => simp [OrderedMap.lookupEntries]
  | cons head rest ih =>
    simp only [List.map_cons, OrderedMap.lookupEntries]
    split
    · simp
    · exact ih

-- No session that was stored is ever expired: the relative lifetimes start again with
-- every look, and the absolute ones are no dates any more.
theorem isExpired_eq_false (now : Int) (payload : SessionPayload) :
    isExpired now payload = false := by
  unfold isExpired
  cases hexpiration : computeExpiration now (parsedCookie payload) with
  | none => rfl
  | some expiration =>
    unfold computeExpiration at hexpiration
    split at hexpiration
    · rename_i age hage
      rw [← Option.some.inj hexpiration]
      exact not_passed_of_positive (positiveNumber_lt hage) now
    · split at hexpiration
      · rename_i age hage
        rw [← Option.some.inj hexpiration]
        exact not_passed_of_positive (positiveNumber_lt hage) now
      · split at hexpiration
        · rename_i time htime
          exact absurd htime (property_parsed _ _ _)
        · cases hexpiration

theorem filter_active (sessions : SessionMap) (now : Int) :
    (sessions.filter fun _ record => !isExpired now record.payload) = sessions := by
  apply OrderedMap.ext
  apply List.filter_eq_self.mpr
  intro entry _
  simp [isExpired_eq_false]

end Expiry

section Lifetimes

variable (dates : DateFormat)

-- The sessions whose lifetime has not passed.
def livingSessions (sessions : SessionMap) (now : Int) : List (JsString × StoredSession) :=
  sessions.entries.filter fun entry => !entry.2.passed now

-- What a call is to answer, and a sweep to leave.
def HonoursLifetimes (sessions : SessionMap) : StoreCall → Prop
  | .get sessionId now => ∃ answer,
      (storeCall dates sessions (.get sessionId now)).2 = .session answer ∧
      answer.map SessionPayload.data =
        ((sessions.get sessionId).filter fun stored => !stored.passed now).map StoredSession.lastSet
  | .all now => ∃ answer, (storeCall dates sessions (.all now)).2 = .sessions answer ∧
      answer.map SessionPayload.data =
        (livingSessions sessions now).map fun entry => entry.2.lastSet
  | .length now =>
    (storeCall dates sessions (.length now)).2 = .length (livingSessions sessions now).length
  | .cleanup now =>
    (storeCall dates sessions (.cleanup now)).1.entries = livingSessions sessions now
  | .set _ _ _ | .touch _ _ _ | .destroy _ | .clear => True

-- The lifetime of no session that the call looks at has passed.
def NonePassed (sessions : SessionMap) : StoreCall → Prop
  | .get sessionId now => ∀ stored, sessions.get sessionId = some stored →
      stored.passed now = false
  | .all now | .length now | .cleanup now => ∀ entry ∈ sessions.entries,
      entry.2.passed now = false
  | .set _ _ _ | .touch _ _ _ | .destroy _ | .clear => True

-- The text of a session still has the data that was last set.
def KeepsData (sessions : SessionMap) : Prop :=
  ∀ entry ∈ sessions.entries, entry.2.payload.data = entry.2.lastSet

variable {dates} {sessions : SessionMap}

theorem keepsData_set (h : KeepsData sessions) (sessionId : JsString) {stored : StoredSession}
    (hstored : stored.payload.data = stored.lastSet) :
    KeepsData (sessions.set sessionId stored) := by
  intro entry hentry
  rcases OrderedMap.mem_setEntries hentry with rfl | hold
  · exact hstored
  · exact h entry hold

theorem keepsData_of_subset {after : SessionMap} (h : KeepsData sessions)
    (hsubset : ∀ entry ∈ after.entries, entry ∈ sessions.entries) : KeepsData after :=
  fun entry hentry => h entry (hsubset entry hentry)

theorem getSession_eq (sessionId : JsString) (now : Int) :
    getSession sessions sessionId now =
      (sessions, (sessions.get sessionId).map StoredSession.payload) := by
  unfold getSession
  cases sessions.get sessionId with
  | none => rfl
  | some record => simp [isExpired_eq_false]

theorem keepsData_touch (h : KeepsData sessions) (sessionId : JsString) (session : SessionData)
    (now : Int) : KeepsData (touchSession dates sessions sessionId session now) := by
  unfold touchSession
  cases hget : sessions.get sessionId with
  | none => exact h
  | some record =>
    have hrecord := h _ ((OrderedMap.get_eq_some_iff sessions sessionId record).mp hget)
    exact keepsData_set h sessionId hrecord

theorem keepsData_step (h : KeepsData sessions) (call : StoreCall) :
    KeepsData (storeStep dates sessions call) := by
  cases call with
  | get sessionId now =>
    simp only [storeStep, storeCall, getSession_eq]
    exact h
  | set sessionId session now => exact keepsData_set h sessionId rfl
  | destroy | length | all | cleanup =>
    exact keepsData_of_subset h fun entry hentry => (List.mem_filter.mp hentry).1
  | clear => exact keepsData_of_subset h fun entry hentry => absurd hentry List.not_mem_nil
  | touch sessionId session now => exact keepsData_touch h sessionId session now

theorem living_eq_iff (now : Int) :
    livingSessions sessions now = sessions.entries ↔
      ∀ entry ∈ sessions.entries, entry.2.passed now = false := by
  rw [livingSessions, List.filter_eq_self]
  simp

theorem living_length_iff (now : Int) :
    sessions.entries.length = (livingSessions sessions now).length ↔
      ∀ entry ∈ sessions.entries, entry.2.passed now = false := by
  rw [← living_eq_iff, eq_comm, livingSessions, List.length_filter_eq_length_iff,
    List.filter_eq_self]

theorem honours_iff (h : KeepsData sessions) (call : StoreCall) :
    HonoursLifetimes dates sessions call ↔ NonePassed sessions call := by
  have hactive : ∀ now, collectActiveSessions sessions now =
      (sessions, sessions.entries.map fun entry => entry.2.payload) := by
    intro now
    simp only [collectActiveSessions, filter_active]
  cases call with
  | get sessionId now =>
    simp only [HonoursLifetimes, NonePassed, storeCall, getSession_eq]
    cases hget : sessions.get sessionId with
    | none => simp
    | some stored =>
      have hdata : stored.payload.data = stored.lastSet :=
        h _ ((OrderedMap.get_eq_some_iff sessions sessionId stored).mp hget)
      cases hpassed : stored.passed now with
      | false => simp [hpassed, hdata]
      | true => simp [hpassed]
  | all now =>
    simp only [HonoursLifetimes, NonePassed, storeCall, hactive]
    have hdata : (sessions.entries.map fun entry => entry.2.payload).map SessionPayload.data =
        sessions.entries.map fun entry => entry.2.lastSet := by
      rw [List.map_map]
      exact List.map_congr_left h
    constructor
    · rintro ⟨answer, hanswer, hlast⟩
      obtain rfl := StoreAnswer.sessions.inj hanswer
      have hlength := congrArg List.length (hdata.symm.trans hlast)
      rw [List.length_map, List.length_map] at hlength
      exact (living_length_iff now).mp hlength
    · intro hnone
      refine ⟨_, rfl, ?_⟩
      rw [hdata, (living_eq_iff now).mpr hnone]
  | length now =>
    simp only [HonoursLifetimes, NonePassed, storeCall, hactive, List.length_map]
    rw [← living_length_iff, StoreAnswer.length.injEq]
  | cleanup now =>
    simp only [HonoursLifetimes, NonePassed, storeCall, removeExpiredSessions, filter_active]
    rw [← living_eq_iff, eq_comm]
  | set _ _ _ => exact Iff.rfl
  | touch _ _ _ => exact Iff.rfl
  | destroy _ => exact Iff.rfl
  | clear => exact Iff.rfl

theorem lifetimes_iff (dates : DateFormat) (calls : List StoreCall) :
    Run.Along (storeStep dates) (HonoursLifetimes dates) OrderedMap.empty calls ↔
      Run.Along (storeStep dates) NonePassed OrderedMap.empty calls := by
  apply @Run.along_congr _ _ (storeStep dates) KeepsData
  · exact fun sessions call h => keepsData_step h call
  · exact fun sessions call h => honours_iff h call
  · exact fun entry hentry => absurd hentry List.not_mem_nil

-- A session with a lifetime of one second, asked for a second after it was set.
def outlivedCookie : SessionCookie where
  isInstance := true
  originalMaxAge := some (.ofInt 1000)
  expires := .date (.ofInt 1000)
  others := [(js "path", .string (js "/"))]

def outlivedSession : List StoreCall :=
  [.set (js "sid") ⟨outlivedCookie, []⟩ 0, .get (js "sid") 1000]

-- The dates of the first second only.
def firstSecond : DateFormat where
  toJson time := .string (if time = .ofInt 1000 then js "1970-01-01T00:00:01.000Z"
    else js "1970-01-01T00:00:00.000Z")
  parse text := if text = js "1970-01-01T00:00:01.000Z" then .ofInt 1000 else .ofInt 0

theorem lifetimes_not_outlived : ¬∀ (dates : DateFormat) (calls : List StoreCall),
    Run.Along (storeStep dates) (HonoursLifetimes dates) OrderedMap.empty calls := by
  intro hall
  obtain ⟨-, ⟨answer, hanswer, hlast⟩, -⟩ := hall firstSecond outlivedSession
  simp only [storeCall, getSession_eq] at hanswer
  obtain rfl := StoreAnswer.session.inj hanswer
  have hpassed : (StoredSession.mk
      ⟨stringifyCookie firstSecond (cloneCookie outlivedCookie), []⟩ []
      (cookieDeadline firstSecond 0 outlivedCookie)).passed 1000 = true := by decide +kernel
  simp [storeStep, storeCall, setSession, hpassed] at hlast

end Lifetimes

end WebSsh2.Http
