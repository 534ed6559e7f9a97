import WebSsh2.Library.Run
import WebSsh2.Library.Slots
import WebSsh2.Sftp.SftpService

namespace WebSsh2.Sftp

open WebSsh2.Library WebSsh2.Library.Run WebSsh2.State

-- A channel is known by the number of the request that it answers.
abbrev Channel := Nat

structure ChannelSession extends SftpSession where
  sftp : Channel

-- A request whose callback is still to come, and the session that it makes if it succeeds.
structure PendingOpen where
  session : ChannelSession
  timedOut : Bool

-- The last three fields say what has happened; no operation reads them.
structure SessionManager where
  sessions : OrderedMap ConnectionId ChannelSession
  pending : List PendingOpen
  requested : Nat
  delivered : List ChannelSession
  ended : List Channel
  closed : List ConnectionId

-- `SFTP_LIMITS.MAX_SESSIONS_PER_CONNECTION`
def maxSessionsPerConnection : Nat := 1

namespace SessionManager

def initial : SessionManager where
  sessions := .empty
  pending := []
  requested := 0
  delivered := []
  ended := []
  closed := []

section Operations

variable (manager : SessionManager)

variable (connectionId : ConnectionId)

def getSession : Option ChannelSession :=
  manager.sessions.get connectionId

-- The second component is what the promise settles with, if it settles here.
def openSession (sessionId : SessionId) (threw : Option JsString) :
    SessionManager × Option (Except SftpSessionError ChannelSession) :=
  match manager.sessions.get connectionId with
  | some existing => (manager, some (.ok existing))
  | none =>
    match threw with
    | some message => (manager, some (.error {
        code := .sessionError, message := js "SFTP session error: " ++ message }))
    | none =>
      let session : ChannelSession := { connectionId, sessionId, sftp := manager.requested }
      ({ manager with
          pending := manager.pending ++ [{ session, timedOut := false }]
          requested := manager.requested + 1 }, none)

def ensureSession (connected : Bool) (connectionId : ConnectionId) (sessionId : SessionId)
    (threw : Option JsString) :
    SessionManager × Option (Except SftpServiceError ChannelSession) :=
  match manager.getSession connectionId with
  | some existing => (manager, some (.ok existing))
  | none =>
    if connected then
      let (manager, result) := manager.openSession connectionId sessionId threw
      (manager, result.map fun result => result.mapError mapSessionError)
    else
      (manager, some (.error { code := .noConnection, message := messageNoConnection }))

variable (channel : Channel)

def awaited : Option PendingOpen :=
  manager.pending.find? fun pending => pending.session.sftp = channel

-- The timer of `openSession`: the promise is settled, the request goes on.
def openTimeout : SessionManager × Option (Except SftpSessionError ChannelSession) :=
  match manager.awaited channel with
  | none => (manager, none)
  | some request =>
    if request.timedOut then
      (manager, none)
    else
      ({ manager with
          pending := manager.pending.map fun pending =>
            if pending.session.sftp = channel then { pending with timedOut := true }
            else pending },
        some (.error { code := .timeout, message := js "SFTP session open timeout" }))

-- The callback of `sshClient.sftp`. A promise that the timer has settled stays as it is.
def sftpCallback (outcome : Except JsString Unit) :
    SessionManager × Option (Except SftpSessionError ChannelSession) :=
  match manager.awaited channel with
  | none => (manager, none)
  | some request =>
    let manager := { manager with
      pending := manager.pending.filter fun pending => pending.session.sftp ≠ channel }
    let settled := fun result => if request.timedOut then none else some result
    match outcome with
    | .error message => (manager, settled (.error {
        code := .sessionError, message := js "Failed to open SFTP session: " ++ message }))
    | .ok () =>
      ({ manager with
          sessions := manager.sessions.set request.session.connectionId request.session
          delivered := manager.delivered ++ [request.session] },
        settled (.ok request.session))

-- `sftp.end()` ends the channel or throws; the session is forgotten in both cases.
def closeSession (ends : Bool) : SessionManager :=
  let manager := { manager with closed := connectionId :: manager.closed }
  match manager.sessions.get connectionId with
  | none => manager
  | some session => { manager with
      sessions := manager.sessions.delete connectionId
      ended := if ends then session.sftp :: manager.ended else manager.ended }

end Operations

inductive SessionEvent where
  | ensureSession (connected : Bool) (connectionId : ConnectionId) (sessionId : SessionId)
      (threw : Option JsString)
  | openSession (connectionId : ConnectionId) (sessionId : SessionId) (threw : Option JsString)
  | timeout (channel : Channel)
  | callback (channel : Channel) (outcome : Except JsString Unit)
  | closeSession (connectionId : ConnectionId) (ends : Bool)

def step (manager : SessionManager) : SessionEvent → SessionManager
  | .ensureSession connected connectionId sessionId threw =>
    (manager.ensureSession connected connectionId sessionId threw).1
  | .openSession connectionId sessionId threw =>
    (manager.openSession connectionId sessionId threw).1
  | .timeout channel => (manager.openTimeout channel).1
  | .callback channel outcome => (manager.sftpCallback channel outcome).1
  | .closeSession connectionId ends => manager.closeSession connectionId ends

-- The channel of the session in the map.
def channel (manager : SessionManager) (connectionId : ConnectionId) : Option Channel :=
  (manager.sessions.get connectionId).map ChannelSession.sftp

def openChannels (manager : SessionManager) (connectionId : ConnectionId) : List Channel :=
  (manager.delivered.filter fun session =>
    session.connectionId = connectionId ∧ session.sftp ∉ manager.ended).map ChannelSession.sftp

structure OneChannel (manager : SessionManager) : Prop where
  kept : ∀ session ∈ manager.delivered,
    manager.channel session.connectionId = some session.sftp ∨ session.sftp ∈ manager.ended
  closed : ∀ connectionId ∈ manager.closed, manager.sessions.get connectionId = none
  one : ∀ connectionId,
    (manager.openChannels connectionId).length ≤ maxSessionsPerConnection

def Allowed (manager : SessionManager) : SessionEvent → Prop
  | .callback channel (.ok ()) => ∀ request, manager.awaited channel = some request →
      manager.sessions.get request.session.connectionId = none ∧
        request.session.connectionId ∉ manager.closed
  | .closeSession connectionId ends => ends = false → manager.sessions.get connectionId = none
  | _ => True

section Slots

-- The sessions as places for channels.
def slots (manager : SessionManager) : Slots ConnectionId Channel where
  stored := manager.channel
  made := manager.delivered.map fun session => (session.connectionId, session.sftp)
  released := manager.ended

variable {manager : SessionManager}

theorem slots_accounted_iff :
    manager.slots.Accounted ↔ ∀ session ∈ manager.delivered,
      manager.channel session.connectionId = some session.sftp ∨
        session.sftp ∈ manager.ended := by
  constructor
  · intro h session hmem
    exact h session.connectionId session.sftp (List.mem_map_of_mem hmem)
  · intro h connectionId channel hmade
    obtain ⟨session, hmem, heq⟩ := List.mem_map.mp hmade
    obtain ⟨rfl, rfl⟩ := Prod.mk.inj heq
    exact h session hmem

theorem length_openChannels (connectionId : ConnectionId) :
    (manager.openChannels connectionId).length = (manager.slots.live connectionId).length := by
  unfold openChannels Slots.live
  rw [List.length_map]
  show _ = ((manager.delivered.map _).filter _).length
  rw [List.filter_map, List.length_map]
  rfl

-- One channel at a time is all that the rest leaves.
theorem oneChannel_iff (hsound : manager.slots.Sound) :
    manager.OneChannel ↔ manager.slots.Accounted ∧
      ∀ connectionId ∈ manager.closed, manager.sessions.get connectionId = none := by
  constructor
  · intro h
    exact ⟨slots_accounted_iff.mpr h.kept, h.closed⟩
  · rintro ⟨haccounted, hclosed⟩
    refine ⟨slots_accounted_iff.mp haccounted, hclosed, fun connectionId => ?_⟩
    rw [length_openChannels]
    exact Slots.live_length_le_one hsound haccounted connectionId

end Slots

section Steps

-- A step that delivers no channel and closes no session.
structure Quiet (before after : SessionManager) : Prop where
  sessions : after.sessions = before.sessions
  delivered : after.delivered = before.delivered
  ended : after.ended = before.ended
  closed : after.closed = before.closed
  requested : before.requested ≤ after.requested
  pending : ∀ request ∈ after.pending,
    (∃ earlier ∈ before.pending, earlier.session = request.session) ∨
      (request.session.sftp = before.requested ∧ before.requested < after.requested)

variable (manager : SessionManager)

theorem quiet_refl : Quiet manager manager :=
  ⟨rfl, rfl, rfl, rfl, Nat.le_refl _, fun request hmem => .inl ⟨request, hmem, rfl⟩⟩

variable (connectionId : ConnectionId)

theorem quiet_openSession (sessionId : SessionId) (threw : Option JsString) :
    Quiet manager (manager.openSession connectionId sessionId threw).1 := by
  unfold openSession
  cases manager.sessions.get connectionId with
  | some existing => exact quiet_refl manager
  | none =>
    cases threw with
    | some message => exact quiet_refl manager
    | none =>
      refine ⟨rfl, rfl, rfl, rfl, Nat.le_succ _, fun request hmem => ?_⟩
      rcases List.mem_append.mp hmem with hmem | hmem
      · exact .inl ⟨request, hmem, rfl⟩
      · obtain rfl := List.mem_singleton.mp hmem
        exact .inr ⟨rfl, Nat.lt_succ_self _⟩

theorem quiet_ensureSession (connected : Bool) (connectionId : ConnectionId)
    (sessionId : SessionId) (threw : Option JsString) :
    Quiet manager (manager.ensureSession connected connectionId sessionId threw).1 := by
  unfold ensureSession
  cases manager.getSession connectionId with
  | some existing => exact quiet_refl manager
  | none =>
    cases connected with
    | true => exact quiet_openSession manager connectionId sessionId threw
    | false => exact quiet_refl manager

theorem quiet_openTimeout (channel : Channel) : Quiet manager (manager.openTimeout channel).1 := by
  unfold openTimeout
  cases manager.awaited channel with
  | none => exact quiet_refl manager
  | some request =>
    dsimp only
    split
    · exact quiet_refl manager
    · refine ⟨rfl, rfl, rfl, rfl, Nat.le_refl _, fun later hmem => .inl ?_⟩
      obtain ⟨earlier, hearlier, rfl⟩ := List.mem_map.mp hmem
      refine ⟨earlier, hearlier, ?_⟩
      split <;> rfl

theorem quiet_sftpCallback_error (channel : Channel) (message : JsString) :
    Quiet manager (manager.sftpCallback channel (.error message)).1 := by
  unfold sftpCallback
  cases manager.awaited channel with
  | none => exact quiet_refl manager
  | some request =>
    refine ⟨rfl, rfl, rfl, rfl, Nat.le_refl _, fun later hmem => .inl ?_⟩
    exact ⟨later, (List.mem_filter.mp hmem).1, rfl⟩

variable {manager}

theorem Quiet.slots_eq {before after : SessionManager} (h : Quiet before after) :
    after.slots = before.slots := by
  unfold slots channel
  rw [h.sessions, h.delivered, h.ended]

variable {request : PendingOpen} {channel : Channel}

theorem awaited_mem (h : manager.awaited channel = some request) :
    request ∈ manager.pending ∧ request.session.sftp = channel := by
  unfold awaited at h
  have hnumber := List.find?_some h
  exact ⟨List.mem_of_find?_eq_some h, of_decide_eq_true hnumber⟩

theorem slots_sftpCallback (h : manager.awaited channel = some request) :
    (manager.sftpCallback channel (.ok ())).1.slots =
      manager.slots.fill request.session.connectionId request.session.sftp := by
  have hstored : ∀ connectionId,
      ((manager.sessions.set request.session.connectionId request.session).get connectionId).map
          ChannelSession.sftp =
        Function.update manager.channel request.session.connectionId (some request.session.sftp)
          connectionId := by
    intro connectionId
    rw [OrderedMap.get_set, Function.update_apply]
    by_cases hkey : request.session.connectionId = connectionId
    · rw [if_pos hkey, if_pos hkey.symm]
      rfl
    · rw [if_neg hkey, if_neg (Ne.symm hkey)]
      rfl
  unfold sftpCallback slots Slots.fill
  rw [h]
  simp only [List.map_append, List.map_cons, List.map_nil, Slots.mk.injEq, and_true]
  exact funext hstored

theorem slots_closeSession (ends : Bool) :
    (manager.closeSession connectionId ends).slots = manager.slots.clear connectionId ends := by
  have hstored : ∀ other,
      ((manager.sessions.delete connectionId).get other).map ChannelSession.sftp =
        Function.update manager.channel connectionId none other := by
    intro other
    rw [OrderedMap.get_delete, Function.update_apply]
    by_cases hkey : connectionId = other
    · rw [if_pos hkey, if_pos hkey.symm]
      rfl
    · rw [if_neg hkey, if_neg (Ne.symm hkey)]
      rfl
  unfold closeSession
  dsimp only
  cases hsession : manager.sessions.get connectionId with
  | none =>
    have hchannel : manager.channel connectionId = none := by
      rw [channel, hsession]
      rfl
    unfold slots Slots.clear
    simp only [Slots.mk.injEq, true_and]
    refine ⟨?_, ?_⟩
    · rw [← hchannel, Function.update_eq_self]
      rfl
    · rw [hchannel]
      cases ends <;> rfl
  | some session =>
    have hchannel : manager.channel connectionId = some session.sftp := by
      rw [channel, hsession]
      rfl
    unfold slots Slots.clear
    simp only [Slots.mk.injEq, true_and]
    refine ⟨funext hstored, ?_⟩
    rw [hchannel]
    cases ends <;> rfl

-- The numbers of requests that are still out were not given to any channel yet.
structure Numbered (manager : SessionManager) : Prop where
  pending : ∀ request ∈ manager.pending, request.session.sftp < manager.requested ∧
    request.session.sftp ∉ manager.delivered.map ChannelSession.sftp
  delivered : ∀ session ∈ manager.delivered, session.sftp < manager.requested

theorem Quiet.numbered {before after : SessionManager} (h : Quiet before after)
    (hbefore : before.Numbered) : after.Numbered := by
  constructor
  · intro request hmem
    rw [h.delivered]
    rcases h.pending request hmem with ⟨earlier, hearlier, heq⟩ | ⟨hnumber, hless⟩
    · obtain ⟨hless, hfresh⟩ := hbefore.pending earlier hearlier
      rw [← heq]
      exact ⟨Nat.lt_of_lt_of_le hless h.requested, hfresh⟩
    · refine ⟨hnumber ▸ hless, fun hold => ?_⟩
      obtain ⟨session, hsession, heq⟩ := List.mem_map.mp hold
      exact Nat.ne_of_lt (hbefore.delivered session hsession) (heq.trans hnumber)
  · intro session hmem
    rw [h.delivered] at hmem
    exact Nat.lt_of_lt_of_le (hbefore.delivered session hmem) h.requested

theorem numbered_sftpCallback (h : manager.Numbered)
    (hawaited : manager.awaited channel = some request) :
    (manager.sftpCallback channel (.ok ())).1.Numbered := by
  obtain ⟨hrequest, rfl⟩ := awaited_mem hawaited
  unfold sftpCallback
  rw [hawaited]
  constructor
  · intro later hmem
    obtain ⟨hmem, hne⟩ := List.mem_filter.mp hmem
    obtain ⟨hless, hfresh⟩ := h.pending later hmem
    refine ⟨hless, fun hold => ?_⟩
    rw [List.map_append, List.mem_append] at hold
    rcases hold with hold | hold
    · exact hfresh hold
    · exact of_decide_eq_true hne (List.mem_singleton.mp hold)
  · intro session hmem
    rcases List.mem_append.mp hmem with hmem | hmem
    · exact h.delivered session hmem
    · obtain rfl := List.mem_singleton.mp hmem
      exact (h.pending request hrequest).1

theorem numbered_closeSession (h : manager.Numbered) (connectionId : ConnectionId) (ends : Bool) :
    (manager.closeSession connectionId ends).Numbered := by
  unfold closeSession
  dsimp only
  split
  · exact ⟨h.pending, h.delivered⟩
  · exact ⟨h.pending, h.delivered⟩

-- What every run keeps, whatever the steps.
structure Sound (manager : SessionManager) : Prop where
  numbered : manager.Numbered
  slots : manager.slots.Sound

theorem sound_initial : initial.Sound where
  numbered := ⟨fun _ hmem => absurd hmem List.not_mem_nil,
    fun _ hmem => absurd hmem List.not_mem_nil⟩
  slots := {
    made := fun _ _ hstored => absurd hstored (Option.some_ne_none _).symm
    held := fun _ _ _ => List.not_mem_nil
    released := fun _ hmem => absurd hmem List.not_mem_nil
    distinct := List.nodup_nil }

theorem Quiet.sound {before after : SessionManager} (h : Quiet before after)
    (hbefore : before.Sound) : after.Sound :=
  ⟨h.numbered hbefore.numbered, h.slots_eq ▸ hbefore.slots⟩

theorem Quiet.oneChannel_iff {before after : SessionManager} (h : Quiet before after)
    (hbefore : before.Sound) : after.OneChannel ↔ before.OneChannel := by
  rw [SessionManager.oneChannel_iff hbefore.slots,
    SessionManager.oneChannel_iff (h.sound hbefore).slots, h.slots_eq, h.closed, h.sessions]

theorem slots_channels (manager : SessionManager) :
    manager.slots.made.map Prod.snd = manager.delivered.map ChannelSession.sftp :=
  List.map_map

theorem channel_eq_none_iff :
    manager.channel connectionId = none ↔ manager.sessions.get connectionId = none :=
  Option.map_eq_none_iff

theorem fresh_of_awaited (h : manager.Numbered) (hawaited : manager.awaited channel = some request) :
    request.session.sftp ∉ manager.slots.made.map Prod.snd := by
  rw [slots_channels]
  exact (h.pending request (awaited_mem hawaited).1).2

theorem step_callback_none (h : manager.awaited channel = none) (outcome : Except JsString Unit) :
    manager.step (.callback channel outcome) = manager := by
  show (manager.sftpCallback channel outcome).1 = manager
  unfold sftpCallback
  rw [h]

theorem closeSession_get (connectionId other : ConnectionId) (ends : Bool) :
    (manager.closeSession connectionId ends).sessions.get other =
      if connectionId = other then none else manager.sessions.get other := by
  unfold closeSession
  dsimp only
  split
  next hnone =>
    by_cases hkey : connectionId = other
    · rw [if_pos hkey, ← hkey]
      exact hnone
    · rw [if_neg hkey]
  next =>
    rw [OrderedMap.get_delete]

theorem closeSession_closed (ends : Bool) :
    (manager.closeSession connectionId ends).closed = connectionId :: manager.closed := by
  unfold closeSession
  dsimp only
  split <;> rfl

theorem sound_step (manager : SessionManager) (event : SessionEvent) (h : manager.Sound) :
    (manager.step event).Sound := by
  cases event with
  | ensureSession connected connectionId sessionId threw =>
    exact (quiet_ensureSession manager connected connectionId sessionId threw).sound h
  | openSession connectionId sessionId threw =>
    exact (quiet_openSession manager connectionId sessionId threw).sound h
  | timeout channel => exact (quiet_openTimeout manager channel).sound h
  | callback channel outcome =>
    cases outcome with
    | error message => exact (quiet_sftpCallback_error manager channel message).sound h
    | ok =>
      cases hawaited : manager.awaited channel with
      | none =>
        rw [step_callback_none hawaited]
        exact h
      | some request =>
        refine ⟨numbered_sftpCallback h.numbered hawaited, ?_⟩
        show (manager.sftpCallback channel (.ok ())).1.slots.Sound
        rw [slots_sftpCallback hawaited]
        exact h.slots.fill (fresh_of_awaited h.numbered hawaited)
  | closeSession connectionId ends =>
    refine ⟨numbered_closeSession h.numbered connectionId ends, ?_⟩
    show (manager.closeSession connectionId ends).slots.Sound
    rw [slots_closeSession]
    exact h.slots.clear ends

-- What a channel leaves that was asked for.
theorem sftpCallback_get (h : manager.awaited channel = some request) (other : ConnectionId) :
    (manager.sftpCallback channel (.ok ())).1.sessions.get other =
      if request.session.connectionId = other then some request.session
      else manager.sessions.get other := by
  unfold sftpCallback
  rw [h]
  exact OrderedMap.get_set ..

theorem sftpCallback_closed (h : manager.awaited channel = some request) :
    (manager.sftpCallback channel (.ok ())).1.closed = manager.closed := by
  unfold sftpCallback
  rw [h]

theorem callback_oneChannel_iff (h : manager.Sound) (hone : manager.OneChannel)
    (hawaited : manager.awaited channel = some request) :
    (manager.step (.callback channel (.ok ()))).OneChannel ↔
      manager.sessions.get request.session.connectionId = none ∧
        request.session.connectionId ∉ manager.closed := by
  have hafter := sound_step manager (.callback channel (.ok ())) h
  obtain ⟨haccounted, hclosed⟩ := (oneChannel_iff h.slots).mp hone
  rw [oneChannel_iff hafter.slots]
  show (manager.sftpCallback channel (.ok ())).1.slots.Accounted ∧
    (∀ connectionId ∈ (manager.sftpCallback channel (.ok ())).1.closed,
      (manager.sftpCallback channel (.ok ())).1.sessions.get connectionId = none) ↔ _
  rw [slots_sftpCallback hawaited, sftpCallback_closed hawaited,
    Slots.accounted_fill_iff h.slots haccounted (fresh_of_awaited h.numbered hawaited)]
  apply and_congr (channel_eq_none_iff _)
  constructor
  · intro hnone hmem
    have hstored := hnone _ hmem
    rw [sftpCallback_get hawaited, if_pos rfl] at hstored
    cases hstored
  · intro hnot connectionId hmem
    have hne : request.session.connectionId ≠ connectionId := fun heq => hnot (heq ▸ hmem)
    rw [sftpCallback_get hawaited, if_neg hne]
    exact hclosed connectionId hmem

theorem closeSession_oneChannel_iff (h : manager.Sound) (hone : manager.OneChannel)
    (connectionId : ConnectionId) (ends : Bool) :
    (manager.step (.closeSession connectionId ends)).OneChannel ↔
      (ends = false → manager.sessions.get connectionId = none) := by
  have hafter := sound_step manager (.closeSession connectionId ends) h
  obtain ⟨haccounted, hclosed⟩ := (oneChannel_iff h.slots).mp hone
  have hnone : ∀ other ∈ (manager.closeSession connectionId ends).closed,
      (manager.closeSession connectionId ends).sessions.get other = none := by
    intro other hmem
    rw [closeSession_closed] at hmem
    rw [closeSession_get]
    by_cases hkey : connectionId = other
    · exact if_pos hkey
    · rw [if_neg hkey]
      exact hclosed other ((List.mem_cons.mp hmem).resolve_left (Ne.symm hkey))
  rw [oneChannel_iff hafter.slots]
  show (manager.closeSession connectionId ends).slots.Accounted ∧
    (∀ other ∈ (manager.closeSession connectionId ends).closed,
      (manager.closeSession connectionId ends).sessions.get other = none) ↔ _
  rw [and_iff_left hnone, slots_closeSession, Slots.accounted_clear_iff h.slots haccounted]
  exact imp_congr Iff.rfl (channel_eq_none_iff connectionId)

theorem step_oneChannel_iff (manager : SessionManager) (event : SessionEvent)
    (h : manager.Sound) (hone : manager.OneChannel) :
    (manager.step event).OneChannel ↔ manager.Allowed event := by
  cases event with
  | ensureSession connected connectionId sessionId threw =>
    exact iff_of_true (((quiet_ensureSession manager connected connectionId sessionId
      threw).oneChannel_iff h).mpr hone) trivial
  | openSession connectionId sessionId threw =>
    exact iff_of_true (((quiet_openSession manager connectionId sessionId
      threw).oneChannel_iff h).mpr hone) trivial
  | timeout channel =>
    exact iff_of_true (((quiet_openTimeout manager channel).oneChannel_iff h).mpr hone) trivial
  | callback channel outcome =>
    cases outcome with
    | error message =>
      exact iff_of_true (((quiet_sftpCallback_error manager channel message).oneChannel_iff
        h).mpr hone) trivial
    | ok =>
      cases hawaited : manager.awaited channel with
      | none =>
        rw [step_callback_none hawaited]
        refine iff_of_true hone fun request hrequest => ?_
        rw [hawaited] at hrequest
        cases hrequest
      | some request =>
        rw [callback_oneChannel_iff h hone hawaited]
        constructor
        · intro hfree other hother
          rw [hawaited] at hother
          obtain rfl := Option.some.inj hother
          exact hfree
        · exact fun hallowed => hallowed request hawaited
  | closeSession connectionId ends => exact closeSession_oneChannel_iff h hone connectionId ends

end Steps

theorem oneChannel_initial : initial.OneChannel :=
  (oneChannel_iff sound_initial.slots).mpr
    ⟨fun _ _ hmem => absurd hmem List.not_mem_nil, fun _ hmem => absurd hmem List.not_mem_nil⟩

-- Runs from the start, over all orders of requests, timers, callbacks and closes.
theorem throughout_oneChannel_iff (events : List SessionEvent) :
    Throughout step OneChannel initial events ↔ Along step Allowed initial events :=
  throughout_iff_along sound_step step_oneChannel_iff sound_initial oneChannel_initial events

-- Two requests before the first callback: the second channel takes the place of the first,
-- which nobody ends.
def concurrentOpens : List SessionEvent :=
  [.ensureSession true (js "c1") (js "s1") none, .ensureSession true (js "c1") (js "s1") none,
    .callback 0 (.ok ()), .callback 1 (.ok ())]

-- The timer settles the request and the client leaves; then the channel comes.
def lateChannel : List SessionEvent :=
  [.ensureSession true (js "c1") (js "s1") none, .timeout 0, .closeSession (js "c1") true,
    .callback 0 (.ok ())]

theorem races_not_oneChannel :
    ((run step initial concurrentOpens).openChannels (js "c1") = [0, 1] ∧
      ¬Throughout step OneChannel initial concurrentOpens) ∧
    ((run step initial lateChannel).channel (js "c1") = some 0 ∧
      js "c1" ∈ (run step initial lateChannel).closed ∧
      ¬Throughout step OneChannel initial lateChannel) := by
  refine ⟨⟨by decide, fun h => ?_⟩, by decide, by decide, fun h => ?_⟩
  · have hone := (throughout_last step h).one (js "c1")
    exact absurd hone (by decide)
  · have hnone := (throughout_last step h).closed (js "c1") (by decide)
    rw [← channel_eq_none_iff] at hnone
    exact absurd hnone (by decide)

end SessionManager

end WebSsh2.Sftp
