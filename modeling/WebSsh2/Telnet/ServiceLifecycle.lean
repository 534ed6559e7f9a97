import WebSsh2.Telnet.Lifecycle

namespace WebSsh2.Telnet

open WebSsh2.Library WebSsh2.State

section Sockets

-- What the shells do with a socket does not destroy it.
@[simp] theorem NetSocket.destroyed_write (socket : NetSocket) (sent : Sent) :
    (socket.write sent).destroyed = socket.destroyed := by
  unfold NetSocket.write
  split <;> rfl

@[simp] theorem NetSocket.destroyed_writeAll (socket : NetSocket) (sents : List Sent) :
    (socket.writeAll sents).destroyed = socket.destroyed := by
  unfold NetSocket.writeAll
  induction sents generalizing socket with
  | nil => rfl
  | cons sent rest ih => rw [List.foldl_cons, ih, NetSocket.destroyed_write]

variable (shell : Shell) (socket : NetSocket)

theorem Shell.destroyed_pushData (chunk : Bytes) :
    (shell.pushData socket chunk).2.destroyed = socket.destroyed := by
  unfold Shell.pushData
  dsimp only
  split <;> rfl

theorem Shell.destroyed_deliver (bytes : Bytes) :
    (shell.deliver socket bytes).2.destroyed = socket.destroyed := by
  unfold Shell.deliver
  split
  · exact shell.destroyed_pushData socket bytes
  · rfl

theorem Shell.destroyed_read : (shell.read socket).2.destroyed = socket.destroyed := by
  unfold Shell.read
  split <;> rfl

theorem Shell.destroyed_handleSocketData (data : Bytes) :
    (shell.handleSocketData socket data).2.destroyed = socket.destroyed := by
  unfold Shell.handleSocketData
  dsimp only
  split
  · exact NetSocket.destroyed_writeAll _ _
  · split
    · rw [Shell.destroyed_pushData, NetSocket.destroyed_writeAll]
    · rw [Shell.destroyed_deliver, NetSocket.destroyed_writeAll, NetSocket.destroyed_writeAll]

theorem Shell.destroyed_fireTimer (handle : Nat) :
    (shell.fireTimer socket handle).2.destroyed = socket.destroyed := by
  unfold Shell.fireTimer
  split
  · rfl
  · exact Shell.destroyed_deliver _ _ _

theorem destroyed_writeStream (text : JsString) :
    (TelnetServiceImpl.writeStream text shell socket).2.destroyed = socket.destroyed := by
  unfold TelnetServiceImpl.writeStream
  split
  · rfl
  · exact NetSocket.destroyed_write _ _

theorem destroyed_dataListener (call : Nat) (data : Bytes) :
    (TelnetServiceImpl.dataListener call data shell socket).2.destroyed = socket.destroyed := by
  unfold TelnetServiceImpl.dataListener
  split
  · exact shell.destroyed_handleSocketData socket data
  · rfl

end Sockets

namespace TelnetServiceImpl

variable {service next : TelnetServiceImpl}

theorem lifecycle_ext (hcount : next.calls.length = service.calls.length)
    (hcalls : ∀ call : Nat, next.calls[call]?.map TelnetCall.core =
      service.calls[call]?.map TelnetCall.core)
    (hpool : ∀ id, (next.pool.get id).map TelnetConnection.core =
      (service.pool.get id).map TelnetConnection.core)
    (hmeta : next.connectionMeta = service.connectionMeta)
    (houtcomes : next.outcomes = service.outcomes) : next.lifecycle = service.lifecycle := by
  unfold lifecycle
  rw [hcount, hmeta, houtcomes, funext hcalls, funext hpool]

variable {call : Nat}

-- Socket operations that leave `destroyed` as it is do not show.
theorem lifecycle_updateSocket {change : NetSocket → NetSocket}
    (h : ∀ socket, service.socket call = some socket → (change socket).destroyed = socket.destroyed) :
    (service.updateSocket call change).lifecycle = service.lifecycle := by
  refine lifecycle_ext (List.length_modify _ _ _) (fun other => ?_) (fun _ => rfl) rfl rfl
  unfold updateSocket
  rw [List.getElem?_modify]
  cases hentry : service.calls[other]? with
  | none => rfl
  | some entry =>
    by_cases hcall : call = other
    · subst hcall
      cases hsocket : entry.socket with
      | none => simp [TelnetCall.core, hsocket]
      | some socket =>
        have hdestroyed := h socket (by simp [TelnetServiceImpl.socket, hentry, hsocket])
        simp [TelnetCall.core, hsocket, hdestroyed]
    · simp [hcall]

theorem lifecycle_destroy (call : Nat) :
    (service.updateSocket call .destroy).lifecycle = { service.lifecycle with
      calls := Function.update service.lifecycle.calls call ((service.lifecycle.calls call).map
        fun entry => { entry with destroyed := entry.destroyed.map fun _ => true }) } := by
  unfold lifecycle updateSocket
  rw [List.length_modify]
  congr 1
  funext other
  rw [List.getElem?_modify]
  by_cases hcall : other = call
  · subst hcall
    rw [Function.update_self]
    dsimp only
    cases service.calls[other]? with
    | none => rfl
    | some entry => cases hsocket : entry.socket <;> simp [TelnetCall.core, hsocket, NetSocket.destroy]
  · rw [Function.update_of_ne hcall]
    cases hother : service.calls[other]? with
    | none => simp [hother]
    | some found => simp [Ne.symm hcall, hother]

variable {entry : TelnetCall}

theorem updateSocket_entry (hentry : service.calls[call]? = some entry)
    (change : NetSocket → NetSocket) :
    (service.updateSocket call change).calls[call]? =
      some { entry with socket := entry.socket.map change } := by
  unfold updateSocket
  rw [List.getElem?_modify, hentry]
  simp

theorem lifecycle_entry (hentry : service.calls[call]? = some entry) :
    service.lifecycle.calls call = some entry.core :=
  congrArg (Option.map TelnetCall.core) hentry

theorem lifecycle_settle (hentry : service.calls[call]? = some entry)
    (hpending : entry.settled = false) (result : Except JsString ConnectionId) :
    (service.settle call result).lifecycle = { service.lifecycle with
      calls := Function.update service.lifecycle.calls call
        (some { entry.core with settled := true })
      outcomes := service.outcomes ++
        if entry.rejected then [] else [(call, .resolved result)] } := by
  have hlt := (List.getElem?_eq_some_iff.mp hentry).1
  unfold settle
  simp only [hentry, hpending, Bool.false_eq_true, if_false]
  unfold lifecycle
  rw [List.length_set]
  congr 1
  funext other
  by_cases hcall : other = call
  · subst hcall
    rw [Function.update_self, List.getElem?_set_self hlt]
    rfl
  · rw [Function.update_of_ne hcall, List.getElem?_set_ne (Ne.symm hcall)]

theorem settle_of_settled (hentry : service.calls[call]? = some entry)
    (hsettled : entry.settled = true) (result : Except JsString ConnectionId) :
    service.settle call result = service := by
  unfold settle
  simp only [hentry, hsettled, if_true]

-- The operations of one shell do not show either.
theorem lifecycle_withShell {act : Shell → NetSocket → Shell × NetSocket}
    (h : ∀ shell socket, (act shell socket).2.destroyed = socket.destroyed) (index : Nat) :
    (service.withShell index act).lifecycle = service.lifecycle := by
  unfold withShell
  split
  · rfl
  · rename_i shell _
    split
    · rfl
    · rename_i socket hsocket
      refine lifecycle_updateSocket fun other hother => ?_
      obtain rfl := Option.some.inj (hsocket.symm.trans hother)
      exact h shell _

-- What each listener keeps, the data event keeps.
theorem socketData_keeps {P : TelnetServiceImpl → Prop} (call : Nat) (data : Bytes)
    (h : ∀ state index, P state → P (state.withShell index (dataListener call data)))
    (hservice : P service) : P (service.socketData call data) := by
  unfold socketData
  split
  · exact hservice
  · split
    · exact hservice
    · rename_i socket hsocket _
      clear hsocket
      generalize List.range service.shells.length = indices
      induction indices generalizing service with
      | nil => exact hservice
      | cons index rest ih => exact ih (h service index hservice)

theorem lifecycle_socketData (call : Nat) (data : Bytes) :
    (service.socketData call data).lifecycle = service.lifecycle :=
  @socketData_keeps service (fun state => state.lifecycle = service.lifecycle) call data
    (fun _ index hstate => (lifecycle_withShell (fun shell socket =>
      destroyed_dataListener shell socket call data) index).trans hstate) rfl

variable (id : ConnectionId)

theorem lifecycle_shell (options : ShellOptions) :
    (service.shell id options).1.lifecycle = service.lifecycle := by
  unfold shell
  split
  · rfl
  · refine (lifecycle_updateSocket fun socket _ => ?_).trans
      (lifecycle_ext rfl (fun _ => rfl) (fun other => ?_) rfl rfl)
    · exact NetSocket.destroyed_writeAll _ _
    · rw [Grouped.get_update]
      split
      · rw [Option.map_map]
        rfl
      · rfl

theorem lifecycle_resize (rows cols : Number) :
    (service.resize id rows cols).1.lifecycle = service.lifecycle := by
  unfold resize
  split
  · rfl
  · split
    · rfl
    · exact lifecycle_updateSocket fun socket _ => NetSocket.destroyed_write _ _

-- What fails before it is settled destroys its socket.
theorem lifecycle_fail (hentry : service.calls[call]? = some entry)
    (hpending : entry.settled = false) (message : JsString) :
    ((service.updateSocket call .destroy).settle call (.error message)).lifecycle =
      { service.lifecycle with
        calls := Function.update service.lifecycle.calls call
          (some ⟨entry.config, true, entry.rejected, entry.core.destroyed.map fun _ => true⟩)
        outcomes := service.outcomes ++
          if entry.rejected then [] else [(call, .resolved (.error message))] } := by
  rw [lifecycle_settle (updateSocket_entry hentry _) hpending, lifecycle_destroy]
  dsimp only
  rw [Function.update_idem]
  cases hsocket : entry.socket <;> simp [TelnetCall.core, hsocket, updateSocket, NetSocket.destroy]

variable {randomUUID : Nat → JsString}

theorem step_connect (allowedSubnets : Option (List JsString)) (config : TelnetConnectionConfig)
    (validated : Except JsString Bool) (started : Except JsString Unit) :
    Lifecycle.Step randomUUID service.lifecycle
      (service.connect allowedSubnets config validated started).lifecycle := by
  have hcalls : ∀ entry : TelnetCall, (fun call => (service.calls ++ [entry])[call]?.map
      TelnetCall.core) = Function.update service.lifecycle.calls service.calls.length
        (some entry.core) := by
    intro entry
    funext call
    rcases Nat.lt_trichotomy call service.calls.length with hlt | rfl | hgt
    · rw [Function.update_of_ne (Nat.ne_of_lt hlt), List.getElem?_append_left hlt]
      rfl
    · rw [Function.update_self, List.getElem?_concat_length]
      rfl
    · rw [Function.update_of_ne (Nat.ne_of_gt hgt)]
      have hnone : (service.calls ++ [entry])[call]? = none := by
        rw [List.getElem?_eq_none_iff, List.length_append, List.length_singleton]
        omega
      have hold : service.calls[call]? = none := List.getElem?_eq_none_iff.mpr (by omega)
      simp [lifecycle, hnone, hold]
  unfold connect
  split
  · rename_i message _
    convert @Lifecycle.Step.refused randomUUID service.lifecycle config message using 1
    unfold lifecycle
    rw [List.length_append, hcalls]
    rfl
  · cases started with
    | ok =>
      convert @Lifecycle.Step.opened randomUUID service.lifecycle config using 1
      unfold lifecycle
      rw [List.length_append, hcalls]
      rfl
    | error message =>
      convert @Lifecycle.Step.threw randomUUID service.lifecycle config message using 1
      unfold lifecycle
      rw [List.length_append, hcalls]
      rfl

theorem step_connectTimeout (call : Nat) :
    Lifecycle.Step randomUUID service.lifecycle (service.connectTimeout call).lifecycle := by
  unfold connectTimeout
  cases hentry : service.calls[call]? with
  | none => exact .idle
  | some entry =>
    cases hpending : entry.settled with
    | true =>
      simp only [hpending, if_true]
      exact .idle
    | false =>
      simp only [hpending, Bool.false_eq_true, if_false]
      rw [lifecycle_fail hentry hpending]
      exact .failed call entry.core _ (lifecycle_entry hentry) hpending

theorem step_connectCallback (call : Nat) :
    Lifecycle.Step randomUUID service.lifecycle
      (service.connectCallback call (randomUUID call)).lifecycle := by
  unfold connectCallback
  cases hentry : service.calls[call]? with
  | none => exact .idle
  | some entry =>
    dsimp only
    split
    · exact .idle
    · rename_i hopen
      obtain ⟨hpending, hstarted⟩ :
          entry.settled = false ∧ entry.rejected = false := by simpa using hopen
      generalize hadded : ({ service.updateSocket call .pause with
        pool := TelnetConnectionPool.add (service.updateSocket call .pause).pool
          (newConnection (randomUUID call) call entry.config)
        connectionMeta := (service.updateSocket call .pause).connectionMeta.set
          (randomUUID call) entry.config } : TelnetServiceImpl) = added
      have hentryAdded : added.calls[call]? =
          some { entry with socket := entry.socket.map .pause } := by
        rw [← hadded]
        exact updateSocket_entry hentry _
      have hsame : (service.updateSocket call .pause).lifecycle = service.lifecycle :=
        lifecycle_updateSocket fun _ _ => rfl
      have hcore : added.lifecycle = { service.lifecycle with
          pooled := Function.update service.lifecycle.pooled (randomUUID call)
            (some ⟨randomUUID call, entry.config.sessionId, call⟩)
          configOf := Function.update service.lifecycle.configOf (randomUUID call)
            (some entry.config) } := by
        rw [← hadded, ← hsame]
        unfold lifecycle
        congr 1
        · funext id
          rw [Function.update_apply, TelnetConnectionPool.add, Grouped.get_add]
          show (if randomUUID call = id then _ else _ : Option TelnetConnection).map _ = _
          by_cases hid : id = randomUUID call
          · rw [if_pos hid, if_pos hid.symm]
            rfl
          · rw [if_neg hid, if_neg (Ne.symm hid)]
        · funext id
          rw [Function.update_apply, OrderedMap.get_set]
          by_cases hid : id = randomUUID call
          · rw [if_pos hid, if_pos hid.symm]
          · rw [if_neg hid, if_neg (Ne.symm hid)]
      rw [lifecycle_settle hentryAdded hpending, hcore]
      convert @Lifecycle.Step.connected randomUUID service.lifecycle call entry.core
        (lifecycle_entry hentry) hpending hstarted using 2
      · cases hsocket : entry.socket <;> simp [TelnetCall.core, hsocket, NetSocket.pause]
      · rfl
      · rfl
      · rw [← hadded, hstarted]
        rfl

theorem step_socketError (call : Nat) (message : JsString) :
    Lifecycle.Step randomUUID service.lifecycle (service.socketError call message).lifecycle := by
  show Lifecycle.Step randomUUID service.lifecycle
    ((service.updateSocket call .destroy).settle call (.error message)).lifecycle
  cases hentry : service.calls[call]? with
  | none =>
    have hidle : service.updateSocket call .destroy = service := by
      unfold updateSocket
      rw [List.modify_eq_self (List.getElem?_eq_none_iff.mp hentry)]
    rw [hidle]
    unfold settle
    simp only [hentry]
    exact .idle
  | some entry =>
    cases hpending : entry.settled with
    | false =>
      rw [lifecycle_fail hentry hpending]
      exact .failed call entry.core _ (lifecycle_entry hentry) hpending
    | true =>
      rw [settle_of_settled (updateSocket_entry hentry _) hpending, lifecycle_destroy,
        lifecycle_entry hentry]
      exact .broken call entry.core (lifecycle_entry hentry) hpending

theorem lifecycle_disconnect {id : ConnectionId} {connection : TelnetConnection}
    (hpooled : service.pool.get id = some connection) :
    (service.disconnect id).lifecycle = { service.lifecycle with
      calls := Function.update service.lifecycle.calls connection.call
        ((service.lifecycle.calls connection.call).map fun entry =>
          { entry with destroyed := entry.destroyed.map fun _ => true })
      pooled := Function.update service.lifecycle.pooled id none
      configOf := Function.update service.lifecycle.configOf id none } := by
  unfold disconnect
  simp only [hpooled]
  have hsame : (service.destroyAuthenticator connection).lifecycle = service.lifecycle := by
    unfold destroyAuthenticator
    cases connection.authenticator <;> rfl
  have hclosed := @lifecycle_destroy (service.destroyAuthenticator connection) connection.call
  rw [hsame] at hclosed
  generalize (service.destroyAuthenticator connection).updateSocket connection.call .destroy =
    closed at hclosed
  show { closed.lifecycle with
    pooled := fun other => ((TelnetConnectionPool.remove closed.pool id).get other).map
      TelnetConnection.core
    configOf := fun other => (closed.connectionMeta.delete id).get other } = _
  have hpool : ∀ other, (closed.pool.get other).map TelnetConnection.core =
      service.lifecycle.pooled other := fun other => congrArg (·.pooled other) hclosed
  have hmeta : ∀ other, closed.connectionMeta.get other = service.lifecycle.configOf other :=
    fun other => congrArg (·.configOf other) hclosed
  have hpoolNew : (fun other => ((TelnetConnectionPool.remove closed.pool id).get other).map
      TelnetConnection.core) = Function.update service.lifecycle.pooled id none := by
    funext other
    rw [Function.update_apply, TelnetConnectionPool.remove, Grouped.get_remove, ← hpool other]
    by_cases hid : other = id
    · rw [if_pos hid, if_pos hid.symm]
      rfl
    · rw [if_neg hid, if_neg (Ne.symm hid)]
  have hmetaNew : (fun other => (closed.connectionMeta.delete id).get other) =
      Function.update service.lifecycle.configOf id none := by
    funext other
    rw [Function.update_apply, OrderedMap.get_delete, ← hmeta other]
    by_cases hid : other = id
    · rw [if_pos hid, if_pos hid.symm]
    · rw [if_neg hid, if_neg (Ne.symm hid)]
  rw [hpoolNew, hmetaNew, hclosed]

theorem step_disconnect :
    Lifecycle.Step randomUUID service.lifecycle (service.disconnect id).lifecycle := by
  cases hpooled : service.pool.get id with
  | none =>
    unfold disconnect
    simp only [hpooled]
    exact .idle
  | some connection =>
    rw [lifecycle_disconnect hpooled]
    exact .disconnected id connection.core (congrArg (Option.map TelnetConnection.core) hpooled)

theorem step_telnetStep (allowedSubnets : Option (List JsString)) (event : TelnetEvent) :
    Lifecycle.Step randomUUID service.lifecycle
      (telnetStep allowedSubnets randomUUID service event).lifecycle := by
  have hquiet : ∀ next : TelnetServiceImpl, next.lifecycle = service.lifecycle →
      Lifecycle.Step randomUUID service.lifecycle next.lifecycle := by
    intro next hsame
    rw [hsame]
    exact .idle
  cases event with
  | connect config validated started =>
    exact step_connect allowedSubnets config validated started
  | connected call => exact step_connectCallback call
  | timeout call => exact step_connectTimeout call
  | error call message => exact step_socketError call message
  | disconnect id => exact step_disconnect id
  | close | room | destroyStream | streamClosed => exact hquiet _ rfl
  | data call data => exact hquiet _ (lifecycle_socketData call data)
  | shell id options => exact hquiet _ (lifecycle_shell id options)
  | resize id rows cols => exact hquiet _ (lifecycle_resize id rows cols)
  | read shell => exact hquiet _ (lifecycle_withShell Shell.destroyed_read shell)
  | write shell text =>
    exact hquiet _ (lifecycle_withShell (fun shell socket =>
      destroyed_writeStream shell socket text) shell)
  | timer shell handle =>
    exact hquiet _ (lifecycle_withShell (fun shell socket =>
      shell.destroyed_fireTimer socket handle) shell)

theorem sound_step (hinj : Function.Injective randomUUID)
    (h : Lifecycle.Sound randomUUID service.lifecycle) (allowedSubnets : Option (List JsString))
    (event : TelnetEvent) :
    Lifecycle.Sound randomUUID (telnetStep allowedSubnets randomUUID service event).lifecycle :=
  h.step hinj (step_telnetStep allowedSubnets event)

-- A call that is over, with its socket gone and nothing in the pool, stays so.
def Over (randomUUID : Nat → JsString) (call : Nat) (state : Lifecycle) : Prop :=
  state.pooled (randomUUID call) = none ∧ ∃ entry, state.calls call = some entry ∧
    entry.settled = true ∧ entry.destroyed ≠ some false

theorem over_step (hinj : Function.Injective randomUUID) {old new : Lifecycle}
    (hs : Lifecycle.Sound randomUUID old) (h : Lifecycle.Step randomUUID old new)
    (hover : Over randomUUID call old) : Over randomUUID call new := by
  obtain ⟨hnone, entry, hentry, hsettled, hdestroyed⟩ := hover
  obtain ⟨later, hlater, _, hstill, hgone⟩ := Lifecycle.calls_step h hentry hs.fresh
  refine ⟨?_, later, hlater, hstill hsettled, hgone hdestroyed⟩
  cases h with
  | idle | refused | opened | threw | failed | broken => exact hnone
  | disconnected id connection hpooled =>
    dsimp only
    rw [Function.update_apply]
    split
    · rfl
    · exact hnone
  | connected other found hfound hpending =>
    have hne : call ≠ other := by
      rintro rfl
      obtain rfl := Option.some.inj (hfound.symm.trans hentry)
      rw [hpending] at hsettled
      cases hsettled
    dsimp only
    rw [Function.update_of_ne (fun hid => hne (hinj hid))]
    exact hnone

theorem destroyed_of_core {core : CallCore} (hcore : service.lifecycle.calls call = some core)
    (hdestroyed : core.destroyed ≠ some false) :
    ∀ socket, service.socket call = some socket → socket.destroyed = true := by
  intro socket hsocket
  obtain ⟨found, hfound, hheld⟩ := Option.bind_eq_some_iff.mp hsocket
  obtain rfl := Option.some.inj ((lifecycle_entry hfound).symm.trans hcore)
  cases hopen : socket.destroyed with
  | true => rfl
  | false => exact absurd (by simp [TelnetCall.core, hheld, hopen]) hdestroyed

-- The timer of a call leaves no open socket, unless the call was settled with one.
theorem destroyed_timeout (hentry : service.calls[call]? = some entry)
    (hsettled : entry.settled = true → entry.core.destroyed ≠ some false) :
    ∀ socket, (service.connectTimeout call).socket call = some socket → socket.destroyed = true := by
  unfold connectTimeout
  simp only [hentry]
  cases hpending : entry.settled with
  | true => exact destroyed_of_core (lifecycle_entry hentry) (hsettled hpending)
  | false =>
    have hfailed := lifecycle_fail hentry hpending (js "Connection timed out")
    refine destroyed_of_core ((congrArg (·.calls call) hfailed).trans (Function.update_self _ _ _)) ?_
    cases entry.core.destroyed <;> simp

end TelnetServiceImpl

open TelnetServiceImpl in
-- In every run: a call has its one result when it is settled or was rejected, a socket that
-- is open belongs to a call not settled yet or to a connection in the pool, what was rejected
-- has no connection and loses its socket to the timer, the pool and the configs say the same,
-- and what was disconnected is gone for good with its socket.
theorem telnet_sockets_accounted {randomUUID : Nat → JsString}
    (hinj : Function.Injective randomUUID) (allowedSubnets : Option (List JsString))
    (events : List TelnetEvent) :
    let service := Run.run (telnetStep allowedSubnets randomUUID) {} events
    (∀ (call : Nat) entry, service.calls[call]? = some entry →
      (resultsOf service.outcomes call).length =
        if entry.settled || entry.rejected then 1 else 0) ∧
    (∀ (call : Nat) entry socket, service.calls[call]? = some entry → entry.socket = some socket →
      socket.destroyed = true ∨ entry.settled = false ∨
        ∃ connection, service.getConnectionStatus (randomUUID call) = some connection ∧
          connection.call = call) ∧
    (∀ (call : Nat) entry, service.calls[call]? = some entry → entry.rejected = true →
      service.getConnectionStatus (randomUUID call) = none ∧
        ∀ socket, (telnetStep allowedSubnets randomUUID service (.timeout call)).socket call =
          some socket → socket.destroyed = true) ∧
    (∀ id, service.connectionMeta.get id = (service.getConnectionStatus id).bind
      fun connection => service.calls[connection.call]?.map TelnetCall.config) ∧
    ∀ id connection later, service.getConnectionStatus id = some connection →
      let final := Run.run (telnetStep allowedSubnets randomUUID) service (.disconnect id :: later)
      final.getConnectionStatus id = none ∧
        ∀ socket, final.socket connection.call = some socket → socket.destroyed = true := by
  intro service
  have hsound : Lifecycle.Sound randomUUID service.lifecycle :=
    @Run.invariant_of_step _ _ (telnetStep allowedSubnets randomUUID)
      (fun state => Lifecycle.Sound randomUUID state.lifecycle) {}
      (Lifecycle.sound_empty randomUUID)
      (fun state event h => sound_step hinj h allowedSubnets event) events
  have hpooled : ∀ id connection, service.getConnectionStatus id = some connection →
      service.lifecycle.pooled id = some connection.core := fun id connection hsome =>
    congrArg (Option.map TelnetConnection.core) hsome
  refine ⟨fun call entry hentry => hsound.settled call entry.core (lifecycle_entry hentry),
    fun call entry socket hentry hsocket => ?_, fun call entry hentry hrejected => ?_,
    fun id => ?_, fun id connection later hsome => ?_⟩
  · cases hopen : socket.destroyed with
    | true => exact .inl rfl
    | false =>
      have hcore : entry.core.destroyed = some false := by simp [TelnetCall.core, hsocket, hopen]
      refine .inr ((hsound.held call entry.core (lifecycle_entry hentry) hcore).imp_right ?_)
      intro hpool
      obtain ⟨connection, hconnection⟩ := Option.isSome_iff_exists.mp hpool
      obtain ⟨found, hfound, rfl⟩ := Option.map_eq_some_iff.mp hconnection
      exact ⟨found, hfound, (hinj (hsound.pooled _ _ hconnection).1).symm⟩
  · have hnone := hsound.pooled_of_rejected hinj (lifecycle_entry hentry) hrejected
    refine ⟨Option.map_eq_none_iff.mp hnone, ?_⟩
    exact destroyed_timeout hentry fun hsettled hopen => by
      rcases hsound.held call entry.core (lifecycle_entry hentry) hopen with hpending | hsome
      · cases hsettled.symm.trans hpending
      · rw [hnone] at hsome
        cases hsome
  · refine (hsound.configOf id).trans ?_
    show ((service.pool.get id).map TelnetConnection.core).bind _ = (service.pool.get id).bind _
    rw [Option.bind_map]
    refine Option.bind_congr fun connection _ => ?_
    show (service.calls[connection.call]?.map TelnetCall.core).map _ = _
    rw [Option.map_map]
    rfl
  · intro final
    obtain ⟨hid, _, entry, hentry, hsettled, _⟩ := hsound.pooled id _ (hpooled id connection hsome)
    have hid' : id = randomUUID connection.call := hid
    have hafter : Over randomUUID connection.call (service.disconnect id).lifecycle := by
      rw [lifecycle_disconnect hsome]
      refine ⟨?_, ?_⟩
      · dsimp only
        rw [hid', Function.update_self]
      · refine ⟨_, (Function.update_self _ _ _).trans (congrArg (Option.map _) hentry), hsettled, ?_⟩
        cases entry.destroyed <;> simp
    have hover : Lifecycle.Sound randomUUID final.lifecycle ∧
        Over randomUUID connection.call final.lifecycle :=
      @Run.invariant_of_step _ _ (telnetStep allowedSubnets randomUUID)
        (fun state => Lifecycle.Sound randomUUID state.lifecycle ∧
          Over randomUUID connection.call state.lifecycle)
        (service.disconnect id) ⟨sound_step hinj hsound allowedSubnets (.disconnect id), hafter⟩
        (fun state event h => ⟨sound_step hinj h.1 allowedSubnets event,
          over_step hinj h.1 (step_telnetStep allowedSubnets event) h.2⟩) later
    obtain ⟨_, hnone, last, hlast, _, hdestroyed⟩ := hover
    refine ⟨?_, destroyed_of_core hlast hdestroyed⟩
    rw [hid']
    exact Option.map_eq_none_iff.mp hnone

-- A connection that fails late stays in the pool until it is disconnected, and a call that
-- was rejected waits for its timer.
theorem telnet_sockets_accounted_late :
    let randomUUID := fun draw => List.replicate draw (48 : UInt16)
    let config : TelnetConnectionConfig := { sessionId := js "s", host := js "h", port := .ofInt 23 }
    let service := Run.run (telnetStep none randomUUID) {}
      [.connect config (.ok true) (.ok ()), .connected 0,
        .connect config (.ok true) (.error (js "ERR_SOCKET_BAD_PORT")),
        .error 0 (js "ECONNRESET")]
    Function.Injective randomUUID ∧
      (∃ entry socket, service.calls[1]? = some entry ∧ entry.socket = some socket ∧
        entry.rejected = true ∧ socket.destroyed = false ∧
        (socket.destroyed = true ∨ entry.settled = false ∨
          ∃ connection, service.getConnectionStatus (randomUUID 1) = some connection ∧
            connection.call = 1)) ∧
      ∃ connection, service.getConnectionStatus (randomUUID 0) = some connection ∧
        (Run.run (telnetStep none randomUUID) service [.disconnect (randomUUID 0)]).getConnectionStatus
          (randomUUID 0) = none := by
  intro randomUUID config service
  have hinj : Function.Injective randomUUID := List.replicate_left_injective 48
  obtain ⟨-, hsockets, -, -, hgone⟩ := telnet_sockets_accounted hinj none
    [.connect config (.ok true) (.ok ()), .connected 0,
      .connect config (.ok true) (.error (js "ERR_SOCKET_BAD_PORT")), .error 0 (js "ECONNRESET")]
  refine ⟨hinj, ⟨_, _, rfl, rfl, rfl, rfl, hsockets 1 _ _ rfl rfl⟩, _, rfl, ?_⟩
  exact (hgone (randomUUID 0) _ [] rfl).1

end WebSsh2.Telnet
