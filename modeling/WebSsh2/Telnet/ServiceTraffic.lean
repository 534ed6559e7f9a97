import Mathlib.Logic.Relation
import WebSsh2.Telnet.ShellTraffic

namespace WebSsh2.Telnet

open WebSsh2.Library WebSsh2.Library.Transducer WebSsh2.State

section Changes

-- The sockets of the calls, and the shells.
abbrev Wires := (Nat → Option NetSocket) × List Shell

-- What of a shell its socket depends on.
structure Hold where
  call : Nat
  name : JsString
  needsDrain : Bool

def Shell.hold (shell : Shell) : Hold where
  call := shell.call
  name := shell.negotiator.terminalType
  needsDrain := shell.stream.needsDrain

structure Shell.Quiet (shell next : Shell) : Prop where
  hold : next.hold = shell.hold
  screen : Screen shell → Screen next

def Adds (change : NetSocket → NetSocket) : Prop :=
  ∀ socket, ∃ more, (change socket).written = socket.written ++ more ∧ ∀ sent ∈ more, sent.Proper

-- Everything that an event does, bit by bit. A shell is opened on a call in the pool.
inductive Change (Pooled : Nat → Prop) (old : Wires) : Wires → Prop where
  | quiet {before after : List Shell} {shell next : Shell}
      (hshells : old.2 = before ++ shell :: after) (hquiet : Shell.Quiet shell next) :
      Change Pooled old (old.1, before ++ next :: after)
  | acts {before after : List Shell} {shell next : Shell} {socket written : NetSocket}
      (hshells : old.2 = before ++ shell :: after) (hsocket : old.1 shell.call = some socket)
      (hacts : Acts shell socket next written) :
      Change Pooled old (Function.update old.1 shell.call (some written), before ++ next :: after)
  | changed (call : Nat) {change : NetSocket → NetSocket}
      (hpaused : ∀ socket, (change socket).paused = socket.paused) (hadds : Adds change) :
      Change Pooled old (Function.update old.1 call ((old.1 call).map change), old.2)
  | unshelled {call : Nat} (after : Option NetSocket)
      (hnone : ∀ shell ∈ old.2, shell.call ≠ call)
      (hwritten : ∀ socket, after = some socket → socket.written = [] ∨
        ∃ earlier, old.1 call = some earlier ∧ socket.written = earlier.written) :
      Change Pooled old (Function.update old.1 call after, old.2)
  | opened {shell : Shell} {change : NetSocket → NetSocket} (hpooled : Pooled shell.call)
      (hscreen : Screen shell) (hdrain : shell.stream.needsDrain = false)
      (hresumed : ∀ socket, (change socket).paused = false) (hadds : Adds change) :
      Change Pooled old
        (Function.update old.1 shell.call ((old.1 shell.call).map change), old.2 ++ [shell])

-- What holds of a socket, with what is on it. `stalls`: while it is paused, there is a shell
-- whose next read resumes it.
structure Flows (socket : NetSocket) (holds : List Hold) : Prop where
  framed : (∀ hold ∈ holds, Spelled hold.name) → ∀ sent ∈ socket.written, sent.Proper
  stalls : socket.paused = true → holds ≠ [] → ∃ hold ∈ holds, hold.needsDrain = true
  single : ∀ hold, holds = [hold] → socket.paused = hold.needsDrain

def holdsOf (shells : List Shell) (call : Nat) : List Hold :=
  (shells.filter fun shell => shell.call = call).map Shell.hold

structure Traffic (wires : Wires) : Prop where
  screens : ∀ shell ∈ wires.2, Screen shell
  flows : ∀ call socket, wires.1 call = some socket → Flows socket (holdsOf wires.2 call)

theorem holdsOf_append (first second : List Shell) (call : Nat) :
    holdsOf (first ++ second) call = holdsOf first call ++ holdsOf second call := by
  simp [holdsOf]

theorem holdsOf_cons (shell : Shell) (rest : List Shell) (call : Nat) :
    holdsOf (shell :: rest) call =
      if shell.call = call then shell.hold :: holdsOf rest call else holdsOf rest call := by
  by_cases h : shell.call = call <;> simp [holdsOf, h]

theorem Flows.acts {shell next : Shell} {socket written : NetSocket} {before after : List Hold}
    (h : Flows socket (before ++ shell.hold :: after)) (hscreen : Screen shell)
    (hacts : Acts shell socket next written) : Flows written (before ++ next.hold :: after) where
  framed hspelled := by
    have hname : Spelled shell.hold.name := by
      have hnext := hspelled next.hold (by simp)
      change Spelled next.negotiator.terminalType at hnext
      rw [hacts.name] at hnext
      exact hnext
    have hold : ∀ hold ∈ before ++ shell.hold :: after, Spelled hold.name := by
      intro hold hmem
      rcases List.mem_append.mp hmem with hmem | hmem
      · exact hspelled hold (List.mem_append_left _ hmem)
      · rcases List.mem_cons.mp hmem with hsame | hmem
        · rw [hsame]
          exact hname
        · exact hspelled hold (List.mem_append_right _ (List.mem_cons_of_mem _ hmem))
    obtain ⟨more, hmore, hproper⟩ := hacts.written
    rw [hmore]
    exact List.forall_mem_append.mpr ⟨h.framed hold, hproper hscreen hname⟩
  stalls hpaused _ := by
    have hself : next.hold ∈ before ++ next.hold :: after := by simp
    rcases hacts.flow with ⟨hsame, hdrain⟩ | ⟨_, hdrain⟩ | ⟨hresumed, _⟩
    · obtain ⟨hold, hmem, hneeds⟩ := h.stalls (hsame.symm.trans hpaused) (by simp)
      rcases List.mem_append.mp hmem with hmem | hmem
      · exact ⟨hold, List.mem_append_left _ hmem, hneeds⟩
      · rcases List.mem_cons.mp hmem with heq | hmem
        · rw [heq] at hneeds
          exact ⟨next.hold, hself, hdrain.trans hneeds⟩
        · exact ⟨hold, List.mem_append_right _ (List.mem_cons_of_mem _ hmem), hneeds⟩
    · exact ⟨next.hold, hself, hdrain⟩
    · rw [hresumed] at hpaused
      cases hpaused
  single hold hholds := by
    have hlength := congrArg List.length hholds
    simp only [List.length_append, List.length_cons, List.length_nil] at hlength
    have hbefore : before = [] := List.eq_nil_of_length_eq_zero (by omega)
    have hafter : after = [] := List.eq_nil_of_length_eq_zero (by omega)
    rw [hbefore, hafter] at hholds h
    have hpaused := h.single shell.hold rfl
    rw [← (List.cons.inj hholds).1]
    rcases hacts.flow with ⟨hsame, hdrain⟩ | ⟨hsame, hdrain⟩ | ⟨hsame, hdrain⟩
    · exact hsame.trans (hpaused.trans hdrain.symm)
    · exact hsame.trans hdrain.symm
    · exact hsame.trans hdrain.symm

theorem Flows.adds {socket : NetSocket} {holds : List Hold} (h : Flows socket holds)
    {change : NetSocket → NetSocket} (hadds : Adds change)
    (hspelled : ∀ hold ∈ holds, Spelled hold.name) :
    ∀ sent ∈ (change socket).written, sent.Proper := by
  obtain ⟨more, hmore, hproper⟩ := hadds socket
  rw [hmore]
  exact List.forall_mem_append.mpr ⟨h.framed hspelled, hproper⟩

variable {Pooled : Nat → Prop} {old new : Wires}

theorem Traffic.change (h : Traffic old) (hchange : Change Pooled old new) : Traffic new := by
  cases hchange with
  | @quiet before after shell next hshells hquiet =>
    obtain ⟨sockets, shells⟩ := old
    obtain rfl := hshells
    refine ⟨fun other hother => ?_, fun call socket hsocket => ?_⟩
    · have hscreens := h.screens
      simp only [List.forall_mem_append, List.forall_mem_cons] at hscreens
      have hnew : ∀ other ∈ before ++ next :: after, Screen other := by
        simp only [List.forall_mem_append, List.forall_mem_cons]
        exact ⟨hscreens.1, hquiet.screen hscreens.2.1, hscreens.2.2⟩
      exact hnew other hother
    · have hflows := h.flows call socket hsocket
      have hcall : next.call = shell.call := congrArg Hold.call hquiet.hold
      rw [holdsOf_append, holdsOf_cons] at hflows ⊢
      rw [hcall, hquiet.hold]
      exact hflows
  | @acts before after shell next socket written hshells hsocket hacts =>
    obtain ⟨sockets, shells⟩ := old
    obtain rfl := hshells
    have hscreens := h.screens
    simp only [List.forall_mem_append, List.forall_mem_cons] at hscreens
    refine ⟨fun other hother => ?_, fun call found hfound => ?_⟩
    · have hnew : ∀ other ∈ before ++ next :: after, Screen other := by
        simp only [List.forall_mem_append, List.forall_mem_cons]
        exact ⟨hscreens.1, hacts.screen hscreens.2.1, hscreens.2.2⟩
      exact hnew other hother
    · dsimp only at hfound
      rw [Function.update_apply] at hfound
      rw [holdsOf_append, holdsOf_cons, hacts.call]
      split at hfound
      · rename_i hcall
        have hflows := h.flows call socket (hcall ▸ hsocket)
        rw [holdsOf_append, holdsOf_cons, if_pos hcall.symm] at hflows
        rw [if_pos hcall.symm, ← Option.some.inj hfound]
        exact hflows.acts hscreens.2.1 hacts
      · rename_i hcall
        have hflows := h.flows call found hfound
        rw [holdsOf_append, holdsOf_cons, if_neg (Ne.symm hcall)] at hflows
        rw [if_neg (Ne.symm hcall)]
        exact hflows
  | @changed call change hpaused hadds =>
    refine ⟨h.screens, fun other found hfound => ?_⟩
    dsimp only at hfound ⊢
    rw [Function.update_apply] at hfound
    split at hfound
    · rename_i hcall
      obtain ⟨socket, hsocket, rfl⟩ := Option.map_eq_some_iff.mp hfound
      have hflows := h.flows call socket hsocket
      rw [hcall]
      refine ⟨hflows.adds hadds, fun hstopped => hflows.stalls ?_, fun hold hholds => ?_⟩
      · exact (hpaused socket).symm.trans hstopped
      · exact (hpaused socket).trans (hflows.single hold hholds)
    · exact h.flows other found hfound
  | @unshelled call after hnone hwritten =>
    refine ⟨h.screens, fun other found hfound => ?_⟩
    dsimp only at hfound ⊢
    rw [Function.update_apply] at hfound
    split at hfound
    · rename_i hcall
      have hempty : holdsOf old.2 other = [] := by
        unfold holdsOf
        rw [List.map_eq_nil_iff, List.filter_eq_nil_iff]
        intro shell hshell
        rw [hcall]
        simpa using hnone shell hshell
      rw [hempty]
      refine ⟨fun _ => ?_, fun _ hne => absurd rfl hne, nofun⟩
      rcases hwritten found hfound with hnil | ⟨earlier, hearlier, hsame⟩
      · rw [hnil]
        exact fun _ hmem => absurd hmem List.not_mem_nil
      · rw [hsame]
        refine (h.flows call earlier hearlier).framed ?_
        rw [← hcall, hempty]
        exact fun _ hmem => absurd hmem List.not_mem_nil
    · exact h.flows other found hfound
  | @opened shell change hpooled hscreen hdrain hresumed hadds =>
    refine ⟨List.forall_mem_append.mpr ⟨h.screens, fun other hother => ?_⟩,
      fun call found hfound => ?_⟩
    · rw [List.mem_singleton.mp hother]
      exact hscreen
    · dsimp only at hfound ⊢
      rw [holdsOf_append, holdsOf_cons]
      rw [Function.update_apply] at hfound
      split at hfound
      · rename_i hcall
        obtain ⟨socket, hsocket, rfl⟩ := Option.map_eq_some_iff.mp hfound
        rw [if_pos hcall.symm]
        refine ⟨fun hspelled => ?_, fun hstopped => ?_, fun hold hholds => ?_⟩
        · refine (h.flows call socket (hcall ▸ hsocket)).adds hadds fun hold hmem => ?_
          exact hspelled hold (List.mem_append_left _ hmem)
        · rw [hresumed socket] at hstopped
          cases hstopped
        · have hlast := List.append_inj_right' (hholds.trans (List.nil_append _).symm) rfl
          rw [← (List.cons.inj hlast).1]
          exact (hresumed socket).trans hdrain.symm
      · rename_i hcall
        rw [if_neg (Ne.symm hcall)]
        exact (List.append_nil (holdsOf old.2 call)).symm ▸ h.flows call found hfound

abbrev Changes (Pooled : Nat → Prop) : Wires → Wires → Prop :=
  Relation.ReflTransGen (Change Pooled)

theorem Traffic.changes (h : Traffic old) (hchanges : Changes Pooled old new) : Traffic new := by
  induction hchanges with
  | refl => exact h
  | tail _ hchange ih => exact ih.change hchange

-- A shell that is new was opened on a connection of the pool.
theorem calls_changes (hchanges : Changes Pooled old new) :
    ∀ shell ∈ new.2, (∃ earlier ∈ old.2, earlier.call = shell.call) ∨ Pooled shell.call := by
  induction hchanges with
  | refl => exact fun shell hshell => .inl ⟨shell, hshell, rfl⟩
  | @tail middle new _ hchange ih =>
    have hreplaced : ∀ (before after : List Shell) (shell next : Shell),
        middle.2 = before ++ shell :: after → next.call = shell.call →
        ∀ other ∈ before ++ next :: after,
          (∃ earlier ∈ old.2, earlier.call = other.call) ∨ Pooled other.call := by
      intro before after shell next hshells hcall
      rw [hshells] at ih
      simp only [List.forall_mem_append, List.forall_mem_cons] at ih ⊢
      rw [hcall]
      exact ih
    cases hchange with
    | quiet hshells hquiet =>
      exact hreplaced _ _ _ _ hshells (congrArg Hold.call hquiet.hold)
    | acts hshells _ hacts => exact hreplaced _ _ _ _ hshells hacts.call
    | changed | unshelled => exact ih
    | opened hpooled =>
      refine List.forall_mem_append.mpr ⟨ih, fun other hother => .inr ?_⟩
      rw [List.mem_singleton.mp hother]
      exact hpooled

end Changes

namespace TelnetServiceImpl

variable {service : TelnetServiceImpl}

def wires (service : TelnetServiceImpl) : Wires :=
  (service.socket, service.shells)

theorem socket_updateSocket (service : TelnetServiceImpl) (call : Nat)
    (change : NetSocket → NetSocket) : (service.updateSocket call change).socket =
      Function.update service.socket call ((service.socket call).map change) := by
  funext other
  rw [Function.update_apply]
  unfold socket updateSocket
  rw [List.getElem?_modify]
  by_cases hcall : other = call
  · rw [if_pos hcall, hcall]
    cases service.calls[call]? <;> simp
  · rw [if_neg hcall]
    cases service.calls[other]? <;> simp [Ne.symm hcall]

@[simp] theorem socket_settle (service : TelnetServiceImpl) (call : Nat)
    (result : Except JsString ConnectionId) :
    (service.settle call result).socket = service.socket := by
  unfold settle
  cases hentry : service.calls[call]? with
  | none => rfl
  | some entry =>
    dsimp only
    split
    · rfl
    · funext other
      unfold socket
      dsimp only
      rw [List.getElem?_set]
      split
      · rename_i hcall
        subst hcall
        rw [hentry, if_pos (List.getElem?_eq_some_iff.mp hentry).1]
        rfl
      · rfl

@[simp] theorem shells_settle (service : TelnetServiceImpl) (call : Nat)
    (result : Except JsString ConnectionId) :
    (service.settle call result).shells = service.shells := by
  unfold settle
  split
  · rfl
  · split <;> rfl

theorem socket_concat (service : TelnetServiceImpl) (entry : TelnetCall) (other : Nat) :
    (service.calls ++ [entry])[other]?.bind TelnetCall.socket =
      Function.update service.socket service.calls.length entry.socket other := by
  rw [Function.update_apply, List.getElem?_append]
  unfold socket
  split
  · rename_i hlt
    rw [if_neg (by omega)]
  · rename_i hge
    split
    · rename_i hcall
      rw [hcall, Nat.sub_self]
      rfl
    · rename_i hne
      rw [List.getElem?_eq_none (by simp; omega), List.getElem?_eq_none (by omega)]

-- The calls whose connection is in the pool.
def Pooled (service : TelnetServiceImpl) (call : Nat) : Prop :=
  ∃ id connection, service.pool.get id = some connection ∧ connection.call = call

section Steps

theorem split_at {shells : List Shell} {index : Nat} {shell : Shell}
    (h : shells[index]? = some shell) : ∃ before after, shells = before ++ shell :: after ∧
      ∀ change, shells.modify index change = before ++ change shell :: after := by
  induction shells generalizing index with
  | nil => cases h
  | cons head rest ih =>
    cases index with
    | zero =>
      obtain rfl := Option.some.inj h
      exact ⟨[], rest, rfl, fun change => List.modify_zero_cons change head rest⟩
    | succ index =>
      obtain ⟨before, after, hrest, hmodify⟩ := ih h
      refine ⟨head :: before, after, congrArg _ hrest, fun change => ?_⟩
      rw [List.modify_succ_cons, hmodify]
      rfl

theorem changes_withShell (service : TelnetServiceImpl) (Pooled : Nat → Prop)
    {act : Shell → NetSocket → Shell × NetSocket}
    (hact : ∀ shell socket, Acts shell socket (act shell socket).1 (act shell socket).2)
    (index : Nat) : Changes Pooled service.wires (service.withShell index act).wires := by
  unfold withShell
  cases hshell : service.shells[index]? with
  | none => exact .refl
  | some shell =>
    cases hsocket : service.socket shell.call with
    | none =>
      simp only [hsocket]
      exact .refl
    | some socket =>
      obtain ⟨before, after, hshells, hmodify⟩ := split_at hshell
      have hnext := @Change.acts Pooled service.wires _ _ _ _ _ _ hshells hsocket
        (hact shell socket)
      have hsockets := socket_updateSocket service shell.call fun _ => (act shell socket).2
      rw [hsocket, Option.map_some] at hsockets
      rw [← hmodify fun _ => (act shell socket).1] at hnext
      simp only [hsocket]
      refine .single ?_
      show Change Pooled service.wires ((service.updateSocket shell.call fun _ =>
        (act shell socket).2).socket, service.shells.modify index fun _ => (act shell socket).1)
      rw [hsockets]
      exact hnext

theorem changes_updateShell (service : TelnetServiceImpl) (Pooled : Nat → Prop) (index : Nat)
    {change : Shell → Shell} (hchange : ∀ shell, Shell.Quiet shell (change shell)) :
    Changes Pooled service.wires (service.updateShell index change).wires := by
  show Changes Pooled service.wires (service.socket, service.shells.modify index change)
  cases hshell : service.shells[index]? with
  | none =>
    rw [List.modify_eq_self (List.getElem?_eq_none_iff.mp hshell)]
    exact .refl
  | some shell =>
    obtain ⟨before, after, hshells, hmodify⟩ := split_at hshell
    rw [hmodify]
    exact .single (.quiet hshells (hchange shell))

theorem changes_updateSocket (service : TelnetServiceImpl) (Pooled : Nat → Prop) (call : Nat)
    {change : NetSocket → NetSocket} (hpaused : ∀ socket, (change socket).paused = socket.paused)
    (hadds : Adds change) :
    Changes Pooled service.wires (service.updateSocket call change).wires := by
  show Changes Pooled service.wires ((service.updateSocket call change).socket, service.shells)
  rw [socket_updateSocket]
  exact .single (.changed call hpaused hadds)

theorem screen_destroyAuthenticator {shell : Shell} (h : Screen shell) :
    Screen shell.destroyAuthenticator := by
  unfold Shell.destroyAuthenticator
  cases hlogin : shell.authenticator with
  | none =>
    rw [Option.map_none, ← hlogin]
    exact h
  | some login =>
    refine h.react hlogin .destroy h.parser (List.append_nil _).symm fun handed hshows => ?_
    show shell.stream.Shows (handed ++ [])
    rw [List.append_nil]
    exact hshows

theorem quiet_cleanup (shell : Shell) : Shell.Quiet shell shell.cleanup := by
  refine ⟨rfl, fun h => ?_⟩
  obtain ⟨hparser, hlogin, hshows⟩ := screen_destroyAuthenticator h
  exact ⟨hparser, hlogin, hshows⟩

theorem quiet_destroyStream (shell : Shell) : Shell.Quiet shell shell.destroyStream :=
  ⟨rfl, fun h => ⟨h.parser, h.login, h.shows.1, nofun⟩⟩

theorem changes_map {Pooled : Nat → Prop} {sockets : Nat → Option NetSocket}
    {change : Shell → Shell} (hchange : ∀ shell, Shell.Quiet shell (change shell))
    (before shells : List Shell) :
    Changes Pooled (sockets, before ++ shells) (sockets, before ++ shells.map change) := by
  induction shells generalizing before with
  | nil => exact .refl
  | cons shell rest ih =>
    have hrest := ih (before ++ [change shell])
    rw [List.append_assoc, List.append_assoc] at hrest
    exact .head (.quiet rfl (hchange shell)) hrest

theorem changes_closeShells (service : TelnetServiceImpl) (Pooled : Nat → Prop) (call : Nat) :
    Changes Pooled service.wires (service.closeShells call).wires := by
  refine @changes_map Pooled service.socket
    (fun shell => if shell.call = call then shell.cleanup.destroyStream else shell)
    (fun shell => ?_) [] service.shells
  split
  · refine ⟨rfl, fun h => ?_⟩
    exact (quiet_destroyStream shell.cleanup).screen ((quiet_cleanup shell).screen h)
  · exact ⟨rfl, id⟩

theorem adds_destroy : Adds NetSocket.destroy :=
  fun _ => ⟨[], (List.append_nil _).symm, nofun⟩

theorem adds_writeAll {sents : List Sent} (h : ∀ sent ∈ sents, sent.Proper) :
    Adds fun socket => socket.writeAll sents := by
  intro socket
  obtain ⟨_, more, hmore, hmem⟩ := socket.writeAll_written sents
  exact ⟨more, hmore, fun sent hsent => h sent (hmem sent hsent)⟩

theorem wires_settle (service : TelnetServiceImpl) (call : Nat)
    (result : Except JsString ConnectionId) : (service.settle call result).wires = service.wires := by
  unfold wires
  rw [socket_settle, shells_settle]

theorem changes_connect (allowedSubnets : Option (List JsString))
    (config : TelnetConnectionConfig) (validated : Except JsString Bool)
    (started : Except JsString Unit)
    (hshells : ∀ shell ∈ service.shells, shell.call < service.calls.length) :
    Changes service.Pooled service.wires
      (service.connect allowedSubnets config validated started).wires := by
  have hadded : ∀ entry : TelnetCall,
      (∀ socket, entry.socket = some socket → socket.written = []) →
      Changes service.Pooled service.wires
        (fun other => (service.calls ++ [entry])[other]?.bind TelnetCall.socket, service.shells) := by
    intro entry hwritten
    rw [funext (socket_concat service entry)]
    refine .single (.unshelled _ (fun shell hshell => ?_) fun socket hsocket => ?_)
    · exact Nat.ne_of_lt (hshells shell hshell)
    · exact .inl (hwritten socket hsocket)
  unfold connect
  split
  · exact hadded _ nofun
  · cases started with
    | ok | error =>
      refine hadded _ fun socket hsocket => ?_
      rw [← Option.some.inj hsocket]

theorem changes_connectCallback (call : Nat) (id : ConnectionId)
    (hshells : ∀ shell ∈ service.shells, ∀ entry : TelnetCall,
      service.calls[shell.call]? = some entry → entry.settled = true) :
    Changes service.Pooled service.wires (service.connectCallback call id).wires := by
  unfold connectCallback
  cases hentry : service.calls[call]? with
  | none => exact .refl
  | some entry =>
    dsimp only
    split
    · exact .refl
    · rename_i hpending
      rw [wires_settle]
      show Changes service.Pooled service.wires
        ((service.updateSocket call .pause).socket, service.shells)
      rw [socket_updateSocket]
      refine .single (.unshelled _ (fun shell hshell hcall => ?_) fun after hafter => .inr ?_)
      · exact hpending (.inl (hshells shell hshell entry (hcall ▸ hentry)))
      · obtain ⟨socket, hsocket, hpause⟩ := Option.map_eq_some_iff.mp hafter
        rw [← hpause]
        exact ⟨socket, hsocket, rfl⟩

theorem changes_connectTimeout (service : TelnetServiceImpl) (Pooled : Nat → Prop) (call : Nat) :
    Changes Pooled service.wires (service.connectTimeout call).wires := by
  unfold connectTimeout
  split
  · exact .refl
  · split
    · exact .refl
    · rw [wires_settle]
      exact changes_updateSocket service Pooled call (fun _ => rfl) adds_destroy

theorem changes_socketError (service : TelnetServiceImpl) (Pooled : Nat → Prop) (call : Nat)
    (message : JsString) : Changes Pooled service.wires (service.socketError call message).wires := by
  refine .trans ?_ (changes_closeShells _ Pooled call)
  rw [wires_settle]
  exact changes_updateSocket service Pooled call (fun _ => rfl) adds_destroy

theorem buildAuthenticator_start {id : ConnectionId} {login : Login}
    (h : service.buildAuthenticator id = some login) : ∃ options, login = Login.start options := by
  unfold buildAuthenticator at h
  split at h
  · cases h
  · split at h
    · exact ⟨_, (Option.some.inj h).symm⟩
    · cases h

theorem changes_shell (id : ConnectionId) (options : ShellOptions) :
    Changes service.Pooled service.wires (service.shell id options).1.wires := by
  unfold shell
  cases hpooled : service.pool.get id with
  | none => exact .refl
  | some connection =>
    refine .single ?_
    unfold wires
    dsimp only
    rw [socket_updateSocket]
    refine @Change.opened service.Pooled service.wires
      { call := connection.call
        negotiator := { toOptions := (newNegotiator options).buildProactiveOffers.1 }
        authenticator := service.buildAuthenticator id }
      (fun socket => (socket.writeAll
        ((newNegotiator options).buildProactiveOffers.2.map .negotiation)).resume)
      ⟨id, connection, hpooled, rfl⟩
      ⟨rfl, fun login hlogin => ?_, ?_⟩ rfl (fun _ => rfl) fun socket => ?_
    · obtain ⟨options, rfl⟩ := buildAuthenticator_start hlogin
      exact ⟨⟨options, [], rfl⟩, rfl⟩
    · have hnothing : Shell.handed { call := connection.call
                                     negotiator := { toOptions := (newNegotiator
                                       options).buildProactiveOffers.1 }
                                     authenticator := service.buildAuthenticator id } = [] := by
        unfold Shell.handed
        cases hlogin : service.buildAuthenticator id with
        | none => rfl
        | some login =>
          obtain ⟨options, rfl⟩ := buildAuthenticator_start hlogin
          rfl
      rw [hnothing]
      exact ⟨List.prefix_rfl, fun _ => rfl⟩
    · refine adds_writeAll (fun sent hsent => ?_) socket
      obtain ⟨message, hmessage, heq⟩ := List.mem_map.mp hsent
      rw [← heq]
      exact (offers_sends (newNegotiator options)).2 message hmessage

theorem changes_resize (service : TelnetServiceImpl) (Pooled : Nat → Prop) (id : ConnectionId)
    (rows cols : Number) : Changes Pooled service.wires (service.resize id rows cols).1.wires := by
  unfold resize
  split
  · exact .refl
  · split
    · exact .refl
    · rename_i index _
      have hresized := @changes_updateShell service Pooled index (fun shell => { shell with
          negotiator := { shell.negotiator with
            toOptions := shell.negotiator.setWindowSize cols rows } }) fun shell =>
        ⟨rfl, fun h => ⟨h.parser, h.login, h.shows⟩⟩
      refine hresized.trans (changes_updateSocket _ Pooled _
        (fun socket => NetSocket.paused_write _ _) ?_)
      refine @adds_writeAll [.negotiation (encodeNaws cols rows)] fun sent hsent => ?_
      rw [List.mem_singleton.mp hsent]
      exact isMessage_naws cols rows

theorem changes_disconnect (service : TelnetServiceImpl) (Pooled : Nat → Prop)
    (id : ConnectionId) : Changes Pooled service.wires (service.disconnect id).wires := by
  unfold disconnect
  split
  · exact .refl
  · rename_i connection _
    have hquiet : Changes Pooled service.wires (service.destroyAuthenticator connection).wires := by
      unfold destroyAuthenticator
      split
      · exact .refl
      · exact changes_updateShell service Pooled _ fun shell =>
          ⟨rfl, screen_destroyAuthenticator⟩
    exact hquiet.trans (changes_updateSocket _ Pooled connection.call (fun _ => rfl) adds_destroy)

-- What every run keeps: what the life cycle says, what goes over the sockets, and that a
-- shell belongs to a call that is settled.
structure Carries (randomUUID : Nat → JsString) (service : TelnetServiceImpl) : Prop where
  sound : Lifecycle.Sound randomUUID service.lifecycle
  traffic : Traffic service.wires
  settled : ∀ shell ∈ service.shells, ∃ entry,
    service.lifecycle.calls shell.call = some entry ∧ entry.settled = true

variable {randomUUID : Nat → JsString}

theorem step_changes (h : service.Carries randomUUID) (allowedSubnets : Option (List JsString))
    (event : TelnetEvent) :
    Changes service.Pooled service.wires
      (telnetStep allowedSubnets randomUUID service event).wires := by
  cases event with
  | connect config validated started =>
    refine changes_connect allowedSubnets config validated started fun shell hshell => ?_
    obtain ⟨core, hcore, _⟩ := h.settled shell hshell
    exact h.sound.known _ core hcore
  | connected call =>
    refine changes_connectCallback call _ fun shell hshell entry hentry => ?_
    obtain ⟨core, hcore, hsettled⟩ := h.settled shell hshell
    rw [lifecycle_entry hentry] at hcore
    rw [← Option.some.inj hcore] at hsettled
    exact hsettled
  | timeout call => exact changes_connectTimeout service _ call
  | error call message => exact changes_socketError service _ call message
  | close call => exact changes_closeShells service _ call
  | data call data =>
    exact @socketData_keeps service (fun state => Changes service.Pooled service.wires state.wires)
      call data (fun state index hstate => hstate.trans
        (changes_withShell state _ (dataListener_acts call data) index)) .refl
  | shell id options => exact changes_shell id options
  | resize id rows cols => exact changes_resize service _ id rows cols
  | disconnect id => exact changes_disconnect service _ id
  | room shell hasRoom =>
    exact changes_updateShell service _ shell fun one =>
      ⟨rfl, fun hscreen => ⟨hscreen.parser, hscreen.login, hscreen.shows⟩⟩
  | read shell => exact changes_withShell service _ read_acts shell
  | write shell text => exact changes_withShell service _ (writeStream_acts text) shell
  | timer shell handle => exact changes_withShell service _ (fireTimer_acts handle) shell
  | destroyStream shell => exact changes_updateShell service _ shell quiet_destroyStream
  | streamClosed shell =>
    refine changes_updateShell service _ shell fun one => ?_
    split
    · exact quiet_cleanup one
    · exact ⟨rfl, id⟩

theorem Carries.step (hinj : Function.Injective randomUUID) (h : service.Carries randomUUID)
    (allowedSubnets : Option (List JsString)) (event : TelnetEvent) :
    (telnetStep allowedSubnets randomUUID service event).Carries randomUUID := by
  have hstep := @step_telnetStep service randomUUID allowedSubnets event
  have hchanges := step_changes h allowedSubnets event
  have hkept : ∀ call entry, service.lifecycle.calls call = some entry → entry.settled = true →
      ∃ later, (telnetStep allowedSubnets randomUUID service event).lifecycle.calls call =
        some later ∧ later.settled = true := by
    intro call entry hentry hsettled
    obtain ⟨later, hlater, _, hstill, _⟩ := Lifecycle.calls_step hstep hentry h.sound.fresh
    exact ⟨later, hlater, hstill hsettled⟩
  refine ⟨h.sound.step hinj hstep, h.traffic.changes hchanges, fun shell hshell => ?_⟩
  rcases calls_changes hchanges shell hshell with ⟨old, hold, hcall⟩ |
    ⟨id, connection, hpooled, hcall⟩
  · obtain ⟨entry, hentry, hsettled⟩ := h.settled old hold
    rw [hcall] at hentry
    exact hkept _ entry hentry hsettled
  · obtain ⟨_, _, entry, hentry, hsettled, _⟩ := h.sound.pooled id connection.core
      (congrArg (Option.map TelnetConnection.core) hpooled)
    rw [← hcall]
    exact hkept _ entry hentry hsettled

theorem carries_empty (randomUUID : Nat → JsString) : Carries randomUUID {} where
  sound := Lifecycle.sound_empty randomUUID
  traffic := ⟨fun _ hshell => absurd hshell List.not_mem_nil, fun _ _ hsocket => by cases hsocket⟩
  settled _ hshell := absurd hshell List.not_mem_nil

theorem carries_run (hinj : Function.Injective randomUUID)
    (allowedSubnets : Option (List JsString)) (events : List TelnetEvent) :
    (Run.run (telnetStep allowedSubnets randomUUID) {} events).Carries randomUUID :=
  Run.invariant_of_step (carries_empty randomUUID)
    (fun _ event h => h.step hinj allowedSubnets event) events

-- A read changes its socket only where the stream waits for it, and has it flow again.
theorem socket_read {index : Nat} {shell : Shell} {socket : NetSocket}
    (hshell : service.shells[index]? = some shell)
    (hsocket : service.socket shell.call = some socket) :
    (service.withShell index Shell.read).socket shell.call =
      some (if shell.stream.needsDrain ∧ !shell.stream.destroyed then socket.resume else socket) := by
  unfold withShell
  simp only [hshell, hsocket]
  show (service.updateSocket shell.call fun _ => (shell.read socket).2).socket shell.call = _
  rw [socket_updateSocket, Function.update_self, hsocket, Option.map_some]
  unfold Shell.read
  split <;> rfl

end Steps

end TelnetServiceImpl

section Server

-- What a server makes of one write.
def Sent.ReadAs : Sent → List Reading → Prop
  | .negotiation bytes, readings =>
    (∃ verb option, bytes = (Item.negotiation verb option).encode ∧
      readings = [.negotiation verb.byte option]) ∨
    ∃ payload, bytes = (Item.subnegotiation payload).encode ∧ readings = [.subnegotiation payload]
  | .login bytes, readings => readings = bytes.map .data
  | .client text, readings => readings = (bufferFrom text).map .data

variable {receiver : Negotiator}

theorem receive_text (hstate : receiver.state = .data) {bytes : Bytes} (h : IAC ∉ bytes) :
    feed Negotiator.receive receiver bytes = (receiver, bytes.map .data) := by
  induction bytes with
  | nil => rfl
  | cons byte rest ih =>
    rw [List.mem_cons, not_or] at h
    rw [feed_cons, receive_data hstate, if_neg (Ne.symm h.1), ih h.2]
    rfl

theorem receive_negotiation (hstate : receiver.state = .data) (verb : Verb) (option : UInt8) :
    (feed Negotiator.receive receiver (Item.negotiation verb option).encode).2 =
        [.negotiation verb.byte option] ∧
      (feed Negotiator.receive receiver (Item.negotiation verb option).encode).1.state = .data := by
  obtain ⟨options, state, currentCommand, subnegBuffer⟩ := receiver
  obtain rfl : state = .data := hstate
  cases verb <;> exact ⟨rfl, rfl⟩

theorem Sent.Proper.readAs {sent : Sent} (h : sent.Proper) (hstate : receiver.state = .data) :
    sent.ReadAs (feed Negotiator.receive receiver sent.bytes).2 ∧
      (feed Negotiator.receive receiver sent.bytes).1.state = .data := by
  cases sent with
  | negotiation bytes =>
    rcases h with ⟨verb, option, hbytes⟩ | ⟨payload, hbytes⟩
    · obtain ⟨hreadings, hlast⟩ := receive_negotiation hstate verb option
      rw [← hbytes] at hreadings hlast
      exact ⟨.inl ⟨verb, option, hbytes, hreadings⟩, hlast⟩
    · obtain ⟨hreadings, hlast⟩ := readsAs_encode payload receiver hstate
      rw [← hbytes] at hreadings hlast
      exact ⟨.inr ⟨payload, hbytes, hreadings⟩, hlast⟩
  | login bytes =>
    have hfed := receive_text hstate h
    exact ⟨congrArg Prod.snd hfed, (congrArg (fun fed => fed.1.state) hfed).trans hstate⟩
  | client text =>
    have hfed := receive_text hstate (iac_not_mem_bufferFrom text)
    exact ⟨congrArg Prod.snd hfed, (congrArg (fun fed => fed.1.state) hfed).trans hstate⟩

-- Nothing that is written runs into what is written next.
theorem writes_read {sents : List Sent} (h : ∀ sent ∈ sents, sent.Proper)
    (hstate : receiver.state = .data) :
    ∃ readings, List.Forall₂ Sent.ReadAs sents readings ∧
      (feed Negotiator.receive receiver (sents.flatMap Sent.bytes)).2 = readings.flatten ∧
      (feed Negotiator.receive receiver (sents.flatMap Sent.bytes)).1.state = .data := by
  induction sents generalizing receiver with
  | nil => exact ⟨[], .nil, rfl, hstate⟩
  | cons sent rest ih =>
    rw [List.forall_mem_cons] at h
    obtain ⟨hfirst, hnext⟩ := h.1.readAs hstate
    obtain ⟨readings, hall, hread, hlast⟩ := ih h.2 hnext
    rw [List.flatMap_cons, feed_append]
    exact ⟨_ :: readings, .cons hfirst hall, congrArg _ hread, hlast⟩

end Server

section Shown

-- The beginning of an item, of which something is still to come.
def Unfinished (rest : Bytes) : Prop :=
  ∃ (item : Item) (more : Bytes), more ≠ [] ∧ item.encode = rest ++ more

theorem cleanData_unfinished {negotiator : Negotiator} (hstate : negotiator.state = .data)
    {rest : Bytes} (h : Unfinished rest) :
    cleanData (feed Negotiator.processOneByte negotiator rest).2 = [] := by
  obtain ⟨item, more, hmore, hencode⟩ := h
  have hwhole := (feed_item ⟨hstate, rfl⟩ item).1
  have hlength := congrArg List.length hencode
  have hpositive := List.length_pos_of_ne_nil hmore
  rw [List.length_append] at hlength
  have hdata := (congrArg cleanData hwhole).trans (cleanData_serve _ _)
  rw [hencode, feed_append, cleanData_append] at hdata
  cases item with
  | data byte =>
    rw [List.eq_nil_of_length_eq_zero (show rest.length = 0 by simp [Item.encode] at hlength; omega)]
    rfl
  | escaped =>
    -- One byte that starts a command says nothing yet.
    cases rest with
    | nil => rfl
    | cons first later =>
      have hnone : later.length = 0 := by
        simp [Item.encode] at hlength
        omega
      rw [List.eq_nil_of_length_eq_zero hnone, ← (List.cons.inj hencode).1, feed_cons]
      simp [Negotiator.processOneByte, hstate, Negotiator.handleDataByte, cleanData]
  | command | negotiation | subnegotiation => exact (List.append_eq_nil_iff.mp hdata).1

theorem decoded_items {received : List Bytes} {items : List Item} {rest : Bytes}
    (h : received.flatten = items.flatMap Item.encode ++ rest) (hrest : Unfinished rest) :
    decoded received = items.flatMap Item.dataBytes := by
  obtain ⟨hclean, -, hstate, -⟩ := inbound_parsed { terminalType := [] } rfl items
    [items.flatMap Item.encode] (List.append_nil _)
  unfold decoded
  rw [h, feed_append, cleanData_append]
  refine (congrArg₂ (· ++ ·) ?_ (cleanData_unfinished hstate hrest)).trans (List.append_nil _)
  exact (List.append_nil _).symm.trans hclean

-- What an authenticator let through, with what it still holds back.
def Withheld (state : AuthState) (buffer : Bytes) (log : List LoginEntry) : Prop :=
  (log.flatMap (fun entry => entry.shown.delivered) ++ buffer).Sublist
      (log.flatMap LoginEntry.received) ∧
    (state.isWaiting = false → buffer = [])

theorem withheld_moves (options : AuthOptions) : KeptByMoves options Withheld := by
  intro state buffer received next nextBuffer shown log hlog hmoves
  obtain ⟨hsublist, hempty⟩ := hlog
  have hdrop : (log.flatMap fun entry => entry.shown.delivered).Sublist
      (log.flatMap LoginEntry.received) :=
    (List.sublist_append_left _ buffer).trans hsublist
  have hreceived := hsublist.append (List.Sublist.refl received)
  unfold Withheld
  rw [List.flatMap_append, List.flatMap_append, List.flatMap_singleton, List.flatMap_singleton]
  cases hmoves with
  | stays => exact ⟨by simpa using hsublist, hempty⟩
  | passes _ _ hstate =>
    rw [hempty hstate] at hreceived ⊢
    exact ⟨by simpa using hreceived, fun _ => rfl⟩
  | buffers hstate => exact ⟨by simpa using hreceived, fun hnot => by simp [hstate] at hnot⟩
  | overflows => exact ⟨by simpa using hreceived, fun _ => rfl⟩
  | username | password =>
    exact ⟨by simpa using hdrop.trans (List.sublist_append_left _ received), fun _ => rfl⟩
  | fails => exact ⟨by simpa using hdrop.append (List.Sublist.refl received), fun _ => rfl⟩
  | timesOut | settles => exact ⟨by simpa using hsublist, fun _ => rfl⟩

theorem Screen.sublist {shell : Shell} (h : Screen shell) :
    shell.handed.Sublist (decoded shell.received) := by
  unfold Shell.handed
  cases hlogin : shell.authenticator with
  | none => exact List.Sublist.refl _
  | some login =>
    obtain ⟨⟨options, events, hrun⟩, hreceived⟩ := h.login login hlogin
    obtain ⟨_, _, hsublist, _⟩ := @run_holds options Withheld
      ⟨List.Sublist.refl [], fun _ => rfl⟩ (withheld_moves options) events
    rw [← hrun] at hsublist
    rw [← hreceived]
    exact (List.sublist_append_left _ _).trans hsublist

end Shown

section Runs

variable {randomUUID : Nat → JsString}

-- In every run a socket that is paused has a shell whose stream waits for the consumer, and
-- what has it flow again is the read of a stream that waits and is not destroyed. With one
-- shell, the socket is paused exactly as long as its stream waits.
theorem telnet_flow (hinj : Function.Injective randomUUID)
    (allowedSubnets : Option (List JsString)) (events : List TelnetEvent) :
    let service := Run.run (telnetStep allowedSubnets randomUUID) {} events
    ∀ call socket, service.socket call = some socket →
      (socket.paused = true → (∃ shell ∈ service.shells, shell.call = call) →
        ∃ shell ∈ service.shells, shell.call = call ∧ shell.stream.needsDrain = true) ∧
      (socket.paused = true → ∀ (index : Nat) (shell : Shell),
        service.shells[index]? = some shell → shell.call = call →
          (((telnetStep allowedSubnets randomUUID service (.read index)).socket call).map
              NetSocket.paused = some false ↔
            shell.stream.needsDrain = true ∧ shell.stream.destroyed = false)) ∧
      ∀ shell, service.shells.filter (fun other => other.call = call) = [shell] →
        socket.paused = shell.stream.needsDrain := by
  intro service call socket hsocket
  have hcarries : service.Carries randomUUID :=
    TelnetServiceImpl.carries_run hinj allowedSubnets events
  have hflows := hcarries.traffic.flows call socket hsocket
  refine ⟨fun hpaused hexists => ?_, fun hpaused index shell hindex hcall => ?_,
    fun shell hshell => ?_⟩
  · have hholds : holdsOf service.shells call ≠ [] := by
      obtain ⟨shell, hshell, hcall⟩ := hexists
      have hmem : shell ∈ service.shells.filter fun other => other.call = call :=
        List.mem_filter.mpr ⟨hshell, decide_eq_true hcall⟩
      exact fun hempty => absurd (List.map_eq_nil_iff.mp hempty) (List.ne_nil_of_mem hmem)
    obtain ⟨hold, hmem, hneeds⟩ := hflows.stalls hpaused hholds
    obtain ⟨shell, hshell, rfl⟩ := List.mem_map.mp hmem
    obtain ⟨hshell, hcall⟩ := List.mem_filter.mp hshell
    exact ⟨shell, hshell, of_decide_eq_true hcall, hneeds⟩
  · subst hcall
    show (TelnetServiceImpl.socket (service.withShell index Shell.read) shell.call).map _ = _ ↔ _
    rw [TelnetServiceImpl.socket_read hindex hsocket, Option.map_some]
    split
    · rename_i hreads
      simpa [NetSocket.resume] using hreads
    · rename_i hidle
      simpa [hpaused] using hidle
  · exact hflows.single shell.hold (congrArg (List.map Shell.hold) hshell)

-- Two shells on one connection. The first one has the socket paused and is destroyed, and
-- the second one reads in vain.
theorem telnet_flow_paused :
    let randomUUID := fun draw => List.replicate draw (48 : UInt16)
    let config : TelnetConnectionConfig := { sessionId := js "s", host := js "h", port := .ofInt 23 }
    let service := Run.run (telnetStep none randomUUID) {}
      [.connect config (.ok true) (.ok ()), .connected 0, .shell [] {}, .shell [] {},
        .room 0 false, .data 0 [65], .destroyStream 0, .streamClosed 0]
    Function.Injective randomUUID ∧ ∃ socket first second, service.socket 0 = some socket ∧
      socket.paused = true ∧ service.shells[0]? = some first ∧ service.shells[1]? = some second ∧
      (∃ shell ∈ service.shells, shell.call = 0 ∧ shell.stream.needsDrain = true) ∧
      (((telnetStep none randomUUID service (.read 0)).socket 0).map NetSocket.paused = some false ↔
        first.stream.needsDrain = true ∧ first.stream.destroyed = false) ∧
      (((telnetStep none randomUUID service (.read 1)).socket 0).map NetSocket.paused = some false ↔
        second.stream.needsDrain = true ∧ second.stream.destroyed = false) := by
  intro randomUUID config service
  have hinj : Function.Injective randomUUID := List.replicate_left_injective 48
  have hpaused : (service.socket 0).map NetSocket.paused = some true := by decide
  have hcalls : service.shells.map Shell.call = [0, 0] := by decide
  obtain ⟨socket, hsocket, hstopped⟩ := Option.map_eq_some_iff.mp hpaused
  obtain ⟨first, others, hshells, hfirst, hothers⟩ := List.map_eq_cons_iff.mp hcalls
  obtain ⟨second, last, rfl, hsecond, -⟩ := List.map_eq_cons_iff.mp hothers
  obtain ⟨hwaits, hreads, -⟩ := telnet_flow hinj none
    [.connect config (.ok true) (.ok ()), .connected 0, .shell [] {}, .shell [] {},
      .room 0 false, .data 0 [65], .destroyStream 0, .streamClosed 0] 0 socket hsocket
  have hone : service.shells[0]? = some first := by rw [hshells]; rfl
  have htwo : service.shells[1]? = some second := by rw [hshells]; rfl
  have hmem : first ∈ service.shells := List.mem_of_getElem? hone
  exact ⟨hinj, socket, first, second, hsocket, hstopped, hone, htwo,
    hwaits hstopped ⟨first, hmem, hfirst⟩, hreads hstopped 0 first hone hfirst,
    hreads hstopped 1 second htwo hsecond⟩

-- In every run what a shell's stream is handed is the data that the server sent, in order
-- and with nothing added: all of it without an authenticator, and else what the run of the
-- authenticator over that data let through. The stream takes it until it is destroyed.
theorem telnet_screen (hinj : Function.Injective randomUUID)
    (allowedSubnets : Option (List JsString)) (events : List TelnetEvent) :
    let service := Run.run (telnetStep allowedSubnets randomUUID) {} events
    ∀ shell ∈ service.shells, ∀ (items : List Item) (rest : Bytes), Unfinished rest →
      shell.received.flatten = items.flatMap Item.encode ++ rest →
        ∃ handed : Bytes, shell.stream.pushed.flatten <+: handed ∧
          (shell.stream.destroyed = false → shell.stream.pushed.flatten = handed) ∧
          handed.Sublist (items.flatMap Item.dataBytes) ∧
          (shell.authenticator = none → handed = items.flatMap Item.dataBytes) ∧
          ∀ login, shell.authenticator = some login →
            (∃ options authEvents,
              login = Run.run Login.step (Login.start options) authEvents) ∧
            login.log.flatMap LoginEntry.received = items.flatMap Item.dataBytes ∧
            handed = login.log.flatMap fun entry => entry.shown.delivered := by
  intro service shell hshell items rest hrest hitems
  have hscreen : Screen shell :=
    (TelnetServiceImpl.carries_run hinj allowedSubnets events).traffic.screens shell hshell
  rw [← decoded_items hitems hrest]
  refine ⟨shell.handed, hscreen.shows.1, hscreen.shows.2, hscreen.sublist, fun hnone => ?_,
    fun login hlogin => ?_⟩
  · unfold Shell.handed
    rw [hnone]
  · obtain ⟨hrun, hreceived⟩ := hscreen.login login hlogin
    refine ⟨hrun, hreceived, ?_⟩
    unfold Shell.handed
    rw [hlogin]

-- The name goes to the prompt, and what follows it is shown. The last byte starts a command.
theorem telnet_screen_escaped :
    let randomUUID := fun draw => List.replicate draw (48 : UInt16)
    let config : TelnetConnectionConfig := { sessionId := js "s", host := js "h", port := .ofInt 23,
                                             username := some (js "u"), loginPrompt := some fun
                                               bytes => 58 ∈ bytes }
    let service := Run.run (telnetStep none randomUUID) {}
      [.connect config (.ok true) (.ok ()), .connected 0, .shell [] {},
        .data 0 [58], .data 0 [65, 255], .data 0 [255, 255]]
    ∃ shell ∈ service.shells, ∃ handed login, shell.authenticator = some login ∧
      shell.stream.pushed.flatten = handed ∧
      handed.Sublist [58, 65, 255] ∧
      login.log.flatMap LoginEntry.received = [58, 65, 255] ∧
      handed = login.log.flatMap fun entry => entry.shown.delivered := by
  intro randomUUID config service
  have hseen : service.shells.map (fun shell =>
      (shell.received, shell.stream.destroyed, shell.authenticator.isSome)) =
        [([[58], [65, 255], [255, 255]], false, true)] := by decide
  obtain ⟨shell, last, hshells, hshell, -⟩ := List.map_eq_cons_iff.mp hseen
  simp only [Prod.mk.injEq] at hshell
  obtain ⟨hreceived, hopen, hauth⟩ := hshell
  obtain ⟨login, hlogin⟩ := Option.isSome_iff_exists.mp hauth
  have hmem : shell ∈ service.shells := by
    rw [hshells]
    exact List.mem_cons_self
  obtain ⟨handed, -, hpushed, hsublist, -, hrun⟩ := telnet_screen
    (List.replicate_left_injective 48) none
    [.connect config (.ok true) (.ok ()), .connected 0, .shell [] {},
      .data 0 [58], .data 0 [65, 255], .data 0 [255, 255]] shell hmem
    [.data 58 (by decide), .data 65 (by decide), .escaped] [255]
    ⟨.escaped, [255], by decide, rfl⟩ (by rw [hreceived]; rfl)
  obtain ⟨-, hall, hhanded⟩ := hrun login hlogin
  exact ⟨shell, hmem, handed, login, hlogin, hpushed hopen, hsublist, hall, hhanded⟩

-- In every run a server reads what is written to its socket write by write: what the client
-- typed and the credentials as data, and a message of the negotiation as that message.
theorem telnet_server_reads (hinj : Function.Injective randomUUID)
    (allowedSubnets : Option (List JsString)) (events : List TelnetEvent) :
    let service := Run.run (telnetStep allowedSubnets randomUUID) {} events
    ∀ call socket, service.socket call = some socket →
      (∀ shell ∈ service.shells, shell.call = call → Spelled shell.negotiator.terminalType) →
        ∀ receiver : Negotiator, receiver.state = .data →
          ∃ readings, List.Forall₂ Sent.ReadAs socket.written readings ∧
            (feed Negotiator.receive receiver (socket.written.flatMap Sent.bytes)).2 =
              readings.flatten ∧
            (feed Negotiator.receive receiver (socket.written.flatMap Sent.bytes)).1.state =
              .data := by
  intro service call socket hsocket hspelled receiver hstate
  have hflows := (TelnetServiceImpl.carries_run hinj allowedSubnets events).traffic.flows call socket
    hsocket
  refine writes_read (hflows.framed fun hold hmem => ?_) hstate
  obtain ⟨shell, hshell, rfl⟩ := List.mem_map.mp hmem
  obtain ⟨hshell, hcall⟩ := List.mem_filter.mp hshell
  exact hspelled shell hshell (of_decide_eq_true hcall)

theorem telnet_server_reads_offers :
    let randomUUID := fun draw => List.replicate draw (48 : UInt16)
    let service := Run.run (telnetStep none randomUUID) {}
      [.connect ⟨js "s", js "host", .ofInt 23, none, none, none, none, none⟩ (.ok true) (.ok ()),
        .connected 0, .shell [] {}, .write 0 (js "ls"), .resize [] (.ofInt 24) (.ofInt 255)]
    ∃ socket, service.socket 0 = some socket ∧ socket.written.length = 4 ∧
      ∃ readings, List.Forall₂ Sent.ReadAs socket.written readings ∧
        (feed Negotiator.receive { terminalType := [] }
          (socket.written.flatMap Sent.bytes)).2 = readings.flatten := by
  intro randomUUID service
  have hwritten : (service.socket 0).map (fun socket => socket.written.length) = some 4 := by decide
  obtain ⟨socket, hsocket, hlength⟩ := Option.map_eq_some_iff.mp hwritten
  have hspelled : ∀ shell ∈ service.shells, Spelled shell.negotiator.terminalType := by
    have hnames : service.shells.map (fun shell => shell.negotiator.terminalType) =
        [js "xterm-256color"] := by decide
    intro shell hshell
    have hname := List.mem_map_of_mem (f := fun shell => shell.negotiator.terminalType) hshell
    rw [hnames, List.mem_singleton] at hname
    rw [hname]
    unfold Spelled
    decide
  obtain ⟨readings, hread, hflatten, _⟩ := telnet_server_reads (List.replicate_left_injective 48)
    none _ 0 socket hsocket (fun shell hshell _ => hspelled shell hshell) { terminalType := [] } rfl
  exact ⟨socket, hsocket, hlength, readings, hread, hflatten⟩

end Runs

end WebSsh2.Telnet
