import WebSsh2.Http.Routes
import WebSsh2.Library.Run

namespace WebSsh2.Http

open WebSsh2.Library WebSsh2.Auth WebSsh2.Socket

section Interleaving

-- A request that was not answered yet. `copy` is its session at the end of the response,
-- `early` what the authentication middleware saves before, and `saved` what the store is
-- known to hold of the copy.
structure PendingRequest where
  copy : AuthSession
  early : Option AuthSession
  saved : AuthSession
  answered : Bool := false

-- How the last attempt that was reported ended.
inductive LoginOutcome where
  | failed | succeeded
deriving DecidableEq

-- One session: in the store, in the requests in progress and in the sockets.
structure World where
  store : AuthSession := {}
  pending : List PendingRequest := []
  sockets : List AuthSession := []
  outcome : Option LoginOutcome := none

inductive WorldEvent where
  | arrive (request : HttpRequest)
  | save (request : Nat)
  | respond (request : Nat) (otherChanged : Bool)
  | handshake
  | connectionError (socket : Nat) (message : JsString)
  | loginSucceeded (socket : Nat)

variable (runtime : Runtime) (escape : JsString → JsString) (config : HttpConfig)

def earlyCopy (request : HttpRequest) (session : AuthSession) : Option AuthSession :=
  match request.route with
  | .host _ => (authMiddleware escape config request.basicAuth session).toOption
  | _ => none

def loadRequest (request : HttpRequest) (store : AuthSession) : PendingRequest where
  copy := (serve runtime escape config request store).1
  early := earlyCopy escape config request store
  saved := store

-- A request takes a copy when it arrives. The copy is written back by `session.save()`
-- and at the end of the response, where it or another field of the session changed.
def worldStep (world : World) : WorldEvent → World
  | .arrive request =>
    { world with
      pending := world.pending ++ [loadRequest runtime escape config request world.store]
      outcome := if world.outcome = some .failed then none else world.outcome }
  | .save request =>
    match world.pending[request]? with
    | none => world
    | some pending =>
      match pending.early with
      | none => world
      | some early =>
        { world with
          store := storedSession early
          pending := world.pending.set request { pending with saved := early } }
  | .respond request otherChanged =>
    match world.pending[request]? with
    | none => world
    | some pending =>
      if pending.answered then
        world
      else
        { world with
          store :=
            if otherChanged ∨ pending.copy ≠ pending.saved then storedSession pending.copy
            else world.store
          pending := world.pending.set request { pending with answered := true } }
  | .handshake => { world with sockets := world.sockets ++ [world.store] }
  | .connectionError socket message =>
    { world with
      sockets := world.sockets.modify socket fun session =>
        (emitConnectionError runtime message (some session)).getD session
      outcome :=
        if socket < world.sockets.length ∧ determineErrorType runtime message = .auth then
          some .failed
        else world.outcome }
  | .loginSucceeded socket =>
    { world with
      sockets := world.sockets.modify socket fun session =>
        (clearAuthFailed (some session)).getD session
      outcome :=
        if socket < world.sockets.length then some .succeeded else world.outcome }

-- What a request is to see: after a failure the next one sees the flag and no credentials,
-- and is given none by the middleware; after a success none sees the flag.
def SeesOutcome (world : World) : WorldEvent → Prop
  | .arrive request =>
    (world.outcome = some .failed →
      world.store.authFailed = some true ∧ world.store.sshCredentials = none ∧
        ∀ host, request.route = .host host →
          (serve runtime escape config request world.store).1.sshCredentials = none) ∧
      (world.outcome = some .succeeded → world.store.authFailed ≠ some true)
  | _ => True

-- The condition on a step: no request comes next after a failure.
def NotAfterFailure (world : World) : WorldEvent → Prop
  | .arrive _ => world.outcome ≠ some .failed
  | _ => True

end Interleaving

section Flags

variable {runtime : Runtime} {escape : JsString → JsString} {config : HttpConfig}

def Unflagged (session : AuthSession) : Prop :=
  session.authFailed ≠ some true

-- Nothing that is ever written to the store has the flag.
structure NeverFlagged (world : World) : Prop where
  store : Unflagged world.store
  copies : ∀ pending ∈ world.pending, Unflagged pending.copy
  early : ∀ pending ∈ world.pending, ∀ session, pending.early = some session → Unflagged session

variable {session : AuthSession}

theorem unflagged_storedSession (h : Unflagged session) :
    Unflagged (storedSession session) := h

theorem unflagged_deleteProperty (key : JsString) (h : Unflagged session) :
    Unflagged (deleteProperty session key) := by
  unfold deleteProperty
  split
  · exact h
  · split
    · exact h
    · split
      · exact h
      · split
        · intro hflag
          cases hflag
        · exact h

theorem unflagged_foldl_deleteProperty (keys : List JsString) (h : Unflagged session) :
    Unflagged (keys.foldl deleteProperty session) := by
  induction keys generalizing session with
  | nil => exact h
  | cons key rest ih => exact ih (unflagged_deleteProperty key h)

theorem unflagged_authMiddleware {basicAuth : Option BasicAuthCredentials}
    {session updated : AuthSession} (h : Unflagged session)
    (hupdated : authMiddleware escape config basicAuth session = .ok updated) :
    Unflagged updated := by
  unfold authMiddleware at hupdated
  split at hupdated
  · cases hupdated
  · rw [if_neg h] at hupdated
    cases hupdated
    exact h

theorem unflagged_handleSshGetRoute {query : Fields} {host : Option JsString}
    (h : Unflagged session) : Unflagged (handleSshGetRoute config query host session).1 := by
  unfold handleSshGetRoute
  split
  · exact h
  · split
    · exact h
    · split
      · exact h
      · exact h

theorem unflagged_handlePostAuthRoute {body query : Fields} {host : Option JsString}
    (h : Unflagged session) : Unflagged (handlePostAuthRoute config body query host session).1 := by
  unfold handlePostAuthRoute
  split
  · exact h
  · split
    · exact h
    · exact h

theorem unflagged_serve {request : HttpRequest} (h : Unflagged session) :
    Unflagged (serve runtime escape config request session).1 := by
  unfold serve
  split
  · exact h
  · split
    · exact h
    · split
      · exact h
      · rename_i hupdated
        exact unflagged_handleSshGetRoute (unflagged_authMiddleware h hupdated)
    · exact unflagged_handlePostAuthRoute h
    · exact h
    · exact unflagged_deleteProperty _ h
    · exact unflagged_foldl_deleteProperty _ h
    · split <;> exact h
    · split <;> exact h
    · split <;> exact h
    · exact h

theorem unflagged_earlyCopy {request : HttpRequest} {session early : AuthSession}
    (h : Unflagged session) (hearly : earlyCopy escape config request session = some early) :
    Unflagged early := by
  unfold earlyCopy at hearly
  split at hearly
  · cases hmiddleware : authMiddleware escape config request.basicAuth session with
    | error error =>
      rw [hmiddleware] at hearly
      cases hearly
    | ok updated =>
      rw [hmiddleware] at hearly
      cases hearly
      exact unflagged_authMiddleware h hmiddleware
  · cases hearly

theorem NeverFlagged.set {world : World} (h : NeverFlagged world) {index : Nat}
    {pending changed : PendingRequest} {store : AuthSession}
    (hpending : world.pending[index]? = some pending) (hstore : Unflagged store)
    (hcopy : changed.copy = pending.copy) (hearly : changed.early = pending.early) :
    NeverFlagged { world with store := store, pending := world.pending.set index changed } := by
  have hmem := List.mem_of_getElem? hpending
  refine ⟨hstore, fun other hother => ?_, fun other hother session hsession => ?_⟩
  · rcases List.mem_or_eq_of_mem_set hother with hother | rfl
    · exact h.copies other hother
    · rw [hcopy]
      exact h.copies pending hmem
  · rcases List.mem_or_eq_of_mem_set hother with hother | rfl
    · exact h.early other hother session hsession
    · rw [hearly] at hsession
      exact h.early pending hmem session hsession

theorem neverFlagged_step (world : World) (event : WorldEvent) (h : NeverFlagged world) :
    NeverFlagged (worldStep runtime escape config world event) := by
  cases event with
  | arrive request =>
    refine ⟨h.store, fun pending hpending => ?_, fun pending hpending session hsession => ?_⟩
    · rcases List.mem_append.mp hpending with hpending | hnew
      · exact h.copies pending hpending
      · rw [List.mem_singleton.mp hnew]
        exact unflagged_serve h.store
    · rcases List.mem_append.mp hpending with hpending | hnew
      · exact h.early pending hpending session hsession
      · rw [List.mem_singleton.mp hnew] at hsession
        exact unflagged_earlyCopy h.store hsession
  | save request =>
    unfold worldStep
    dsimp only
    split
    · exact h
    · rename_i pending hpending
      split
      · exact h
      · rename_i early hearly
        exact h.set hpending (h.early pending (List.mem_of_getElem? hpending) early hearly)
          rfl rfl
  | respond request otherChanged =>
    unfold worldStep
    dsimp only
    split
    · exact h
    · rename_i pending hpending
      split
      · exact h
      · refine h.set hpending ?_ rfl rfl
        split
        · exact h.copies pending (List.mem_of_getElem? hpending)
        · exact h.store
  | handshake | connectionError | loginSucceeded => exact ⟨h.store, h.copies, h.early⟩

end Flags

section Histories

variable (runtime : Runtime) (escape : JsString → JsString) (config : HttpConfig)

theorem seesOutcome_iff (world : World) (event : WorldEvent) (h : NeverFlagged world) :
    SeesOutcome runtime escape config world event ↔ NotAfterFailure world event := by
  cases event with
  | arrive request =>
    constructor
    · intro hsees hfailed
      exact h.store (hsees.1 hfailed).1
    · intro hnot
      exact ⟨fun hfailed => absurd hfailed hnot, fun _ => h.store⟩
  | save _ | respond _ _ | handshake | connectionError _ _ | loginSucceeded _ => exact Iff.rfl

-- For every history of requests in any order of arrivals and responses, and of sockets:
-- failing credentials are kept away exactly as long as no request follows a failure.
theorem failed_credentials_iff (events : List WorldEvent) :
    Run.Along (worldStep runtime escape config) (SeesOutcome runtime escape config) {} events ↔
      Run.Along (worldStep runtime escape config) NotAfterFailure {} events := by
  have hinit : NeverFlagged {} := by
    refine ⟨fun hflag => ?_, fun pending hpending => ?_, fun pending hpending => ?_⟩
    · cases hflag
    · cases hpending
    · cases hpending
  exact Run.along_congr (fun world event => neverFlagged_step world event)
    (seesOutcome_iff runtime escape config) hinit events

-- The cached header is used again after the server refused its password.
theorem failed_credentials_reused :
    ¬ ∀ (runtime : Runtime) (escape : JsString → JsString) (config : HttpConfig)
      (events : List WorldEvent),
      Run.Along (worldStep runtime escape config) (SeesOutcome runtime escape config) {}
        events := by
  intro h
  obtain ⟨-, -, hsees, -⟩ := h asciiRuntime id sampleConfig [
    .handshake,
    .connectionError 0 (js "All configured authentication methods failed"),
    .arrive {
      route := .host (some (js "web"))
      basicAuth := some { name := some (js "ann"), pass := some (js "secret") } }]
  have hfailed : (Run.run (worldStep asciiRuntime id sampleConfig) {} [.handshake,
      .connectionError 0 (js "All configured authentication methods failed")]).outcome =
        some .failed := by decide
  have hflag := (hsees.1 hfailed).1
  cases hflag

end Histories

end WebSsh2.Http
