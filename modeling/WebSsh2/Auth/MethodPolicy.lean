import WebSsh2.Values

namespace WebSsh2.Auth

open WebSsh2.Library

inductive AuthMethodToken where
  | password | publickey | keyboardInteractive
deriving DecidableEq

-- The credentials as the policy sees them; nothing is said about their types.
structure AuthMethodPolicyContext where
  password : JsValue
  privateKey : JsValue
  requestedKeyboardInteractive : Bool

def isAuthMethodAllowed (allowed : List AuthMethodToken) (method : AuthMethodToken) : Bool :=
  allowed.any (· = method)

def hasCredential : JsValue → Bool
  | some (.string value) => trim value ≠ []
  | _ => false

-- Each method stands in one place only, so there is nothing to remove twice.
def resolveRequestedAuthMethods (context : AuthMethodPolicyContext) : List AuthMethodToken :=
  (if hasCredential context.password then [.password] else []) ++
    (if hasCredential context.privateKey then [.publickey] else []) ++
    (if context.requestedKeyboardInteractive then [.keyboardInteractive] else [])

-- The methods that were asked for, or the first one that is not allowed.
def evaluateAuthMethodPolicy (allowed : List AuthMethodToken)
    (context : AuthMethodPolicyContext) : Except AuthMethodToken (List AuthMethodToken) :=
  let requested := resolveRequestedAuthMethods context
  match requested.find? fun method => method ∉ allowed with
  | some method => .error method
  | none => .ok requested

theorem isAuthMethodAllowed_iff {allowed : List AuthMethodToken} {method : AuthMethodToken} :
    isAuthMethodAllowed allowed method = true ↔ method ∈ allowed := by
  simp [isAuthMethodAllowed]

variable {context : AuthMethodPolicyContext}

theorem mem_requested_password :
    .password ∈ resolveRequestedAuthMethods context ↔ hasCredential context.password = true := by
  simp [resolveRequestedAuthMethods]

theorem mem_requested_publickey :
    .publickey ∈ resolveRequestedAuthMethods context ↔
      hasCredential context.privateKey = true := by
  simp [resolveRequestedAuthMethods]

-- A policy that lets a request pass allows every method that was asked for.
theorem evaluateAuthMethodPolicy_ok_iff {allowed : List AuthMethodToken}
    {requested : List AuthMethodToken} :
    evaluateAuthMethodPolicy allowed context = .ok requested ↔
      requested = resolveRequestedAuthMethods context ∧ ∀ method ∈ requested, method ∈ allowed := by
  unfold evaluateAuthMethodPolicy
  dsimp only
  cases hfind : (resolveRequestedAuthMethods context).find? fun method => method ∉ allowed with
  | some method =>
    have hmem := List.mem_of_find?_eq_some hfind
    have hnot := List.find?_some hfind
    constructor
    · intro h
      cases h
    · rintro ⟨rfl, hall⟩
      simp [hall method hmem] at hnot
  | none =>
    have hall : ∀ method ∈ resolveRequestedAuthMethods context, method ∈ allowed := by
      intro method hmem
      have hnot := List.find?_eq_none.mp hfind method hmem
      simpa using hnot
    constructor
    · intro h
      cases h
      exact ⟨rfl, hall⟩
    · rintro ⟨rfl, -⟩
      rfl

end WebSsh2.Auth
