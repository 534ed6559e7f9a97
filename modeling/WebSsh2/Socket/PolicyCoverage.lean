import WebSsh2.Socket.Authentication

namespace WebSsh2.Socket

open WebSsh2.Library WebSsh2.State WebSsh2.Auth

-- What leaves for the server uses allowed methods only.
structure PolicyCovers (runtime : Runtime) (service : LoginConfig) (config : SSHConfig) :
    Prop where
  password : (SshService.buildConnectConfig service config).password ≠ none →
    .password ∈ service.allowedAuthMethods
  privateKey : (SshService.buildConnectConfig service config).privateKey ≠ none →
    .publickey ∈ service.allowedAuthMethods
  tryKeyboard : (SshService.buildConnectConfig service config).tryKeyboard = true →
    .keyboardInteractive ∈ service.allowedAuthMethods
  answers : ∀ rounds responses,
    .finish responses ∈ SshService.keyboardAnswers runtime service config rounds →
      config.password ∈ responses → .keyboardInteractive ∈ service.allowedAuthMethods

-- A secret that is sent although the policy does not count it: it is there, but
-- made of white space only (or no text at all).
def isOverlooked (value : JsValue) : Bool :=
  isFilled value && !hasCredential value

-- The condition on the credentials that were submitted.
structure NothingOverlooked (allowed : List AuthMethodToken) (given : CredentialFields) :
    Prop where
  password : isOverlooked given.password = true → .password ∈ allowed
  privateKey : isFilled given.password = false → isOverlooked given.privateKey = true →
    .publickey ∈ allowed

theorem filled_ne_none_iff {value : JsValue} : filled value ≠ none ↔ isFilled value = true := by
  unfold filled
  by_cases h : isFilled value = true
  · rw [if_pos h]
    exact ⟨fun _ => h, fun _ hnone => by simp [hnone, isFilled] at h⟩
  · rw [if_neg h]
    exact ⟨fun hne => absurd rfl hne, fun hfilled => absurd hfilled h⟩

theorem isFilled_filled (value : JsValue) : isFilled (filled value) = isFilled value := by
  unfold filled
  by_cases h : isFilled value = true
  · rw [if_pos h]
  · rw [if_neg h]
    rw [Bool.not_eq_true] at h
    rw [h]
    rfl

section Attempt

variable {σ : Type}

-- Credentials that were prepared for SSH are those submitted, and the policy passed them.
theorem prepareAuthCredentials_ssh {config : LoginConfig} {session : Option AuthSession}
    {context context' : AuthContext σ} {credentials : JsonValue} {prepared : CredentialFields}
    (h : prepareAuthCredentials config .ssh session context credentials =
      (context', .ok prepared)) :
    ∃ given, submitted session context.provider credentials = some given ∧
      prepared.password = given.password ∧ prepared.privateKey = given.privateKey ∧
      (hasCredential given.password = true → .password ∈ config.allowedAuthMethods) ∧
      (hasCredential given.privateKey = true → .publickey ∈ config.allowedAuthMethods) := by
  unfold prepareAuthCredentials at h
  cases hupdate : updateAuthPipeline context credentials with
  | error failure =>
    rw [hupdate] at h
    cases h
  | ok updated =>
    rw [hupdate] at h
    dsimp only at h
    rw [updateAuthPipeline_getCredentials hupdate] at h
    cases hgiven : submitted session context.provider credentials with
    | none =>
      rw [hgiven] at h
      cases h
    | some given =>
      rw [hgiven] at h
      dsimp only at h
      cases hpolicy : enforceAuthMethodPolicy config updated.state given with
      | error method =>
        rw [hpolicy] at h
        cases h
      | ok requested =>
        rw [hpolicy] at h
        obtain ⟨-, hprepared⟩ := Prod.mk.inj h
        cases hprepared
        obtain ⟨rfl, hallowed⟩ := evaluateAuthMethodPolicy_ok_iff.mp hpolicy
        refine ⟨given, rfl, rfl, rfl, fun hpassword => ?_, fun hkey => ?_⟩
        · exact hallowed _ (mem_requested_password.mpr hpassword)
        · exact hallowed _ (mem_requested_publickey.mpr hkey)

-- The attempt gets as far as `connect` of the SSH service, with these credentials.
structure ReachesConnect (config : LoginConfig) (session : Option AuthSession)
    (context : AuthContext σ) (credentials : JsonValue) (prepared : CredentialFields) :
    Prop where
  started : (startAuthentication config .ssh session context credentials).2 = .ok prepared
  admitted : performAuthentication prepared = none

theorem covers_iff_nothingOverlooked (runtime : Runtime) {config : LoginConfig}
    {session : Option AuthSession} {context : AuthContext σ} {credentials : JsonValue}
    {prepared : CredentialFields} (sessionId : SessionId)
    (h : (startAuthentication config .ssh session context credentials).2 = .ok prepared) :
    PolicyCovers runtime config (connectSSH prepared sessionId config) ↔
      ∀ given, submitted session context.provider credentials = some given →
        NothingOverlooked config.allowedAuthMethods given := by
  obtain ⟨given, hgiven, hpassword, hkey, hcounted, hkeyCounted⟩ :=
    prepareAuthCredentials_ssh (Prod.ext rfl h)
  change submitted session context.provider credentials = some given at hgiven
  rw [hgiven]
  have hsent :
      (SshService.buildConnectConfig config (connectSSH prepared sessionId config)).password ≠
      none ↔ isFilled given.password = true := by
    show filled (filled prepared.password) ≠ none ↔ _
    rw [filled_ne_none_iff, isFilled_filled, hpassword]
  have hkeySent : (SshService.buildConnectConfig config
      (connectSSH prepared sessionId config)).privateKey ≠ none ↔
        isFilled given.password = false ∧ isFilled given.privateKey = true := by
    show (if isFilled (filled prepared.password) then none
      else filled (filled prepared.privateKey)) ≠ none ↔ _
    rw [isFilled_filled, hpassword]
    cases hfilled : isFilled given.password with
    | true => simp
    | false =>
      rw [if_neg (by decide), filled_ne_none_iff, isFilled_filled, hkey]
      simp
  have hkeyboard : (SshService.buildConnectConfig config
      (connectSSH prepared sessionId config)).tryKeyboard = true ↔
        .keyboardInteractive ∈ config.allowedAuthMethods := isAuthMethodAllowed_iff
  constructor
  · intro hcovers other hother
    cases hother
    refine ⟨fun hoverlooked => ?_, fun hempty hoverlooked => ?_⟩
    · have hfilled := (Bool.and_eq_true _ _ ▸ hoverlooked).1
      exact hcovers.password (hsent.mpr hfilled)
    · have hfilled := (Bool.and_eq_true _ _ ▸ hoverlooked).1
      exact hcovers.privateKey (hkeySent.mpr ⟨hempty, hfilled⟩)
  · intro hnothing
    have hnothing := hnothing given rfl
    exact {
      password := by
        intro hne
        have hfilled := hsent.mp hne
        cases hcredential : hasCredential given.password with
        | true => exact hcounted hcredential
        | false => exact hnothing.password (by simp [isOverlooked, hfilled, hcredential])
      privateKey := by
        intro hne
        obtain ⟨hempty, hfilled⟩ := hkeySent.mp hne
        cases hcredential : hasCredential given.privateKey with
        | true => exact hkeyCounted hcredential
        | false =>
          exact hnothing.privateKey hempty (by simp [isOverlooked, hfilled, hcredential])
      tryKeyboard := hkeyboard.mp
      answers := by
        intro rounds responses hanswer _
        refine hkeyboard.mp ?_
        unfold SshService.keyboardAnswers at hanswer
        split at hanswer
        · assumption
        · cases hanswer }

-- What reaches `connect` is covered but for the secrets that the policy overlooks.
theorem policy_covers_iff (runtime : Runtime) (config : LoginConfig)
    (session : Option AuthSession) (context : AuthContext σ) (credentials : JsonValue)
    (sessionId : SessionId) :
    (∀ prepared, ReachesConnect config session context credentials prepared →
      PolicyCovers runtime config (connectSSH prepared sessionId config)) ↔
    ((∃ prepared, ReachesConnect config session context credentials prepared) →
      ∀ given, submitted session context.provider credentials = some given →
        NothingOverlooked config.allowedAuthMethods given) := by
  constructor
  · rintro hcovers ⟨prepared, hreached⟩
    apply (covers_iff_nothingOverlooked runtime sessionId hreached.started).mp
    exact hcovers prepared hreached
  · intro hnothing prepared hreached
    apply (covers_iff_nothingOverlooked runtime sessionId hreached.started).mpr
    exact hnothing ⟨prepared, hreached⟩

end Attempt

section Runs

-- A socket that waits for credentials.
def freshContext : AuthContext Unit where
  state := {}
  provider := .manual none

theorem alpha_policy_covers :
    PolicyCovers asciiRuntime (loginConfig [.password])
      (connectSSH (passwordFields (js "alpha")) (js "s") (loginConfig [.password])) := by
  refine (policy_covers_iff asciiRuntime (loginConfig [.password]) none freshContext
    (passwordMessage (js "alpha")) (js "s")).mpr ?_ _ ⟨by decide, by decide⟩
  intro _ given hgiven
  have hsubmitted : submitted none freshContext.provider (passwordMessage (js "alpha")) =
      some (passwordFields (js "alpha")) := by decide
  rw [hsubmitted] at hgiven
  cases hgiven
  exact ⟨by decide, by decide⟩

-- Three blanks pass the policy as no password, pass the authentication service as a
-- password, and are sent although only keys are allowed.
theorem blank_password_not_covered :
    ReachesConnect (loginConfig [.publickey]) none freshContext (passwordMessage (js "   "))
        (passwordFields (js "   ")) ∧
      ¬ PolicyCovers asciiRuntime (loginConfig [.publickey])
        (connectSSH (passwordFields (js "   ")) (js "s") (loginConfig [.publickey])) := by
  refine ⟨⟨by decide, by decide⟩, fun hcovers => ?_⟩
  have hsent : (SshService.buildConnectConfig (loginConfig [.publickey])
      (connectSSH (passwordFields (js "   ")) (js "s") (loginConfig [.publickey]))).password ≠
        none := by decide
  have hallowed := hcovers.password hsent
  revert hallowed
  decide

end Runs

end WebSsh2.Socket
