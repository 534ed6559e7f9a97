import WebSsh2.Release.ClientBundle

namespace WebSsh2.Release

open WebSsh2.Library WebSsh2.Library.Prog

section Downloads

variable {environment : BundleEnvironment} {version : JsString}

-- The answers that count as an outage.
def outageAnswer : Option FetchResponse → Bool
  | none => true
  | some response => response.status = 429 || 500 ≤ response.status

def AcceptableResponse (environment : BundleEnvironment) (response : FetchResponse) : Prop :=
  200 ≤ response.status ∧ response.status ≤ 299 ∧
    Number.lt (.ofInt CHECKSUMS_MAX_BYTES)
      (environment.runtime.stringToNumber (response.contentLength.getD (js "0"))) = false

theorem checkResponse_ok_iff (response : FetchResponse) :
    checkResponse environment version (some response) = .ok () ↔
      AcceptableResponse environment response := by
  unfold checkResponse AcceptableResponse fail
  dsimp only
  constructor
  · intro h
    repeat
      split at h
      · cases h
    rename_i hstatus hsize
    obtain ⟨hlow, hhigh⟩ := not_not.mp hstatus
    exact ⟨hlow, hhigh, eq_false_of_ne_true hsize⟩
  · rintro ⟨hlow, hhigh, hsize⟩
    rw [if_neg (by omega), if_neg (by omega), if_neg (by omega),
      if_neg (not_not.mpr ⟨hlow, hhigh⟩), if_neg (by simp [hsize])]

theorem checkResponse_outage_iff (answer : Option FetchResponse) :
    (∃ failure, checkResponse environment version answer = .error failure ∧
        isOutage failure = true) ↔ outageAnswer answer = true := by
  unfold checkResponse fail outageAnswer
  cases answer with
  | none => simp [isOutage, classifyFailure, OUTAGE_REASONS]
  | some response =>
    dsimp only
    rw [Bool.or_eq_true, decide_eq_true_iff, decide_eq_true_iff]
    repeat' split
    all_goals
      simp [isOutage, classifyFailure, OUTAGE_REASONS]
      omega

theorem checkBody_ok_iff (answer : Except JsString JsString) (body : JsString) :
    checkBody answer = .ok body ↔ answer = .ok body ∧ body.length ≤ CHECKSUMS_MAX_BYTES := by
  unfold checkBody fail
  cases answer with
  | error message => simp
  | ok text =>
    dsimp only
    split
    · rename_i hlength
      refine ⟨nofun, ?_⟩
      rintro ⟨htext, hfits⟩
      rw [Except.ok.inj htext] at hlength
      omega
    · rename_i hlength
      constructor
      · intro h
        rw [← Except.ok.inj h]
        exact ⟨rfl, Nat.not_lt.mp hlength⟩
      · rintro ⟨htext, _⟩
        rw [Except.ok.inj htext]

-- What can fail, but never because of an outage.
def Steady {α : Type} (task : BundleTask α) : Prop :=
  ∀ events failure, Runs task events (.error failure) → isOutage failure = false

theorem Steady.andThen {α β : Type} {task : BundleTask α} {next : α → BundleTask β}
    (htask : Steady task) (hnext : ∀ value, Steady (next value)) :
    Steady (task.andThen next) := by
  intro events failure h
  rcases (runs_andThen_error_iff _ _ _ _).mp h with hfirst | ⟨_, value, second, _, _, hsecond⟩
  · exact htask events failure hfirst
  · exact hnext value second failure hsecond

theorem steady_once {α : Type} {request : BundleCall}
    {judge : BundleCall.Answer request → Except BundleError α}
    (h : ∀ answer failure, judge answer = .error failure → isOutage failure = false) :
    Steady (once request judge) := by
  intro events failure hruns
  obtain ⟨answer, _, hanswer⟩ := (runs_once_iff _ _ _ _).mp hruns
  exact h answer failure hanswer

theorem steady_checkBody : Steady (once .text checkBody) := by
  refine steady_once fun (answer : Except JsString JsString) failure h => ?_
  unfold checkBody fail at h
  cases answer with
  | error message =>
    rw [← Except.error.inj h]
    rfl
  | ok body =>
    dsimp only at h
    split at h
    · rw [← Except.error.inj h]
      rfl
    · cases h

theorem fetchChecksums_ok_iff (events : List BundleEvent) (body : JsString) :
    Runs (fetchChecksums environment version) events (.ok body) ↔
      ∃ response, events =
          [⟨.fetch (buildChecksumsUrl version), some response⟩, ⟨.text, .ok body⟩] ∧
        AcceptableResponse environment response ∧ body.length ≤ CHECKSUMS_MAX_BYTES := by
  refine (runs_once_andThen_ok_iff _ _ _ _ _).trans ?_
  constructor
  · rintro ⟨answer, _, later, hevents, hanswer, hlater⟩
    obtain ⟨text, htext, hbody⟩ := (runs_once_iff _ _ _ _).mp hlater
    obtain ⟨rfl, hlength⟩ := (checkBody_ok_iff _ _).mp hbody
    rw [htext] at hevents
    cases (answer : Option FetchResponse) with
    | none => cases hanswer
    | some response => exact ⟨response, hevents, (checkResponse_ok_iff response).mp hanswer, hlength⟩
  · rintro ⟨response, hevents, hresponse, hlength⟩
    exact ⟨some response, (), _, hevents, (checkResponse_ok_iff response).mpr hresponse,
      (runs_once_iff _ _ _ _).mpr ⟨.ok body, rfl, (checkBody_ok_iff _ _).mpr ⟨rfl, hlength⟩⟩⟩

theorem fetchChecksums_outage_iff (events : List BundleEvent) :
    (∃ failure, Runs (fetchChecksums environment version) events (.error failure) ∧
        isOutage failure = true) ↔
      ∃ answer, events = [⟨.fetch (buildChecksumsUrl version), answer⟩] ∧
        outageAnswer answer = true := by
  unfold fetchChecksums
  constructor
  · rintro ⟨failure, h, houtage⟩
    rcases (runs_andThen_error_iff _ _ _ _).mp h with hfirst | ⟨_, _, second, _, _, hsecond⟩
    · obtain ⟨answer, hevents, hanswer⟩ := (runs_once_iff _ _ _ _).mp hfirst
      exact ⟨answer, hevents, (checkResponse_outage_iff answer).mp ⟨failure, hanswer, houtage⟩⟩
    · rw [steady_checkBody second failure hsecond] at houtage
      cases houtage
  · rintro ⟨answer, hevents, houtage⟩
    obtain ⟨failure, hanswer, hretry⟩ :=
      (@checkResponse_outage_iff environment version answer).mpr houtage
    exact ⟨failure, (runs_andThen_error_iff _ _ _ _).mpr
      (.inl ((runs_once_iff _ _ _ _).mpr ⟨answer, hevents, hanswer⟩)), hretry⟩

def backoff (attempt : Nat) : Prog BundleCall BundleCall.Answer Unit :=
  .ask (.sleep (DOWNLOAD_BASE_DELAY_MS * 2 ^ (attempt - 1))) .done

-- Downloads that met an outage, each with the pause after it.
def outages (version : JsString) : Nat → List (Option FetchResponse) → List BundleEvent
  | _, [] => []
  | attempt, answer :: rest =>
    ⟨.fetch (buildChecksumsUrl version), answer⟩ ::
      ⟨.sleep (DOWNLOAD_BASE_DELAY_MS * 2 ^ (attempt - 1)), ()⟩ ::
        outages version (attempt + 1) rest

theorem retried_iff (attempt count : Nat) (before : List BundleEvent) :
    Retried (fetchChecksums environment version) backoff isOutage attempt count before ↔
      ∃ answers, answers.length = count ∧ (∀ answer ∈ answers, outageAnswer answer = true) ∧
        before = outages version attempt answers := by
  constructor
  · intro h
    induction h with
    | none => exact ⟨[], rfl, nofun, rfl⟩
    | more hfailed hretry hpaused _ ih =>
      obtain ⟨answers, hlength, hall, hlater⟩ := ih
      obtain ⟨answer, hevents, houtage⟩ :=
        (fetchChecksums_outage_iff _).mp ⟨_, hfailed, hretry⟩
      obtain ⟨_, rest, hpause, hdone⟩ := (runs_ask_iff _ _ _ _).mp hpaused
      obtain ⟨hrest, _⟩ := (runs_done_iff _ _ _).mp hdone
      refine ⟨answer :: answers, congrArg Nat.succ hlength,
        List.forall_mem_cons.mpr ⟨houtage, hall⟩, ?_⟩
      rw [hevents, hpause, hrest, hlater]
      rfl
  · rintro ⟨answers, hlength, hall, hbefore⟩
    induction answers generalizing attempt count before with
    | nil =>
      subst hlength hbefore
      exact .none attempt
    | cons answer rest ih =>
      rw [List.forall_mem_cons] at hall
      subst hlength
      obtain ⟨failure, hfailed, hretry⟩ := (@fetchChecksums_outage_iff environment version _).mpr
        ⟨answer, rfl, hall.1⟩
      have hpaused : Runs (backoff attempt)
          [⟨.sleep (DOWNLOAD_BASE_DELAY_MS * 2 ^ (attempt - 1)), ()⟩] () :=
        .ask _ _ (.done _)
      have hlater := ih (attempt + 1) rest.length _ rfl hall.2 rfl
      rw [hbefore]
      exact .more hfailed hretry hpaused hlater

end Downloads

section Gate

variable {environment : BundleEnvironment}

theorem runs_attempt_andThen_ok_iff {α β : Type} (request : BundleCall)
    (settled : BundleCall.Answer request → Except JsString α) (next : α → BundleTask β)
    (events : List BundleEvent) (result : β) :
    Runs ((attempt request settled).andThen next) events (.ok result) ↔
      ∃ answer value later, events = ⟨request, answer⟩ :: later ∧ settled answer = .ok value ∧
        Runs (next value) later (.ok result) := by
  have hsettled : ∀ (answer : BundleCall.Answer request) (value : α),
      (settled answer).mapError BundleError.other = .ok value ↔ settled answer = .ok value := by
    intro answer value
    cases settled answer <;> simp [Except.mapError]
  unfold attempt
  simp only [runs_once_andThen_ok_iff, hsettled]

theorem steady_attempt {α : Type} (request : BundleCall)
    (settled : BundleCall.Answer request → Except JsString α) :
    Steady (attempt request settled) := by
  refine steady_once fun answer failure h => ?_
  cases hsettled : settled answer with
  | ok value =>
    rw [hsettled] at h
    cases h
  | error message =>
    rw [hsettled] at h
    cases h
    rfl

theorem exited_ok_iff {launchFailure : JsString → BundleError}
    {failure : ChildResult → BundleError} (answer : Except JsString ChildResult) :
    exited launchFailure failure answer = .ok () ↔
      ∃ result : ChildResult, answer = .ok result ∧ result.code = some 0 := by
  unfold exited
  cases answer with
  | error message => simp
  | ok result =>
    obtain ⟨code, stdout, stderr⟩ := result
    cases code with
    | none => simp
    | some code => by_cases hcode : code = 0 <;> simp [hcode]

theorem steady_exited {command : JsString} {args : List JsString} {cwd stdin : Option JsString}
    {launchFailure : JsString → BundleError} {failure : ChildResult → BundleError}
    (hlaunch : ∀ message, isOutage (launchFailure message) = false)
    (hfailure : ∀ result, isOutage (failure result) = false) :
    Steady (once (.run command args cwd stdin) (exited launchFailure failure)) := by
  refine steady_once fun answer error h => ?_
  unfold exited at h
  split at h
  · rw [← Except.error.inj h]
    exact hlaunch _
  · split at h
    · rw [← Except.error.inj h]
      exact hfailure _
    · cases h

theorem steady_verifyAttestation (checksumsPath : JsString) :
    Steady (verifyAttestation checksumsPath) :=
  steady_exited (fun _ => rfl) fun _ => rfl

theorem steady_verifyChecksums (checksumsText clientDir : JsString) :
    Steady (verifyChecksums checksumsText clientDir) := by
  unfold verifyChecksums
  dsimp only
  split
  · intro events failure h
    rw [Except.error.inj ((runs_done_iff _ _ _).mp h).2]
    rfl
  · exact steady_exited (fun _ => rfl) fun _ => rfl

-- What is left to verify once the checksums are there.
def checkSteps (environment : BundleEnvironment) (body dir : JsString)
    (attested summed : ChildResult) : List BundleEvent :=
  [⟨.mkdtemp (joinPaths [environment.tmpdir, js "webssh2-bundle-"]), .ok dir⟩,
    ⟨.writeFile (joinPaths [dir, js "checksums.txt"]) body, .ok ()⟩,
    ⟨.run (js "gh") (buildAttestationVerifyArgs (joinPaths [dir, js "checksums.txt"])) none none,
      .ok attested⟩,
    ⟨.run (js "sha256sum") [js "-c", js "-"] (some (resolvePaths environment).clientDir)
      (some ([10].intercalate (extractPublicChecksumLines body) ++ [10])), .ok summed⟩]

-- A run in which the checksums of the pinned release were fetched, after less outages than
-- there are attempts, the very text was attested, and the bundle has those checksums.
inductive Verified (environment : BundleEnvironment) : List BundleEvent → Prop where
  | intro {raw version body dir : JsString} {answers : List (Option FetchResponse)}
      {response : FetchResponse} {attested summed : ChildResult}
      (hlocked : lockedVersion environment raw = .ok version)
      (hattempts : answers.length < DOWNLOAD_ATTEMPTS)
      (houtages : ∀ answer ∈ answers, outageAnswer answer = true)
      (hresponse : AcceptableResponse environment response)
      (hlength : body.length ≤ CHECKSUMS_MAX_BYTES) (hattested : attested.code = some 0)
      (hlines : extractPublicChecksumLines body ≠ []) (hsummed : summed.code = some 0) :
      Verified environment
        (⟨.readFile (resolvePaths environment).lockfilePath, .ok raw⟩ ::
          (outages version 1 answers ++
            ([⟨.fetch (buildChecksumsUrl version), some response⟩, ⟨.text, .ok body⟩] ++
              checkSteps environment body dir attested summed)))

-- A run in which every attempt to fetch the checksums met an outage.
inductive Unreachable (environment : BundleEnvironment) : List BundleEvent → Prop where
  | intro {raw version : JsString} {answers : List (Option FetchResponse)}
      {last : Option FetchResponse} (hlocked : lockedVersion environment raw = .ok version)
      (hattempts : answers.length + 1 = DOWNLOAD_ATTEMPTS)
      (houtages : ∀ answer ∈ answers, outageAnswer answer = true)
      (hlast : outageAnswer last = true) :
      Unreachable environment
        (⟨.readFile (resolvePaths environment).lockfilePath, .ok raw⟩ ::
          (outages version 1 answers ++ [⟨.fetch (buildChecksumsUrl version), last⟩]))

theorem runs_resolveVersion_ok_iff (path : JsString) (events : List BundleEvent)
    (version : JsString) :
    Runs (resolveVersion environment path) events (.ok version) ↔
      ∃ raw, events = [⟨.readFile path, .ok raw⟩] ∧ lockedVersion environment raw = .ok version := by
  refine (runs_once_iff _ _ _ _).trans ?_
  constructor
  · rintro ⟨answer, hevents, hlocked⟩
    cases (answer : Except JsString JsString) with
    | error message => cases hlocked
    | ok raw => exact ⟨raw, hevents, hlocked⟩
  · rintro ⟨raw, hevents, hlocked⟩
    exact ⟨.ok raw, hevents, hlocked⟩

theorem runs_downloadChecksums_iff (version : JsString) (events : List BundleEvent)
    (result : Except BundleError JsString) :
    Runs (downloadChecksums environment version) events result ↔
      ∃ answers last, answers.length < DOWNLOAD_ATTEMPTS ∧
        (∀ answer ∈ answers, outageAnswer answer = true) ∧
        events = outages version 1 answers ++ last ∧
        Runs (fetchChecksums environment version) last result ∧
        ∀ failure, result = .error failure → isOutage failure = true →
          answers.length + 1 = DOWNLOAD_ATTEMPTS := by
  show Runs (retry (fetchChecksums environment version) backoff isOutage 3 1) events result ↔ _
  rw [runs_retry_iff]
  constructor
  · rintro ⟨count, before, last, hcount, hevents, hretried, hlast, hspent⟩
    obtain ⟨answers, hlength, hall, hbefore⟩ := (retried_iff _ _ _).mp hretried
    rw [hbefore] at hevents
    rw [← hlength] at hcount
    refine ⟨answers, last, Nat.lt_succ_of_le hcount, hall, hevents, hlast, ?_⟩
    intro failure hfailure hretry
    rw [hlength, hspent failure hfailure hretry]
    rfl
  · rintro ⟨answers, last, hlength, hall, hevents, hlast, hspent⟩
    refine ⟨answers.length, _, last, Nat.le_of_lt_succ hlength, hevents,
      (retried_iff _ _ _).mpr ⟨answers, rfl, hall, rfl⟩, hlast, fun failure hfailure hretry => ?_⟩
    exact Nat.succ.inj (hspent failure hfailure hretry)

theorem runs_checkBundle_ok_iff (body version : JsString) (events : List BundleEvent)
    (result : JsString) :
    Runs (checkBundle environment (resolvePaths environment).clientDir version body) events
        (.ok result) ↔
      result = version ∧ ∃ dir, ∃ attested summed : ChildResult, attested.code = some 0 ∧
        summed.code = some 0 ∧ extractPublicChecksumLines body ≠ [] ∧
        events = checkSteps environment body dir attested summed := by
  refine (runs_attempt_andThen_ok_iff _ _ _ _ _).trans ?_
  constructor
  · rintro ⟨made, dir, later, hmade, rfl, h⟩
    obtain ⟨written, _, rest, hwritten, rfl, h⟩ := (runs_attempt_andThen_ok_iff _ _ _ _ _).mp h
    obtain ⟨_, _, sums, hattests, hattested, h⟩ := (runs_once_andThen_ok_iff _ _ _ _ _).mp h
    obtain ⟨attested, rfl, hcode⟩ := (exited_ok_iff _).mp hattested
    unfold verifyChecksums at h
    dsimp only at h
    split at h
    · obtain ⟨_, _, _, _, hnone, _⟩ := (runs_andThen_ok_iff _ _ _ _).mp h
      cases ((runs_done_iff _ _ _).mp hnone).2
    · rename_i hlines
      obtain ⟨_, _, last, hsums, hsummed, h⟩ := (runs_once_andThen_ok_iff _ _ _ _ _).mp h
      obtain ⟨summed, rfl, hsummedCode⟩ := (exited_ok_iff _).mp hsummed
      obtain ⟨rfl, hresult⟩ := (runs_done_iff _ _ _).mp h
      refine ⟨Except.ok.inj hresult, dir, attested, summed, hcode, hsummedCode,
        fun hempty => hlines (congrArg List.length hempty), ?_⟩
      rw [hmade, hwritten, hattests, hsums]
      rfl
  · rintro ⟨rfl, dir, attested, summed, hcode, hsummedCode, hlines, rfl⟩
    refine ⟨_, dir, _, rfl, rfl, (runs_attempt_andThen_ok_iff _ _ _ _ _).mpr
      ⟨_, (), _, rfl, rfl, (runs_once_andThen_ok_iff _ _ _ _ _).mpr
        ⟨_, (), _, rfl, (exited_ok_iff _).mpr ⟨attested, rfl, hcode⟩, ?_⟩⟩⟩
    unfold verifyChecksums
    dsimp only
    rw [if_neg fun hlength => hlines (List.eq_nil_of_length_eq_zero hlength)]
    exact (runs_once_andThen_ok_iff _ _ _ _ _).mpr
      ⟨_, (), [], rfl, (exited_ok_iff _).mpr ⟨summed, rfl, hsummedCode⟩, .done _⟩

theorem runs_verifyBundle_ok_iff (events : List BundleEvent) :
    (∃ version, Runs (verifyBundle environment (resolvePaths environment)) events (.ok version)) ↔
      Verified environment events := by
  constructor
  · rintro ⟨version, h⟩
    obtain ⟨read, locked, later, hevents, hread, hlater⟩ := (runs_andThen_ok_iff _ _ _ _).mp h
    obtain ⟨raw, hraw, hlocked⟩ := (runs_resolveVersion_ok_iff _ _ _).mp hread
    obtain ⟨fetched, body, checks, hsplit, hfetched, hchecks⟩ :=
      (runs_andThen_ok_iff _ _ _ _).mp hlater
    obtain ⟨answers, last, hattempts, houtages, hall, hlast, _⟩ :=
      (runs_downloadChecksums_iff _ _ _).mp hfetched
    obtain ⟨response, hlastEvents, hresponse, hlength⟩ := (fetchChecksums_ok_iff _ _).mp hlast
    obtain ⟨_, dir, attested, summed, hattested, hsummed, hlines, hcheckEvents⟩ :=
      (runs_checkBundle_ok_iff _ _ _ _).mp hchecks
    rw [hevents, hraw, hsplit, hall, hlastEvents, hcheckEvents, List.append_assoc]
    exact .intro hlocked hattempts houtages hresponse hlength hattested hlines hsummed
  · rintro ⟨hlocked, hattempts, houtages, hresponse, hlength, hattested, hlines, hsummed⟩
    rename_i raw version body dir answers response attested summed
    refine ⟨version, (runs_andThen_ok_iff _ _ _ _).mpr ⟨[_], version, _, rfl, ?_, ?_⟩⟩
    · exact (runs_resolveVersion_ok_iff _ _ _).mpr ⟨raw, rfl, hlocked⟩
    · refine (runs_andThen_ok_iff _ _ _ _).mpr ⟨_, body, _, (List.append_assoc _ _ _).symm, ?_,
        (runs_checkBundle_ok_iff _ _ _ _).mpr
          ⟨rfl, dir, attested, summed, hattested, hsummed, hlines, rfl⟩⟩
      exact (runs_downloadChecksums_iff _ _ _).mpr ⟨answers, _, hattempts, houtages, rfl,
        (fetchChecksums_ok_iff _ _).mpr ⟨response, rfl, hresponse, hlength⟩, nofun⟩

theorem steady_resolveVersion (path : JsString) : Steady (resolveVersion environment path) := by
  refine steady_once fun (answer : Except JsString JsString) failure h => ?_
  cases answer with
  | error message =>
    rw [← Except.error.inj h]
    rfl
  | ok raw =>
    change lockedVersion environment raw = .error failure at h
    unfold lockedVersion at h
    split at h
    · rw [← Except.error.inj h]
      rfl
    · split at h
      · rw [← Except.error.inj h]
        rfl
      · rename_i resolved _
        cases hvalid : validateClientVersion resolved with
        | ok valid =>
          rw [hvalid] at h
          cases h
        | error message =>
          rw [hvalid] at h
          rw [← Except.error.inj h]
          rfl

theorem steady_checkBundle (clientDir body version : JsString) :
    Steady (checkBundle environment clientDir version body) := by
  refine (steady_attempt _ _).andThen fun dir => (steady_attempt _ _).andThen fun _ =>
    (steady_verifyAttestation _).andThen fun _ =>
      (steady_verifyChecksums _ _).andThen fun _ events failure h => ?_
  cases ((runs_done_iff _ _ _).mp h).2

theorem runs_verifyBundle_outage_iff (events : List BundleEvent) :
    (∃ failure, Runs (verifyBundle environment (resolvePaths environment)) events (.error failure) ∧
        isOutage failure = true) ↔ Unreachable environment events := by
  constructor
  · rintro ⟨failure, h, houtage⟩
    rcases (runs_andThen_error_iff _ _ _ _).mp h with hread | ⟨read, version, later, hevents, hread, h⟩
    · rw [steady_resolveVersion _ _ _ hread] at houtage
      cases houtage
    · obtain ⟨raw, hraw, hlocked⟩ := (runs_resolveVersion_ok_iff _ _ _).mp hread
      rcases (runs_andThen_error_iff _ _ _ _).mp h with hfetched | ⟨_, _, _, _, _, h⟩
      · obtain ⟨answers, last, _, houtages, hall, hlast, hspent⟩ :=
          (runs_downloadChecksums_iff _ _ _).mp hfetched
        obtain ⟨answer, hlastEvents, hanswer⟩ :=
          (fetchChecksums_outage_iff _).mp ⟨failure, hlast, houtage⟩
        rw [hevents, hraw, hall, hlastEvents]
        exact .intro hlocked (hspent failure rfl houtage) houtages hanswer
      · rw [steady_checkBundle _ _ _ _ _ h] at houtage
        cases houtage
  · rintro ⟨hlocked, hattempts, houtages, hlast⟩
    rename_i raw version answers last
    obtain ⟨failure, hfetched, houtage⟩ := (@fetchChecksums_outage_iff environment version _).mpr
      ⟨last, rfl, hlast⟩
    refine ⟨failure, (runs_andThen_error_iff _ _ _ _).mpr
      (.inr ⟨[_], version, _, rfl, ?_, (runs_andThen_error_iff _ _ _ _).mpr (.inl ?_)⟩), houtage⟩
    · exact (runs_resolveVersion_ok_iff _ _ _).mpr ⟨raw, rfl, hlocked⟩
    · exact (runs_downloadChecksums_iff _ _ _).mpr ⟨answers, _,
        Nat.lt_of_succ_le (Nat.le_of_eq hattempts), houtages, rfl, hfetched, fun _ _ _ => hattempts⟩

theorem report_error_iff (failure : BundleError) :
    (report environment (.error failure)).exitCode = 0 ↔
      isOutage failure = true ∧ environment.outageOverride = some (js "true") := by
  cases failure with
  | other message => simp [report, isOutage]
  | verify message reason =>
    unfold report isOutage isBypassAllowed
    dsimp only
    split
    · rename_i hbypass
      simpa using hbypass
    · rename_i hbypass
      simpa using hbypass

-- Whatever the network, the child processes and the disk answer: the script ends well in
-- exactly the runs in which all was verified, and in those in which every download met an
-- outage and the override is set. A sign of tampering is never passed over.
theorem bundle_verification_gate (environment : BundleEnvironment) :
    (main environment).Ensures fun events outcome =>
      (outcome.exitCode = 0 ↔ Verified environment events ∨
        environment.outageOverride = some (js "true") ∧ Unreachable environment events) := by
  refine (ensures_bind _ _ _).mpr ((ensures_iff_runs _ _).mpr fun events result h => ?_)
  rw [ensures_done, List.append_nil]
  have hsame : ∀ other, Runs (verifyBundle environment (resolvePaths environment)) events other →
      other = result := fun other hother =>
    (@Runs.eq_of_append _ _ _ _ _ _ _ _ hother h [] [] rfl).2
  cases result with
  | ok version =>
    refine iff_of_true rfl (.inl ?_)
    exact (runs_verifyBundle_ok_iff events).mp ⟨version, h⟩
  | error failure =>
    rw [report_error_iff]
    constructor
    · rintro ⟨houtage, hoverride⟩
      exact .inr ⟨hoverride, (runs_verifyBundle_outage_iff events).mp ⟨failure, h, houtage⟩⟩
    · rintro (hverified | ⟨hoverride, hunreachable⟩)
      · obtain ⟨version, hversion⟩ := (runs_verifyBundle_ok_iff events).mpr hverified
        cases hsame _ hversion
      · obtain ⟨other, hother, houtage⟩ := (runs_verifyBundle_outage_iff events).mpr hunreachable
        cases hsame _ hother
        exact ⟨houtage, hoverride⟩

end Gate

end WebSsh2.Release
