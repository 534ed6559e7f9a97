import WebSsh2.Library.Attempts
import WebSsh2.Sftp.PathValidator

namespace WebSsh2.Release

open WebSsh2.Library WebSsh2.Library.Prog

section Integrity

inductive FailureReason where
  | attestationVerificationFailed
  | checksumMismatch
  | assetMissing
  | signatureInvalid
  | networkUnreachable
  | rateLimited
  | serverError
deriving DecidableEq

def FailureReason.name : FailureReason → String
  | .attestationVerificationFailed => "attestation-verification-failed"
  | .checksumMismatch => "checksum-mismatch"
  | .assetMissing => "asset-missing"
  | .signatureInvalid => "signature-invalid"
  | .networkUnreachable => "network-unreachable"
  | .rateLimited => "rate-limited"
  | .serverError => "server-error"

inductive FailureClass where
  | tamper
  | outage
deriving DecidableEq

def OUTAGE_REASONS : List FailureReason :=
  [.networkUnreachable, .rateLimited, .serverError]

def classifyFailure (reason : FailureReason) : FailureClass :=
  if reason ∈ OUTAGE_REASONS then .outage else .tamper

def CLIENT_REPO : JsString := js "billchurch/webssh2_client"

def CLIENT_SIGNER_WORKFLOW : JsString :=
  js "billchurch/webssh2_client/.github/workflows/release.yml"

def CLIENT_CERT_IDENTITY : JsString :=
  js "https://github.com/" ++ CLIENT_SIGNER_WORKFLOW ++ js "@refs/heads/main"

def CLIENT_PACKAGE_PATH : JsString := js "node_modules/webssh2_client"

def MINIMUM_CLIENT_VERSION : JsString := js "5.1.0"

def buildChecksumsUrl (version : JsString) : JsString :=
  js "https://github.com/" ++ CLIENT_REPO ++ js "/releases/download/v" ++ version ++
    js "/checksums.txt"

def buildAttestationVerifyArgs (file : JsString) : List JsString :=
  [js "attestation", js "verify", file, js "--repo", CLIENT_REPO, js "--cert-identity",
    CLIENT_CERT_IDENTITY]

def isHexDigit (unit : UInt16) : Bool :=
  isDigit unit || (97 ≤ unit && unit ≤ 102)

-- `/^[0-9a-f]+ {2}public\//`
def isPublicLine (line : JsString) : Bool :=
  line.takeWhile isHexDigit ≠ [] && (js "  public/").isPrefixOf (line.dropWhile isHexDigit)

def extractPublicChecksumLines (checksumsText : JsString) : List JsString :=
  (checksumsText.splitOn 10).filter isPublicLine

def isRecord : JsonValue → Bool
  | .object _ | .array _ => true
  | _ => false

def resolveClientVersionFromLockfile (lockfile : JsonValue) : Except JsString JsString :=
  if !isRecord lockfile then
    .error (js "package-lock.json did not parse to an object")
  else if Json.field (js "lockfileVersion") lockfile ≠ some (.number (.ofInt 3)) then
    .error (js "package-lock.json must be lockfileVersion 3 for deterministic resolution")
  else
    match (Json.field (js "packages") lockfile).bind (Json.field CLIENT_PACKAGE_PATH) with
    | none => .error (js "package-lock.json has no \"" ++ CLIENT_PACKAGE_PATH ++ js "\" entry")
    | some entry =>
      match Json.field (js "version") entry with
      | some (.string version) => .ok version
      | _ => .error (js "\"" ++ CLIENT_PACKAGE_PATH ++
          js "\" lockfile entry has no string version")

-- Large numbers are rounded there; next to the floor that makes no difference.
def compareSemver (first second : Nat × Nat × Nat) : Int :=
  if first.1 ≠ second.1 then if first.1 < second.1 then -1 else 1
  else if first.2.1 ≠ second.2.1 then if first.2.1 < second.2.1 then -1 else 1
  else if first.2.2 ≠ second.2.2 then if first.2.2 < second.2.2 then -1 else 1
  else 0

def FLOOR : Nat × Nat × Nat := (5, 1, 0)

def isDigits (text : JsString) : Bool :=
  text ≠ [] && text.all isDigit

-- `/^(\d+)\.(\d+)\.(\d+)$/`
def strictSemver (raw : JsString) : Option (JsString × JsString × JsString) :=
  match raw.splitOn 46 with
  | [major, minor, patch] =>
    if isDigits major && isDigits minor && isDigits patch then some (major, minor, patch)
    else none
  | _ => none

def validateClientVersion (raw : JsString) : Except JsString JsString :=
  match strictSemver raw with
  | none => .error (js "client version \"" ++ raw ++
      js "\" is not strict semver (expected MAJOR.MINOR.PATCH)")
  | some (major, minor, patch) =>
    if compareSemver (digitsValue major, digitsValue minor, digitsValue patch) FLOOR < 0 then
      .error (js "client version " ++ raw ++ js " is below the minimum " ++
        MINIMUM_CLIENT_VERSION ++ js " (no checksums.txt/attestation in older releases)")
    else .ok raw

end Integrity

section Script

inductive BundleError where
  | verify (message : JsString) (reason : FailureReason)
  | other (message : JsString)

structure FetchResponse where
  status : Nat
  contentLength : Option JsString

-- `code` is none for a child that a signal ended.
structure ChildResult where
  code : Option Int
  stdout : JsString
  stderr : JsString

inductive BundleCall where
  | readFile (path : JsString)
  | fetch (url : JsString)
  | text
  | sleep (ms : Nat)
  | mkdtemp (start : JsString)
  | writeFile (path text : JsString)
  | run (command : JsString) (args : List JsString) (cwd stdin : Option JsString)

-- What a call may fail with is the message of the error; a request that is refused needs none.
def BundleCall.Answer : BundleCall → Type
  | .readFile _ | .text | .mkdtemp _ => Except JsString JsString
  | .fetch _ => Option FetchResponse
  | .sleep _ => Unit
  | .writeFile _ _ => Except JsString Unit
  | .run _ _ _ _ => Except JsString ChildResult

abbrev BundleEvent := Event BundleCall BundleCall.Answer

abbrev BundleTask (α : Type) := Prog BundleCall BundleCall.Answer (Except BundleError α)

-- `parseJson` is `JSON.parse`, with the message where it throws.
structure BundleEnvironment where
  runtime : Runtime
  parseJson : JsString → Except JsString JsonValue
  cwd : JsString
  tmpdir : JsString
  clientDir : Option JsString
  outageOverride : Option JsString

def CHECKSUMS_MAX_BYTES : Nat := 1048576

def DOWNLOAD_ATTEMPTS : Nat := 4

def DOWNLOAD_BASE_DELAY_MS : Nat := 1000

-- `join` of `node:path`
def joinPaths (parts : List JsString) : JsString :=
  let joined := [47].intercalate (parts.filter (· ≠ []))
  if joined = [] then [46] else Sftp.PathPosix.normalize joined

-- What a promise that may be rejected is settled with.
def attempt {α : Type} (request : BundleCall)
    (settled : BundleCall.Answer request → Except JsString α) : BundleTask α :=
  once request fun answer => (settled answer).mapError .other

def fail {α : Type} (message : JsString) (reason : FailureReason) : Except BundleError α :=
  .error (.verify message reason)

def withRetry {α : Type} (operation : BundleTask α) (attempts baseDelayMs : Nat)
    (shouldRetry : BundleError → Bool) : BundleTask α :=
  match attempts with
  | 0 => .done (.error (.other (js "undefined")))
  | further + 1 => retry operation
      (fun attempt => .ask (.sleep (baseDelayMs * 2 ^ (attempt - 1))) .done) shouldRetry further 1

def isOutage : BundleError → Bool
  | .verify _ reason => classifyFailure reason = .outage
  | .other _ => false

variable (environment : BundleEnvironment) (version : JsString)

-- What is made of a response before its body is read.
def checkResponse :
    Option FetchResponse → Except BundleError Unit
  | none => fail (js "network error fetching " ++ buildChecksumsUrl version) .networkUnreachable
  | some response =>
    let url := buildChecksumsUrl version
    let status := environment.runtime.numberToString (.ofInt response.status)
    if response.status = 404 then
      fail (js "checksums.txt missing for release v" ++ version) .assetMissing
    else if response.status = 429 then
      fail (js "rate limited fetching " ++ url) .rateLimited
    else if 500 ≤ response.status then
      fail (js "server error " ++ status ++ js " fetching " ++ url) .serverError
    else if ¬(200 ≤ response.status ∧ response.status ≤ 299) then
      fail (js "unexpected status " ++ status ++ js " fetching " ++ url) .assetMissing
    else if Number.lt (.ofInt CHECKSUMS_MAX_BYTES)
        (environment.runtime.stringToNumber (response.contentLength.getD (js "0"))) then
      fail (js "checksums.txt exceeds size cap") .assetMissing
    else .ok ()

def checkBody : Except JsString JsString → Except BundleError JsString
  | .error message => .error (.other message)
  | .ok body =>
    if CHECKSUMS_MAX_BYTES < body.length then
      fail (js "checksums.txt exceeds size cap") .assetMissing
    else .ok body

-- The operation that is tried again.
def fetchChecksums : BundleTask JsString :=
  andThen (once (.fetch (buildChecksumsUrl version)) (checkResponse environment version)) fun _ =>
    once .text checkBody

def downloadChecksums : BundleTask JsString :=
  withRetry (fetchChecksums environment version) DOWNLOAD_ATTEMPTS DOWNLOAD_BASE_DELAY_MS isOutage

-- A child that cannot be started, that ends badly, or that ends well.
def exited (launchFailure : JsString → BundleError) (failure : ChildResult → BundleError) :
    Except JsString ChildResult → Except BundleError Unit
  | .error message => .error (launchFailure message)
  | .ok result => if result.code.getD 1 ≠ 0 then .error (failure result) else .ok ()

def verifyAttestation (checksumsPath : JsString) : BundleTask Unit :=
  once (.run (js "gh") (buildAttestationVerifyArgs checksumsPath) none none) (exited
    (fun _ => .other
      (js "gh CLI is required for attestation verification but could not be launched"))
    fun result => .verify (js "attestation verification failed:\n" ++ trim result.stderr)
      .attestationVerificationFailed)

def verifyChecksums (checksumsText clientDir : JsString) : BundleTask Unit :=
  let lines := extractPublicChecksumLines checksumsText
  if lines.length = 0 then
    .done (fail (js "checksums.txt listed no public/ bundle files") .assetMissing)
  else
    once (.run (js "sha256sum") [js "-c", js "-"] (some clientDir)
        (some ([10].intercalate lines ++ [10]))) (exited .other fun result =>
      .verify (js "bundle checksum mismatch:\n" ++ trim result.stdout ++ js "\n" ++
        trim result.stderr) .checksumMismatch)

structure Paths where
  lockfilePath : JsString
  clientDir : JsString

def resolvePaths : Paths where
  lockfilePath := joinPaths [environment.cwd, js "package-lock.json"]
  clientDir := environment.clientDir.getD
    (joinPaths [environment.cwd, js "node_modules", js "webssh2_client", js "client"])

def lockedVersion (raw : JsString) : Except BundleError JsString :=
  match environment.parseJson raw with
  | .error message => .error (.other message)
  | .ok lockfile =>
    match resolveClientVersionFromLockfile lockfile with
    | .error message => .error (.verify message .assetMissing)
    | .ok resolved => (validateClientVersion resolved).mapError (.verify · .assetMissing)

def resolveVersion (lockfilePath : JsString) : BundleTask JsString :=
  once (.readFile lockfilePath) fun (raw : Except JsString JsString) =>
    (raw.mapError .other).bind (lockedVersion environment)

-- The rest of `verifyBundle`, once the checksums are there.
def checkBundle (clientDir version checksumsText : JsString) : BundleTask JsString :=
  andThen (attempt (.mkdtemp (joinPaths [environment.tmpdir, js "webssh2-bundle-"])) id) fun dir =>
  let checksumsPath := joinPaths [dir, js "checksums.txt"]
  andThen (attempt (.writeFile checksumsPath checksumsText) id) fun _ =>
  andThen (verifyAttestation checksumsPath) fun _ =>
  andThen (verifyChecksums checksumsText clientDir) fun _ =>
  .done (.ok version)

def verifyBundle (paths : Paths) : BundleTask JsString :=
  andThen (resolveVersion environment paths.lockfilePath) fun version =>
  andThen (downloadChecksums environment version) fun checksumsText =>
  checkBundle environment paths.clientDir version checksumsText

def isBypassAllowed : Bool :=
  environment.outageOverride = some (js "true")

structure ScriptOutcome where
  exitCode : Nat
  stdout : JsString := []
  stderr : JsString := []

def report : Except BundleError JsString → ScriptOutcome
  | .ok version => {
      exitCode := 0
      stdout := js "✓ webssh2_client@" ++ version ++
        js " bundle verified (provenance + checksums)\n" }
  | .error (.verify message reason) =>
    if classifyFailure reason = .outage ∧ isBypassAllowed environment then {
      exitCode := 0
      stderr := js "⚠ bundle verification skipped — infrastructure outage (" ++ js reason.name ++
        js ") and WEBSSH2_BUNDLE_VERIFY_OUTAGE_OVERRIDE set.\n" ++ message ++ js "\n" }
    else {
      exitCode := 1
      stderr := js "✗ bundle verification failed [" ++
        js (if classifyFailure reason = .tamper then "TAMPER" else "OUTAGE") ++ js "/" ++
        js reason.name ++ js "]\n" ++ message ++ js "\n" }
  | .error (.other message) => {
      exitCode := 1
      stderr := js "✗ bundle verification error: " ++ message ++ js "\n" }

def main : Prog BundleCall BundleCall.Answer ScriptOutcome :=
  (verifyBundle environment (resolvePaths environment)).bind fun result =>
    .done (report environment result)

end Script

end WebSsh2.Release
