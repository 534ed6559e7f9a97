import WebSsh2.Sftp.Upload

namespace WebSsh2.Sftp

open WebSsh2.Library WebSsh2.State

namespace Upload

structure UploadStartRequest where
  remotePath : JsString
  fileName : JsString
  fileSize : Number
  mimeType : Option JsString
  overwrite : Option Bool

def maxFileNameLength : Nat := 255

def maxMimeTypeLength : Nat := 128

section Validation

variable (runtime : Runtime)

def validateOptionalString (fields : List (JsString × JsonValue)) (key fieldName : JsString)
    (maxLength : Nat) : Except JsString (Option JsString) :=
  match Json.lookup key fields with
  | none | some .null => .ok none
  | some (.string value) =>
    if maxLength < value.length then
      .error (fieldName ++ js " exceeds maximum length of " ++
        runtime.numberToString (.ofInt maxLength))
    else
      .ok (some value)
  | some _ => .error (fieldName ++ js " must be a string")

-- A value that is no boolean counts as none.
def validateOptionalBoolean (fields : List (JsString × JsonValue)) (key : JsString) :
    Option Bool :=
  match Json.lookup key fields with
  | some (.bool value) => some value
  | _ => none

variable (data : JsValue)

def validateSftpUploadStartRequest (maxFileSize : Nat) : Except JsString UploadStartRequest :=
  match isRecord data with
  | none => .error (js "Upload start request must be an object")
  | some fields => do
    let remotePath ←
      validateRequiredString runtime fields (js "remotePath") (js "remotePath") maxPathLength 1
    let fileName ←
      validateRequiredString runtime fields (js "fileName") (js "fileName") maxFileNameLength 1
    let fileSize ←
      validateRequiredInt runtime fields (js "fileSize") (js "fileSize") 0 maxFileSize
    let mimeType ←
      validateOptionalString runtime fields (js "mimeType") (js "mimeType") maxMimeTypeLength
    let overwrite := validateOptionalBoolean fields (js "overwrite")
    pure { remotePath, fileName, fileSize, mimeType, overwrite }

-- The two cancel requests differ in the text for what is no object.
def validateCancelRequest (message : JsString) : Except JsString TransferId :=
  match isRecord data with
  | none => .error message
  | some fields => validateTransferId fields

def validateSftpUploadCancelRequest : Except JsString TransferId :=
  validateCancelRequest data (js "Upload cancel request must be an object")

def validateSftpDownloadCancelRequest : Except JsString TransferId :=
  validateCancelRequest data (js "Download cancel request must be an object")

-- The error of a file name; its code is not looked at.
def validateFileName (fileName : JsString) : Except JsString JsString :=
  if 0 ∈ fileName then
    .error (js "Filename contains invalid characters")
  else if maxFileNameLength < fileName.length then
    .error (js "Filename exceeds maximum length of " ++
      runtime.numberToString (.ofInt maxFileNameLength) ++ js " characters")
  else if 47 ∈ fileName || 92 ∈ fileName then
    .error (js "Filename cannot contain path separators")
  else if fileName = js "." || fileName = js ".." then
    .error (js "Invalid filename")
  else
    .ok fileName

def validateUploadPreFlight (request : UploadStartRequest) (transferId : TransferId)
    (maxFileSize : Number) : Except SftpServiceError Unit :=
  if maxFileSize.lt request.fileSize then
    .error {
      code := .fileTooLarge
      message := js "File size " ++ runtime.numberToString request.fileSize ++
        js " exceeds maximum " ++ runtime.numberToString maxFileSize
      transferId := some transferId }
  else
    match validateFileName runtime request.fileName with
    | .error message => .error {
        code := .invalidRequest, message, transferId := some transferId }
    | .ok _ => .ok ()

theorem validateRequiredInt_ok {fields : List (JsString × JsonValue)} {key fieldName : JsString}
    {max : Nat} {value : Number}
    (h : validateRequiredInt runtime fields key fieldName 0 max = .ok value) :
    ∃ size : Nat, value = .ofInt size ∧ size ≤ max := by
  unfold validateRequiredInt at h
  split at h
  · cases h
  · cases h
  · rename_i number _
    by_cases hinteger : isInteger number = true
    · rw [if_neg (by simp [hinteger])] at h
      by_cases hrange : (number.lt (.ofInt (0 : Nat)) || Number.lt (.ofInt max) number) = true
      · rw [if_pos hrange] at h
        cases h
      · rw [if_neg hrange] at h
        cases h
        rw [Bool.or_eq_true, not_or] at hrange
        obtain ⟨hlow, hhigh⟩ := hrange
        cases value with
        | nan => cases hinteger
        | infinity negative => cases hinteger
        | finite rational =>
          have hden : rational.den = 1 := by simpa [isInteger] using hinteger
          obtain ⟨whole, rfl⟩ : ∃ whole : Int, rational = whole :=
            ⟨rational.num, (Rat.den_eq_one_iff rational).mp hden |>.symm⟩
          change ¬(Number.ofInt whole).lt (.ofInt (0 : Nat)) = true at hlow
          change ¬Number.lt (.ofInt max) (.ofInt whole) = true at hhigh
          rw [Number.ofInt_lt, decide_eq_true_iff] at hlow hhigh
          refine ⟨whole.toNat, ?_, by omega⟩
          show Number.ofInt whole = _
          rw [Number.ofInt_inj]
          omega
    · rw [if_pos (by simp [hinteger])] at h
      cases h
  · cases h

-- A request that passes the validation declares a whole number up to the limit.
theorem validateSftpUploadStartRequest_fileSize {data : JsValue} {maxFileSize : Nat}
    {request : UploadStartRequest}
    (h : validateSftpUploadStartRequest runtime data maxFileSize = .ok request) :
    ∃ size : Nat, request.fileSize = .ofInt size ∧ size ≤ maxFileSize := by
  unfold validateSftpUploadStartRequest at h
  split at h
  · cases h
  · rename_i fields _
    cases hpath : validateRequiredString runtime fields (js "remotePath") (js "remotePath")
        maxPathLength 1 with
    | error message =>
      rw [hpath] at h
      cases h
    | ok remotePath =>
      cases hname : validateRequiredString runtime fields (js "fileName") (js "fileName")
          maxFileNameLength 1 with
      | error message =>
        rw [hpath, hname] at h
        cases h
      | ok fileName =>
        cases hsize : validateRequiredInt runtime fields (js "fileSize") (js "fileSize") 0
            maxFileSize with
        | error message =>
          rw [hpath, hname, hsize] at h
          cases h
        | ok fileSize =>
          cases htype : validateOptionalString runtime fields (js "mimeType")
              (js "mimeType") maxMimeTypeLength with
          | error message =>
            rw [hpath, hname, hsize, htype] at h
            cases h
          | ok mimeType =>
            rw [hpath, hname, hsize, htype] at h
            cases h
            exact validateRequiredInt_ok runtime hsize

end Validation

def mapChunkUpdateError (error : TransferError) (transferId : TransferId) : SftpServiceError where
  code := if error.code = .chunkMismatch then .chunkError else .invalidRequest
  message := error.message
  transferId := some transferId

def startUploadTransfer (runtime : Runtime) (manager : TransferManager)
    (request : UploadStartRequest) (transferId : TransferId) (sessionId : SessionId)
    (resolvedPath : JsString) (rateLimitBytesPerSec : Number) (now : Time) :
    Except SftpServiceError TransferManager :=
  let params : StartTransferParams := {
    transferId
    sessionId
    direction := .upload
    remotePath := resolvedPath
    fileName := request.fileName
    totalBytes := request.fileSize
    rateLimitBytesPerSec := some rateLimitBytesPerSec }
  (manager.startTransfer runtime params now).mapError fun error =>
    mapTransferStartError error transferId

end Upload

end WebSsh2.Sftp
