import WebSsh2.Library.Base64
import WebSsh2.Library.Pieces
import WebSsh2.Sftp.Download

namespace WebSsh2.Sftp

open WebSsh2.Library

namespace Upload

-- The limits of the configuration, as its schema lets them through.
structure UploadConfig where
  maxFileSize : Nat
  chunkSize : Nat
  maxFileSize_pos : 0 < maxFileSize
  chunkSize_pos : 0 < chunkSize

structure UploadReadyResponse where
  transferId : TransferId
  chunkSize : Nat
  maxConcurrentChunks : Nat

-- The answer of `startUpload` once the file is open.
def uploadReady (config : UploadConfig) (transferId : TransferId) : UploadReadyResponse where
  transferId
  chunkSize := config.chunkSize
  maxConcurrentChunks := 1

structure UploadChunkRequest where
  transferId : TransferId
  chunkIndex : Number
  data : JsString
  isLast : Bool
deriving DecidableEq

def isInteger : Number → Bool
  | .finite value => value.den = 1
  | _ => false

def maxChunkIndex : Nat := 1000000

-- `Math.ceil(SFTP_DEFAULTS.CHUNK_SIZE * 1.34) + 100`
def maxDataLength : Nat := (32768 * 134 + 99) / 100 + 100

section Validation

variable (runtime : Runtime)

variable (fields : List (JsString × JsonValue))

def validateRequiredInt (key fieldName : JsString) (min max : Nat) : Except JsString Number :=
  match Json.lookup key fields with
  | none | some .null => .error (fieldName ++ js " is required")
  | some (.number value) =>
    if !isInteger value then
      .error (fieldName ++ js " must be an integer")
    else if value.lt (.ofInt min) || Number.lt (.ofInt max) value then
      .error (fieldName ++ js " must be between " ++ runtime.numberToString (.ofInt min) ++
        js " and " ++ runtime.numberToString (.ofInt max))
    else
      .ok value
  | some _ => .error (fieldName ++ js " must be an integer")

def validateRequiredBoolean (key fieldName : JsString) : Except JsString Bool :=
  match Json.lookup key fields with
  | none | some .null => .error (fieldName ++ js " is required")
  | some (.bool value) => .ok value
  | some _ => .error (fieldName ++ js " must be a boolean")

def isTransferId : JsValue → Option TransferId
  | some (.string value) => if value = [] then none else some value
  | _ => none

def validateTransferId : Except JsString TransferId :=
  match isTransferId (Json.lookup (js "transferId") fields) with
  | none => .error (js "transferId is required and must be a non-empty string")
  | some value =>
    if 128 < value.length then .error (js "transferId exceeds maximum length") else .ok value

def validateSftpUploadChunkRequest (data : JsValue) : Except JsString UploadChunkRequest :=
  match isRecord data with
  | none => .error (js "Upload chunk request must be an object")
  | some fields => do
    let transferId ← validateTransferId fields
    let chunkIndex ←
      validateRequiredInt runtime fields (js "chunkIndex") (js "chunkIndex") 0 maxChunkIndex
    let data ← validateRequiredString runtime fields (js "data") (js "data") maxDataLength 0
    let isLast ← validateRequiredBoolean fields (js "isLast") (js "isLast")
    pure { transferId, chunkIndex, data, isLast }

end Validation

-- What `handleUploadChunk` hands to the service: `Buffer.from(data, 'base64')`.
def uploadedData (request : UploadChunkRequest) : Bytes :=
  Base64.decode request.data

-- The client's side: the pieces of a file, and the message for each. A file without
-- bytes is one empty piece, since one message has to be the last.
def pieceCount (size length : Nat) : Nat :=
  max 1 ((length + size - 1) / size)

def piece (size : Nat) (file : Bytes) (index : Nat) : Bytes :=
  (file.drop (index * size)).take size

def uploadChunkMessage (ready : UploadReadyResponse) (file : Bytes) (index : Nat) : JsonValue :=
  .object [(js "transferId", .string ready.transferId), (js "chunkIndex", .number (.ofInt index)),
    (js "data", .string (Base64.encode (piece ready.chunkSize file index))),
    (js "isLast", .bool (index + 1 = pieceCount ready.chunkSize file.length))]

-- Every message is accepted, and its data is the piece.
def Usable (runtime : Runtime) (ready : UploadReadyResponse) (file : Bytes) : Prop :=
  ∀ index, index < pieceCount ready.chunkSize file.length →
    ∃ request, validateSftpUploadChunkRequest runtime
        (some (uploadChunkMessage ready file index)) = .ok request ∧
      request.chunkIndex = .ofInt index ∧
      uploadedData request = piece ready.chunkSize file index

-- The longest piece whose base64 text is short enough.
def longestPiece : Nat := 33006

section Messages

variable {runtime : Runtime} {ready : UploadReadyResponse} {file : Bytes} {index : Nat}

variable (first second third fourth : JsonValue)

theorem lookup_transferId :
    Json.lookup (js "transferId") [(js "transferId", first), (js "chunkIndex", second),
      (js "data", third), (js "isLast", fourth)] = some first :=
  if_pos rfl

theorem lookup_chunkIndex :
    Json.lookup (js "chunkIndex") [(js "transferId", first), (js "chunkIndex", second),
      (js "data", third), (js "isLast", fourth)] = some second := by
  unfold Json.lookup
  rw [if_neg (by decide)]
  exact if_pos rfl

theorem lookup_data :
    Json.lookup (js "data") [(js "transferId", first), (js "chunkIndex", second),
      (js "data", third), (js "isLast", fourth)] = some third := by
  unfold Json.lookup
  rw [if_neg (by decide)]
  unfold Json.lookup
  rw [if_neg (by decide)]
  exact if_pos rfl

theorem lookup_isLast :
    Json.lookup (js "isLast") [(js "transferId", first), (js "chunkIndex", second),
      (js "data", third), (js "isLast", fourth)] = some fourth := by
  unfold Json.lookup
  rw [if_neg (by decide)]
  unfold Json.lookup
  rw [if_neg (by decide)]
  unfold Json.lookup
  rw [if_neg (by decide)]
  exact if_pos rfl

theorem validateTransferId_message {fields : List (JsString × JsonValue)} {transferId : TransferId}
    (hlookup : Json.lookup (js "transferId") fields = some (.string transferId))
    (hid : transferId ≠ [] ∧ transferId.length ≤ 128) :
    validateTransferId fields = .ok transferId := by
  unfold validateTransferId
  rw [hlookup]
  unfold isTransferId
  simp only [hid.1, if_false]
  exact if_neg (by omega)

theorem validateRequiredInt_message {fields : List (JsString × JsonValue)} {key : JsString}
    {limit : Nat} (hlookup : Json.lookup key fields = some (.number (.ofInt index))) :
    (∃ error, validateRequiredInt runtime fields key key 0 limit = .error error) ∧ limit < index ∨
      validateRequiredInt runtime fields key key 0 limit = .ok (.ofInt index) ∧ index ≤ limit := by
  have hinteger : isInteger (.ofInt index) = true := by simp [isInteger, Number.ofInt]
  have hlow : Number.lt (.ofInt index) (.ofInt (0 : Nat)) = false := by
    rw [Number.ofNat_lt, decide_eq_false_iff_not]
    omega
  unfold validateRequiredInt
  rw [hlookup]
  simp only [hinteger, Bool.not_true, Bool.false_eq_true, if_false, hlow, Bool.false_or,
    Number.ofNat_lt, decide_eq_true_iff]
  by_cases hlarge : limit < index
  · rw [if_pos hlarge]
    exact .inl ⟨⟨_, rfl⟩, hlarge⟩
  · rw [if_neg hlarge]
    exact .inr ⟨rfl, Nat.le_of_not_lt hlarge⟩

theorem validateRequiredString_message {fields : List (JsString × JsonValue)} {key text : JsString}
    {limit : Nat} (hlookup : Json.lookup key fields = some (.string text)) :
    (∃ error, validateRequiredString runtime fields key key limit 0 = .error error) ∧
        limit < text.length ∨
      validateRequiredString runtime fields key key limit 0 = .ok text ∧ text.length ≤ limit := by
  unfold validateRequiredString
  rw [hlookup]
  simp only [Nat.not_lt_zero, if_false]
  by_cases hlarge : limit < text.length
  · rw [if_pos hlarge]
    exact .inl ⟨⟨_, rfl⟩, hlarge⟩
  · rw [if_neg hlarge]
    exact .inr ⟨rfl, Nat.le_of_not_lt hlarge⟩

-- A chunk message is accepted exactly when its index and its text are not too large,
-- and then it is taken as it was meant.
theorem validate_message_iff (hid : ready.transferId ≠ [] ∧ ready.transferId.length ≤ 128) :
    (∃ request, validateSftpUploadChunkRequest runtime
        (some (uploadChunkMessage ready file index)) = .ok request ∧
      request.chunkIndex = .ofInt index ∧
      uploadedData request = piece ready.chunkSize file index) ↔
    index ≤ maxChunkIndex ∧
      (Base64.encode (piece ready.chunkSize file index)).length ≤ maxDataLength := by
  unfold validateSftpUploadChunkRequest uploadChunkMessage isRecord
  dsimp only
  rw [validateTransferId_message (lookup_transferId ..) hid]
  obtain ⟨text, htext⟩ : ∃ text, text = Base64.encode (piece ready.chunkSize file index) :=
    ⟨_, rfl⟩
  have hdecoded : Base64.decode text = piece ready.chunkSize file index := by
    rw [htext]
    exact Base64.decode_encode _
  rw [← htext]
  rcases @validateRequiredInt_message runtime index _ _ maxChunkIndex
    (lookup_chunkIndex (.string ready.transferId) (.number (.ofInt index)) (.string text)
      (.bool (index + 1 = pieceCount ready.chunkSize file.length))) with
    ⟨⟨error, hindex⟩, hlarge⟩ | ⟨hindex, hsmall⟩
  · rw [hindex]
    constructor
    · rintro ⟨request, hrequest, -⟩
      cases hrequest
    · rintro ⟨hle, -⟩
      omega
  · rcases @validateRequiredString_message runtime _ _ _ maxDataLength
      (lookup_data (.string ready.transferId) (.number (.ofInt index)) (.string text)
        (.bool (index + 1 = pieceCount ready.chunkSize file.length))) with
      ⟨⟨error, hdata⟩, hlong⟩ | ⟨hdata, hshort⟩
    · rw [hindex, hdata]
      constructor
      · rintro ⟨request, hrequest, -⟩
        cases hrequest
      · rintro ⟨-, hle⟩
        omega
    · have hlast : validateRequiredBoolean [(js "transferId", .string ready.transferId),
          (js "chunkIndex", .number (.ofInt index)), (js "data", .string text),
          (js "isLast", .bool (index + 1 = pieceCount ready.chunkSize file.length))]
          (js "isLast") (js "isLast") =
            .ok (decide (index + 1 = pieceCount ready.chunkSize file.length)) := by
        unfold validateRequiredBoolean
        rw [lookup_isLast]
      rw [hindex, hdata, hlast]
      exact ⟨fun _ => ⟨hsmall, hshort⟩, fun _ => ⟨_, rfl, rfl, hdecoded⟩⟩

end Messages

section Pieces

variable {size length index : Nat} {file : Bytes}

theorem length_piece (size : Nat) (file : Bytes) (index : Nat) :
    (piece size file index).length = min size (file.length - index * size) :=
  Pieces.length_piece size file index

theorem pieceCount_pos (size length : Nat) : 0 < pieceCount size length :=
  Nat.lt_of_lt_of_le Nat.one_pos (Nat.le_max_left _ _)

-- The first piece is the longest one.
theorem length_piece_le : (piece size file index).length ≤ (piece size file 0).length := by
  rw [length_piece, length_piece]
  omega

theorem pieceCount_mono {other : Nat} (h : length ≤ other) :
    pieceCount size length ≤ pieceCount size other := by
  unfold pieceCount
  have hle : (length + size - 1) / size ≤ (other + size - 1) / size :=
    Nat.div_le_div_right (by omega)
  omega

theorem encoded_fits_iff (bytes : Bytes) :
    (Base64.encode bytes).length ≤ maxDataLength ↔ bytes.length ≤ longestPiece := by
  rw [Base64.length_encode]
  unfold maxDataLength longestPiece
  omega

end Pieces

-- One file can be uploaded exactly when its first piece and its last index fit.
theorem usable_iff (runtime : Runtime) {ready : UploadReadyResponse}
    (hid : ready.transferId ≠ [] ∧ ready.transferId.length ≤ 128) (file : Bytes) :
    Usable runtime ready file ↔
      min ready.chunkSize file.length ≤ longestPiece ∧
        pieceCount ready.chunkSize file.length ≤ maxChunkIndex + 1 := by
  have hfirst := length_piece ready.chunkSize file 0
  rw [Nat.zero_mul, Nat.sub_zero] at hfirst
  have hpos := pieceCount_pos ready.chunkSize file.length
  unfold Usable
  simp only [validate_message_iff hid, encoded_fits_iff]
  constructor
  · intro hall
    have hlast := (hall (pieceCount ready.chunkSize file.length - 1) (by omega)).1
    refine ⟨hfirst ▸ (hall 0 hpos).2, by omega⟩
  · rintro ⟨hshort, hfew⟩ index hindex
    have hle := @length_piece_le ready.chunkSize index file
    exact ⟨by omega, by omega⟩

-- Every file that is not too large can be uploaded exactly when a largest one can.
theorem uploads_usable_iff (runtime : Runtime) (config : UploadConfig) (transferId : TransferId)
    (hid : transferId ≠ [] ∧ transferId.length ≤ 128) :
    (∀ file : Bytes, file.length ≤ config.maxFileSize →
        Usable runtime (uploadReady config transferId) file) ↔
      min config.chunkSize config.maxFileSize ≤ longestPiece ∧
        pieceCount config.chunkSize config.maxFileSize ≤ maxChunkIndex + 1 := by
  constructor
  · intro hall
    have hlargest := (usable_iff runtime hid _).mp
      (hall (List.replicate config.maxFileSize 0) (by rw [List.length_replicate]))
    rw [List.length_replicate] at hlargest
    exact hlargest
  · rintro ⟨hshort, hfew⟩ file hfile
    refine (usable_iff runtime hid file).mpr ⟨?_, ?_⟩
    · show min config.chunkSize file.length ≤ longestPiece
      omega
    · exact Nat.le_trans (pieceCount_mono hfile) hfew

-- The defaults of the configuration.
def defaultUploads : UploadConfig where
  maxFileSize := 104857600
  chunkSize := 32768
  maxFileSize_pos := by decide
  chunkSize_pos := by decide

-- Chunks of 64 KiB, which the schema accepts too.
def largerChunks : UploadConfig where
  maxFileSize := 104857600
  chunkSize := 65536
  maxFileSize_pos := by decide
  chunkSize_pos := by decide

def sampleTransferId : TransferId := js "4b7d3c52-0f3e-4f6c-9a37-2f1f0f6d8f01"

theorem default_uploads_usable :
    (sampleTransferId ≠ [] ∧ sampleTransferId.length ≤ 128) ∧
      ∀ file : Bytes, file.length ≤ defaultUploads.maxFileSize →
        Usable asciiRuntime (uploadReady defaultUploads sampleTransferId) file :=
  ⟨by decide,
    (uploads_usable_iff asciiRuntime defaultUploads sampleTransferId (by decide)).mpr
      (by decide)⟩

theorem larger_chunks_not_usable :
    ¬ ∀ file : Bytes, file.length ≤ largerChunks.maxFileSize →
      Usable asciiRuntime (uploadReady largerChunks sampleTransferId) file := by
  intro hall
  have hlargest := (usable_iff asciiRuntime (by decide) _).mp
    (hall (List.replicate 65536 0) (by rw [List.length_replicate]; decide))
  rw [List.length_replicate] at hlargest
  have hshort : min 65536 65536 ≤ longestPiece := hlargest.1
  revert hshort
  decide

end Upload

end WebSsh2.Sftp
