import Mathlib.Data.List.Forall2
import Mathlib.Data.List.TakeWhile
import WebSsh2.Library.JsonText

-- Messages on a stream, each with its number of bytes in front of it.
namespace WebSsh2.Library.OctetCounting

def digitBytes (value : Nat) : List UInt8 :=
  (Json.digitsText value).map UInt16.toUInt8

def frame (message : List UInt8) : List UInt8 :=
  digitBytes message.length ++ 32 :: message

def isDigitByte (byte : UInt8) : Bool :=
  48 ≤ byte && byte ≤ 57

def readFrame (bytes : List UInt8) : Option (List UInt8 × List UInt8) :=
  if (bytes.dropWhile isDigitByte).head? = some 32 then
    (Json.ofDigitsText ((bytes.takeWhile isDigitByte).map UInt8.toUInt16)).bind fun length =>
      let rest := (bytes.dropWhile isDigitByte).tail
      if length ≤ rest.length then some (rest.take length, rest.drop length) else none
  else
    none

def decodeFrom : Nat → List UInt8 → Option (List (List UInt8))
  | _, [] => some []
  | 0, _ :: _ => none
  | fuel + 1, byte :: bytes =>
    (readFrame (byte :: bytes)).bind fun (message, rest) =>
      (decodeFrom fuel rest).map (message :: ·)

-- The messages on the stream, if it consists of whole frames.
def decode (bytes : List UInt8) : Option (List (List UInt8)) :=
  decodeFrom bytes.length bytes

section Frames

end Frames

end WebSsh2.Library.OctetCounting

-- Messages in the syntax of RFC 5424, as a reader takes them apart. The format of
-- a timestamp is not looked into.
namespace WebSsh2.Library.Syslog

structure Element where
  id : List UInt16
  params : List (List UInt16 × List UInt16)
deriving DecidableEq

structure Message where
  priority : Nat
  header : List (List UInt16)
  elements : List Element
  body : List UInt16
deriving DecidableEq

def isPrintable (unit : UInt16) : Bool :=
  33 ≤ unit && unit ≤ 126

-- Names have no `=`, `]` and `"`.
def isNameUnit (unit : UInt16) : Bool :=
  isPrintable unit && unit ≠ 61 && unit ≠ 93 && unit ≠ 34

section Reading

-- A nonempty run of units that are allowed, and what stands behind it.
def readRun (allowed : UInt16 → Bool) (limit : Nat) (text : List UInt16) :
    Option (List UInt16 × List UInt16) :=
  let run := text.takeWhile allowed
  if run ≠ [] ∧ run.length ≤ limit then some (run, text.dropWhile allowed) else none

def readUnit (unit : UInt16) : List UInt16 → Option (List UInt16)
  | head :: rest => if head = unit then some rest else none
  | [] => none

def maxPriority : Nat := 191

variable (text : List UInt16)

-- `<`, the priority, `>`, the version 1 and a space.
def readPriority : Option (Nat × List UInt16) :=
  (readUnit 60 text).bind fun text =>
    (readRun (fun unit => 48 ≤ unit && unit ≤ 57) 3 text).bind fun (digits, text) =>
      (readUnit 62 text).bind fun text =>
        (readUnit 49 text).bind fun text =>
          (readUnit 32 text).bind fun text =>
            (Json.ofDigitsText digits).bind fun priority =>
              if priority ≤ maxPriority then some (priority, text) else none

-- How long the timestamp, the host name, the name of the application, the
-- identifier of the process and that of the message can be.
def headerLimits : List Nat := [32, 255, 48, 128, 32]

-- Words that each end with a space.
def readWords : List Nat → List UInt16 → Option (List (List UInt16) × List UInt16)
  | [], text => some ([], text)
  | limit :: limits, text =>
    (readRun isPrintable limit text).bind fun (word, text) =>
      (readUnit 32 text).bind fun text =>
        (readWords limits text).map fun (words, text) => (word :: words, text)

def maxNameLength : Nat := 32

-- What a backslash stands in front of.
def isEscaped (unit : UInt16) : Bool :=
  unit = 34 || unit = 92 || unit = 93

-- The value of a parameter up to its quotation mark. A backslash in front of any
-- other unit is a backslash.
def readValue : List UInt16 → Option (List UInt16 × List UInt16)
  | [] => none
  | 34 :: rest => some ([], rest)
  | 93 :: _ => none
  | 92 :: next :: rest =>
    if isEscaped next then
      (readValue rest).map fun (value, rest) => (next :: value, rest)
    else
      (readValue (next :: rest)).map fun (value, rest) => (92 :: value, rest)
  | unit :: rest => (readValue rest).map fun (value, rest) => (unit :: value, rest)

-- A text without the backslashes that escape.
def unescape : List UInt16 → List UInt16
  | [] => []
  | 92 :: next :: rest =>
    if isEscaped next then next :: unescape rest else 92 :: unescape (next :: rest)
  | unit :: rest => unit :: unescape rest

def readParam : Option ((List UInt16 × List UInt16) × List UInt16) :=
  (readRun isNameUnit maxNameLength text).bind fun (name, text) =>
    (readUnit 61 text).bind fun text =>
      (readUnit 34 text).bind fun text =>
        (readValue text).map fun (value, text) => ((name, value), text)

-- Parameters up to the closing bracket, each behind a space.
def readParams : Nat → List UInt16 → Option (List (List UInt16 × List UInt16) × List UInt16)
  | 0, _ => none
  | fuel + 1, text =>
    if text.head? = some 93 then
      some ([], text.tail)
    else
      (readUnit 32 text).bind fun text =>
        (readParam text).bind fun (param, text) =>
          (readParams fuel text).map fun (params, text) => (param :: params, text)

def readElements : Nat → List UInt16 → Option (List Element × List UInt16)
  | 0, _ => none
  | fuel + 1, text =>
    if text.head? = some 91 then
      (readRun isNameUnit maxNameLength text.tail).bind fun (id, text) =>
        (readParams text.length text).bind fun (params, text) =>
          (readElements fuel text).map fun (elements, text) => (⟨id, params⟩ :: elements, text)
    else
      some ([], text)

-- A hyphen stands for no element at all.
def readStructuredData : Option (List Element × List UInt16) :=
  if text.head? = some 45 then
    some ([], text.tail)
  else
    (readElements (text.length + 1) text).bind fun (elements, text) =>
      if elements = [] then none else some (elements, text)

def readBody : Option (List UInt16) :=
  if text = [] then some [] else readUnit 32 text

def parse : Option Message :=
  (readPriority text).bind fun (priority, text) =>
    (readWords headerLimits text).bind fun (header, text) =>
      (readStructuredData text).bind fun (elements, text) =>
        (readBody text).map fun body => ⟨priority, header, elements, body⟩

end Reading

-- A nonempty run of allowed units that is not too long.
structure Fits (allowed : UInt16 → Bool) (limit : Nat) (word : List UInt16) : Prop where
  ne_nil : word ≠ []
  length_le : word.length ≤ limit
  units : ∀ unit ∈ word, allowed unit = true

instance (allowed : UInt16 → Bool) (limit : Nat) (word : List UInt16) :
    Decidable (Fits allowed limit word) :=
  decidable_of_iff (word ≠ [] ∧ word.length ≤ limit ∧ ∀ unit ∈ word, allowed unit = true)
    ⟨fun h => ⟨h.1, h.2.1, h.2.2⟩, fun h => ⟨h.ne_nil, h.length_le, h.units⟩⟩

section Runs

variable {allowed : UInt16 → Bool} {limit : Nat} {word rest : List UInt16}

theorem takeWhile_run (hword : ∀ unit ∈ word, allowed unit = true)
    (hrest : ∀ unit, rest.head? = some unit → allowed unit = false) :
    (word ++ rest).takeWhile allowed = word ∧ (word ++ rest).dropWhile allowed = rest := by
  have hstop : rest.takeWhile allowed = [] ∧ rest.dropWhile allowed = rest := by
    cases rest with
    | nil => simp
    | cons head tail => simp [hrest head rfl]
  rw [List.takeWhile_append_of_pos hword, List.dropWhile_append_of_pos hword, hstop.1, hstop.2]
  simp

theorem readRun_iff (hrest : ∀ unit, rest.head? = some unit → allowed unit = false)
    (rest' : List UInt16) :
    readRun allowed limit (word ++ rest) = some (word, rest') ↔
      Fits allowed limit word ∧ rest' = rest := by
  unfold readRun
  dsimp only
  constructor
  · intro h
    split at h
    · rename_i hrun
      obtain ⟨hword, hbehind⟩ := Prod.mk.inj (Option.some.inj h)
      have hsplit : word ++ rest' = word ++ rest := by
        have htext := List.takeWhile_append_dropWhile (p := allowed) (l := word ++ rest)
        rwa [hword, hbehind] at htext
      rw [hword] at hrun
      refine ⟨⟨hrun.1, hrun.2, fun unit hunit => ?_⟩, List.append_cancel_left hsplit⟩
      rw [← hword] at hunit
      exact List.mem_takeWhile_imp hunit
    · cases h
  · rintro ⟨hfits, rfl⟩
    have hrun := takeWhile_run hfits.units hrest
    rw [hrun.1, hrun.2, if_pos ⟨hfits.ne_nil, hfits.length_le⟩]

@[simp] theorem readUnit_self (unit : UInt16) (rest : List UInt16) :
    readUnit unit (unit :: rest) = some rest := by
  simp [readUnit]

end Runs

section Header

theorem digitsText_length {priority : Nat} (h : priority ≤ maxPriority) :
    (Json.digitsText priority).length ≤ 3 := by
  have hall : ∀ n : Fin (maxPriority + 1), (Json.digitsText n.val).length ≤ 3 := by decide +kernel
  exact hall ⟨priority, Nat.lt_succ_of_le h⟩

def priorityText (digits rest : List UInt16) : List UInt16 :=
  60 :: (digits ++ 62 :: 49 :: 32 :: rest)

theorem readPriority_iff (priority : Nat) (rest : List UInt16) (read : Nat × List UInt16) :
    readPriority (priorityText (Json.digitsText priority) rest) = some read ↔
      priority ≤ maxPriority ∧ read = (priority, rest) := by
  have hdigits : ∀ unit ∈ Json.digitsText priority, (48 ≤ unit && unit ≤ 57) = true := by
    intro unit hunit
    simpa using Json.digitsText_units priority unit hunit
  have hstop : ∀ unit, (62 :: 49 :: 32 :: rest).head? = some unit →
      (48 ≤ unit && unit ≤ 57) = false := by
    simp
  have hrun := takeWhile_run hdigits hstop
  simp only [readPriority, priorityText, readUnit_self, Option.bind_some, readRun, hrun.1, hrun.2]
  by_cases hlength : (Json.digitsText priority).length ≤ 3
  · rw [if_pos ⟨Json.digitsText_ne_nil priority, hlength⟩]
    simp only [readUnit_self, Option.bind_some, Json.ofDigitsText_digitsText]
    by_cases hle : priority ≤ maxPriority
    · simp [hle, eq_comm]
    · simp [hle]
  · have hle : ¬priority ≤ maxPriority := fun h => hlength (digitsText_length h)
    simp [hlength, hle]

def wordsText (words : List (List UInt16)) (rest : List UInt16) : List UInt16 :=
  words.foldr (fun word text => word ++ 32 :: text) rest

theorem readWords_iff (limits : List Nat) (words : List (List UInt16)) (rest rest' : List UInt16) :
    readWords limits (wordsText words rest) = some (words, rest') ↔
      List.Forall₂ (Fits isPrintable) limits words ∧ rest' = rest := by
  induction limits generalizing words with
  | nil =>
    cases words with
    | nil => simp [readWords, wordsText, eq_comm]
    | cons word words => simp [readWords, List.forall₂_nil_left_iff]
  | cons limit limits ih =>
    cases words with
    | nil =>
      simp only [readWords, Option.bind_eq_some_iff, Option.map_eq_some_iff]
      simp [List.forall₂_nil_right_iff]
    | cons word words =>
      have hword : ∀ read, readRun isPrintable limit (word ++ 32 :: wordsText words rest) =
          some (word, read) ↔ Fits isPrintable limit word ∧ read = 32 :: wordsText words rest :=
        readRun_iff (by simp [isPrintable])
      have htail := ih words
      simp only [readWords, List.forall₂_cons, Option.bind_eq_some_iff, Option.map_eq_some_iff]
      constructor
      · rintro ⟨⟨first, text⟩, hfirst, text', hunit, ⟨others, last⟩, hothers, heq⟩
        obtain ⟨⟨rfl, rfl⟩, rfl⟩ : (first = word ∧ others = words) ∧ last = rest' := by
          simpa using heq
        obtain ⟨hfits, rfl⟩ := (hword text).mp hfirst
        rw [readUnit_self] at hunit
        obtain rfl := Option.some.inj hunit
        obtain ⟨hall, hrest⟩ := htail.mp hothers
        exact ⟨⟨hfits, hall⟩, hrest⟩
      · rintro ⟨⟨hfits, hall⟩, hrest⟩
        exact ⟨_, (hword _).mpr ⟨hfits, rfl⟩, _, readUnit_self _ _, _,
          htail.mpr ⟨hall, hrest⟩, rfl⟩

end Header

section Parameters

-- How values are written, and which of them are read back.
structure Quoting where
  write : List UInt16 → List UInt16
  Safe : List UInt16 → Prop
  readValue_iff : ∀ value rest rest', readValue (write value ++ 34 :: rest) = some (value, rest') ↔
    Safe value ∧ rest' = rest

variable (quoting : Quoting)

def paramText (param : List UInt16 × List UInt16) : List UInt16 :=
  param.1 ++ [61, 34] ++ quoting.write param.2 ++ [34]

def paramsText (params : List (List UInt16 × List UInt16)) : List UInt16 :=
  params.flatMap fun param => 32 :: paramText quoting param

variable {quoting}

theorem readParam_iff {param : List UInt16 × List UInt16}
    (hname : Fits isNameUnit maxNameLength param.1) (rest rest' : List UInt16) :
    readParam (paramText quoting param ++ rest) = some (param, rest') ↔
      quoting.Safe param.2 ∧ rest' = rest := by
  have hstop : ∀ unit, (61 :: 34 :: (quoting.write param.2 ++ 34 :: rest)).head? = some unit →
      isNameUnit unit = false := by
    simp [isNameUnit]
  have hrun := (readRun_iff hstop _).mpr ⟨hname, rfl⟩
  have htext : paramText quoting param ++ rest =
      param.1 ++ 61 :: 34 :: (quoting.write param.2 ++ 34 :: rest) := by
    simp [paramText]
  rw [← quoting.readValue_iff, readParam, htext, hrun]
  simp only [Option.bind_some, readUnit_self, Option.map_eq_some_iff]
  constructor
  · rintro ⟨⟨value, last⟩, hvalue, heq⟩
    obtain ⟨rfl, rfl⟩ : value = param.2 ∧ last = rest' := by
      simpa [Prod.ext_iff] using heq
    exact hvalue
  · intro hvalue
    exact ⟨_, hvalue, rfl⟩

theorem readParams_iff {params : List (List UInt16 × List UInt16)}
    (hnames : ∀ param ∈ params, Fits isNameUnit maxNameLength param.1)
    {fuel : Nat} (hfuel : params.length < fuel) (rest rest' : List UInt16) :
    readParams fuel (paramsText quoting params ++ 93 :: rest) = some (params, rest') ↔
      (∀ param ∈ params, quoting.Safe param.2) ∧ rest' = rest := by
  induction params generalizing fuel with
  | nil =>
    obtain ⟨fuel, rfl⟩ := Nat.exists_eq_add_one_of_ne_zero (Nat.ne_of_gt hfuel)
    simp [readParams, paramsText, eq_comm]
  | cons param params ih =>
    have hpositive : fuel ≠ 0 := Nat.ne_of_gt (Nat.zero_lt_of_lt hfuel)
    obtain ⟨fuel, rfl⟩ := Nat.exists_eq_add_one_of_ne_zero hpositive
    obtain ⟨hname, hnames⟩ := List.forall_mem_cons.mp hnames
    have htext : paramsText quoting (param :: params) ++ 93 :: rest =
        32 :: (paramText quoting param ++ (paramsText quoting params ++ 93 :: rest)) := by
      simp [paramsText]
    have hparam : ∀ after, readParam (paramText quoting param ++
        (paramsText quoting params ++ 93 :: rest)) = some (param, after) ↔
          quoting.Safe param.2 ∧ after = paramsText quoting params ++ 93 :: rest :=
      readParam_iff hname _
    have htail := ih hnames (Nat.lt_of_succ_lt_succ hfuel)
    rw [htext, readParams, List.head?_cons, if_neg (by decide), readUnit_self,
      Option.bind_some, List.forall_mem_cons]
    simp only [Option.bind_eq_some_iff, Option.map_eq_some_iff]
    constructor
    · rintro ⟨⟨first, text⟩, hfirst, ⟨others, last⟩, hothers, heq⟩
      obtain ⟨⟨rfl, rfl⟩, rfl⟩ : (first = param ∧ others = params) ∧ last = rest' := by
        simpa using heq
      obtain ⟨hsafe, rfl⟩ := (hparam _).mp hfirst
      obtain ⟨hall, hrest⟩ := htail.mp hothers
      exact ⟨⟨hsafe, hall⟩, hrest⟩
    · rintro ⟨⟨hsafe, hall⟩, hrest⟩
      exact ⟨_, (hparam _).mpr ⟨hsafe, rfl⟩, _, htail.mpr ⟨hall, hrest⟩, rfl⟩

theorem length_le_paramsText (params : List (List UInt16 × List UInt16)) :
    params.length ≤ (paramsText quoting params).length := by
  induction params with
  | nil => simp
  | cons param params ih =>
    simp only [paramsText, List.flatMap_cons, List.length_append, List.length_cons] at ih ⊢
    omega

end Parameters

section Messages

variable (quoting : Quoting)

def elementText (element : Element) : List UInt16 :=
  91 :: (element.id ++ paramsText quoting element.params ++ [93])

def messageText (priority : Nat) (header : List (List UInt16)) (element : Element)
    (body : List UInt16) : List UInt16 :=
  priorityText (Json.digitsText priority)
    (wordsText header (elementText quoting element ++ 32 :: body))

variable {quoting}

-- One element with a space behind it is read back exactly when its values are.
theorem readStructuredData_iff {element : Element}
    (hnames : ∀ param ∈ element.params, Fits isNameUnit maxNameLength param.1)
    (rest rest' : List UInt16) :
    readStructuredData (elementText quoting element ++ 32 :: rest) = some ([element], rest') ↔
      (Fits isNameUnit maxNameLength element.id ∧
        ∀ param ∈ element.params, quoting.Safe param.2) ∧ rest' = 32 :: rest := by
  obtain ⟨id, params⟩ := element
  have htext : elementText quoting ⟨id, params⟩ ++ 32 :: rest =
      91 :: (id ++ (paramsText quoting params ++ 93 :: 32 :: rest)) := by
    simp [elementText]
  have hid : ∀ after, readRun isNameUnit maxNameLength
      (id ++ (paramsText quoting params ++ 93 :: 32 :: rest)) = some (id, after) ↔
        Fits isNameUnit maxNameLength id ∧
          after = paramsText quoting params ++ 93 :: 32 :: rest := by
    apply readRun_iff
    cases params with
    | nil => simp [paramsText, isNameUnit]
    | cons param params => simp [paramsText, isNameUnit, isPrintable]
  have hfuel : params.length < (paramsText quoting params ++ 93 :: 32 :: rest).length := by
    have hlength : params.length ≤ (paramsText quoting params).length := length_le_paramsText params
    simp only [List.length_append, List.length_cons]
    omega
  have hparams : ∀ after, readParams (paramsText quoting params ++ 93 :: 32 :: rest).length
      (paramsText quoting params ++ 93 :: 32 :: rest) = some (params, after) ↔
        (∀ param ∈ params, quoting.Safe param.2) ∧ after = 32 :: rest :=
    readParams_iff hnames hfuel (32 :: rest)
  have hend : ∀ fuel, readElements (fuel + 1) (32 :: rest) = some ([], 32 :: rest) := by
    intro fuel
    simp [readElements]
  rw [htext, readStructuredData, List.head?_cons, if_neg (by decide), readElements,
    List.head?_cons, if_pos rfl, List.tail_cons]
  simp only [Option.bind_eq_some_iff, Option.map_eq_some_iff]
  constructor
  · rintro ⟨⟨elements, text⟩, ⟨⟨id', text₁⟩, hread, ⟨params', text₂⟩, hothers, ⟨tail, text₃⟩,
      htail, hcons⟩, hsome⟩
    obtain ⟨rfl, rfl⟩ := Prod.mk.inj hcons
    rw [if_neg (List.cons_ne_nil _ _)] at hsome
    obtain ⟨helements, rfl⟩ := Prod.mk.inj (Option.some.inj hsome)
    obtain ⟨⟨rfl, rfl⟩, rfl⟩ : (id' = id ∧ params' = params) ∧ tail = [] := by
      simpa using helements
    obtain ⟨hfits, rfl⟩ := (hid text₁).mp hread
    obtain ⟨hall, rfl⟩ := (hparams text₂).mp hothers
    dsimp only at htail
    rw [List.length_cons, hend] at htail
    exact ⟨⟨hfits, hall⟩, (Prod.mk.inj (Option.some.inj htail)).2.symm⟩
  · rintro ⟨⟨hfits, hall⟩, rfl⟩
    refine ⟨([⟨id, params⟩], 32 :: rest), ⟨_, (hid _).mpr ⟨hfits, rfl⟩, _,
      (hparams _).mpr ⟨hall, rfl⟩, ([], 32 :: rest), ?_, rfl⟩, by simp⟩
    exact hend _

theorem parse_messageText_iff (priority : Nat) (header : List (List UInt16)) {element : Element}
    (hnames : ∀ param ∈ element.params, Fits isNameUnit maxNameLength param.1)
    (body : List UInt16) :
    parse (messageText quoting priority header element body) =
        some ⟨priority, header, [element], body⟩ ↔
      priority ≤ maxPriority ∧ List.Forall₂ (Fits isPrintable) headerLimits header ∧
        Fits isNameUnit maxNameLength element.id ∧
        ∀ param ∈ element.params, quoting.Safe param.2 := by
  have hpriority := readPriority_iff priority
    (wordsText header (elementText quoting element ++ 32 :: body))
  have hheader := readWords_iff headerLimits header (elementText quoting element ++ 32 :: body)
  have helement : ∀ after,
      readStructuredData (elementText quoting element ++ 32 :: body) = some ([element], after) ↔
        (Fits isNameUnit maxNameLength element.id ∧
          ∀ param ∈ element.params, quoting.Safe param.2) ∧ after = 32 :: body :=
    readStructuredData_iff hnames body
  have hbody : readBody (32 :: body) = some body := by
    simp [readBody]
  simp only [parse, messageText, Option.bind_eq_some_iff, Option.map_eq_some_iff]
  constructor
  · rintro ⟨⟨priority', text₁⟩, hread₁, ⟨header', text₂⟩, hread₂, ⟨elements, text₃⟩, hread₃,
      body', hread₄, hmessage⟩
    obtain ⟨hmax, htext₁⟩ := (hpriority _).mp hread₁
    obtain ⟨rfl, rfl⟩ := Prod.mk.inj htext₁
    obtain ⟨-, rfl, rfl, rfl⟩ := Message.mk.inj hmessage
    obtain ⟨hwords, rfl⟩ := (hheader text₂).mp hread₂
    exact ⟨hmax, hwords, ((helement text₃).mp hread₃).1⟩
  · rintro ⟨hmax, hwords, hfits⟩
    exact ⟨_, (hpriority _).mpr ⟨hmax, rfl⟩, _, (hheader _).mpr ⟨hwords, rfl⟩, _,
      (helement _).mpr ⟨hfits, rfl⟩, body, hbody, rfl⟩

end Messages

end WebSsh2.Library.Syslog
