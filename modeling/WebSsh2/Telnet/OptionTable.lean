import WebSsh2.Library.Run
import WebSsh2.Library.Trace
import WebSsh2.Telnet.Inbound

namespace WebSsh2.Telnet

open WebSsh2.Library WebSsh2.Library.Run WebSsh2.Library.Trace

-- What the negotiator of an open shell is called for.
inductive Event where
  | inbound (item : Item)
  | offers
  | resize (cols rows : Number)

structure Entry where
  cause : Event
  sent : List Bytes

structure Session where
  negotiator : Negotiator
  log : List Entry := []

def Negotiator.respond (negotiator : Negotiator) : Event → Negotiator × List Bytes
  | .inbound item =>
    let (negotiator, result) := negotiator.processInbound item.encode
    (negotiator, result.responses)
  | .offers =>
    let (options, offers) := negotiator.buildProactiveOffers
    ({ negotiator with toOptions := options }, offers)
  | .resize cols rows =>
    ({ negotiator with toOptions := negotiator.setWindowSize cols rows }, [encodeNaws cols rows])

variable (session : Session)

def Session.step (event : Event) : Session :=
  let (negotiator, sent) := session.negotiator.respond event
  { negotiator, log := session.log ++ [{ cause := event, sent }] }

-- What a message says of an option of this side.
def announcement (option : UInt8) (message : Bytes) : Option Bool :=
  if message = [IAC, WILL, option] then some true
  else if message = [IAC, WONT, option] then some false
  else none

-- The last WILL or WONT for the option is a WILL.
def Announces (sent : List Bytes) (option : UInt8) : Prop :=
  (sent.filterMap (announcement option)).getLast? = some true

instance (sent : List Bytes) (option : UInt8) : Decidable (Announces sent option) :=
  inferInstanceAs (Decidable (_ = _))

def IsSize (message : Bytes) : Prop :=
  message.take 3 = [IAC, SB, NAWS]

def sentBy (log : List Entry) : List Bytes :=
  log.flatMap Entry.sent

-- The table knows what the other side was told.
def Tracked (options : Options) (sent : List Bytes) : Prop :=
  ∀ option ∈ supportedOptions, options.getOptionState option = .inactive ↔ ¬Announces sent option

-- A request for a supported option that is not announced is answered by its announcement,
-- and a size is sent where the other side was told that sizes will come.
def Proper (before : List Entry) (entry : Entry) : Prop :=
  (∀ option ∈ supportedOptions, entry.cause = .inbound (.negotiation .do option) →
    ¬Announces (sentBy before) option → entry.sent.head? = some [IAC, WILL, option]) ∧
  ∀ earlier size later, entry.sent = earlier ++ size :: later → IsSize size →
    Announces (sentBy before ++ earlier) NAWS

def Session.Consistent : Prop :=
  Tracked session.negotiator.toOptions (sentBy session.log) ∧ History Proper session.log

-- No option is given back once it was announced, and no size is sent before that.
def Session.Keeps : Event → Prop
  | .inbound (.negotiation .dont option) =>
    option ∈ supportedOptions → session.negotiator.getOptionState option = .inactive
  | .resize _ _ => session.negotiator.getOptionState NAWS ≠ .inactive
  | _ => True

section Announcements

variable {sent more : List Bytes} {option other : UInt8}

theorem announces_append_of_quiet (h : ∀ message ∈ more, announcement option message = none) :
    Announces (sent ++ more) option ↔ Announces sent option := by
  have hnone : more.filterMap (announcement option) = [] := List.filterMap_eq_nil_iff.mpr h
  unfold Announces
  rw [List.filterMap_append, hnone, List.append_nil]

theorem announces_concat {message : Bytes} {answer : Bool}
    (h : announcement option message = some answer) :
    Announces (sent ++ [message]) option ↔ answer = true := by
  unfold Announces
  rw [List.filterMap_append, List.filterMap_cons_some h, List.filterMap_nil,
    List.getLast?_concat, Option.some_inj]

theorem announcement_will (option : UInt8) : announcement option [IAC, WILL, option] = some true :=
  if_pos rfl

theorem announcement_wont (option : UInt8) :
    announcement option [IAC, WONT, option] = some false := by
  unfold announcement
  rw [if_neg (by simp [WONT, WILL]), if_pos rfl]

theorem announcement_of_verb {verb : UInt8} {rest : Bytes} (hwill : verb ≠ WILL)
    (hwont : verb ≠ WONT) : announcement option (IAC :: verb :: rest) = none := by
  unfold announcement
  rw [if_neg (by simp [hwill]), if_neg (by simp [hwont])]

theorem announcement_of_ne {verb : UInt8} (hne : other ≠ option) :
    announcement option [IAC, verb, other] = none := by
  unfold announcement
  rw [if_neg (by simp [hne]), if_neg (by simp [hne])]

theorem announcement_encodeNaws (cols rows : Number) :
    announcement option (encodeNaws cols rows) = none :=
  announcement_of_verb (by decide) (by decide)

theorem not_isSize_verb {verb : UInt8} {rest : Bytes} (hverb : verb ≠ SB) :
    ¬IsSize (IAC :: verb :: rest) := by
  cases rest <;> simp [IsSize, hverb]

theorem isSize_encodeNaws (cols rows : Number) : IsSize (encodeNaws cols rows) := rfl

end Announcements

-- What an event does, in terms of the options alone.
def Options.respond (options : Options) : Event → Options × List Bytes
  | .inbound item => item.answer options
  | .offers => options.buildProactiveOffers
  | .resize cols rows => (options.setWindowSize cols rows, [encodeNaws cols rows])

theorem respond_spec {negotiator : Negotiator} (hstate : negotiator.state = .data) (event : Event) :
    (negotiator.respond event).1.state = .data ∧
      (negotiator.respond event).1.toOptions = (negotiator.toOptions.respond event).1 ∧
      (negotiator.respond event).2 = (negotiator.toOptions.respond event).2 := by
  cases event with
  | inbound item => exact processInbound_item hstate item
  | offers | resize => exact ⟨hstate, rfl, rfl⟩

section Step

variable {options : Options} {log : List Entry}

theorem tracked_of_quiet {sent more : List Bytes} (h : Tracked options sent)
    (hquiet : ∀ message ∈ more, ∀ option ∈ supportedOptions, announcement option message = none) :
    Tracked options (sent ++ more) := by
  intro option hmem
  rw [announces_append_of_quiet fun message hmessage => hquiet message hmessage option hmem]
  exact h option hmem

theorem proper_of_quiet {event : Event} {sent : List Bytes}
    (hcause : ∀ option, event ≠ .inbound (.negotiation .do option))
    (hquiet : ∀ message ∈ sent, ¬IsSize message) : Proper log { cause := event, sent } := by
  refine ⟨fun option _ hevent => (hcause option hevent).elim, ?_⟩
  intro earlier size later hsent hsize
  change sent = earlier ++ size :: later at hsent
  exact (hquiet size (by rw [hsent]; simp) hsize).elim

theorem tracked_set_will {sent : List Bytes} (h : Tracked options sent) (option : UInt8)
    {state : OptionState} (hstate : state ≠ .inactive) :
    Tracked (options.setOptionState option state) (sent ++ [[IAC, WILL, option]]) := by
  intro other hmem
  rw [Options.getOptionState_set]
  by_cases hsame : other = option
  · rw [if_pos hsame, hsame, announces_concat (announcement_will option)]
    simp [hstate]
  · rw [if_neg hsame, announces_append_of_quiet]
    · exact h other hmem
    · intro message hmessage
      rw [List.mem_singleton.mp hmessage]
      exact announcement_of_ne (Ne.symm hsame)

theorem tracked_set_announced {sent : List Bytes} (h : Tracked options sent) {option : UInt8}
    (hannounced : Announces sent option) {state : OptionState} (hstate : state ≠ .inactive) :
    Tracked (options.setOptionState option state) sent := by
  intro other hmem
  rw [Options.getOptionState_set]
  by_cases hsame : other = option
  · rw [if_pos hsame, hsame]
    simp [hstate, hannounced]
  · rw [if_neg hsame]
    exact h other hmem

-- The size that goes with an announcement of NAWS, wherever it stands.
theorem size_split {option : UInt8} {size : Bytes} {earlier later : List Bytes}
    (h : (if option = NAWS then [encodeNaws options.cols options.rows] else []) =
      earlier ++ size :: later) : option = NAWS ∧ earlier = [] := by
  by_cases hoption : option = NAWS
  · rw [if_pos hoption] at h
    refine ⟨hoption, ?_⟩
    cases earlier with
    | nil => rfl
    | cons first earlier =>
      obtain ⟨-, hrest⟩ := List.cons.inj h
      simp at hrest
  · rw [if_neg hoption] at h
    simp at h

theorem size_says_nothing {option other : UInt8} {message : Bytes}
    (h : message ∈ if option = NAWS then [encodeNaws options.cols options.rows] else []) :
    announcement other message = none := by
  by_cases hoption : option = NAWS
  · rw [if_pos hoption] at h
    rw [List.mem_singleton.mp h]
    exact announcement_encodeNaws _ _
  · rw [if_neg hoption] at h
    cases h

theorem handleDo_kept (h : Tracked options (sentBy log)) (option : UInt8) :
    Tracked (options.handleDo option).1 (sentBy log ++ (options.handleDo option).2) ∧
      Proper log
        { cause := .inbound (.negotiation .do option), sent := (options.handleDo option).2 } := by
  unfold Options.handleDo
  by_cases hmem : option ∈ supportedOptions
  · rw [if_neg (not_not_intro hmem)]
    dsimp only
    by_cases hinactive : options.getOptionState option = .inactive
    · rw [if_pos hinactive]
      constructor
      · rw [← List.append_assoc]
        refine tracked_of_quiet (tracked_set_will h option (by decide)) ?_
        exact fun message hmessage other _ => size_says_nothing hmessage
      · refine ⟨fun other _ hcause _ => ?_, ?_⟩
        · cases hcause
          rfl
        · intro earlier size later hsent hsize
          cases earlier with
          | nil =>
            obtain ⟨rfl, -⟩ := List.cons.inj hsent
            exact (not_isSize_verb (by decide) hsize).elim
          | cons first earlier =>
            obtain ⟨rfl, hsizes⟩ := List.cons.inj hsent
            obtain ⟨rfl, rfl⟩ := size_split hsizes
            exact (announces_concat (announcement_will NAWS)).mpr rfl
    · rw [if_neg hinactive, List.nil_append]
      have hannounced : Announces (sentBy log) option := by
        by_contra hnone
        exact hinactive ((h option hmem).mpr hnone)
      constructor
      · refine tracked_of_quiet (tracked_set_announced h hannounced (by decide)) ?_
        exact fun message hmessage other _ => size_says_nothing hmessage
      · refine ⟨fun other _ hcause hnone => ?_, ?_⟩
        · cases hcause
          exact (hnone hannounced).elim
        · intro earlier size later hsent _
          obtain ⟨rfl, rfl⟩ := size_split hsent
          rwa [List.append_nil]
  · rw [if_pos hmem]
    constructor
    · refine tracked_of_quiet h ?_
      intro message hmessage other hother
      rw [List.mem_singleton.mp hmessage]
      exact announcement_of_ne fun hsame => hmem (hsame ▸ hother)
    · refine ⟨fun other hother hcause _ => ?_, ?_⟩
      · cases hcause
        exact (hmem hother).elim
      · intro earlier size later hsent hsize
        have hin : size ∈ [[IAC, WONT, option]] := by
          rw [show [[IAC, WONT, option]] = earlier ++ size :: later from hsent]
          simp
        rw [List.mem_singleton.mp hin] at hsize
        exact (not_isSize_verb (by decide) hsize).elim

-- A withdrawal is accepted, and the table does not change.
theorem handleDont_kept_iff (h : Tracked options (sentBy log)) (option : UInt8) :
    (Tracked options (sentBy log ++ [[IAC, WONT, option]]) ∧
        Proper log
          { cause := .inbound (.negotiation .dont option), sent := [[IAC, WONT, option]] }) ↔
      (option ∈ supportedOptions → options.getOptionState option = .inactive) := by
  constructor
  · rintro ⟨htracked, -⟩ hmem
    rw [htracked option hmem, announces_concat (announcement_wont option)]
    exact Bool.false_ne_true
  · intro hinactive
    constructor
    · intro other hmem
      by_cases hsame : other = option
      · rw [hsame, announces_concat (announcement_wont option)]
        simp [hinactive (hsame ▸ hmem)]
      · rw [announces_append_of_quiet]
        · exact h other hmem
        · intro message hmessage
          rw [List.mem_singleton.mp hmessage]
          exact announcement_of_ne (Ne.symm hsame)
    · apply proper_of_quiet
      · intro other hcause
        cases hcause
      · intro message hmessage
        rw [List.mem_singleton.mp hmessage]
        exact not_isSize_verb (by decide)

theorem resize_kept_iff (h : Tracked options (sentBy log)) (cols rows : Number) :
    (Tracked (options.setWindowSize cols rows) (sentBy log ++ [encodeNaws cols rows]) ∧
        Proper log { cause := .resize cols rows, sent := [encodeNaws cols rows] }) ↔
      options.getOptionState NAWS ≠ .inactive := by
  have hNAWS := h NAWS (by decide)
  constructor
  · rintro ⟨-, -, hsizes⟩ hinactive
    have hannounced := hsizes [] _ [] rfl (isSize_encodeNaws cols rows)
    rw [List.append_nil] at hannounced
    exact hNAWS.mp hinactive hannounced
  · intro hactive
    have hannounced : Announces (sentBy log) NAWS := by
      by_contra hnone
      exact hactive (hNAWS.mpr hnone)
    constructor
    · refine @tracked_of_quiet (options.setWindowSize cols rows) _ _ h ?_
      intro message hmessage other _
      rw [List.mem_singleton.mp hmessage]
      exact announcement_encodeNaws cols rows
    · refine ⟨fun other _ hcause _ => Event.noConfusion hcause, ?_⟩
      intro earlier size later hsent _
      cases earlier with
      | nil => rwa [List.append_nil]
      | cons first earlier =>
        obtain ⟨-, hrest⟩ := List.cons.inj hsent
        simp at hrest

theorem foldl_offerOption_kept (wanted : List UInt8) {options : Options} {sent : List Bytes}
    (offers : List Bytes) (h : Tracked options (sent ++ offers))
    (hoffers : ∀ offer ∈ offers, ¬IsSize offer) :
    Tracked (wanted.foldl Options.offerOption (options, offers)).1
        (sent ++ (wanted.foldl Options.offerOption (options, offers)).2) ∧
      ∀ offer ∈ (wanted.foldl Options.offerOption (options, offers)).2, ¬IsSize offer := by
  induction wanted generalizing options offers with
  | nil => exact ⟨h, hoffers⟩
  | cons option wanted ih =>
    rw [List.foldl_cons]
    by_cases hinactive : options.getOptionState option = .inactive
    · rw [show Options.offerOption (options, offers) option = _ from if_pos hinactive]
      apply ih
      · rw [← List.append_assoc]
        exact tracked_set_will h option (by decide)
      · intro offer hoffer
        rcases List.mem_append.mp hoffer with hold | hnew
        · exact hoffers offer hold
        · rw [List.mem_singleton.mp hnew]
          exact not_isSize_verb (by decide)
    · rw [show Options.offerOption (options, offers) option = _ from if_neg hinactive]
      exact ih offers h hoffers

theorem offers_kept (h : Tracked options (sentBy log)) :
    Tracked options.buildProactiveOffers.1 (sentBy log ++ options.buildProactiveOffers.2) ∧
      Proper log { cause := .offers, sent := options.buildProactiveOffers.2 } := by
  obtain ⟨htracked, hsizes⟩ := @foldl_offerOption_kept [TERMINAL_TYPE, NAWS] options (sentBy log)
    [] (by rwa [List.append_nil]) nofun
  refine ⟨htracked, proper_of_quiet ?_ hsizes⟩
  intro option hcause
  cases hcause

-- What is said of the options of the other side.
theorem answer_quiet {item : Item} (hitem : ∀ option, item ≠ .negotiation .do option ∧
      item ≠ .negotiation .dont option) :
    (item.answer options).1 = options ∧
      ∀ message ∈ (item.answer options).2, (∀ option, announcement option message = none) ∧
        ¬IsSize message := by
  cases item with
  | data | escaped | command => exact ⟨rfl, nofun⟩
  | subnegotiation payload =>
    refine ⟨rfl, fun message hmessage => ?_⟩
    change message ∈ Negotiator.subnegotiationResponse options payload at hmessage
    have hterminal : message = options.encodeTerminalType := by
      unfold Negotiator.subnegotiationResponse at hmessage
      split at hmessage
      · split at hmessage
        · exact List.mem_singleton.mp hmessage
        · cases hmessage
      · cases hmessage
    rw [hterminal]
    refine ⟨fun option => announcement_of_verb (by decide) (by decide), ?_⟩
    simp [IsSize, Options.encodeTerminalType, TERMINAL_TYPE, NAWS]
  | negotiation verb option =>
    cases verb with
    | «do» => exact ((hitem option).1 rfl).elim
    | dont => exact ((hitem option).2 rfl).elim
    | will =>
      refine ⟨rfl, fun message hmessage => ?_⟩
      change message ∈ Options.handleWill option at hmessage
      unfold Options.handleWill at hmessage
      by_cases hmem : option ∈ supportedOptions
      · rw [if_pos hmem] at hmessage
        rw [List.mem_singleton.mp hmessage]
        exact ⟨fun _ => announcement_of_verb (by decide) (by decide),
          not_isSize_verb (by decide)⟩
      · rw [if_neg hmem] at hmessage
        rw [List.mem_singleton.mp hmessage]
        exact ⟨fun _ => announcement_of_verb (by decide) (by decide),
          not_isSize_verb (by decide)⟩
    | wont =>
      refine ⟨rfl, fun message hmessage => ?_⟩
      rw [List.mem_singleton.mp (show message ∈ [[IAC, DONT, option]] from hmessage)]
      exact ⟨fun _ => announcement_of_verb (by decide) (by decide),
        not_isSize_verb (by decide)⟩

theorem answer_quiet_kept (h : Tracked options (sentBy log)) {item : Item}
    (hitem : ∀ option, item ≠ .negotiation .do option ∧ item ≠ .negotiation .dont option) :
    Tracked (item.answer options).1 (sentBy log ++ (item.answer options).2) ∧
      Proper log { cause := .inbound item, sent := (item.answer options).2 } := by
  obtain ⟨hoptions, hquiet⟩ := @answer_quiet options item hitem
  rw [hoptions]
  refine ⟨tracked_of_quiet h fun message hmessage option _ => (hquiet message hmessage).1 option,
    proper_of_quiet ?_ fun message hmessage => (hquiet message hmessage).2⟩
  intro option hcause
  exact (hitem option).1 (Event.inbound.inj hcause)

end Step

section Runs

theorem sentBy_concat (log : List Entry) (entry : Entry) :
    sentBy (log ++ [entry]) = sentBy log ++ entry.sent := by
  simp [sentBy]

theorem step_consistent_iff {session : Session} (hstate : session.negotiator.state = .data)
    (h : session.Consistent) (event : Event) :
    (session.step event).Consistent ↔ session.Keeps event := by
  obtain ⟨htracked, hhistory⟩ := h
  obtain ⟨-, hoptions, hsent⟩ := respond_spec hstate event
  unfold Session.Consistent Session.step
  dsimp only
  rw [history_concat, sentBy_concat, hoptions, hsent, and_comm (a := History Proper session.log),
    ← and_assoc, and_iff_left hhistory]
  cases event with
  | offers => exact iff_of_true (offers_kept htracked) trivial
  | resize cols rows => exact resize_kept_iff htracked cols rows
  | inbound item =>
    cases item with
    | data | escaped | command | subnegotiation =>
      exact iff_of_true (answer_quiet_kept htracked fun option => ⟨nofun, nofun⟩) trivial
    | negotiation verb option =>
      cases verb with
      | «do» => exact iff_of_true (handleDo_kept htracked option) trivial
      | dont => exact handleDont_kept_iff htracked option
      | will | wont =>
        refine iff_of_true (answer_quiet_kept htracked fun option => ?_) trivial
        constructor <;> intro hitem <;> cases hitem

-- From a new negotiator, over every history: the table says what was announced last, a
-- request is answered where the option is not announced, and sizes are sent only after an
-- announcement, exactly when no announced option is taken back by the other side and no
-- size changes before the first announcement.
theorem throughout_consistent_iff (terminalType : JsString) (cols rows : Number)
    (events : List Event) :
    Throughout Session.step Session.Consistent
        { negotiator := { terminalType, cols, rows } } events ↔
      Along Session.step Session.Keeps { negotiator := { terminalType, cols, rows } } events := by
  refine @throughout_iff_along _ _ Session.step
    (fun session => session.negotiator.state = .data) Session.Consistent Session.Keeps ?_ ?_ _ rfl
    ⟨?_, history_nil _⟩ events
  · exact fun session event hstate => (respond_spec hstate event).1
  · exact fun session event hstate h => step_consistent_iff hstate h event
  · intro option _
    exact iff_of_true rfl (by simp [Announces, sentBy])

-- The window size is offered, refused and asked for: the request is answered with a size,
-- and not with the announcement.
theorem refused_offer_not_consistent :
    ¬Throughout Session.step Session.Consistent { negotiator := { terminalType := js "vt100" } }
        [.offers, .inbound (.negotiation .dont NAWS), .inbound (.negotiation .do NAWS)] := by
  intro h
  have hlast := (throughout_last Session.step h).1 NAWS (by decide)
  exact absurd hlast (by decide)

end Runs

end WebSsh2.Telnet
