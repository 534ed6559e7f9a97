import WebSsh2.Library.Run
import WebSsh2.Telnet.Inbound

namespace WebSsh2.Telnet

open WebSsh2.Library WebSsh2.Library.Descent WebSsh2.Library.Transducer

-- Two negotiators back to back, and the messages on their way to each.
structure Exchange where
  left : Negotiator
  right : Negotiator
  toLeft : List Bytes := []
  toRight : List Bytes := []

namespace Exchange

def swap (exchange : Exchange) : Exchange where
  left := exchange.right
  right := exchange.left
  toLeft := exchange.toRight
  toRight := exchange.toLeft

-- What the left side does: it takes any message on its way there, or makes its offers.
inductive Acts (exchange : Exchange) : Exchange → Prop where
  | deliver {before after : List Bytes} {message : Bytes}
      (hflight : exchange.toLeft = before ++ message :: after) :
      Acts exchange {
        left := (exchange.left.processInbound message).1
        right := exchange.right
        toLeft := before ++ after
        toRight := exchange.toRight ++ (exchange.left.processInbound message).2.responses }
  | offer (hoffers : exchange.left.buildProactiveOffers.2 ≠ []) :
      Acts exchange {
        left := { exchange.left with toOptions := exchange.left.buildProactiveOffers.1 }
        right := exchange.right
        toLeft := exchange.toLeft
        toRight := exchange.toRight ++ exchange.left.buildProactiveOffers.2 }

def Step (exchange next : Exchange) : Prop :=
  exchange.Acts next ∨ exchange.swap.Acts next.swap

-- Every order of steps comes to an end, and then nothing is on its way.
def Settles (exchange : Exchange) : Prop :=
  Bounded Step exchange ∧
    ∀ count last, Run Step count exchange last → (∀ next, ¬Step last next) →
      last.toLeft = [] ∧ last.toRight = []

-- Negotiation messages of any kind are on their way to both sides.
def start (left right : Negotiator) (toLeft toRight : List (Verb × UInt8)) : Exchange where
  left
  right
  toLeft := toLeft.map fun message => (Item.negotiation message.1 message.2).encode
  toRight := toRight.map fun message => (Item.negotiation message.1 message.2).encode

end Exchange

-- A request that both sides understand: to do, or that one will do, what both support.
def Agreeable (message : Verb × UInt8) : Prop :=
  (message.1 = .do ∨ message.1 = .will) ∧ message.2 ∈ supportedOptions

instance (message : Verb × UInt8) : Decidable (Agreeable message) :=
  inferInstanceAs (Decidable (_ ∧ _))

section Answers

-- What a request of the kind that is not agreeable is answered with.
def counterpart (message : Verb × UInt8) : Verb × UInt8 :=
  match message.1 with
  | .do | .dont => (.wont, message.2)
  | .will | .wont => (.dont, message.2)

variable (options : Options)

theorem answer_of_not_agreeable {message : Verb × UInt8} (h : ¬Agreeable message) :
    (Item.negotiation message.1 message.2).answer options =
      (options, [(Item.negotiation (counterpart message).1 (counterpart message).2).encode]) := by
  obtain ⟨verb, option⟩ := message
  unfold Agreeable at h
  cases verb with
  | «do» =>
    have hunsupported : option ∉ supportedOptions := fun hmem => h ⟨.inl rfl, hmem⟩
    show options.handleDo option = _
    unfold Options.handleDo
    rw [if_pos hunsupported]
    rfl
  | dont => rfl
  | will =>
    have hunsupported : option ∉ supportedOptions := fun hmem => h ⟨.inr rfl, hmem⟩
    show (options, Options.handleWill option) = _
    unfold Options.handleWill
    rw [if_neg hunsupported]
    rfl
  | wont => rfl

theorem counterpart_not_agreeable (message : Verb × UInt8) : ¬Agreeable (counterpart message) := by
  obtain ⟨verb, option⟩ := message
  rintro ⟨hverb, -⟩
  cases verb <;> simp [counterpart] at hverb

-- The messages of an agreeable exchange: requests that both sides understand, and sizes.
def Calm : Item → Prop
  | .negotiation verb option => Agreeable (verb, option)
  | .subnegotiation payload => payload.head? = some NAWS
  | _ => False

-- How many messages a message can still bring about, itself included.
def weight : Item → Nat
  | .negotiation .do _ => 2
  | .negotiation .will _ => 3
  | _ => 1

def totalWeight (items : List Item) : Nat :=
  (items.map weight).sum

@[simp] theorem totalWeight_append (first second : List Item) :
    totalWeight (first ++ second) = totalWeight first + totalWeight second := by
  simp [totalWeight]

-- The options that a side has not announced yet.
def waiting : Nat :=
  supportedOptions.countP fun option => options.getOptionState option = .inactive

theorem waiting_set (options : Options) {option : UInt8} {state : OptionState}
    (hmem : option ∈ supportedOptions) (hstate : state ≠ .inactive) :
    waiting (options.setOptionState option state) +
        (if options.getOptionState option = .inactive then 1 else 0) = waiting options := by
  have hperm := List.perm_cons_erase hmem
  have hothers : (supportedOptions.erase option).countP (fun other =>
        (options.setOptionState option state).getOptionState other = .inactive) =
      (supportedOptions.erase option).countP (fun other =>
        options.getOptionState other = .inactive) := by
    apply List.countP_congr
    intro other hother
    have hne := ((show supportedOptions.Nodup by decide).mem_erase_iff.mp hother).1
    rw [Options.getOptionState_set, if_neg hne]
  unfold waiting
  rw [hperm.countP_eq, hperm.countP_eq, List.countP_cons, List.countP_cons, hothers,
    Options.getOptionState_set, if_pos rfl]
  simp [hstate]

theorem encodeNaws_item (cols rows : Number) :
    encodeNaws cols rows = (Item.subnegotiation [NAWS, byteOf cols 1, byteOf cols 0,
      byteOf rows 1, byteOf rows 0]).encode := by
  simp only [encodeNaws, Item.encode, List.flatMap_cons, List.flatMap_nil, List.append_nil,
    List.append_assoc]
  rfl

-- Every answer weighs less than what it answers, with the options that were announced.
theorem answer_of_calm {item : Item} (h : Calm item) :
    ∃ items, (item.answer options).2 = items.map Item.encode ∧ (∀ answer ∈ items, Calm answer) ∧
      totalWeight items + 4 * waiting (item.answer options).1 <
        weight item + 4 * waiting options := by
  cases item with
  | data | escaped | command => exact h.elim
  | subnegotiation payload =>
    refine ⟨[], ?_, nofun, ?_⟩
    · show Negotiator.subnegotiationResponse options payload = []
      match payload, h with
      | [_], _ => rfl
      | option :: _ :: _, h =>
        change some option = some NAWS at h
        cases h
        rfl
    · show 0 + 4 * waiting options < 1 + 4 * waiting options
      omega
  | negotiation verb option =>
    obtain ⟨hverb, hmem⟩ := h
    change verb = .do ∨ verb = .will at hverb
    rcases hverb with rfl | rfl
    · have hwaiting := @waiting_set options option .active hmem nofun
      have hnaws : ∃ items : List Item,
          (if option = NAWS then [encodeNaws options.cols options.rows] else []) =
            items.map Item.encode ∧ (∀ answer ∈ items, Calm answer) ∧ totalWeight items ≤ 1 := by
        by_cases hoption : option = NAWS
        · rw [if_pos hoption, encodeNaws_item]
          exact ⟨[_], rfl, by simp [Calm], by simp [totalWeight, weight]⟩
        · rw [if_neg hoption]
          exact ⟨[], rfl, nofun, Nat.zero_le 1⟩
      obtain ⟨sizes, hsizes, hcalm, hlight⟩ := hnaws
      show ∃ items, (options.handleDo option).2 = items.map Item.encode ∧ _ ∧
        totalWeight items + 4 * waiting (options.handleDo option).1 < 2 + 4 * waiting options
      unfold Options.handleDo
      rw [if_neg (not_not_intro hmem)]
      dsimp only
      rw [hsizes]
      by_cases hinactive : options.getOptionState option = .inactive
      · rw [if_pos hinactive] at hwaiting ⊢
        refine ⟨.negotiation .will option :: sizes, rfl, ?_, ?_⟩
        · intro answer hanswer
          rcases List.mem_cons.mp hanswer with rfl | hanswer
          · exact ⟨.inr rfl, hmem⟩
          · exact hcalm answer hanswer
        · show 3 + totalWeight sizes + _ < _
          omega
      · rw [if_neg hinactive] at hwaiting ⊢
        refine ⟨sizes, rfl, hcalm, ?_⟩
        omega
    · show ∃ items, Options.handleWill option = items.map Item.encode ∧ _ ∧
        totalWeight items + 4 * waiting options < 3 + 4 * waiting options
      unfold Options.handleWill
      rw [if_pos hmem]
      refine ⟨[.negotiation .do option], rfl, ?_, ?_⟩
      · intro answer hanswer
        rw [List.mem_singleton.mp hanswer]
        exact ⟨.inl rfl, hmem⟩
      · show 2 + 4 * waiting options < _
        omega

-- Each offer is paid for by the option that it announces.
theorem foldl_offerOption (wanted : List UInt8)
    (hwanted : ∀ option ∈ wanted, option ∈ supportedOptions) (options : Options)
    (offers : List Bytes) :
    ∃ items : List Item,
      (wanted.foldl Options.offerOption (options, offers)).2 = offers ++ items.map Item.encode ∧
        (∀ offer ∈ items, Calm offer) ∧
        totalWeight items + 4 * waiting (wanted.foldl Options.offerOption (options, offers)).1 +
          items.length = 4 * waiting options := by
  induction wanted generalizing options offers with
  | nil => exact ⟨[], by simp, nofun, by simp [totalWeight]⟩
  | cons option wanted ih =>
    have hmem := hwanted option List.mem_cons_self
    have hrest := fun other hother => hwanted other (List.mem_cons_of_mem _ hother)
    rw [List.foldl_cons]
    unfold Options.offerOption
    dsimp only
    by_cases hinactive : options.getOptionState option = .inactive
    · rw [if_pos hinactive]
      have hwaiting := @waiting_set options option .offered hmem nofun
      rw [if_pos hinactive] at hwaiting
      obtain ⟨items, hitems, hcalm, hweight⟩ :=
        ih hrest (options.setOptionState option .offered) (offers ++ [[IAC, WILL, option]])
      refine ⟨.negotiation .will option :: items, ?_, ?_, ?_⟩
      · apply hitems.trans
        rw [List.append_assoc]
        rfl
      · intro offer hoffer
        rcases List.mem_cons.mp hoffer with rfl | hoffer
        · exact ⟨.inr rfl, hmem⟩
        · exact hcalm offer hoffer
      · show 3 + totalWeight items + _ + (items.length + 1) = _
        unfold Options.offerOption at hweight
        omega
    · rw [if_neg hinactive]
      exact ih hrest options offers

theorem offers_calm :
    ∃ items, options.buildProactiveOffers.2 = items.map Item.encode ∧
      (∀ offer ∈ items, Calm offer) ∧
      totalWeight items + 4 * waiting options.buildProactiveOffers.1 + items.length =
        4 * waiting options :=
  foldl_offerOption [TERMINAL_TYPE, NAWS] (by decide) options []

end Answers

section Runs

open Exchange

-- Every message on its way is calm, and `rank` bounds what the exchange can still do.
def Ranked (rank : Nat) (exchange : Exchange) : Prop :=
  ∃ toLeft toRight : List Item, exchange.toLeft = toLeft.map Item.encode ∧
    exchange.toRight = toRight.map Item.encode ∧ (∀ item ∈ toLeft ++ toRight, Calm item) ∧
    exchange.left.state = .data ∧ exchange.right.state = .data ∧
    rank = totalWeight toLeft + totalWeight toRight + 4 * waiting exchange.left.toOptions +
      4 * waiting exchange.right.toOptions

variable {exchange : Exchange}

theorem Ranked.swap {rank : Nat} (h : Ranked rank exchange) : Ranked rank exchange.swap := by
  obtain ⟨toLeft, toRight, hleft, hright, hcalm, hleftState, hrightState, hrank⟩ := h
  refine ⟨toRight, toLeft, hright, hleft, ?_, hrightState, hleftState, ?_⟩
  · intro item hitem
    exact hcalm item (List.mem_append.mpr (List.mem_append.mp hitem).symm)
  · show rank = totalWeight toRight + totalWeight toLeft +
      4 * waiting exchange.right.toOptions + 4 * waiting exchange.left.toOptions
    omega

theorem Ranked.acts {rank : Nat} {exchange next : Exchange} (h : Ranked rank exchange)
    (hacts : exchange.Acts next) : ∃ smaller, smaller < rank ∧ Ranked smaller next := by
  obtain ⟨toLeft, toRight, hleft, hright, hcalm, hleftState, hrightState, rfl⟩ := h
  cases hacts with
  | @deliver before after message hflight =>
    rw [hleft] at hflight
    obtain ⟨earlier, later, rfl, rfl, hlater⟩ := List.map_eq_append_iff.mp hflight
    obtain ⟨item, later, rfl, rfl, rfl⟩ := List.map_eq_cons_iff.mp hlater
    obtain ⟨hstate, hoptions, hresponses⟩ := processInbound_item hleftState item
    have hitem : Calm item := hcalm item (by simp)
    obtain ⟨answers, hanswers, hanswersCalm, hlight⟩ :=
      answer_of_calm exchange.left.toOptions hitem
    refine ⟨_, ?_, earlier ++ later, toRight ++ answers, ?_, ?_, ?_, hstate, hrightState, rfl⟩
    · have hweight : totalWeight (item :: later) = weight item + totalWeight later := rfl
      rw [totalWeight_append, totalWeight_append, totalWeight_append, hoptions, hweight]
      dsimp only
      omega
    · rw [List.map_append]
    · rw [List.map_append, hright, hresponses, hanswers]
    · intro other hother
      simp only [List.mem_append] at hother
      rcases hother with (hother | hother) | hother | hother
      · exact hcalm other (by simp [hother])
      · exact hcalm other (by simp [hother])
      · exact hcalm other (by simp [hother])
      · exact hanswersCalm other hother
  | offer hoffers =>
    obtain ⟨offers, hitems, hoffersCalm, hweight⟩ := offers_calm exchange.left.toOptions
    have hsome : 0 < offers.length := by
      apply List.length_pos_of_ne_nil
      intro hnone
      rw [hitems, hnone] at hoffers
      exact hoffers rfl
    refine ⟨_, ?_, toLeft, toRight ++ offers, hleft, ?_, ?_, hleftState, hrightState, rfl⟩
    · rw [totalWeight_append]
      dsimp only
      omega
    · rw [List.map_append, hright, hitems]
    · intro other hother
      rw [← List.append_assoc] at hother
      rcases List.mem_append.mp hother with hother | hother
      · exact hcalm other hother
      · exact hoffersCalm other hother

theorem Ranked.step {rank : Nat} {exchange next : Exchange} (h : Ranked rank exchange)
    (hstep : exchange.Step next) : ∃ smaller, smaller < rank ∧ Ranked smaller next := by
  rcases hstep with hacts | hacts
  · exact h.acts hacts
  · obtain ⟨smaller, hsmaller, hranked⟩ := h.swap.acts hacts
    exact ⟨smaller, hsmaller, hranked.swap⟩

-- A message on its way to the left that is not agreeable: its answer is not agreeable either.
def Quarrels (exchange : Exchange) : Prop :=
  exchange.left.state = .data ∧ exchange.right.state = .data ∧
    ∃ message : Verb × UInt8, ¬Agreeable message ∧
      (Item.negotiation message.1 message.2).encode ∈ exchange.toLeft

theorem Quarrels.acts {exchange : Exchange} (h : Quarrels exchange) :
    ∃ next, exchange.Acts next ∧ Quarrels next.swap := by
  obtain ⟨hleft, hright, message, hmessage, hflight⟩ := h
  obtain ⟨before, after, hsplit⟩ := List.append_of_mem hflight
  obtain ⟨hstate, -, hresponses⟩ :=
    processInbound_item hleft (Item.negotiation message.1 message.2)
  refine ⟨_, .deliver hsplit, hright, hstate, counterpart message,
    counterpart_not_agreeable message, ?_⟩
  apply List.mem_append_right
  rw [hresponses, answer_of_not_agreeable exchange.left.toOptions hmessage]
  exact List.mem_singleton_self _

theorem not_bounded_of_quarrels (h : Quarrels exchange ∨ Quarrels exchange.swap) :
    ¬Bounded Step exchange := by
  apply @not_bounded_of_step _ Step (fun exchange => Quarrels exchange ∨ Quarrels exchange.swap) _
    exchange h
  rintro state (hquarrels | hquarrels)
  · obtain ⟨next, hacts, hnext⟩ := hquarrels.acts
    exact ⟨next, .inl hacts, .inr hnext⟩
  · obtain ⟨next, hacts, hnext⟩ := hquarrels.acts
    exact ⟨next.swap, .inr hacts, .inl hnext⟩

theorem acts_of_flight {exchange : Exchange} (h : exchange.toLeft ≠ []) :
    ∃ next, exchange.Acts next := by
  obtain ⟨message, rest, hflight⟩ := List.exists_cons_of_ne_nil h
  exact ⟨_, .deliver (show exchange.toLeft = [] ++ message :: rest from hflight)⟩

-- Nothing stays on its way for want of a step.
theorem nothing_in_flight (h : ∀ next, ¬exchange.Step next) :
    exchange.toLeft = [] ∧ exchange.toRight = [] := by
  constructor
  · by_contra hflight
    obtain ⟨next, hacts⟩ := acts_of_flight hflight
    exact h next (.inl hacts)
  · by_contra hflight
    obtain ⟨next, hacts⟩ := @acts_of_flight exchange.swap hflight
    exact h next.swap (.inr hacts)

theorem start_ranked {left right : Negotiator} (hleft : left.state = .data)
    (hright : right.state = .data) {toLeft toRight : List (Verb × UInt8)}
    (hagreeable : ∀ message ∈ toLeft ++ toRight, Agreeable message) :
    ∃ rank, Ranked rank (start left right toLeft toRight) := by
  refine ⟨_, toLeft.map fun message => Item.negotiation message.1 message.2,
    toRight.map fun message => Item.negotiation message.1 message.2, ?_, ?_, ?_, hleft, hright,
    rfl⟩
  · rw [List.map_map]
    rfl
  · rw [List.map_map]
    rfl
  · intro item hitem
    rw [← List.map_append] at hitem
    obtain ⟨message, hmessage, rfl⟩ := List.mem_map.mp hitem
    exact hagreeable message hmessage

-- From any two option tables, the negotiation comes to an end if and only if nothing is on
-- its way but offers and requests of what both sides support: a refusal, or a withdrawal, is
-- answered with a refusal, and that one too, without an end.
theorem settles_iff (left right : Negotiator) (hleft : left.state = .data)
    (hright : right.state = .data) (toLeft toRight : List (Verb × UInt8)) :
    (start left right toLeft toRight).Settles ↔
      ∀ message ∈ toLeft ++ toRight, Agreeable message := by
  constructor
  · rintro ⟨hbounded, -⟩ message hmem
    by_contra hmessage
    refine not_bounded_of_quarrels ?_ hbounded
    rcases List.mem_append.mp hmem with hmem | hmem
    · exact .inl ⟨hleft, hright, message, hmessage, List.mem_map_of_mem hmem⟩
    · exact .inr ⟨hright, hleft, message, hmessage, List.mem_map_of_mem hmem⟩
  · intro hagreeable
    obtain ⟨rank, hranked⟩ := start_ranked hleft hright hagreeable
    exact ⟨bounded_of_rank (fun rank state next hranked hstep => hranked.step hstep) hranked,
      fun count last _ hstuck => nothing_in_flight hstuck⟩

-- Both sides ask for the other's window size.
theorem both_wills_settle :
    (start { terminalType := js "vt100" } { terminalType := js "xterm" } [(.will, NAWS)]
      [(.will, NAWS)]).Settles :=
  (settles_iff _ _ rfl rfl _ _).mpr (by decide)

-- One withdrawal of an option that was never on.
theorem dont_never_settles :
    ¬(start { terminalType := js "vt100" } { terminalType := js "vt100" } [(.dont, ECHO)]
      []).Settles := by
  rintro ⟨hbounded, -⟩
  exact not_bounded_of_quarrels (.inl ⟨rfl, rfl, (.dont, ECHO), by decide,
    List.mem_singleton_self _⟩) hbounded

end Runs

end WebSsh2.Telnet
