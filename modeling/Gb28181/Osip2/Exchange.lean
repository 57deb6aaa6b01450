import Gb28181.Osip2.Steps

namespace Gb28181.Osip2

open Gb28181.Lib Gb28181.Osip

variable {Header : Type}

/-- The network keeps all that was ever sent. -/
structure Exchange (Header : Type) where
  client : Transaction Header
  server : Transaction Header
  net : List (OsipMessage Header)

inductive Party where
  | client | server
  deriving DecidableEq

/-- A message that was sent arrives, or a party executes an event of its own: the application
sends, or a timer ends. -/
inductive Move (Header : Type) where
  | deliver (party : Party) (index address : Nat) (answers : Answers)
  | own (party : Party) (evt : Event Header) (answers : Answers)

def Move.party : Move Header → Party
  | .deliver party _ _ _ => party
  | .own party _ _ => party

/-- The event of a move, if there is such a message. -/
def Move.turn (net : List (OsipMessage Header)) : Move Header → Option (Turn Header)
  | .deliver _ index address answers =>
    (net[index]?).map (fun sip => (.incoming ⟨address, sip⟩, answers))
  | .own _ (.incoming _) _ => none
  | .own _ evt answers => some (evt, answers)

def Effect.sent : Effect Header → Option (OsipMessage Header)
  | .send (some message) => some message.sip
  | _ => none

def Exchange.act (lib : StackLib Header) (ex : Exchange Header) (turn : Turn Header) :
    Party → Exchange Header × List (Party × Effect Header)
  | .client =>
    let result := takeTurn lib ex.client turn
    ({ ex with client := result.1, net := ex.net ++ result.2.filterMap Effect.sent },
      result.2.map (Prod.mk .client))
  | .server =>
    let result := takeTurn lib ex.server turn
    ({ ex with server := result.1, net := ex.net ++ result.2.filterMap Effect.sent },
      result.2.map (Prod.mk .server))

def Exchange.step (lib : StackLib Header) (ex : Exchange Header) (move : Move Header) :
    Exchange Header × List (Party × Effect Header) :=
  match move.turn ex.net with
  | some turn => ex.act lib turn move.party
  | none => (ex, [])

/-- Both ends are behind this final response. -/
structure Exchange.AgreedOn (ex : Exchange Header) (sip : OsipMessage Header) : Prop where
  final : isFinal sip
  client : ex.client.state.isConcluded
  server : ex.server.state.isConcluded
  heard : holdsSip ex.client.lastResponse sip
  sent : holdsSip ex.server.lastResponse sip

def Exchange.Agreed (ex : Exchange Header) : Prop := ∃ sip, ex.AgreedOn sip

/-- A message of the network comes from what the ends know. -/
structure Exchange.Explains (ex : Exchange Header) (sip : OsipMessage Header) : Prop where
  question : isQuestion sip → holdsSip ex.client.origRequest sip
  final : isFinal sip → ex.server.state.isConcluded ∧ holdsSip ex.server.lastResponse sip
  ack : evtSetTypeIncomingSipmessage sip = .rcvReqack → ex.Agreed

structure Exchange.Sound (ex : Exchange Header) : Prop where
  clientType : ex.client.ctxType = .ict ∨ ex.client.ctxType = .nict
  serverType : ex.server.ctxType = .ist ∨ ex.server.ctxType = .nist
  asks : ∀ sip, holdsSip ex.client.origRequest sip → isQuestion sip
  unasked : ex.client.state.isFirst → ex.client.origRequest = none
  answers : ∀ sip, holdsSip ex.server.lastResponse sip →
    msgIsRequest sip = false ∧ (isFinal sip → ex.server.state.isConcluded)
  net : ∀ sip ∈ ex.net, ex.Explains sip
  ack : ∀ sip, holdsSip ex.client.ack sip →
    evtSetTypeIncomingSipmessage sip = .rcvReqack ∧ ex.Agreed
  confirmed : ex.server.state = .istConfirmed → ex.Agreed

def isAnnounced : Party × Effect Header → Bool
  | (.server, .callback type _) => type.isAnnouncement
  | _ => false

def State.unheard (state : State) : Nat := state.isFirst.toNat

/-- What the applications were told is what the ends know. -/
structure Exchange.Told (ex : Exchange Header) (past : List (Party × Effect Header)) : Prop where
  once : past.countP isAnnounced + ex.server.state.unheard ≤ 1
  announced : ∀ type message, (Party.server, Effect.callback type (some message)) ∈ past →
    type.isAnnouncement → holdsSip ex.client.origRequest message.sip
  reported : ∀ type message, (Party.client, Effect.callback type (some message)) ∈ past →
    type.isOutcome → ex.AgreedOn message.sip

variable {lib : StackLib Header} {ex : Exchange Header} {sip : OsipMessage Header}
  {turn : Turn Header} {effects : List (Effect Header)} {sends : OsipMessage Header → Prop}
  {tells : MessageCallback → Option (Message Header) → Prop} {type : MessageCallback}
  {message : Message Header} {told : Option (Message Header)} {result : Result Header}
  {tr : Transaction Header} {evt : Event Header} {net : List (OsipMessage Header)}

theorem sends_of_sent (within : ∀ effect ∈ effects, effect.Within sends tells)
    (member : sip ∈ effects.filterMap Effect.sent) : sends sip := by
  obtain ⟨effect, here, sent⟩ := List.mem_filterMap.mp member
  have allowed := within effect here
  cases effect with
  | send message =>
    cases message with
    | none => cases sent
    | some message => exact Option.some.inj sent ▸ allowed
  | callback _ _ => cases sent
  | transportError _ _ => cases sent
  | kill _ => cases sent
  | malloc _ => cases sent
  | free _ => cases sent

theorem tells_of_callback (within : ∀ effect ∈ effects, effect.Within sends tells)
    (member : Effect.callback type told ∈ effects) : tells type told :=
  within _ member

theorem not_isConcluded_of_isFirst {state : State} (first : state.isFirst) :
    state.isConcluded = false := by
  cases state <;> cases first <;> rfl

theorem holdsSip_request (step : ClientStep tr evt result)
    (unasked : tr.state.isFirst → tr.origRequest = none) (holds : holdsSip tr.origRequest sip) :
    holdsSip result.1.origRequest sip := by
  cases step with
  | rests rests => exact rests.request ▸ holds
  | begins message _ _ first _ _ _ _ _ =>
    rw [unasked first] at holds
    obtain ⟨_, none_some, _⟩ := holds
    cases none_some
  | waits message _ _ _ _ request _ _ _ => exact request ▸ holds
  | concludes message _ _ _ _ request _ _ _ => exact request ▸ holds

theorem client_concluded (step : ClientStep tr evt result) (concluded : tr.state.isConcluded) :
    result.1.state.isConcluded ∧ result.1.lastResponse = tr.lastResponse := by
  cases step with
  | rests rests =>
    refine ⟨?_, rests.response⟩
    rcases rests.state with same | ends
    · exact same ▸ concluded
    · exact (isConcluded_of_isLast ends).1
  | begins _ _ _ first _ _ _ _ _ =>
    exact absurd concluded (Bool.eq_false_iff.mp (not_isConcluded_of_isFirst first))
  | waits _ _ unsettled _ _ _ _ _ _ => exact absurd concluded (Bool.eq_false_iff.mp unsettled)
  | concludes _ _ _ unsettled _ _ _ _ _ =>
    exact absurd concluded (Bool.eq_false_iff.mp unsettled)

theorem server_concluded (step : ServerStep tr evt result) (concluded : tr.state.isConcluded) :
    result.1.state.isConcluded ∧ result.1.lastResponse = tr.lastResponse := by
  cases step with
  | rests rests =>
    refine ⟨?_, rests.response⟩
    rcases rests.state with same | ends
    · exact same ▸ concluded
    · exact (isConcluded_of_isLast ends).1
  | announces _ _ _ first _ _ _ _ _ =>
    exact absurd concluded (Bool.eq_false_iff.mp (not_isConcluded_of_isFirst first))
  | responds _ _ _ unsettled _ _ _ _ _ _ =>
    exact absurd concluded (Bool.eq_false_iff.mp unsettled)
  | confirms _ _ _ _ confirmed _ response _ => exact ⟨by rw [confirmed]; rfl, response⟩

theorem agreedOn_client (step : ClientStep ex.client evt result) (agreed : ex.AgreedOn sip) :
    Exchange.AgreedOn { ex with client := result.1, net := net } sip := by
  obtain ⟨concluded, same⟩ := client_concluded step agreed.client
  exact ⟨agreed.final, concluded, agreed.server, same ▸ agreed.heard, agreed.sent⟩

theorem agreedOn_server (step : ServerStep ex.server evt result) (agreed : ex.AgreedOn sip) :
    Exchange.AgreedOn { ex with server := result.1, net := net } sip := by
  obtain ⟨concluded, same⟩ := server_concluded step agreed.server
  exact ⟨agreed.final, agreed.client, concluded, agreed.heard, same ▸ agreed.sent⟩

theorem agreed_client (step : ClientStep ex.client evt result) (agreed : ex.Agreed) :
    Exchange.Agreed { ex with client := result.1, net := net } := by
  obtain ⟨sip, on⟩ := agreed
  exact ⟨sip, agreedOn_client step on⟩

theorem agreed_server (step : ServerStep ex.server evt result) (agreed : ex.Agreed) :
    Exchange.Agreed { ex with server := result.1, net := net } := by
  obtain ⟨sip, on⟩ := agreed
  exact ⟨sip, agreedOn_server step on⟩

theorem explains_client (step : ClientStep ex.client evt result)
    (unasked : ex.client.state.isFirst → ex.client.origRequest = none)
    (explains : ex.Explains sip) :
    Exchange.Explains { ex with client := result.1, net := net } sip :=
  ⟨fun asks => holdsSip_request step unasked (explains.question asks), explains.final,
    fun acknowledges => agreed_client step (explains.ack acknowledges)⟩

theorem explains_server (step : ServerStep ex.server evt result) (explains : ex.Explains sip) :
    Exchange.Explains { ex with server := result.1, net := net } sip := by
  refine ⟨explains.question, fun final => ?_,
    fun acknowledges => agreed_server step (explains.ack acknowledges)⟩
  obtain ⟨concluded, holds⟩ := explains.final final
  obtain ⟨still, same⟩ := server_concluded step concluded
  exact ⟨still, same ▸ holds⟩

theorem explains_question (asks : isQuestion sip) (holds : holdsSip ex.client.origRequest sip) :
    ex.Explains sip := by
  refine ⟨fun _ => holds, fun final => absurd final (not_isFinal (.inl asks)), fun acks => ?_⟩
  rcases asks with invite | request
  · rw [invite] at acks
    cases acks
  · rw [request] at acks
    cases acks

theorem explains_ack (acknowledges : evtSetTypeIncomingSipmessage sip = .rcvReqack)
    (agreed : ex.Agreed) : ex.Explains sip := by
  refine ⟨fun asks => ?_, fun final => absurd final (not_isFinal (.inr acknowledges)),
    fun _ => agreed⟩
  unfold isQuestion at asks
  rw [acknowledges] at asks
  rcases asks with invite | request
  · cases invite
  · cases request

theorem explains_answer (answers : msgIsRequest sip = false)
    (final : isFinal sip → ex.server.state.isConcluded)
    (holds : holdsSip ex.server.lastResponse sip) : ex.Explains sip :=
  ⟨fun asks => absurd asks (isRequest_isQuestion answers).1, fun here => ⟨final here, holds⟩,
    fun acks => absurd acks (isRequest_isQuestion answers).2⟩

theorem agreedOn_heard (sound : ex.Sound) (arrived : message.sip ∈ ex.net)
    (final : isFinal message.sip) (concluded : result.1.state.isConcluded)
    (response : result.1.lastResponse = some message) :
    Exchange.AgreedOn { ex with client := result.1, net := net } message.sip := by
  obtain ⟨answered, holds⟩ := (sound.net _ arrived).final final
  exact ⟨final, concluded, answered, ⟨message, response, rfl⟩, holds⟩

theorem sound_client (sound : ex.Sound) (step : ClientStep ex.client evt result)
    (arrives : ∀ message, evt = .incoming message → message.sip ∈ ex.net)
    (sameType : result.1.ctxType = ex.client.ctxType) :
    Exchange.Sound
      { ex with client := result.1, net := ex.net ++ result.2.filterMap Effect.sent } := by
  have old {net : List (OsipMessage Header)} (sip : OsipMessage Header) (member : sip ∈ ex.net) :
      Exchange.Explains { ex with client := result.1, net := net } sip :=
    explains_client step sound.unasked (sound.net sip member)
  have still {net : List (OsipMessage Header)} (agreed : ex.Agreed) :
      Exchange.Agreed { ex with client := result.1, net := net } := agreed_client step agreed
  have clientType := sameType.symm ▸ sound.clientType
  cases step with
  | rests rests =>
    refine ⟨clientType, sound.serverType, rests.request ▸ sound.asks, fun first => ?_,
      sound.answers, List.forall_mem_append.mpr ⟨old, fun sip member => ?_⟩, ?_,
      fun state => still (sound.confirmed state)⟩
    · rw [rests.request]
      rcases rests.state with same | ends
      · exact sound.unasked (same ▸ first)
      · exact absurd first (Bool.eq_false_iff.mp (isConcluded_of_isLast ends).2.1)
    · rcases sends_of_sent rests.within member with asked | acked
      · exact explains_question (sound.asks sip asked) (rests.request ▸ asked)
      · obtain ⟨acknowledges, agreed⟩ := sound.ack sip acked
        exact explains_ack acknowledges (still agreed)
    · intro sip holds
      obtain ⟨acknowledges, agreed⟩ := sound.ack sip (rests.ack ▸ holds)
      exact ⟨acknowledges, still agreed⟩
  | begins message leaves asks first begun request response ack within =>
    refine ⟨clientType, sound.serverType, fun sip holds => ?_, fun first => ?_, sound.answers,
      List.forall_mem_append.mpr ⟨old, fun sip member => ?_⟩, fun sip holds => ?_,
      fun state => still (sound.confirmed state)⟩
    · exact holdsSip_some (request ▸ holds) ▸ asks
    · exact absurd first (Bool.eq_false_iff.mp begun)
    · have same := sends_of_sent within member
      exact same ▸ explains_question asks ⟨message, request, rfl⟩
    · obtain ⟨acknowledges, agreed⟩ := sound.ack sip (ack ▸ holds)
      exact ⟨acknowledges, still agreed⟩
  | waits message heard unsettled waiting begun request response ack within =>
    refine ⟨clientType, sound.serverType, request ▸ sound.asks, fun first => ?_, sound.answers,
      List.forall_mem_append.mpr ⟨old, fun sip member => ?_⟩, fun sip holds => ?_,
      fun state => still (sound.confirmed state)⟩
    · exact absurd first (Bool.eq_false_iff.mp begun)
    · exact (sends_of_sent within member).elim
    · obtain ⟨acknowledges, agreed⟩ := sound.ack sip (ack ▸ holds)
      exact ⟨acknowledges, still agreed⟩
  | concludes message heard final unsettled concluded request response ack within =>
    have agreed {net : List (OsipMessage Header)} :
        Exchange.Agreed { ex with client := result.1, net := net } :=
      ⟨message.sip, agreedOn_heard sound (arrives message heard) final concluded response⟩
    refine ⟨clientType, sound.serverType, request ▸ sound.asks, fun first => ?_, sound.answers,
      List.forall_mem_append.mpr ⟨old, fun sip member => ?_⟩, fun sip holds => ?_,
      fun state => still (sound.confirmed state)⟩
    · exact absurd concluded (Bool.eq_false_iff.mp (not_isConcluded_of_isFirst first))
    · exact explains_ack (sends_of_sent within member) agreed
    · rcases ack sip holds with before | acknowledges
      · exact ⟨(sound.ack sip before).1, agreed⟩
      · exact ⟨acknowledges, agreed⟩

theorem sound_server (sound : ex.Sound) (step : ServerStep ex.server evt result)
    (arrives : ∀ message, evt = .incoming message → message.sip ∈ ex.net)
    (sameType : result.1.ctxType = ex.server.ctxType) :
    Exchange.Sound
      { ex with server := result.1, net := ex.net ++ result.2.filterMap Effect.sent } := by
  have old {net : List (OsipMessage Header)} (sip : OsipMessage Header) (member : sip ∈ ex.net) :
      Exchange.Explains { ex with server := result.1, net := net } sip :=
    explains_server step (sound.net sip member)
  have ack {net : List (OsipMessage Header)} (sip : OsipMessage Header)
      (holds : holdsSip ex.client.ack sip) : evtSetTypeIncomingSipmessage sip = .rcvReqack ∧
        Exchange.Agreed { ex with server := result.1, net := net } :=
    ⟨(sound.ack sip holds).1, agreed_server step (sound.ack sip holds).2⟩
  have still {net : List (OsipMessage Header)} (agreed : ex.Agreed) :
      Exchange.Agreed { ex with server := result.1, net := net } := agreed_server step agreed
  have stays := server_concluded step
  have serverType := sameType.symm ▸ sound.serverType
  cases step with
  | rests rests =>
    have answers (sip : OsipMessage Header) (holds : holdsSip result.1.lastResponse sip) :
        msgIsRequest sip = false ∧ (isFinal sip → result.1.state.isConcluded) := by
      obtain ⟨isAnswer, final⟩ := sound.answers sip (rests.response ▸ holds)
      exact ⟨isAnswer, fun here => (stays (final here)).1⟩
    refine ⟨sound.clientType, serverType, sound.asks, sound.unasked, answers,
      List.forall_mem_append.mpr ⟨old, fun sip member => ?_⟩, ack, fun state => ?_⟩
    · have holds := sends_of_sent rests.within member
      rw [← rests.response] at holds
      exact explains_answer (answers sip holds).1 (answers sip holds).2 holds
    · rcases rests.state with same | ends
      · exact still (sound.confirmed (same ▸ state))
      · exact absurd state (isConcluded_of_isLast ends).2.2
  | announces message heard asks first begun unsettled request response effects =>
    have answers (sip : OsipMessage Header) (holds : holdsSip result.1.lastResponse sip) :
        msgIsRequest sip = false ∧ (isFinal sip → result.1.state.isConcluded) := by
      obtain ⟨isAnswer, final⟩ := sound.answers sip (response ▸ holds)
      exact ⟨isAnswer, fun here => absurd (final here)
        (Bool.eq_false_iff.mp (not_isConcluded_of_isFirst first))⟩
    refine ⟨sound.clientType, serverType, sound.asks, sound.unasked, answers,
      List.forall_mem_append.mpr ⟨old, fun sip member => ?_⟩, ack, fun state => ?_⟩
    · obtain ⟨type, only⟩ := effects
      rw [only] at member
      exact absurd member List.not_mem_nil
    · rw [state] at unsettled
      cases unsettled
  | responds message leaves isAnswer unsettled begun concluded unconfirmed request response within =>
    have answers (sip : OsipMessage Header) (holds : holdsSip result.1.lastResponse sip) :
        msgIsRequest sip = false ∧ (isFinal sip → result.1.state.isConcluded) := by
      rw [response] at holds
      rw [holdsSip_some holds]
      exact ⟨isAnswer, concluded⟩
    refine ⟨sound.clientType, serverType, sound.asks, sound.unasked, answers,
      List.forall_mem_append.mpr ⟨old, fun sip member => ?_⟩, ack,
      fun state => absurd state unconfirmed⟩
    have same := sends_of_sent within member
    rw [same]
    exact explains_answer isAnswer concluded ⟨message, response, rfl⟩
  | confirms message heard acknowledges concluded confirmed request response within =>
    have answers (sip : OsipMessage Header) (holds : holdsSip result.1.lastResponse sip) :
        msgIsRequest sip = false ∧ (isFinal sip → result.1.state.isConcluded) := by
      refine ⟨(sound.answers sip (response ▸ holds)).1, fun _ => ?_⟩
      rw [confirmed]
      rfl
    refine ⟨sound.clientType, serverType, sound.asks, sound.unasked, answers,
      List.forall_mem_append.mpr ⟨old, fun sip member => ?_⟩, ack, fun _ => ?_⟩
    · exact (sends_of_sent within member).elim
    · exact still ((sound.net _ (arrives message heard)).ack acknowledges)

variable {past : List (Party × Effect Header)}

theorem countP_client (effects : List (Effect Header)) :
    (effects.map (Prod.mk Party.client)).countP isAnnounced = 0 := by
  rw [List.countP_map]
  exact List.countP_eq_zero.mpr (fun _ _ => Bool.noConfusion)

theorem mem_server {effect : Effect Header} :
    (Party.server, effect) ∉ effects.map (Prod.mk Party.client) := by
  intro member
  obtain ⟨_, _, same⟩ := List.mem_map.mp member
  cases same

theorem mem_client {effect : Effect Header} :
    (Party.client, effect) ∉ effects.map (Prod.mk Party.server) := by
  intro member
  obtain ⟨_, _, same⟩ := List.mem_map.mp member
  cases same

theorem mem_same {party : Party} {effect : Effect Header} :
    (party, effect) ∈ effects.map (Prod.mk party) ↔ effect ∈ effects := by
  simp

theorem countP_quiet (within : ∀ effect ∈ effects, effect.Within sends isQuiet) :
    (effects.map (Prod.mk Party.server)).countP isAnnounced = 0 := by
  rw [List.countP_map]
  apply List.countP_eq_zero.mpr
  intro effect member
  have quiet := within effect member
  cases effect with
  | callback type message => exact Bool.eq_false_iff.mp quiet
  | send _ => exact Bool.noConfusion
  | transportError _ _ => exact Bool.noConfusion
  | kill _ => exact Bool.noConfusion
  | malloc _ => exact Bool.noConfusion
  | free _ => exact Bool.noConfusion

theorem unheard_begun {state : State} (begun : state.isFirst = false) : state.unheard = 0 :=
  congrArg Bool.toNat begun

/-- A request is announced by the step that leaves the first state. -/
theorem once_server (step : ServerStep tr evt result) :
    (result.2.map (Prod.mk Party.server)).countP isAnnounced + result.1.state.unheard ≤
      tr.state.unheard := by
  cases step with
  | rests rests =>
    rw [countP_quiet rests.within, Nat.zero_add]
    rcases rests.state with same | ends
    · rw [same]
    · rw [unheard_begun (isConcluded_of_isLast ends).2.1]
      exact Nat.zero_le _
  | announces _ _ _ first begun _ _ _ effects =>
    obtain ⟨type, only⟩ := effects
    have heard : tr.state.unheard = 1 := congrArg Bool.toNat first
    rw [only, unheard_begun begun, heard]
    exact List.countP_le_length
  | responds _ _ _ _ begun _ _ _ _ within =>
    rw [countP_quiet within, unheard_begun begun]
    exact Nat.zero_le _
  | confirms _ _ _ _ confirmed _ _ within =>
    rw [countP_quiet within, confirmed]
    exact Nat.zero_le _

theorem told_client (told : ex.Told past) (sound : ex.Sound)
    (step : ClientStep ex.client evt result)
    (arrives : ∀ message, evt = .incoming message → message.sip ∈ ex.net) :
    Exchange.Told { ex with client := result.1, net := net }
      (past ++ result.2.map (Prod.mk .client)) := by
  refine ⟨?_, fun type message member announces => ?_, fun type message member outcome => ?_⟩
  · rw [List.countP_append, countP_client]
    exact told.once
  · rcases List.mem_append.mp member with before | now
    · exact holdsSip_request step sound.unasked (told.announced type message before announces)
    · exact absurd now mem_server
  · rcases List.mem_append.mp member with before | now
    · exact agreedOn_client step (told.reported type message before outcome)
    · have here := mem_same.mp now
      cases step with
      | rests rests => cases tells_of_callback rests.within here outcome
      | begins _ _ _ _ _ _ _ _ within => cases tells_of_callback within here outcome
      | waits _ _ _ _ _ _ _ _ within => cases tells_of_callback within here outcome
      | concludes heard arrived final _ concluded _ response _ within =>
        have same := Option.some.inj (tells_of_callback within here outcome)
        rw [same]
        exact agreedOn_heard sound (arrives heard arrived) final concluded response

theorem told_server (told : ex.Told past) (sound : ex.Sound)
    (step : ServerStep ex.server evt result)
    (arrives : ∀ message, evt = .incoming message → message.sip ∈ ex.net) :
    Exchange.Told { ex with server := result.1, net := net }
      (past ++ result.2.map (Prod.mk .server)) := by
  have quiet (type : MessageCallback) (message : Message Header) {sends : OsipMessage Header → Prop}
      (within : ∀ effect ∈ result.2, effect.Within sends isQuiet)
      (member : Effect.callback type (some message) ∈ result.2)
      (announces : type.isAnnouncement) : holdsSip ex.client.origRequest message.sip :=
    absurd announces (Bool.eq_false_iff.mp (tells_of_callback within member))
  refine ⟨?_, fun type message member announces => ?_, fun type message member outcome => ?_⟩
  · rw [List.countP_append, Nat.add_assoc]
    exact (Nat.add_le_add_left (once_server step) _).trans told.once
  · rcases List.mem_append.mp member with before | now
    · exact told.announced type message before announces
    · have here := mem_same.mp now
      cases step with
      | rests rests => exact quiet type message rests.within here announces
      | announces heard arrived asks _ _ _ _ _ effects =>
        obtain ⟨_, only⟩ := effects
        rw [only] at here
        have same := Option.some.inj (Effect.callback.inj (List.mem_singleton.mp here)).2
        rw [same]
        exact (sound.net _ (arrives heard arrived)).question asks
      | responds _ _ _ _ _ _ _ _ _ within => exact quiet type message within here announces
      | confirms _ _ _ _ _ _ _ within => exact quiet type message within here announces
  · rcases List.mem_append.mp member with before | now
    · exact agreedOn_server step (told.reported type message before outcome)
    · exact absurd now mem_client

theorem turn_arrives {move : Move Header} (takes : move.turn ex.net = some turn)
    (heard : turn.1 = .incoming message) : message.sip ∈ ex.net := by
  cases move with
  | deliver party index address answers =>
    obtain ⟨sip, found, same⟩ := Option.map_eq_some_iff.mp takes
    rw [← same] at heard
    exact Event.incoming.inj heard ▸ List.mem_of_getElem? found
  | own party evt answers =>
    cases evt with
    | incoming _ => cases takes
    | outgoing _ =>
      rw [← Option.some.inj takes] at heard
      cases heard
    | timeout _ =>
      rw [← Option.some.inj takes] at heard
      cases heard
    | killTransaction =>
      rw [← Option.some.inj takes] at heard
      cases heard

theorem step_sound {move : Move Header} (sound : ex.Sound) (told : ex.Told past) :
    (ex.step lib move).1.Sound ∧ (ex.step lib move).1.Told (past ++ (ex.step lib move).2) := by
  unfold Exchange.step
  split
  · rename_i turn takes
    have arrives (message : Message Header) (heard : turn.1 = .incoming message) :
        message.sip ∈ ex.net := turn_arrives takes heard
    cases move.party with
    | client =>
      have step := @takeTurn_clientStep _ ex.client lib sound.clientType turn
      exact ⟨sound_client sound step arrives (takeTurn_orderly ex.client turn).sameType,
        told_client told sound step arrives⟩
    | server =>
      have step := @takeTurn_serverStep _ ex.server lib sound.serverType turn
      exact ⟨sound_server sound step arrives (takeTurn_orderly ex.server turn).sameType,
        told_server told sound step arrives⟩
  · rw [List.append_nil]
    exact ⟨sound, told⟩

theorem first_sound {client server : Transaction Header}
    {clientType serverType : FsmType} (asks : clientType = .ict ∨ clientType = .nict)
    (serves : serverType = .ist ∨ serverType = .nist)
    {question request : OsipMessage Header} {now later : Int}
    (begins : osipTransactionInit lib clientType question now = some client)
    (hears : osipTransactionInit lib serverType request later = some server) :
    Exchange.Sound ⟨client, server, []⟩ ∧ Exchange.Told ⟨client, server, []⟩ [] := by
  obtain ⟨⟨clientSame, clientFirst⟩, noRequest, -, noAck⟩ := osipTransactionInit_first begins
  obtain ⟨⟨serverSame, serverFirst⟩, -, noResponse, -⟩ := osipTransactionInit_first hears
  have nothing {stored : Option (Message Header)} {sip : OsipMessage Header}
      (empty : stored = none) (holds : holdsSip stored sip) : False := by
    obtain ⟨_, same, _⟩ := holds
    rw [empty] at same
    cases same
  have started : server.state.unheard ≤ 1 := Bool.toNat_le _
  refine ⟨⟨clientSame ▸ asks, serverSame ▸ serves, ?_, fun _ => noRequest, ?_, ?_, ?_, ?_⟩,
    ⟨?_, ?_, ?_⟩⟩
  · exact fun _ holds => (nothing noRequest holds).elim
  · exact fun _ holds => (nothing noResponse holds).elim
  · exact fun _ member => absurd member List.not_mem_nil
  · exact fun _ holds => (nothing noAck holds).elim
  · intro state
    have first : server.state.isFirst = true := by
      rw [serverFirst]
      cases serverType <;> rfl
    rw [state] at first
    cases first
  · exact (Nat.zero_add _).trans_le started
  · exact fun _ _ member => absurd member List.not_mem_nil
  · exact fun _ _ member => absurd member List.not_mem_nil

/-- Whatever the network loses, repeats and delays: the server's application hears of a request
once at most, and it is what the client has sent; a final response that the client's application
hears of is the last one of the server, which is behind it; and a server whose answer is
confirmed has a client that is behind the same answer. -/
theorem exchange_agrees {client server : Transaction Header} {clientType serverType : FsmType}
    (asks : clientType = .ict ∨ clientType = .nict)
    (serves : serverType = .ist ∨ serverType = .nist)
    {question request : OsipMessage Header} {now later : Int}
    (begins : osipTransactionInit lib clientType question now = some client)
    (hears : osipTransactionInit lib serverType request later = some server)
    (moves : List (Move Header)) :
    let run := trace (Exchange.step lib) ⟨client, server, []⟩ moves
    run.2.countP isAnnounced ≤ 1 ∧
      (∀ type message, (Party.server, Effect.callback type (some message)) ∈ run.2 →
        type.isAnnouncement → holdsSip run.1.client.origRequest message.sip) ∧
      (∀ type message, (Party.client, Effect.callback type (some message)) ∈ run.2 →
        type.isOutcome → run.1.AgreedOn message.sip) ∧
      (run.1.server.state = .istConfirmed → run.1.Agreed) := by
  intro run
  have first := first_sound asks serves begins hears
  have kept : run.1.Sound ∧ run.1.Told run.2 :=
    trace_induction (fun ex past => Exchange.Sound ex ∧ ex.Told past) first
      (fun ex past move ⟨sound, told⟩ => step_sound sound told)
  exact ⟨(Nat.le_add_right _ _).trans kept.2.once, kept.2.announced, kept.2.reported,
    kept.1.confirmed⟩

def optionsAnswer : OsipMessage Text :=
  { optionsRequest with
    sipMethod := none
    reqUri := none
    statusCode := 200
    reasonPhrase := some "OK".toList }

theorem exchange_agrees_options : ∃ client server,
    osipTransactionInit textLib .nict optionsRequest 0 = some client ∧
      osipTransactionInit textLib .nist optionsRequest 0 = some server ∧
        Exchange.AgreedOn (trace (Exchange.step textLib) ⟨client, server, []⟩
          [.own .client (.outgoing ⟨1, optionsRequest⟩) ⟨0, 0, 0⟩, .deliver .server 0 2 ⟨0, 0, 0⟩,
            .own .server (.outgoing ⟨3, optionsAnswer⟩) ⟨0, 0, 0⟩,
            .deliver .client 1 4 ⟨0, 0, 0⟩]).1 optionsAnswer := by
  refine ⟨_, _, rfl, rfl, ?_⟩
  have agrees := @exchange_agrees _ textLib _ _ .nict .nist (.inr rfl) (.inr rfl) optionsRequest
    optionsRequest 0 0 rfl rfl
    [.own .client (.outgoing ⟨1, optionsRequest⟩) ⟨0, 0, 0⟩, .deliver .server 0 2 ⟨0, 0, 0⟩,
      .own .server (.outgoing ⟨3, optionsAnswer⟩) ⟨0, 0, 0⟩, .deliver .client 1 4 ⟨0, 0, 0⟩]
  exact agrees.2.2.1 .nictStatus2xxReceived ⟨4, optionsAnswer⟩
    (.tail _ (.tail _ (.tail _ (.tail _ (.tail _ (.head _)))))) rfl

end Gb28181.Osip2
