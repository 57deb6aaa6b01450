import Gb28181.Osip2.Runs

namespace Gb28181.Osip2

open Gb28181.Lib Gb28181.Osip

variable {Header : Type}

def State.isFirst : State → Bool
  | .ictPreCalling | .istPreProceeding | .nictPreTrying | .nistPreTrying => true
  | _ => false

def State.isLast : State → Bool
  | .ictTerminated | .istTerminated | .nictTerminated | .nistTerminated => true
  | _ => false

/-- A request that the application did not know. -/
def MessageCallback.isAnnouncement : MessageCallback → Bool
  | .istInviteReceived => true
  | .nistRegisterReceived | .nistByeReceived | .nistOptionsReceived => true
  | .nistInfoReceived | .nistCancelReceived | .nistNotifyReceived => true
  | .nistSubscribeReceived | .nistUnknownRequestReceived => true
  | _ => false

/-- A request that a transaction begins with. -/
def isQuestion (sip : OsipMessage Header) : Prop :=
  evtSetTypeIncomingSipmessage sip = .rcvReqinvite ∨ evtSetTypeIncomingSipmessage sip = .rcvRequest

def isFinal (sip : OsipMessage Header) : Prop :=
  msgIsRequest sip = false ∧ msgIsStatus 1 sip = false

/-- Only such messages are sent, and only this is told. -/
def Effect.Within (sends : OsipMessage Header → Prop)
    (tells : MessageCallback → Option (Message Header) → Prop) : Effect Header → Prop
  | .send (some message) => sends message.sip
  | .callback type message => tells type message
  | _ => True

def isQuiet (type : MessageCallback) (_ : Option (Message Header)) : Prop :=
  type.isAnnouncement = false

/-- An outcome is about a final response, where it is about a message. -/
def isTimeout (type : MessageCallback) (message : Option (Message Header)) : Prop :=
  type.isOutcome → message = none

/-- The messages of the transaction stay, and its state does, unless it ends. -/
structure Rests (tr : Transaction Header) (sends : OsipMessage Header → Prop)
    (tells : MessageCallback → Option (Message Header) → Prop) (result : Result Header) : Prop where
  request : result.1.origRequest = tr.origRequest
  response : result.1.lastResponse = tr.lastResponse
  ack : result.1.ack = tr.ack
  state : result.1.state = tr.state ∨ result.1.state.isLast
  within : ∀ effect ∈ result.2, effect.Within sends tells

def holdsSip (stored : Option (Message Header)) (sip : OsipMessage Header) : Prop :=
  ∃ message, stored = some message ∧ message.sip = sip

inductive ServerStep (tr : Transaction Header) (evt : Event Header) (result : Result Header) :
    Prop where
  | rests (rests : Rests tr (holdsSip tr.lastResponse) isQuiet result)
  | announces (message : Message Header) (arrives : evt = .incoming message)
      (asks : isQuestion message.sip) (first : tr.state.isFirst)
      (begun : result.1.state.isFirst = false) (unsettled : result.1.state.isConcluded = false)
      (request : result.1.origRequest = some message)
      (response : result.1.lastResponse = tr.lastResponse)
      (effects : ∃ type, result.2 = [.callback type (some message)])
  | responds (message : Message Header) (leaves : evt = .outgoing message)
      (answers : msgIsRequest message.sip = false) (unsettled : tr.state.isConcluded = false)
      (begun : result.1.state.isFirst = false)
      (concluded : isFinal message.sip → result.1.state.isConcluded)
      (unconfirmed : result.1.state ≠ .istConfirmed)
      (request : result.1.origRequest = tr.origRequest)
      (response : result.1.lastResponse = some message)
      (within : ∀ effect ∈ result.2, effect.Within (· = message.sip) isQuiet)
  | confirms (message : Message Header) (arrives : evt = .incoming message)
      (acknowledges : evtSetTypeIncomingSipmessage message.sip = .rcvReqack)
      (concluded : tr.state.isConcluded) (confirmed : result.1.state = .istConfirmed)
      (request : result.1.origRequest = tr.origRequest)
      (response : result.1.lastResponse = tr.lastResponse)
      (within : ∀ effect ∈ result.2, effect.Within (fun _ => False) isQuiet)

inductive ClientStep (tr : Transaction Header) (evt : Event Header) (result : Result Header) :
    Prop where
  | rests (rests : Rests tr (fun sip => holdsSip tr.origRequest sip ∨ holdsSip tr.ack sip)
      isTimeout result)
  | begins (message : Message Header) (leaves : evt = .outgoing message)
      (asks : isQuestion message.sip) (first : tr.state.isFirst)
      (begun : result.1.state.isFirst = false)
      (request : result.1.origRequest = some message)
      (response : result.1.lastResponse = tr.lastResponse) (ack : result.1.ack = tr.ack)
      (within : ∀ effect ∈ result.2, effect.Within (· = message.sip) isTimeout)
  | waits (message : Message Header) (arrives : evt = .incoming message)
      (unsettled : tr.state.isConcluded = false) (waiting : result.1.state.isConcluded = false)
      (begun : result.1.state.isFirst = false)
      (request : result.1.origRequest = tr.origRequest)
      (response : result.1.lastResponse = some message) (ack : result.1.ack = tr.ack)
      (within : ∀ effect ∈ result.2, effect.Within (fun _ => False) isTimeout)
  | concludes (message : Message Header) (arrives : evt = .incoming message)
      (final : isFinal message.sip) (unsettled : tr.state.isConcluded = false)
      (concluded : result.1.state.isConcluded)
      (request : result.1.origRequest = tr.origRequest)
      (response : result.1.lastResponse = some message)
      (ack : ∀ sip, holdsSip result.1.ack sip →
        holdsSip tr.ack sip ∨ evtSetTypeIncomingSipmessage sip = .rcvReqack)
      (within : ∀ effect ∈ result.2,
        effect.Within (evtSetTypeIncomingSipmessage · = .rcvReqack)
          (fun type told => type.isOutcome → told = some message))

variable {tr : Transaction Header} {evt : Event Header} {sip message : Message Header}
  {answers : Answers} {result : Result Header} {sends sends' : OsipMessage Header → Prop}
  {tells tells' : MessageCallback → Option (Message Header) → Prop} {state last : State}
  {lib : StackLib Header} {old response : Option (Message Header)} {timer : TimerName}
  {effects more : List (Effect Header)}

def EventType.isRcv : EventType → Bool
  | .rcvReqinvite | .rcvReqack | .rcvRequest => true
  | .rcvStatus1xx | .rcvStatus2xx | .rcvStatus3456xx => true
  | _ => false

def EventType.isSnd : EventType → Bool
  | .sndReqinvite | .sndReqack | .sndRequest => true
  | .sndStatus1xx | .sndStatus2xx | .sndStatus3456xx => true
  | _ => false

theorem isRcv_incoming (sip : OsipMessage Header) :
    (evtSetTypeIncomingSipmessage sip).isRcv = true ∧
      (evtSetTypeIncomingSipmessage sip).isSnd = false := by
  unfold evtSetTypeIncomingSipmessage
  split_ifs <;> exact ⟨rfl, rfl⟩

theorem isSnd_outgoing (sip : OsipMessage Header) :
    (evtSetTypeOutgoingSipmessage sip).isSnd = true ∧
      (evtSetTypeOutgoingSipmessage sip).isRcv = false := by
  unfold evtSetTypeOutgoingSipmessage
  split_ifs <;> exact ⟨rfl, rfl⟩

theorem eq_incoming (received : evt.type.isRcv) (carries : evt.sip = some sip) :
    evt = .incoming sip ∧ evtSetTypeIncomingSipmessage sip.sip = evt.type := by
  cases evt with
  | incoming message => exact Option.some.inj carries ▸ ⟨rfl, rfl⟩
  | outgoing message => exact absurd received (Bool.eq_false_iff.mp (isSnd_outgoing message.sip).2)
  | timeout timer => cases carries
  | killTransaction => cases carries

theorem eq_outgoing (sent : evt.type.isSnd) (carries : evt.sip = some sip) :
    evt = .outgoing sip ∧ evtSetTypeOutgoingSipmessage sip.sip = evt.type := by
  cases evt with
  | incoming message => exact absurd sent (Bool.eq_false_iff.mp (isRcv_incoming message.sip).2)
  | outgoing message => exact Option.some.inj carries ▸ ⟨rfl, rfl⟩
  | timeout timer => cases carries
  | killTransaction => cases carries

theorem outgoing_answers {sip : OsipMessage Header}
    (status : evtSetTypeOutgoingSipmessage sip = .sndStatus1xx ∨
      evtSetTypeOutgoingSipmessage sip = .sndStatus2xx ∨
      evtSetTypeOutgoingSipmessage sip = .sndStatus3456xx) : msgIsRequest sip = false := by
  rcases Bool.eq_false_or_eq_true (msgIsRequest sip) with asks | answers
  · unfold evtSetTypeOutgoingSipmessage at status
    rw [if_pos asks] at status
    split_ifs at status <;> simp at status
  · exact answers

theorem outgoing_provisional {sip : OsipMessage Header}
    (status : evtSetTypeOutgoingSipmessage sip = .sndStatus1xx) : ¬ isFinal sip := by
  rintro ⟨answers, final⟩
  unfold evtSetTypeOutgoingSipmessage at status
  rw [if_neg (Bool.eq_false_iff.mp answers), if_neg (Bool.eq_false_iff.mp final)] at status
  split_ifs at status

theorem incoming_final {sip : OsipMessage Header}
    (status : evtSetTypeIncomingSipmessage sip = .rcvStatus2xx ∨
      evtSetTypeIncomingSipmessage sip = .rcvStatus3456xx) : isFinal sip := by
  unfold evtSetTypeIncomingSipmessage at status
  split_ifs at status with asks invite ack provisional
  · simp at status
  · simp at status
  · simp at status
  · simp at status
  · exact ⟨Bool.eq_false_iff.mpr asks, Bool.eq_false_iff.mpr provisional⟩
  · exact ⟨Bool.eq_false_iff.mpr asks, Bool.eq_false_iff.mpr provisional⟩

/-- What may be asked, acknowledged or answered is known from the content alone. -/
theorem not_isFinal {sip : OsipMessage Header}
    (other : isQuestion sip ∨ evtSetTypeIncomingSipmessage sip = .rcvReqack) : ¬ isFinal sip := by
  rintro ⟨answers, final⟩
  unfold isQuestion evtSetTypeIncomingSipmessage at other
  rw [if_neg (Bool.eq_false_iff.mp answers), if_neg (Bool.eq_false_iff.mp final)] at other
  split_ifs at other <;> simp at other

theorem isQuestion_outgoing {sip : OsipMessage Header}
    (asks : evtSetTypeOutgoingSipmessage sip = .sndReqinvite ∨
      evtSetTypeOutgoingSipmessage sip = .sndRequest) : isQuestion sip := by
  unfold evtSetTypeOutgoingSipmessage at asks
  unfold isQuestion evtSetTypeIncomingSipmessage
  split_ifs at asks ⊢ <;> simp at asks ⊢

theorem isRequest_isQuestion {sip : OsipMessage Header} (answers : msgIsRequest sip = false) :
    ¬ isQuestion sip ∧ evtSetTypeIncomingSipmessage sip ≠ .rcvReqack := by
  unfold isQuestion evtSetTypeIncomingSipmessage
  rw [if_neg (Bool.eq_false_iff.mp answers)]
  split_ifs <;> simp

theorem isConcluded_of_isLast (ends : state.isLast) :
    state.isConcluded ∧ state.isFirst = false ∧ state ≠ .istConfirmed := by
  cases state <;> cases ends <;> exact ⟨rfl, rfl, State.noConfusion⟩

theorem within_freeOld : ∀ effect ∈ freeOld old, effect.Within sends tells := by
  cases old with
  | none => exact fun effect member => absurd member List.not_mem_nil
  | some message =>
    intro effect member
    rw [List.mem_singleton.mp member]
    trivial

theorem within_nil : ∀ effect ∈ ([] : List (Effect Header)), effect.Within sends tells :=
  fun _ member => absurd member List.not_mem_nil

theorem within_cons {effect : Effect Header} (here : effect.Within sends tells)
    (others : ∀ effect ∈ effects, effect.Within sends tells) :
    ∀ other ∈ effect :: effects, other.Within sends tells :=
  List.forall_mem_cons.mpr ⟨here, others⟩

theorem within_append (front : ∀ effect ∈ effects, effect.Within sends tells)
    (others : ∀ effect ∈ more, effect.Within sends tells) :
    ∀ effect ∈ effects ++ more, effect.Within sends tells :=
  List.forall_mem_append.mpr ⟨front, others⟩

theorem within_send (allowed : ∀ sip, holdsSip response sip → sends sip) :
    (Effect.send response).Within sends tells := by
  cases response with
  | none => trivial
  | some message => exact allowed message.sip ⟨message, rfl, rfl⟩

theorem within_sndXxx (allowed : ∀ sip, holdsSip response sip → sends sip) :
    ∀ effect ∈ (osipTransactionSndXxx response answers).2, effect.Within sends tells := by
  unfold osipTransactionSndXxx
  split
  · exact within_nil
  · exact within_cons (within_send allowed) within_nil

theorem holdsSip_some {sip : OsipMessage Header} (holds : holdsSip (some message) sip) :
    sip = message.sip := by
  obtain ⟨_, same, content⟩ := holds
  rw [← content, Option.some.inj same]

theorem Rests.after (rests : Rests tr sends tells result)
    (front : ∀ effect ∈ effects, effect.Within sends tells) :
    Rests tr sends tells (Result.after effects result) :=
  ⟨rests.request, rests.response, rests.ack, rests.state, within_append front rests.within⟩

theorem rests_transportError (ends : last.isLast) (type : FsmType) (error : Int) :
    Rests tr sends tells (handleTransportError type last tr error) :=
  ⟨rfl, rfl, rfl, .inr ends, within_cons trivial (within_cons trivial within_nil)⟩

theorem rests_endingTimeout {type : FsmType} {report : List (Effect Header)}
    (ends : last.isLast) (reports : ∀ effect ∈ report, effect.Within sends tells) :
    Rests tr sends tells (endingTimeout type last timer report tr answers) :=
  ⟨rfl, rfl, rfl, .inr ends, within_append reports (within_cons trivial within_nil)⟩

theorem rests_useless : Rests tr sends tells (tr, freeOld evt.sip) :=
  ⟨rfl, rfl, rfl, .inl rfl, within_freeOld⟩

theorem quiet_istSentAgain (sip : OsipMessage Header) :
    (istSentAgain sip).isAnnouncement = false := by
  unfold istSentAgain
  split_ifs <;> rfl

theorem quiet_istStatusSent (sip : OsipMessage Header) :
    (istStatusSent sip).isAnnouncement = false := by
  unfold istStatusSent
  split_ifs <;> rfl

theorem quiet_nistSentAgain (sip : OsipMessage Header) :
    (nistSentAgain sip).isAnnouncement = false := by
  unfold nistSentAgain
  split_ifs <;> rfl

theorem quiet_nistStatusSent (sip : OsipMessage Header) :
    (nistStatusSent sip).isAnnouncement = false := by
  unfold nistStatusSent
  split_ifs <;> rfl

/-- A request that comes again leaves the server as it was, or ends it. -/
theorem rests_rcvRequestAgain {type : FsmType} {receivedAgain : MessageCallback}
    {sentAgain : OsipMessage Header → MessageCallback} (ends : last.isLast)
    (quiet : receivedAgain.isAnnouncement = false)
    (quietAgain : ∀ sip, (sentAgain sip).isAnnouncement = false) :
    Rests tr (holdsSip tr.lastResponse) isQuiet
      (rcvRequestAgain (handleTransportError type last) receivedAgain sentAgain tr sip answers) := by
  have hears : ∀ effect ∈ [Effect.free sip, .callback receivedAgain tr.origRequest],
      effect.Within (holdsSip tr.lastResponse) isQuiet :=
    within_cons trivial (within_cons quiet within_nil)
  unfold rcvRequestAgain
  dsimp only
  split
  · exact ⟨rfl, rfl, rfl, .inl rfl, hears⟩
  · have sending := @within_sndXxx _ answers (holdsSip tr.lastResponse) isQuiet tr.lastResponse
      (fun _ holds => holds)
    split
    · exact (rests_transportError ends type _).after (within_append hears sending)
    · exact ⟨rfl, rfl, rfl, .inl rfl, within_append (within_append hears sending)
        (within_cons (quietAgain _) within_nil)⟩

/-- What becomes of a server that has answered. -/
structure Answered (sip : OsipMessage Header) (now : Transaction Header)
    (result : Result Header) : Prop where
  request : result.1.origRequest = now.origRequest
  response : result.1.lastResponse = now.lastResponse
  begun : result.1.state.isFirst = false
  concluded : isFinal sip → result.1.state.isConcluded
  unconfirmed : result.1.state ≠ .istConfirmed
  within : ∀ effect ∈ result.2, effect.Within (· = sip) isQuiet

theorem responds_sndResponse {type : FsmType} {sent : OsipMessage Header → MessageCallback}
    {finish : Transaction Header → Answers → Result Header} (leaves : evt = .outgoing sip)
    (isAnswer : msgIsRequest sip.sip = false) (unsettled : tr.state.isConcluded = false)
    (ends : last.isLast) (quiet : ∀ sip, (sent sip).isAnnouncement = false)
    (finishes : ∀ now : Transaction Header, now.state = tr.state →
      Answered sip.sip now (finish now answers)) :
    ServerStep tr evt (sndResponse (handleTransportError type last) sent finish tr sip answers) := by
  have sends : ∀ effect ∈ freeOld tr.lastResponse ++ (osipTransactionSndXxx (some sip) answers).2,
      effect.Within (· = sip.sip) isQuiet :=
    within_append within_freeOld (within_sndXxx (fun _ holds => holdsSip_some holds))
  obtain ⟨concluded, begun, unconfirmed⟩ := isConcluded_of_isLast ends
  unfold sndResponse
  dsimp only
  split
  · exact .responds sip leaves isAnswer unsettled begun (fun _ => concluded) unconfirmed rfl rfl
      (within_append sends (within_cons trivial (within_cons trivial within_nil)))
  · have answered := finishes { tr with lastResponse := some sip } rfl
    exact .responds sip leaves isAnswer unsettled answered.begun answered.concluded
      answered.unconfirmed answered.request answered.response
      (within_append (within_append sends (within_cons (quiet sip.sip) within_nil))
        answered.within)

def serverSpec (tr : Transaction Header) (evt : Event Header) (_ : Answers)
    (result : Result Header) : Prop :=
  ServerStep tr evt result

theorem announces_istRcvInvite (first : tr.state = .istPreProceeding)
    (arrives : evt = .incoming sip) (asks : isQuestion sip.sip) :
    ServerStep tr evt (istRcvInvite tr sip answers) := by
  unfold istRcvInvite
  rw [if_pos first]
  exact .announces sip arrives asks (by rw [first]; rfl) rfl rfl rfl rfl ⟨_, rfl⟩

theorem rests_istRcvInvite (later : tr.state ≠ .istPreProceeding) :
    ServerStep tr evt (istRcvInvite tr sip answers) := by
  unfold istRcvInvite
  rw [if_neg later]
  exact .rests (rests_rcvRequestAgain rfl rfl quiet_istSentAgain)

theorem rests_osipIstTimeoutGEvent : ServerStep tr evt (osipIstTimeoutGEvent tr answers) := by
  have sending := @within_sndXxx _ answers (holdsSip tr.lastResponse) isQuiet tr.lastResponse
    (fun _ holds => holds)
  unfold osipIstTimeoutGEvent
  dsimp only [Transaction.setTimer]
  split
  · refine .rests (Rests.after ?_ sending)
    exact ⟨rfl, rfl, rfl, .inr rfl, within_cons trivial (within_cons trivial within_nil)⟩
  · exact .rests ⟨rfl, rfl, rfl, .inl rfl, within_append sending (within_cons rfl within_nil)⟩

theorem istFsm_serves : ∀ transition ∈ (istFsm : List (Transition Header)),
    transition.Meets serverSpec .ist := by
  unfold istFsm
  simp only [List.forall_mem_cons, Transition.Meets, serverSpec]
  refine ⟨?invite, ?inviteAgain, ?inviteLate, ?timeoutG, ?timeoutH, ?ringing, ?answer, ?refusal,
    ?ack, ?ackAgain, ?timeoutI, ?rest⟩
  case invite =>
    intro tr evt sip answers _ here type carries
    obtain ⟨arrives, asks⟩ := eq_incoming (by rw [type]; rfl) carries
    exact announces_istRcvInvite here arrives (.inl (asks.trans type))
  case inviteAgain | inviteLate =>
    intro tr evt sip answers _ here _ _
    exact rests_istRcvInvite (by rw [here]; exact State.noConfusion)
  case timeoutG => exact fun _ _ _ _ => rests_osipIstTimeoutGEvent
  case timeoutH | timeoutI =>
    exact fun _ _ _ _ => .rests (rests_endingTimeout rfl within_nil)
  case ringing =>
    intro tr evt sip answers _ here type carries
    obtain ⟨leaves, status⟩ := eq_outgoing (by rw [type]; rfl) carries
    rw [type] at status
    refine responds_sndResponse leaves (outgoing_answers (.inl status)) (by rw [here]; rfl) rfl
      (fun _ => rfl) (fun now state => ?_)
    rw [here] at state
    exact ⟨rfl, rfl, by rw [state]; rfl, fun final => absurd final (outgoing_provisional status),
      by rw [state]; exact State.noConfusion, within_nil⟩
  case answer =>
    intro tr evt sip answers _ here type carries
    obtain ⟨leaves, status⟩ := eq_outgoing (by rw [type]; rfl) carries
    rw [type] at status
    refine responds_sndResponse leaves (outgoing_answers (.inr (.inl status))) (by rw [here]; rfl)
      rfl (fun _ => rfl) (fun now _ => ?_)
    exact ⟨rfl, rfl, rfl, fun _ => rfl, State.noConfusion, within_cons trivial within_nil⟩
  case refusal =>
    intro tr evt sip answers _ here type carries
    obtain ⟨leaves, status⟩ := eq_outgoing (by rw [type]; rfl) carries
    rw [type] at status
    refine responds_sndResponse leaves (outgoing_answers (.inr (.inr status))) (by rw [here]; rfl)
      rfl quiet_istStatusSent (fun now _ => ?_)
    refine ⟨?_, ?_, rfl, fun _ => rfl, State.noConfusion, within_nil⟩
    · split <;> rfl
    · split <;> rfl
  case ack | ackAgain =>
    intro tr evt sip answers _ here type carries
    obtain ⟨arrives, acknowledges⟩ := eq_incoming (by rw [type]; rfl) carries
    refine .confirms sip arrives (acknowledges.trans type) (by rw [here]; rfl) rfl rfl rfl ?_
    refine within_append within_freeOld (within_cons ?_ within_nil)
    rw [here]
    rfl
  case rest => exact fun transition member => absurd member List.not_mem_nil

theorem nistFsm_serves : ∀ transition ∈ (nistFsm : List (Transition Header)),
    transition.Meets serverSpec .nist := by
  unfold nistFsm
  simp only [List.forall_mem_cons, Transition.Meets, serverSpec]
  refine ⟨?request, ?trying, ?answer, ?refusal, ?tryingAgain, ?answerLater, ?refusalLater,
    ?requestAgain, ?timeoutJ, ?requestLate, ?rest⟩
  case request =>
    intro tr evt sip answers _ here type carries
    obtain ⟨arrives, asks⟩ := eq_incoming (by rw [type]; rfl) carries
    unfold nistRcvRequest
    rw [if_pos here]
    exact .announces sip arrives (.inr (asks.trans type)) (by rw [here]; rfl) rfl rfl rfl rfl
      ⟨_, rfl⟩
  case requestAgain | requestLate =>
    intro tr evt sip answers _ here _ _
    unfold nistRcvRequest
    rw [if_neg (by rw [here]; exact State.noConfusion)]
    exact .rests (rests_rcvRequestAgain rfl rfl quiet_nistSentAgain)
  case trying | tryingAgain =>
    intro tr evt sip answers _ here type carries
    obtain ⟨leaves, status⟩ := eq_outgoing (by rw [type]; rfl) carries
    rw [type] at status
    refine responds_sndResponse leaves (outgoing_answers (.inl status)) (by rw [here]; rfl) rfl
      (fun _ => rfl) (fun now state => ?_)
    exact ⟨rfl, rfl, rfl, fun final => absurd final (outgoing_provisional status),
      State.noConfusion, within_nil⟩
  case answer | answerLater =>
    intro tr evt sip answers _ here type carries
    obtain ⟨leaves, status⟩ := eq_outgoing (by rw [type]; rfl) carries
    rw [type] at status
    refine responds_sndResponse leaves (outgoing_answers (.inr (.inl status))) (by rw [here]; rfl)
      rfl quiet_nistStatusSent (fun now _ => ?_)
    refine ⟨?_, ?_, rfl, fun _ => rfl, State.noConfusion, within_nil⟩
    · split <;> rfl
    · split <;> rfl
  case refusal | refusalLater =>
    intro tr evt sip answers _ here type carries
    obtain ⟨leaves, status⟩ := eq_outgoing (by rw [type]; rfl) carries
    rw [type] at status
    refine responds_sndResponse leaves (outgoing_answers (.inr (.inr status))) (by rw [here]; rfl)
      rfl quiet_nistStatusSent (fun now _ => ?_)
    refine ⟨?_, ?_, rfl, fun _ => rfl, State.noConfusion, within_nil⟩
    · split <;> rfl
    · split <;> rfl
  case timeoutJ => exact fun _ _ _ _ => .rests (rests_endingTimeout rfl within_nil)
  case rest => exact fun transition member => absurd member List.not_mem_nil

theorem stopReliable_cases {goal : Result Header → Prop} {withoutProtocol : Int}
    {fail : Transaction Header → Int → Result Header}
    {proceed : Transaction Header → Result Header} (fails : ∀ error, goal (fail tr error))
    (proceeds : goal (proceed tr)) (stopped : goal (proceed (tr.stopTimer timer))) :
    goal (stopReliable lib fail withoutProtocol timer proceed tr) := by
  unfold stopReliable
  split
  · exact fails _
  · split
    · exact fails _
    · split
      · exact proceeds
      · exact stopped

theorem ictCreateAck_acknowledges {sip ack : OsipMessage Header}
    (created : ictCreateAck lib tr sip = some ack) :
    evtSetTypeIncomingSipmessage ack = .rcvReqack := by
  simp only [ictCreateAck, bind, Option.bind_eq_some_iff, pure, Option.some.injEq] at created
  obtain ⟨_, _, _, _, _, _, _, _, _, _, _, _, _, _, _, _, _, _, same⟩ := created
  subst same
  simp [evtSetTypeIncomingSipmessage, msgIsMethod, msgIsRequest, OsipMessage.init, cString]

def clientSpec (tr : Transaction Header) (evt : Event Header) (_ : Answers)
    (result : Result Header) : Prop :=
  ClientStep tr evt result

theorem begins_ictSndInvite (first : tr.state = .ictPreCalling) (leaves : evt = .outgoing sip)
    (asks : isQuestion sip.sip) : ClientStep tr evt (ictSndInvite lib tr sip answers) := by
  have sends : ∀ effect ∈ [Effect.send (some sip)], effect.Within (· = sip.sip) isTimeout :=
    within_cons rfl within_nil
  have start (now : Transaction Header) (effects : List (Effect Header)) (state : State)
      (begun : state.isFirst = false) (request : now.origRequest = some sip)
      (response : now.lastResponse = tr.lastResponse) (ack : now.ack = tr.ack)
      (within : ∀ effect ∈ effects, effect.Within (· = sip.sip) isTimeout) :
      ClientStep tr evt (Result.after [.send (some sip)]
        (osipTransactionSetState now state, effects)) :=
    .begins sip leaves asks (by rw [first]; rfl) begun request response ack
      (within_append sends within)
  have fails (error : Int) : ClientStep tr evt (Result.after [.send (some sip)]
      (ictHandleTransportError { tr with origRequest := some sip } error)) :=
    start _ _ .ictTerminated rfl rfl rfl rfl (within_cons trivial (within_cons trivial within_nil))
  have quiet (request : Option (Message Header)) :
      ∀ effect ∈ [Effect.callback .ictInviteSent request],
        effect.Within (· = sip.sip) isTimeout :=
    within_cons (fun told => Bool.noConfusion told) within_nil
  unfold ictSndInvite
  dsimp only
  split
  · exact fails _
  · split
    · refine @stopReliable_cases _ _ _ _ (fun result => ClientStep tr evt
        (Result.after [.send (some sip)] result)) _ _ _ fails ?_ ?_
      · exact start _ _ .ictCalling rfl rfl rfl rfl (quiet _)
      · exact start _ _ .ictCalling rfl rfl rfl rfl (quiet _)
    · exact start _ _ .ictCalling rfl rfl rfl rfl (quiet _)

theorem rests_osipIctTimeoutAEvent : ClientStep tr evt (osipIctTimeoutAEvent lib tr answers) := by
  have sends : (Effect.send tr.origRequest).Within
      (fun sip => holdsSip tr.origRequest sip ∨ holdsSip tr.ack sip) isTimeout :=
    within_send (fun _ holds => .inl holds)
  have quiet (request : Option (Message Header)) :
      (Effect.callback .ictInviteSentAgain request).Within
        (fun sip => holdsSip tr.origRequest sip ∨ holdsSip tr.ack sip) isTimeout :=
    fun told => Bool.noConfusion told
  unfold osipIctTimeoutAEvent
  refine .rests (Rests.after ?_ (within_cons sends within_nil))
  split
  · exact ⟨rfl, rfl, rfl, .inr rfl, within_cons trivial (within_cons trivial within_nil)⟩
  · split
    · refine stopReliable_cases (fun error => ?_) ?_ ?_
      · exact ⟨rfl, rfl, rfl, .inr rfl, within_cons trivial (within_cons trivial within_nil)⟩
      · exact ⟨rfl, rfl, rfl, .inl rfl, within_cons (quiet _) within_nil⟩
      · exact ⟨rfl, rfl, rfl, .inl rfl, within_cons (quiet _) within_nil⟩
    · exact ⟨rfl, rfl, rfl, .inl rfl, within_nil⟩

theorem waits_rcv1xx {received : MessageCallback} {next : State} (arrives : evt = .incoming sip)
    (unsettled : tr.state.isConcluded = false) (waiting : next.isConcluded = false)
    (begun : next.isFirst = false) (quiet : received.isOutcome = false) :
    ClientStep tr evt (rcv1xx received next tr sip answers) :=
  .waits sip arrives unsettled waiting begun rfl rfl rfl (within_append within_freeOld
    (within_cons (fun told => absurd told (Bool.eq_false_iff.mp quiet)) within_nil))

theorem concludes_ictRcv3456xx (arrives : evt = .incoming sip) (final : isFinal sip.sip)
    (unsettled : tr.state.isConcluded = false) :
    ClientStep tr evt (ictRcv3456xx lib tr sip answers) := by
  have changes : tr.state ≠ .ictCompleted := by
    intro here
    rw [here] at unsettled
    cases unsettled
  unfold ictRcv3456xx
  dsimp only
  rw [if_pos changes]
  split
  · refine .concludes sip arrives final unsettled rfl rfl rfl (fun _ holds => ?_)
      (within_append within_freeOld (within_cons trivial within_nil))
    obtain ⟨_, none_some, _⟩ := holds
    cases none_some
  · rename_i ack created
    have acknowledges := ictCreateAck_acknowledges created
    have sends : ∀ effect ∈ freeOld tr.lastResponse ++
        [.malloc ⟨answers.address, ack⟩, .send (some ⟨answers.address, ack⟩)],
        effect.Within (evtSetTypeIncomingSipmessage · = .rcvReqack)
          (fun type told => type.isOutcome → told = some sip) :=
      within_append within_freeOld (within_cons trivial (within_cons acknowledges within_nil))
    have stored (text : OsipMessage Header)
        (holds : holdsSip (some (⟨answers.address, ack⟩ : Message Header)) text) :
        holdsSip tr.ack text ∨ evtSetTypeIncomingSipmessage text = .rcvReqack :=
      .inr ((holdsSip_some holds).symm ▸ acknowledges)
    split
    · exact .concludes sip arrives final unsettled rfl rfl rfl stored
        (within_append sends (within_cons trivial (within_cons trivial within_nil)))
    · exact .concludes sip arrives final unsettled rfl rfl rfl stored
        (within_append sends
          (within_cons (fun _ => rfl) (within_cons (fun _ => rfl) within_nil)))

theorem rests_ictRetransmitAck (here : tr.state = .ictCompleted) :
    ClientStep tr evt (ictRetransmitAck tr sip answers) := by
  have hears : ∀ effect ∈ [Effect.callback .ictStatus3456xxReceivedAgain (some sip), .free sip,
      .send tr.ack],
      effect.Within (fun sip => holdsSip tr.origRequest sip ∨ holdsSip tr.ack sip) isTimeout :=
    within_cons (fun told => Bool.noConfusion told)
      (within_cons trivial (within_cons (within_send (fun _ holds => .inr holds)) within_nil))
  unfold ictRetransmitAck
  refine .rests (Rests.after ?_ hears)
  split
  · exact ⟨rfl, rfl, rfl, .inl here.symm,
      within_cons (fun told => Bool.noConfusion told) within_nil⟩
  · exact rests_transportError rfl .ict _

theorem ictFsm_asks : ∀ transition ∈ ictFsm lib, transition.Meets clientSpec .ict := by
  unfold ictFsm
  simp only [List.forall_mem_cons, Transition.Meets, clientSpec]
  refine ⟨?invite, ?timeoutA, ?timeoutB, ?ringing, ?answered, ?refused, ?ringingAgain,
    ?answeredLater, ?refusedLater, ?refusedAgain, ?timeoutD, ?rest⟩
  case invite =>
    intro tr evt sip answers _ here type carries
    obtain ⟨leaves, asks⟩ := eq_outgoing (by rw [type]; rfl) carries
    exact begins_ictSndInvite here leaves (isQuestion_outgoing (.inl (asks.trans type)))
  case timeoutA => exact fun _ _ _ _ => rests_osipIctTimeoutAEvent
  case timeoutB =>
    exact fun _ _ _ _ => .rests (rests_endingTimeout rfl (within_cons (fun _ => rfl) within_nil))
  case timeoutD => exact fun _ _ _ _ => .rests (rests_endingTimeout rfl within_nil)
  case ringing | ringingAgain =>
    intro tr evt sip answers _ here type carries
    obtain ⟨arrives, _⟩ := eq_incoming (by rw [type]; rfl) carries
    exact waits_rcv1xx arrives (by rw [here]; rfl) rfl rfl rfl
  case answered | answeredLater =>
    intro tr evt sip answers _ here type carries
    obtain ⟨arrives, status⟩ := eq_incoming (by rw [type]; rfl) carries
    exact .concludes sip arrives (incoming_final (.inl (status.trans type))) (by rw [here]; rfl)
      rfl rfl rfl (fun _ holds => .inl holds) (within_append within_freeOld
        (within_cons (fun _ => rfl) (within_cons trivial within_nil)))
  case refused | refusedLater =>
    intro tr evt sip answers _ here type carries
    obtain ⟨arrives, status⟩ := eq_incoming (by rw [type]; rfl) carries
    exact concludes_ictRcv3456xx arrives (incoming_final (.inr (status.trans type)))
      (by rw [here]; rfl)
  case refusedAgain => exact fun _ _ _ _ _ here _ _ => rests_ictRetransmitAck here
  case rest => exact fun transition member => absurd member List.not_mem_nil

theorem begins_nictSndRequest (first : tr.state = .nictPreTrying) (leaves : evt = .outgoing sip)
    (asks : isQuestion sip.sip) : ClientStep tr evt (nictSndRequest tr sip answers) := by
  have sends : ∀ effect ∈ [Effect.send (some sip)], effect.Within (· = sip.sip) isTimeout :=
    within_cons rfl within_nil
  have quiet (request : Option (Message Header)) :
      (Effect.callback (nictRequestSent sip.sip) request).Within (· = sip.sip) isTimeout :=
    fun told => absurd told (Bool.eq_false_iff.mp (isOutcome_nictRequestSent sip.sip))
  unfold nictSndRequest
  dsimp only
  split
  · refine .begins sip leaves asks (by rw [first]; rfl) rfl ?_ ?_ ?_
      (within_append sends (within_cons (quiet _) within_nil))
    · dsimp only [osipTransactionSetState, Result.after]
      split <;> rfl
    · dsimp only [osipTransactionSetState, Result.after]
      split <;> rfl
    · dsimp only [osipTransactionSetState, Result.after]
      split <;> rfl
  · exact .begins sip leaves asks (by rw [first]; rfl) rfl rfl rfl rfl
      (within_append sends (within_cons trivial (within_cons trivial within_nil)))

theorem rests_osipNictTimeoutEEvent : ClientStep tr evt (osipNictTimeoutEEvent lib tr answers) := by
  have sends : (Effect.send tr.origRequest).Within
      (fun sip => holdsSip tr.origRequest sip ∨ holdsSip tr.ack sip) isTimeout :=
    within_send (fun _ holds => .inl holds)
  have quiet (request : Option (Message Header)) :
      (Effect.callback .nictRequestSentAgain request).Within
        (fun sip => holdsSip tr.origRequest sip ∨ holdsSip tr.ack sip) isTimeout :=
    fun told => Bool.noConfusion told
  unfold osipNictTimeoutEEvent
  refine .rests (Rests.after ?_ (within_cons sends within_nil))
  split
  · exact ⟨rfl, rfl, rfl, .inr rfl, within_cons trivial (within_cons trivial within_nil)⟩
  · split
    · refine stopReliable_cases (fun error => ?_) ?_ ?_
      · exact ⟨rfl, rfl, rfl, .inr rfl, within_cons trivial (within_cons trivial within_nil)⟩
      · exact ⟨rfl, rfl, rfl, .inl rfl, within_cons (quiet _) within_nil⟩
      · exact ⟨rfl, rfl, rfl, .inl rfl, within_cons (quiet _) within_nil⟩
    · exact ⟨rfl, rfl, rfl, .inl rfl, within_nil⟩

theorem concludes_nictRcv23456xx (arrives : evt = .incoming sip) (final : isFinal sip.sip)
    (unsettled : tr.state.isConcluded = false) :
    ClientStep tr evt (nictRcv23456xx tr sip answers) := by
  unfold nictRcv23456xx
  refine .concludes sip arrives final unsettled rfl ?_ ?_ (fun _ holds => .inl ?_)
    (within_append within_freeOld (within_cons (fun _ => rfl) within_nil))
  · dsimp only [osipTransactionSetState]
    split <;> rfl
  · dsimp only [osipTransactionSetState]
    split <;> rfl
  · dsimp only [osipTransactionSetState] at holds
    split at holds <;> exact holds

theorem nictFsm_asks : ∀ transition ∈ nictFsm lib, transition.Meets clientSpec .nict := by
  unfold nictFsm
  simp only [List.forall_mem_cons, Transition.Meets, clientSpec]
  refine ⟨?send, ?timeoutF, ?timeoutE, ?trying, ?answered, ?refused, ?lateF, ?lateE,
    ?tryingAgain, ?answeredLater, ?refusedLater, ?timeoutK, ?rest⟩
  case send =>
    intro tr evt sip answers _ here type carries
    obtain ⟨leaves, asks⟩ := eq_outgoing (by rw [type]; rfl) carries
    exact begins_nictSndRequest here leaves (isQuestion_outgoing (.inr (asks.trans type)))
  case timeoutF | lateF =>
    exact fun _ _ _ _ => .rests (rests_endingTimeout rfl (within_cons (fun _ => rfl) within_nil))
  case timeoutE | lateE => exact fun _ _ _ _ => rests_osipNictTimeoutEEvent
  case timeoutK => exact fun _ _ _ _ => .rests (rests_endingTimeout rfl within_nil)
  case trying | tryingAgain =>
    intro tr evt sip answers _ here type carries
    obtain ⟨arrives, _⟩ := eq_incoming (by rw [type]; rfl) carries
    exact waits_rcv1xx arrives (by rw [here]; rfl) rfl rfl rfl
  case answered | answeredLater =>
    intro tr evt sip answers _ here type carries
    obtain ⟨arrives, status⟩ := eq_incoming (by rw [type]; rfl) carries
    exact concludes_nictRcv23456xx arrives (incoming_final (.inl (status.trans type)))
      (by rw [here]; rfl)
  case refused | refusedLater =>
    intro tr evt sip answers _ here type carries
    obtain ⟨arrives, status⟩ := eq_incoming (by rw [type]; rfl) carries
    exact concludes_nictRcv23456xx arrives (incoming_final (.inr (status.trans type)))
      (by rw [here]; rfl)
  case rest => exact fun transition member => absurd member List.not_mem_nil

theorem takeTurn_serverStep (serves : tr.ctxType = .ist ∨ tr.ctxType = .nist)
    (turn : Turn Header) : ServerStep tr turn.1 (takeTurn lib tr turn) := by
  refine @execute_meets _ lib tr turn.1 turn.2 serverSpec ?_ (.rests rests_useless)
  rcases serves with ist | nist
  · rw [ist]
    exact istFsm_serves
  · rw [nist]
    exact nistFsm_serves

theorem takeTurn_clientStep (asks : tr.ctxType = .ict ∨ tr.ctxType = .nict)
    (turn : Turn Header) : ClientStep tr turn.1 (takeTurn lib tr turn) := by
  refine @execute_meets _ lib tr turn.1 turn.2 clientSpec ?_ (.rests rests_useless)
  rcases asks with ict | nict
  · rw [ict]
    exact ictFsm_asks
  · rw [nict]
    exact nictFsm_asks

end Gb28181.Osip2
