import Gb28181.Osip.Clone
import Mathlib.Logic.Function.Basic

/-! `osip_transaction.c` with `ict_fsm.c`, `ist_fsm.c`, `nict_fsm.c` and `nist_fsm.c`: a
transaction of the SIP stack and its state machine. What is passed to `cb_send_message` goes
without the address and the socket, and a timer's length is not bounded. -/

namespace Gb28181.Osip2

open Gb28181.Lib Gb28181.Osip

/-- What the parser library knows of a header besides printing it: the protocol of a Via and
the number of a Call-ID; and it sets the method of a CSeq. -/
structure StackLib (Header : Type) extends HeaderLib Header where
  protocol : Header → Option Text
  number : Header → Option Text
  setMethod : Text → Header → Header

structure Message (Header : Type) where
  address : Nat
  sip : OsipMessage Header

/-- `osip_fsm_type_t`. -/
inductive FsmType where
  | ict | ist | nict | nist
  deriving DecidableEq

/-- `state_t`. -/
inductive State where
  | ictPreCalling | ictCalling | ictProceeding | ictCompleted | ictTerminated
  | istPreProceeding | istProceeding | istCompleted | istConfirmed | istTerminated
  | nictPreTrying | nictTrying | nictProceeding | nictCompleted | nictTerminated
  | nistPreTrying | nistTrying | nistProceeding | nistCompleted | nistTerminated
  deriving DecidableEq

inductive TimerName where
  | a | b | d | e | f | k | g | h | i | j
  deriving DecidableEq

/-- `type_t`. -/
inductive EventType where
  | timeout (timer : TimerName)
  | rcvReqinvite | rcvReqack | rcvRequest | rcvStatus1xx | rcvStatus2xx | rcvStatus3456xx
  | sndReqinvite | sndReqack | sndRequest | sndStatus1xx | sndStatus2xx | sndStatus3456xx
  | killTransaction
  deriving DecidableEq

/-- `osip_message_callback_type_t`. -/
inductive MessageCallback where
  | ictInviteSent | ictInviteSentAgain | ictAckSent | ictAckSentAgain
  | ictStatus1xxReceived | ictStatus2xxReceived | ictStatus3xxReceived | ictStatus4xxReceived
  | ictStatus5xxReceived | ictStatus6xxReceived | ictStatus3456xxReceivedAgain
  | istInviteReceived | istInviteReceivedAgain | istAckReceived | istAckReceivedAgain
  | istStatus1xxSent | istStatus2xxSent | istStatus2xxSentAgain | istStatus3xxSent
  | istStatus4xxSent | istStatus5xxSent | istStatus6xxSent | istStatus3456xxSentAgain
  | nictRegisterSent | nictByeSent | nictOptionsSent | nictInfoSent | nictCancelSent
  | nictNotifySent | nictSubscribeSent | nictUnknownRequestSent | nictRequestSentAgain
  | nictStatus1xxReceived | nictStatus2xxReceived | nictStatus3xxReceived
  | nictStatus4xxReceived | nictStatus5xxReceived | nictStatus6xxReceived
  | nistRegisterReceived | nistByeReceived | nistOptionsReceived | nistInfoReceived
  | nistCancelReceived | nistNotifyReceived | nistSubscribeReceived
  | nistUnknownRequestReceived | nistRequestReceivedAgain
  | nistStatus1xxSent | nistStatus2xxSent | nistStatus2xxSentAgain | nistStatus3xxSent
  | nistStatus4xxSent | nistStatus5xxSent | nistStatus6xxSent | nistStatus3456xxSentAgain
  | ictStatusTimeout | nictStatusTimeout
  deriving DecidableEq

/-- A length in milliseconds, and the moment in microseconds at which the timer ends, where it
has been started. -/
structure Timer where
  length : Int
  start : Option Int
  deriving DecidableEq

/-- An event of the queue of a transaction. -/
inductive Event (Header : Type) where
  | incoming (sip : Message Header)
  | outgoing (sip : Message Header)
  | timeout (timer : TimerName)
  | killTransaction

/-- What a transaction keeps of the request that it was created for. -/
structure Origin (Header : Type) where
  topvia : Header
  fromHeader : Header
  toHeader : Header
  callid : Header
  cseq : Header
  ctxType : FsmType

/-- An `osip_transaction_t`, with the timers of its context. -/
structure Transaction (Header : Type) extends Origin Header where
  state : State
  origRequest : Option (Message Header)
  lastResponse : Option (Message Header)
  ack : Option (Message Header)
  timers : TimerName → Timer

/-- What a step does to the world outside: it passes a message to `cb_send_message`, calls back
the application, and takes and gives back the memory of messages. -/
inductive Effect (Header : Type) where
  | send (message : Option (Message Header))
  | callback (type : MessageCallback) (message : Option (Message Header))
  | transportError (type : FsmType) (error : Int)
  | kill (type : FsmType)
  | malloc (message : Message Header)
  | free (message : Message Header)

/-- What the world outside answers during a step: the time in microseconds, the result of
`cb_send_message`, and where a new message is put. -/
structure Answers where
  now : Int
  sent : Int
  address : Nat

abbrev Result (Header : Type) : Type := Transaction Header × List (Effect Header)

variable {Header : Type}

def msgIsRequest (sip : OsipMessage Header) : Bool := sip.statusCode = 0

def msgIsMethod (method : String) (sip : OsipMessage Header) : Bool :=
  msgIsRequest sip && sip.sipMethod.map cString = some method.toList

/-- `MSG_IS_STATUS_1XX` and the macros next to it. -/
def msgIsStatus (hundreds : Int) (sip : OsipMessage Header) : Bool :=
  sip.statusCode ≥ 100 * hundreds && sip.statusCode < 100 * hundreds + 100

def evtSetTypeIncomingSipmessage (sip : OsipMessage Header) : EventType :=
  if msgIsRequest sip then
    if msgIsMethod "INVITE" sip then .rcvReqinvite
    else if msgIsMethod "ACK" sip then .rcvReqack
    else .rcvRequest
  else if msgIsStatus 1 sip then .rcvStatus1xx
  else if msgIsStatus 2 sip then .rcvStatus2xx
  else .rcvStatus3456xx

def evtSetTypeOutgoingSipmessage (sip : OsipMessage Header) : EventType :=
  if msgIsRequest sip then
    if msgIsMethod "INVITE" sip then .sndReqinvite
    else if msgIsMethod "ACK" sip then .sndReqack
    else .sndRequest
  else if msgIsStatus 1 sip then .sndStatus1xx
  else if msgIsStatus 2 sip then .sndStatus2xx
  else .sndStatus3456xx

def Event.type : Event Header → EventType
  | .incoming message => evtSetTypeIncomingSipmessage message.sip
  | .outgoing message => evtSetTypeOutgoingSipmessage message.sip
  | .timeout timer => .timeout timer
  | .killTransaction => .killTransaction

def Event.sip : Event Header → Option (Message Header)
  | .incoming message => some message
  | .outgoing message => some message
  | .timeout _ => none
  | .killTransaction => none

def defaultT1 : Int := 500

def defaultT4 : Int := 5000

def addGettimeofday (now ms : Int) : Int :=
  if ms ≥ 1000000 then (now / 1000000 + ms / 1000) * 1000000 else now + ms * 1000

def Transaction.setTimer (tr : Transaction Header) (name : TimerName) (timer : Timer) :
    Transaction Header :=
  { tr with timers := Function.update tr.timers name timer }

/-- A timer that ends its length from now on. -/
def Transaction.startTimer (tr : Transaction Header) (name : TimerName) (now : Int) :
    Transaction Header :=
  let length := (tr.timers name).length
  tr.setTimer name ⟨length, some (addGettimeofday now length)⟩

def Transaction.stopTimer (tr : Transaction Header) (name : TimerName) : Transaction Header :=
  tr.setTimer name ⟨-1, none⟩

def osipTransactionSetState (tr : Transaction Header) (state : State) : Transaction Header :=
  { tr with state := state }

/-- Effects in front of those of what follows. -/
def Result.after (effects : List (Effect Header)) (result : Result Header) : Result Header :=
  (result.1, effects ++ result.2)

def freeOld : Option (Message Header) → List (Effect Header)
  | some message => [.free message]
  | none => []

def handleTransportError (type : FsmType) (terminated : State) (tr : Transaction Header)
    (error : Int) : Result Header :=
  (osipTransactionSetState tr terminated, [.transportError type error, .kill type])

/-- A timer that ends the transaction, with a report or without. -/
def endingTimeout (type : FsmType) (terminated : State) (timer : TimerName)
    (report : List (Effect Header)) (tr : Transaction Header) (_ : Answers) : Result Header :=
  (osipTransactionSetState (tr.stopTimer timer) terminated, report ++ [.kill type])

def rcv1xx (received : MessageCallback) (proceeding : State) (tr : Transaction Header)
    (sip : Message Header) (_ : Answers) : Result Header :=
  (osipTransactionSetState { tr with lastResponse := some sip } proceeding,
    freeOld tr.lastResponse ++ [.callback received (some sip)])

def osipSyntaxerror : Int := -5

def osipUndefinedError : Int := -1

/-- `__osip_transaction_snd_xxx`: a response goes where its first Via says. -/
def osipTransactionSndXxx (message : Option (Message Header)) (answers : Answers) :
    Int × List (Effect Header) :=
  match message.bind (·.sip.vias.head?) with
  | none => (osipSyntaxerror, [])
  | some _ => (answers.sent, [.send message])

def sndResponse (fail : Transaction Header → Int → Result Header)
    (sent : OsipMessage Header → MessageCallback)
    (finish : Transaction Header → Answers → Result Header) (tr : Transaction Header)
    (sip : Message Header) (answers : Answers) : Result Header :=
  let freed := freeOld tr.lastResponse
  let tr := { tr with lastResponse := some sip }
  let (i, sending) := osipTransactionSndXxx (some sip) answers
  if i ≠ 0 then (fail tr i).after (freed ++ sending)
  else (finish tr answers).after (freed ++ sending ++ [.callback (sent sip.sip) (some sip)])

/-- A request that comes again: it is answered as it was before. -/
def rcvRequestAgain (fail : Transaction Header → Int → Result Header)
    (receivedAgain : MessageCallback) (sentAgain : OsipMessage Header → MessageCallback)
    (tr : Transaction Header) (sip : Message Header) (answers : Answers) : Result Header :=
  let heard := [.free sip, .callback receivedAgain tr.origRequest]
  match tr.lastResponse with
  | none => (tr, heard)
  | some response =>
    let (i, sending) := osipTransactionSndXxx tr.lastResponse answers
    if i ≠ 0 then (fail tr i).after (heard ++ sending)
    else (tr, heard ++ sending ++ [.callback (sentAgain response.sip) tr.lastResponse])

/-- What is sent at once over a reliable protocol is not sent again. `fail` is told that there
is no Via, or what `cb_send_message` has returned. -/
def stopReliable (lib : StackLib Header) (fail : Transaction Header → Int → Result Header)
    (withoutProtocol : Int) (timer : TimerName)
    (proceed : Transaction Header → Result Header) (tr : Transaction Header) : Result Header :=
  match tr.origRequest.bind (·.sip.vias.head?) with
  | none => fail tr osipUndefinedError
  | some via =>
    match lib.protocol via with
    | none => fail tr withoutProtocol
    | some proto =>
      if ¬ strcasecmpEq proto "TCP".toList ∧ ¬ strcasecmpEq proto "TLS".toList ∧
          ¬ strcasecmpEq proto "SCTP".toList then proceed tr
      else proceed (tr.stopTimer timer)

section Ict

variable (lib : StackLib Header)

def ictHandleTransportError : Transaction Header → Int → Result Header :=
  handleTransportError .ict .ictTerminated

def ictSndInvite (ict : Transaction Header) (sip : Message Header) (answers : Answers) :
    Result Header :=
  let ict := { ict with origRequest := some sip }
  let called (ict : Transaction Header) : Result Header :=
    (osipTransactionSetState ict .ictCalling, [.callback .ictInviteSent ict.origRequest])
  let result : Result Header :=
    if answers.sent < 0 then ictHandleTransportError ict answers.sent
    else if answers.sent = 0 then stopReliable lib ictHandleTransportError 0 .a called ict
    else called ict
  result.after [.send (some sip)]

def osipIctTimeoutAEvent (ict : Transaction Header) (answers : Answers) : Result Header :=
  let length := (ict.timers .a).length * 2
  let ict := ict.setTimer .a ⟨length, some (addGettimeofday answers.now length)⟩
  let result : Result Header :=
    if answers.sent < 0 then ictHandleTransportError ict answers.sent
    else if answers.sent = 0 then
      stopReliable lib ictHandleTransportError 0 .a
        (fun ict => (ict, [.callback .ictInviteSentAgain ict.origRequest])) ict
    else (ict, [])
  result.after [.send ict.origRequest]

def osipIctTimeoutBEvent : Transaction Header → Answers → Result Header :=
  endingTimeout .ict .ictTerminated .b [.callback .ictStatusTimeout none]

def ictRcv1xx : Transaction Header → Message Header → Answers → Result Header :=
  rcv1xx .ictStatus1xxReceived .ictProceeding

def ictRcv2xx (ict : Transaction Header) (sip : Message Header) (_ : Answers) : Result Header :=
  (osipTransactionSetState { ict with lastResponse := some sip } .ictTerminated,
    freeOld ict.lastResponse ++ [.callback .ictStatus2xxReceived (some sip), .kill .ict])

/-- The response has From, To, Call-ID and CSeq, the INVITE has the rest. -/
def ictCreateAck (ict : Transaction Header) (response : OsipMessage Header) :
    Option (OsipMessage Header) := do
  let fromHeader ← response.fromHeader.bind lib.clone
  let toHeader ← response.toHeader.bind lib.clone
  let callId ← response.callId.bind lib.clone
  let cseq ← response.cseq.bind lib.clone
  let origRequest ← ict.origRequest
  let sipVersion ← origRequest.sip.sipVersion
  let reqUri ← origRequest.sip.reqUri.bind lib.clone
  let via ← origRequest.sip.vias.head?.bind lib.clone
  let routes ← osipListClone lib.clone origRequest.sip.routes
  return { OsipMessage.init Header with
    fromHeader := some fromHeader
    toHeader := some toHeader
    callId := some callId
    cseq := some (lib.setMethod "ACK".toList cseq)
    sipMethod := some "ACK".toList
    sipVersion := some sipVersion
    reqUri := some reqUri
    vias := [via]
    routes := routes }

def ictStatusReceived (sip : OsipMessage Header) : MessageCallback :=
  if msgIsStatus 3 sip then .ictStatus3xxReceived
  else if msgIsStatus 4 sip then .ictStatus4xxReceived
  else if msgIsStatus 5 sip then .ictStatus5xxReceived
  else .ictStatus6xxReceived

def ictRcv3456xx (ict : Transaction Header) (sip : Message Header) (answers : Answers) :
    Result Header :=
  let freed := freeOld ict.lastResponse
  let ict := { ict with lastResponse := some sip }
  let completed (ict : Transaction Header) : Transaction Header :=
    osipTransactionSetState (ict.startTimer .d answers.now) .ictCompleted
  if ict.state ≠ .ictCompleted then
    match ictCreateAck lib ict sip.sip with
    | none =>
      (osipTransactionSetState { ict with ack := none } .ictTerminated, freed ++ [.kill .ict])
    | some ack =>
      let ack := ⟨answers.address, ack⟩
      let ict := { ict with ack := some ack }
      let sending := freed ++ [.malloc ack, .send (some ack)]
      if answers.sent ≠ 0 then (ictHandleTransportError ict answers.sent).after sending
      else
        (completed ict, sending ++
          [.callback (ictStatusReceived sip.sip) (some sip), .callback .ictAckSent (some sip)])
  else (completed ict, freed)

def osipIctTimeoutDEvent : Transaction Header → Answers → Result Header :=
  endingTimeout .ict .ictTerminated .d []

def ictRetransmitAck (ict : Transaction Header) (sip : Message Header) (answers : Answers) :
    Result Header :=
  let result : Result Header :=
    if answers.sent = 0 then
      (osipTransactionSetState ict .ictCompleted, [.callback .ictAckSentAgain ict.ack])
    else ictHandleTransportError ict answers.sent
  result.after [.callback .ictStatus3456xxReceivedAgain (some sip), .free sip, .send ict.ack]

end Ict

def istHandleTransportError : Transaction Header → Int → Result Header :=
  handleTransportError .ist .istTerminated

def istSentAgain (sip : OsipMessage Header) : MessageCallback :=
  if msgIsStatus 1 sip then .istStatus1xxSent
  else if msgIsStatus 2 sip then .istStatus2xxSentAgain
  else .istStatus3456xxSentAgain

def istRcvInvite (ist : Transaction Header) (sip : Message Header) (answers : Answers) :
    Result Header :=
  if ist.state = .istPreProceeding then
    (osipTransactionSetState { ist with origRequest := some sip } .istProceeding,
      [.callback .istInviteReceived (some sip)])
  else
    rcvRequestAgain istHandleTransportError .istInviteReceivedAgain istSentAgain ist sip answers

def osipIstTimeoutGEvent (ist : Transaction Header) (answers : Answers) : Result Header :=
  let doubled := (ist.timers .g).length * 2
  let length := if doubled > 4000 then 4000 else doubled
  let ist := ist.setTimer .g ⟨length, some (addGettimeofday answers.now length)⟩
  let (i, sending) := osipTransactionSndXxx ist.lastResponse answers
  if i ≠ 0 then (istHandleTransportError ist i).after sending
  else (ist, sending ++ [.callback .istStatus3456xxSentAgain ist.lastResponse])

def osipIstTimeoutHEvent : Transaction Header → Answers → Result Header :=
  endingTimeout .ist .istTerminated .h []

def osipIstTimeoutIEvent : Transaction Header → Answers → Result Header :=
  endingTimeout .ist .istTerminated .i []

def istSnd1xx : Transaction Header → Message Header → Answers → Result Header :=
  sndResponse istHandleTransportError (fun _ => .istStatus1xxSent) (fun ist _ => (ist, []))

def istSnd2xx : Transaction Header → Message Header → Answers → Result Header :=
  sndResponse istHandleTransportError (fun _ => .istStatus2xxSent)
    (fun ist _ => (osipTransactionSetState ist .istTerminated, [.kill .ist]))

def istStatusSent (sip : OsipMessage Header) : MessageCallback :=
  if msgIsStatus 3 sip then .istStatus3xxSent
  else if msgIsStatus 4 sip then .istStatus4xxSent
  else if msgIsStatus 5 sip then .istStatus5xxSent
  else .istStatus6xxSent

def istSnd3456xx : Transaction Header → Message Header → Answers → Result Header :=
  sndResponse istHandleTransportError istStatusSent (fun ist answers =>
    let ist := if (ist.timers .g).length ≠ -1 then ist.startTimer .g answers.now else ist
    (osipTransactionSetState (ist.startTimer .h answers.now) .istCompleted, []))

def istRcvAck (ist : Transaction Header) (sip : Message Header) (answers : Answers) :
    Result Header :=
  let received := if ist.state = .istCompleted then .istAckReceived else .istAckReceivedAgain
  (osipTransactionSetState (({ ist with ack := some sip }).startTimer .i answers.now)
      .istConfirmed,
    freeOld ist.ack ++ [.callback received (some sip)])

section Nict

variable (lib : StackLib Header)

def nictHandleTransportError : Transaction Header → Int → Result Header :=
  handleTransportError .nict .nictTerminated

def nictRequestSent (sip : OsipMessage Header) : MessageCallback :=
  if msgIsMethod "REGISTER" sip then .nictRegisterSent
  else if msgIsMethod "BYE" sip then .nictByeSent
  else if msgIsMethod "OPTIONS" sip then .nictOptionsSent
  else if msgIsMethod "INFO" sip then .nictInfoSent
  else if msgIsMethod "CANCEL" sip then .nictCancelSent
  else if msgIsMethod "NOTIFY" sip then .nictNotifySent
  else if msgIsMethod "SUBSCRIBE" sip then .nictSubscribeSent
  else .nictUnknownRequestSent

def nictSndRequest (nict : Transaction Header) (sip : Message Header) (answers : Answers) :
    Result Header :=
  let nict := { nict with origRequest := some sip }
  let result : Result Header :=
    if answers.sent ≥ 0 then
      let nict := if (nict.timers .e).length > 0 then nict.startTimer .e answers.now else nict
      (osipTransactionSetState nict .nictTrying,
        [.callback (nictRequestSent sip.sip) nict.origRequest])
    else nictHandleTransportError nict answers.sent
  result.after [.send (some sip)]

def osipNictTimeoutEEvent (nict : Transaction Header) (answers : Answers) : Result Header :=
  let doubled := (nict.timers .e).length * 2
  let length := if nict.state = .nictTrying then if doubled > 4000 then 4000 else doubled
    else 4000
  let nict := nict.setTimer .e ⟨length, some (addGettimeofday answers.now length)⟩
  let result : Result Header :=
    if answers.sent < 0 then nictHandleTransportError nict answers.sent
    else if answers.sent = 0 then
      stopReliable lib nictHandleTransportError osipUndefinedError .e
        (fun nict => (nict, [.callback .nictRequestSentAgain nict.origRequest])) nict
    else (nict, [])
  result.after [.send nict.origRequest]

def osipNictTimeoutFEvent : Transaction Header → Answers → Result Header :=
  endingTimeout .nict .nictTerminated .f [.callback .nictStatusTimeout none]

def osipNictTimeoutKEvent : Transaction Header → Answers → Result Header :=
  endingTimeout .nict .nictTerminated .k []

def nictRcv1xx : Transaction Header → Message Header → Answers → Result Header :=
  rcv1xx .nictStatus1xxReceived .nictProceeding

def nictStatusReceived (sip : OsipMessage Header) : MessageCallback :=
  if evtSetTypeIncomingSipmessage sip = .rcvStatus2xx then .nictStatus2xxReceived
  else if msgIsStatus 3 sip then .nictStatus3xxReceived
  else if msgIsStatus 4 sip then .nictStatus4xxReceived
  else if msgIsStatus 5 sip then .nictStatus5xxReceived
  else .nictStatus6xxReceived

def nictRcv23456xx (nict : Transaction Header) (sip : Message Header) (answers : Answers) :
    Result Header :=
  let freed := freeOld nict.lastResponse
  let nict := { nict with lastResponse := some sip }
  let nict := if nict.state ≠ .nictCompleted then nict.startTimer .k answers.now else nict
  (osipTransactionSetState nict .nictCompleted,
    freed ++ [.callback (nictStatusReceived sip.sip) (some sip)])

end Nict

def nistHandleTransportError : Transaction Header → Int → Result Header :=
  handleTransportError .nist .nistTerminated

def nistRequestReceived (sip : OsipMessage Header) : MessageCallback :=
  if msgIsMethod "REGISTER" sip then .nistRegisterReceived
  else if msgIsMethod "BYE" sip then .nistByeReceived
  else if msgIsMethod "OPTIONS" sip then .nistOptionsReceived
  else if msgIsMethod "INFO" sip then .nistInfoReceived
  else if msgIsMethod "CANCEL" sip then .nistCancelReceived
  else if msgIsMethod "NOTIFY" sip then .nistNotifyReceived
  else if msgIsMethod "SUBSCRIBE" sip then .nistSubscribeReceived
  else .nistUnknownRequestReceived

def nistSentAgain (sip : OsipMessage Header) : MessageCallback :=
  if msgIsStatus 1 sip then .nistStatus1xxSent
  else if msgIsStatus 2 sip then .nistStatus2xxSentAgain
  else .nistStatus3456xxSentAgain

def nistRcvRequest (nist : Transaction Header) (sip : Message Header) (answers : Answers) :
    Result Header :=
  if nist.state = .nistPreTrying then
    (osipTransactionSetState { nist with origRequest := some sip } .nistTrying,
      [.callback (nistRequestReceived sip.sip) (some sip)])
  else
    rcvRequestAgain nistHandleTransportError .nistRequestReceivedAgain nistSentAgain nist sip
      answers

def nistSnd1xx : Transaction Header → Message Header → Answers → Result Header :=
  sndResponse nistHandleTransportError (fun _ => .nistStatus1xxSent)
    (fun nist _ => (osipTransactionSetState nist .nistProceeding, []))

def nistStatusSent (sip : OsipMessage Header) : MessageCallback :=
  if evtSetTypeOutgoingSipmessage sip = .sndStatus2xx then .nistStatus2xxSent
  else if msgIsStatus 3 sip then .nistStatus3xxSent
  else if msgIsStatus 4 sip then .nistStatus4xxSent
  else if msgIsStatus 5 sip then .nistStatus5xxSent
  else .nistStatus6xxSent

def nistSnd23456xx : Transaction Header → Message Header → Answers → Result Header :=
  sndResponse nistHandleTransportError nistStatusSent (fun nist answers =>
    let nist := if nist.state ≠ .nistCompleted then nist.startTimer .j answers.now else nist
    (osipTransactionSetState nist .nistCompleted, []))

def osipNistTimeoutJEvent : Transaction Header → Answers → Result Header :=
  endingTimeout .nist .nistTerminated .j []

/-- A `transition_t`, whose execution method takes the message of an event or the end of a
timer. -/
inductive Transition (Header : Type) where
  | onMessage (state : State) (type : EventType)
      (method : Transaction Header → Message Header → Answers → Result Header)
  | onTimeout (state : State) (timer : TimerName)
      (method : Transaction Header → Answers → Result Header)

def Transition.state : Transition Header → State
  | .onMessage state _ _ => state
  | .onTimeout state _ _ => state

def Transition.type : Transition Header → EventType
  | .onMessage _ type _ => type
  | .onTimeout _ timer _ => .timeout timer

def Transition.call (transition : Transition Header) (tr : Transaction Header)
    (evt : Event Header) (answers : Answers) : Result Header :=
  match transition, evt.sip with
  | .onMessage _ _ method, some sip => method tr sip answers
  | .onMessage _ _ _, none => (tr, [])
  | .onTimeout _ _ method, _ => method tr answers

section Tables

variable (lib : StackLib Header)

/-- `__ict_load_fsm`. -/
def ictFsm : List (Transition Header) :=
  [.onMessage .ictPreCalling .sndReqinvite (ictSndInvite lib),
    .onTimeout .ictCalling .a (osipIctTimeoutAEvent lib),
    .onTimeout .ictCalling .b osipIctTimeoutBEvent,
    .onMessage .ictCalling .rcvStatus1xx ictRcv1xx,
    .onMessage .ictCalling .rcvStatus2xx ictRcv2xx,
    .onMessage .ictCalling .rcvStatus3456xx (ictRcv3456xx lib),
    .onMessage .ictProceeding .rcvStatus1xx ictRcv1xx,
    .onMessage .ictProceeding .rcvStatus2xx ictRcv2xx,
    .onMessage .ictProceeding .rcvStatus3456xx (ictRcv3456xx lib),
    .onMessage .ictCompleted .rcvStatus3456xx ictRetransmitAck,
    .onTimeout .ictCompleted .d osipIctTimeoutDEvent]

/-- `__ist_load_fsm`. -/
def istFsm : List (Transition Header) :=
  [.onMessage .istPreProceeding .rcvReqinvite istRcvInvite,
    .onMessage .istProceeding .rcvReqinvite istRcvInvite,
    .onMessage .istCompleted .rcvReqinvite istRcvInvite,
    .onTimeout .istCompleted .g osipIstTimeoutGEvent,
    .onTimeout .istCompleted .h osipIstTimeoutHEvent,
    .onMessage .istProceeding .sndStatus1xx istSnd1xx,
    .onMessage .istProceeding .sndStatus2xx istSnd2xx,
    .onMessage .istProceeding .sndStatus3456xx istSnd3456xx,
    .onMessage .istCompleted .rcvReqack istRcvAck,
    .onMessage .istConfirmed .rcvReqack istRcvAck,
    .onTimeout .istConfirmed .i osipIstTimeoutIEvent]

/-- `__nict_load_fsm`. -/
def nictFsm : List (Transition Header) :=
  [.onMessage .nictPreTrying .sndRequest nictSndRequest,
    .onTimeout .nictTrying .f osipNictTimeoutFEvent,
    .onTimeout .nictTrying .e (osipNictTimeoutEEvent lib),
    .onMessage .nictTrying .rcvStatus1xx nictRcv1xx,
    .onMessage .nictTrying .rcvStatus2xx nictRcv23456xx,
    .onMessage .nictTrying .rcvStatus3456xx nictRcv23456xx,
    .onTimeout .nictProceeding .f osipNictTimeoutFEvent,
    .onTimeout .nictProceeding .e (osipNictTimeoutEEvent lib),
    .onMessage .nictProceeding .rcvStatus1xx nictRcv1xx,
    .onMessage .nictProceeding .rcvStatus2xx nictRcv23456xx,
    .onMessage .nictProceeding .rcvStatus3456xx nictRcv23456xx,
    .onTimeout .nictCompleted .k osipNictTimeoutKEvent]

/-- `__nist_load_fsm`. -/
def nistFsm : List (Transition Header) :=
  [.onMessage .nistPreTrying .rcvRequest nistRcvRequest,
    .onMessage .nistTrying .sndStatus1xx nistSnd1xx,
    .onMessage .nistTrying .sndStatus2xx nistSnd23456xx,
    .onMessage .nistTrying .sndStatus3456xx nistSnd23456xx,
    .onMessage .nistProceeding .sndStatus1xx nistSnd1xx,
    .onMessage .nistProceeding .sndStatus2xx nistSnd23456xx,
    .onMessage .nistProceeding .sndStatus3456xx nistSnd23456xx,
    .onMessage .nistProceeding .rcvRequest nistRcvRequest,
    .onTimeout .nistCompleted .j osipNistTimeoutJEvent,
    .onMessage .nistCompleted .rcvRequest nistRcvRequest]

def getFsm : FsmType → List (Transition Header)
  | .ict => ictFsm lib
  | .ist => istFsm
  | .nict => nictFsm lib
  | .nist => nistFsm

def fsmFindmethod (type : EventType) (state : State) (statemachine : List (Transition Header)) :
    Option (Transition Header) :=
  statemachine.find? (fun transition => transition.type = type ∧ transition.state = state)

/-- `osip_transaction_execute`. A message that is of no use is thrown away. -/
def osipTransactionExecute (tr : Transaction Header) (evt : Event Header) (answers : Answers) :
    Result Header :=
  match evt with
  | .killTransaction => (tr, [])
  | evt =>
    match fsmFindmethod evt.type tr.state (getFsm lib tr.ctxType) with
    | some transition => transition.call tr evt answers
    | none => (tr, freeOld evt.sip)

/-- The timers of a context, where the protocol is reliable or not. -/
def initTimers (ctxType : FsmType) (isReliable : Bool) (now : Int) : TimerName → Timer :=
  let stopped : TimerName → Timer := fun _ => ⟨0, none⟩
  let unlessReliable (length : Int) : Int := if isReliable then 0 else length
  let started (length : Int) : Timer := ⟨length, some (addGettimeofday now length)⟩
  match ctxType with
  | .ict => fun
    | .a => started defaultT1
    | .b => started (64 * defaultT1)
    | .d => ⟨unlessReliable (if 64 * defaultT1 < 32000 then 32000 else 64 * defaultT1), none⟩
    | other => stopped other
  | .ist => fun
    | .g => ⟨if isReliable then -1 else defaultT1, none⟩
    | .h => ⟨64 * defaultT1, none⟩
    | .i => ⟨unlessReliable defaultT4, none⟩
    | other => stopped other
  | .nict => fun
    | .e => ⟨defaultT1, none⟩
    | .f => started (64 * defaultT1)
    | .k => ⟨unlessReliable defaultT4, none⟩
    | other => stopped other
  | .nist => fun
    | .j => ⟨unlessReliable (64 * defaultT1), none⟩
    | other => stopped other

def FsmType.first : FsmType → State
  | .ict => .ictPreCalling
  | .ist => .istPreProceeding
  | .nict => .nictPreTrying
  | .nist => .nistPreTrying

/-- `osip_transaction_init`. -/
def osipTransactionInit (ctxType : FsmType) (request : OsipMessage Header) (now : Int) :
    Option (Transaction Header) := do
  let callId ← request.callId
  let _ ← lib.number callId
  let topvia ← request.vias.head?
  let topviaCopy ← lib.clone topvia
  let fromHeader ← request.fromHeader.bind lib.clone
  let toHeader ← request.toHeader.bind lib.clone
  let callid ← lib.clone callId
  let cseq ← request.cseq.bind lib.clone
  let proto ← lib.protocol topvia
  let isReliable := strcasecmpEq proto "TCP".toList || strcasecmpEq proto "TLS".toList ||
    strcasecmpEq proto "SCTP".toList
  return {
    topvia := topviaCopy
    fromHeader := fromHeader
    toHeader := toHeader
    callid := callid
    cseq := cseq
    ctxType := ctxType
    state := ctxType.first
    origRequest := none
    lastResponse := none
    ack := none
    timers := initTimers ctxType isReliable now }

/-- `osip_transaction_free2`, for an empty queue. -/
def osipTransactionFree2 (tr : Transaction Header) : List (Effect Header) :=
  freeOld tr.origRequest ++ freeOld tr.lastResponse ++ freeOld tr.ack

end Tables

variable {lib : StackLib Header} {tr : Transaction Header} {evt : Event Header}
  {answers : Answers}

/-- A row of a table does what is said, wherever it is called. -/
def Transition.Meets (spec : Transaction Header → Event Header → Answers → Result Header → Prop)
    (ctxType : FsmType) : Transition Header → Prop
  | .onMessage state type method => ∀ tr evt sip answers, tr.ctxType = ctxType →
      tr.state = state → evt.type = type → evt.sip = some sip →
      spec tr evt answers (method tr sip answers)
  | .onTimeout state timer method => ∀ tr answers, tr.ctxType = ctxType → tr.state = state →
      spec tr (.timeout timer) answers (method tr answers)

theorem eq_timeout {timer : TimerName} (same : evt.type = .timeout timer) :
    evt = .timeout timer := by
  cases evt with
  | timeout other => exact congrArg Event.timeout (EventType.timeout.inj same)
  | killTransaction => cases same
  | incoming message =>
    simp only [Event.type, evtSetTypeIncomingSipmessage] at same
    split_ifs at same
  | outgoing message =>
    simp only [Event.type, evtSetTypeOutgoingSipmessage] at same
    split_ifs at same

/-- An execution is one of the rows, or throws the message away. -/
theorem execute_meets
    {spec : Transaction Header → Event Header → Answers → Result Header → Prop}
    (rows : ∀ transition ∈ getFsm lib tr.ctxType, transition.Meets spec tr.ctxType)
    (useless : spec tr evt answers (tr, freeOld evt.sip)) :
    spec tr evt answers (osipTransactionExecute lib tr evt answers) := by
  unfold osipTransactionExecute
  split
  · exact useless
  · rename_i lively
    split
    · rename_i transition found
      have member := List.mem_of_find?_eq_some found
      have fits := List.find?_some found
      simp only [decide_eq_true_eq] at fits
      have meets := rows transition member
      cases transition with
      | onMessage state type method =>
        unfold Transition.call
        cases has : evt.sip with
        | none =>
          rw [has] at useless
          exact useless
        | some sip => exact meets tr evt sip answers rfl fits.2.symm fits.1.symm has
      | onTimeout state timer method =>
        have shape := eq_timeout fits.1.symm
        subst shape
        exact meets tr answers rfl fits.2.symm
    · exact useless

def textLib : StackLib Text where
  toStr := some
  clone := some
  type := fun value => some (value.takeWhile (· ≠ '/'))
  boundary := fun _ => none
  protocol := fun value => some ((value.drop 8).takeWhile (· ≠ ' '))
  number := fun value => some (value.takeWhile (· ≠ '@'))
  setMethod := fun method value => value.takeWhile (· ≠ ' ') ++ ' ' :: method

def optionsRequest : OsipMessage Text :=
  { OsipMessage.init Text with
    sipVersion := some osipProtocolVersion
    reqUri := some "sip:34020000002000000001@10.0.0.1".toList
    sipMethod := some "OPTIONS".toList
    callId := some "7@10.0.0.2".toList
    cseq := some "20 OPTIONS".toList
    fromHeader := some "<sip:34020000001320000001@10.0.0.2>;tag=1".toList
    toHeader := some "<sip:34020000002000000001@10.0.0.1>".toList
    vias := ["SIP/2.0/UDP 10.0.0.2:5060;branch=z9hG4bK1".toList] }

end Gb28181.Osip2
