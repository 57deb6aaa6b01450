import Gb28181.Osip2.Steps

namespace Gb28181.Osip2

open Gb28181.Lib Gb28181.Osip

variable {Header : Type} {lib : StackLib Header} {tr : Transaction Header} {sip : Message Header}
  {answers : Answers} {timer : TimerName} {result : Result Header}

def State.type : State → FsmType
  | .ictPreCalling | .ictCalling | .ictProceeding | .ictCompleted | .ictTerminated => .ict
  | .istPreProceeding | .istProceeding | .istCompleted | .istConfirmed | .istTerminated => .ist
  | .nictPreTrying | .nictTrying | .nictProceeding | .nictCompleted | .nictTerminated => .nict
  | .nistPreTrying | .nistTrying | .nistProceeding | .nistCompleted | .nistTerminated => .nist

/-- The state stays or becomes another one of this type. -/
structure Stays (ctxType : FsmType) (tr : Transaction Header) (result : Result Header) : Prop where
  origin : result.1.toOrigin = tr.toOrigin
  state : result.1.state = tr.state ∨ result.1.state.type = ctxType

def stepStays (tr : Transaction Header) (_ : Event Header) (_ : Answers)
    (result : Result Header) : Prop :=
  Stays tr.ctxType tr result

variable {ctxType : FsmType}

theorem Stays.after {effects : List (Effect Header)} (stays : Stays ctxType tr result) :
    Stays ctxType tr (Result.after effects result) :=
  ⟨stays.origin, stays.state⟩

theorem stays_sndResponse {fail : Transaction Header → Int → Result Header}
    {sent : OsipMessage Header → MessageCallback}
    {finish : Transaction Header → Answers → Result Header}
    (fails : ∀ now error, Transaction.toOrigin now = tr.toOrigin →
      Stays ctxType tr (fail now error))
    (finishes : ∀ now : Transaction Header, now.toOrigin = tr.toOrigin → now.state = tr.state →
      Stays ctxType tr (finish now answers)) :
    Stays ctxType tr (sndResponse fail sent finish tr sip answers) := by
  unfold sndResponse
  dsimp only
  split
  · exact (fails { tr with lastResponse := some sip } _ rfl).after
  · exact (finishes { tr with lastResponse := some sip } rfl rfl).after

theorem stays_rcvRequestAgain {fail : Transaction Header → Int → Result Header}
    {receivedAgain : MessageCallback} {sentAgain : OsipMessage Header → MessageCallback}
    (fails : ∀ now error, Transaction.toOrigin now = tr.toOrigin →
      Stays ctxType tr (fail now error)) :
    Stays ctxType tr (rcvRequestAgain fail receivedAgain sentAgain tr sip answers) := by
  unfold rcvRequestAgain
  dsimp only
  split
  · exact ⟨rfl, .inl rfl⟩
  · split
    · exact (fails tr _ rfl).after
    · exact ⟨rfl, .inl rfl⟩

theorem stays_stopReliable {fail : Transaction Header → Int → Result Header}
    {proceed : Transaction Header → Result Header} {withoutProtocol : Int}
    {first : Transaction Header} (origin : first.toOrigin = tr.toOrigin)
    (state : first.state = tr.state)
    (fails : ∀ now error, Transaction.toOrigin now = tr.toOrigin →
      Stays ctxType tr (fail now error))
    (proceeds : ∀ now : Transaction Header, now.toOrigin = tr.toOrigin → now.state = tr.state →
      Stays ctxType tr (proceed now)) :
    Stays ctxType tr (stopReliable lib fail withoutProtocol timer proceed first) :=
  stopReliable_cases (fun error => fails first error origin) (proceeds first origin state)
    (proceeds (first.stopTimer timer) origin state)

theorem ictFsm_stays : ∀ transition ∈ ictFsm lib, transition.Meets stepStays .ict := by
  have fails {tr : Transaction Header} (now : Transaction Header) (error : Int)
      (origin : now.toOrigin = tr.toOrigin) :
      Stays .ict tr (ictHandleTransportError now error) := ⟨origin, .inr rfl⟩
  unfold ictFsm
  simp only [List.forall_mem_cons, Transition.Meets, stepStays]
  refine ⟨?invite, ?timeoutA, ?timeoutB, ?ringing, ?answered, ?refused, ?ringingAgain,
    ?answeredLater, ?refusedLater, ?refusedAgain, ?timeoutD, ?rest⟩
  case invite =>
    intro tr evt sip answers own _ _ _
    rw [own]
    unfold ictSndInvite
    refine Stays.after ?_
    split
    · exact fails _ _ rfl
    · split
      · exact stays_stopReliable rfl rfl fails (fun now origin _ => ⟨origin, .inr rfl⟩)
      · exact ⟨rfl, .inr rfl⟩
  case timeoutA =>
    intro tr answers own _
    rw [own]
    unfold osipIctTimeoutAEvent
    refine Stays.after ?_
    split
    · exact fails _ _ rfl
    · split
      · exact stays_stopReliable rfl rfl fails (fun now origin state => ⟨origin, .inl state⟩)
      · exact ⟨rfl, .inl rfl⟩
  case timeoutB | timeoutD =>
    intro tr answers own _
    exact ⟨rfl, .inr own.symm⟩
  case ringing | ringingAgain | answered | answeredLater =>
    intro tr evt sip answers own _ _ _
    exact ⟨rfl, .inr own.symm⟩
  case refused | refusedLater =>
    intro tr evt sip answers own _ _ _
    rw [own]
    unfold ictRcv3456xx
    dsimp only
    split
    · split
      · exact ⟨rfl, .inr rfl⟩
      · split
        · refine Stays.after (fails _ _ ?_)
          rfl
        · exact ⟨rfl, .inr rfl⟩
    · exact ⟨rfl, .inr rfl⟩
  case refusedAgain =>
    intro tr evt sip answers own _ _ _
    rw [own]
    unfold ictRetransmitAck
    refine Stays.after ?_
    split
    · exact ⟨rfl, .inr rfl⟩
    · exact fails _ _ rfl
  case rest => exact fun transition member => absurd member List.not_mem_nil

theorem istFsm_stays : ∀ transition ∈ (istFsm : List (Transition Header)),
    transition.Meets stepStays .ist := by
  have fails {tr : Transaction Header} (now : Transaction Header) (error : Int)
      (origin : now.toOrigin = tr.toOrigin) :
      Stays .ist tr (istHandleTransportError now error) := ⟨origin, .inr rfl⟩
  unfold istFsm
  simp only [List.forall_mem_cons, Transition.Meets, stepStays]
  refine ⟨?invite, ?inviteAgain, ?inviteLate, ?timeoutG, ?timeoutH, ?ringing, ?answer, ?refusal,
    ?ack, ?ackAgain, ?timeoutI, ?rest⟩
  case invite | inviteAgain | inviteLate =>
    intro tr evt sip answers own _ _ _
    rw [own]
    unfold istRcvInvite
    by_cases first : tr.state = .istPreProceeding
    · rw [if_pos first]
      exact ⟨rfl, .inr rfl⟩
    · rw [if_neg first]
      exact stays_rcvRequestAgain fails
  case timeoutG =>
    intro tr answers own _
    rw [own]
    unfold osipIstTimeoutGEvent
    dsimp only [Transaction.setTimer]
    split
    · refine Stays.after (fails _ _ ?_)
      rfl
    · exact ⟨rfl, .inl rfl⟩
  case timeoutH | timeoutI =>
    intro tr answers own _
    exact ⟨rfl, .inr own.symm⟩
  case ringing =>
    intro tr evt sip answers own _ _ _
    rw [own]
    exact stays_sndResponse fails (fun now origin state => ⟨origin, .inl state⟩)
  case answer =>
    intro tr evt sip answers own _ _ _
    rw [own]
    exact stays_sndResponse fails (fun now origin _ => ⟨origin, .inr rfl⟩)
  case refusal =>
    intro tr evt sip answers own _ _ _
    rw [own]
    refine stays_sndResponse fails (fun now origin _ => ⟨?_, .inr rfl⟩)
    dsimp only
    split <;> exact origin
  case ack | ackAgain =>
    intro tr evt sip answers own _ _ _
    exact ⟨rfl, .inr own.symm⟩
  case rest => exact fun transition member => absurd member List.not_mem_nil

theorem nictFsm_stays : ∀ transition ∈ nictFsm lib, transition.Meets stepStays .nict := by
  have fails {tr : Transaction Header} (now : Transaction Header) (error : Int)
      (origin : now.toOrigin = tr.toOrigin) :
      Stays .nict tr (nictHandleTransportError now error) := ⟨origin, .inr rfl⟩
  unfold nictFsm
  simp only [List.forall_mem_cons, Transition.Meets, stepStays]
  refine ⟨?send, ?timeoutF, ?timeoutE, ?trying, ?answered, ?refused, ?lateF, ?lateE,
    ?tryingAgain, ?answeredLater, ?refusedLater, ?timeoutK, ?rest⟩
  case send =>
    intro tr evt sip answers own _ _ _
    rw [own]
    unfold nictSndRequest
    refine Stays.after ?_
    split
    · refine ⟨?_, .inr rfl⟩
      dsimp only [osipTransactionSetState]
      split <;> rfl
    · exact fails _ _ rfl
  case timeoutF | lateF | timeoutK =>
    intro tr answers own _
    exact ⟨rfl, .inr own.symm⟩
  case timeoutE | lateE =>
    intro tr answers own _
    rw [own]
    unfold osipNictTimeoutEEvent
    refine Stays.after ?_
    split
    · exact fails _ _ rfl
    · split
      · exact stays_stopReliable rfl rfl fails (fun now origin state => ⟨origin, .inl state⟩)
      · exact ⟨rfl, .inl rfl⟩
  case trying | tryingAgain =>
    intro tr evt sip answers own _ _ _
    exact ⟨rfl, .inr own.symm⟩
  case answered | refused | answeredLater | refusedLater =>
    intro tr evt sip answers own _ _ _
    refine ⟨?_, .inr own.symm⟩
    unfold nictRcv23456xx
    dsimp only [osipTransactionSetState]
    split <;> rfl
  case rest => exact fun transition member => absurd member List.not_mem_nil

theorem nistFsm_stays : ∀ transition ∈ (nistFsm : List (Transition Header)),
    transition.Meets stepStays .nist := by
  have fails {tr : Transaction Header} (now : Transaction Header) (error : Int)
      (origin : now.toOrigin = tr.toOrigin) :
      Stays .nist tr (nistHandleTransportError now error) := ⟨origin, .inr rfl⟩
  unfold nistFsm
  simp only [List.forall_mem_cons, Transition.Meets, stepStays]
  refine ⟨?request, ?trying, ?answer, ?refusal, ?tryingAgain, ?answerLater, ?refusalLater,
    ?requestAgain, ?timeoutJ, ?requestLate, ?rest⟩
  case request | requestAgain | requestLate =>
    intro tr evt sip answers own _ _ _
    rw [own]
    unfold nistRcvRequest
    by_cases first : tr.state = .nistPreTrying
    · rw [if_pos first]
      exact ⟨rfl, .inr rfl⟩
    · rw [if_neg first]
      exact stays_rcvRequestAgain fails
  case trying | tryingAgain =>
    intro tr evt sip answers own _ _ _
    rw [own]
    exact stays_sndResponse fails (fun now origin _ => ⟨origin, .inr rfl⟩)
  case answer | refusal | answerLater | refusalLater =>
    intro tr evt sip answers own _ _ _
    rw [own]
    refine stays_sndResponse fails (fun now origin _ => ⟨?_, .inr rfl⟩)
    dsimp only [osipTransactionSetState]
    split <;> exact origin
  case timeoutJ =>
    intro tr answers own _
    exact ⟨rfl, .inr own.symm⟩
  case rest => exact fun transition member => absurd member List.not_mem_nil

theorem execute_stays (evt : Event Header) (answers : Answers) :
    Stays tr.ctxType tr (osipTransactionExecute lib tr evt answers) := by
  refine @execute_meets _ lib tr evt answers stepStays ?_ ⟨rfl, .inl rfl⟩
  cases tr.ctxType with
  | ict => exact ictFsm_stays
  | ist => exact istFsm_stays
  | nict => exact nictFsm_stays
  | nist => exact nistFsm_stays

theorem turns_type_state (own : tr.state.type = tr.ctxType) (inputs : List (Turn Header)) :
    (turns lib tr inputs).1.state.type = tr.ctxType := by
  have kept : (turns lib tr inputs).1.ctxType = tr.ctxType ∧
      (turns lib tr inputs).1.state.type = tr.ctxType := by
    apply @trace_induction _ _ _ (takeTurn lib) tr inputs
      (fun now _ => now.ctxType = tr.ctxType ∧ now.state.type = tr.ctxType)
    · exact ⟨rfl, own⟩
    · intro now _ turn ⟨type, state⟩
      have stays := @execute_stays _ lib now turn.1 turn.2
      refine ⟨(congrArg Origin.ctxType stays.origin).trans type, ?_⟩
      rcases stays.state with same | other
      · exact same ▸ state
      · exact other.trans type
  exact kept.2

end Gb28181.Osip2
