import Gb28181.Lib.Traces
import Gb28181.Osip2.Fsm

namespace Gb28181.Osip2

open Gb28181.Lib Gb28181.Osip

variable {Header : Type}

def FsmType.terminated : FsmType → State
  | .ict => .ictTerminated
  | .ist => .istTerminated
  | .nict => .nictTerminated
  | .nist => .nistTerminated

/-- The states behind the final response. -/
def State.isConcluded : State → Bool
  | .ictCompleted | .ictTerminated => true
  | .istCompleted | .istConfirmed | .istTerminated => true
  | .nictCompleted | .nictTerminated => true
  | .nistCompleted | .nistTerminated => true
  | _ => false

/-- A final response received, or sent for the first time, or none within the time. -/
def MessageCallback.isOutcome : MessageCallback → Bool
  | .ictStatus2xxReceived | .ictStatus3xxReceived | .ictStatus4xxReceived => true
  | .ictStatus5xxReceived | .ictStatus6xxReceived | .ictStatusTimeout => true
  | .istStatus2xxSent | .istStatus3xxSent | .istStatus4xxSent => true
  | .istStatus5xxSent | .istStatus6xxSent => true
  | .nictStatus2xxReceived | .nictStatus3xxReceived | .nictStatus4xxReceived => true
  | .nictStatus5xxReceived | .nictStatus6xxReceived | .nictStatusTimeout => true
  | .nistStatus2xxSent | .nistStatus3xxSent | .nistStatus4xxSent => true
  | .nistStatus5xxSent | .nistStatus6xxSent => true
  | _ => false

def Effect.isKill : Effect Header → Bool
  | .kill _ => true
  | _ => false

def Effect.isOutcome : Effect Header → Bool
  | .callback type _ => type.isOutcome
  | _ => false

def Effect.isTransportError : Effect Header → Bool
  | .transportError _ _ => true
  | _ => false

def Effect.isFree : Effect Header → Bool
  | .free _ => true
  | _ => false

def State.hasEnded (ctxType : FsmType) (state : State) : Nat :=
  if state = ctxType.terminated then 1 else 0

def State.hasConcluded (state : State) : Nat := state.isConcluded.toNat

/-- An event, and the answers of the world outside while it is executed. -/
abbrev Turn (Header : Type) : Type := Event Header × Answers

def takeTurn (lib : StackLib Header) (tr : Transaction Header) (turn : Turn Header) :
    Result Header := osipTransactionExecute lib tr turn.1 turn.2

/-- All that a transaction does from one event to the next. -/
def turns (lib : StackLib Header) : Transaction Header → List (Turn Header) → Result Header :=
  trace (takeTurn lib)

/-- A step reports as much as its states say: the end is told when the last state is reached,
and an outcome at most once, on the way to a state behind it. -/
structure Orderly (ctxType : FsmType) (state : State) (result : Result Header) : Prop where
  sameType : result.1.ctxType = ctxType
  kills : state.hasEnded ctxType + result.2.countP Effect.isKill =
    result.1.state.hasEnded ctxType
  outcomes : state.hasConcluded + result.2.countP Effect.isOutcome ≤
    result.1.state.hasConcluded

variable {ctxType : FsmType} {state : State} {result : Result Header} {tr : Transaction Header}
  {old : Option (Message Header)}

@[simp] theorem countP_freeOld_isKill : (freeOld old).countP Effect.isKill = 0 := by
  cases old <;> rfl

@[simp] theorem countP_freeOld_isOutcome : (freeOld old).countP Effect.isOutcome = 0 := by
  cases old <;> rfl

@[simp] theorem isOutcome_ictStatusReceived (sip : OsipMessage Header) :
    (ictStatusReceived sip).isOutcome = true := by
  unfold ictStatusReceived
  split_ifs <;> rfl

@[simp] theorem isOutcome_istStatusSent (sip : OsipMessage Header) :
    (istStatusSent sip).isOutcome = true := by
  unfold istStatusSent
  split_ifs <;> rfl

@[simp] theorem isOutcome_nictStatusReceived (sip : OsipMessage Header) :
    (nictStatusReceived sip).isOutcome = true := by
  unfold nictStatusReceived
  split_ifs <;> rfl

@[simp] theorem isOutcome_nistStatusSent (sip : OsipMessage Header) :
    (nistStatusSent sip).isOutcome = true := by
  unfold nistStatusSent
  split_ifs <;> rfl

theorem Orderly.after {effects : List (Effect Header)} (orderly : Orderly ctxType state result)
    (kills : effects.countP Effect.isKill = 0) (outcomes : effects.countP Effect.isOutcome = 0) :
    Orderly ctxType state (Result.after effects result) := by
  obtain ⟨sameType, killed, told⟩ := orderly
  refine ⟨sameType, ?_, ?_⟩
  · rw [Result.after, List.countP_append, kills, Nat.zero_add]
    exact killed
  · rw [Result.after, List.countP_append, outcomes, Nat.zero_add]
    exact told

/-- The transaction is of this type and in this state. -/
def Transaction.At (tr : Transaction Header) (ctxType : FsmType) (state : State) : Prop :=
  tr.ctxType = ctxType ∧ tr.state = state

variable {lib : StackLib Header} {sip : Message Header} {answers : Answers} {error : Int}
  {timer : TimerName} {fail : Transaction Header → Int → Result Header}
  {proceed : Transaction Header → Result Header} {last next : State}

theorem orderly_quiet {effects : List (Effect Header)} (here : tr.At ctxType next)
    (kills : effects.countP Effect.isKill = 0) (outcomes : effects.countP Effect.isOutcome = 0)
    (stays : state.hasEnded ctxType = next.hasEnded ctxType)
    (rises : state.hasConcluded ≤ next.hasConcluded) :
    Orderly ctxType state (tr, effects) := by
  refine ⟨here.1, ?_, ?_⟩
  · rw [kills, here.2, Nat.add_zero, stays]
  · rw [outcomes, here.2, Nat.add_zero]
    exact rises

theorem orderly_same {effects : List (Effect Header)} (here : tr.At ctxType state)
    (kills : effects.countP Effect.isKill = 0)
    (outcomes : effects.countP Effect.isOutcome = 0) : Orderly ctxType state (tr, effects) :=
  orderly_quiet here kills outcomes rfl (Nat.le_refl _)

theorem hasEnded_going (going : state ≠ ctxType.terminated) : state.hasEnded ctxType = 0 :=
  if_neg going

theorem hasEnded_terminated (ctxType : FsmType) : ctxType.terminated.hasEnded ctxType = 1 :=
  if_pos rfl

theorem hasConcluded_terminated (ctxType : FsmType) : ctxType.terminated.hasConcluded = 1 := by
  cases ctxType <;> rfl

theorem hasConcluded_le (state : State) : state.hasConcluded ≤ 1 := Bool.toNat_le _

theorem ne_terminated (unsettled : state.isConcluded = false) : state ≠ ctxType.terminated := by
  rintro rfl
  cases ctxType <;> cases unsettled

theorem orderly_end {effects : List (Effect Header)} (here : tr.At ctxType ctxType.terminated)
    (going : state ≠ ctxType.terminated) (kills : effects.countP Effect.isKill = 1)
    (outcomes : state.hasConcluded + effects.countP Effect.isOutcome ≤ 1) :
    Orderly ctxType state (tr, effects) := by
  refine ⟨here.1, ?_, ?_⟩
  · rw [kills, here.2, hasEnded_going going, hasEnded_terminated]
  · rw [here.2, hasConcluded_terminated]
    exact outcomes

/-- A state behind the final response, reached with one outcome at most. -/
theorem orderly_conclude {effects : List (Effect Header)} (here : tr.At ctxType next)
    (unsettled : state.isConcluded = false) (concluded : next.isConcluded = true)
    (stays : next ≠ ctxType.terminated) (kills : effects.countP Effect.isKill = 0)
    (outcomes : effects.countP Effect.isOutcome ≤ 1) :
    Orderly ctxType state (tr, effects) := by
  refine ⟨here.1, ?_, ?_⟩
  · rw [kills, here.2, hasEnded_going (ne_terminated unsettled), hasEnded_going stays]
  · rw [here.2, State.hasConcluded, State.hasConcluded, unsettled, concluded]
    exact (Nat.zero_add _).trans_le outcomes

theorem orderly_transportError (going : state ≠ ctxType.terminated) (tr : Transaction Header)
    (error : Int) (here : tr.At ctxType state) :
    Orderly ctxType state (handleTransportError ctxType ctxType.terminated tr error) :=
  orderly_end ⟨here.1, rfl⟩ going rfl (hasConcluded_le state)

theorem orderly_endingTimeout {report : List (Effect Header)} (here : tr.At ctxType state)
    (going : state ≠ ctxType.terminated) (kills : report.countP Effect.isKill = 0)
    (outcomes : state.hasConcluded + report.countP Effect.isOutcome ≤ 1) :
    Orderly ctxType state
      (endingTimeout ctxType ctxType.terminated timer report tr answers) := by
  unfold endingTimeout
  refine orderly_end ?_ going ?_ ?_
  · exact ⟨here.1, rfl⟩
  · rw [List.countP_append, kills]
    rfl
  · rw [List.countP_append]
    exact outcomes

theorem orderly_rcv1xx {received : MessageCallback} (here : tr.At ctxType state)
    (quiet : received.isOutcome = false) (stays : state.hasEnded ctxType = next.hasEnded ctxType)
    (rises : state.hasConcluded ≤ next.hasConcluded) :
    Orderly ctxType state (rcv1xx received next tr sip answers) := by
  unfold rcv1xx
  refine orderly_quiet ?_ ?_ ?_ stays rises
  · exact ⟨here.1, rfl⟩
  · rw [List.countP_append, countP_freeOld_isKill]
    rfl
  · rw [List.countP_append, countP_freeOld_isOutcome, List.countP_singleton, Effect.isOutcome, quiet]
    rfl

theorem countP_sndXxx (message : Option (Message Header)) (answers : Answers) :
    (osipTransactionSndXxx message answers).2.countP Effect.isKill = 0 ∧
      (osipTransactionSndXxx message answers).2.countP Effect.isOutcome = 0 := by
  unfold osipTransactionSndXxx
  split <;> exact ⟨rfl, rfl⟩

theorem orderly_stopReliable {withoutProtocol : Int} (here : tr.At ctxType state)
    (fails : ∀ tr error, Transaction.At tr ctxType state → Orderly ctxType state (fail tr error))
    (proceeds : ∀ tr, Transaction.At tr ctxType state → Orderly ctxType state (proceed tr)) :
    Orderly ctxType state (stopReliable lib fail withoutProtocol timer proceed tr) := by
  unfold stopReliable
  split
  · exact fails tr _ here
  · split
    · exact fails tr _ here
    · split
      · exact proceeds tr here
      · exact proceeds (tr.stopTimer timer) here

theorem orderly_sndResponse {sent : OsipMessage Header → MessageCallback}
    {finish : Transaction Header → Answers → Result Header} (here : tr.At ctxType state)
    (fails : ∀ tr error, Transaction.At tr ctxType state → Orderly ctxType state (fail tr error))
    (finishes : ∀ tr, Transaction.At tr ctxType state → Orderly ctxType state
      (Result.after [.callback (sent sip.sip) (some sip)] (finish tr answers))) :
    Orderly ctxType state (sndResponse fail sent finish tr sip answers) := by
  obtain ⟨kills, outcomes⟩ := countP_sndXxx (some sip) answers
  unfold sndResponse
  dsimp only
  split
  · apply (fails { tr with lastResponse := some sip } _ here).after
    · rw [List.countP_append, countP_freeOld_isKill, kills]
    · rw [List.countP_append, countP_freeOld_isOutcome, outcomes]
  · have whole := finishes { tr with lastResponse := some sip } here
    rw [Result.after] at whole
    rw [Result.after, List.append_assoc]
    apply whole.after
    · rw [List.countP_append, countP_freeOld_isKill, kills]
    · rw [List.countP_append, countP_freeOld_isOutcome, outcomes]

theorem orderly_rcvRequestAgain {receivedAgain : MessageCallback}
    {sentAgain : OsipMessage Header → MessageCallback} (here : tr.At ctxType state)
    (fails : ∀ tr error, Transaction.At tr ctxType state → Orderly ctxType state (fail tr error))
    (quiet : receivedAgain.isOutcome = false)
    (quietAgain : ∀ sip, (sentAgain sip).isOutcome = false) :
    Orderly ctxType state (rcvRequestAgain fail receivedAgain sentAgain tr sip answers) := by
  unfold rcvRequestAgain
  dsimp only
  split
  · exact orderly_same here rfl (by simp [Effect.isOutcome, quiet])
  · rename_i response _
    obtain ⟨kills, outcomes⟩ := countP_sndXxx tr.lastResponse answers
    split
    · apply Orderly.after (fails _ _ here)
      · simp [Effect.isKill, kills]
      · simp [Effect.isOutcome, quiet, outcomes]
    · apply orderly_same here
      · simp [Effect.isKill, kills]
      · simp [Effect.isOutcome, quiet, outcomes, quietAgain response.sip]

theorem orderly_ictSndInvite (here : tr.At .ict .ictPreCalling) :
    Orderly .ict .ictPreCalling (ictSndInvite lib tr sip answers) := by
  have called (tr : Transaction Header) (here : tr.At .ict .ictPreCalling) :
      Orderly .ict .ictPreCalling
        (osipTransactionSetState tr .ictCalling, [.callback .ictInviteSent tr.origRequest]) :=
    orderly_quiet ⟨here.1, rfl⟩ rfl rfl rfl (Nat.zero_le _)
  unfold ictSndInvite
  refine Orderly.after ?_ rfl rfl
  split
  · exact orderly_transportError (by decide) _ _ here
  · split
    · exact orderly_stopReliable here (orderly_transportError (by decide)) called
    · exact called _ here

theorem orderly_osipIctTimeoutAEvent (here : tr.At .ict .ictCalling) :
    Orderly .ict .ictCalling (osipIctTimeoutAEvent lib tr answers) := by
  unfold osipIctTimeoutAEvent
  refine Orderly.after ?_ rfl rfl
  split
  · exact orderly_transportError (by decide) _ _ here
  · split
    · exact orderly_stopReliable here (orderly_transportError (by decide))
        (fun tr here => orderly_same here rfl rfl)
    · exact orderly_same here rfl rfl

theorem orderly_ictRcv2xx (here : tr.At .ict state) (unsettled : state.isConcluded = false) :
    Orderly .ict state (ictRcv2xx tr sip answers) := by
  unfold ictRcv2xx
  refine orderly_end ?_ (ne_terminated unsettled) ?_ ?_
  · exact ⟨here.1, rfl⟩
  · rw [List.countP_append, countP_freeOld_isKill]
    rfl
  · rw [List.countP_append, countP_freeOld_isOutcome, State.hasConcluded, unsettled]
    exact Nat.le_refl 1

theorem orderly_ictRcv3456xx (here : tr.At .ict state) (unsettled : state.isConcluded = false) :
    Orderly .ict state (ictRcv3456xx lib tr sip answers) := by
  have changes : tr.state ≠ .ictCompleted := by
    rw [here.2]
    rintro rfl
    cases unsettled
  unfold ictRcv3456xx
  dsimp only
  rw [if_pos changes]
  split
  · refine orderly_end ?_ (ne_terminated unsettled) ?_ ?_
    · exact ⟨here.1, rfl⟩
    · rw [List.countP_append, countP_freeOld_isKill]
      rfl
    · rw [List.countP_append, countP_freeOld_isOutcome, State.hasConcluded, unsettled]
      exact Nat.zero_le 1
  · split
    · refine Orderly.after (orderly_transportError (ne_terminated unsettled) _ _ here) ?_ ?_
      · rw [List.countP_append, countP_freeOld_isKill]
        rfl
      · rw [List.countP_append, countP_freeOld_isOutcome]
        rfl
    · refine orderly_conclude (?_ : Transaction.At _ .ict .ictCompleted) unsettled rfl
        (by decide) ?_ ?_
      · exact ⟨here.1, rfl⟩
      · rw [List.append_assoc, List.countP_append, countP_freeOld_isKill]
        rfl
      · rw [List.append_assoc, List.countP_append, countP_freeOld_isOutcome, Nat.zero_add]
        have told (final : MessageCallback) (ack sip : Message Header) :
            [Effect.malloc ack, .send (some ack), .callback final (some sip),
                .callback .ictAckSent (some sip)].countP Effect.isOutcome =
              [Effect.callback final (some sip)].countP Effect.isOutcome := rfl
        exact (told _ _ _).trans_le List.countP_le_length

theorem orderly_ictRetransmitAck (here : tr.At .ict .ictCompleted) :
    Orderly .ict .ictCompleted (ictRetransmitAck tr sip answers) := by
  unfold ictRetransmitAck
  refine Orderly.after ?_ rfl rfl
  split
  · exact orderly_same ⟨here.1, rfl⟩ rfl rfl
  · exact orderly_transportError (by decide) _ _ here

@[simp] theorem isOutcome_istSentAgain (sip : OsipMessage Header) :
    (istSentAgain sip).isOutcome = false := by
  unfold istSentAgain
  split_ifs <;> rfl

@[simp] theorem isOutcome_nistSentAgain (sip : OsipMessage Header) :
    (nistSentAgain sip).isOutcome = false := by
  unfold nistSentAgain
  split_ifs <;> rfl

@[simp] theorem isOutcome_nictRequestSent (sip : OsipMessage Header) :
    (nictRequestSent sip).isOutcome = false := by
  unfold nictRequestSent
  split_ifs <;> rfl

@[simp] theorem isOutcome_nistRequestReceived (sip : OsipMessage Header) :
    (nistRequestReceived sip).isOutcome = false := by
  unfold nistRequestReceived
  split_ifs <;> rfl

theorem orderly_istRcvInvite (here : tr.At .ist state) (going : state ≠ .istTerminated) :
    Orderly .ist state (istRcvInvite tr sip answers) := by
  unfold istRcvInvite
  split
  · rename_i first
    have begins : state = .istPreProceeding := here.2.symm.trans first
    subst begins
    exact orderly_quiet ⟨here.1, rfl⟩ rfl rfl rfl (Nat.le_refl _)
  · exact orderly_rcvRequestAgain here (orderly_transportError going) rfl isOutcome_istSentAgain

theorem orderly_osipIstTimeoutGEvent (here : tr.At .ist .istCompleted) :
    Orderly .ist .istCompleted (osipIstTimeoutGEvent tr answers) := by
  obtain ⟨kills, outcomes⟩ := countP_sndXxx tr.lastResponse answers
  unfold osipIstTimeoutGEvent
  dsimp only [Transaction.setTimer]
  split
  · refine Orderly.after (orderly_transportError (by decide) _ _ ?_) kills outcomes
    exact ⟨here.1, here.2⟩
  · refine orderly_same (?_ : Transaction.At _ .ist .istCompleted) ?_ ?_
    · exact ⟨here.1, here.2⟩
    · rw [List.countP_append, kills]
      rfl
    · rw [List.countP_append, outcomes]
      rfl

theorem orderly_istSnd1xx (here : tr.At .ist state) (unsettled : state.isConcluded = false) :
    Orderly .ist state (istSnd1xx tr sip answers) := by
  refine orderly_sndResponse here (orderly_transportError (ne_terminated unsettled)) ?_
  exact fun tr here => orderly_same here rfl rfl

theorem orderly_istSnd2xx (here : tr.At .ist state) (unsettled : state.isConcluded = false) :
    Orderly .ist state (istSnd2xx tr sip answers) := by
  refine orderly_sndResponse here (orderly_transportError (ne_terminated unsettled)) ?_
  intro tr here
  refine orderly_end ?_ (ne_terminated unsettled) rfl ?_
  · exact ⟨here.1, rfl⟩
  · rw [State.hasConcluded, unsettled]
    exact Nat.le_refl 1

theorem orderly_istSnd3456xx (here : tr.At .ist state) (unsettled : state.isConcluded = false) :
    Orderly .ist state (istSnd3456xx tr sip answers) := by
  refine orderly_sndResponse here (orderly_transportError (ne_terminated unsettled)) ?_
  intro tr here
  refine orderly_conclude (?_ : Transaction.At _ .ist .istCompleted) unsettled rfl (by decide)
    rfl List.countP_le_length
  dsimp only
  split <;> exact ⟨here.1, rfl⟩

theorem orderly_istRcvAck (here : tr.At .ist state) (going : state ≠ .istTerminated) :
    Orderly .ist state (istRcvAck tr sip answers) := by
  have quiet : (if tr.state = .istCompleted then MessageCallback.istAckReceived
      else .istAckReceivedAgain).isOutcome = false := by
    split <;> rfl
  unfold istRcvAck
  refine orderly_quiet (?_ : Transaction.At _ .ist .istConfirmed) ?_ ?_ ?_ ?_
  · exact ⟨here.1, rfl⟩
  · rw [List.countP_append, countP_freeOld_isKill]
    rfl
  · rw [List.countP_append, countP_freeOld_isOutcome, List.countP_singleton, Effect.isOutcome,
      quiet]
    rfl
  · rw [hasEnded_going going]
    rfl
  · exact hasConcluded_le state

theorem orderly_nictSndRequest (here : tr.At .nict .nictPreTrying) :
    Orderly .nict .nictPreTrying (nictSndRequest tr sip answers) := by
  unfold nictSndRequest
  refine Orderly.after ?_ rfl rfl
  split
  · refine orderly_quiet (?_ : Transaction.At _ .nict .nictTrying) rfl ?_ rfl (Nat.le_refl _)
    · split <;> exact ⟨here.1, rfl⟩
    · simp [Effect.isOutcome]
  · exact orderly_transportError (by decide) _ _ here

theorem orderly_osipNictTimeoutEEvent (here : tr.At .nict state)
    (unsettled : state.isConcluded = false) :
    Orderly .nict state (osipNictTimeoutEEvent lib tr answers) := by
  have going : state ≠ FsmType.nict.terminated := ne_terminated unsettled
  unfold osipNictTimeoutEEvent
  refine Orderly.after ?_ rfl rfl
  split
  · exact orderly_transportError going _ _ here
  · split
    · exact orderly_stopReliable here (orderly_transportError going)
        (fun tr here => orderly_same here rfl rfl)
    · exact orderly_same here rfl rfl

theorem orderly_nictRcv23456xx (here : tr.At .nict state)
    (unsettled : state.isConcluded = false) :
    Orderly .nict state (nictRcv23456xx tr sip answers) := by
  unfold nictRcv23456xx
  refine orderly_conclude (?_ : Transaction.At _ .nict .nictCompleted) unsettled rfl
    (by decide) ?_ ?_
  · dsimp only
    split <;> exact ⟨here.1, rfl⟩
  · rw [List.countP_append, countP_freeOld_isKill]
    rfl
  · rw [List.countP_append, countP_freeOld_isOutcome, Nat.zero_add]
    exact List.countP_le_length

theorem orderly_nistRcvRequest (here : tr.At .nist state) (going : state ≠ .nistTerminated) :
    Orderly .nist state (nistRcvRequest tr sip answers) := by
  unfold nistRcvRequest
  split
  · rename_i first
    have begins : state = .nistPreTrying := here.2.symm.trans first
    subst begins
    refine orderly_quiet (?_ : Transaction.At _ .nist .nistTrying) rfl ?_ rfl (Nat.le_refl _)
    · exact ⟨here.1, rfl⟩
    · simp [Effect.isOutcome]
  · exact orderly_rcvRequestAgain here (orderly_transportError going) rfl isOutcome_nistSentAgain

theorem orderly_nistSnd1xx (here : tr.At .nist state) (unsettled : state.isConcluded = false) :
    Orderly .nist state (nistSnd1xx tr sip answers) := by
  refine orderly_sndResponse here (orderly_transportError (ne_terminated unsettled)) ?_
  intro tr here
  refine orderly_quiet (?_ : Transaction.At _ .nist .nistProceeding) rfl rfl ?_ ?_
  · exact ⟨here.1, rfl⟩
  · rw [hasEnded_going (ne_terminated unsettled)]
    rfl
  · rw [State.hasConcluded, unsettled]
    exact Nat.zero_le _

theorem orderly_nistSnd23456xx (here : tr.At .nist state)
    (unsettled : state.isConcluded = false) :
    Orderly .nist state (nistSnd23456xx tr sip answers) := by
  refine orderly_sndResponse here (orderly_transportError (ne_terminated unsettled)) ?_
  intro tr here
  refine orderly_conclude (?_ : Transaction.At _ .nist .nistCompleted) unsettled rfl (by decide)
    rfl List.countP_le_length
  dsimp only
  split <;> exact ⟨here.1, rfl⟩

/-- What every step of a transaction keeps. -/
def stepOrderly (tr : Transaction Header) (_ : Event Header) (_ : Answers)
    (result : Result Header) : Prop :=
  Orderly tr.ctxType tr.state result

theorem meets_onMessage {type : EventType}
    {method : Transaction Header → Message Header → Answers → Result Header}
    (orderly : ∀ {tr sip answers}, Transaction.At tr ctxType state →
      Orderly ctxType state (method tr sip answers)) :
    (Transition.onMessage state type method).Meets stepOrderly ctxType := by
  intro tr evt sip answers sameType here _ _
  unfold stepOrderly
  rw [sameType, here]
  exact orderly ⟨sameType, here⟩

theorem meets_onTimeout {method : Transaction Header → Answers → Result Header}
    (orderly : ∀ {tr answers}, Transaction.At tr ctxType state →
      Orderly ctxType state (method tr answers)) :
    (Transition.onTimeout state timer method).Meets stepOrderly ctxType := by
  intro tr answers sameType here
  unfold stepOrderly
  rw [sameType, here]
  exact orderly ⟨sameType, here⟩

theorem ictFsm_orderly : ∀ transition ∈ ictFsm lib, transition.Meets stepOrderly .ict := by
  unfold ictFsm
  simp only [List.forall_mem_cons]
  refine ⟨meets_onMessage orderly_ictSndInvite, meets_onTimeout orderly_osipIctTimeoutAEvent,
    ?timeoutB, meets_onMessage ?ringing, meets_onMessage ?answered, meets_onMessage ?refused,
    meets_onMessage ?ringingAgain, meets_onMessage ?answeredLater, meets_onMessage ?refusedLater,
    meets_onMessage orderly_ictRetransmitAck, ?timeoutD, ?rest⟩
  case timeoutB =>
    exact meets_onTimeout (fun here => orderly_endingTimeout here (by decide) rfl (Nat.le_refl 1))
  case ringing => exact fun here => orderly_rcv1xx here rfl rfl (Nat.le_refl 0)
  case answered => exact fun here => orderly_ictRcv2xx here rfl
  case refused => exact fun here => orderly_ictRcv3456xx here rfl
  case ringingAgain => exact fun here => orderly_rcv1xx here rfl rfl (Nat.le_refl 0)
  case answeredLater => exact fun here => orderly_ictRcv2xx here rfl
  case refusedLater => exact fun here => orderly_ictRcv3456xx here rfl
  case timeoutD =>
    exact meets_onTimeout (fun here => orderly_endingTimeout here (by decide) rfl (Nat.le_refl 1))
  case rest => exact fun transition member => absurd member List.not_mem_nil

theorem istFsm_orderly :
    ∀ transition ∈ (istFsm : List (Transition Header)), transition.Meets stepOrderly .ist := by
  unfold istFsm
  simp only [List.forall_mem_cons]
  refine ⟨meets_onMessage ?invite, meets_onMessage ?inviteAgain, meets_onMessage ?inviteLate,
    meets_onTimeout orderly_osipIstTimeoutGEvent, meets_onTimeout ?timeoutH,
    meets_onMessage ?ringing, meets_onMessage ?answer, meets_onMessage ?refusal,
    meets_onMessage ?ack, meets_onMessage ?ackAgain, meets_onTimeout ?timeoutI, ?rest⟩
  case invite => exact fun here => orderly_istRcvInvite here (by decide)
  case inviteAgain => exact fun here => orderly_istRcvInvite here (by decide)
  case inviteLate => exact fun here => orderly_istRcvInvite here (by decide)
  case timeoutH => exact fun here => orderly_endingTimeout here (by decide) rfl (Nat.le_refl 1)
  case ringing => exact fun here => orderly_istSnd1xx here rfl
  case answer => exact fun here => orderly_istSnd2xx here rfl
  case refusal => exact fun here => orderly_istSnd3456xx here rfl
  case ack => exact fun here => orderly_istRcvAck here (by decide)
  case ackAgain => exact fun here => orderly_istRcvAck here (by decide)
  case timeoutI => exact fun here => orderly_endingTimeout here (by decide) rfl (Nat.le_refl 1)
  case rest => exact fun transition member => absurd member List.not_mem_nil

theorem nictFsm_orderly : ∀ transition ∈ nictFsm lib, transition.Meets stepOrderly .nict := by
  unfold nictFsm
  simp only [List.forall_mem_cons]
  refine ⟨meets_onMessage orderly_nictSndRequest, meets_onTimeout ?timeoutF,
    meets_onTimeout ?timeoutE, meets_onMessage ?trying, meets_onMessage ?answered,
    meets_onMessage ?refused, meets_onTimeout ?lateF, meets_onTimeout ?lateE,
    meets_onMessage ?tryingAgain, meets_onMessage ?answeredLater, meets_onMessage ?refusedLater,
    meets_onTimeout ?timeoutK, ?rest⟩
  case timeoutF => exact fun here => orderly_endingTimeout here (by decide) rfl (Nat.le_refl 1)
  case timeoutE => exact fun here => orderly_osipNictTimeoutEEvent here rfl
  case trying => exact fun here => orderly_rcv1xx here rfl rfl (Nat.le_refl 0)
  case answered => exact fun here => orderly_nictRcv23456xx here rfl
  case refused => exact fun here => orderly_nictRcv23456xx here rfl
  case lateF => exact fun here => orderly_endingTimeout here (by decide) rfl (Nat.le_refl 1)
  case lateE => exact fun here => orderly_osipNictTimeoutEEvent here rfl
  case tryingAgain => exact fun here => orderly_rcv1xx here rfl rfl (Nat.le_refl 0)
  case answeredLater => exact fun here => orderly_nictRcv23456xx here rfl
  case refusedLater => exact fun here => orderly_nictRcv23456xx here rfl
  case timeoutK => exact fun here => orderly_endingTimeout here (by decide) rfl (Nat.le_refl 1)
  case rest => exact fun transition member => absurd member List.not_mem_nil

theorem nistFsm_orderly :
    ∀ transition ∈ (nistFsm : List (Transition Header)), transition.Meets stepOrderly .nist := by
  unfold nistFsm
  simp only [List.forall_mem_cons]
  refine ⟨meets_onMessage ?request, meets_onMessage ?trying, meets_onMessage ?answer,
    meets_onMessage ?refusal, meets_onMessage ?tryingAgain, meets_onMessage ?answerLater,
    meets_onMessage ?refusalLater, meets_onMessage ?requestAgain, meets_onTimeout ?timeoutJ,
    meets_onMessage ?requestLate, ?rest⟩
  case request => exact fun here => orderly_nistRcvRequest here (by decide)
  case trying => exact fun here => orderly_nistSnd1xx here rfl
  case answer => exact fun here => orderly_nistSnd23456xx here rfl
  case refusal => exact fun here => orderly_nistSnd23456xx here rfl
  case tryingAgain => exact fun here => orderly_nistSnd1xx here rfl
  case answerLater => exact fun here => orderly_nistSnd23456xx here rfl
  case refusalLater => exact fun here => orderly_nistSnd23456xx here rfl
  case requestAgain => exact fun here => orderly_nistRcvRequest here (by decide)
  case timeoutJ => exact fun here => orderly_endingTimeout here (by decide) rfl (Nat.le_refl 1)
  case requestLate => exact fun here => orderly_nistRcvRequest here (by decide)
  case rest => exact fun transition member => absurd member List.not_mem_nil

theorem getFsm_orderly (ctxType : FsmType) :
    ∀ transition ∈ getFsm lib ctxType, transition.Meets stepOrderly ctxType := by
  cases ctxType with
  | ict => exact ictFsm_orderly
  | ist => exact istFsm_orderly
  | nict => exact nictFsm_orderly
  | nist => exact nistFsm_orderly

theorem takeTurn_orderly (tr : Transaction Header) (turn : Turn Header) :
    Orderly tr.ctxType tr.state (takeTurn lib tr turn) := by
  refine @execute_meets _ lib tr turn.1 turn.2 stepOrderly (getFsm_orderly tr.ctxType) ?_
  exact orderly_same ⟨rfl, rfl⟩ countP_freeOld_isKill countP_freeOld_isOutcome

theorem fsmFindmethod_terminated (type : EventType) (ctxType : FsmType) :
    fsmFindmethod type ctxType.terminated (getFsm lib ctxType) = none := by
  cases ctxType <;>
    simp [fsmFindmethod, getFsm, ictFsm, istFsm, nictFsm, nistFsm, FsmType.terminated,
      Transition.state]

theorem takeTurn_terminated {turn : Turn Header} (ended : tr.state = tr.ctxType.terminated) :
    (takeTurn lib tr turn).1 = tr ∧ ∀ effect ∈ (takeTurn lib tr turn).2, effect.isFree := by
  have frees (sip : Option (Message Header)) : ∀ effect ∈ freeOld sip, effect.isFree := by
    cases sip with
    | none => exact fun effect member => absurd member List.not_mem_nil
    | some sip => exact fun effect member => List.mem_singleton.mp member ▸ rfl
  unfold takeTurn osipTransactionExecute
  split
  · exact ⟨rfl, frees none⟩
  · rw [ended, fsmFindmethod_terminated]
    exact ⟨rfl, frees _⟩

theorem turns_terminated (ended : tr.state = tr.ctxType.terminated) (inputs : List (Turn Header)) :
    (turns lib tr inputs).1.state = tr.ctxType.terminated ∧
      ∀ effect ∈ (turns lib tr inputs).2, effect.isFree := by
  have kept := @all_trace_of_ended _ _ _ (takeTurn lib) tr inputs (fun now => now = tr)
    (fun effect => effect.isFree) rfl (fun now turn same => by
      subst same
      exact takeTurn_terminated ended)
  unfold turns
  rw [kept.1]
  exact ⟨ended, kept.2⟩

theorem turns_type (inputs : List (Turn Header)) :
    (turns lib tr inputs).1.ctxType = tr.ctxType := by
  apply @trace_induction _ _ _ (takeTurn lib) tr inputs (fun now _ => now.ctxType = tr.ctxType)
  · rfl
  · intro now _ turn same
    exact (takeTurn_orderly now turn).sameType.trans same

theorem turns_kills (inputs : List (Turn Header)) :
    tr.state.hasEnded tr.ctxType + (turns lib tr inputs).2.countP Effect.isKill =
      (turns lib tr inputs).1.state.hasEnded (turns lib tr inputs).1.ctxType := by
  apply @countP_trace _ _ _ (takeTurn lib) tr inputs
    (fun now : Transaction Header => now.state.hasEnded now.ctxType)
  intro now turn
  have orderly : Orderly _ _ (takeTurn lib now turn) := takeTurn_orderly now turn
  rw [orderly.sameType]
  exact orderly.kills

theorem turns_outcomes (inputs : List (Turn Header)) :
    tr.state.hasConcluded + (turns lib tr inputs).2.countP Effect.isOutcome ≤
      (turns lib tr inputs).1.state.hasConcluded :=
  countP_trace_le (fun now turn => (takeTurn_orderly now turn).outcomes)

theorem osipTransactionInit_first {request : OsipMessage Header} {now : Int}
    (init : osipTransactionInit lib ctxType request now = some tr) :
    tr.At ctxType ctxType.first ∧ tr.origRequest = none ∧ tr.lastResponse = none ∧
      tr.ack = none := by
  simp only [osipTransactionInit, bind, Option.bind_eq_some_iff, pure, Option.some.injEq] at init
  obtain ⟨_, _, _, _, _, _, _, _, _, _, _, _, _, _, _, _, _, _, same⟩ := init
  subst same
  exact ⟨⟨rfl, rfl⟩, rfl, rfl, rfl⟩

/-- In whatever order its events come, a transaction tells its end once, when it reaches the
last state, reports at most one outcome, and after its end it only throws messages away. -/
theorem turns_orderly {request : OsipMessage Header} {now : Int}
    (init : osipTransactionInit lib ctxType request now = some tr)
    (inputs later : List (Turn Header)) :
    (turns lib tr inputs).2.countP Effect.isKill =
        (turns lib tr inputs).1.state.hasEnded ctxType ∧
      (turns lib tr inputs).2.countP Effect.isOutcome ≤
        (turns lib tr inputs).1.state.hasConcluded ∧
      ((turns lib tr inputs).1.state = ctxType.terminated →
        (turns lib (turns lib tr inputs).1 later).1.state = ctxType.terminated ∧
          ∀ effect ∈ (turns lib (turns lib tr inputs).1 later).2, effect.isFree) := by
  obtain ⟨⟨type, state⟩, -⟩ := osipTransactionInit_first init
  have sameType := (@turns_type _ tr lib inputs).trans type
  have kills := @turns_kills _ tr lib inputs
  have outcomes := @turns_outcomes _ tr lib inputs
  rw [type, state, sameType, hasEnded_going (ne_terminated (by cases ctxType <;> rfl)),
    Nat.zero_add] at kills
  refine ⟨kills, (Nat.le_add_left _ _).trans outcomes, fun ended => ?_⟩
  rw [← sameType] at ended ⊢
  exact turns_terminated ended later

theorem turns_orderly_options : ∃ tr,
    osipTransactionInit textLib .nict optionsRequest 0 = some tr ∧
      (turns textLib tr [(.outgoing ⟨0, optionsRequest⟩, ⟨0, 0, 1⟩),
        (.timeout .f, ⟨0, 0, 2⟩)]).2.countP Effect.isKill = 1 := by
  refine ⟨_, rfl, ?_⟩
  have orderly := @turns_orderly _ .nict _ textLib optionsRequest 0 rfl
    [(.outgoing ⟨0, optionsRequest⟩, ⟨0, 0, 1⟩), (.timeout .f, ⟨0, 0, 2⟩)] []
  exact orderly.1.trans rfl

/-- An outcome, or that the request could not be sent. -/
def Effect.isVerdict (effect : Effect Header) : Bool :=
  effect.isOutcome || effect.isTransportError

/-- The verdicts of a step are as many as its states say. -/
def Settles (state : State) (result : Result Header) : Prop :=
  state.hasConcluded + result.2.countP Effect.isVerdict = result.1.state.hasConcluded

@[simp] theorem countP_freeOld_isVerdict : (freeOld old).countP Effect.isVerdict = 0 := by
  cases old <;> rfl

theorem Settles.after {effects : List (Effect Header)} (settles : Settles state result)
    (quiet : effects.countP Effect.isVerdict = 0) : Settles state (Result.after effects result) := by
  unfold Settles Result.after
  rw [List.countP_append, quiet, Nat.zero_add]
  exact settles

theorem settles_quiet {effects : List (Effect Header)} (quiet : effects.countP Effect.isVerdict = 0)
    (same : state.hasConcluded = tr.state.hasConcluded) : Settles state (tr, effects) := by
  unfold Settles
  rw [quiet, Nat.add_zero, same]

theorem settles_verdict {effects : List (Effect Header)} (told : effects.countP Effect.isVerdict = 1)
    (unsettled : state.isConcluded = false) (concluded : tr.state.isConcluded = true) :
    Settles state (tr, effects) := by
  unfold Settles State.hasConcluded
  rw [told, unsettled, concluded]
  rfl

theorem settles_transportError (unsettled : state.isConcluded = false) (tr : Transaction Header)
    (error : Int) : Settles state (nictHandleTransportError tr error) :=
  settles_verdict rfl unsettled rfl

theorem settles_nictSndRequest (here : tr.state = .nictPreTrying) :
    Settles tr.state (nictSndRequest tr sip answers) := by
  rw [here]
  unfold nictSndRequest
  refine Settles.after ?_ rfl
  split
  · apply settles_quiet
    · simp [Effect.isVerdict, Effect.isOutcome, Effect.isTransportError]
    · rfl
  · exact settles_transportError rfl _ _

theorem settles_stopReliable {withoutProtocol : Int} (here : tr.state = state)
    (unsettled : state.isConcluded = false)
    (proceeds : ∀ now : Transaction Header, now.state = state → Settles state (proceed now)) :
    Settles state
      (stopReliable lib nictHandleTransportError withoutProtocol timer proceed tr) := by
  unfold stopReliable
  split
  · exact settles_transportError unsettled _ _
  · split
    · exact settles_transportError unsettled _ _
    · split
      · exact proceeds tr here
      · exact proceeds (tr.stopTimer timer) here

theorem settles_osipNictTimeoutEEvent (here : tr.state = state)
    (unsettled : state.isConcluded = false) :
    Settles state (osipNictTimeoutEEvent lib tr answers) := by
  have again (now : Transaction Header) (same : now.state = state) : Settles state
      (now, [Effect.callback .nictRequestSentAgain now.origRequest]) :=
    settles_quiet rfl (congrArg State.hasConcluded same.symm)
  unfold osipNictTimeoutEEvent
  refine Settles.after ?_ rfl
  split
  · exact settles_transportError unsettled _ _
  · split
    · exact settles_stopReliable here unsettled again
    · exact settles_quiet rfl (congrArg State.hasConcluded here.symm)

theorem settles_nictRcv23456xx (unsettled : tr.state.isConcluded = false) :
    Settles tr.state (nictRcv23456xx tr sip answers) := by
  unfold nictRcv23456xx
  refine settles_verdict ?_ unsettled rfl
  rw [List.countP_append, countP_freeOld_isVerdict]
  simp [Effect.isVerdict, Effect.isOutcome]

theorem settles_nictRcv1xx (unsettled : tr.state.isConcluded = false) :
    Settles tr.state (nictRcv1xx tr sip answers) := by
  apply settles_quiet
  · rw [List.countP_append, countP_freeOld_isVerdict]
    rfl
  · unfold State.hasConcluded
    rw [unsettled]
    rfl

/-- What every step of the client keeps. -/
def stepSettles (tr : Transaction Header) (_ : Event Header) (_ : Answers)
    (result : Result Header) : Prop :=
  Settles tr.state result

theorem nictFsm_settles : ∀ transition ∈ nictFsm lib, transition.Meets stepSettles .nict := by
  unfold nictFsm
  simp only [List.forall_mem_cons, Transition.Meets, stepSettles]
  have unsettled {tr : Transaction Header} {now : State} (here : tr.state = now)
      (going : now.isConcluded = false) : tr.state.isConcluded = false := here ▸ going
  refine ⟨?send, ?timeoutF, ?timeoutE, ?trying, ?answered, ?refused, ?lateF, ?lateE,
    ?tryingAgain, ?answeredLater, ?refusedLater, ?timeoutK, ?rest⟩
  case send => exact fun tr evt sip answers _ here _ _ => settles_nictSndRequest here
  case timeoutF | lateF =>
    exact fun tr answers _ here => settles_verdict rfl (unsettled here rfl) rfl
  case timeoutE | lateE =>
    exact fun tr answers _ here => settles_osipNictTimeoutEEvent rfl (unsettled here rfl)
  case trying | tryingAgain =>
    exact fun tr evt sip answers _ here _ _ => settles_nictRcv1xx (unsettled here rfl)
  case answered | refused | answeredLater | refusedLater =>
    exact fun tr evt sip answers _ here _ _ => settles_nictRcv23456xx (unsettled here rfl)
  case timeoutK =>
    intro tr answers _ here
    rw [here]
    exact settles_quiet rfl rfl
  case rest => exact fun transition member => absurd member List.not_mem_nil

/-- In every run of a client transaction for a request other than INVITE, the application is
told once how the request went (a final response, that none came in time, or that the request
could not be sent) where the transaction is behind its final response, and not before. -/
theorem nict_told_once {request : OsipMessage Header} {now : Int}
    (init : osipTransactionInit lib .nict request now = some tr) (inputs : List (Turn Header)) :
    (turns lib tr inputs).2.countP Effect.isVerdict =
      (turns lib tr inputs).1.state.hasConcluded := by
  obtain ⟨⟨type, state⟩, -⟩ := osipTransactionInit_first init
  have kept : (turns lib tr inputs).1.ctxType = .nict ∧
      (turns lib tr inputs).2.countP Effect.isVerdict =
        (turns lib tr inputs).1.state.hasConcluded := by
    apply @trace_induction _ _ _ (takeTurn lib) tr inputs (fun now past =>
      now.ctxType = .nict ∧ past.countP Effect.isVerdict = now.state.hasConcluded)
    · rw [state]
      exact ⟨type, rfl⟩
    · intro now past turn ⟨sameType, told⟩
      have step : Settles now.state (takeTurn lib now turn) := by
        refine @execute_meets _ lib now turn.1 turn.2 stepSettles ?_ ?_
        · rw [sameType]
          exact nictFsm_settles
        · exact settles_quiet countP_freeOld_isVerdict rfl
      refine ⟨(takeTurn_orderly now turn).sameType.trans sameType, ?_⟩
      rw [List.countP_append, told]
      exact step
  exact kept.2

theorem nict_told_once_options : ∃ tr,
    osipTransactionInit textLib .nict optionsRequest 0 = some tr ∧
      (turns textLib tr [(.outgoing ⟨0, optionsRequest⟩, ⟨0, 0, 1⟩),
        (.timeout .f, ⟨0, 0, 2⟩)]).2.countP Effect.isVerdict = 1 := by
  refine ⟨_, rfl, ?_⟩
  have told := @nict_told_once _ _ textLib optionsRequest 0 rfl
    [(.outgoing ⟨0, optionsRequest⟩, ⟨0, 0, 1⟩), (.timeout .f, ⟨0, 0, 2⟩)]
  exact told.trans rfl

end Gb28181.Osip2
