import Gb28181.Lib.Ledger
import Gb28181.Osip2.Runs
import Mathlib.Tactic.Abel

namespace Gb28181.Osip2

open Gb28181.Lib Gb28181.Osip

variable {Header : Type}

/-- What an effect does to the memory. Only a timeout is told without a message. -/
def Effect.deeds : Effect Header → List (Deed Nat)
  | .send (some message) => [.touch message.address]
  | .send none => [.fault]
  | .callback _ (some message) => [.touch message.address]
  | .callback .ictStatusTimeout none => []
  | .callback .nictStatusTimeout none => []
  | .callback _ none => [.fault]
  | .transportError _ _ => []
  | .kill _ => []
  | .malloc message => [.take message.address]
  | .free message => [.drop message.address]

def addresses : Option (Message Header) → Multiset Nat
  | some message => {message.address}
  | none => 0

/-- The messages that a transaction holds. -/
def Transaction.held (tr : Transaction Header) : Multiset Nat :=
  addresses tr.origRequest + (addresses tr.lastResponse + addresses tr.ack)

/-- A turn that begins where the message of its event is put into memory. -/
def memoryTurn (lib : StackLib Header) (tr : Transaction Header) (turn : Turn Header) :
    Transaction Header × List (Deed Nat) :=
  let result := takeTurn lib tr turn
  (result.1, (turn.1.sip.toList.map fun message => .take message.address) ++
    result.2.flatMap Effect.deeds)

/-- Which messages there are in which state. A request is only stored where there is none. -/
def State.Has : State → Option (Message Header) → Option (Message Header) → Prop
  | .ictPreCalling, request, ack => request = none ∧ ack = none
  | .ictCalling, request, ack => request ≠ none ∧ ack = none
  | .ictProceeding, request, ack => request ≠ none ∧ ack = none
  | .ictCompleted, request, ack => request ≠ none ∧ ack ≠ none
  | .istPreProceeding, request, _ => request = none
  | .nictPreTrying, request, _ => request = none
  | .nistPreTrying, request, _ => request = none
  | _, request, _ => request ≠ none

/-- The effects go well where this is held, and leave that. -/
def Balanced (held : Multiset Nat) (effects : List (Effect Header)) (kept : Multiset Nat) : Prop :=
  ledger held (effects.flatMap Effect.deeds) = some kept

/-- Nothing is done but to use what is held. -/
def Effect.Uses (held : Multiset Nat) (effect : Effect Header) : Prop :=
  ∀ deed ∈ effect.deeds, Touches held deed

/-- A step that leaves what its transaction then holds, and that is what the state says. -/
structure Kept (held : Multiset Nat) (result : Result Header) : Prop where
  balanced : Balanced held result.2 result.1.held
  has : result.1.state.Has result.1.origRequest result.1.ack

variable {held kept later : Multiset Nat} {effects more : List (Effect Header)}
  {message : Message Header} {old : Option (Message Header)} {type : MessageCallback}

theorem Balanced.append (first : Balanced held effects kept) (second : Balanced kept more later) :
    Balanced held (effects ++ more) later := by
  unfold Balanced
  rw [List.flatMap_append]
  exact ledger_trans first second

theorem balanced_freeOld : Balanced (addresses old + held) (freeOld old) held := by
  cases old with
  | none => exact congrArg some (zero_add held)
  | some message => exact ledger_drop

theorem balanced_uses (uses : ∀ effect ∈ effects, effect.Uses held) :
    Balanced held effects held := by
  apply ledger_touches
  intro deed member
  obtain ⟨effect, here, done⟩ := List.mem_flatMap.mp member
  exact uses effect here deed done

theorem uses_touch {effect : Effect Header} {address : Nat}
    (same : effect.deeds = [.touch address]) (here : address ∈ held) : effect.Uses held := by
  intro deed member
  rw [same] at member
  exact ⟨address, here, List.mem_singleton.mp member⟩

theorem uses_nothing {effect : Effect Header} (same : effect.deeds = []) : effect.Uses held := by
  intro deed member
  rw [same] at member
  exact absurd member List.not_mem_nil

theorem uses_send {sent : Option (Message Header)} (some_sent : sent ≠ none)
    (here : addresses sent ≤ held) : (Effect.send sent).Uses held := by
  cases sent with
  | none => exact absurd rfl some_sent
  | some message => exact uses_touch rfl (Multiset.singleton_le.mp here)

theorem uses_callback {sent : Option (Message Header)} (some_sent : sent ≠ none)
    (here : addresses sent ≤ held) : (Effect.callback type sent).Uses held := by
  cases sent with
  | none => exact absurd rfl some_sent
  | some message => exact uses_touch rfl (Multiset.singleton_le.mp here)

variable {result : Result Header} {tr : Transaction Header} {ctxType : FsmType} {state last : State}
  {lib : StackLib Header} {sip : Message Header} {answers : Answers} {timer : TimerName}
  {fail : Transaction Header → Int → Result Header} {proceed : Transaction Header → Result Header}

theorem Kept.after (step : Kept kept result) (front : Balanced held effects kept) :
    Kept held (Result.after effects result) :=
  ⟨front.append step.balanced, step.has⟩

theorem Kept.front (front : Balanced held effects kept) (step : Kept kept (tr, more)) :
    Kept held (tr, effects ++ more) :=
  step.after front

theorem kept_uses (same : tr.held = held) (uses : ∀ effect ∈ effects, effect.Uses held)
    (has : tr.state.Has tr.origRequest tr.ack) : Kept held (tr, effects) :=
  ⟨(balanced_uses uses).trans (congrArg some same.symm), has⟩

theorem request_le : addresses tr.origRequest ≤ tr.held := Multiset.le_add_right _ _

theorem response_le : addresses tr.lastResponse ≤ tr.held :=
  le_trans (Multiset.le_add_right _ _) (Multiset.le_add_left _ _)

theorem ack_le : addresses tr.ack ≤ tr.held :=
  le_trans (Multiset.le_add_left _ _) (Multiset.le_add_left _ _)

theorem uses_of_two {first second : Effect Header} (here : first.Uses held)
    (there : second.Uses held) : ∀ effect ∈ [first, second], effect.Uses held := by
  intro effect member
  rcases List.mem_cons.mp member with rfl | member
  · exact here
  · rw [List.mem_singleton.mp member]
    exact there

theorem uses_of_one {only : Effect Header} (here : only.Uses held) :
    ∀ effect ∈ [only], effect.Uses held := by
  intro effect member
  rw [List.mem_singleton.mp member]
  exact here

theorem kept_transportError (ends : last.Has tr.origRequest tr.ack) (type : FsmType) (error : Int)
    (same : tr.held = held) : Kept held (handleTransportError type last tr error) :=
  kept_uses same (uses_of_two (uses_nothing rfl) (uses_nothing rfl)) ends

theorem kept_endingTimeout {type : FsmType} {report : List (Effect Header)}
    (ends : last.Has tr.origRequest tr.ack)
    (quiet : report.flatMap Effect.deeds = []) :
    Kept tr.held (endingTimeout type last timer report tr answers) := by
  refine ⟨?_, ends⟩
  have front : Balanced tr.held report tr.held := by
    unfold Balanced
    rw [quiet]
    rfl
  refine front.append (balanced_uses fun effect member => ?_)
  rw [List.mem_singleton.mp member]
  exact uses_nothing rfl

/-- The message of the event takes the place of the last response. -/
theorem balanced_newResponse : Balanced (addresses (some sip) + tr.held) (freeOld tr.lastResponse)
    { tr with lastResponse := some sip : Transaction Header }.held := by
  have sorted : addresses (some sip) + tr.held = addresses tr.lastResponse +
      { tr with lastResponse := some sip : Transaction Header }.held := by
    unfold Transaction.held
    abel
  rw [sorted]
  exact balanced_freeOld

theorem kept_rcv1xx {received : MessageCallback} {next : State}
    (has : next.Has tr.origRequest tr.ack) :
    Kept (addresses (some sip) + tr.held) (rcv1xx received next tr sip answers) :=
  Kept.front balanced_newResponse
    (kept_uses rfl (uses_of_one (uses_callback (Option.some_ne_none sip) response_le)) has)

theorem balanced_sndXxx {response : Option (Message Header)} (here : addresses response ≤ held) :
    Balanced held (osipTransactionSndXxx response answers).2 held := by
  unfold osipTransactionSndXxx
  split
  · rfl
  · rename_i via first
    have some_response : response ≠ none := by
      rintro rfl
      cases first
    exact balanced_uses (uses_of_one (uses_send some_response here))

theorem kept_stopReliable {withoutProtocol : Int} (here : tr.held = held)
    (request : tr.origRequest ≠ none)
    (fails : ∀ now error, Transaction.held now = held → Transaction.origRequest now ≠ none →
      Kept held (fail now error))
    (proceeds : ∀ now : Transaction Header, now.held = held → now.origRequest = tr.origRequest →
      now.ack = tr.ack → now.state = tr.state → Kept held (proceed now)) :
    Kept held (stopReliable lib fail withoutProtocol timer proceed tr) := by
  unfold stopReliable
  split
  · exact fails tr _ here request
  · split
    · exact fails tr _ here request
    · split
      · exact proceeds tr here rfl rfl rfl
      · exact proceeds (tr.stopTimer timer) here rfl rfl rfl

theorem kept_sndResponse {sent : OsipMessage Header → MessageCallback}
    {finish : Transaction Header → Answers → Result Header} (request : tr.origRequest ≠ none)
    (fails : ∀ {held} now error, Transaction.held now = held →
      Transaction.origRequest now ≠ none → Kept held (fail now error))
    (finishes : ∀ now : Transaction Header, now.origRequest = tr.origRequest →
      now.ack = tr.ack → now.state = tr.state → Kept now.held (finish now answers)) :
    Kept (addresses (some sip) + tr.held) (sndResponse fail sent finish tr sip answers) := by
  have sends : Balanced { tr with lastResponse := some sip : Transaction Header }.held
      (osipTransactionSndXxx (some sip) answers).2
      { tr with lastResponse := some sip : Transaction Header }.held :=
    balanced_sndXxx response_le
  unfold sndResponse
  dsimp only
  split
  · exact (fails { tr with lastResponse := some sip } _ rfl request).after
      (balanced_newResponse.append sends)
  · refine (finishes { tr with lastResponse := some sip } rfl rfl rfl).after ?_
    refine (balanced_newResponse.append sends).append ?_
    exact balanced_uses (uses_of_one (uses_callback (Option.some_ne_none sip) response_le))

theorem kept_rcvRequestAgain {receivedAgain : MessageCallback}
    {sentAgain : OsipMessage Header → MessageCallback}
    (fails : ∀ {held} now error, Transaction.held now = held →
      Transaction.origRequest now ≠ none → Kept held (fail now error))
    (request : tr.origRequest ≠ none) (has : tr.state.Has tr.origRequest tr.ack) :
    Kept (addresses (some sip) + tr.held)
      (rcvRequestAgain fail receivedAgain sentAgain tr sip answers) := by
  have hears : Balanced (addresses (some sip) + tr.held)
      [.free sip, .callback receivedAgain tr.origRequest] tr.held := by
    have frees : Balanced (addresses (some sip) + tr.held) (freeOld (some sip)) tr.held :=
      balanced_freeOld
    exact frees.append (balanced_uses (uses_of_one (uses_callback request request_le)))
  unfold rcvRequestAgain
  dsimp only
  split
  · exact ⟨hears, has⟩
  · rename_i response held
    split
    · exact (fails _ _ rfl request).after (hears.append (balanced_sndXxx response_le))
    · refine Kept.front (hears.append (balanced_sndXxx response_le)) (kept_uses rfl ?_ has)
      refine uses_of_one (uses_callback ?_ response_le)
      rw [held]
      exact Option.some_ne_none response

theorem kept_ictTransportError (now : Transaction Header) (error : Int) (same : now.held = held)
    (request : now.origRequest ≠ none) : Kept held (ictHandleTransportError now error) :=
  @kept_transportError _ held now .ictTerminated request .ict error same

theorem kept_istTransportError (now : Transaction Header) (error : Int) (same : now.held = held)
    (request : now.origRequest ≠ none) : Kept held (istHandleTransportError now error) :=
  @kept_transportError _ held now .istTerminated request .ist error same

theorem kept_nictTransportError (now : Transaction Header) (error : Int) (same : now.held = held)
    (request : now.origRequest ≠ none) : Kept held (nictHandleTransportError now error) :=
  @kept_transportError _ held now .nictTerminated request .nict error same

theorem kept_nistTransportError (now : Transaction Header) (error : Int) (same : now.held = held)
    (request : now.origRequest ≠ none) : Kept held (nistHandleTransportError now error) :=
  @kept_transportError _ held now .nistTerminated request .nist error same

theorem kept_ictSndInvite (has : State.ictPreCalling.Has tr.origRequest tr.ack) :
    Kept (addresses (some sip) + tr.held) (ictSndInvite lib tr sip answers) := by
  have stored : addresses (some sip) + tr.held =
      { tr with origRequest := some sip : Transaction Header }.held := by
    unfold Transaction.held
    rw [has.1]
    exact congrArg _ (zero_add _)
  have called (now : Transaction Header)
      (same : now.held = { tr with origRequest := some sip : Transaction Header }.held)
      (request : now.origRequest = some sip) (ack : now.ack = tr.ack) :
      Kept { tr with origRequest := some sip : Transaction Header }.held
        (osipTransactionSetState now .ictCalling, [.callback .ictInviteSent now.origRequest]) := by
    have some_request : now.origRequest ≠ none := by
      rw [request]
      exact Option.some_ne_none sip
    refine kept_uses same (uses_of_one (uses_callback some_request ?_)) ⟨some_request, ?_⟩
    · exact same ▸ request_le
    · exact ack.trans has.2
  rw [stored]
  unfold ictSndInvite
  refine Kept.after ?_ (balanced_uses (uses_of_one (uses_send (Option.some_ne_none sip) ?_)))
  · split
    · exact kept_ictTransportError _ _ rfl (Option.some_ne_none sip)
    · split
      · exact kept_stopReliable rfl (Option.some_ne_none sip) kept_ictTransportError
          (fun now same request ack _ => called now same request ack)
      · exact called _ rfl rfl rfl
  · exact @request_le _ { tr with origRequest := some sip }

theorem kept_osipIctTimeoutAEvent (has : State.ictCalling.Has tr.origRequest tr.ack)
    (here : tr.state = .ictCalling) : Kept tr.held (osipIctTimeoutAEvent lib tr answers) := by
  unfold osipIctTimeoutAEvent
  refine Kept.after ?_ (balanced_uses (uses_of_one (uses_send has.1 request_le)))
  split
  · exact kept_ictTransportError _ _ rfl has.1
  · split
    · refine kept_stopReliable rfl has.1 kept_ictTransportError (fun now same request ack state => ?_)
      refine kept_uses same (uses_of_one (uses_callback ?_ ?_)) ?_
      · exact request ▸ has.1
      · exact same ▸ request_le
      · rw [state, request, ack]
        exact here ▸ has
    · exact kept_uses rfl (fun effect member => absurd member List.not_mem_nil) (here ▸ has)

theorem kept_ictRcv2xx (request : tr.origRequest ≠ none) :
    Kept (addresses (some sip) + tr.held) (ictRcv2xx tr sip answers) :=
  Kept.front balanced_newResponse (kept_uses rfl
    (uses_of_two (uses_callback (Option.some_ne_none sip) response_le) (uses_nothing rfl)) request)

theorem kept_ictRcv3456xx (request : tr.origRequest ≠ none) (noAck : tr.ack = none)
    (changes : tr.state ≠ .ictCompleted) :
    Kept (addresses (some sip) + tr.held) (ictRcv3456xx lib tr sip answers) := by
  unfold ictRcv3456xx
  dsimp only
  rw [if_pos changes]
  split
  · refine Kept.front balanced_newResponse (kept_uses ?_ (uses_of_one (uses_nothing rfl)) request)
    unfold Transaction.held
    rw [noAck]
    rfl
  · rename_i text _
    have sends : Balanced (addresses (some sip) + tr.held)
        (freeOld tr.lastResponse ++
          [.malloc ⟨answers.address, text⟩, .send (some ⟨answers.address, text⟩)])
        { tr with
          lastResponse := some sip
          ack := some ⟨answers.address, text⟩ : Transaction Header }.held := by
      have stored : answers.address ::ₘ
            { tr with lastResponse := some sip : Transaction Header }.held =
          { tr with
            lastResponse := some sip
            ack := some ⟨answers.address, text⟩ : Transaction Header }.held := by
        have sorted (one two three : Multiset Nat) : one + (two + (three + 0)) =
            two + (three + one) := by abel
        unfold Transaction.held
        rw [noAck, ← Multiset.singleton_add]
        exact sorted _ _ _
      have taken : Balanced { tr with lastResponse := some sip : Transaction Header }.held
          [(.malloc ⟨answers.address, text⟩ : Effect Header)]
          { tr with
            lastResponse := some sip
            ack := some ⟨answers.address, text⟩ : Transaction Header }.held := by
        rw [← stored]
        exact ledger_take
      refine balanced_newResponse.append (taken.append ?_)
      exact balanced_uses (uses_of_one (uses_send (Option.some_ne_none _) ack_le))
    split
    · exact Kept.after (kept_ictTransportError _ _ rfl request) sends
    · refine Kept.front sends (kept_uses rfl (uses_of_two ?_ ?_) ⟨request, Option.some_ne_none _⟩)
      · exact uses_callback (Option.some_ne_none sip) response_le
      · exact uses_callback (Option.some_ne_none sip) response_le

theorem kept_ictRetransmitAck (has : State.ictCompleted.Has tr.origRequest tr.ack) :
    Kept (addresses (some sip) + tr.held) (ictRetransmitAck tr sip answers) := by
  have hears : Balanced (addresses (some sip) + tr.held)
      [.callback .ictStatus3456xxReceivedAgain (some sip), .free sip, .send tr.ack] tr.held := by
    have told : Balanced (addresses (some sip) + tr.held)
        [.callback .ictStatus3456xxReceivedAgain (some sip)] (addresses (some sip) + tr.held) :=
      balanced_uses (uses_of_one (uses_callback (Option.some_ne_none sip)
        (Multiset.le_add_right _ _)))
    have frees : Balanced (addresses (some sip) + tr.held) (freeOld (some sip)) tr.held :=
      balanced_freeOld
    exact told.append (frees.append (balanced_uses (uses_of_one (uses_send has.2 ack_le))))
  unfold ictRetransmitAck
  refine Kept.after ?_ hears
  split
  · exact kept_uses rfl (uses_of_one (uses_callback has.2 ack_le)) has
  · exact kept_ictTransportError _ _ rfl has.1

theorem kept_istRcvInvite (first : tr.state = .istPreProceeding → tr.origRequest = none)
    (later : tr.state ≠ .istPreProceeding → tr.origRequest ≠ none)
    (has : tr.state.Has tr.origRequest tr.ack) :
    Kept (addresses (some sip) + tr.held) (istRcvInvite tr sip answers) := by
  unfold istRcvInvite
  split
  · rename_i here
    refine kept_uses ?_ (uses_of_one (uses_callback (Option.some_ne_none sip) ?_))
      (Option.some_ne_none sip)
    · unfold Transaction.held
      rw [first here]
      exact (congrArg _ (zero_add _)).symm
    · exact Multiset.le_add_right _ _
  · rename_i elsewhere
    exact kept_rcvRequestAgain kept_istTransportError (later elsewhere) has

theorem kept_osipIstTimeoutGEvent (request : tr.origRequest ≠ none)
    (has : tr.state.Has tr.origRequest tr.ack) :
    Kept tr.held (osipIstTimeoutGEvent tr answers) := by
  unfold osipIstTimeoutGEvent
  dsimp only [Transaction.setTimer]
  split
  · refine Kept.after (kept_istTransportError _ _ ?_ ?_) (balanced_sndXxx response_le)
    · rfl
    · exact request
  · rename_i sent
    refine Kept.front (balanced_sndXxx response_le)
      (kept_uses rfl (uses_of_one (uses_callback ?_ response_le)) has)
    intro missing
    apply sent
    rw [missing]
    exact Int.noConfusion

theorem kept_istSnd1xx (some_request : tr.origRequest ≠ none)
    (has : tr.state.Has tr.origRequest tr.ack) :
    Kept (addresses (some sip) + tr.held) (istSnd1xx tr sip answers) := by
  refine kept_sndResponse some_request kept_istTransportError (fun now request ack state => ?_)
  refine kept_uses rfl (fun effect member => absurd member List.not_mem_nil) ?_
  rw [state, request, ack]
  exact has

theorem kept_istSnd2xx (some_request : tr.origRequest ≠ none) :
    Kept (addresses (some sip) + tr.held) (istSnd2xx tr sip answers) :=
  kept_sndResponse some_request kept_istTransportError (fun _ request _ _ =>
    kept_uses rfl (uses_of_one (uses_nothing rfl)) (request ▸ some_request))

theorem kept_istSnd3456xx (some_request : tr.origRequest ≠ none) :
    Kept (addresses (some sip) + tr.held) (istSnd3456xx tr sip answers) := by
  refine kept_sndResponse some_request kept_istTransportError (fun now request _ _ => ?_)
  refine kept_uses ?_ (fun effect member => absurd member List.not_mem_nil) ?_
  · split <;> rfl
  · split <;> exact request ▸ some_request

theorem kept_istRcvAck (some_request : tr.origRequest ≠ none) :
    Kept (addresses (some sip) + tr.held) (istRcvAck tr sip answers) := by
  have sorted : addresses (some sip) + tr.held =
      addresses tr.ack + { tr with ack := some sip : Transaction Header }.held := by
    unfold Transaction.held
    abel
  unfold istRcvAck
  rw [sorted]
  exact Kept.front balanced_freeOld (kept_uses rfl
    (uses_of_one (uses_callback (Option.some_ne_none sip) (@ack_le _ { tr with ack := some sip })))
    some_request)

theorem kept_nictSndRequest (noRequest : tr.origRequest = none) :
    Kept (addresses (some sip) + tr.held) (nictSndRequest tr sip answers) := by
  have stored : addresses (some sip) + tr.held =
      { tr with origRequest := some sip : Transaction Header }.held := by
    unfold Transaction.held
    rw [noRequest]
    exact congrArg _ (zero_add _)
  have le : addresses (some sip) ≤ { tr with origRequest := some sip : Transaction Header }.held :=
    @request_le _ { tr with origRequest := some sip }
  rw [stored]
  unfold nictSndRequest
  refine Kept.after ?_ (balanced_uses (uses_of_one (uses_send (Option.some_ne_none sip) le)))
  dsimp only
  split
  · have unchanged (first now : Transaction Header) (p : Prop) [Decidable p]
        (same : now.held = first.held) (request : now.origRequest = first.origRequest) :
        (if p then now else first).held = first.held ∧
          (if p then now else first).origRequest = first.origRequest := by
      split
      · exact ⟨same, request⟩
      · exact ⟨rfl, rfl⟩
    obtain ⟨same, request⟩ := unchanged { tr with origRequest := some sip }
      ({ tr with origRequest := some sip : Transaction Header }.startTimer .e answers.now)
      ((tr.timers .e).length > 0) rfl rfl
    refine kept_uses same (uses_of_one (uses_callback ?_ ?_)) ?_
    · exact request ▸ Option.some_ne_none sip
    · exact request ▸ le
    · exact request ▸ Option.some_ne_none sip
  · exact kept_nictTransportError _ _ rfl (Option.some_ne_none sip)

theorem kept_osipNictTimeoutEEvent (some_request : tr.origRequest ≠ none)
    (has : tr.state.Has tr.origRequest tr.ack) :
    Kept tr.held (osipNictTimeoutEEvent lib tr answers) := by
  unfold osipNictTimeoutEEvent
  refine Kept.after ?_ (balanced_uses (uses_of_one (uses_send some_request request_le)))
  split
  · exact kept_nictTransportError _ _ rfl some_request
  · split
    · refine kept_stopReliable rfl some_request kept_nictTransportError (fun now same request ack state => ?_)
      refine kept_uses same (uses_of_one (uses_callback ?_ ?_)) ?_
      · exact request ▸ some_request
      · exact same ▸ request_le
      · rw [state, request, ack]
        exact has
    · exact kept_uses rfl (fun effect member => absurd member List.not_mem_nil) has

theorem kept_nictRcv23456xx (some_request : tr.origRequest ≠ none) :
    Kept (addresses (some sip) + tr.held) (nictRcv23456xx tr sip answers) := by
  unfold nictRcv23456xx
  refine Kept.front balanced_newResponse (kept_uses ?_
    (uses_of_one (uses_callback (Option.some_ne_none sip) response_le)) ?_)
  · dsimp only
    split <;> rfl
  · dsimp only
    split <;> exact some_request

theorem kept_nistRcvRequest (first : tr.state = .nistPreTrying → tr.origRequest = none)
    (later : tr.state ≠ .nistPreTrying → tr.origRequest ≠ none)
    (has : tr.state.Has tr.origRequest tr.ack) :
    Kept (addresses (some sip) + tr.held) (nistRcvRequest tr sip answers) := by
  unfold nistRcvRequest
  split
  · rename_i here
    refine kept_uses ?_ (uses_of_one (uses_callback (Option.some_ne_none sip) ?_))
      (Option.some_ne_none sip)
    · unfold Transaction.held
      rw [first here]
      exact (congrArg _ (zero_add _)).symm
    · exact Multiset.le_add_right _ _
  · rename_i elsewhere
    exact kept_rcvRequestAgain kept_nistTransportError (later elsewhere) has

theorem kept_nistSnd1xx (some_request : tr.origRequest ≠ none) :
    Kept (addresses (some sip) + tr.held) (nistSnd1xx tr sip answers) := by
  refine kept_sndResponse some_request kept_nistTransportError (fun now request _ _ => ?_)
  exact kept_uses rfl (fun effect member => absurd member List.not_mem_nil)
    (request ▸ some_request)

theorem kept_nistSnd23456xx (some_request : tr.origRequest ≠ none) :
    Kept (addresses (some sip) + tr.held) (nistSnd23456xx tr sip answers) := by
  refine kept_sndResponse some_request kept_nistTransportError (fun now request _ _ => ?_)
  refine kept_uses ?_ (fun effect member => absurd member List.not_mem_nil) ?_
  · split <;> rfl
  · split <;> exact request ▸ some_request

/-- What every step does with the message of its event and what the transaction held. -/
def stepKept (tr : Transaction Header) (evt : Event Header) (_ : Answers)
    (result : Result Header) : Prop :=
  tr.state.Has tr.origRequest tr.ack → Kept (addresses evt.sip + tr.held) result

theorem kept_onMessage {type : EventType}
    {method : Transaction Header → Message Header → Answers → Result Header}
    (keeps : ∀ {tr sip answers}, tr.state = state → state.Has tr.origRequest tr.ack →
      Kept (addresses (some sip) + tr.held) (method tr sip answers)) :
    (Transition.onMessage state type method).Meets stepKept ctxType := by
  intro tr evt sip answers _ here _ arrives has
  rw [arrives]
  exact keeps here (here ▸ has)

theorem kept_onTimeout {method : Transaction Header → Answers → Result Header}
    (keeps : ∀ {tr answers}, tr.state = state → state.Has tr.origRequest tr.ack →
      Kept tr.held (method tr answers)) :
    (Transition.onTimeout state timer method).Meets stepKept ctxType := by
  intro tr answers _ here has
  have nothing : addresses (Event.sip (.timeout timer : Event Header)) + tr.held = tr.held :=
    zero_add _
  rw [nothing]
  exact keeps here (here ▸ has)

theorem ictFsm_kept : ∀ transition ∈ ictFsm lib, transition.Meets stepKept .ict := by
  unfold ictFsm
  simp only [List.forall_mem_cons]
  refine ⟨kept_onMessage ?invite, kept_onTimeout ?timeoutA, kept_onTimeout ?timeoutB,
    kept_onMessage ?ringing, kept_onMessage ?answered, kept_onMessage ?refused,
    kept_onMessage ?ringingAgain, kept_onMessage ?answeredLater, kept_onMessage ?refusedLater,
    kept_onMessage ?refusedAgain, kept_onTimeout ?timeoutD, ?rest⟩
  case invite => exact fun _ has => kept_ictSndInvite has
  case timeoutA => exact fun here has => kept_osipIctTimeoutAEvent has here
  case timeoutB | timeoutD =>
    exact fun _ has => kept_endingTimeout has.1 rfl
  case ringing | ringingAgain => exact fun _ has => kept_rcv1xx has
  case answered | answeredLater => exact fun _ has => kept_ictRcv2xx has.1
  case refused | refusedLater =>
    intro tr sip answers here has
    refine kept_ictRcv3456xx has.1 has.2 ?_
    rw [here]
    decide
  case refusedAgain => exact fun _ has => kept_ictRetransmitAck has
  case rest => exact fun transition member => absurd member List.not_mem_nil

theorem istFsm_kept : ∀ transition ∈ (istFsm : List (Transition Header)),
    transition.Meets stepKept .ist := by
  unfold istFsm
  simp only [List.forall_mem_cons]
  refine ⟨kept_onMessage ?invite, kept_onMessage ?inviteAgain, kept_onMessage ?inviteLate,
    kept_onTimeout ?timeoutG, kept_onTimeout ?timeoutH, kept_onMessage ?ringing,
    kept_onMessage ?answer, kept_onMessage ?refusal, kept_onMessage ?ack,
    kept_onMessage ?ackAgain, kept_onTimeout ?timeoutI, ?rest⟩
  case invite =>
    intro tr sip answers here has
    refine kept_istRcvInvite (fun _ => has) (fun other => absurd here other) ?_
    rw [here]
    exact has
  case inviteAgain | inviteLate =>
    intro tr sip answers here has
    refine kept_istRcvInvite (fun first => ?_) (fun _ => has) ?_
    · rw [here] at first
      cases first
    · rw [here]
      exact has
  case timeoutG => exact fun here has => kept_osipIstTimeoutGEvent has (here ▸ has)
  case timeoutH | timeoutI => exact fun _ has => kept_endingTimeout has rfl
  case ringing => exact fun here has => kept_istSnd1xx has (here ▸ has)
  case answer => exact fun _ has => kept_istSnd2xx has
  case refusal => exact fun _ has => kept_istSnd3456xx has
  case ack | ackAgain => exact fun _ has => kept_istRcvAck has
  case rest => exact fun transition member => absurd member List.not_mem_nil

theorem nictFsm_kept : ∀ transition ∈ nictFsm lib, transition.Meets stepKept .nict := by
  unfold nictFsm
  simp only [List.forall_mem_cons]
  refine ⟨kept_onMessage ?send, kept_onTimeout ?timeoutF, kept_onTimeout ?timeoutE,
    kept_onMessage ?trying, kept_onMessage ?answered, kept_onMessage ?refused,
    kept_onTimeout ?lateF, kept_onTimeout ?lateE, kept_onMessage ?tryingAgain,
    kept_onMessage ?answeredLater, kept_onMessage ?refusedLater, kept_onTimeout ?timeoutK, ?rest⟩
  case send => exact fun _ has => kept_nictSndRequest has
  case timeoutF | lateF | timeoutK =>
    exact fun _ has => kept_endingTimeout has rfl
  case timeoutE | lateE => exact fun here has => kept_osipNictTimeoutEEvent has (here ▸ has)
  case trying | tryingAgain => exact fun _ has => kept_rcv1xx has
  case answered | refused | answeredLater | refusedLater =>
    exact fun _ has => kept_nictRcv23456xx has
  case rest => exact fun transition member => absurd member List.not_mem_nil

theorem nistFsm_kept : ∀ transition ∈ (nistFsm : List (Transition Header)),
    transition.Meets stepKept .nist := by
  unfold nistFsm
  simp only [List.forall_mem_cons]
  refine ⟨kept_onMessage ?request, kept_onMessage ?trying, kept_onMessage ?answer,
    kept_onMessage ?refusal, kept_onMessage ?tryingAgain, kept_onMessage ?answerLater,
    kept_onMessage ?refusalLater, kept_onMessage ?requestAgain, kept_onTimeout ?timeoutJ,
    kept_onMessage ?requestLate, ?rest⟩
  case request =>
    intro tr sip answers here has
    refine kept_nistRcvRequest (fun _ => has) (fun other => absurd here other) ?_
    rw [here]
    exact has
  case requestAgain | requestLate =>
    intro tr sip answers here has
    refine kept_nistRcvRequest (fun first => ?_) (fun _ => has) ?_
    · rw [here] at first
      cases first
    · rw [here]
      exact has
  case trying | tryingAgain => exact fun _ has => kept_nistSnd1xx has
  case answer | refusal | answerLater | refusalLater => exact fun _ has => kept_nistSnd23456xx has
  case timeoutJ => exact fun _ has => kept_endingTimeout has rfl
  case rest => exact fun transition member => absurd member List.not_mem_nil

theorem getFsm_kept (ctxType : FsmType) :
    ∀ transition ∈ getFsm lib ctxType, transition.Meets stepKept ctxType := by
  cases ctxType with
  | ict => exact ictFsm_kept
  | ist => exact istFsm_kept
  | nict => exact nictFsm_kept
  | nist => exact nistFsm_kept

theorem memoryTurn_kept {turn : Turn Header} (has : tr.state.Has tr.origRequest tr.ack) :
    ledger tr.held (memoryTurn lib tr turn).2 = some (memoryTurn lib tr turn).1.held ∧
      (memoryTurn lib tr turn).1.state.Has (memoryTurn lib tr turn).1.origRequest
        (memoryTurn lib tr turn).1.ack := by
  have kept : stepKept tr turn.1 turn.2 (takeTurn lib tr turn) := by
    refine @execute_meets _ lib tr turn.1 turn.2 stepKept (getFsm_kept tr.ctxType) ?_
    exact fun has => ⟨balanced_freeOld, has⟩
  refine ⟨ledger_trans ?_ (kept has).balanced, (kept has).has⟩
  cases turn.1.sip with
  | none => exact congrArg some (zero_add _).symm
  | some message => rfl

/-- However its events come, a transaction uses and gives back only messages that it holds,
holds what it has stored, has its request when it ends, and leaves nothing when it is freed. -/
theorem memoryTurn_run {request : OsipMessage Header} {now : Int}
    (init : osipTransactionInit lib ctxType request now = some tr) (inputs : List (Turn Header)) :
    ledger 0 (trace (memoryTurn lib) tr inputs).2 =
        some (trace (memoryTurn lib) tr inputs).1.held ∧
      ((trace (memoryTurn lib) tr inputs).1.state = ctxType.terminated →
        (trace (memoryTurn lib) tr inputs).1.origRequest ≠ none) ∧
      ledger 0 ((trace (memoryTurn lib) tr inputs).2 ++
        (osipTransactionFree2 (trace (memoryTurn lib) tr inputs).1).flatMap Effect.deeds) =
          some 0 := by
  obtain ⟨⟨-, state⟩, noRequest, noResponse, noAck⟩ := osipTransactionInit_first init
  have kept : ledger 0 (trace (memoryTurn lib) tr inputs).2 =
        some (trace (memoryTurn lib) tr inputs).1.held ∧
      (trace (memoryTurn lib) tr inputs).1.state.Has
        (trace (memoryTurn lib) tr inputs).1.origRequest
        (trace (memoryTurn lib) tr inputs).1.ack := by
    apply @trace_induction _ _ _ (memoryTurn lib) tr inputs
      (fun now past => ledger 0 past = some now.held ∧ now.state.Has now.origRequest now.ack)
    · unfold Transaction.held
      rw [state, noRequest, noResponse, noAck]
      cases ctxType with
      | ict => exact ⟨rfl, rfl, rfl⟩
      | ist => exact ⟨rfl, rfl⟩
      | nict => exact ⟨rfl, rfl⟩
      | nist => exact ⟨rfl, rfl⟩
    · intro now past turn ⟨balanced, has⟩
      obtain ⟨step, still⟩ := @memoryTurn_kept _ now lib turn has
      exact ⟨ledger_trans balanced step, still⟩
  refine ⟨kept.1, fun ended => ?_, ledger_trans kept.1 ?_⟩
  · have has := kept.2
    rw [ended] at has
    cases ctxType <;> exact has
  generalize (trace (memoryTurn lib) tr inputs).1 = last
  have request : Balanced last.held (freeOld last.origRequest)
      (addresses last.lastResponse + addresses last.ack) := balanced_freeOld
  have ack : Balanced (addresses last.ack) (freeOld last.ack) 0 := by
    rw [← add_zero (addresses last.ack)]
    exact balanced_freeOld
  exact (request.append balanced_freeOld).append ack

theorem memoryTurn_run_options : ∃ tr,
    osipTransactionInit textLib .nict optionsRequest 0 = some tr ∧
      ledger 0 (trace (memoryTurn textLib) tr
        [(.outgoing ⟨7, optionsRequest⟩, ⟨0, 0, 1⟩)]).2 = some {7} := by
  refine ⟨_, rfl, ?_⟩
  have run := @memoryTurn_run _ _ .nict textLib optionsRequest 0 rfl
    [(.outgoing ⟨7, optionsRequest⟩, ⟨0, 0, 1⟩)]
  exact run.1.trans rfl

end Gb28181.Osip2
