import Gb28181.Lib.Runs
import Gb28181.MediaGate.Gate

namespace Gb28181.MediaGate

open Gb28181.Lib Gb28181.SipUA

/-- The call that the other side hangs up. -/
def Input.bye : Input → Option Int
  | .event incoming _ =>
    if SipServer.threadEventLoop incoming = some .callBye then some incoming.cid else none
  | _ => none

/-- The call that the other side refuses. -/
def Input.refused : Input → Option Int
  | .event incoming _ =>
    if SipServer.threadEventLoop incoming = some .callAnswerRsp then some incoming.cid else none
  | _ => none

def Input.deletes (hPuller : HMG) : Input → Bool
  | .deleteStreamPuller handle => handle = hPuller
  | _ => false

/-- Whether the gate itself hangs up a call. -/
def Request.hangsUp (cid : Int) : Request → Bool
  | .terminateCall other _ => other = cid
  | _ => false

/-- A gate from the creation of a puller on, and what has come for the puller since. -/
structure Watch where
  gate : Gate
  byeReceived : Bool
  ownerDeleted : Bool
  /-- The gate sent a BYE for the call after one was received. -/
  byeCrossed : Bool

namespace Watch

variable (hPuller : HMG) (cid : Int)

def next (watch : Watch) (input : Input) : Watch where
  gate := watch.gate.next input
  byeReceived := watch.byeReceived || input.bye = some cid
  ownerDeleted := watch.ownerDeleted || input.deletes hPuller
  byeCrossed := watch.byeCrossed || (watch.byeReceived &&
    ((watch.gate.next input).sent.drop watch.gate.sent.length).any (Request.hangsUp cid))

/-- Someone has ended the call of the puller. -/
def gone (watch : Watch) : Bool := watch.byeReceived || watch.ownerDeleted

/-- The process is there, and the puller is released and deleted once when its call is ended, and
not before; it is not used after that, and no BYE is sent after one was received. -/
def ReleasedOnce (watch : Watch) : Prop :=
  watch.gate.calledNull = false ∧ watch.byeCrossed = false ∧ ∃ pPuller, watch.gate.cells[hPuller]? = some pPuller ∧
    pPuller.stale = false ∧ pPuller.released = watch.gone.toNat ∧
    pPuller.deleted = watch.gone.toNat

/-- The owner deletes the puller only while nobody has ended its call, a BYE for it finds
a callback or an ended call, and a refusal of any call of the gate finds a callback. -/
def Careful (watch : Watch) (input : Input) : Prop :=
  (input.deletes hPuller = true → watch.gone = false) ∧
    (input.bye = some cid → watch.gate.fnMediaGateEventCB = true ∨ watch.gone = true) ∧
    ∀ other, input.refused = some other →
      watch.gate.fnMediaGateEventCB = true ∨ watch.gate.getStreamInstance other = none

end Watch

/-- The puller of a call, before and after the call is ended. -/
structure Cell.Lives (cid : Int) (gone : Bool) (pPuller : Cell) : Prop where
  cid : pPuller.object.cid = cid
  stale : pPuller.stale = false
  released : pPuller.released = gone.toNat
  deleted : pPuller.deleted = gone.toNat
  autoRelease : gone = false → pPuller.object.bAutoRelease = false

structure Tracked (hPuller : HMG) (cid : Int) (gone : Bool) (gate : Gate) : Prop where
  cell : ∃ pPuller, gate.cells[hPuller]? = some pPuller ∧ pPuller.Lives cid gone
  mapped : gate.mapGB28181StreamInstance.find cid = if gone then none else some hPuller
  alone : ∀ key, gate.mapGB28181StreamInstance.find key = some hPuller → key = cid
  others : ∀ (other : HMG) pOther, gate.cells[other]? = some pOther → pOther.object.cid = cid →
    other = hPuller

/-- What was sent since hangs the call up nowhere. -/
def Silent (cid : Int) (gate after : Gate) : Prop :=
  ∃ requests, after.sent = gate.sent ++ requests ∧
    ∀ request ∈ requests, request.hangsUp cid = false

/-- What the gate did has nothing to do with the puller. -/
structure Spares (hPuller : HMG) (cid : Int) (gone : Bool) (gate after : Gate) : Prop where
  tracked : Tracked hPuller cid gone after
  silent : Silent cid gate after

theorem Cell.Lives.use {cid : Int} {pPuller : Cell} (lives : pPuller.Lives cid false)
    {change : StreamInstance → StreamInstance} (keepsCid : ∀ object, (change object).cid = object.cid)
    (keepsFlag : ∀ object, (change object).bAutoRelease = object.bAutoRelease) :
    (pPuller.use change).Lives cid false := by
  refine ⟨(keepsCid _).trans lives.cid, ?_, lives.released, lives.deleted, ?_⟩
  · show (pPuller.stale || decide (0 < pPuller.deleted)) = false
    rw [lives.stale, lives.deleted]
    rfl
  · intro alive
    exact (keepsFlag _).trans (lives.autoRelease alive)

variable {gate after later : Gate} {hPuller hInst : HMG} {cid other initInvite : Int} {gone : Bool}
  {change : Cell → Cell} {request : Request} {outcome : Outcome} {event : Event} {pNew : Cell}
  {pullRequest : PullRequest} {opens : Nat → Bool}

theorem Silent.of_same (same : after.sent = gate.sent) : Silent cid gate after :=
  ⟨[], by rw [same, List.append_nil], nofun⟩

theorem Silent.trans (first : Silent cid gate after) (second : Silent cid after later) :
    Silent cid gate later := by
  obtain ⟨sent, same, quiet⟩ := first
  obtain ⟨sent', same', quiet'⟩ := second
  refine ⟨sent ++ sent', by rw [same', same, List.append_assoc], ?_⟩
  intro request member
  rcases List.mem_append.mp member with before | behind
  · exact quiet request before
  · exact quiet' request behind

theorem Spares.trans (first : Spares hPuller cid gone gate after)
    (second : Spares hPuller cid gone after later) : Spares hPuller cid gone gate later :=
  ⟨second.tracked, first.silent.trans second.silent⟩

theorem sent_eraseStreamInstance : (gate.eraseStreamInstance cid).sent = gate.sent := by
  unfold Gate.eraseStreamInstance
  split <;> rfl

theorem eraseStreamInstance_none (missing : gate.getStreamInstance cid = none) :
    gate.eraseStreamInstance cid = gate := by
  rw [Gate.eraseStreamInstance, missing]

namespace Tracked

theorem of_same (tracked : Tracked hPuller cid gone gate) (cells : after.cells = gate.cells)
    (map : after.mapGB28181StreamInstance = gate.mapGB28181StreamInstance) :
    Tracked hPuller cid gone after := by
  obtain ⟨cell, mapped, alone, others⟩ := tracked
  rw [← cells] at cell others
  rw [← map] at mapped alone
  exact ⟨cell, mapped, alone, others⟩

theorem spares (tracked : Tracked hPuller cid gone gate) : Spares hPuller cid gone gate gate :=
  ⟨tracked, .of_same rfl⟩

theorem send (tracked : Tracked hPuller cid gone gate) (request : Request)
    (quiet : request.hangsUp cid = false) :
    Spares hPuller cid gone gate (gate.send request) := by
  refine ⟨tracked.of_same rfl rfl, [request], rfl, ?_⟩
  intro only member
  rwa [List.mem_singleton.mp member]

theorem call (tracked : Tracked hPuller cid gone gate) (gateEvent : GateEvent) :
    Spares hPuller cid gone gate (gate.call gateEvent) := by
  unfold Gate.call
  split <;> exact ⟨tracked.of_same rfl rfl, .of_same rfl⟩

theorem onTimer (tracked : Tracked hPuller cid gone gate) (input : TimerInput)
    (quiet : ∀ request ∈ (gate.registration.handle gate.settings input).2,
      request.hangsUp cid = false) : Spares hPuller cid gone gate (gate.onTimer input) :=
  ⟨tracked.of_same rfl rfl, _, rfl, quiet⟩

theorem below (tracked : Tracked hPuller cid gone gate) : hPuller < gate.cells.length := by
  obtain ⟨pPuller, found, -⟩ := tracked.cell
  exact (List.getElem?_eq_some_iff.mp found).1

theorem append (tracked : Tracked hPuller cid gone gate) (apart : pNew.object.cid ≠ cid) :
    Tracked hPuller cid gone { gate with cells := gate.cells ++ [pNew] } := by
  refine ⟨?_, tracked.mapped, tracked.alone, ?_⟩
  · rw [List.getElem?_append_left tracked.below]
    exact tracked.cell
  · intro other pOther found same
    by_cases old : other < gate.cells.length
    · rw [List.getElem?_append_left old] at found
      exact tracked.others other pOther found same
    · rw [List.getElem?_append_right (not_lt.mp old)] at found
      rw [List.mem_singleton.mp (List.mem_of_getElem? found)] at same
      exact absurd same apart

theorem useCell (tracked : Tracked hPuller cid gone gate) (apart : hInst ≠ hPuller)
    (keeps : ∀ cell, (change cell).object.cid = cell.object.cid) :
    Spares hPuller cid gone gate (gate.useCell hInst change) := by
  refine ⟨⟨?_, tracked.mapped, tracked.alone, ?_⟩, .of_same rfl⟩
  · rw [Gate.useCell, Gate.setCells, List.getElem?_modify_ne change gate.cells apart]
    exact tracked.cell
  · intro other pOther found same
    by_cases changed : hInst = other
    · subst changed
      rw [Gate.useCell, Gate.setCells, List.getElem?_modify_eq] at found
      obtain ⟨cell, there, rfl⟩ := Option.map_eq_some_iff.mp found
      exact tracked.others hInst cell there ((keeps cell).symm.trans same)
    · rw [Gate.useCell, Gate.setCells, List.getElem?_modify_ne change gate.cells changed] at found
      exact tracked.others other pOther found same

theorem useCell_self (tracked : Tracked hPuller cid gone gate)
    (keeps : ∀ cell, cell.Lives cid gone → (change cell).Lives cid gone) :
    Tracked hPuller cid gone (gate.useCell hPuller change) := by
  obtain ⟨pPuller, found, lives⟩ := tracked.cell
  refine ⟨⟨change pPuller, ?_, keeps pPuller lives⟩, tracked.mapped, tracked.alone, ?_⟩
  · rw [Gate.useCell, Gate.setCells, List.getElem?_modify_eq, found]
    rfl
  · intro other pOther there same
    by_cases changed : hPuller = other
    · exact changed.symm
    · rw [Gate.useCell, Gate.setCells, List.getElem?_modify_ne change gate.cells changed] at there
      exact tracked.others other pOther there same

theorem insert (tracked : Tracked hPuller cid gone gate) (apart : other ≠ cid)
    (different : hInst ≠ hPuller) :
    Tracked hPuller cid gone { gate with
      mapGB28181StreamInstance := gate.mapGB28181StreamInstance.insert other hInst } := by
  cases absent : gate.mapGB28181StreamInstance.find other with
  | some old =>
    exact tracked.of_same rfl (OrderedMap.insert_there (Option.isSome_iff_exists.mpr ⟨old, absent⟩))
  | none =>
    refine ⟨tracked.cell, ?_, ?_, tracked.others⟩
    · rw [OrderedMap.find_insert absent, if_neg apart.symm]
      exact tracked.mapped
    · intro key found
      rw [OrderedMap.find_insert absent] at found
      split at found
      · exact absurd (Option.some.inj found) different
      · exact tracked.alone key found

theorem different (tracked : Tracked hPuller cid gone gate) (apart : other ≠ cid)
    (found : gate.getStreamInstance other = some hInst) : hInst ≠ hPuller := by
  rintro rfl
  exact apart (tracked.alone other found)

theorem erase (tracked : Tracked hPuller cid gone gate) (apart : other ≠ cid) :
    Spares hPuller cid gone gate (gate.eraseStreamInstance other) := by
  unfold Gate.eraseStreamInstance
  cases found : gate.getStreamInstance other with
  | none => exact tracked.spares
  | some pInst =>
    have different := tracked.different apart found
    have released := tracked.useCell different
      (fun cell => (rfl : cell.release.object.cid = cell.object.cid))
    obtain ⟨deleted, -⟩ := released.tracked.useCell different
      (fun cell => (rfl : cell.delete.object.cid = cell.object.cid))
    refine ⟨⟨deleted.cell, ?_, ?_, deleted.others⟩, .of_same rfl⟩
    · rw [OrderedMap.find_erase, if_neg apart.symm]
      exact deleted.mapped
    · intro key erased
      rw [OrderedMap.find_erase] at erased
      split at erased
      · exact nomatch erased
      · exact tracked.alone key erased

theorem answer200OK (tracked : Tracked hPuller cid gone gate) (tid : Int) (sdpInfo : SdpInfo) :
    Spares hPuller cid gone gate (gate.sipUAAnswerInvite200OK outcome tid sdpInfo) := by
  unfold Gate.sipUAAnswerInvite200OK
  split <;> exact tracked.send _ rfl

theorem invite (tracked : Tracked hPuller cid gone gate) (apart : event.cid ≠ cid)
    (sdpInfo : SdpInfo) :
    Spares hPuller cid gone gate
      (gate.mediaGateHandleCallInviteIncoming outcome event sdpInfo) := by
  unfold Gate.mediaGateHandleCallInviteIncoming
  split
  · exact tracked.spares
  · dsimp only
    split
    · exact tracked.spares
    · cases opened : (gate.ports.pusherTries outcome.opens 3).1 with
      | none =>
        rw [createStreamPusher_none opened]
        exact ⟨tracked.of_same rfl rfl, .of_same rfl⟩
      | some iLocalPort =>
        rw [createStreamPusher_some opened]
        have different : gate.cells.length ≠ hPuller := tracked.below.ne'
        have made : Tracked hPuller cid gone { gate with
            ports := (gate.ports.pusherTries outcome.opens 3).2
            cells := gate.cells ++ [Cell.newPusher outcome event.cid
              (mediaGateGetKeyValue sdpInfo.szX "id".toList 256).2 iLocalPort] } :=
          (tracked.append apart).of_same rfl rfl
        have called := made.call ⟨.callInit, (mediaGateGetKeyValue sdpInfo.szX "id".toList 256).2,
          some sdpInfo.szX, some gate.cells.length⟩
        have before : Spares hPuller cid gone gate _ :=
          (Spares.mk made (.of_same rfl) : Spares hPuller cid gone gate _).trans called
        dsimp only
        split
        · have mapped := called.tracked.insert apart different
          have used := mapped.useCell different (fun cell =>
            (rfl : (cell.use fun object => { object with did := event.did }).object.cid =
              cell.object.cid))
          exact (before.trans ⟨mapped, .of_same rfl⟩).trans
            (used.trans (used.tracked.answer200OK _ _))
        · have released := called.tracked.useCell different
            (fun cell => (rfl : cell.release.object.cid = cell.object.cid))
          have deleted := released.tracked.useCell different
            (fun cell => (rfl : cell.delete.object.cid = cell.object.cid))
          exact before.trans (released.trans deleted)

theorem useMapped (tracked : Tracked hPuller cid gone gate)
    (found : gate.getStreamInstance other = some hInst)
    (used : StreamInstance → StreamInstance) (keepsCid : ∀ object, (used object).cid = object.cid)
    (keepsFlag : ∀ object, (used object).bAutoRelease = object.bAutoRelease) :
    Spares hPuller cid gone gate (gate.useCell hInst (Cell.use used)) := by
  refine ⟨?_, .of_same rfl⟩
  by_cases same : hInst = hPuller
  · subst same
    have mapped := tracked.mapped
    rw [← tracked.alone other found, show gate.mapGB28181StreamInstance.find other = _ from found] at mapped
    cases gone with
    | true => exact nomatch mapped
    | false => exact tracked.useCell_self (fun cell lives => lives.use keepsCid keepsFlag)
  · exact (tracked.useCell same (fun cell => keepsCid cell.object)).tracked

theorem sendAck (tracked : Tracked hPuller cid gone gate) (did : Int) :
    Spares hPuller cid gone gate (gate.sipUASendAck outcome did) := by
  unfold Gate.sipUASendAck
  split
  · exact tracked.send _ rfl
  · exact tracked.spares

theorem answered (tracked : Tracked hPuller cid gone gate) :
    Spares hPuller cid gone gate (gate.handleCallAnswer200OK outcome event) := by
  unfold Gate.handleCallAnswer200OK
  cases found : gate.getStreamInstance event.cid with
  | none => exact tracked.sendAck _
  | some pInst =>
    have used := tracked.useMapped found (fun object => { object with did := event.did })
      (fun _ => rfl) (fun _ => rfl)
    exact used.trans (used.tracked.sendAck _)

theorem refused (tracked : Tracked hPuller cid gone gate) :
    Spares hPuller cid gone gate (gate.handleCallAnswerRsp event) := by
  unfold Gate.handleCallAnswerRsp
  cases found : gate.getStreamInstance event.cid with
  | none => exact tracked.spares
  | some pInst =>
    have used := tracked.useMapped found id (fun _ => rfl) (fun _ => rfl)
    exact used.trans (used.tracked.call _)

/-- The other side hangs up another call, or one that is ended already. -/
theorem byeOther (tracked : Tracked hPuller cid gone gate)
    (apart : gone = true ∨ event.cid ≠ cid) :
    Spares hPuller cid gone gate (gate.mediaGateHandleCallBye event) := by
  unfold Gate.mediaGateHandleCallBye
  split
  · exact tracked.spares
  · cases found : gate.getStreamInstance event.cid with
    | none => exact tracked.spares
    | some pInst =>
      have other : event.cid ≠ cid := by
        rintro rfl
        have mapped := tracked.mapped
        rw [show gate.mapGB28181StreamInstance.find event.cid = _ from found] at mapped
        rcases apart with rfl | different
        · exact nomatch mapped
        · exact different rfl
      have used := tracked.useCell (tracked.different other found) (fun cell =>
        (rfl : (cell.use fun object => { object with bAutoRelease := true }).object.cid =
          cell.object.cid))
      have erased := used.tracked.erase other
      exact (used.trans erased).trans (erased.tracked.call _)

theorem createPuller (tracked : Tracked hPuller cid gone gate)
    (apart : 0 < initInvite → initInvite ≠ cid) (positive : 0 < cid) :
    Spares hPuller cid gone gate (gate.createStreamPuller pullRequest opens initInvite).2 := by
  cases opened : (gate.ports.pullerTries opens 3).1 with
  | none =>
    rw [createStreamPuller_none opened]
    exact ⟨tracked.of_same rfl rfl, .of_same rfl⟩
  | some both =>
    have sent : ∀ request ∈ [gate.pullerInvite pullRequest both.1 both.2],
        request.hangsUp cid = false := by
      intro request member
      rw [List.mem_singleton.mp member]
      rfl
    by_cases invited : 0 < initInvite
    · rw [createStreamPuller_some opened invited]
      have made : Tracked hPuller cid gone { gate with
          cells := gate.cells ++ [Cell.newPuller pullRequest both.1 initInvite] } :=
        tracked.append (apart invited)
      exact ⟨(made.insert (apart invited) tracked.below.ne').of_same rfl rfl, _, rfl, sent⟩
    · rw [createStreamPuller_refused opened (not_lt.mp invited)]
      have made : Tracked hPuller cid gone { gate with
          cells := gate.cells ++ [(Cell.newPuller pullRequest both.1 0).delete] } :=
        tracked.append positive.ne
      exact ⟨made.of_same rfl rfl, _, rfl, sent⟩

theorem deleteOther (tracked : Tracked hPuller cid gone gate) (apart : hInst ≠ hPuller) :
    Spares hPuller cid gone gate (gate.deleteStreamPuller hInst) := by
  unfold Gate.deleteStreamPuller
  cases found : gate.cells[hInst]? with
  | none => exact tracked.spares
  | some pPuller =>
    have used := tracked.useCell apart (fun cell => (rfl : (cell.use id).object.cid = cell.object.cid))
    have other : pPuller.object.cid ≠ cid := fun same => apart (tracked.others hInst pPuller found same)
    dsimp only
    split
    · exact used
    · have sent := used.tracked.send (.terminateCall pPuller.object.cid pPuller.object.did)
        (decide_eq_false other)
      exact (used.trans sent).trans (sent.tracked.erase other)

/-- The call is erased while its puller lives; the flag may have been set. -/
theorem eraseSelf (tracked : Tracked hPuller cid false gate)
    (used : StreamInstance → StreamInstance) (keepsCid : ∀ object, (used object).cid = object.cid) :
    Tracked hPuller cid true ((gate.useCell hPuller (Cell.use used)).eraseStreamInstance cid) := by
  obtain ⟨pPuller, found, lives⟩ := tracked.cell
  have there : (gate.useCell hPuller (Cell.use used)).getStreamInstance cid = some hPuller :=
    tracked.mapped
  unfold Gate.eraseStreamInstance
  rw [there]
  refine ⟨⟨((pPuller.use used).release).delete, ?_, ?_⟩, ?_, ?_, ?_⟩
  · simp only [Gate.useCell, Gate.setCells, List.getElem?_modify_eq, found]
    rfl
  · refine ⟨(keepsCid _).trans lives.cid, ?_, ?_, ?_, ?_⟩
    · simp [Cell.delete, Cell.release, Cell.use, lives.stale, lives.deleted]
    · simp [Cell.delete, Cell.release, Cell.use, lives.released]
    · simp [Cell.delete, Cell.release, Cell.use, lives.deleted]
    · intro alive
      cases alive
  · exact OrderedMap.find_erase.trans (if_pos rfl)
  · intro key erased
    rw [OrderedMap.find_erase] at erased
    split at erased
    · cases erased
    · exact tracked.alone key erased
  · intro other pOther there same
    by_cases changed : hPuller = other
    · exact changed.symm
    · simp only [Gate.useCell, Gate.setCells, List.getElem?_modify_ne _ _ changed] at there
      exact tracked.others other pOther there same

/-- The other side hangs up the call of a living puller. -/
theorem byeSelf (tracked : Tracked hPuller cid false gate) (same : event.cid = cid)
    (callback : gate.fnMediaGateEventCB = true) :
    Spares hPuller cid true gate (gate.mediaGateHandleCallBye event) := by
  unfold Gate.mediaGateHandleCallBye
  rw [if_neg (by rw [callback]; nofun), same,
    show gate.getStreamInstance cid = some hPuller from tracked.mapped]
  have erased := tracked.eraseSelf (fun object => { object with bAutoRelease := true }) (fun _ => rfl)
  have quiet : Silent cid gate (((gate.useCell hPuller
      (Cell.use fun object => { object with bAutoRelease := true })).eraseStreamInstance cid)) :=
    .of_same sent_eraseStreamInstance
  exact ⟨(erased.call _).tracked, quiet.trans (erased.call _).silent⟩

theorem deleteSelf (tracked : Tracked hPuller cid false gate) :
    Tracked hPuller cid true (gate.deleteStreamPuller hPuller) := by
  obtain ⟨pPuller, found, lives⟩ := tracked.cell
  unfold Gate.deleteStreamPuller
  rw [found]
  dsimp only
  rw [if_neg (by rw [lives.autoRelease rfl]; nofun), lives.cid]
  exact (tracked.of_same rfl rfl : Tracked hPuller cid false
    (gate.send (.terminateCall cid pPuller.object.did))).eraseSelf id (fun _ => rfl)

end Tracked

theorem timer_silent (settings : Settings) (registration : Registration) (input : TimerInput) :
    ∀ request ∈ (registration.handle settings input).2, request.hangsUp cid = false := by
  intro request member
  cases input with
  | tick now outcome =>
    rw [handle_tick] at member
    unfold Registration.keepaliveMsgTimer at member
    split at member
    · rw [mem_register] at member
      rw [member]
      rfl
    · dsimp only at member
      split at member
      · split at member <;> (rw [List.mem_singleton.mp member]; rfl)
      · split at member
        · rw [List.mem_singleton.mp member]
          rfl
        · exact nomatch member
  | registerSuccess | registerFailure | messageFailure => exact nomatch member

theorem Tracked.next (tracked : Tracked hPuller cid gone gate) (positive : 0 < cid) {input : Input}
    (fresh : input.brings ≠ some cid) (bye : gone = true ∨ input.bye ≠ some cid)
    (delete : input.deletes hPuller = false) :
    Spares hPuller cid gone gate (gate.next input) := by
  cases input with
  | tick now outcome => exact tracked.onTimer (.tick now outcome) (timer_silent _ _ _)
  | createStreamPuller request opens initInvite =>
    refine tracked.createPuller ?_ positive
    rintro invited rfl
    exact fresh (if_pos invited)
  | deleteStreamPuller handle => exact tracked.deleteOther (of_decide_eq_false delete)
  | event incoming outcome =>
    show Spares hPuller cid gone gate (gate.handleEvent outcome incoming)
    unfold Gate.handleEvent
    cases dispatched : SipServer.threadEventLoop incoming with
    | none => exact tracked.spares
    | some msg =>
      cases msg with
      | registerSuccess =>
        exact tracked.onTimer (.registerSuccess outcome.i64CurTime) (timer_silent _ _ _)
      | registerFailure => exact tracked.onTimer .registerFailure (timer_silent _ _ _)
      | messageRequestfailure => exact tracked.onTimer .messageFailure (timer_silent _ _ _)
      | callInviteIncoming =>
        refine tracked.invite ?_ _
        rintro rfl
        exact fresh (if_pos dispatched)
      | callAnswer200OK => exact tracked.answered
      | callAnswerRsp => exact tracked.refused
      | callBye =>
        refine tracked.byeOther (bye.imp_right ?_)
        rintro apart rfl
        exact apart (if_pos dispatched)
      | registerNew | registerRefresh | callAck | message | messageAnswered | info =>
        exact tracked.spares

section CalledNull

theorem calledNull_call (heard : gate.fnMediaGateEventCB = true) (gateEvent : GateEvent) :
    (gate.call gateEvent).calledNull = gate.calledNull := by
  rw [Gate.call, if_pos heard]

theorem calledNull_eraseStreamInstance :
    (gate.eraseStreamInstance cid).calledNull = gate.calledNull ∧
      (gate.eraseStreamInstance cid).fnMediaGateEventCB = gate.fnMediaGateEventCB := by
  unfold Gate.eraseStreamInstance
  split <;> exact ⟨rfl, rfl⟩

theorem calledNull_createStreamPuller :
    (gate.createStreamPuller pullRequest opens initInvite).2.calledNull = gate.calledNull := by
  cases opened : (gate.ports.pullerTries opens 3).1 with
  | none => rw [createStreamPuller_none opened]
  | some both =>
    by_cases invited : 0 < initInvite
    · rw [createStreamPuller_some opened invited]
    · rw [createStreamPuller_refused opened (not_lt.mp invited)]

theorem calledNull_deleteStreamPuller :
    (gate.deleteStreamPuller hInst).calledNull = gate.calledNull := by
  unfold Gate.deleteStreamPuller
  split
  · rfl
  · dsimp only
    split
    · rfl
    · exact calledNull_eraseStreamInstance.1

/-- Two handlers ask whether there is a callback before they call it. -/
theorem calledNull_invite (sdpInfo : SdpInfo) :
    (gate.mediaGateHandleCallInviteIncoming outcome event sdpInfo).calledNull = gate.calledNull := by
  unfold Gate.mediaGateHandleCallInviteIncoming
  split
  · rfl
  · rename_i heard
    rw [Bool.not_eq_false] at heard
    dsimp only
    split
    · rfl
    · cases opened : (gate.ports.pusherTries outcome.opens 3).1 with
      | none => rw [createStreamPusher_none opened]
      | some iLocalPort =>
        rw [createStreamPusher_some opened]
        have called := @calledNull_call { gate with
            ports := (gate.ports.pusherTries outcome.opens 3).2
            cells := gate.cells ++ [Cell.newPusher outcome event.cid
              (mediaGateGetKeyValue sdpInfo.szX "id".toList 256).2 iLocalPort] } heard
          ⟨.callInit, (mediaGateGetKeyValue sdpInfo.szX "id".toList 256).2, some sdpInfo.szX,
            some gate.cells.length⟩
        dsimp only
        split
        · unfold Gate.sipUAAnswerInvite200OK
          split <;> exact called
        · exact called

theorem calledNull_bye :
    (gate.mediaGateHandleCallBye event).calledNull = gate.calledNull := by
  unfold Gate.mediaGateHandleCallBye
  split
  · rfl
  · rename_i heard
    rw [Bool.not_eq_false] at heard
    split
    · rfl
    · rename_i pInst _
      obtain ⟨kept, callback⟩ := @calledNull_eraseStreamInstance (gate.useCell pInst
        (Cell.use fun object => { object with bAutoRelease := true })) event.cid
      exact (calledNull_call (callback.trans heard) _).trans kept

theorem calledNull_answered :
    (gate.handleCallAnswer200OK outcome event).calledNull = gate.calledNull := by
  unfold Gate.handleCallAnswer200OK Gate.sipUASendAck
  cases gate.getStreamInstance event.cid <;> (dsimp only; split <;> rfl)

theorem calledNull_refused : (gate.handleCallAnswerRsp event).calledNull = true ↔
    gate.calledNull = true ∨
      ¬ (gate.fnMediaGateEventCB = true ∨ gate.getStreamInstance event.cid = none) := by
  unfold Gate.handleCallAnswerRsp
  cases gate.getStreamInstance event.cid with
  | none => simp
  | some pInst =>
    simp only [reduceCtorEq, or_false]
    cases heard : gate.fnMediaGateEventCB with
    | true =>
      have same : (Gate.useCell pInst (Cell.use id) gate).fnMediaGateEventCB = true := heard
      rw [calledNull_call same]
      simp [Gate.useCell, Gate.setCells]
    | false =>
      have deaf : ¬ (Gate.useCell pInst (Cell.use id) gate).fnMediaGateEventCB = true := by
        rw [show (Gate.useCell pInst (Cell.use id) gate).fnMediaGateEventCB = false from heard]
        exact Bool.false_ne_true
      rw [Gate.call, if_neg deaf]
      simp

/-- What is called is nothing where a call of the gate is refused and there is no callback. -/
theorem calledNull_next (gate : Gate) (input : Input) : (gate.next input).calledNull = true ↔
    gate.calledNull = true ∨ ¬ ∀ other, input.refused = some other →
      gate.fnMediaGateEventCB = true ∨ gate.getStreamInstance other = none := by
  have kept (same : (gate.next input).calledNull = gate.calledNull)
      (other : input.refused = none) : (gate.next input).calledNull = true ↔
        gate.calledNull = true ∨ ¬ ∀ other, input.refused = some other →
          gate.fnMediaGateEventCB = true ∨ gate.getStreamInstance other = none := by
    rw [same, other]
    simp
  cases input with
  | tick => exact kept rfl rfl
  | createStreamPuller => exact kept calledNull_createStreamPuller rfl
  | deleteStreamPuller => exact kept calledNull_deleteStreamPuller rfl
  | event incoming outcome =>
    have handled : gate.next (.event incoming outcome) = gate.handleEvent outcome incoming := rfl
    rw [handled, Gate.handleEvent] at kept ⊢
    rw [Input.refused] at kept ⊢
    cases dispatched : SipServer.threadEventLoop incoming with
    | none =>
      rw [dispatched] at kept
      exact kept rfl rfl
    | some msg =>
      rw [dispatched] at kept
      cases msg with
      | callAnswerRsp =>
        rw [if_pos rfl]
        have refused := @calledNull_refused gate incoming
        simpa only [Gate.gb28181EventCB, Option.some.injEq, forall_eq'] using refused
      | callInviteIncoming => exact kept (calledNull_invite _) rfl
      | callAnswer200OK => exact kept calledNull_answered rfl
      | callBye => exact kept calledNull_bye rfl
      | registerSuccess | registerFailure | messageRequestfailure => exact kept rfl rfl
      | registerNew | registerRefresh | callAck | message | messageAnswered | info =>
        exact kept rfl rfl

end CalledNull

variable {watch : Watch} {input : Input} {inputs earlier : List Input}

theorem any_hangsUp_of_silent (silent : Silent cid gate after) :
    (after.sent.drop gate.sent.length).any (Request.hangsUp cid) = false := by
  obtain ⟨requests, same, quiet⟩ := silent
  rw [same, List.drop_left, List.any_eq_false]
  intro request member
  rw [quiet request member]
  nofun

theorem gone_next : (watch.next hPuller cid input).gone =
    (watch.gone || (decide (input.bye = some cid) || input.deletes hPuller)) := by
  unfold Watch.gone Watch.next
  cases watch.byeReceived <;> cases watch.ownerDeleted <;> simp

theorem byeCrossed_of_silent (silent : Silent cid watch.gate (watch.gate.next input)) :
    (watch.next hPuller cid input).byeCrossed = watch.byeCrossed := by
  unfold Watch.next
  rw [any_hangsUp_of_silent silent, Bool.and_false, Bool.or_false]

theorem deletes_iff : input.deletes hPuller = true ↔ input = .deleteStreamPuller hPuller := by
  cases input with
  | deleteStreamPuller handle => simp [Input.deletes]
  | event | tick | createStreamPuller => exact iff_of_false nofun nofun

theorem bye_eq_some : input.bye = some cid ↔ ∃ incoming outcome, input = .event incoming outcome ∧
    SipServer.threadEventLoop incoming = some .callBye ∧ incoming.cid = cid := by
  cases input with
  | event incoming outcome =>
    rw [Input.bye]
    split
    case isTrue bye => simp [bye]
    case isFalse other => simp [other]
  | tick | createStreamPuller | deleteStreamPuller => simp [Input.bye]

/-- A careful step keeps track of the puller and sends no BYE too many. -/
theorem tracked_of_careful (tracked : Tracked hPuller cid watch.gone watch.gate)
    (positive : 0 < cid) (fresh : input.brings ≠ some cid)
    (careful : watch.Careful hPuller cid input) :
    Tracked hPuller cid (watch.next hPuller cid input).gone (watch.gate.next input) ∧
      (watch.next hPuller cid input).byeCrossed = watch.byeCrossed := by
  rw [gone_next]
  cases deletes : input.deletes hPuller with
  | true =>
    have alive := careful.1 deletes
    rw [alive] at tracked
    rw [deletes_iff.mp deletes, Bool.or_true, Bool.or_true]
    refine ⟨tracked.deleteSelf, ?_⟩
    have unheard : watch.byeReceived = false := (Bool.or_eq_false_iff.mp alive).1
    rw [Watch.next, unheard, Bool.false_and, Bool.or_false]
  | false =>
    rw [Bool.or_false]
    by_cases bye : input.bye = some cid
    · rw [decide_eq_true bye, Bool.or_true]
      suffices spares : Spares hPuller cid true watch.gate (watch.gate.next input) from
        ⟨spares.tracked, byeCrossed_of_silent spares.silent⟩
      cases gone : watch.gone with
      | true =>
        rw [gone] at tracked
        exact tracked.next positive fresh (.inl rfl) deletes
      | false =>
        rw [gone] at tracked
        have callback := (careful.2.1 bye).resolve_right (by rw [gone]; nofun)
        obtain ⟨incoming, outcome, rfl, dispatched, same⟩ := bye_eq_some.mp bye
        show Spares hPuller cid true watch.gate (watch.gate.handleEvent outcome incoming)
        rw [Gate.handleEvent, dispatched]
        exact tracked.byeSelf same callback
    · rw [decide_eq_false bye, Bool.or_false]
      have spares := tracked.next positive fresh (.inr bye) deletes
      exact ⟨spares.tracked, byeCrossed_of_silent spares.silent⟩

theorem not_releasedOnce_of_careless (tracked : Tracked hPuller cid watch.gone watch.gate)
    (careless : ¬ watch.Careful hPuller cid input) :
    ¬ (watch.next hPuller cid input).ReleasedOnce hPuller := by
  rintro ⟨running, -, pPuller, found, fresh, released, deleted⟩
  obtain ⟨old, there, lives⟩ := tracked.cell
  rw [gone_next] at released deleted
  rw [Watch.Careful, not_and_or, not_and_or] at careless
  rcases careless with twice | unheard | refused
  · -- a puller that is deleted already is read
    obtain ⟨deletes, gone⟩ := Classical.not_imp.mp twice
    rw [Bool.not_eq_false] at gone
    rw [gone] at tracked lives
    have read : (watch.gate.deleteStreamPuller hPuller).cells =
        (watch.gate.useCell hPuller (Cell.use id)).cells := by
      unfold Gate.deleteStreamPuller
      rw [there]
      dsimp only
      split
      · rfl
      · have missing : Gate.getStreamInstance cid (Gate.send (.terminateCall cid old.object.did)
            (Gate.useCell hPuller (Cell.use id) watch.gate)) = none := tracked.mapped
        rw [lives.cid, eraseStreamInstance_none missing]
        rfl
    rw [deletes_iff.mp deletes] at found
    have stale : (watch.gate.deleteStreamPuller hPuller).cells[hPuller]? = some (old.use id) := by
      rw [read, Gate.useCell, Gate.setCells, List.getElem?_modify_eq, there]
      rfl
    have same : pPuller = old.use id := Option.some.inj (found.symm.trans stale)
    rw [same, Cell.use, lives.deleted] at fresh
    simp at fresh
  · -- a BYE that no callback hears leaves the puller as it is
    obtain ⟨bye, deaf⟩ := Classical.not_imp.mp unheard
    obtain ⟨callback, gone⟩ := not_or.mp deaf
    obtain ⟨incoming, outcome, rfl, dispatched, -⟩ := bye_eq_some.mp bye
    have kept : watch.gate.next (.event incoming outcome) = watch.gate := by
      show watch.gate.handleEvent outcome incoming = watch.gate
      rw [Gate.handleEvent, dispatched]
      exact if_pos (Bool.not_eq_true _ ▸ callback)
    rw [show (watch.next hPuller cid (.event incoming outcome)).gate = _ from kept, there] at found
    cases found
    rw [Bool.not_eq_true] at gone
    rw [decide_eq_true bye, Bool.true_or, Bool.or_true, lives.deleted, gone] at deleted
    exact absurd deleted (by decide)
  · -- a refusal that no callback hears ends the process
    have null := (calledNull_next watch.gate input).mpr (.inr refused)
    rw [show (watch.gate.next input).calledNull = false from running] at null
    cases null

theorem releasedOnce_of_tracked (tracked : Tracked hPuller cid watch.gone watch.gate)
    (running : watch.gate.calledNull = false) (quiet : watch.byeCrossed = false) :
    watch.ReleasedOnce hPuller := by
  obtain ⟨pPuller, found, lives⟩ := tracked.cell
  exact ⟨running, quiet, pPuller, found, lives.stale, lives.released, lives.deleted⟩

theorem releasedOnce_next (tracked : Tracked hPuller cid watch.gone watch.gate)
    (running : watch.gate.calledNull = false) (quiet : watch.byeCrossed = false) (positive : 0 < cid) (fresh : input.brings ≠ some cid) :
    (watch.next hPuller cid input).ReleasedOnce hPuller ↔ watch.Careful hPuller cid input := by
  constructor
  · intro releasedOnce
    by_contra careless
    exact not_releasedOnce_of_careless tracked careless releasedOnce
  · intro careful
    obtain ⟨after, same⟩ := tracked_of_careful tracked positive fresh careful
    have still : (watch.gate.next input).calledNull = false := by
      rw [← Bool.not_eq_true, calledNull_next, running]
      exact not_or.mpr ⟨nofun, not_not.mpr careful.2.2⟩
    exact releasedOnce_of_tracked after still (same.trans quiet)

theorem tracked_created {used : List Int} (known : Known used gate)
    (created : gate.createStreamPuller pullRequest opens initInvite = (some hPuller, after))
    (fresh : initInvite ∉ used) : 0 < initInvite ∧ Tracked hPuller initInvite false after := by
  obtain ⟨mediaPort, proxyPort, opened, invited⟩ := createStreamPuller_eq_some created
  rw [createStreamPuller_some opened invited] at created
  cases created
  have absent : gate.mapGB28181StreamInstance.find initInvite = none := by
    cases found : gate.mapGB28181StreamInstance.find initInvite with
    | none => rfl
    | some hInst => exact absurd (known.keys initInvite hInst found).1 fresh
  refine ⟨invited, ⟨_, List.getElem?_concat_length, ⟨rfl, rfl, rfl, rfl, fun _ => rfl⟩⟩, ?_, ?_, ?_⟩
  · exact (OrderedMap.find_insert absent).trans (if_pos rfl)
  · intro key found
    rw [OrderedMap.find_insert absent] at found
    split at found
    case isTrue same => exact same
    case isFalse => exact absurd (known.keys key _ found).2 (lt_irrefl _)
  · intro other pOther found same
    by_cases old : other < gate.cells.length
    · rw [List.getElem?_append_left old] at found
      rcases known.cells pOther (List.mem_of_getElem? found) with none | there
      · exact absurd (same.symm.trans none) invited.ne'
      · exact absurd (same ▸ there) fresh
    · have inside := (List.getElem?_eq_some_iff.mp found).1
      rw [List.length_append, List.length_singleton] at inside
      exact le_antisymm (Nat.lt_succ_iff.mp inside) (not_lt.mp old)

/-- The watch over a puller that was just created. -/
def Watch.start (gate : Gate) : Watch := ⟨gate, false, false, false⟩

/-- In exactly the careful runs of the gate a puller is released and deleted once, not used
after that, and hung up only by the gate that was not hung up on. -/
theorem releasedOnce_iff (arguments : InitArguments) (earlier : List Input)
    (created : (earlier.foldl Gate.next (init arguments)).createStreamPuller pullRequest opens
      initInvite = (some hPuller, after))
    (running : (earlier.foldl Gate.next (init arguments)).calledNull = false)
    (inputs : List Input) (fresh : initInvite ∉ (earlier ++ inputs).filterMap Input.brings) :
    Throughout (Watch.next hPuller initInvite) (Watch.ReleasedOnce hPuller) (.start after) inputs ↔
      EveryStep (Watch.next hPuller initInvite) (Watch.Careful hPuller initInvite) (.start after)
        inputs := by
  rw [List.filterMap_append, List.mem_append, not_or] at fresh
  obtain ⟨positive, tracked⟩ := tracked_created (Known.foldl arguments earlier) created fresh.1
  have begins : after.calledNull = false := by
    have kept := @calledNull_createStreamPuller (earlier.foldl Gate.next (init arguments))
      initInvite pullRequest opens
    rw [created] at kept
    exact kept.trans running
  have unused : ∀ input ∈ inputs, input.brings ≠ some initInvite := by
    intro input member brings
    exact fresh.2 (List.mem_filterMap.mpr ⟨input, member, brings⟩)
  refine @throughout_iff_everyStep _ _ _ _ (fun watch =>
      Tracked hPuller initInvite watch.gone watch.gate) _ _ _ tracked
    (releasedOnce_of_tracked tracked begins rfl) ?_ ?_
  · intro watch input member tracked releasedOnce later
    have careful := (releasedOnce_next tracked releasedOnce.1 releasedOnce.2.1 positive
      (unused input member)).mp later
    exact (tracked_of_careful tracked positive (unused input member) careful).1
  · intro watch input member tracked releasedOnce
    exact releasedOnce_next tracked releasedOnce.1 releasedOnce.2.1 positive (unused input member)

def pullerGate : Gate := ((init proxyArguments).createStreamPuller livePull (fun _ => true) 7).2

/-- The other side hangs up the call 7. -/
def hangUp : Input := .event ⟨.callClosed, 3, 1, 7, none, none⟩ willing

theorem releasedOnce_iff_deleteFirst :
    Throughout (Watch.next 0 7) (Watch.ReleasedOnce 0) (.start pullerGate)
        [.deleteStreamPuller 0, hangUp] ↔
      EveryStep (Watch.next 0 7) (Watch.Careful 0 7) (.start pullerGate)
        [.deleteStreamPuller 0, hangUp] :=
  releasedOnce_iff proxyArguments [] (Prod.ext (by decide) rfl) rfl _ (by decide)

/-- An owner that deletes its puller after a BYE reads an object that the gate has deleted. -/
theorem deleted_twice : ¬ ∀ (arguments : InitArguments) (earlier : List Input)
    (pullRequest : PullRequest) (opens : Nat → Bool) (initInvite : Int) (hPuller : HMG)
    (after : Gate), arguments.fnCB = true →
    (earlier.foldl Gate.next (init arguments)).createStreamPuller pullRequest opens initInvite =
      (some hPuller, after) →
    ∀ inputs : List Input, initInvite ∉ (earlier ++ inputs).filterMap Input.brings →
      Throughout (Watch.next hPuller initInvite) (Watch.ReleasedOnce hPuller) (.start after)
        inputs := by
  intro releasedOnce
  obtain ⟨-, -, pPuller, found, fresh, -⟩ := (releasedOnce proxyArguments [] livePull (fun _ => true)
    7 0 pullerGate rfl (Prod.ext (by decide) rfl) [hangUp, .deleteStreamPuller 0] (by decide)).last
  have stale : (([hangUp, .deleteStreamPuller 0].foldl (Watch.next 0 7)
      (.start pullerGate)).gate.cells[0]?).map Cell.stale = some true := by decide +kernel
  rw [found, Option.map_some, fresh] at stale
  exact nomatch stale

end Gb28181.MediaGate
