import Gb28181.MediaGate.Gate

namespace Gb28181.MediaGate

open Gb28181.Lib Gb28181.SipUA

/-- A pusher is created for the INVITE, and the callback returns `MEDIA_GATE_RETURN_SUCCESS`. -/
def Accepted (gate : Gate) (outcome : Outcome) (sdpInfo : SdpInfo) : Prop :=
  gate.fnMediaGateEventCB = true ∧ 0 < (mediaGateGetKeyValue sdpInfo.szX "id".toList 256).1 ∧
    (∃ iTry < 3, outcome.opens iTry = true) ∧ outcome.callback = 0

/-- One final response goes out: a 200 for an accepted INVITE, whose pusher is then mapped, or
else a failure, which leaves no pusher. -/
def AnsweredOnce (gate : Gate) (outcome : Outcome) (event : Event) (sdpInfo : SdpInfo) : Prop :=
  let after := gate.mediaGateHandleCallInviteIncoming outcome event sdpInfo
  ∃ status body, after.sent = gate.sent ++ [.answer event.tid status body] ∧
    (Accepted gate outcome sdpInfo → status = 200 ∧
      after.mapGB28181StreamInstance.find event.cid = some gate.cells.length ∧
      ∃ pPusher, after.cells[gate.cells.length]? = some pPusher ∧ pPusher.kind = .pusher ∧
        pPusher.object.cid = event.cid ∧ pPusher.deleted = 0) ∧
    (¬ Accepted gate outcome sdpInfo → 300 ≤ status ∧
      after.mapGB28181StreamInstance = gate.mapGB28181StreamInstance ∧
      ∀ pPusher ∈ after.cells.drop gate.cells.length, pPusher.deleted = 1)

variable {gate : Gate} {outcome : Outcome} {event : Event} {sdpInfo : SdpInfo}
  {opens : Nat → Bool} {ports : Ports} {iLocalPort : Nat}

theorem isSome_pusherTries {left : Nat} :
    (ports.pusherTries opens left).1.isSome ↔ ∃ iTry < left, opens iTry = true := by
  induction left generalizing opens ports with
  | zero =>
    refine iff_of_false Bool.false_ne_true ?_
    rintro ⟨_, below, -⟩
    exact Nat.not_lt_zero _ below
  | succ left ih =>
    rw [Ports.pusherTries]
    cases first : opens 0 with
    | true => exact iff_of_true rfl ⟨0, Nat.succ_pos _, first⟩
    | false =>
      rw [if_neg Bool.false_ne_true, ih]
      constructor
      · rintro ⟨iTry, below, opened⟩
        exact ⟨iTry + 1, Nat.succ_lt_succ below, opened⟩
      · rintro ⟨iTry, below, opened⟩
        cases iTry with
        | zero => rw [first] at opened; cases opened
        | succ iTry => exact ⟨iTry, Nat.lt_of_succ_lt_succ below, opened⟩

theorem invite_accepted (callback : gate.fnMediaGateEventCB = true)
    (named : 0 < (mediaGateGetKeyValue sdpInfo.szX "id".toList 256).1)
    (opened : (gate.ports.pusherTries outcome.opens 3).1 = some iLocalPort)
    (success : outcome.callback = 0) :
    (∃ body, (gate.mediaGateHandleCallInviteIncoming outcome event sdpInfo).sent =
        gate.sent ++ [.answer event.tid (if outcome.build = 0 then 200 else 400) body]) ∧
      (gate.mediaGateHandleCallInviteIncoming outcome event sdpInfo).mapGB28181StreamInstance =
        gate.mapGB28181StreamInstance.insert event.cid gate.cells.length ∧
      (gate.mediaGateHandleCallInviteIncoming outcome event sdpInfo).cells =
        gate.cells ++ [(Cell.newPusher outcome event.cid
          (mediaGateGetKeyValue sdpInfo.szX "id".toList 256).2 iLocalPort).use
            (fun object => { object with did := event.did })] := by
  unfold Gate.mediaGateHandleCallInviteIncoming
  rw [if_neg (by rw [callback]; nofun)]
  dsimp only
  rw [if_neg (not_le.mpr named), createStreamPusher_some opened]
  dsimp only
  rw [if_pos success, Gate.call, if_pos callback, Gate.sipUAAnswerInvite200OK]
  split
  case isTrue failed => exact ⟨⟨none, rfl⟩, rfl, modify_last _ _ _⟩
  case isFalse built =>
    rw [if_pos (not_not.mp built)]
    exact ⟨⟨_, rfl⟩, rfl, modify_last _ _ _⟩

/-- For an INVITE that is not accepted nothing is sent at all. -/
theorem invite_unanswered (refused : ¬ Accepted gate outcome sdpInfo) :
    (gate.mediaGateHandleCallInviteIncoming outcome event sdpInfo).sent = gate.sent := by
  unfold Gate.mediaGateHandleCallInviteIncoming
  split
  · rfl
  · rename_i callback
    dsimp only
    split
    · rfl
    · rename_i named
      cases opened : (gate.ports.pusherTries outcome.opens 3).1 with
      | none => rw [createStreamPusher_none opened]
      | some iLocalPort =>
        rw [createStreamPusher_some opened]
        dsimp only
        split
        case isTrue success =>
          have tried := isSome_pusherTries.mp (Option.isSome_iff_exists.mpr ⟨iLocalPort, opened⟩)
          exact absurd ⟨Bool.not_eq_false _ ▸ callback, not_le.mp named, tried, success⟩ refused
        case isFalse =>
          unfold Gate.call
          split <;> rfl

/-- The gate answers an INVITE as it should exactly when it accepts it under a new call id and
the SIP stack can build the 200. -/
theorem answeredOnce_iff (arguments : InitArguments) (inputs : List Input) (outcome : Outcome)
    (event : Event) (sdpInfo : SdpInfo) :
    AnsweredOnce (inputs.foldl Gate.next (init arguments)) outcome event sdpInfo ↔
      Accepted (inputs.foldl Gate.next (init arguments)) outcome sdpInfo ∧ outcome.build = 0 ∧
        (inputs.foldl Gate.next (init arguments)).mapGB28181StreamInstance.find event.cid = none := by
  have known := Known.foldl arguments inputs
  generalize inputs.foldl Gate.next (init arguments) = gate at known ⊢
  by_cases accepted : Accepted gate outcome sdpInfo
  · obtain ⟨callback, named, tried, success⟩ := accepted
    obtain ⟨iLocalPort, opened⟩ := Option.isSome_iff_exists.mp
      (@isSome_pusherTries _ gate.ports _ |>.mpr tried)
    obtain ⟨⟨body, sent⟩, map, cells⟩ :=
      @invite_accepted _ _ event _ _ callback named opened success
    have accepts : Accepted gate outcome sdpInfo := ⟨callback, named, tried, success⟩
    constructor
    · rintro ⟨status, body', sent', right, -⟩
      obtain ⟨ok, mapped, -⟩ := right accepts
      rw [sent, List.append_cancel_left_eq, List.singleton_inj, Request.answer.injEq] at sent'
      refine ⟨accepts, ?_, ?_⟩
      · by_contra failed
        rw [if_neg failed, ok] at sent'
        exact absurd sent'.2.1 (by decide)
      · -- an id that is mapped already stays with its old object
        cases found : gate.mapGB28181StreamInstance.find event.cid with
        | none => rfl
        | some old =>
          have below := (known.keys event.cid old found).2
          rw [map, OrderedMap.insert_there (Option.isSome_iff_exists.mpr ⟨old, found⟩), found] at mapped
          exact absurd (Option.some.inj mapped) below.ne
    · rintro ⟨-, built, absent⟩
      rw [if_pos built] at sent
      refine ⟨200, body, sent, fun _ => ⟨rfl, ?_, ?_⟩, fun refused => absurd accepts refused⟩
      · rw [map]
        exact (OrderedMap.find_insert absent).trans (if_pos rfl)
      · rw [cells]
        exact ⟨_, List.getElem?_concat_length, rfl, rfl, rfl⟩
  · refine iff_of_false ?_ (fun right => accepted right.1)
    rintro ⟨status, body, sent, -⟩
    rw [invite_unanswered accepted] at sent
    exact absurd sent.symm (by simp)

def unwilling : Outcome := { willing with callback := 1 }

def streamSdp : SdpInfo := { SdpInfo.zero with szX := "id=1".toList }

theorem turned_down_unanswered : ¬ ∀ (arguments : InitArguments) (inputs : List Input)
    (outcome : Outcome) (event : Event) (sdpInfo : SdpInfo),
    AnsweredOnce (inputs.foldl Gate.next (init arguments)) outcome event sdpInfo := by
  intro answered
  obtain ⟨status, body, sent, -⟩ :=
    answered proxyArguments [] unwilling ⟨.callInvite, 3, 1, 4, none, none⟩ streamSdp
  have silent : ((init proxyArguments).mediaGateHandleCallInviteIncoming unwilling
      ⟨.callInvite, 3, 1, 4, none, none⟩ streamSdp).sent = [] := by decide +kernel
  rw [List.foldl_nil, silent] at sent
  exact nomatch sent

end Gb28181.MediaGate
