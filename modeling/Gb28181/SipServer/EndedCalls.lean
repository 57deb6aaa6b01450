import Gb28181.SipServer.InviteLedger

namespace Gb28181.SipServer

open Gb28181.Lib Gb28181.SipUA

variable {env : Environment} {outcome : Outcome} {event : Event} {state after : State}
  {issued : Issued} {input : Input} {cid : Int}

/-- The call that an event reports to have ended. -/
def endedCall (event : Event) : Option Int :=
  match event.type with
  | .callClosed | .callReleased | .callCancelled | .callNoanswer | .callTimeout => some event.cid
  | .callAnswered | .callRedirected | .callRequestfailure | .callServerfailure
  | .callGlobalfailure =>
    event.response.bind fun response => if response.statusCode = 200 then none else some event.cid
  | _ => none

def Input.ended : Input → Option Int
  | .event event _ => endedCall event
  | .tick _ => none

def endedBy (inputs : List Input) : List Int := inputs.filterMap Input.ended

def Input.cids (input : Input) : List Int := (input.invite.map Invite.cid).toList ++ input.outgoing

/-- The stack gives no id twice, and none again after it has reported the end of the call. -/
structure StackIds (inputs : List Input) : Prop where
  fresh : (issuedBy inputs).Fresh
  final : inputs.Pairwise (fun input later => ∀ cid ∈ input.ended, cid ∉ later.cids)

/-- The end of a call that is in the list comes as EXOSIP_CALL_CLOSED, or as an answer to the
INVITE the server sent for it. -/
def Input.Removes (state : State) : Input → Prop
  | .event event _ => endedCall event = none ∨ event.type = .callClosed ∨
    (threadEventLoop event = some .callAnswerRsp ∧
      (state.getCallContextByCallLeg event.cid .callee).isSome) ∨
    state.getCallContext event.cid = none
  | .tick _ => True

/-- Besides, no INVITE that has waited is connected after its call has ended. -/
def RemovedAfter (env : Environment) (earlier : List Input) (input : Input) : Prop :=
  input.Removes (State.handleAll env .initial earlier) ∧
    ∀ invite ∈ input.resumed env (State.handleAll env .initial earlier),
      invite.cid ∉ endedBy earlier

private theorem dispatch_ended (ends : endedCall event = some cid) : cid = event.cid ∧
    (threadEventLoop event = some .callBye ∨ event.type ≠ .callClosed ∧
      (threadEventLoop event = some .callAnswerRsp ∨ threadEventLoop event = none)) := by
  have answered : (event.response.bind fun response =>
      if response.statusCode = 200 then none else some event.cid) = some cid →
        cid = event.cid ∧ (event.response.map fun response =>
          if response.statusCode = 200 then UAMsg.callAnswer200OK else .callAnswerRsp) =
            some .callAnswerRsp := by
    intro ends
    obtain ⟨response, there, final⟩ := Option.bind_eq_some_iff.mp ends
    split at final
    · cases final
    · rename_i other
      rw [there, Option.map_some, if_neg other]
      exact ⟨(Option.some.inj final).symm, rfl⟩
  cases type : event.type <;>
    simp only [endedCall, type, threadEventLoop, reduceCtorEq, Option.some.injEq] at ends ⊢
  case callClosed => exact ⟨ends.symm, .inl trivial⟩
  case callNoanswer | callCancelled | callTimeout | callReleased =>
    exact ⟨ends.symm, .inr ⟨by decide, .inr trivial⟩⟩
  all_goals
    obtain ⟨same, response⟩ := answered ends
    exact ⟨same, .inr ⟨by decide, .inl response⟩⟩

theorem getCallContext_eq_none : state.getCallContext cid = none ↔ state.book.Rid cid := by
  constructor
  · intro missing call member leg
    obtain ⟨cell, there, rfl⟩ := List.mem_map.mp member
    have apart := List.find?_eq_none.mp missing cell there
    rcases Call.mem_legs.mp leg with caller | callee
    · exact apart (by simp [caller, CallContext.call])
    · exact apart (by simp [callee, CallContext.call])
  · intro rid
    refine List.find?_eq_none.mpr ?_
    intro cell there found
    refine rid cell.2.call (List.mem_map.mpr ⟨cell, there, rfl⟩) (Call.mem_legs.mpr ?_)
    simpa [CallContext.call] using found

theorem rid_of_ended (allocated : state.Allocated) (sound : state.book.Sound issued)
    (fresh : issued.Fresh) (ends : endedCall event = some cid)
    (removes : Input.Removes state (.event event outcome))
    (ended : ((handleEvent env outcome event).run state).2 = after) : after.book.Rid cid := by
  obtain ⟨rfl, dispatched⟩ := dispatch_ended ends
  unfold handleEvent at ended
  rcases dispatched with bye | ⟨notClosed, answer⟩
  · rw [bye] at ended
    obtain ⟨-, book⟩ := book_bye allocated ended
    cases found : state.getCallContext event.cid with
    | none =>
      rw [found] at book
      rw [show after.book = state.book from book]
      exact getCallContext_eq_none.mp found
    | some cell =>
      rw [found] at book
      obtain ⟨calls, waiting, called, -, same⟩ := book
      rw [Multiset.singleton_add] at called
      have leg : event.cid ∈ cell.2.call.legs := by
        have legs := List.find?_some found
        exact Call.mem_legs.mpr (by simpa [CallContext.call] using legs)
      exact sound.rid_of_removed fresh called leg (congrArg Book.calls same)
  · have left : (threadEventLoop event = some .callAnswerRsp ∧
        (state.getCallContextByCallLeg event.cid .callee).isSome) ∨
          state.getCallContext event.cid = none := by
      rcases removes with none | closed | rest
      · rw [none] at ends
        exact nomatch ends
      · exact absurd closed notClosed
      · exact rest
    rcases answer with response | silent
    · rw [response] at ended
      obtain ⟨-, book⟩ := book_answerResponse allocated ended
      cases found : state.getCallContextByCallLeg event.cid .callee with
      | none =>
        rw [found] at book left
        rw [show after.book = state.book from book]
        exact getCallContext_eq_none.mp (left.resolve_left (fun answered => nomatch answered.2))
      | some cell =>
        rw [found] at book
        obtain ⟨rest, called, same⟩ := book
        have callee : event.cid = cell.2.sCallee.cid := by
          have leg := List.find?_some found
          exact of_decide_eq_true leg
        exact sound.rid_of_removed fresh called (Call.mem_legs.mpr (.inr callee))
          (congrArg Book.calls same)
    · rw [silent] at ended left
      subst ended
      exact getCallContext_eq_none.mp (left.resolve_left (fun answered => nomatch answered.1))

/-- In every run that the condition allows, the calls of the book are rid of every ended one. -/
theorem rid_handleAll (inputs : List Input) (ids : StackIds inputs)
    (steps : EachStep (RemovedAfter env) [] inputs) :
    ∀ cid ∈ endedBy inputs, (State.handleAll env .initial inputs).book.Rid cid := by
  induction inputs using List.reverseRecOn with
  | nil => exact fun cid member => absurd member List.not_mem_nil
  | append_singleton inputs input ih =>
    obtain ⟨before, removes, resumed⟩ := eachStep_concat.mp steps
    obtain ⟨earlier, -, later⟩ := List.pairwise_append.mp ids.final
    have fresh := fresh_of_concat ids.fresh
    obtain ⟨allocated, sound⟩ := @sound_handleAll env inputs fresh.freshCids
    have rid := ih ⟨fresh, earlier⟩ before
    rw [List.nil_append] at removes resumed
    rw [State.handleAll, List.foldl_concat]
    intro cid member
    rw [endedBy, List.filterMap_append] at member
    rcases List.mem_append.mp member with old | new
    · obtain ⟨-, deed, does, fits, -⟩ := effect_of_sound allocated sound ids.fresh.freshCids
      obtain ⟨first, there, ends⟩ := List.mem_filterMap.mp old
      have unused := later first there input (by simp) cid ends
      refine does.rid (rid cid old) ?_ ?_ ?_
      · rintro invite brought rfl
        rw [fits.arrives] at brought
        exact unused (by simp [Input.cids, brought])
      · intro callee
        exact unused (List.mem_append_right _ (fits.callee cid callee))
      · rintro call resumes rfl
        exact resumed _ (fits.resumed call resumes) old
    · cases input with
      | tick => exact absurd new List.not_mem_nil
      | event event outcome =>
        have ends : endedCall event = some cid := by simpa [Input.ended] using new
        exact rid_of_ended allocated sound fresh ends removes rfl

instance (state : State) (input : Input) : Decidable (input.Removes state) :=
  match input with
  | .event _ _ => inferInstanceAs (Decidable (_ ∨ _ ∨ _ ∨ _))
  | .tick _ => inferInstanceAs (Decidable True)

instance (earlier : List Input) (input : Input) : Decidable (RemovedAfter env earlier input) :=
  inferInstanceAs (Decidable (_ ∧ _))

/-- The stack reports the end of the call of the INVITE `deviceInvite 3 4`. -/
def callerEnds (type : EventType) : Input :=
  .event ⟨type, 3, 1, 4, none, none⟩ (answering 2000 0)

set_option maxRecDepth 4000 in
theorem removed_registeredPlatform :
    EachStep (RemovedAfter sampleEnvironment) [] registeredPlatform := by
  have spelled : catalogBody = _ := toList_literal _ rfl
  unfold registeredPlatform platformCatalog sampleEnvironment
  rw [spelled]
  decide +kernel

end Gb28181.SipServer
