import Gb28181.SipServer.InviteLedger

namespace Gb28181.SipServer

open Gb28181.Lib Gb28181.SipUA

variable {env : Environment} {outcome : Outcome} {event : Event} {state after : State}
  {cell : Pointer × CallContext} {cid : Int}

/-- The call id is that of the caller or the callee. -/
def CallContext.HasLeg (cid : Int) (context : CallContext) : Prop :=
  cid = context.sCaller.cid ∨ cid = context.sCallee.cid

/-- The call ids on the legs of all contexts. -/
def State.legCids (state : State) : List Int :=
  state.lsCallContext.flatMap (fun cell => [cell.2.sCaller.cid, cell.2.sCallee.cid])

theorem legCids_book : (state.legCids : Multiset Int) = state.book.calls.bind Call.legs := by
  have calls : state.book.calls = (state.lsCallContext.map (fun cell => cell.2.call) : List Call) :=
    rfl
  have legs : Call.legs = fun call => (([call.caller.cid, call.calleeCid] : List Int) :
      Multiset Int) := rfl
  rw [calls, legs, Multiset.coe_bind, List.flatMap_map]
  rfl

/-- Without a context to its call id a BYE does nothing. -/
theorem run_bye_stray (stray : ∀ cell ∈ state.lsCallContext, ¬ cell.2.HasLeg event.cid) :
    ((sipServerHandleCallBye event).run state).2 = state := by
  have missing : state.getCallContext event.cid = none := by
    apply List.find?_eq_none.mpr
    intro cell member found
    apply stray cell member
    simpa [CallContext.HasLeg] using found
  unfold sipServerHandleCallBye
  simp only [Prog.run_bind, Prog.run_lock, Prog.run_read, missing, Prog.run_unlock]

/-- A BYE hangs up both legs of its call and takes the call from the list. -/
theorem run_bye_call (allocated : state.Allocated) (once : state.legCids.Nodup)
    (member : cell ∈ state.lsCallContext) (leg : cell.2.HasLeg event.cid) :
    ∃ first last, state.lsCallContext = first ++ cell :: last ∧
      ((sipServerHandleCallBye event).run state).2 =
        { state with
          lsCallContext := first ++ last
          sent := state.sent ++ [.terminateCall cell.2.sCaller.cid cell.2.sCaller.did,
            .terminateCall cell.2.sCallee.cid cell.2.sCallee.did] } := by
  obtain ⟨first, last, split⟩ := List.append_of_mem member
  refine ⟨first, last, split, ?_⟩
  have found : state.getCallContext event.cid = some cell := by
    have others : ∀ other ∈ first, ¬ other.2.HasLeg event.cid := by
      intro other before theirs
      rw [State.legCids, split, List.flatMap_append, List.flatMap_cons, List.nodup_append] at once
      refine once.2.2 event.cid ?_ event.cid ?_ rfl
      · exact List.mem_flatMap.mpr ⟨other, before, by simpa [CallContext.HasLeg] using theirs⟩
      · exact List.mem_append_left _ (by simpa [CallContext.HasLeg] using leg)
    rw [State.getCallContext, split, List.find?_append, List.find?_eq_none.mpr, Option.none_or,
      List.find?_cons_of_pos]
    · simpa [CallContext.HasLeg] using leg
    · intro other before
      simpa [CallContext.HasLeg] using others other before
  have gone : state.lsCallContext.filter (fun other => other.1 ≠ cell.1) = first ++ last := by
    have apart := allocated.apart
    rw [split, List.map_append, List.map_cons, List.nodup_append, List.nodup_cons] at apart
    obtain ⟨-, ⟨behind, -⟩, ahead⟩ := apart
    have all : ∀ part : List (Pointer × CallContext), (∀ other ∈ part, other.1 ≠ cell.1) →
        part.filter (fun other => decide (other.1 ≠ cell.1)) = part :=
      fun part other => List.filter_eq_self.mpr (fun one there => decide_eq_true (other one there))
    rw [split, List.filter_append, List.filter_cons_of_neg (by simp), all first, all last]
    · intro other there same
      exact behind (same ▸ List.mem_map_of_mem there)
    · intro other there same
      exact ahead _ (List.mem_map_of_mem there) _ List.mem_cons_self same
  unfold sipServerHandleCallBye
  simp only [Prog.run_bind, Prog.run_lock, Prog.run_read, found, Prog.run_unlock, send,
    Prog.run_write, removeCallContext, State.removeContext, State.send, gone, List.append_assoc,
    List.cons_append, List.nil_append]

def callerBye : Event := ⟨.callClosed, 3, 1, 4, none, none⟩

end Gb28181.SipServer
