import Gb28181.SipServer.CallBook
import Gb28181.SipServer.Registrations

namespace Gb28181.SipServer

open Gb28181.Lib Gb28181.SipUA

def CallContext.call (context : CallContext) : Call :=
  ⟨⟨context.sCaller.tid, context.sCaller.cid⟩, context.sCallee.cid⟩

def PlaybackCallerInfo.invite (callerInfo : PlaybackCallerInfo) : Invite :=
  ⟨callerInfo.tid, callerInfo.cid⟩

/-- A final response other than a success. -/
def Sent.refusal : Sent → Option Int
  | .answerCall tid status _ => if status ≥ 300 then some tid else none
  | _ => none

def Sent.hangUp : Sent → Option Int
  | .terminateCall cid _ => some cid
  | _ => none

def State.book (state : State) : Book where
  waiting := state.mapPlaybackCallerInfo.entries.map (fun entry => entry.2.invite)
  calls := state.lsCallContext.map (fun cell => cell.2.call)
  refused := state.sent.filterMap Sent.refusal
  hungUp := state.sent.filterMap Sent.hangUp

/-- The contexts stand at different addresses, all given out before. -/
structure State.Allocated (state : State) : Prop where
  apart : (state.lsCallContext.map Prod.fst).Nodup
  given : ∀ cell ∈ state.lsCallContext, cell.1 < state.freshPointer

def Input.invite : Input → Option Invite
  | .event evt _ => if evt.type = .callInvite then some ⟨evt.tid, evt.cid⟩ else none
  | .tick _ => none

/-- The call id the stack gives an INVITE of the server while it handles an input. -/
def Input.outgoing : Input → List Int
  | .event _ outcome => if outcome.initialInvite > 0 then [outcome.initialInvite] else []
  | .tick _ => []

def issuedBy (inputs : List Input) : Issued :=
  ⟨inputs.filterMap Input.invite, inputs.flatMap Input.outgoing⟩

variable {env : Environment} {outcome : Outcome} {event : Event} {state after : State}
  {issued : Issued} {input : Input} {pCtx : Pointer} {context : CallContext}

@[simp] theorem book_send_other {output : Sent} (refusal : output.refusal = none)
    (hangUp : output.hangUp = none) : (State.send output state).book = state.book := by
  simp [State.book, State.send, refusal, hangUp]

theorem book_refuse (tid status : Int) (body : Option Text) (final : status ≥ 300) :
    (State.send (.answerCall tid status body) state).book =
      { state.book with refused := tid ::ₘ state.book.refused } := by
  have refused : (Sent.answerCall tid status body).refusal = some tid := if_pos final
  have last (tids : List Int) : ((tids ++ [tid] : List Int) : Multiset Int) = tid ::ₘ tids :=
    Quot.sound (List.perm_append_singleton tid tids)
  have silent : (Sent.answerCall tid status body).hangUp = none := rfl
  simp [State.book, State.send, refused, silent, last]

theorem book_writeContext {change : CallContext → CallContext}
    (keeps : ∀ context, (change context).call = context.call) :
    (State.writeContext pCtx change state).book = state.book := by
  have same : (State.writeContext pCtx change state).lsCallContext.map (fun cell => cell.2.call) =
      state.lsCallContext.map (fun cell => cell.2.call) := by
    simp only [State.writeContext, List.map_map]
    refine List.map_congr_left ?_
    intro cell _
    simp only [Function.comp_apply]
    split
    · exact keeps cell.2
    · rfl
  simp only [State.book, same]
  rfl

theorem allocated_writeContext {change : CallContext → CallContext} (allocated : state.Allocated) :
    (State.writeContext pCtx change state).Allocated := by
  have same : (State.writeContext pCtx change state).lsCallContext.map Prod.fst =
      state.lsCallContext.map Prod.fst := by
    simp only [State.writeContext, List.map_map]
    refine List.map_congr_left ?_
    intro cell _
    simp only [Function.comp_apply]
    split <;> rfl
  refine ⟨same ▸ allocated.apart, ?_⟩
  intro cell member
  have pointer : cell.1 ∈ state.lsCallContext.map Prod.fst := same ▸ List.mem_map_of_mem member
  obtain ⟨old, there, equal⟩ := List.mem_map.mp pointer
  exact equal ▸ allocated.given old there

theorem State.Allocated.filter (allocated : state.Allocated)
    (contexts : after.lsCallContext.Sublist state.lsCallContext)
    (fresh : after.freshPointer = state.freshPointer) : after.Allocated := by
  refine ⟨allocated.apart.sublist (contexts.map Prod.fst), ?_⟩
  intro cell member
  rw [fresh]
  exact allocated.given cell (contexts.subset member)

theorem calls_removeContext (allocated : state.Allocated)
    (there : (pCtx, context) ∈ state.lsCallContext) :
    state.book.calls = context.call ::ₘ (State.removeContext pCtx state).book.calls := by
  have perm : state.lsCallContext.Perm
      ((pCtx, context) :: (State.removeContext pCtx state).lsCallContext) :=
    perm_cons_filter allocated.apart there
  exact Quot.sound (perm.map (fun cell => cell.2.call))

private theorem refusals_hangUp (contexts : List (Pointer × CallContext)) :
    (contexts.flatMap (fun cell => hangUp cell.2)).filterMap Sent.refusal = [] := by
  refine List.filterMap_eq_nil_iff.mpr ?_
  intro output member
  obtain ⟨cell, _, among⟩ := List.mem_flatMap.mp member
  simp only [hangUp, List.mem_cons, List.not_mem_nil, or_false] at among
  rcases among with rfl | rfl <;> rfl

private theorem hangUps_hangUp (contexts : List (Pointer × CallContext)) :
    ((contexts.flatMap (fun cell => hangUp cell.2)).filterMap Sent.hangUp : Multiset Int) =
      ((contexts.map (fun cell => cell.2.call) : List Call) : Multiset Call).bind Call.legs := by
  induction contexts with
  | nil => rfl
  | cons cell contexts ih =>
    simp only [List.flatMap_cons, List.filterMap_append, List.map_cons, ← Multiset.coe_add,
      ← Multiset.cons_coe, Multiset.cons_bind, ih]
    rfl

/-- The loop of `removeCallContextBySipId` hangs up what it removes. -/
theorem book_removeBySipId (strSipId : Text) : ∃ gone,
    (Deed.sweep gone 0).Does state.book (State.removeBySipId strSipId state).book := by
  refine ⟨((state.lsCallContext.filter (fun cell => cell.2.serves strSipId)).map
    (fun cell => cell.2.call) : Multiset Call),
    (State.removeBySipId strSipId state).book.calls, state.book.waiting, ?_, (zero_add _).symm, ?_⟩
  · have split := List.filter_append_perm (fun cell => cell.2.serves strSipId) state.lsCallContext
    exact Quot.sound ((split.map (fun cell => cell.2.call)).symm.trans (by
      simp [State.removeBySipId]))
  · simp only [State.book, State.removeBySipId, List.filterMap_append, refusals_hangUp,
      List.append_nil, ← Multiset.coe_add, hangUps_hangUp]

/-- The context `initInviteMsg` makes. -/
def openedContext (sdpInfo : SdpInfo) (sHdrFrom : FromHeader) (platform : SipEndpointInfo)
    (tid cid did iCalleeCid : Int) : CallContext where
  sCaller := ⟨tid, did, cid, sdpInfo.sVideoMediaInfo, sdpInfo.sAudioMediaInfo, sHdrFrom.szUser⟩
  sCallee := ⟨0, 0, iCalleeCid, .zero, .zero, platform.sRegInfo.szRegUser⟩

private theorem writeContext_last {contexts : List (Pointer × CallContext)}
    (old : ∀ cell ∈ contexts, cell.1 ≠ pCtx) (change : CallContext → CallContext) :
    State.writeContext pCtx change
        { state with lsCallContext := contexts ++ [(pCtx, context)] } =
      { state with lsCallContext := contexts ++ [(pCtx, change context)] } := by
  have kept : contexts.map (fun cell => if cell.1 = pCtx then (cell.1, change cell.2) else cell) =
      contexts := by
    conv_rhs => rw [← List.map_id contexts]
    refine List.map_congr_left ?_
    intro cell member
    rw [if_neg (old cell member), id]
  simp [State.writeContext, kept]

/-- The new context comes behind the others; the lookup by the call id of the caller finds
it where no call has that caller yet. -/
theorem run_openCall {sdpInfo : SdpInfo} {sHdrFrom : FromHeader} {platform : SipEndpointInfo}
    {tid cid did iCalleeCid : Int} (allocated : state.Allocated)
    (unused : ∀ cell ∈ state.lsCallContext, cell.2.sCaller.cid ≠ cid) :
    ((openCall sdpInfo sHdrFrom platform tid cid did iCalleeCid).run state).2 =
      { state with
        freshPointer := state.freshPointer + 1
        lsCallContext := state.lsCallContext ++ [(state.freshPointer,
          openedContext sdpInfo sHdrFrom platform tid cid did iCalleeCid)] } := by
  have old : ∀ cell ∈ state.lsCallContext, cell.1 ≠ state.freshPointer :=
    fun cell member => Nat.ne_of_lt (allocated.given cell member)
  have missing : state.lsCallContext.find? (fun cell => cid = (cell.2.leg .caller).cid) = none := by
    refine List.find?_eq_none.mpr ?_
    intro cell member found
    exact unused cell member (of_decide_eq_true found).symm
  have found (context : CallContext) (caller : context.sCaller.cid = cid) :
      (state.lsCallContext ++ [(state.freshPointer, context)]).find?
        (fun cell => cid = (cell.2.leg .caller).cid) = some (state.freshPointer, context) := by
    rw [List.find?_append, missing]
    simp [CallContext.leg, caller]
  have added := fun change context => @writeContext_last { state with
    freshPointer := state.freshPointer + 1 } state.freshPointer context _ old change
  simp only [openCall, newCallContext, updateCallerCallLeg, Prog.run_bind, Prog.run_lock,
    Prog.run_unlock, Prog.run_write, Prog.run_readWrite, Prog.run_read, Prog.pure_eq,
    Prog.run_done, State.addContext, State.getCallContextByCallLeg, added, found]
  rfl

private theorem book_opened (context : CallContext) :
    ({ state with
        freshPointer := state.freshPointer + 1
        lsCallContext := state.lsCallContext ++ [(state.freshPointer, context)] } : State).book =
      { state.book with calls := context.call ::ₘ state.book.calls } := by
  have last (calls : List Call) (call : Call) :
      ((calls ++ [call] : List Call) : Multiset Call) = call ::ₘ calls :=
    Quot.sound (List.perm_append_singleton call calls)
  simp [State.book, last]

private theorem allocated_opened (context : CallContext) (allocated : state.Allocated) :
    ({ state with
        freshPointer := state.freshPointer + 1
        lsCallContext := state.lsCallContext ++ [(state.freshPointer, context)] } : State).Allocated := by
  refine ⟨?_, ?_⟩
  · dsimp only
    rw [List.map_append, List.nodup_append]
    refine ⟨allocated.apart, by simp, ?_⟩
    intro pointer member other new
    obtain ⟨cell, there, rfl⟩ := List.mem_map.mp member
    rw [List.mem_singleton.mp new]
    exact Nat.ne_of_lt (allocated.given cell there)
  · intro cell member
    rcases List.mem_append.mp member with old | new
    · exact Nat.lt_succ_of_lt (allocated.given cell old)
    · rw [List.mem_singleton.mp new]
      exact Nat.lt_succ_self _

theorem run_forwarded {pszDestId pszDestIP : Text} {iDestPort : Int} {subject : SubjectInfo}
    {sdpInfo : SdpInfo} (forwards : outcome.Forwards sdpInfo) :
    ∃ szBody, (sipUAInitInviteWidthSdpInfo outcome pszDestId pszDestIP iDestPort subject
      sdpInfo).run state = (outcome.initialInvite, state.send (.initInvite pszDestId pszDestIP
        iDestPort (subjectInfo2String subject) szBody)) := by
  obtain ⟨szBody, printed⟩ := Option.isSome_iff_exists.mp forwards.1
  refine ⟨szBody, ?_⟩
  simp only [sipUAInitInviteWidthSdpInfo, printed, gt_iff_lt, if_pos forwards.2]
  rfl

theorem run_unforwarded {pszDestId pszDestIP : Text} {iDestPort : Int} {subject : SubjectInfo}
    {sdpInfo : SdpInfo} (stays : ¬ outcome.Forwards sdpInfo) :
    (sipUAInitInviteWidthSdpInfo outcome pszDestId pszDestIP iDestPort subject sdpInfo).run state =
      (-1, state) := by
  unfold sipUAInitInviteWidthSdpInfo
  split
  · rfl
  · rename_i szBody printed
    have unsent : ¬ outcome.initialInvite > 0 :=
      fun sent => stays ⟨Option.isSome_iff_exists.mpr ⟨szBody, printed⟩, sent⟩
    rw [if_neg unsent]
    rfl

/-- `initInviteMsg` refuses the INVITE, connects it or, where forwarding fails, does nothing. -/
theorem book_initInviteMsg {sdpInfo : SdpInfo} {subject : SubjectInfo} {sHdrFrom : FromHeader}
    {tid cid did : Int} (allocated : state.Allocated)
    (unused : ∀ cell ∈ state.lsCallContext, cell.2.sCaller.cid ≠ cid)
    (ended : ((initInviteMsg outcome sdpInfo subject sHdrFrom tid cid did).run state).2 = after) :
    after.Allocated ∧ after.mapPlaybackCallerInfo = state.mapPlaybackCallerInfo ∧
      match state.queryGb28181PlatformInfo subject.szSenderId with
      | some _ => if outcome.Forwards sdpInfo
          then (Deed.connect ⟨⟨tid, cid⟩, outcome.initialInvite⟩).Does state.book after.book
          else after.book = state.book
      | none => (Deed.refuse ⟨tid, cid⟩).Does state.book after.book := by
  subst ended
  have sent : ∀ output, (State.send output state).Allocated :=
    fun _ => ⟨allocated.apart, allocated.given⟩
  simp only [initInviteMsg, Prog.run_bind, Prog.run_lock, Prog.run_read]
  cases found : state.queryGb28181PlatformInfo subject.szSenderId with
  | none => exact ⟨sent _, rfl, book_refuse tid 404 none (by decide)⟩
  | some platform =>
    dsimp only
    by_cases forwards : outcome.Forwards sdpInfo
    · obtain ⟨szBody, run⟩ := run_forwarded forwards
      rw [Prog.run_bind, run, if_pos forwards, if_pos forwards.2]
      simp only [Prog.run_bind, Prog.run_unlock]
      rw [run_openCall (sent _) unused]
      refine ⟨allocated_opened _ (sent _), rfl, ?_⟩
      rw [book_opened, book_send_other rfl rfl]
      rfl
    · have refused : ¬ (-1 : Int) > 0 := by decide
      rw [Prog.run_bind, run_unforwarded forwards, if_neg forwards, if_neg refused]
      exact ⟨allocated, rfl, rfl⟩

/-- A playback INVITE is refused, kept or, where another waits for the device, lost. -/
theorem book_invitePlayback {sdpInfo : SdpInfo} {subject : SubjectInfo} {sHdrFrom : FromHeader}
    (allocated : state.Allocated)
    (ended : ((handleInvitePlayback env outcome sdpInfo subject sHdrFrom event).run state).2 =
      after) :
    after.Allocated ∧
      match state.queryGb28181PlatformInfo subject.szSenderId with
      | some _ => if state.mapPlaybackCallerInfo.find subject.szSenderId = none
          then (Deed.keep ⟨event.tid, event.cid⟩).Does state.book after.book
          else after.book = state.book
      | none => (Deed.refuse ⟨event.tid, event.cid⟩).Does state.book after.book := by
  subst ended
  simp only [handleInvitePlayback, Prog.run_bind, Prog.run_lock, Prog.run_read]
  cases found : state.queryGb28181PlatformInfo subject.szSenderId with
  | none => exact ⟨⟨allocated.apart, allocated.given⟩, book_refuse event.tid 404 none (by decide)⟩
  | some platform =>
    simp only [queryRecords, insertPlaybackCallerInfo, send, Prog.run_bind, Prog.run_lock,
      Prog.run_unlock, Prog.run_read, Prog.run_write]
    refine ⟨⟨allocated.apart, allocated.given⟩, ?_⟩
    have silent (callerInfo : PlaybackCallerInfo) (output : Sent) (refusal : output.refusal = none)
        (hangUp : output.hangUp = none) :
        ({ State.send output { state with mapPlaybackCallerInfo :=
              state.mapPlaybackCallerInfo.insert subject.szSenderId callerInfo } with
            ulMsgReqSN := state.ulMsgReqSN + 1 } : State).book =
          { state.book with waiting := ((state.mapPlaybackCallerInfo.insert subject.szSenderId
              callerInfo).entries.map (fun entry => entry.2.invite) : Multiset Invite) } :=
      @book_send_other { state with mapPlaybackCallerInfo :=
        state.mapPlaybackCallerInfo.insert subject.szSenderId callerInfo } output refusal hangUp
    split
    case isTrue absent =>
      refine (silent _ _ rfl rfl).trans ?_
      rw [Multiset.coe_eq_coe.mpr ((OrderedMap.insert_perm absent).map _)]
      rfl
    case isFalse there =>
      refine (silent _ _ rfl rfl).trans ?_
      rw [OrderedMap.insert_there (Option.ne_none_iff_isSome.mp there)]
      rfl

/-- Some calls are hung up and the rest of the book stays. -/
structure Swept (before after : State) : Prop where
  allocated : before.Allocated → after.Allocated
  playback : after.mapPlaybackCallerInfo = before.mapPlaybackCallerInfo
  swept : ∃ gone, (Deed.sweep gone 0).Does before.book after.book

theorem Swept.of_same (allocated : state.Allocated → after.Allocated)
    (playback : after.mapPlaybackCallerInfo = state.mapPlaybackCallerInfo)
    (same : after.book = state.book) : Swept state after :=
  ⟨allocated, playback, 0, state.book.calls, state.book.waiting, by simp, by simp, by simp [same]⟩

theorem Swept.trans {last : State} (first : Swept state after) (second : Swept after last) :
    Swept state last := by
  obtain ⟨gone, calls, waiting, called, waited, book⟩ := first.swept
  obtain ⟨gone', calls', waiting', called', waited', book'⟩ := second.swept
  rw [book] at called' waited' book'
  dsimp only at called' waited' book'
  refine ⟨fun here => second.allocated (first.allocated here),
    second.playback.trans first.playback, gone + gone', calls', waiting', ?_, ?_, ?_⟩
  · rw [called, called', add_assoc]
  · rw [waited, waited', zero_add, zero_add]
  · rw [book', Multiset.add_bind, ← add_assoc]

/-- Whatever the state, the program does no more than that. -/
def Sweeps (program : Thread Value) : Prop := ∀ state, Swept state (program.run state).2

variable {Value Result : Type} {program : Thread Value}

theorem Sweeps.done (value : Value) : Sweeps (Prog.done value : Thread Value) :=
  fun _ => .of_same id rfl rfl

theorem Sweeps.bind {next : Value → Thread Result} (first : Sweeps program)
    (rest : ∀ value, Sweeps (next value)) : Sweeps (program >>= next) := by
  intro state
  rw [Prog.run_bind]
  exact (first state).trans (rest _ _)

theorem Sweeps.lock (name : Mutex) : Sweeps (Prog.lock name : Thread Unit) := fun _ => .of_same id rfl rfl

theorem Sweeps.unlock (name : Mutex) : Sweeps (Prog.unlock name : Thread Unit) :=
  fun _ => .of_same id rfl rfl

theorem Sweeps.unlocked (name : Mutex) (value : Value) :
    Sweeps (Prog.unlock name >>= fun _ => pure value : Thread Value) :=
  (Sweeps.unlock name).bind fun _ => .done value

theorem Sweeps.read (look : State → Value) : Sweeps (Prog.read look : Thread Value) :=
  fun _ => .of_same id rfl rfl

theorem sweeps_endpoints {change : State → State}
    (endpoints : ∀ state, ∃ map, change state = { state with mapSipEndpoints := map }) :
    Sweeps (Prog.write change : Thread Unit) := by
  intro state
  obtain ⟨map, changed⟩ := endpoints state
  rw [Prog.run_write, changed]
  exact .of_same (fun allocated => ⟨allocated.apart, allocated.given⟩) rfl rfl

theorem sweeps_send {output : Sent} (refusal : output.refusal = none) (hangUp : output.hangUp = none) :
    Sweeps (send output) :=
  fun _ => .of_same (fun allocated => ⟨allocated.apart, allocated.given⟩) rfl
    (book_send_other refusal hangUp)

theorem sweeps_removeCallContextBySipId (strSipId : Text) :
    Sweeps (removeCallContextBySipId strSipId) := by
  refine (Sweeps.lock _).bind (fun _ => Sweeps.bind ?_ (fun _ => Sweeps.unlock _))
  intro state
  exact ⟨fun allocated => allocated.filter List.filter_sublist rfl, rfl,
    book_removeBySipId strSipId⟩

theorem sweeps_insertEndpoint (pRegInfo : RegisterInfo) (strType : Text) (i64CurTime : Int) :
    Sweeps (insertEndpoint pRegInfo strType i64CurTime) := by
  have refreshed : ∀ ret : Int, Sweeps (do
      Prog.write (State.modifyEndpoint pRegInfo.szRegUser
        (SipEndpointInfo.refresh pRegInfo strType i64CurTime))
      return ret : Thread Int) :=
    fun ret => (sweeps_endpoints (fun _ => ⟨_, rfl⟩)).bind (fun _ => .done ret)
  refine (Sweeps.read _).bind (fun iter => ?_)
  cases iter with
  | some pExistEndpoint =>
    dsimp only
    split
    · exact refreshed 0
    · exact (sweeps_removeCallContextBySipId _).bind (fun _ =>
        (sweeps_endpoints (fun _ => ⟨_, rfl⟩)).bind (fun _ => refreshed 1))
  | none => exact (sweeps_endpoints (fun _ => ⟨_, rfl⟩)).bind (fun _ => .done _)

theorem sweeps_removeEndpoint (strSipId : Text) : Sweeps (removeEndpoint strSipId) := by
  refine (Sweeps.lock _).bind (fun _ => (Sweeps.read _).bind (fun iter => ?_))
  cases iter with
  | none => exact Sweeps.unlocked _ _
  | some _ => exact (sweeps_endpoints (fun _ => ⟨_, rfl⟩)).bind (fun _ =>
      Sweeps.unlocked _ _)

theorem sweeps_updateSipEndpointKeepalive (strSipId : Text) (i64CurTime : Int) :
    Sweeps (updateSipEndpointKeepalive strSipId i64CurTime) := by
  refine (Sweeps.lock _).bind (fun _ => (Sweeps.read _).bind (fun iter => ?_))
  cases iter with
  | none => exact Sweeps.unlocked _ _
  | some _ => exact (sweeps_endpoints (fun _ => ⟨_, rfl⟩)).bind (fun _ =>
      Sweeps.unlocked _ _)

theorem sweeps_registerInfo (regInfo : RegisterInfo) :
    Sweeps (handleRegisterInfo outcome event regInfo) := by
  have replied200 : Sweeps (sipUARegisterReply200OK outcome event) := by
    unfold sipUARegisterReply200OK
    split
    · exact sweeps_send rfl rfl
    · exact .done ()
  have registered : ∀ regInfo strType, Sweeps (registerEndpoint outcome regInfo strType) :=
    fun _ _ => (Sweeps.lock _).bind (fun _ => (sweeps_insertEndpoint _ _ _).bind (fun _ =>
      Sweeps.unlocked _ _))
  unfold handleRegisterInfo
  split
  · exact replied200.bind (fun _ => (registered _ _).bind (fun _ => .done _))
  · split
    · unfold sipUARegisterReply401Unauthorized
      split
      · exact sweeps_send rfl rfl
      · exact .done ()
    · refine replied200.bind (fun _ => ?_)
      split
      · refine Sweeps.bind ?_ ?_
        · exact (sweeps_removeCallContextBySipId _).bind (fun _ =>
            (sweeps_removeEndpoint _).bind (fun _ => .done _))
        · intro iUpdateCatalog
          dsimp only
          split
          · exact sweeps_send rfl rfl
          · exact .done ()
      · refine (registered _ _).bind (fun iUpdateCatalog => ?_)
        dsimp only
        split
        · exact sweeps_send rfl rfl
        · exact .done ()

theorem sweeps_registerNew : Sweeps (sipServerHandleRegisterNew outcome event) := by
  unfold sipServerHandleRegisterNew
  split
  · exact .done ()
  · exact sweeps_registerInfo _

theorem sweeps_catalog (pszBody : Text) : Sweeps (handleCatalogMsg env pszBody) := by
  unfold handleCatalogMsg
  split
  · exact .done _
  · refine (Sweeps.lock _).bind (fun _ => (Sweeps.read _).bind (fun pSipEndpoint => ?_))
    cases pSipEndpoint with
    | none => exact Sweeps.unlocked _ _
    | some _ => exact (sweeps_endpoints (fun _ => ⟨_, rfl⟩)).bind (fun _ => (sweeps_send rfl rfl).bind (fun _ =>
        Sweeps.unlocked _ _))

theorem sweeps_ack : Sweeps (sipServerHandleCallAck outcome event) := by
  refine (Sweeps.read _).bind (fun pCtx => ?_)
  cases pCtx with
  | none => exact .done _
  | some found =>
    unfold sipUASendAck
    dsimp only
    split
    · exact sweeps_send rfl rfl
    · exact .done ()

theorem sweeps_heartbeatLoop (iMonitorKeepalive i64CurTime : Int)
    (entries : List (Text × SipEndpointInfo)) :
    Sweeps (heartbeatLoop iMonitorKeepalive i64CurTime entries) := by
  induction entries with
  | nil => exact .done _
  | cons entry rest ih =>
    rw [heartbeatLoop]
    dsimp only
    split
    · exact (sweeps_removeCallContextBySipId _).bind (fun _ =>
        (sweeps_endpoints (fun _ => ⟨_, rfl⟩)).bind (fun _ => ih))
    · exact ih

/-- The playback INVITEs that have waited too long. -/
def State.timedOut (i64CurTime : Int) (state : State) : List Invite :=
  (state.mapPlaybackCallerInfo.keep (fun entry => playbackTimeout i64CurTime entry.2)).entries.map
    (fun entry => entry.2.invite)

/-- The timer: calls are hung up, then the INVITEs that have waited too long are lost. -/
theorem book_tick (iMonitorKeepalive i64CurTime : Int) (allocated : state.Allocated)
    (ended : ((doMonitorSipEndpoint iMonitorKeepalive i64CurTime).run state).2 = after) :
    after.Allocated ∧ ∃ gone, (Deed.sweep gone (state.timedOut i64CurTime)).Does
      state.book after.book := by
  have swept : Sweeps (checkSipEndpointHeartbeat iMonitorKeepalive i64CurTime) :=
    (Sweeps.lock _).bind (fun _ => (Sweeps.read _).bind (fun entries =>
      (sweeps_heartbeatLoop _ _ entries).bind (fun _ => Sweeps.unlock _)))
  obtain ⟨kept, playback, gone, calls, waiting, called, waited, book⟩ := swept state
  rw [doMonitorSipEndpoint, Prog.run_bind] at ended
  generalize ((checkSipEndpointHeartbeat iMonitorKeepalive i64CurTime).run state).2 = middle
    at kept playback book ended
  simp only [checkPlaybackCallerInfo, Prog.run_bind, Prog.run_lock, Prog.run_write,
    Prog.run_unlock] at ended
  subst ended
  refine ⟨⟨(kept allocated).apart, (kept allocated).given⟩, gone, calls,
    (State.dropTimedOut i64CurTime middle).book.waiting, called, ?_, ?_⟩
  · have split := List.filter_append_perm (fun entry : Text × PlaybackCallerInfo =>
      playbackTimeout i64CurTime entry.2) state.mapPlaybackCallerInfo.entries
    refine Quot.sound ((split.map (fun entry => entry.2.invite)).symm.trans ?_)
    simp [State.dropTimedOut, State.timedOut, OrderedMap.keep, playback]
  · have same := congrArg Book.calls book
    have refused := congrArg Book.refused book
    have hungUp := congrArg Book.hungUp book
    simp only [State.book] at same refused hungUp ⊢
    simp [State.dropTimedOut, same, refused, hungUp]

private theorem allocated_send (output : Sent) (allocated : state.Allocated) :
    (State.send output state).Allocated := ⟨allocated.apart, allocated.given⟩

private theorem allocated_removeContext (allocated : state.Allocated) :
    (State.removeContext pCtx state).Allocated := allocated.filter List.filter_sublist rfl

theorem book_answer200OK (allocated : state.Allocated)
    (ended : ((sipServerHandleCallAnswer200OK outcome event).run state).2 = after) :
    after.Allocated ∧
      match state.getCallContextByCallLeg event.cid .callee with
      | some (_, context) => if outcome.buildAnswer = 0 then after.book = state.book
          else (Deed.misanswer context.call).Does state.book after.book
      | none => after.book = state.book := by
  subst ended
  simp only [sipServerHandleCallAnswer200OK, Prog.run_bind, Prog.run_lock, Prog.run_read]
  cases found : state.getCallContextByCallLeg event.cid .callee with
  | none => exact ⟨allocated, rfl⟩
  | some cell =>
    obtain ⟨pCtx, context⟩ := cell
    have there := List.mem_of_find?_eq_some found
    by_cases built : outcome.buildAnswer = 0
    · cases printed : sdpInfo2BodyString (getSdpInfo event.response) with
      | none =>
        simp only [sipUAAnswerInvite200OK, built, printed, ne_eq, not_true_eq_false, if_false,
          if_true, Prog.pure_eq]
        exact ⟨allocated, rfl⟩
      | some szBody =>
        simp only [sipUAAnswerInvite200OK, built, printed, ne_eq, not_true_eq_false, if_false,
          if_true, send, Prog.run_bind, Prog.run_write, Prog.pure_eq, Prog.run_done]
        split
        · simp only [Prog.run_bind, Prog.run_write, Prog.run_unlock]
          refine ⟨allocated_writeContext (allocated_send _ allocated), ?_⟩
          refine (book_writeContext ?_).trans (book_send_other rfl rfl)
          intro context
          rfl
        · exact ⟨allocated_send _ allocated, book_send_other rfl rfl⟩
    · simp only [sipUAAnswerInvite200OK, ne_eq, built, not_false_eq_true, if_true, if_false, send,
        Prog.run_bind, Prog.run_write, Prog.pure_eq]
      refine ⟨allocated_send _ allocated, ?_, book_refuse context.sCaller.tid 400 none (by decide)⟩
      exact List.mem_map.mpr ⟨_, there, rfl⟩

theorem book_answerResponse (allocated : state.Allocated)
    (ended : ((sipServerHandleCallAnswerResponse event).run state).2 = after) :
    after.Allocated ∧
      match state.getCallContextByCallLeg event.cid .callee with
      | some (_, context) => (Deed.reject context.call).Does state.book after.book
      | none => after.book = state.book := by
  subst ended
  simp only [sipServerHandleCallAnswerResponse, Prog.run_bind, Prog.run_read]
  cases found : state.getCallContextByCallLeg event.cid .callee with
  | none => exact ⟨allocated, rfl⟩
  | some cell =>
    obtain ⟨pCtx, context⟩ := cell
    have there := List.mem_of_find?_eq_some found
    refine ⟨allocated_removeContext (allocated_send _ allocated), ?_⟩
    refine ⟨_, calls_removeContext allocated there, ?_⟩
    have refused := @book_refuse state context.sCaller.tid 400 none (by decide)
    exact congrArg (fun book : Book =>
      { book with calls := (State.removeContext pCtx state).book.calls }) refused

private theorem book_hangUp : (State.send (.terminateCall context.sCallee.cid context.sCallee.did)
      (State.send (.terminateCall context.sCaller.cid context.sCaller.did) state)).book =
    { state.book with hungUp :=
        state.book.hungUp + ({context.call} : Multiset Call).bind Call.legs } := by
  have sent : state.sent ++ [Sent.terminateCall context.sCaller.cid context.sCaller.did] ++
      [Sent.terminateCall context.sCallee.cid context.sCallee.did] =
        state.sent ++ [(0, context)].flatMap (fun cell => hangUp cell.2) := by
    simp [hangUp]
  simp only [State.book, State.send, sent, List.filterMap_append, refusals_hangUp,
    List.append_nil, ← Multiset.coe_add, hangUps_hangUp]
  rfl

theorem book_bye (allocated : state.Allocated)
    (ended : ((sipServerHandleCallBye event).run state).2 = after) :
    after.Allocated ∧
      match state.getCallContext event.cid with
      | some (_, context) => (Deed.sweep {context.call} 0).Does state.book after.book
      | none => after.book = state.book := by
  subst ended
  simp only [sipServerHandleCallBye, Prog.run_bind, Prog.run_lock, Prog.run_read]
  cases found : state.getCallContext event.cid with
  | none => exact ⟨allocated, rfl⟩
  | some cell =>
    obtain ⟨pCtx, context⟩ := cell
    have there := List.mem_of_find?_eq_some found
    refine ⟨allocated_removeContext (allocated_send _ (allocated_send _ allocated)), ?_⟩
    have called := calls_removeContext allocated there
    rw [← Multiset.singleton_add] at called
    refine ⟨_, _, called, (zero_add _).symm, ?_⟩
    have hungUp := @book_hangUp state context
    exact congrArg (fun book : Book =>
      { book with calls := (State.removeContext pCtx state).book.calls }) hungUp

theorem run_answerMessage {ret : Int} :
    ((sipUAAnswerMessage outcome event ret).run state).2.book = state.book ∧
    (state.Allocated → ((sipUAAnswerMessage outcome event ret).run state).2.Allocated) := by
  unfold sipUAAnswerMessage
  split
  · exact ⟨book_send_other rfl rfl, allocated_send _⟩
  · exact ⟨rfl, id⟩

/-- The INVITE that waits for the device is connected, refused or, where forwarding fails, lost. -/
theorem book_recordInfo {pszBody : Text} (allocated : state.Allocated)
    (unused : ∀ callerInfo, state.mapPlaybackCallerInfo.find
      (env.getXmlElementText pszBody "DeviceID".toList) = some callerInfo →
        ∀ cell ∈ state.lsCallContext, cell.2.sCaller.cid ≠ callerInfo.cid)
    (ended : ((handleRecordInfoMsg env outcome pszBody).run state).2 = after) :
    after.Allocated ∧
      if env.getXmlElementText pszBody "DeviceID".toList = [] then after.book = state.book
      else match state.mapPlaybackCallerInfo.find
          (env.getXmlElementText pszBody "DeviceID".toList) with
        | some callerInfo =>
          match state.queryGb28181PlatformInfo callerInfo.subject.szSenderId with
          | some _ => if outcome.Forwards callerInfo.sdpInfo
              then (Deed.resume ⟨callerInfo.invite, outcome.initialInvite⟩).Does state.book after.book
              else (Deed.loseWaiting callerInfo.invite).Does state.book after.book
          | none => (Deed.refuseWaiting callerInfo.invite).Does state.book after.book
        | none => after.book = state.book := by
  subst ended
  simp only [handleRecordInfoMsg]
  generalize env.getXmlElementText pszBody "DeviceID".toList = strDeviceId at unused ⊢
  by_cases empty : strDeviceId = []
  · subst empty
    exact ⟨allocated, rfl⟩
  · have long : ¬ strDeviceId.length ≤ 0 := by simpa using empty
    rw [if_neg long, if_neg empty]
    simp only [getPlaybackCallerInfo, Prog.run_bind, Prog.run_lock, Prog.run_read, Prog.run_unlock,
      Prog.pure_eq, Prog.run_done]
    cases found : state.mapPlaybackCallerInfo.find strDeviceId with
    | none => exact ⟨allocated, rfl⟩
    | some callerInfo =>
      simp only [removePlaybackCallerInfo, Prog.run_bind, Prog.run_lock, Prog.run_unlock,
        Prog.run_write, Prog.run_done]
      have forwarded := @book_initInviteMsg outcome state _ callerInfo.sdpInfo callerInfo.subject
        callerInfo.sHdrFrom callerInfo.tid callerInfo.cid callerInfo.did allocated
        (unused callerInfo found) rfl
      generalize ((initInviteMsg outcome callerInfo.sdpInfo callerInfo.subject callerInfo.sHdrFrom
        callerInfo.tid callerInfo.cid callerInfo.did).run state).2 = middle at forwarded ⊢
      obtain ⟨kept, playback, book⟩ := forwarded
      refine ⟨⟨kept.apart, kept.given⟩, ?_⟩
      have waited : state.book.waiting = callerInfo.invite ::ₘ
          ((state.mapPlaybackCallerInfo.erase strDeviceId).entries.map
            (fun entry => entry.2.invite) : Multiset Invite) :=
        Quot.sound ((OrderedMap.erase_perm found).map (fun entry => entry.2.invite))
      have erased : ({ middle with mapPlaybackCallerInfo :=
          middle.mapPlaybackCallerInfo.erase strDeviceId } : State).book =
          { middle.book with waiting := ((state.mapPlaybackCallerInfo.erase strDeviceId).entries.map
            (fun entry => entry.2.invite) : Multiset Invite) } := by
        simp only [State.book, playback]
      rw [erased]
      cases queried : state.queryGb28181PlatformInfo callerInfo.subject.szSenderId with
      | none =>
        rw [queried] at book
        refine ⟨_, waited, ?_⟩
        rw [show middle.book = _ from book]
        rfl
      | some platform =>
        rw [queried] at book
        dsimp only at book ⊢
        split
        case isTrue sent =>
          rw [if_pos sent] at book
          refine ⟨_, waited, ?_⟩
          rw [show middle.book = _ from book]
          rfl
        case isFalse unsent =>
          rw [if_neg unsent] at book
          refine ⟨_, waited, ?_⟩
          rw [book]

end Gb28181.SipServer
