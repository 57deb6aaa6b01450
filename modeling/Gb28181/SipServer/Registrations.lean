import Gb28181.SipServer.Interference

namespace Gb28181.SipServer

open Gb28181.Lib Gb28181.SipUA

variable {thread : ServerThread} {held : Set Mutex} {state before after : State}
  {Value Result : Type} (env : Environment) (outcome : Outcome) (event : Event)

theorem State.Registered.modifyEndpoint (registered : state.Registered) (strSipId : Text)
    (change : SipEndpointInfo → SipEndpointInfo)
    (user : ∀ endpoint : SipEndpointInfo, endpoint.sRegInfo.szRegUser = strSipId →
      (change endpoint).sRegInfo.szRegUser = strSipId) :
    (State.modifyEndpoint strSipId change state).Registered := by
  refine ⟨?_, ?_⟩
  · intro call member
    simp only [State.modifyEndpoint, OrderedMap.keys_modify]
    exact registered.registered call member
  · intro entry member
    obtain ⟨old, there, rfl⟩ := OrderedMap.mem_modify.mp member
    have named := registered.named old there
    split
    case isTrue same => rw [same, user old.2 (named.trans same)]
    case isFalse => exact named

theorem State.Registered.eraseEndpoint {strSipId : Text} (registered : state.Registered)
    (idle : ∀ call ∈ state.served, call.2 ≠ strSipId) :
    (State.eraseEndpoint strSipId state).Registered := by
  refine ⟨?_, ?_⟩
  · intro call member
    obtain ⟨endpoint, there⟩ := OrderedMap.mem_keys.mp (registered.registered call member)
    exact OrderedMap.mem_keys.mpr ⟨endpoint, OrderedMap.mem_erase.mpr ⟨there, idle call member⟩⟩
  · intro entry member
    exact registered.named entry (OrderedMap.mem_erase.mp member).1

theorem safe_insertEndpoint {pRegInfo : RegisterInfo} {strType : Text} {i64CurTime : Int}
    {post : Int → Set Mutex → State → Prop} (inside : .sipEndpoint ∈ held)
    (noContext : .callContext ∉ held) (registered : state.Registered)
    (done : ∀ ret after, after.Registered → post ret held after) :
    discipline.Safe .event post (insertEndpoint pRegInfo strType i64CurTime) held state := by
  have guarded : Guarded .event held := .inl rfl
  have refreshed : ∀ (ret : Int) (state : State), state.Registered →
      discipline.Safe .event post (do
        Prog.write (State.modifyEndpoint pRegInfo.szRegUser
          (SipEndpointInfo.refresh pRegInfo strType i64CurTime))
        return ret) held state := by
    intro ret state registered
    refine .bind (safe_write inside (fun isTimer => nomatch isTimer) ?_)
    intro seen before after settles later rely
    have kept := (registered.settles inside before).modifyEndpoint pRegInfo.szRegUser
      (SipEndpointInfo.refresh pRegInfo strType i64CurTime) (fun _ _ => rfl)
    exact done ret later ((kept.settles inside settles).settles inside
      (settles_of_rely guarded rely))
  refine .bind (safe_read guarded ?_)
  intro seen before after settles
  have now := (registered.settles inside before).settles inside settles
  cases found : seen.mapSipEndpoints.find pRegInfo.szRegUser with
  | some pExistEndpoint =>
    dsimp only
    split
    · exact refreshed _ _ now
    · refine .bind (safe_removeCallContextBySipId guarded noContext ?_)
      intro removed fewer _
      refine .bind (safe_write inside (fun isTimer => nomatch isTimer) ?_)
      intro listed more emptied last
      have kept := ((now.settles inside fewer).settles inside more).modifyEndpoint
        pRegInfo.szRegUser SipEndpointInfo.removeAllSipDevice (fun _ user => user)
      exact refreshed _ _ (kept.settles inside last)
  | none =>
    refine .bind (safe_write inside (fun isTimer => nomatch isTimer) ?_)
    intro listed more added last later rely
    refine done 1 later (State.Registered.settles ?_ inside
      (last.trans (settles_of_rely guarded rely)))
    have same : listed.mapSipEndpoints = seen.mapSipEndpoints :=
      (more.2 inside).trans (settles.2 inside)
    have there := now.settles inside more
    rw [← same] at found
    refine ⟨?_, ?_⟩
    · intro call member
      obtain ⟨endpoint, known⟩ := OrderedMap.mem_keys.mp (there.registered call member)
      exact OrderedMap.mem_keys.mpr ⟨endpoint, (OrderedMap.mem_insert found).mpr (.inr known)⟩
    · intro entry member
      rcases (OrderedMap.mem_insert found).mp member with rfl | known
      · rfl
      · exact there.named entry known

/-- Every call but the one behind a pointer is served by a registered endpoint. -/
structure State.RegisteredBut (pCtx : Pointer) (state : State) : Prop where
  registered : ∀ call ∈ state.served, call.1 ≠ pCtx → call.2 ∈ state.mapSipEndpoints.keys
  named : ∀ entry ∈ state.mapSipEndpoints.entries, entry.2.sRegInfo.szRegUser = entry.1

theorem State.RegisteredBut.settles {pCtx : Pointer} (registered : before.RegisteredBut pCtx)
    (inside : .sipEndpoint ∈ held) (settles : Settles held before after) :
    after.RegisteredBut pCtx := by
  have same := settles.2 inside
  refine ⟨?_, by rw [same]; exact registered.named⟩
  intro call member other
  rw [same]
  exact registered.registered call (settles.1 call member) other

private theorem registeredBut_addContext (iCallerCid iCalleeCid : Int)
    (registered : state.Registered) :
    (State.addContext iCallerCid iCalleeCid state).RegisteredBut state.freshPointer := by
  refine ⟨?_, registered.named⟩
  intro call member other
  simp only [State.served, State.addContext, List.map_append, List.mem_append, List.map_cons,
    List.map_nil, List.mem_singleton] at member
  rcases member with old | rfl
  · exact registered.registered call old
  · exact absurd rfl other

private theorem registered_of_written {pCtx : Pointer} {change : CallContext → CallContext}
    {strSipId : Text} (registered : state.RegisteredBut pCtx)
    (known : strSipId ∈ state.mapSipEndpoints.keys)
    (change_id : ∀ context, (change context).sCallee.szSipEndpointId = strSipId) :
    (State.writeContext pCtx change state).Registered := by
  refine ⟨?_, registered.named⟩
  intro call member
  simp only [State.served, State.writeContext, List.map_map] at member
  obtain ⟨cell, there, rfl⟩ := List.mem_map.mp member
  simp only [Function.comp_apply]
  split
  case isTrue => rw [change_id]; exact known
  case isFalse other =>
    exact registered.registered _ (List.mem_map.mpr ⟨cell, there, rfl⟩) other

theorem safe_newCallContext {iCallerCid iCalleeCid : Int}
    {post : Pointer → Set Mutex → State → Prop} (inside : .sipEndpoint ∈ held)
    (noContext : .callContext ∉ held) (noPlayback : .playbackCaller ∉ held)
    (registered : state.Registered)
    (done : ∀ pCtx after, after.RegisteredBut pCtx →
      after.mapSipEndpoints = state.mapSipEndpoints → post pCtx held after) :
    discipline.Safe .event post (newCallContext iCallerCid iCalleeCid) held state := by
  have guarded : Guarded .event held := .inl rfl
  rw [← Set.union_empty held]
  refine .bind ((Quiet.lock (by decide) : Quiet ∅ (Prog.lock .callContext) {.callContext})
    .event held state _ guarded noContext noPlayback ?_)
  intro _ locked settles
  refine .bind ?_
  intro seen rely
  have now : Settles held state seen := settles.trans (settles_held guarded rely)
  refine ⟨⟨fun _ isTimer => (nomatch isTimer), fun unheld => absurd (.inl inside) unheld⟩, ?_⟩
  intro added further
  have but := (registeredBut_addContext iCallerCid iCalleeCid
    (registered.settles inside now)).settles inside (settles_held guarded further)
  have same : added.mapSipEndpoints = state.mapSipEndpoints :=
    ((settles_held guarded further).2 inside).trans (now.2 inside)
  refine .bind ((Quiet.unlock (by decide) : Quiet {.callContext} (Prog.unlock .callContext) ∅)
    .event held added _ guarded noContext noPlayback ?_)
  intro _ unlocked last later final
  rw [Set.union_empty] at final ⊢
  have ended := last.trans (settles_of_rely guarded final)
  exact done _ later (but.settles inside ended) ((ended.2 inside).trans same)

theorem safe_openCall {sdpInfo : SdpInfo} {sHdrFrom : FromHeader} {platform : SipEndpointInfo}
    {tid cid did iCalleeCid : Int} {post : Unit → Set Mutex → State → Prop}
    (inside : .sipEndpoint ∈ held) (noContext : .callContext ∉ held)
    (noPlayback : .playbackCaller ∉ held) (registered : state.Registered)
    (known : platform.sRegInfo.szRegUser ∈ state.mapSipEndpoints.keys)
    (done : ∀ after, after.Registered → post () held after) :
    discipline.Safe .event post (openCall sdpInfo sHdrFrom platform tid cid did iCalleeCid)
      held state := by
  have guarded : Guarded .event held := .inl rfl
  refine .bind (safe_newCallContext inside noContext noPlayback registered ?_)
  intro pCtx created but same
  rw [← same] at known
  -- The media and the id of the caller do not matter here.
  refine .bind (safe_calm (calm_writeContext pCtx (by intro _; rfl)) guarded ?_)
  intro media first
  refine .bind (safe_calm (calm_writeContext pCtx (by intro _; rfl)) guarded ?_)
  intro named second
  refine .bind (safe_write inside (fun isTimer => nomatch isTimer) ?_)
  intro seen before served settles
  have now := (first.trans second).trans before
  rw [← now.2 inside] at known
  have registered := (registered_of_written (but.settles inside now) known (by intro _; rfl)).settles
    inside settles
  have quiet := quiet_updateCallerCallLeg cid tid did .event held served post guarded noContext
    noPlayback
  simp only [Set.union_empty] at quiet
  exact quiet (fun _ after last => done after (registered.settles inside last))

theorem mem_keys_of_query {strDevId : Text} {platform : SipEndpointInfo}
    (registered : state.Registered)
    (found : state.queryGb28181PlatformInfo strDevId = some platform) :
    platform.sRegInfo.szRegUser ∈ state.mapSipEndpoints.keys := by
  obtain ⟨entry, first, rfl⟩ := Option.map_eq_some_iff.mp found
  have member := List.mem_of_find?_eq_some first
  rw [registered.named entry member]
  exact OrderedMap.mem_keys.mpr ⟨entry.2, member⟩

/-- A handler of the event thread that is done with every lock given back. -/
def Handled (program : Thread Value) : Prop :=
  ∀ state, discipline.Safe .event (fun _ held _ => held = ∅) program ∅ state

theorem Quiet.handled {program : Thread Value} (quiet : Quiet ∅ program ∅) : Handled program := by
  intro state
  have safe := quiet .event ∅ state (fun _ held _ => held = ∅) (.inl rfl) id id
  simp only [Set.union_empty] at safe
  exact safe (fun _ _ _ => trivial)

theorem Handled.bind {program : Thread Value} {next : Value → Thread Result}
    (handled : Handled program) (rest : ∀ value, Handled (next value)) :
    Handled (program >>= next) := by
  intro state
  refine .bind ((handled state).weaken ?_)
  rintro value held after rfl
  exact rest value after

theorem handled_section {program : Unit → Thread Value}
    (inner : ∀ state, state.Registered →
      discipline.Safe .event (fun _ held _ => held = ∅) (program ()) {.sipEndpoint} state) :
    Handled (Prog.lock .sipEndpoint >>= program) := by
  intro state
  refine .bind (safe_lockEndpoint id ?_)
  intro after registered _
  rw [insert_empty_eq]
  exact inner after registered

theorem safe_endSection {Value : Type} {value : Value} (registered : state.Registered) :
    discipline.Safe .event (fun _ held _ => held = ∅)
      (Prog.unlock .sipEndpoint >>= fun _ => pure value) {.sipEndpoint} state :=
  .bind (safe_unlockEndpoint rfl registered (fun _ => by
    rw [Set.sdiff_self]
    exact fun _ _ => rfl))

theorem safe_unlockSection (registered : state.Registered) :
    discipline.Safe .event (fun _ held _ => held = ∅) (Prog.unlock .sipEndpoint) {.sipEndpoint}
      state :=
  safe_unlockEndpoint rfl registered (fun _ => Set.sdiff_self)

/-- A quiet program under the endpoint mutex keeps the registrations. -/
theorem Quiet.section {program : Thread Value} {post : Value → Set Mutex → State → Prop}
    (quiet : Quiet ∅ program ∅) (registered : state.Registered)
    (done : ∀ value after, after.Registered → post value {.sipEndpoint} after) :
    discipline.Safe .event post program {.sipEndpoint} state := by
  have safe := quiet .event {.sipEndpoint} state post (.inl rfl) (by decide) (by decide)
  simp only [Set.union_empty] at safe
  exact safe (fun value after settles => done value after (registered.settles rfl settles))

theorem handled_initInviteMsg (sdpInfo : SdpInfo) (subject : SubjectInfo) (sHdrFrom : FromHeader)
    (tid cid did : Int) : Handled (initInviteMsg outcome sdpInfo subject sHdrFrom tid cid did) := by
  refine handled_section (fun state registered => ?_)
  refine .bind (safe_read (.inl rfl) ?_)
  intro seen before after settles
  have there := registered.settles rfl before
  have now := there.settles rfl settles
  cases found : seen.queryGb28181PlatformInfo subject.szSenderId with
  | some platform =>
    have known := mem_keys_of_query there found
    rw [← settles.2 rfl] at known
    have invited : Quiet ∅ (sipUAInitInviteWidthSdpInfo outcome subject.szSenderId
        platform.sRegInfo.szContactIP platform.sRegInfo.iContactPort subject sdpInfo) ∅ := by
      unfold sipUAInitInviteWidthSdpInfo
      split
      · exact .done _
      · split
        · exact .bind (quiet_send _) (fun _ => .done _)
        · exact .done _
    have safe := invited .event {.sipEndpoint} after
    simp only [Set.union_empty] at safe
    refine .bind (safe _ (.inl rfl) (by decide) (by decide) ?_)
    intro iInviteRet sent last
    have registered := now.settles rfl last
    dsimp only
    split
    · rw [← last.2 rfl] at known
      exact .bind (safe_openCall rfl (by decide) (by decide) registered known
        (fun _ registered => safe_unlockSection registered))
    · exact safe_unlockSection registered
  | none => exact .bind ((quiet_send _).section now (fun _ _ => safe_unlockSection))

theorem handled_invitePlayback (sdpInfo : SdpInfo) (subject : SubjectInfo) (sHdrFrom : FromHeader) :
    Handled (handleInvitePlayback env outcome sdpInfo subject sHdrFrom event) := by
  refine handled_section (fun state registered => ?_)
  refine .bind (safe_read (.inl rfl) ?_)
  intro seen before after settles
  have now := (registered.settles rfl before).settles rfl settles
  cases found : seen.queryGb28181PlatformInfo subject.szSenderId with
  | some platform =>
    exact .bind ((quiet_queryRecords env outcome event sdpInfo subject sHdrFrom platform).section now
      (fun _ _ => safe_unlockSection))
  | none => exact .bind ((quiet_send _).section now (fun _ _ => safe_unlockSection))

theorem handled_invite : Handled (sipServerHandleCallInviteIncoming env outcome event) := by
  unfold sipServerHandleCallInviteIncoming
  dsimp only
  split
  · exact handled_initInviteMsg outcome _ _ _ _ _ _
  · split
    · exact handled_invitePlayback env outcome event _ _ _
    · exact (quiet_send _).handled

theorem handled_registerEndpoint (regInfo : RegisterInfo) (strType : Text) :
    Handled (registerEndpoint outcome regInfo strType) := by
  refine handled_section (fun state registered => ?_)
  exact .bind (safe_insertEndpoint rfl (by decide) registered
    (fun _ _ registered => safe_endSection registered))

/-- A logout: first the calls of the endpoint, then the endpoint, and the event thread has
made no call in between. -/
theorem handled_logout (strSipId : Text) : Handled (logout strSipId) := by
  intro state
  refine .bind (safe_removeCallContextBySipId (.inl rfl) id ?_)
  intro emptied _ idle
  refine .bind (.bind (safe_lockEndpoint id ?_))
  intro locked registered shrinks
  have idle : ∀ call ∈ locked.served, call.2 ≠ strSipId :=
    fun call member => idle call (shrinks rfl call member)
  rw [insert_empty_eq]
  refine .bind (safe_read (.inl rfl) ?_)
  intro seen before after settles
  have now := (registered.settles rfl before).settles rfl settles
  cases found : seen.mapSipEndpoints.find strSipId with
  | none => exact (safe_endSection now).weaken (fun _ _ _ nothing => nothing ▸ fun _ _ => rfl)
  | some endpoint =>
    refine .bind (safe_write rfl (fun isTimer => nomatch isTimer) ?_)
    intro listed more erased last
    have kept := (now.settles rfl more).eraseEndpoint
      (fun call member => idle call (before.1 call (settles.1 call (more.1 call member))))
    exact (safe_endSection (kept.settles rfl last)).weaken
      (fun _ _ _ nothing => nothing ▸ fun _ _ => rfl)

theorem handled_registerInfo (regInfo : RegisterInfo) :
    Handled (handleRegisterInfo outcome event regInfo) := by
  unfold handleRegisterInfo
  split
  · refine (quiet_reply200OK outcome event).handled.bind (fun _ => ?_)
    exact (handled_registerEndpoint outcome _ _).bind (fun _ => (Quiet.done ()).handled)
  · split
    · exact (quiet_reply401 outcome event).handled
    · refine (quiet_reply200OK outcome event).handled.bind (fun _ => ?_)
      have queried : ∀ iUpdateCatalog : Int, Handled (if iUpdateCatalog = 1 then
          send (.initMessage regInfo.szRegUser regInfo.szContactIP regInfo.iContactPort
            (catalogQuery regInfo.szRegUser)) else pure ()) := by
        intro iUpdateCatalog
        split
        · exact (quiet_send _).handled
        · exact (Quiet.done ()).handled
      split
      · exact (handled_logout _).bind queried
      · exact (handled_registerEndpoint outcome _ _).bind queried

theorem handled_registerNew : Handled (sipServerHandleRegisterNew outcome event) := by
  unfold sipServerHandleRegisterNew
  split
  · exact (Quiet.done ()).handled
  · exact handled_registerInfo outcome event _

theorem handled_keepalive (strSipId : Text) (i64CurTime : Int) :
    Handled (updateSipEndpointKeepalive strSipId i64CurTime) := by
  refine handled_section (fun state registered => ?_)
  refine .bind (safe_read (.inl rfl) ?_)
  intro seen before after settles
  have now := (registered.settles rfl before).settles rfl settles
  cases found : seen.mapSipEndpoints.find strSipId with
  | none => exact safe_endSection now
  | some endpoint =>
    refine .bind (safe_write rfl (fun isTimer => nomatch isTimer) ?_)
    intro listed more changed last
    have kept := (now.settles rfl more).modifyEndpoint strSipId
      (fun endpoint => { endpoint with i64KeepaliveTime := i64CurTime }) (fun _ user => user)
    exact safe_endSection (kept.settles rfl last)

private theorem szRegUser_appendSipDevice (devices : List Device) (endpoint : SipEndpointInfo) :
    (devices.foldl SipEndpointInfo.appendSipDevice endpoint).sRegInfo = endpoint.sRegInfo := by
  induction devices generalizing endpoint with
  | nil => rfl
  | cons device devices ih =>
    rw [List.foldl_cons, ih]
    unfold SipEndpointInfo.appendSipDevice
    dsimp only
    split
    · split <;> rfl
    · rfl

theorem handled_catalog (pszBody : Text) : Handled (handleCatalogMsg env pszBody) := by
  unfold handleCatalogMsg
  split
  · exact (Quiet.done _).handled
  · rename_i response _
    refine handled_section (fun state registered => ?_)
    refine .bind (safe_read (.inl rfl) ?_)
    intro seen before after settles
    have now := (registered.settles rfl before).settles rfl settles
    cases found : seen.mapSipEndpoints.find response.strSipId with
    | none => exact safe_endSection now
    | some endpoint =>
      refine .bind (safe_write rfl (fun isTimer => nomatch isTimer) ?_)
      intro listed more changed last
      have kept := (now.settles rfl more).modifyEndpoint response.strSipId
        (fun endpoint =>
          (response.items.map deviceOf).foldl SipEndpointInfo.appendSipDevice endpoint)
        (fun endpoint user => by rw [szRegUser_appendSipDevice]; exact user)
      refine .bind ((quiet_send _).section (kept.settles rfl last) ?_)
      intro _ _ registered
      exact safe_endSection registered

theorem handled_recordInfo (pszBody : Text) : Handled (handleRecordInfoMsg env outcome pszBody) := by
  unfold handleRecordInfoMsg
  dsimp only
  split
  · exact (Quiet.done _).handled
  · refine (quiet_getPlaybackCallerInfo _).handled.bind (fun playbackCaller => ?_)
    cases playbackCaller with
    | some caller =>
      exact (handled_initInviteMsg outcome _ _ _ _ _ _).bind (fun _ =>
        (quiet_removePlaybackCallerInfo _).handled.bind (fun _ => (Quiet.done _).handled))
    | none => exact (Quiet.done _).handled

theorem handled_message : Handled (sipServerHandleMessage env outcome event) := by
  unfold sipServerHandleMessage
  dsimp only
  split
  · exact (Quiet.done _).handled
  · have answered : ∀ ret : Int, Handled (sipUAAnswerMessage outcome event ret) := by
      intro ret
      unfold sipUAAnswerMessage
      split
      · exact (quiet_send _).handled
      · exact (Quiet.done ()).handled
    split
    · unfold handleKeepaliveMsg
      exact ((handled_keepalive _ _).bind (fun _ => (Quiet.done _).handled)).bind answered
    · split
      · exact (handled_catalog env _).bind answered
      · split
        · exact (handled_recordInfo env outcome _).bind answered
        · exact (Quiet.done _).handled

theorem handled_event : Handled (handleEvent env outcome event) := by
  unfold handleEvent
  cases threadEventLoop event with
  | none => exact (Quiet.done _).handled
  | some msg =>
    cases msg with
    | registerNew => exact handled_registerNew outcome event
    | callInviteIncoming => exact handled_invite env outcome event
    | callAnswer200OK => exact (quiet_answer200OK outcome event).handled
    | callAnswerRsp => exact (quiet_answerResponse event).handled
    | callAck => exact (quiet_ack outcome event).handled
    | callBye => exact (quiet_bye event).handled
    | message => exact handled_message env outcome event
    | _ => exact (Quiet.done _).handled

/-- The loop keeps the registrations: each round clears the calls of an endpoint before it
erases the endpoint. -/
theorem safe_heartbeatLoop {iMonitorKeepalive i64CurTime : Int}
    {post : Unit → Set Mutex → State → Prop} (entries : List (Text × SipEndpointInfo))
    (inside : .sipEndpoint ∈ held) (noContext : .callContext ∉ held) (registered : state.Registered)
    (done : ∀ after, after.Registered → post () held after) :
    discipline.Safe .timer post (heartbeatLoop iMonitorKeepalive i64CurTime entries) held state := by
  have guarded : Guarded .timer held := .inr inside
  induction entries generalizing state with
  | nil =>
    intro after rely
    exact done after (registered.settles inside (settles_of_rely guarded rely))
  | cons entry rest ih =>
    obtain ⟨strSipId, pEndpointInfo⟩ := entry
    rw [heartbeatLoop]
    dsimp only
    split
    · refine .bind (safe_removeCallContextBySipId guarded noContext ?_)
      intro emptied settles idle
      refine .bind (safe_write inside (fun _ _ _ member => member) ?_)
      intro seen before erased last
      have kept := ((registered.settles inside settles).settles inside before).eraseEndpoint
        (fun call member => idle call (before.1 call member))
      exact ih (kept.settles inside last)
    · exact ih registered

theorem safe_doMonitorSipEndpoint (iMonitorKeepalive i64CurTime : Int) (state : State) :
    discipline.Safe .timer (fun _ held _ => held = ∅)
      (doMonitorSipEndpoint iMonitorKeepalive i64CurTime) ∅ state := by
  have unlocked : ∀ state, discipline.Safe .timer (fun _ held _ => held = ∅)
      (checkPlaybackCallerInfo i64CurTime) ∅ state := by
    intro state
    refine ⟨id, ?_⟩
    intro locked _ _ seen _
    refine ⟨⟨fun _ _ _ member => member, fun _ => ⟨fun _ member => member, rfl⟩⟩, ?_⟩
    refine ⟨.inl rfl, ?_⟩
    intro after _
    refine ⟨fun same => absurd same (by decide), ?_⟩
    intro last _
    rw [insert_empty_eq, Set.sdiff_self]
  refine .bind (.bind (safe_lockEndpoint id ?_))
  intro locked registered _
  rw [insert_empty_eq]
  refine .bind (safe_read (.inr rfl) ?_)
  intro seen before after settles
  have now := (registered.settles rfl before).settles rfl settles
  refine .bind (safe_heartbeatLoop _ rfl (by decide) now ?_)
  intro ended registered
  refine safe_unlockEndpoint rfl registered (fun after => ?_)
  rw [Set.sdiff_self]
  exact unlocked after

theorem job_safe (thread : ServerThread) (job : Thread Unit) (state : State)
    (offered : jobs env thread job) : discipline.Job thread job ∅ state := by
  cases thread with
  | event =>
    obtain ⟨event, outcome, rfl⟩ := offered
    exact handled_event env outcome event state
  | timer =>
    obtain ⟨i64CurTime, rfl⟩ := offered
    exact safe_doMonitorSipEndpoint env.iMonitorKeepalive i64CurTime state

private theorem registered_initial (name : Mutex) : discipline.invariant name State.initial := by
  rintro rfl
  exact ⟨fun _ member => (nomatch member), fun _ member => (nomatch member)⟩

inductive Input where
  | event (event : Event) (outcome : Outcome)
  | tick (i64CurTime : Int)
  deriving DecidableEq

def Input.worker : Input → ServerThread
  | .event _ _ => .event
  | .tick _ => .timer

def Input.job : Input → Thread Unit
  | .event event outcome => handleEvent env outcome event
  | .tick i64CurTime => doMonitorSipEndpoint env.iMonitorKeepalive i64CurTime

/-- The state after an input is dealt with. -/
def State.handle (state : State) (input : Input) : State := ((input.job env).run state).2

def State.handleAll (state : State) (inputs : List Input) : State := inputs.foldl (State.handle env) state

theorem handleAll_append (first last : List Input) :
    state.handleAll env (first ++ last) = (state.handleAll env first).handleAll env last :=
  List.foldl_append

theorem offered_job (input : Input) : jobs env input.worker (input.job env) := by
  cases input with
  | event event outcome => exact ⟨event, outcome, rfl⟩
  | tick i64CurTime => exact ⟨i64CurTime, rfl⟩

/-- A run is one of the interleavings of the two threads. -/
theorem reachable_handleAll (inputs : List Input) :
    Threads.Reachable (jobs env) State.initial
      ⟨State.handleAll env State.initial inputs, fun _ => none, fun _ => .done ()⟩ := by
  induction inputs using List.reverseRecOn with
  | nil => exact .start
  | append_singleton inputs input ih =>
    rw [State.handleAll, List.foldl_concat]
    exact ih.run registered_initial (job_safe env) (offered_job env input)

/-- Whatever the two threads do, in any interleaving: while the endpoint mutex is free every
call is served by a registered endpoint, so none outlives its platform. -/
theorem calls_registered {threads : Threads Mutex State ServerThread}
    (reachable : Threads.Reachable (jobs env) State.initial threads)
    (free : threads.owner .sipEndpoint = none) :
    (∀ cell ∈ threads.state.lsCallContext,
      cell.2.sCallee.szSipEndpointId ∈ threads.state.mapSipEndpoints.keys) ∧
    ∀ strSipId, threads.state.mapSipEndpoints.find strSipId = none →
      ∀ cell ∈ threads.state.lsCallContext, cell.2.sCallee.szSipEndpointId ≠ strSipId := by
  have registered := Discipline.invariant_of_reachable registered_initial (job_safe env) reachable
    .sipEndpoint free rfl
  have known : ∀ cell ∈ threads.state.lsCallContext,
      cell.2.sCallee.szSipEndpointId ∈ threads.state.mapSipEndpoints.keys :=
    fun cell member => registered.registered _ (List.mem_map.mpr ⟨cell, member, rfl⟩)
  refine ⟨known, ?_⟩
  rintro strSipId absent cell member rfl
  obtain ⟨endpoint, there⟩ := OrderedMap.mem_keys.mp (known cell member)
  exact OrderedMap.find_eq_none.mp absent _ there rfl

def textBetween (text opening : Text) (closing : Char) : Text :=
  match strstr text opening with
  | some offset => (text.drop (offset + opening.length)).takeWhile (· ≠ closing)
  | none => []

def catalogBody : Text :=
  "<Response><CmdType>Catalog</CmdType><DeviceID>P</DeviceID><SumNum>1</SumNum><DeviceList Num=\"1\"><Item><DeviceID>D</DeviceID></Item></DeviceList></Response>".toList

/-- Reads the first element of a name, as the parser does on bodies without nesting. -/
def sampleEnvironment : Environment where
  strLocalSipId := "S".toList
  iMonitorKeepalive := 120
  getXmlElementText body name := textBetween body ("<".toList ++ name ++ ">".toList) '<'
  catalogResponse body :=
    if body = catalogBody then some ⟨"P".toList, 1, [[("DeviceID".toList, "D".toList)]]⟩ else none
  unixTime2StrTime _ := "1970-01-01T00:00:00".toList

def plainRequest : SipMessage := ⟨0, [], none, none, none, none, none, none, none, none⟩

def platformRegister : Event :=
  { type := .messageNew, tid := 1, did := 0, cid := 0, response := none
    request := some { plainRequest with
      sipMethod := "REGISTER".toList
      contact := some (some ⟨some "P".toList, some "10.0.0.2".toList, some "5060".toList⟩)
      expires := some (some "3600".toList)
      authorization := some ⟨none, none, none, none, none⟩ } }

def platformCatalog : Event :=
  { type := .messageNew, tid := 2, did := 0, cid := 0, response := none
    request := some { plainRequest with
      sipMethod := "MESSAGE".toList
      body := some catalogBody } }

/-- An INVITE of `U` for the device, for live or recorded video. -/
def deviceInvite (tid cid : Int) (session : String) : Event :=
  { type := .callInvite, tid := tid, did := 1, cid := cid, response := none
    request := some { plainRequest with
      sipMethod := "INVITE".toList
      fromHeader := some ⟨some "U".toList, some "10.0.0.3".toList, none⟩
      subject := some "D:0,U:0".toList
      body := some ("v=0\r\ns=".toList ++ session.toList ++ "\r\n".toList) } }

/-- The stack does what it is asked; a call it starts gets a call id. -/
def answering (i64CurTime calleeCid : Int) : Outcome := ⟨i64CurTime, calleeCid, 0, 0⟩

def registeredPlatform : List Input :=
  [.event platformRegister (answering 1000 0), .event platformCatalog (answering 1000 0)]

/-- The server knows the platform and its device; there is no call yet. -/
def registeredState : State where
  mapSipEndpoints := OrderedMap.empty.insert "P".toList
    { sRegInfo := (sipUAGetRegisterInfo platformRegister).getD .zero
      strType := sipEndpointGbPlatform
      i64RegisterTime := 1000
      i64KeepaliveTime := 1000
      jsonCatalog := [OrderedMap.empty.insert "DeviceID".toList "D".toList]
      mapSipDeviceInfo := OrderedMap.empty.insert "D".toList ⟨[], "D".toList⟩ }
  lsCallContext := []
  freshPointer := 0
  mapPlaybackCallerInfo := .empty
  ulMsgReqSN := 17430
  sent := [.registerReply 1 200,
    .initMessage "P".toList "10.0.0.2".toList 5060 (catalogQuery "P".toList),
    .createStreamPullerLocal "P".toList, .answerMessage 2 200]

set_option maxRecDepth 4000 in
theorem handleAll_registeredPlatform :
    State.handleAll sampleEnvironment .initial registeredPlatform = registeredState := by
  have spelled : catalogBody = _ := toList_literal _ rfl
  unfold registeredPlatform platformCatalog sampleEnvironment
  rw [spelled]
  decide +kernel

def playInputs : List Input :=
  registeredPlatform ++ [.event (deviceInvite 3 4 "Play") (answering 1000 5)]

theorem handleAll_playInputs : State.handleAll sampleEnvironment .initial playInputs =
    registeredState.handle sampleEnvironment
      (.event (deviceInvite 3 4 "Play") (answering 1000 5)) := by
  rw [playInputs, handleAll_append, handleAll_registeredPlatform]
  rfl

theorem calls_registered_playing :
    (State.handleAll sampleEnvironment State.initial playInputs).lsCallContext.length = 1 ∧
    (∀ cell ∈ (State.handleAll sampleEnvironment State.initial playInputs).lsCallContext,
      cell.2.sCallee.szSipEndpointId ∈
        (State.handleAll sampleEnvironment State.initial playInputs).mapSipEndpoints.keys) ∧
    ∀ strSipId,
      (State.handleAll sampleEnvironment State.initial playInputs).mapSipEndpoints.find strSipId =
        none →
      ∀ cell ∈ (State.handleAll sampleEnvironment State.initial playInputs).lsCallContext,
        cell.2.sCallee.szSipEndpointId ≠ strSipId :=
  have registered :=
    calls_registered sampleEnvironment (reachable_handleAll sampleEnvironment playInputs) rfl
  ⟨by rw [handleAll_playInputs]; decide +kernel, registered⟩

end Gb28181.SipServer
