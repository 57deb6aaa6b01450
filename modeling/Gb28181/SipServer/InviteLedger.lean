import Gb28181.SipServer.Deeds

namespace Gb28181.SipServer

open Gb28181.Lib Gb28181.SipUA

variable (env : Environment) {outcome : Outcome} {event : Event} {state after : State}
  {issued : Issued} {input : Input} {invite : Invite}

/-- The device whose record list an event reports. -/
def recordedDevice (event : Event) : Option Text :=
  let szBody := (sipUAGetRequestBodyContent event 4096).2
  let strDeviceId := env.getXmlElementText szBody "DeviceID".toList
  if threadEventLoop event = some .message ∧ 0 < (sipUAGetRequestBodyContent event 4096).1 ∧
      env.getXmlElementText szBody "CmdType".toList = "RecordInfo".toList ∧ strDeviceId ≠ [] then
    some strDeviceId
  else none

/-- The device to which an event has an INVITE forwarded, a new one or one that waits, and
the session it carries. -/
def forwardedDevice (state : State) (event : Event) : Option (Text × SdpInfo) :=
  if event.type = .callInvite then
    if (getSdpInfo event.request).szSessionName = "Play".toList then
      some ((getSubject event.request).szSenderId, getSdpInfo event.request)
    else none
  else ((recordedDevice env event).bind state.mapPlaybackCallerInfo.find).map
    (fun callerInfo => (callerInfo.subject.szSenderId, callerInfo.sdpInfo))

/-- The device for which an event brings a playback INVITE. -/
def storedDevice (event : Event) : Option Text :=
  if event.type = .callInvite ∧ (getSdpInfo event.request).szSessionName = "Playback".toList then
    some (getSubject event.request).szSenderId
  else none

/-- Forwarding to a platform works, no second playback INVITE comes for a device, the answer
to a caller can be built, and no playback INVITE times out. -/
def Input.Accounted (state : State) : Input → Prop
  | .event event outcome =>
    (∀ forwarded ∈ forwardedDevice env state event,
      (state.queryGb28181PlatformInfo forwarded.1).isSome → outcome.Forwards forwarded.2) ∧
    (∀ strDevId ∈ storedDevice event, (state.queryGb28181PlatformInfo strDevId).isSome →
      state.mapPlaybackCallerInfo.find strDevId = none) ∧
    (threadEventLoop event = some .callAnswer200OK →
      (state.getCallContextByCallLeg event.cid .callee).isSome → outcome.buildAnswer = 0)
  | .tick i64CurTime => state.timedOut i64CurTime = []

/-- The INVITE that has waited and that an input connects. -/
def Input.resumed (state : State) : Input → Option Invite
  | .event event outcome =>
    match (recordedDevice env event).bind state.mapPlaybackCallerInfo.find with
    | some callerInfo =>
      if (state.queryGb28181PlatformInfo callerInfo.subject.szSenderId).isSome ∧
          outcome.Forwards callerInfo.sdpInfo then
        some callerInfo.invite
      else none
    | none => none
  | .tick _ => none

/-- A deed deals with the INVITEs and the ids of the input. -/
structure Deed.Fits (deed : Deed) (state : State) (input : Input) : Prop where
  arrives : deed.arrives = input.invite
  callee : ∀ cid, deed.callee = some cid → cid ∈ input.outgoing
  resumed : ∀ call, deed = .resume call → input.resumed env state = some call.caller

/-- What an input does to the book of calls. -/
structure Effect (state : State) (input : Input) (after : State) : Prop where
  allocated : after.Allocated
  does : ∃ deed : Deed, deed.Does state.book after.book ∧ deed.Fits env state input ∧
    (deed.Faulty → ¬ input.Accounted env state)

variable {env}

theorem Deed.Fits.of_calleeless {deed : Deed} (arrives : deed.arrives = input.invite)
    (calleeless : deed.callee = none) : deed.Fits env state input := by
  refine ⟨arrives, ?_, ?_⟩
  · intro cid callee
    rw [calleeless] at callee
    exact nomatch callee
  · rintro call rfl
    exact nomatch calleeless

theorem Effect.of_swept (swept : Swept state after) (allocated : state.Allocated)
    (invite : input.invite = none) : Effect env state input after := by
  obtain ⟨kept, -, gone, does⟩ := swept
  exact ⟨kept allocated, _, does, .of_calleeless invite.symm rfl,
    fun faulty => absurd rfl faulty⟩

theorem Effect.of_same (allocated : after.Allocated) (same : after.book = state.book)
    (invite : input.invite = none) : Effect env state input after :=
  ⟨allocated, .nothing, same, .of_calleeless invite.symm rfl, False.elim⟩

theorem callInvite_iff :
    threadEventLoop event = some .callInviteIncoming ↔ event.type = .callInvite := by
  have answer : ∀ response : SipMessage,
      (if response.statusCode = 200 then UAMsg.callAnswer200OK else .callAnswerRsp) ≠
        .callInviteIncoming := by
    intro response
    split <;> exact nofun
  have request : ∀ request : SipMessage,
      (if request.sipMethod = "REGISTER".toList then some .registerNew
        else if request.sipMethod = "MESSAGE".toList then some .message
        else if request.sipMethod = "INFO".toList then some .info
        else none) ≠ some UAMsg.callInviteIncoming := by
    intro request
    split
    · exact nofun
    · split
      · exact nofun
      · split <;> exact nofun
  cases type : event.type <;>
    simp only [threadEventLoop, type, reduceCtorEq, iff_false, Option.map_eq_some_iff,
      Option.bind_eq_some_iff, Option.some.injEq, not_exists, not_and, answer, not_false_eq_true, implies_true, request]

theorem effect_invite (allocated : state.Allocated) (invites : event.type = .callInvite)
    (unused : ∀ cell ∈ state.lsCallContext, cell.2.sCaller.cid ≠ event.cid)
    (ended : ((sipServerHandleCallInviteIncoming env outcome event).run state).2 = after) :
    Effect env state (.event event outcome) after := by
  have arrives : Input.invite (.event event outcome) = some ⟨event.tid, event.cid⟩ := if_pos invites
  unfold sipServerHandleCallInviteIncoming at ended
  dsimp only at ended
  split at ended
  · rename_i play
    have forwarded : forwardedDevice env state event =
        some ((getSubject event.request).szSenderId, getSdpInfo event.request) := by
      rw [forwardedDevice, if_pos invites, if_pos play]
    obtain ⟨kept, -, book⟩ := book_initInviteMsg allocated unused ended
    refine ⟨kept, ?_⟩
    cases found : state.queryGb28181PlatformInfo (getSubject event.request).szSenderId with
    | none =>
      rw [found] at book
      exact ⟨_, book, .of_calleeless arrives.symm rfl, False.elim⟩
    | some platform =>
      rw [found] at book
      dsimp only at book
      split at book
      · rename_i sent
        refine ⟨_, book, ⟨arrives.symm, ?_, fun _ resumes => (nomatch resumes)⟩, False.elim⟩
        rintro cid ⟨⟩
        simp [Input.outgoing, sent.2]
      · rename_i unsent
        refine ⟨.lose ⟨event.tid, event.cid⟩, book, .of_calleeless arrives.symm rfl, ?_⟩
        rintro - ⟨works, -⟩
        exact unsent (works _ forwarded (by simp [found]))
  · split at ended
    · rename_i play playback
      have stored : storedDevice event = some (getSubject event.request).szSenderId :=
        if_pos ⟨invites, playback⟩
      obtain ⟨kept, book⟩ := book_invitePlayback allocated ended
      refine ⟨kept, ?_⟩
      cases found : state.queryGb28181PlatformInfo (getSubject event.request).szSenderId with
      | none =>
        rw [found] at book
        exact ⟨_, book, .of_calleeless arrives.symm rfl, False.elim⟩
      | some platform =>
        rw [found] at book
        dsimp only at book
        split at book
        · exact ⟨_, book, .of_calleeless arrives.symm rfl, False.elim⟩
        · rename_i pending
          refine ⟨.lose ⟨event.tid, event.cid⟩, book, .of_calleeless arrives.symm rfl, ?_⟩
          rintro - ⟨-, alone, -⟩
          exact pending (alone _ stored (by simp [found]))
    · subst ended
      exact ⟨⟨allocated.apart, allocated.given⟩, .refuse ⟨event.tid, event.cid⟩,
        book_refuse event.tid 400 none (by decide), .of_calleeless arrives.symm rfl, False.elim⟩

/-- What the record list of a device does to the INVITE that waits for it. -/
private theorem effect_recorded {strDeviceId : Text} (allocated : after.Allocated)
    (other : event.type ≠ .callInvite) (device : recordedDevice env event = some strDeviceId)
    (book : match state.mapPlaybackCallerInfo.find strDeviceId with
      | some callerInfo =>
        match state.queryGb28181PlatformInfo callerInfo.subject.szSenderId with
        | some _ => if outcome.Forwards callerInfo.sdpInfo
            then (Deed.resume ⟨callerInfo.invite, outcome.initialInvite⟩).Does state.book after.book
            else (Deed.loseWaiting callerInfo.invite).Does state.book after.book
        | none => (Deed.refuseWaiting callerInfo.invite).Does state.book after.book
      | none => after.book = state.book) :
    Effect env state (.event event outcome) after := by
  have invite : Input.invite (.event event outcome) = none := if_neg other
  cases pending : state.mapPlaybackCallerInfo.find strDeviceId with
  | none =>
    rw [pending] at book
    exact .of_same allocated book invite
  | some callerInfo =>
    rw [pending] at book
    have forwarded : forwardedDevice env state event =
        some (callerInfo.subject.szSenderId, callerInfo.sdpInfo) := by
      rw [forwardedDevice, if_neg other, device, Option.bind_some, pending, Option.map_some]
    refine ⟨allocated, ?_⟩
    dsimp only at book
    cases found : state.queryGb28181PlatformInfo callerInfo.subject.szSenderId with
    | none =>
      rw [found] at book
      exact ⟨_, book, .of_calleeless invite.symm rfl, False.elim⟩
    | some platform =>
      rw [found] at book
      dsimp only at book
      split at book
      · rename_i sent
        refine ⟨_, book, ⟨invite.symm, ?_, ?_⟩, False.elim⟩
        · rintro cid ⟨⟩
          simp [Input.outgoing, sent.2]
        · rintro call ⟨⟩
          simp [Input.resumed, device, pending, found, sent]
      · rename_i unsent
        refine ⟨_, book, .of_calleeless invite.symm rfl, ?_⟩
        rintro - ⟨works, -⟩
        exact unsent (works _ forwarded (by simp [found]))

theorem effect_message (allocated : state.Allocated)
    (dispatched : threadEventLoop event = some .message)
    (unused : ∀ entry ∈ state.mapPlaybackCallerInfo.entries,
      ∀ cell ∈ state.lsCallContext, cell.2.sCaller.cid ≠ entry.2.cid)
    (ended : ((sipServerHandleMessage env outcome event).run state).2 = after) :
    Effect env state (.event event outcome) after := by
  have other : event.type ≠ .callInvite := by
    intro invites
    rw [callInvite_iff.mpr invites] at dispatched
    exact nomatch dispatched
  have invite : Input.invite (.event event outcome) = none := if_neg other
  have answered : ∀ ret, Sweeps (sipUAAnswerMessage outcome event ret) := by
    intro ret
    unfold sipUAAnswerMessage
    split
    · exact sweeps_send rfl rfl
    · exact .done ()
  unfold sipServerHandleMessage at ended
  dsimp only at ended
  split at ended
  · subst ended
    exact .of_same allocated rfl invite
  · rename_i long
    split at ended
    · have swept : Sweeps (handleKeepaliveMsg env outcome (sipUAGetRequestBodyContent event 4096).2) :=
        (sweeps_updateSipEndpointKeepalive _ _).bind (fun _ => .done _)
      subst ended
      exact .of_swept (swept.bind answered state) allocated invite
    · split at ended
      · subst ended
        exact .of_swept ((sweeps_catalog _).bind answered state) allocated invite
      · split at ended
        · rename_i record
          rw [Prog.run_bind] at ended
          have recorded := @book_recordInfo env outcome state _
            (sipUAGetRequestBodyContent event 4096).2 allocated
            (fun callerInfo found => unused _ (OrderedMap.mem_of_find found)) rfl
          generalize ((handleRecordInfoMsg env outcome (sipUAGetRequestBodyContent event 4096).2).run
            state) = middle at ended recorded
          obtain ⟨kept, book⟩ := recorded
          have same : after.book = middle.2.book := ended ▸ run_answerMessage.1
          have allocated' : after.Allocated := ended ▸ run_answerMessage.2 kept
          rw [← same] at book
          by_cases empty : env.getXmlElementText (sipUAGetRequestBodyContent event 4096).2
              "DeviceID".toList = []
          · rw [if_pos empty] at book
            exact .of_same allocated' book invite
          · rw [if_neg empty] at book
            have device : recordedDevice env event = some (env.getXmlElementText
                (sipUAGetRequestBodyContent event 4096).2 "DeviceID".toList) :=
              if_pos ⟨dispatched, not_le.mp long, record, empty⟩
            exact effect_recorded allocated' other device book
        · subst ended
          exact .of_same allocated rfl invite

theorem effect_event (allocated : state.Allocated)
    (unused : event.type = .callInvite →
      ∀ cell ∈ state.lsCallContext, cell.2.sCaller.cid ≠ event.cid)
    (waiting : ∀ entry ∈ state.mapPlaybackCallerInfo.entries,
      ∀ cell ∈ state.lsCallContext, cell.2.sCaller.cid ≠ entry.2.cid)
    (ended : ((handleEvent env outcome event).run state).2 = after) :
    Effect env state (.event event outcome) after := by
  have none_of : threadEventLoop event ≠ some .callInviteIncoming →
      Input.invite (.event event outcome) = none :=
    fun other => if_neg (fun invites => other (callInvite_iff.mpr invites))
  unfold handleEvent at ended
  cases dispatched : threadEventLoop event with
  | none =>
    rw [dispatched] at ended none_of
    subst ended
    exact .of_same allocated rfl (none_of nofun)
  | some msg =>
    rw [dispatched] at ended none_of
    cases msg with
    | registerNew =>
      subst ended
      exact .of_swept (sweeps_registerNew state) allocated (none_of nofun)
    | callInviteIncoming =>
      have invites := callInvite_iff.mp dispatched
      exact effect_invite allocated invites (unused invites) ended
    | callAnswer200OK =>
      obtain ⟨kept, book⟩ := book_answer200OK allocated ended
      cases found : state.getCallContextByCallLeg event.cid .callee with
      | none =>
        rw [found] at book
        exact .of_same kept book (none_of nofun)
      | some cell =>
        rw [found] at book
        dsimp only at book
        split at book
        · exact .of_same kept book (none_of nofun)
        · rename_i unbuilt
          refine ⟨kept, _, book, .of_calleeless (none_of nofun).symm rfl, ?_⟩
          rintro - ⟨-, -, builds⟩
          exact unbuilt (builds dispatched (by simp [found]))
    | callAnswerRsp =>
      obtain ⟨kept, book⟩ := book_answerResponse allocated ended
      cases found : state.getCallContextByCallLeg event.cid .callee with
      | none =>
        rw [found] at book
        exact .of_same kept book (none_of nofun)
      | some cell =>
        rw [found] at book
        exact ⟨kept, _, book, .of_calleeless (none_of nofun).symm rfl, False.elim⟩
    | callAck =>
      subst ended
      exact .of_swept (sweeps_ack state) allocated (none_of nofun)
    | callBye =>
      obtain ⟨kept, book⟩ := book_bye allocated ended
      cases found : state.getCallContext event.cid with
      | none =>
        rw [found] at book
        exact .of_same kept book (none_of nofun)
      | some cell =>
        rw [found] at book
        exact ⟨kept, _, book, .of_calleeless (none_of nofun).symm rfl,
          fun faulty => absurd rfl faulty⟩
    | message => exact effect_message allocated dispatched waiting ended
    | _ =>
      subst ended
      exact .of_same allocated rfl (none_of nofun)

theorem effect_handle (allocated : state.Allocated)
    (unused : ∀ invite, input.invite = some invite →
      ∀ cell ∈ state.lsCallContext, cell.2.sCaller.cid ≠ invite.cid)
    (waiting : ∀ entry ∈ state.mapPlaybackCallerInfo.entries,
      ∀ cell ∈ state.lsCallContext, cell.2.sCaller.cid ≠ entry.2.cid) :
    Effect env state input (state.handle env input) := by
  cases input with
  | event event outcome =>
    exact effect_event allocated (fun invites => unused _ (if_pos invites)) waiting rfl
  | tick i64CurTime =>
    obtain ⟨kept, gone, does⟩ := @book_tick state _ env.iMonitorKeepalive i64CurTime
      allocated rfl
    refine ⟨kept, _, does, .of_calleeless rfl rfl, ?_⟩
    intro lost none
    exact lost (congrArg Multiset.ofList none)

/-- A condition holds of every input of a run and the inputs before it. -/
def EachStep (condition : List Input → Input → Prop) : List Input → List Input → Prop
  | _, [] => True
  | earlier, input :: inputs =>
    condition earlier input ∧ EachStep condition (earlier ++ [input]) inputs

theorem eachStep_append {condition : List Input → Input → Prop} {earlier first last : List Input} :
    EachStep condition earlier (first ++ last) ↔
      EachStep condition earlier first ∧ EachStep condition (earlier ++ first) last := by
  induction first generalizing earlier with
  | nil => simp [EachStep]
  | cons input first ih =>
    rw [List.cons_append, EachStep, EachStep, ih, and_assoc, List.append_assoc,
      List.singleton_append]

theorem eachStep_concat {condition : List Input → Input → Prop} {earlier inputs : List Input} :
    EachStep condition earlier (inputs ++ [input]) ↔
      EachStep condition earlier inputs ∧ condition (earlier ++ inputs) input := by
  rw [eachStep_append, EachStep, EachStep, and_true]

/-- The steps of a run that follows another are steps with the other run before them. -/
theorem eachStep_after {condition : List Input → Input → Prop} {first earlier last : List Input} :
    EachStep condition (first ++ earlier) last ↔
      EachStep (fun later => condition (first ++ later)) earlier last := by
  induction last generalizing earlier with
  | nil => exact Iff.rfl
  | cons input last ih => rw [EachStep, EachStep, List.append_assoc, ih]

/-- The run up to a step ends in a state in which the next input is accounted for. -/
def AccountedAfter (env : Environment) (earlier : List Input) (input : Input) : Prop :=
  input.Accounted env (State.handleAll env .initial earlier)

theorem issuedBy_concat (inputs : List Input) (input : Input) :
    issuedBy (inputs ++ [input]) =
      ⟨(issuedBy inputs).invites ++ input.invite.toList,
        (issuedBy inputs).callees ++ input.outgoing⟩ := by
  simp only [issuedBy, List.filterMap_append, List.flatMap_append, List.flatMap_cons,
    List.flatMap_nil, List.append_nil]
  cases brought : input.invite <;> simp [brought]

theorem freshCids_of_concat {inputs : List Input}
    (fresh : (issuedBy (inputs ++ [input])).FreshCids) : (issuedBy inputs).FreshCids := by
  rw [issuedBy_concat] at fresh
  exact fresh.sublist (((List.sublist_append_left _ _).map _).append
    (List.sublist_append_left _ _))

theorem fresh_of_concat {inputs : List Input} (fresh : (issuedBy (inputs ++ [input])).Fresh) :
    (issuedBy inputs).Fresh := by
  refine ⟨?_, freshCids_of_concat fresh.freshCids⟩
  have tids := fresh.tids
  rw [issuedBy_concat] at tids
  exact tids.sublist ((List.sublist_append_left _ _).map _)

theorem new_of_concat {inputs : List Input} (fresh : (issuedBy (inputs ++ [input])).FreshCids) :
    (∀ invite, input.invite = some invite → invite ∉ (issuedBy inputs).invites) ∧
      ∀ cid ∈ input.outgoing, cid ∉ (issuedBy inputs).callees := by
  rw [issuedBy_concat] at fresh
  refine ⟨?_, ?_⟩
  · intro invite brought old
    have cids := (List.nodup_append.mp fresh).1
    rw [List.map_append, List.nodup_append] at cids
    exact cids.2.2 _ (List.mem_map_of_mem old) invite.cid (by simp [brought]) rfl
  · intro cid brought old
    have callees := (List.nodup_append.mp fresh).2.1
    exact (List.nodup_append.mp callees).2.2 _ old _ brought rfl

theorem brings_of_concat {inputs : List Input} {deed : Deed}
    (fresh : (issuedBy (inputs ++ [input])).FreshCids) (fits : deed.Fits env state input) :
    deed.Brings (issuedBy inputs) (issuedBy (inputs ++ [input])) := by
  obtain ⟨newInvite, newCallee⟩ := new_of_concat fresh
  rw [issuedBy_concat]
  refine ⟨List.subset_append_left _ _, List.subset_append_left _ _, ?_, ?_⟩
  · intro invite brought
    rw [fits.arrives] at brought
    exact ⟨List.mem_append_right _ (by simp [brought]), newInvite invite brought⟩
  · intro cid brought
    have mine := fits.callee cid brought
    exact ⟨List.mem_append_right _ mine, newCallee cid mine⟩

private theorem unused_of_idle {later : Issued} (sound : state.book.Sound issued)
    (fresh : later.FreshCids) (more : issued.invites ⊆ later.invites) (here : invite ∈ later.invites)
    (idle : invite ∉ state.book.calls.map Call.caller) :
    ∀ cell ∈ state.lsCallContext, cell.2.sCaller.cid ≠ invite.cid := by
  intro cell member same
  have called : cell.2.call ∈ state.book.calls := List.mem_map.mpr ⟨cell, member, rfl⟩
  have equal := fresh.eq_of_cid (more (sound.callers _ called)) here same
  exact idle (equal ▸ Multiset.mem_map_of_mem Call.caller called)

theorem effect_of_sound {inputs : List Input} (allocated : state.Allocated)
    (sound : state.book.Sound (issuedBy inputs))
    (fresh : (issuedBy (inputs ++ [input])).FreshCids) :
    Effect env state input (state.handle env input) := by
  have more : (issuedBy inputs).invites ⊆ (issuedBy (inputs ++ [input])).invites := by
    rw [issuedBy_concat]
    exact List.subset_append_left _ _
  refine effect_handle allocated ?_ ?_
  · intro invite brought
    have new := (new_of_concat fresh).1 invite brought
    refine unused_of_idle sound fresh more (by simp [issuedBy_concat, brought]) ?_
    intro connected
    obtain ⟨call, called, rfl⟩ := Multiset.mem_map.mp connected
    exact new (sound.callers call called)
  · intro entry member
    have waits : entry.2.invite ∈ state.book.waiting := List.mem_map.mpr ⟨entry, member, rfl⟩
    refine unused_of_idle sound fresh more (more (sound.waiting _ waits)) ?_
    exact Multiset.disjoint_left.mp (Multiset.nodup_add.mp sound.once).2.2 waits

/-- In every run whose call ids are fresh the book is sound. -/
theorem sound_handleAll (inputs : List Input) (fresh : (issuedBy inputs).FreshCids) :
    (State.handleAll env .initial inputs).Allocated ∧
      (State.handleAll env .initial inputs).book.Sound (issuedBy inputs) := by
  induction inputs using List.reverseRecOn with
  | nil =>
    refine ⟨⟨List.nodup_nil, fun _ member => (nomatch member)⟩, ?_⟩
    refine ⟨?_, ?_, ?_, ?_, ?_⟩ <;> simp [State.handleAll, State.initial, State.book]
  | append_singleton inputs input ih =>
    obtain ⟨allocated, sound⟩ := ih (freshCids_of_concat fresh)
    obtain ⟨kept, deed, does, fits, -⟩ := effect_of_sound allocated sound fresh
    rw [State.handleAll, List.foldl_concat]
    exact ⟨kept, does.sound sound (brings_of_concat fresh fits)⟩

/-- In every run whose steps are all accounted for, so is every INVITE of the book. -/
theorem accounts_handleAll (inputs : List Input) (fresh : (issuedBy inputs).Fresh)
    (steps : EachStep (AccountedAfter env) [] inputs) :
    (State.handleAll env .initial inputs).book.Accounts (issuedBy inputs) := by
  induction inputs using List.reverseRecOn with
  | nil => refine ⟨?_, ?_, ?_⟩ <;> simp [State.handleAll, State.initial, State.book, issuedBy]
  | append_singleton inputs input ih =>
    obtain ⟨before, accounted⟩ := eachStep_concat.mp steps
    have accounts := ih (fresh_of_concat fresh) before
    obtain ⟨allocated, sound⟩ := @sound_handleAll env inputs (freshCids_of_concat fresh.freshCids)
    obtain ⟨-, deed, does, fits, faulty⟩ := effect_of_sound allocated sound fresh.freshCids
    rw [State.handleAll, List.foldl_concat]
    refine does.accounts accounts sound (brings_of_concat fresh.freshCids fits) fresh ?_
      (fun fault => faulty fault accounted)
    intro one member
    rw [issuedBy_concat] at member
    rcases List.mem_append.mp member with old | new
    · exact .inl old
    · exact .inr (fits.arrives.trans (by simpa using new))

def State.stored (invite : Invite) (state : State) : Nat :=
  state.mapPlaybackCallerInfo.entries.countP (fun entry => entry.2.invite = invite)

/-- The contexts that have the INVITE as their caller leg. -/
def State.connected (invite : Invite) (state : State) : Nat :=
  state.lsCallContext.countP (fun cell => cell.2.call.caller = invite)

/-- A final response that refuses the INVITE was sent, or its call was torn down. -/
def State.Closed (invite : Invite) (state : State) : Prop :=
  ∃ output ∈ state.sent, output.refusal = some invite.tid ∨ output.hangUp = some invite.cid

instance (invite : Invite) (state : State) : Decidable (state.Closed invite) :=
  inferInstanceAs (Decidable (∃ output ∈ state.sent, _))

/-- It is stored once, the caller leg of one context or closed, and only one of these. -/
def State.InOnePlace (invite : Invite) (state : State) : Prop :=
  (state.stored invite = 1 ∧ state.connected invite = 0 ∧ ¬ state.Closed invite) ∨
    (state.stored invite = 0 ∧ state.connected invite = 1 ∧ ¬ state.Closed invite) ∨
    (state.stored invite = 0 ∧ state.connected invite = 0 ∧ state.Closed invite)

instance (invite : Invite) (state : State) : Decidable (state.InOnePlace invite) :=
  inferInstanceAs (Decidable (_ ∨ _ ∨ _))

theorem stored_eq : state.stored invite = state.book.waiting.count invite := by
  simp only [State.stored, State.book, Multiset.coe_count, List.count_eq_countP, List.countP_map]
  rfl

theorem connected_eq : state.connected invite = (state.book.calls.map Call.caller).count invite := by
  simp only [State.connected, State.book, Multiset.map_coe, Multiset.coe_count,
    List.count_eq_countP, List.countP_map]
  rfl

theorem closed_iff : state.Closed invite ↔ state.book.Closed invite := by
  simp [State.Closed, Book.Closed, State.book, and_or_left, exists_or]

instance (state : State) (input : Input) : Decidable (input.Accounted env state) :=
  match input with
  | .event _ _ => inferInstanceAs (Decidable (_ ∧ _ ∧ _))
  | .tick _ => inferInstanceAs (Decidable (_ = _))

instance (earlier : List Input) (input : Input) : Decidable (AccountedAfter env earlier input) :=
  inferInstanceAs (Decidable (input.Accounted env _))

instance decidableEachStep (condition : List Input → Input → Prop)
    [∀ earlier input, Decidable (condition earlier input)] :
    ∀ earlier inputs : List Input, Decidable (EachStep condition earlier inputs)
  | _, [] => isTrue trivial
  | earlier, input :: inputs =>
    have := decidableEachStep condition (earlier ++ [input]) inputs
    inferInstanceAs (Decidable (condition earlier input ∧ _))

def recordInfo : Event :=
  { type := .messageNew, tid := 5, did := 0, cid := 0, response := none
    request := some { plainRequest with
      sipMethod := "MESSAGE".toList
      body := some
        "<Response><CmdType>RecordInfo</CmdType><DeviceID>D</DeviceID></Response>".toList } }

def playbackInputs : List Input :=
  registeredPlatform ++ [.event (deviceInvite 3 4 "Playback") (answering 1000 0)]

set_option maxRecDepth 4000 in
/-- The run after the registration of the platform goes on from `registeredState`. -/
theorem accounted_registeredPlatform {later : List Input}
    (steps : EachStep (fun earlier input => input.Accounted sampleEnvironment
      (registeredState.handleAll sampleEnvironment earlier)) [] later) :
    EachStep (AccountedAfter sampleEnvironment) [] (registeredPlatform ++ later) := by
  have registers : EachStep (AccountedAfter sampleEnvironment) [] registeredPlatform := by
    have spelled : catalogBody = _ := toList_literal _ rfl
    unfold registeredPlatform platformCatalog sampleEnvironment
    rw [spelled]
    decide +kernel
  refine eachStep_append.mpr ⟨registers, ?_⟩
  rw [List.nil_append, ← List.append_nil registeredPlatform]
  apply eachStep_after.mpr
  unfold AccountedAfter
  simp only [handleAll_append, handleAll_registeredPlatform]
  exact steps

end Gb28181.SipServer
