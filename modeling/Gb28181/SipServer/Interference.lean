import Gb28181.SipServer.Handlers
import Mathlib.Order.BooleanAlgebra.Set

namespace Gb28181.SipServer

open Gb28181.Lib Gb28181.SipUA

/-- The calls, each with the id of the platform that serves it. -/
def State.served (state : State) : List (Pointer × Text) :=
  state.lsCallContext.map (fun cell => (cell.1, cell.2.sCallee.szSipEndpointId))

/-- Every call is served by a registered endpoint, and endpoints stand under their user. -/
structure State.Registered (state : State) : Prop where
  registered : ∀ call ∈ state.served, call.2 ∈ state.mapSipEndpoints.keys
  named : ∀ entry ∈ state.mapSipEndpoints.entries, entry.2.sRegInfo.szRegUser = entry.1

/-- No new calls, and none goes to another platform. -/
def Shrinks (before after : State) : Prop := ∀ call ∈ after.served, call ∈ before.served

/-- As long as the endpoint mutex is held nobody else touches the endpoints. -/
def Settles (held : Set Mutex) (before after : State) : Prop :=
  Shrinks before after ∧ (.sipEndpoint ∈ held → after.mapSipEndpoints = before.mapSipEndpoints)

/-- The threads of the server that use `CCallManager`. -/
inductive ServerThread where
  | event | timer
  deriving DecidableEq

/-- Only the event thread makes calls, and only under the endpoint mutex; both threads
touch the endpoints only under it. -/
def discipline : Discipline Mutex State ServerThread where
  invariant name state := name = .sipEndpoint → state.Registered
  guarantee thread held before after :=
    (.sipEndpoint ∈ held → thread = .timer → Shrinks before after) ∧
      (.sipEndpoint ∉ held →
        Shrinks before after ∧ after.mapSipEndpoints = before.mapSipEndpoints)
  keeps := by
    rintro thread held name before after ⟨_, calm⟩ unheld registered rfl
    obtain ⟨shrinks, same⟩ := calm unheld
    obtain ⟨known, named⟩ := registered rfl
    refine ⟨?_, by rwa [same]⟩
    intro call member
    rw [same]
    exact known call (shrinks call member)

def jobs (env : Environment) : ServerThread → Thread Unit → Prop
  | .event, job => ∃ event outcome, job = handleEvent env outcome event
  | .timer, job => ∃ i64CurTime, job = doMonitorSipEndpoint env.iMonitorKeepalive i64CurTime

variable {thread : ServerThread} {held : Set Mutex} {state before after later : State}
  {name : Mutex} {Value Result : Type}

theorem Shrinks.trans (first : Shrinks before after) (second : Shrinks after later) :
    Shrinks before later :=
  fun id member => first id (second id member)

theorem Settles.refl : Settles held state state := ⟨fun _ member => member, fun _ => rfl⟩

theorem Settles.trans (first : Settles held before after) (second : Settles held after later) :
    Settles held before later :=
  ⟨first.1.trans second.1, fun inside => (second.2 inside).trans (first.2 inside)⟩

theorem State.Registered.settles (registered : before.Registered) (inside : .sipEndpoint ∈ held)
    (settles : Settles held before after) : after.Registered := by
  have same := settles.2 inside
  refine ⟨?_, by rw [same]; exact registered.named⟩
  intro call member
  rw [same]
  exact registered.registered call (settles.1 call member)

/-- The threads for which the others only drop calls: the event thread at any time, the
timer thread while it holds the endpoint mutex. -/
def Guarded (thread : ServerThread) (held : Set Mutex) : Prop :=
  thread = .event ∨ .sipEndpoint ∈ held

theorem settles_of_rely (guarded : Guarded thread held)
    (rely : discipline.Rely thread held before after) : Settles held before after := by
  refine rely.covered (fun _ => Settles.refl) (fun _ _ _ => Settles.trans) ?_
  rintro other theirs before after different disjoint ⟨inside, outside⟩
  by_cases theirsToo : Mutex.sipEndpoint ∈ theirs
  · have unheld : Mutex.sipEndpoint ∉ held := fun mine =>
      Set.disjoint_left.mp disjoint mine theirsToo
    have timer : other = .timer := by
      rcases guarded with rfl | mine
      · cases other
        · exact absurd rfl different
        · rfl
      · exact absurd mine unheld
    exact ⟨inside theirsToo timer, fun mine => absurd mine unheld⟩
  · exact ⟨(outside theirsToo).1, fun _ => (outside theirsToo).2⟩

/-- From the extra locks `first` to the extra locks `last`, the program only drops calls. -/
def Quiet (first : Set Mutex) (program : Thread Value) (last : Set Mutex) : Prop :=
  ∀ (thread : ServerThread) (held : Set Mutex) (state : State)
    (post : Value → Set Mutex → State → Prop), Guarded thread held →
    .callContext ∉ held → .playbackCaller ∉ held →
    (∀ value after, Settles held state after → post value (held ∪ last) after) →
    discipline.Safe thread post program (held ∪ first) state

/-- A change of the state that makes no calls and leaves the endpoints alone. -/
def Calm (update : State → State) : Prop :=
  ∀ state, Shrinks state (update state) ∧
    (update state).mapSipEndpoints = state.mapSipEndpoints

variable {first middle last : Set Mutex}

theorem Quiet.bind {program : Thread Value} {next : Value → Thread Result}
    (quiet : Quiet first program middle) (rest : ∀ value, Quiet middle (next value) last) :
    Quiet first (program >>= next) last := by
  intro thread held state post guarded noContext noPlayback done
  refine Discipline.Safe.bind (quiet thread held state _ guarded noContext noPlayback ?_)
  intro value after settles
  refine rest value thread held after post guarded noContext noPlayback ?_
  intro result later further
  exact done result later (settles.trans further)

private theorem guarded_union (guarded : Guarded thread held) : Guarded thread (held ∪ first) :=
  guarded.imp id (fun inside => .inl inside)

theorem settles_held (guarded : Guarded thread held)
    (rely : discipline.Rely thread (held ∪ first) before after) : Settles held before after := by
  obtain ⟨shrinks, same⟩ := settles_of_rely (guarded_union guarded) rely
  exact ⟨shrinks, fun inside => same (.inl inside)⟩

theorem Quiet.done (value : Value) : Quiet first (.done value) first := by
  intro thread held state post guarded _ _ done later rely
  exact done value later (settles_held guarded rely)

theorem Quiet.read (look : State → Value) : Quiet first (Prog.read look) first := by
  intro thread held state post guarded noContext noPlayback done later rely
  have settles := settles_held guarded rely
  refine ⟨⟨fun _ _ _ member => member, fun _ => ⟨fun _ member => member, rfl⟩⟩, ?_⟩
  intro last further
  exact done _ last (settles.trans (settles_held guarded further))

theorem Quiet.write {update : State → State} (calm : Calm update) :
    Quiet first (Prog.write update) first := by
  intro thread held state post guarded noContext noPlayback done later rely
  have settles := settles_held guarded rely
  obtain ⟨shrinks, same⟩ := calm later
  refine ⟨⟨fun _ _ => shrinks, fun _ => ⟨shrinks, same⟩⟩, ?_⟩
  intro last further
  exact done _ last ((settles.trans ⟨shrinks, fun _ => same⟩).trans (settles_held guarded further))

theorem not_held_of_other {held : Set Mutex} (other : name ≠ .sipEndpoint)
    (noContext : Mutex.callContext ∉ held) (noPlayback : Mutex.playbackCaller ∉ held) :
    name ∉ held := by
  cases name with
  | sipEndpoint => exact absurd rfl other
  | callContext => exact noContext
  | playbackCaller => exact noPlayback

theorem Quiet.lock (other : name ≠ .sipEndpoint) : Quiet ∅ (Prog.lock name) {name} := by
  intro thread held state post guarded noContext noPlayback done
  rw [Set.union_empty]
  have unheld := not_held_of_other other noContext noPlayback
  refine ⟨unheld, ?_⟩
  intro later rely _ last further
  rw [← Set.union_singleton] at further ⊢
  exact done () last ((settles_of_rely guarded rely).trans (settles_held guarded further))

theorem Quiet.unlock (other : name ≠ .sipEndpoint) : Quiet {name} (Prog.unlock name) ∅ := by
  intro thread held state post guarded noContext noPlayback done
  refine ⟨.inr rfl, ?_⟩
  intro later rely
  refine ⟨fun same => absurd same other, ?_⟩
  intro last further
  have unheld := not_held_of_other other noContext noPlayback
  have left : (held ∪ {name}) \ {name} = held := by
    rw [Set.union_sdiff_right, Set.sdiff_singleton_eq_self unheld]
  rw [left] at further ⊢
  have settled := (settles_held guarded rely).trans (settles_of_rely guarded further)
  simpa using done () last settled

private theorem calm_filter (condition : Pointer × CallContext → Bool) (sent : State → List Sent) :
    Calm (fun state => { state with
      lsCallContext := state.lsCallContext.filter condition, sent := sent state }) := by
  intro state
  refine ⟨?_, rfl⟩
  intro call member
  obtain ⟨cell, kept, rfl⟩ := List.mem_map.mp member
  exact List.mem_map.mpr ⟨cell, List.mem_of_mem_filter kept, rfl⟩

/-- A change behind a pointer that keeps the id of the callee. -/
theorem calm_writeContext (pCtx : Pointer) {change : CallContext → CallContext}
    (keeps : ∀ context,
      (change context).sCallee.szSipEndpointId = context.sCallee.szSipEndpointId) :
    Calm (State.writeContext pCtx change) := by
  intro state
  refine ⟨?_, rfl⟩
  intro call member
  have same : (State.writeContext pCtx change state).served = state.served := by
    simp only [State.served, State.writeContext, List.map_map]
    refine List.map_congr_left ?_
    intro cell _
    simp only [Function.comp_apply]
    split
    · rw [keeps cell.2]
    · rfl
  rwa [same] at member

theorem quiet_send (output : Sent) : Quiet first (send output) first :=
  Quiet.write (fun _ => ⟨fun _ member => member, rfl⟩)

theorem quiet_removeCallContext (pCtx : Pointer) : Quiet ∅ (removeCallContext pCtx) ∅ := by
  refine .bind (.lock (by decide)) (fun _ => .bind (.write ?_) (fun _ => .unlock (by decide)))
  exact calm_filter (fun cell => cell.1 ≠ pCtx) State.sent

theorem quiet_updateCallerCallLeg (cid tid did : Int) :
    Quiet ∅ (updateCallerCallLeg cid tid did) ∅ := by
  refine .bind (.lock (by decide)) (fun _ => .bind (.read _) (fun found => ?_))
  cases found with
  | none => exact .bind (.done ()) (fun _ => .unlock (by decide))
  | some cell =>
    exact .bind (.write (calm_writeContext _ (fun _ => rfl))) (fun _ => .unlock (by decide))

theorem quiet_insertPlaybackCallerInfo (strDevId : Text) (callerInfo : PlaybackCallerInfo) :
    Quiet ∅ (insertPlaybackCallerInfo strDevId callerInfo) ∅ :=
  .bind (.lock (by decide)) (fun _ => .bind (.write (fun _ => ⟨fun _ member => member, rfl⟩))
    (fun _ => .unlock (by decide)))

theorem quiet_removePlaybackCallerInfo (strDevId : Text) :
    Quiet ∅ (removePlaybackCallerInfo strDevId) ∅ :=
  .bind (.lock (by decide)) (fun _ => .bind (.write (fun _ => ⟨fun _ member => member, rfl⟩))
    (fun _ => .unlock (by decide)))

theorem quiet_getPlaybackCallerInfo (strDevId : Text) :
    Quiet ∅ (getPlaybackCallerInfo strDevId) ∅ :=
  .bind (.lock (by decide)) (fun _ => .bind (.read _) (fun found =>
    .bind (.unlock (by decide)) (fun _ => .done found)))

variable (env : Environment) (outcome : Outcome) (event : Event)

theorem quiet_answer200OK : Quiet ∅ (sipServerHandleCallAnswer200OK outcome event) ∅ := by
  refine .bind (.lock (by decide)) (fun _ => .bind (.read _) (fun found => ?_))
  cases found with
  | none => exact .unlock (by decide)
  | some cell =>
    have answered : Quiet {.callContext}
        (sipUAAnswerInvite200OK outcome cell.2.sCaller.tid (getSdpInfo event.response))
        {.callContext} := by
      unfold sipUAAnswerInvite200OK
      split
      · exact .bind (quiet_send _) (fun _ => .done _)
      · split
        · exact .done _
        · exact .bind (quiet_send _) (fun _ => .done _)
    refine .bind answered (fun ret => ?_)
    dsimp only
    split
    · exact .bind (.write (calm_writeContext _ (fun _ => rfl))) (fun _ => .unlock (by decide))
    · exact .unlock (by decide)

theorem quiet_answerResponse : Quiet ∅ (sipServerHandleCallAnswerResponse event) ∅ := by
  refine .bind (.read _) (fun found => ?_)
  cases found with
  | none => exact .done ()
  | some cell => exact .bind (quiet_send _) (fun _ => quiet_removeCallContext _)

theorem quiet_ack : Quiet ∅ (sipServerHandleCallAck outcome event) ∅ := by
  refine .bind (.read _) (fun found => ?_)
  cases found with
  | none => exact .done ()
  | some cell =>
    change Quiet ∅ (sipUASendAck outcome cell.2.sCallee.did) ∅
    unfold sipUASendAck
    split
    · exact quiet_send _
    · exact .done ()

theorem quiet_bye : Quiet ∅ (sipServerHandleCallBye event) ∅ := by
  refine .bind (.lock (by decide)) (fun _ => .bind (.read _) (fun found => ?_))
  cases found with
  | none => exact .unlock (by decide)
  | some cell =>
    exact .bind (quiet_send _) (fun _ => .bind (quiet_send _) (fun _ =>
      .bind (.unlock (by decide)) (fun _ => quiet_removeCallContext _)))

theorem quiet_reply200OK : Quiet first (sipUARegisterReply200OK outcome event) first := by
  unfold sipUARegisterReply200OK
  split
  · exact quiet_send _
  · exact .done ()

theorem quiet_reply401 : Quiet first (sipUARegisterReply401Unauthorized outcome event) first := by
  unfold sipUARegisterReply401Unauthorized
  split
  · exact quiet_send _
  · exact .done ()

theorem quiet_queryRecords (sdpInfo : SdpInfo) (subject : SubjectInfo) (sHdrFrom : FromHeader)
    (platform : SipEndpointInfo) :
    Quiet ∅ (queryRecords env outcome sdpInfo subject sHdrFrom platform event) ∅ :=
  .bind (.read _) (fun _ => .bind (quiet_insertPlaybackCallerInfo _ _) (fun _ =>
    .bind (quiet_send _) (fun _ => .write (fun _ => ⟨fun _ member => member, rfl⟩))))

private theorem settles_insert (guarded : Guarded thread held)
    (rely : discipline.Rely thread (insert name held) before after) : Settles held before after := by
  rw [← Set.union_singleton] at rely
  exact settles_held guarded rely

/-- Under the mutex the calls are registered, and the event thread sees no new ones. -/
theorem safe_lockEndpoint {post : Unit → Set Mutex → State → Prop} (free : .sipEndpoint ∉ held)
    (done : ∀ after, after.Registered → (thread = .event → Shrinks state after) →
      post () (insert .sipEndpoint held) after) :
    discipline.Safe thread post (Prog.lock .sipEndpoint) held state := by
  refine ⟨free, ?_⟩
  intro middle rely registered after further
  have inside : Mutex.sipEndpoint ∈ insert Mutex.sipEndpoint held := .inl rfl
  have settles := settles_of_rely (.inr inside) further
  refine done after ((registered rfl).settles inside settles) ?_
  intro event
  exact (settles_of_rely (.inl event) rely).1.trans settles.1

theorem safe_unlockEndpoint {post : Unit → Set Mutex → State → Prop}
    (inside : .sipEndpoint ∈ held) (registered : state.Registered)
    (done : ∀ after, post () (held \ {.sipEndpoint}) after) :
    discipline.Safe thread post (Prog.unlock .sipEndpoint) held state :=
  ⟨inside, fun _ rely => ⟨fun _ => registered.settles inside (settles_of_rely (.inr inside) rely),
    fun after _ => done after⟩⟩

theorem safe_read {post : Value → Set Mutex → State → Prop} {look : State → Value}
    (guarded : Guarded thread held)
    (done : ∀ seen, Settles held state seen → ∀ after, Settles held seen after →
      post (look seen) held after) :
    discipline.Safe thread post (Prog.read look) held state := by
  intro seen rely
  refine ⟨⟨fun _ _ _ member => member, fun _ => ⟨fun _ member => member, rfl⟩⟩, ?_⟩
  intro after further
  exact done seen (settles_of_rely guarded rely) after (settles_of_rely guarded further)

theorem safe_write {post : Unit → Set Mutex → State → Prop} {update : State → State}
    (inside : .sipEndpoint ∈ held) (timer : thread = .timer → ∀ state, Shrinks state (update state))
    (done : ∀ seen, Settles held state seen → ∀ after, Settles held (update seen) after →
      post () held after) :
    discipline.Safe thread post (Prog.write update) held state := by
  intro seen rely
  refine ⟨⟨fun _ isTimer => timer isTimer seen, fun unheld => absurd inside unheld⟩, ?_⟩
  intro after further
  exact done seen (settles_of_rely (.inr inside) rely) after (settles_of_rely (.inr inside) further)

theorem safe_calm {post : Unit → Set Mutex → State → Prop} {update : State → State}
    (calm : Calm update) (guarded : Guarded thread held)
    (done : ∀ after, Settles held state after → post () held after) :
    discipline.Safe thread post (Prog.write update) held state := by
  intro seen rely
  obtain ⟨shrinks, same⟩ := calm seen
  refine ⟨⟨fun _ _ => shrinks, fun _ => ⟨shrinks, same⟩⟩, ?_⟩
  intro after further
  have settles := settles_of_rely guarded rely
  exact done after ((settles.trans ⟨shrinks, fun _ => same⟩).trans (settles_of_rely guarded further))

/-- Behind `removeCallContextBySipId` the endpoint serves no call. -/
theorem safe_removeCallContextBySipId {strSipId : Text} {post : Unit → Set Mutex → State → Prop}
    (guarded : Guarded thread held) (noContext : .callContext ∉ held)
    (done : ∀ after, Settles held state after → (∀ call ∈ after.served, call.2 ≠ strSipId) →
      post () held after) :
    discipline.Safe thread post (removeCallContextBySipId strSipId) held state := by
  refine ⟨noContext, ?_⟩
  intro locked rely _ seen further
  have calm := calm_filter (fun cell => !cell.2.serves strSipId) (fun state => state.sent ++
    (state.lsCallContext.filter (fun cell => cell.2.serves strSipId)).flatMap
      (fun cell => hangUp cell.2)) seen
  refine ⟨⟨fun _ _ => calm.1, fun _ => calm⟩, ?_⟩
  change discipline.Safe thread post (Prog.unlock .callContext) _ _
  refine ⟨.inl rfl, ?_⟩
  intro removed third
  refine ⟨fun same => absurd same (by decide), ?_⟩
  intro after fourth
  have left : insert Mutex.callContext held \ {Mutex.callContext} = held := by
    rw [← Set.union_singleton, Set.union_sdiff_right, Set.sdiff_singleton_eq_self noContext]
  rw [left] at fourth ⊢
  have emptied : Settles held (State.removeBySipId strSipId seen) after :=
    (settles_insert guarded third).trans (settles_of_rely guarded fourth)
  have before : Settles held state (State.removeBySipId strSipId seen) :=
    ((settles_of_rely guarded rely).trans (settles_insert guarded further)).trans
      ⟨calm.1, fun _ => calm.2⟩
  refine done after (before.trans emptied) ?_
  intro call member serves
  obtain ⟨cell, kept, rfl⟩ := List.mem_map.mp (emptied.1 call member)
  have apart := (List.mem_filter.mp kept).2
  simp [CallContext.serves] at apart
  exact apart.2 serves

end Gb28181.SipServer
