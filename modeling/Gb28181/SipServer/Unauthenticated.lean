import Gb28181.SipServer.Registrations
import Gb28181.SipServer.Reregistration

namespace Gb28181.SipServer

open Gb28181.Lib Gb28181.SipUA

variable {env : Environment} {outcome : Outcome} {event : Event} {state : State}
  {regInfo : RegisterInfo} {strType strSipId : Text} {i64CurTime : Int}

/-- The user of the request is registered under another call id. -/
def State.Renews (regInfo : RegisterInfo) (state : State) : Prop :=
  ∃ endpoint, state.mapSipEndpoints.find regInfo.szRegUser = some endpoint ∧
    regInfo.szCallId ≠ endpoint.sRegInfo.szCallId

instance : Decidable (state.Renews regInfo) :=
  match found : state.mapSipEndpoints.find regInfo.szRegUser with
  | none => .isFalse (fun ⟨_, there, _⟩ => nomatch found.symm.trans there)
  | some endpoint =>
    decidable_of_iff (regInfo.szCallId ≠ endpoint.sRegInfo.szCallId)
      ⟨fun apart => ⟨endpoint, found, apart⟩, fun ⟨_, there, apart⟩ =>
        Option.some.inj (found.symm.trans there) ▸ apart⟩

theorem renews_congr {after : State} (same : after.mapSipEndpoints = state.mapSipEndpoints) :
    after.Renews regInfo ↔ state.Renews regInfo := by
  unfold State.Renews
  rw [same]

def State.callsOf (strSipId : Text) (state : State) : List (Pointer × CallContext) :=
  state.lsCallContext.filter (fun cell => cell.2.serves strSipId)

/-- The insertion leaves the entries of all other endpoints, and hangs up the calls of its
user where it registers anew. -/
theorem run_insertEndpoint :
    (∀ other, other ≠ regInfo.szRegUser →
      ((insertEndpoint regInfo strType i64CurTime).run state).2.mapSipEndpoints.find other =
        state.mapSipEndpoints.find other) ∧
    ((insertEndpoint regInfo strType i64CurTime).run state).2.lsCallContext =
      if state.Renews regInfo then
        state.lsCallContext.filter (fun cell => !cell.2.serves regInfo.szRegUser)
      else state.lsCallContext := by
  cases found : state.mapSipEndpoints.find regInfo.szRegUser with
  | none =>
    have fresh : ¬ state.Renews regInfo := by
      rintro ⟨_, there, _⟩
      rw [found] at there
      contradiction
    rw [insertEndpoint_new found, if_neg fresh]
    refine ⟨fun other apart => ?_, rfl⟩
    rw [OrderedMap.find_insert found, if_neg apart]
  | some endpoint =>
    by_cases same : regInfo.szCallId = endpoint.sRegInfo.szCallId
    · have fresh : ¬ state.Renews regInfo := by
        rintro ⟨_, there, apart⟩
        exact apart (Option.some.inj (found.symm.trans there) ▸ same)
      rw [insertEndpoint_again found same, if_neg fresh]
      exact ⟨fun other apart => find_modifyEndpoint_other apart, rfl⟩
    · have renews : state.Renews regInfo := ⟨endpoint, found, same⟩
      rw [insertEndpoint_anew found same, if_pos renews]
      refine ⟨fun other apart => ?_, rfl⟩
      rw [find_modifyEndpoint_other apart, find_modifyEndpoint_other apart]
      rfl

/-- A reply to a REGISTER touches neither endpoints nor calls. -/
theorem run_reply200OK :
    ((sipUARegisterReply200OK outcome event).run state).2.mapSipEndpoints = state.mapSipEndpoints ∧
    ((sipUARegisterReply200OK outcome event).run state).2.lsCallContext = state.lsCallContext := by
  unfold sipUARegisterReply200OK
  split <;> exact ⟨rfl, rfl⟩

theorem run_reply401 :
    ((sipUARegisterReply401Unauthorized outcome event).run state).2.mapSipEndpoints =
      state.mapSipEndpoints ∧
    ((sipUARegisterReply401Unauthorized outcome event).run state).2.lsCallContext =
      state.lsCallContext := by
  unfold sipUARegisterReply401Unauthorized
  split <;> exact ⟨rfl, rfl⟩

theorem unauthenticated_bodiless (unauthenticated : regInfo.ucAuthorFlag = 0)
    (bodiless : ¬ (sipUAGetRequestBodyContent event 4096).1 > 0) :
    ((handleRegisterInfo outcome event regInfo).run state).2.mapSipEndpoints =
      state.mapSipEndpoints ∧
    ((handleRegisterInfo outcome event regInfo).run state).2.lsCallContext =
      state.lsCallContext := by
  unfold handleRegisterInfo
  rw [if_neg bodiless, if_pos unauthenticated]
  exact run_reply401

/-- A REGISTER with a body registers its user as a device cloud. -/
theorem unauthenticated_body (body : (sipUAGetRequestBodyContent event 4096).1 > 0) :
    (∀ other, other ≠ regInfo.szRegUser →
      ((handleRegisterInfo outcome event regInfo).run state).2.mapSipEndpoints.find other =
        state.mapSipEndpoints.find other) ∧
    ((handleRegisterInfo outcome event regInfo).run state).2.lsCallContext =
      if state.Renews regInfo then
        state.lsCallContext.filter (fun cell => !cell.2.serves regInfo.szRegUser)
      else state.lsCallContext := by
  obtain ⟨endpoints, calls⟩ := @run_reply200OK outcome event state
  unfold handleRegisterInfo registerEndpoint
  rw [if_pos body]
  simp only [Prog.run_bind, Prog.run_lock, Prog.run_unlock, Prog.pure_eq, Prog.run_done]
  generalize ((sipUARegisterReply200OK outcome event).run state).2 = replied at endpoints calls ⊢
  obtain ⟨others, left⟩ := @run_insertEndpoint replied regInfo sipEndpointDevicecloud
    outcome.i64CurTime
  rw [left, calls, if_congr (renews_congr endpoints) rfl rfl]
  exact ⟨fun other apart => (others other apart).trans (congrArg (·.find other) endpoints), rfl⟩

/-- Calls that the user of the request has no part in survive its new registration. -/
theorem callsOf_filter {cells : List (Pointer × CallContext)} {szRegUser : Text}
    (apart : ∀ cell ∈ state.callsOf strSipId, ¬ cell.2.serves szRegUser)
    (left : cells = state.lsCallContext.filter (fun cell => !cell.2.serves szRegUser)) :
    cells.filter (fun cell => cell.2.serves strSipId) = state.callsOf strSipId := by
  rw [left, List.filter_filter]
  apply List.filter_congr
  intro cell member
  by_cases serves : cell.2.serves strSipId
  · have other := apart cell (List.mem_filter.mpr ⟨member, serves⟩)
    simp [serves, other]
  · simp [serves]

/-- A REGISTER without an Authorization header that the server can read changes no
registration but that of its own user, and no calls but those of a user that it registers
anew; without a body it changes none at all. -/
theorem unauthenticated_register (env : Environment) (outcome : Outcome) (event : Event)
    (state : State) (regInfo : RegisterInfo) (register : threadEventLoop event = some .registerNew)
    (read : sipUAGetRegisterInfo event = some regInfo)
    (unauthenticated : regInfo.ucAuthorFlag = 0) (strSipId : Text) :
    ((sipUAGetRequestBodyContent event 4096).1 ≤ 0 ∨ strSipId ≠ regInfo.szRegUser →
      (state.handle env (.event event outcome)).mapSipEndpoints.find strSipId =
        state.mapSipEndpoints.find strSipId) ∧
    ((sipUAGetRequestBodyContent event 4096).1 ≤ 0 ∨ ¬ state.Renews regInfo ∨
        (∀ cell ∈ state.callsOf strSipId, ¬ cell.2.serves regInfo.szRegUser) →
      (state.handle env (.event event outcome)).callsOf strSipId = state.callsOf strSipId) := by
  have handled : state.handle env (.event event outcome) =
      ((handleRegisterInfo outcome event regInfo).run state).2 := by
    simp only [State.handle, Input.job, handleEvent, register, sipServerEventCB,
      sipServerHandleRegisterNew, read]
  rw [handled]
  by_cases body : (sipUAGetRequestBodyContent event 4096).1 > 0
  · obtain ⟨others, calls⟩ := @unauthenticated_body outcome event state regInfo body
    have bodily : ¬ (sipUAGetRequestBodyContent event 4096).1 ≤ 0 := not_le.mpr body
    constructor
    · intro condition
      exact others strSipId (condition.resolve_left bodily)
    · intro condition
      unfold State.callsOf
      by_cases renews : state.Renews regInfo
      · rw [if_pos renews] at calls
        cases condition.resolve_left bodily with
        | inl fresh => exact absurd renews fresh
        | inr apart => exact callsOf_filter apart calls
      · rw [calls, if_neg renews]
  · obtain ⟨endpoints, calls⟩ := @unauthenticated_bodiless outcome event state regInfo
      unauthenticated body
    constructor
    · intro _
      rw [endpoints]
    · intro _
      unfold State.callsOf
      rw [calls]

def cloudRegister (user : String) : Event :=
  { type := .messageNew, tid := 6, did := 0, cid := 0, response := none
    request := some { plainRequest with
      sipMethod := "REGISTER".toList
      contact := some (some ⟨some user.toList, some "10.0.0.9".toList, some "5060".toList⟩)
      expires := some (some "3600".toList)
      body := some "cloud".toList } }

def cloudInfo (user : String) : RegisterInfo :=
  { RegisterInfo.zero with
    szRegUser := user.toList
    szContactIP := "10.0.0.9".toList
    iContactPort := 5060
    expires := 3600 }

theorem unauthenticated_register_stranger :
    threadEventLoop (cloudRegister "C") = some .registerNew ∧
    sipUAGetRegisterInfo (cloudRegister "C") = some (cloudInfo "C") ∧
    ((State.handleAll sampleEnvironment .initial playInputs).handle sampleEnvironment
        (.event (cloudRegister "C") (answering 2000 0))).mapSipEndpoints.find "P".toList =
      (State.handleAll sampleEnvironment .initial playInputs).mapSipEndpoints.find "P".toList ∧
    ((State.handleAll sampleEnvironment .initial playInputs).handle sampleEnvironment
        (.event (cloudRegister "C") (answering 2000 0))).callsOf "P".toList =
      (State.handleAll sampleEnvironment .initial playInputs).callsOf "P".toList := by
  have arrives : threadEventLoop (cloudRegister "C") = some .registerNew ∧
      sipUAGetRegisterInfo (cloudRegister "C") = some (cloudInfo "C") ∧
      "P".toList ≠ (cloudInfo "C").szRegUser := by decide +kernel
  obtain ⟨register, read, stranger⟩ := arrives
  have fresh : ¬ (State.handleAll sampleEnvironment .initial playInputs).Renews
      (cloudInfo "C") := by
    rw [handleAll_playInputs]
    decide +kernel
  have left := unauthenticated_register sampleEnvironment (answering 2000 0) (cloudRegister "C")
    (State.handleAll sampleEnvironment .initial playInputs) (cloudInfo "C") register read rfl
    "P".toList
  exact ⟨register, read, left.1 (.inr stranger), left.2 (.inr (.inl fresh))⟩

/-- A REGISTER with a body takes the entry of the platform it names, unauthenticated. -/
theorem cloud_takes_platform : ¬ ∀ (inputs : List Input) (event : Event) (outcome : Outcome)
    (regInfo : RegisterInfo), threadEventLoop event = some .registerNew →
    sipUAGetRegisterInfo event = some regInfo → regInfo.ucAuthorFlag = 0 → ∀ strSipId endpoint,
      (State.handleAll sampleEnvironment .initial inputs).mapSipEndpoints.find strSipId =
        some endpoint →
      endpoint.strType = sipEndpointGbPlatform →
      ((State.handleAll sampleEnvironment .initial inputs).handle sampleEnvironment
        (.event event outcome)).mapSipEndpoints.find strSipId = some endpoint ∧
      ((State.handleAll sampleEnvironment .initial inputs).handle sampleEnvironment
        (.event event outcome)).callsOf strSipId =
          (State.handleAll sampleEnvironment .initial inputs).callsOf strSipId := by
  intro untouched
  have platform : ∃ endpoint,
      (State.handleAll sampleEnvironment .initial playInputs).mapSipEndpoints.find "P".toList =
        some endpoint ∧ endpoint.strType = sipEndpointGbPlatform ∧
      ((State.handleAll sampleEnvironment .initial playInputs).handle sampleEnvironment
        (.event (cloudRegister "P") (answering 2000 0))).mapSipEndpoints.find "P".toList ≠
          some endpoint := by
    rw [handleAll_playInputs]
    refine ⟨((registeredState.handle sampleEnvironment
      (.event (deviceInvite 3 4 "Play") (answering 1000 5))).mapSipEndpoints.find
      "P".toList).get (by decide +kernel), ?_⟩
    decide +kernel
  obtain ⟨endpoint, found, type, changed⟩ := platform
  have arrives : threadEventLoop (cloudRegister "P") = some .registerNew ∧
      sipUAGetRegisterInfo (cloudRegister "P") = some (cloudInfo "P") := by decide +kernel
  exact changed (untouched playInputs (cloudRegister "P") (answering 2000 0) (cloudInfo "P")
    arrives.1 arrives.2 rfl "P".toList endpoint found type).1

end Gb28181.SipServer
