import Gb28181.SipServer.Registrations
import Gb28181.SipServer.Reregistration

namespace Gb28181.SipServer

open Gb28181.Lib Gb28181.SipUA

variable (outcome : Outcome) (event : Event) (state after : State)

/-- The request has a body that is read. -/
def HasBody : Prop := (sipUAGetRequestBodyContent event 4096).1 > 0

/-- A reply 200 can be built: the request has an Expires header. -/
def Answerable : Prop :=
  (event.request.bind SipMessage.expires).isSome ∧ outcome.buildAnswer = 0

/-- The replies 200 to the request so far. -/
def State.replies : Nat := state.sent.count (.registerReply event.tid 200)

/-- The entry of the user is another one only after a reply 200, and after that reply the user
is registered unless it logged out. -/
def RegInfoAgrees (regInfo : RegisterInfo) : Prop :=
  let own (state : State) := state.mapSipEndpoints.find regInfo.szRegUser
  if state.replies event < after.replies event then (own after).isSome ↔ regInfo.expires ≠ 0
  else own after = own state

/-- The request can be read, and reply and registry agree on it; the server does not survive
one that cannot. -/
def RegistryAgrees : Prop :=
  ∃ regInfo ∈ sipUAGetRegisterInfo event, RegInfoAgrees event state after regInfo

/-- The user is registered just as the request would register it. -/
def Unchanging (regInfo : RegisterInfo) (strType : Text) : Prop :=
  ∃ endpoint, state.mapSipEndpoints.find regInfo.szRegUser = some endpoint ∧
    endpoint.refresh regInfo strType outcome.i64CurTime = endpoint

/-- A request with a body is taken as a registration whatever its Expires header says; and no
request waits for its reply. -/
def RegInfoAgreesWhen (regInfo : RegisterInfo) : Prop :=
  (HasBody event →
    (Answerable outcome event → regInfo.expires ≠ 0) ∧
    (¬ Answerable outcome event → Unchanging outcome state regInfo sipEndpointDevicecloud)) ∧
  (¬ HasBody event → regInfo.ucAuthorFlag ≠ 0 → ¬ Answerable outcome event →
    if regInfo.expires = 0 then state.mapSipEndpoints.find regInfo.szRegUser = none
    else Unchanging outcome state regInfo sipEndpointGbPlatform)

def AgreesWhen : Prop :=
  ∃ regInfo ∈ sipUAGetRegisterInfo event, RegInfoAgreesWhen outcome event state regInfo

variable {outcome : Outcome} {event : Event} {state after : State}
  {regInfo pRegInfo : RegisterInfo}
  {strType : Text} {i64CurTime : Int}

theorem replies_append {outputs : List Sent} (none : .registerReply event.tid 200 ∉ outputs)
    (sent : after.sent = state.sent ++ outputs) : after.replies event = state.replies event := by
  rw [State.replies, State.replies, sent, List.count_append, List.count_eq_zero.mpr none]
  rfl

theorem reply_not_mem_hangUps {cells : List (Pointer × CallContext)} {tid status : Int} :
    Sent.registerReply tid status ∉ cells.flatMap (fun cell => hangUp cell.2) := by
  intro member
  obtain ⟨cell, -, within⟩ := List.mem_flatMap.mp member
  simp [hangUp] at within

theorem run_reply200 : ((sipUARegisterReply200OK outcome event).run state).2.mapSipEndpoints =
      state.mapSipEndpoints ∧
    (Answerable outcome event →
      ((sipUARegisterReply200OK outcome event).run state).2.replies event =
        state.replies event + 1) ∧
    (¬ Answerable outcome event →
      ((sipUARegisterReply200OK outcome event).run state).2.replies event =
        state.replies event) := by
  unfold sipUARegisterReply200OK Answerable
  split
  · rename_i answerable
    refine ⟨rfl, fun _ => ?_, fun unanswered => absurd answerable unanswered⟩
    change (state.sent ++ [_]).count _ = state.sent.count _ + 1
    rw [List.count_append, List.count_singleton_self]
  · rename_i unanswered
    exact ⟨rfl, fun answerable => absurd answerable unanswered, fun _ => rfl⟩

/-- A registration sends no reply, and leaves its user registered. -/
theorem insertEndpoint_kept :
    (((insertEndpoint pRegInfo strType i64CurTime).run state).2.mapSipEndpoints.find
      pRegInfo.szRegUser).isSome ∧
    ((insertEndpoint pRegInfo strType i64CurTime).run state).2.replies event =
      state.replies event ∧
    (((insertEndpoint pRegInfo strType i64CurTime).run state).2.mapSipEndpoints.find
        pRegInfo.szRegUser = state.mapSipEndpoints.find pRegInfo.szRegUser ↔
      ∃ endpoint, state.mapSipEndpoints.find pRegInfo.szRegUser = some endpoint ∧
        endpoint.refresh pRegInfo strType i64CurTime = endpoint) := by
  cases found : state.mapSipEndpoints.find pRegInfo.szRegUser with
  | none =>
    rw [insertEndpoint_new found]
    dsimp only
    rw [OrderedMap.find_insert found, if_pos rfl]
    refine ⟨rfl, rfl, iff_of_false (Option.some_ne_none _) ?_⟩
    rintro ⟨_, there, _⟩
    contradiction
  | some endpoint =>
    by_cases same : pRegInfo.szCallId = endpoint.sRegInfo.szCallId
    · rw [insertEndpoint_again found same]
      dsimp only
      rw [find_modifyEndpoint_own, found]
      refine ⟨rfl, rfl, ?_⟩
      simp
    · rw [insertEndpoint_anew found same]
      dsimp only
      have own : (state.removeBySipId pRegInfo.szRegUser).mapSipEndpoints.find
          pRegInfo.szRegUser = some endpoint := found
      rw [find_modifyEndpoint_own, find_modifyEndpoint_own, own]
      refine ⟨rfl, replies_append reply_not_mem_hangUps rfl, iff_of_false ?_ ?_⟩
      · intro unchanged
        have callId := congrArg (fun entry : SipEndpointInfo => entry.sRegInfo.szCallId)
          (Option.some.inj unchanged)
        exact same callId
      · rintro ⟨_, there, unchanged⟩
        cases there
        exact same (congrArg (fun entry : SipEndpointInfo => entry.sRegInfo.szCallId) unchanged)

/-- A logout sends no reply, and leaves its user unregistered. -/
theorem logout_kept {strSipId : Text} :
    ((logout strSipId).run state).2.mapSipEndpoints.find strSipId = none ∧
    ((logout strSipId).run state).2.replies event = state.replies event := by
  have ended : (state.removeBySipId strSipId).replies event = state.replies event :=
    replies_append reply_not_mem_hangUps rfl
  cases found : state.mapSipEndpoints.find strSipId with
  | none =>
    have gone : (state.removeBySipId strSipId).mapSipEndpoints.find strSipId = none := found
    simp only [logout, removeCallContextBySipId, removeEndpoint, Prog.run_bind, Prog.run_lock,
      Prog.run_unlock, Prog.run_read, Prog.run_write, gone, Prog.pure_eq, Prog.run_done]
    exact ⟨trivial, ended⟩
  | some endpoint =>
    have there : (state.removeBySipId strSipId).mapSipEndpoints.find strSipId = some endpoint :=
      found
    simp only [logout, removeCallContextBySipId, removeEndpoint, Prog.run_bind, Prog.run_lock,
      Prog.run_unlock, Prog.run_read, Prog.run_write, there, Prog.pure_eq, Prog.run_done]
    refine ⟨?_, ended⟩
    rw [State.eraseEndpoint, OrderedMap.find_erase, if_pos rfl]

/-- What is left to show once the reply was sent, or was not. -/
theorem registryAgrees_replied {replied : State}
    (reply : ((sipUARegisterReply200OK outcome event).run state).2 = replied)
    (kept : after.replies event = replied.replies event) :
    RegInfoAgrees event state after regInfo ↔
      (Answerable outcome event →
        ((after.mapSipEndpoints.find regInfo.szRegUser).isSome ↔
          regInfo.expires ≠ 0)) ∧
      (¬ Answerable outcome event →
        after.mapSipEndpoints.find regInfo.szRegUser =
          replied.mapSipEndpoints.find regInfo.szRegUser) := by
  obtain ⟨endpoints, once, never⟩ := @run_reply200 outcome event state
  rw [reply] at endpoints once never
  unfold RegInfoAgrees
  by_cases answerable : Answerable outcome event
  · have more : state.replies event < after.replies event := by
      rw [kept, once answerable]
      exact Nat.lt_succ_self _
    rw [if_pos more]
    exact ⟨fun own => ⟨fun _ => own, fun unanswered => absurd answerable unanswered⟩,
      fun both => both.1 answerable⟩
  · have same : ¬ state.replies event < after.replies event := by
      rw [kept, never answerable]
      exact Nat.lt_irrefl _
    rw [if_neg same, endpoints]
    exact ⟨fun own => ⟨fun answered => absurd answered answerable, fun _ => own⟩,
      fun both => both.2 answerable⟩

section Branches

variable {replied : State}
  (reply : ((sipUARegisterReply200OK outcome event).run state).2 = replied)
include reply

theorem run_register_body (body : HasBody event) :
    ((handleRegisterInfo outcome event regInfo).run state).2 =
      ((insertEndpoint regInfo sipEndpointDevicecloud
        outcome.i64CurTime).run replied).2 := by
  have read : (sipUAGetRequestBodyContent event 4096).1 > 0 := body
  simp only [handleRegisterInfo, registerEndpoint, if_pos read, Prog.run_bind,
    Prog.run_lock, Prog.run_unlock, Prog.pure_eq, Prog.run_done, reply]

theorem run_register_logout (bodiless : ¬ HasBody event)
    (authorized : regInfo.ucAuthorFlag ≠ 0)
    (out : regInfo.expires = 0) :
    ((handleRegisterInfo outcome event regInfo).run state).2 =
      ((logout regInfo.szRegUser).run replied).2 := by
  have unread : ¬ (sipUAGetRequestBodyContent event 4096).1 > 0 := bodiless
  have returned : ((logout regInfo.szRegUser).run replied).1 = 0 := by
    simp only [logout, Prog.run_bind, Prog.pure_eq, Prog.run_done]
  have noUpdate : ¬ (0 : Int) = 1 := by decide
  simp only [handleRegisterInfo, if_neg unread, if_neg authorized, if_pos out,
    Prog.run_bind, reply, returned, if_neg noUpdate, Prog.pure_eq, Prog.run_done]

theorem run_register_platform (bodiless : ¬ HasBody event)
    (authorized : regInfo.ucAuthorFlag ≠ 0)
    (stays : regInfo.expires ≠ 0) :
    ∃ outputs, .registerReply event.tid 200 ∉ outputs ∧
      ((handleRegisterInfo outcome event regInfo).run state).2 =
        { ((insertEndpoint regInfo sipEndpointGbPlatform
            outcome.i64CurTime).run replied).2 with
          sent := ((insertEndpoint regInfo sipEndpointGbPlatform
            outcome.i64CurTime).run replied).2.sent ++ outputs } := by
  have unread : ¬ (sipUAGetRequestBodyContent event 4096).1 > 0 := bodiless
  simp only [handleRegisterInfo, registerEndpoint, if_neg unread, if_neg authorized,
    if_neg stays, Prog.run_bind, Prog.run_lock, Prog.run_unlock, Prog.pure_eq, Prog.run_done, reply]
  by_cases update : ((insertEndpoint regInfo sipEndpointGbPlatform
      outcome.i64CurTime).run replied).1 = 1
  · rw [if_pos update]
    refine ⟨[_], ?_, rfl⟩
    simp
  · rw [if_neg update]
    refine ⟨[], List.not_mem_nil, ?_⟩
    rw [List.append_nil]
    rfl

end Branches

theorem register_refused (bodiless : ¬ HasBody event)
    (unauthorized : regInfo.ucAuthorFlag = 0) :
    RegInfoAgrees event state ((handleRegisterInfo outcome event regInfo).run state).2 regInfo := by
  have unread : ¬ (sipUAGetRequestBodyContent event 4096).1 > 0 := bodiless
  unfold handleRegisterInfo sipUARegisterReply401Unauthorized
  rw [if_neg unread, if_pos unauthorized]
  split
  · have kept : (state.send (.registerReply event.tid 401)).replies event = state.replies event :=
      replies_append (by simp) rfl
    have same : ¬ state.replies event < (state.send (.registerReply event.tid 401)).replies event := by
      rw [kept]
      exact Nat.lt_irrefl _
    exact (if_neg same).mpr rfl
  · exact (if_neg (Nat.lt_irrefl _)).mpr rfl

theorem regInfo_agrees_iff :
    RegInfoAgrees event state ((handleRegisterInfo outcome event regInfo).run state).2 regInfo ↔
      RegInfoAgreesWhen outcome event state regInfo := by
  have endpoints := (@run_reply200 outcome event state).1
  generalize reply : ((sipUARegisterReply200OK outcome event).run state).2 = replied at endpoints
  have unchanging (strType : Text) : Unchanging outcome replied regInfo strType ↔
      Unchanging outcome state regInfo strType := by
    unfold Unchanging
    rw [endpoints]
  unfold RegInfoAgreesWhen
  by_cases body : HasBody event
  · obtain ⟨there, kept, same⟩ := @insertEndpoint_kept event replied regInfo
      sipEndpointDevicecloud outcome.i64CurTime
    rw [run_register_body reply body, registryAgrees_replied reply kept, same, ← unchanging]
    simp only [there, body, true_iff, forall_const, not_true_eq_false, false_imp_iff, and_true]
    exact Iff.rfl
  · by_cases unauthorized : regInfo.ucAuthorFlag = 0
    · refine iff_of_true (register_refused body unauthorized) ⟨fun read => absurd read body, ?_⟩
      exact fun _ authorized => absurd unauthorized authorized
    · by_cases out : regInfo.expires = 0
      · obtain ⟨gone, kept⟩ := @logout_kept event replied regInfo.szRegUser
        rw [run_register_logout reply body unauthorized out, registryAgrees_replied reply kept, gone,
          endpoints]
        simp [body, unauthorized, out, eq_comm]
      · obtain ⟨there, kept, same⟩ := @insertEndpoint_kept event replied
          regInfo sipEndpointGbPlatform outcome.i64CurTime
        obtain ⟨outputs, none, run⟩ := run_register_platform reply body unauthorized out
        rw [run, registryAgrees_replied reply ((replies_append none rfl).trans kept), same]
        simp only [there, body, unauthorized, out, ← unchanging, ne_eq, not_false_eq_true,
          false_imp_iff, true_and, true_imp_iff, implies_true, if_false]
        exact Iff.rfl

/-- Registry and reply agree exactly on the requests that meet the condition. -/
theorem registry_agrees_iff (outcome : Outcome) (event : Event) (state : State) :
    RegistryAgrees event state ((sipServerHandleRegisterNew outcome event).run state).2 ↔
      AgreesWhen outcome event state := by
  unfold RegistryAgrees AgreesWhen sipServerHandleRegisterNew
  refine exists_congr (fun regInfo => and_congr_right (fun read => ?_))
  have read : sipUAGetRegisterInfo event = some regInfo := read
  rw [read]
  exact regInfo_agrees_iff

def silentRegister : Event :=
  { platformRegister with
    request := some { plainRequest with
      sipMethod := "REGISTER".toList
      contact := some (some ⟨some "P".toList, some "10.0.0.2".toList, some "5060".toList⟩)
      authorization := some ⟨none, none, none, none, none⟩ } }

def cloudLogout : Event :=
  { platformRegister with
    request := some { plainRequest with
      sipMethod := "REGISTER".toList
      contact := some (some ⟨some "C".toList, some "10.0.0.9".toList, some "5060".toList⟩)
      expires := some (some "0".toList)
      body := some "cloud".toList } }

/-- The one is registered without a reply, the other after its logout was answered. -/
theorem registered_without_reply :
    (sipUAGetRegisterInfo silentRegister).isSome ∧ (sipUAGetRegisterInfo cloudLogout).isSome ∧
    ¬ RegistryAgrees silentRegister .initial
      ((sipServerHandleRegisterNew (answering 1000 0) silentRegister).run .initial).2 ∧
    ¬ RegistryAgrees cloudLogout .initial
      ((sipServerHandleRegisterNew (answering 1000 0) cloudLogout).run .initial).2 := by
  unfold RegistryAgrees RegInfoAgrees
  decide +kernel

end Gb28181.SipServer
