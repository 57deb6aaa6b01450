import Gb28181.SipServer.CallManager

/-! What `insertEndpoint` does to the endpoints, the devices and the calls. -/

namespace Gb28181.SipServer

open Gb28181.Lib Gb28181.SipUA

/-- An endpoint as it is first registered. -/
def SipEndpointInfo.registered (pRegInfo : RegisterInfo) (strType : Text) (i64CurTime : Int) :
    SipEndpointInfo :=
  ⟨pRegInfo, strType, i64CurTime, i64CurTime, [], .empty⟩

variable {pRegInfo : RegisterInfo} {strType : Text} {i64CurTime : Int} {state : State}
  {endpoint : SipEndpointInfo}

theorem insertEndpoint_new (absent : state.mapSipEndpoints.find pRegInfo.szRegUser = none) :
    (insertEndpoint pRegInfo strType i64CurTime).run state =
      (1, { state with
        mapSipEndpoints := state.mapSipEndpoints.insert pRegInfo.szRegUser
          (.registered pRegInfo strType i64CurTime) }) := by
  simp only [insertEndpoint, Prog.run_bind, Prog.run_read, absent, Prog.run_write, Prog.pure_eq,
    Prog.run_done, SipEndpointInfo.registered]

theorem insertEndpoint_again
    (found : state.mapSipEndpoints.find pRegInfo.szRegUser = some endpoint)
    (same : pRegInfo.szCallId = endpoint.sRegInfo.szCallId) :
    (insertEndpoint pRegInfo strType i64CurTime).run state =
      (0, state.modifyEndpoint pRegInfo.szRegUser (.refresh pRegInfo strType i64CurTime)) := by
  simp only [insertEndpoint, Prog.run_bind, Prog.run_read, found, if_pos same, Prog.run_write,
    Prog.pure_eq, Prog.run_done]

/-- Another Call-ID ends the calls and empties the devices before. -/
theorem insertEndpoint_anew
    (found : state.mapSipEndpoints.find pRegInfo.szRegUser = some endpoint)
    (other : pRegInfo.szCallId ≠ endpoint.sRegInfo.szCallId) :
    (insertEndpoint pRegInfo strType i64CurTime).run state =
      (1, (((state.removeBySipId pRegInfo.szRegUser).modifyEndpoint pRegInfo.szRegUser
        SipEndpointInfo.removeAllSipDevice).modifyEndpoint pRegInfo.szRegUser
          (.refresh pRegInfo strType i64CurTime))) := by
  simp only [insertEndpoint, Prog.run_bind, Prog.run_read, found, if_neg other, Prog.run_write,
    Prog.pure_eq, Prog.run_done, removeCallContextBySipId, Prog.run_lock, Prog.run_unlock]

theorem find_modifyEndpoint_own {strSipId : Text} {change : SipEndpointInfo → SipEndpointInfo} :
    (state.modifyEndpoint strSipId change).mapSipEndpoints.find strSipId =
      (state.mapSipEndpoints.find strSipId).map change := by
  rw [State.modifyEndpoint, OrderedMap.find_modify, if_pos rfl]

theorem find_modifyEndpoint_other {strSipId other : Text}
    {change : SipEndpointInfo → SipEndpointInfo} (apart : other ≠ strSipId) :
    (state.modifyEndpoint strSipId change).mapSipEndpoints.find other =
      state.mapSipEndpoints.find other := by
  rw [State.modifyEndpoint, OrderedMap.find_modify, if_neg apart]

/-- Whatever else the server knows is as before. -/
structure OthersKept (szRegUser : Text) (state after : State) : Prop where
  endpoints : ∀ other, other ≠ szRegUser →
    after.mapSipEndpoints.find other = state.mapSipEndpoints.find other
  freshPointer : after.freshPointer = state.freshPointer
  mapPlaybackCallerInfo : after.mapPlaybackCallerInfo = state.mapPlaybackCallerInfo
  ulMsgReqSN : after.ulMsgReqSN = state.ulMsgReqSN

/-- No call is ended, and nothing is sent. -/
def CallsKept (state after : State) : Prop :=
  after.lsCallContext = state.lsCallContext ∧ after.sent = state.sent

/-- The user is the caller or the callee. -/
def CallContext.Of (szRegUser : Text) (context : CallContext) : Prop :=
  context.sCaller.szSipEndpointId = szRegUser ∨ context.sCallee.szSipEndpointId = szRegUser

instance (szRegUser : Text) (context : CallContext) : Decidable (context.Of szRegUser) :=
  inferInstanceAs (Decidable (_ ∨ _))

/-- The calls of the user are gone, and each of them was ended on both legs, one time each. -/
def CallsEnded (szRegUser : Text) (state after : State) : Prop :=
  after.lsCallContext = state.lsCallContext.filter (fun cell => ¬ cell.2.Of szRegUser) ∧
  after.sent = state.sent ++
    (state.lsCallContext.filter (fun cell => cell.2.Of szRegUser)).flatMap fun cell =>
      [.terminateCall cell.2.sCaller.cid cell.2.sCaller.did,
        .terminateCall cell.2.sCallee.cid cell.2.sCallee.did]

/-- The registration data, the type and the times of an entry. -/
structure SipEndpointInfo.RegisteredBy (pRegInfo : RegisterInfo) (strType : Text)
    (i64CurTime : Int) (entry : SipEndpointInfo) : Prop where
  sRegInfo : entry.sRegInfo = pRegInfo
  strType : entry.strType = strType
  i64RegisterTime : entry.i64RegisterTime = i64CurTime
  i64KeepaliveTime : entry.i64KeepaliveTime = i64CurTime

/-- Neither a device nor an item of the catalog. -/
def SipEndpointInfo.Deviceless (entry : SipEndpointInfo) : Prop :=
  entry.mapSipDeviceInfo.entries = [] ∧ entry.jsonCatalog = []

/-- What the server has of a user after a registration, next to what it had. -/
def Reregisters (pRegInfo : RegisterInfo) (state after : State) (ret : Int)
    (entry : SipEndpointInfo) : Option SipEndpointInfo → Prop
  | none => ret = 1 ∧ entry.Deviceless ∧ CallsKept state after
  | some endpoint =>
    if pRegInfo.szCallId = endpoint.sRegInfo.szCallId then
      ret = 0 ∧ entry.mapSipDeviceInfo = endpoint.mapSipDeviceInfo ∧
        entry.jsonCatalog = endpoint.jsonCatalog ∧ CallsKept state after
    else ret = 1 ∧ entry.Deviceless ∧ CallsEnded pRegInfo.szRegUser state after

theorem callsEnded_removeBySipId (szRegUser : Text) (state : State) :
    CallsEnded szRegUser state (state.removeBySipId szRegUser) := by
  have same (cell : Pointer × CallContext) :
      cell.2.serves szRegUser = decide (cell.2.Of szRegUser) := by
    unfold CallContext.serves CallContext.Of
    exact (Bool.decide_or _ _).symm
  unfold CallsEnded State.removeBySipId
  simp only [same, decide_not, true_and]
  rfl

/-- What a registration does, for a new user, for the same Call-ID and for another one. -/
theorem insertEndpoint_effect (pRegInfo : RegisterInfo) (strType : Text) (i64CurTime : Int)
    (state : State) :
    let (ret, after) := (insertEndpoint pRegInfo strType i64CurTime).run state
    OthersKept pRegInfo.szRegUser state after ∧
      ∃ entry, after.mapSipEndpoints.find pRegInfo.szRegUser = some entry ∧
        entry.RegisteredBy pRegInfo strType i64CurTime ∧
        Reregisters pRegInfo state after ret entry
          (state.mapSipEndpoints.find pRegInfo.szRegUser) := by
  cases found : state.mapSipEndpoints.find pRegInfo.szRegUser with
  | none =>
    rw [insertEndpoint_new found]
    refine ⟨⟨?_, rfl, rfl, rfl⟩, .registered pRegInfo strType i64CurTime, ?_,
      ⟨rfl, rfl, rfl, rfl⟩, rfl, ⟨rfl, rfl⟩, rfl, rfl⟩
    · intro other apart
      rw [OrderedMap.find_insert found, if_neg apart]
    · rw [OrderedMap.find_insert found, if_pos rfl]
  | some endpoint =>
    by_cases same : pRegInfo.szCallId = endpoint.sRegInfo.szCallId
    · rw [insertEndpoint_again found same]
      refine ⟨⟨?_, rfl, rfl, rfl⟩, endpoint.refresh pRegInfo strType i64CurTime, ?_,
        ⟨rfl, rfl, rfl, rfl⟩, (if_pos same).mpr ⟨rfl, rfl, rfl, rfl, rfl⟩⟩
      · intro other apart
        exact find_modifyEndpoint_other apart
      · rw [find_modifyEndpoint_own, found]
        rfl
    · rw [insertEndpoint_anew found same]
      refine ⟨⟨?_, rfl, rfl, rfl⟩, endpoint.removeAllSipDevice.refresh pRegInfo strType i64CurTime,
        ?_, ⟨rfl, rfl, rfl, rfl⟩,
        (if_neg same).mpr ⟨rfl, ⟨rfl, rfl⟩, callsEnded_removeBySipId _ _⟩⟩
      · intro other apart
        rw [find_modifyEndpoint_other apart, find_modifyEndpoint_other apart]
        rfl
      · rw [find_modifyEndpoint_own, find_modifyEndpoint_own]
        exact congrArg (fun entry : Option SipEndpointInfo =>
          (entry.map SipEndpointInfo.removeAllSipDevice).map
            (SipEndpointInfo.refresh pRegInfo strType i64CurTime)) found

/-- The registration of `P` from Call-ID `id`. -/
def registrationOf (id : String) : RegisterInfo :=
  { RegisterInfo.zero with
    szRegUser := "P".toList
    szCallId := id.toList
    expires := 3600 }

/-- `P` with a device, a call of `P` and a call of others. -/
def callsOfP : State :=
  { State.initial with
    mapSipEndpoints := OrderedMap.empty.insert "P".toList
      ⟨registrationOf "1", sipEndpointGbPlatform, 5, 5, [OrderedMap.empty],
        OrderedMap.empty.insert "D".toList ⟨"camera".toList, "D".toList⟩⟩
    lsCallContext :=
      [(0, ⟨{ CallInfo.zero with cid := 3, did := 4, szSipEndpointId := "U".toList },
        { CallInfo.zero with cid := 5, did := 6, szSipEndpointId := "P".toList }⟩),
      (1, ⟨{ CallInfo.zero with cid := 7, szSipEndpointId := "U".toList },
        { CallInfo.zero with cid := 8, szSipEndpointId := "Q".toList }⟩)]
    freshPointer := 2 }

theorem insertEndpoint_effect_anew :
    let (ret, after) := (insertEndpoint (registrationOf "2") sipEndpointGbPlatform 9).run callsOfP
    ret = 1 ∧ after.lsCallContext.map Prod.fst = [1] ∧
      after.sent = [.terminateCall 3 4, .terminateCall 5 6] ∧
      ∃ entry, after.mapSipEndpoints.find "P".toList = some entry ∧ entry.Deviceless ∧
        entry.RegisteredBy (registrationOf "2") sipEndpointGbPlatform 9 := by
  obtain ⟨-, entry, there, registered, changed⟩ :=
    insertEndpoint_effect (registrationOf "2") sipEndpointGbPlatform 9 callsOfP
  have before : (callsOfP.mapSipEndpoints.find (registrationOf "2").szRegUser).map
      (·.sRegInfo.szCallId) = some "1".toList := by decide
  obtain ⟨endpoint, found, callId⟩ := Option.map_eq_some_iff.mp before
  rw [found] at changed
  have other : (registrationOf "2").szCallId ≠ endpoint.sRegInfo.szCallId := by
    rw [callId]
    decide
  obtain ⟨ret, deviceless, kept, sent⟩ := (if_neg other).mp changed
  refine ⟨ret, ?_, sent.trans (by decide), entry, there, deviceless, registered⟩
  exact (congrArg (List.map Prod.fst) kept).trans (by decide)

end Gb28181.SipServer
