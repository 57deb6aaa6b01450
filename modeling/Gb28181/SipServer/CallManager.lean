import Gb28181.Lib.LockProgram
import Gb28181.Lib.OrderedMap
import Gb28181.SipUA.Events
import Mathlib.Data.List.Lex
import Mathlib.Data.Char

/-! `CCallManager`: the registered endpoints, the calls and the playback INVITEs that wait
for a record list. Each function is a program of the thread that calls it. -/

namespace Gb28181.SipServer

open Gb28181.Lib Gb28181.SipUA

def sipEndpointDevicecloud : Text := "device_cloud_media".toList

def sipEndpointGbPlatform : Text := "gb28181_platform".toList

structure CallInfo where
  tid : Int
  did : Int
  cid : Int
  sVideoMediaInfo : MediaInfo
  sAudioMediaInfo : MediaInfo
  szSipEndpointId : Text
  deriving DecidableEq

structure CallContext where
  sCaller : CallInfo
  sCallee : CallInfo
  deriving DecidableEq

def CallInfo.zero : CallInfo := ⟨0, 0, 0, .zero, .zero, []⟩

structure PlaybackCallerInfo where
  tid : Int
  did : Int
  cid : Int
  sdpInfo : SdpInfo
  subject : SubjectInfo
  sHdrFrom : FromHeader
  i64InviteTime : Int
  deriving DecidableEq

structure SipDeviceInfo where
  devName : Text
  devId : Text
  deriving DecidableEq

/-- One item of a catalog: the JSON object of its fields. -/
abbrev Device := OrderedMap Text Text

structure SipEndpointInfo where
  sRegInfo : RegisterInfo
  strType : Text
  i64RegisterTime : Int
  i64KeepaliveTime : Int
  jsonCatalog : List Device
  mapSipDeviceInfo : OrderedMap Text SipDeviceInfo
  deriving DecidableEq

/-- What the server hands to the SIP stack. -/
inductive Sent where
  | answerCall (tid status : Int) (body : Option Text)
  | terminateCall (cid did : Int)
  | sendAck (did : Int)
  | initInvite (destId destIP : Text) (destPort : Int) (subject body : Text)
  | initMessage (destId destIP : Text) (destPort : Int) (body : Text)
  | answerMessage (tid status : Int)
  | registerReply (tid status : Int)
  | createStreamPullerLocal (destId : Text)
  deriving DecidableEq

/-- The mutexes of `CCallManager`. -/
inductive Mutex where
  | sipEndpoint | callContext | playbackCaller
  deriving DecidableEq

/-- The address of a call context. -/
abbrev Pointer := Nat

/-- The members of `CCallManager`, the request number and what was sent so far.
Contexts stand with their addresses; the next one goes to `freshPointer`. -/
structure State where
  mapSipEndpoints : OrderedMap Text SipEndpointInfo
  lsCallContext : List (Pointer × CallContext)
  freshPointer : Pointer
  mapPlaybackCallerInfo : OrderedMap Text PlaybackCallerInfo
  ulMsgReqSN : Nat
  sent : List Sent
  deriving DecidableEq

def State.initial : State := ⟨.empty, [], 0, .empty, 17430, []⟩

abbrev Thread (Value : Type) := Prog Mutex State Value

def State.send (output : Sent) (state : State) : State :=
  { state with sent := state.sent ++ [output] }

def send (output : Sent) : Thread Unit := Prog.write (State.send output)

/-- A new context behind the others, zero but for its call ids. -/
def State.addContext (iCallerCid iCalleeCid : Int) (state : State) : State :=
  { state with
    freshPointer := state.freshPointer + 1
    lsCallContext := state.lsCallContext ++ [(state.freshPointer,
      ⟨{ CallInfo.zero with cid := iCallerCid }, { CallInfo.zero with cid := iCalleeCid }⟩)] }

def newCallContext (iCallerCid iCalleeCid : Int) : Thread Pointer := do
  Prog.lock .callContext
  let pCallCtx ← Prog.readWrite State.freshPointer (State.addContext iCallerCid iCalleeCid)
  Prog.unlock .callContext
  return pCallCtx

/-- What is behind a pointer changed; nothing where the context is gone. -/
def State.writeContext (pCtx : Pointer) (change : CallContext → CallContext) (state : State) : State :=
  { state with lsCallContext := state.lsCallContext.map (fun cell =>
      if cell.1 = pCtx then (cell.1, change cell.2) else cell) }

def State.removeContext (pCtx : Pointer) (state : State) : State :=
  { state with lsCallContext := state.lsCallContext.filter (fun cell => cell.1 ≠ pCtx) }

def removeCallContext (pCtx : Pointer) : Thread Unit := do
  Prog.lock .callContext
  Prog.write (State.removeContext pCtx)
  Prog.unlock .callContext

inductive LegType where
  | caller | callee
  deriving DecidableEq

def CallContext.leg (context : CallContext) : LegType → CallInfo
  | .caller => context.sCaller
  | .callee => context.sCallee

/-- `getCallContextByCallLeg`: the first context with the call id on that leg. -/
def State.getCallContextByCallLeg (cid : Int) (type : LegType) (state : State) :
    Option (Pointer × CallContext) :=
  state.lsCallContext.find? (fun cell => cid = (cell.2.leg type).cid)

/-- `getCallContext`: the first context with the call id on either leg. -/
def State.getCallContext (cid : Int) (state : State) : Option (Pointer × CallContext) :=
  state.lsCallContext.find? (fun cell => cid = cell.2.sCaller.cid || cid = cell.2.sCallee.cid)

def updateCallerCallLeg (cid tid did : Int) : Thread Unit := do
  Prog.lock .callContext
  let pCtx ← Prog.read (State.getCallContextByCallLeg cid .caller)
  match pCtx with
  | some (pCtx, _) =>
    Prog.write (State.writeContext pCtx fun context =>
      { context with sCaller := { context.sCaller with tid := tid, did := did } })
  | none => pure ()
  Prog.unlock .callContext

def hangUp (context : CallContext) : List Sent :=
  [.terminateCall context.sCaller.cid context.sCaller.did,
    .terminateCall context.sCallee.cid context.sCallee.did]

def CallContext.serves (strSipId : Text) (context : CallContext) : Bool :=
  context.sCaller.szSipEndpointId = strSipId || context.sCallee.szSipEndpointId = strSipId

/-- The loop of `removeCallContextBySipId`: every call of the endpoint is hung up on both
legs and dropped. -/
def State.removeBySipId (strSipId : Text) (state : State) : State :=
  { state with
    lsCallContext := state.lsCallContext.filter (fun cell => !cell.2.serves strSipId)
    sent := state.sent ++
      (state.lsCallContext.filter (fun cell => cell.2.serves strSipId)).flatMap
        (fun cell => hangUp cell.2) }

def removeCallContextBySipId (strSipId : Text) : Thread Unit := do
  Prog.lock .callContext
  Prog.write (State.removeBySipId strSipId)
  Prog.unlock .callContext

/-- `removeAllSipDevice`. -/
def SipEndpointInfo.removeAllSipDevice (endpoint : SipEndpointInfo) : SipEndpointInfo :=
  { endpoint with jsonCatalog := [], mapSipDeviceInfo := .empty }

def SipEndpointInfo.isExistSipDevice (strSipDevId : Text) (endpoint : SipEndpointInfo) : Bool :=
  (endpoint.mapSipDeviceInfo.find strSipDevId).isSome

/-- `appendSipDevice`: every item goes to the catalog, an item with a new `DeviceID` also to
the devices. Where an item has none, the message about it is printed with an argument missing, and
what is said of the server after that supposes that the print returns. -/
def SipEndpointInfo.appendSipDevice (endpoint : SipEndpointInfo) (jsonDevice : Device) :
    SipEndpointInfo :=
  let listed := { endpoint with jsonCatalog := endpoint.jsonCatalog ++ [jsonDevice] }
  match jsonDevice.find "DeviceID".toList with
  | some strId =>
    if listed.isExistSipDevice strId then listed
    else
      let devInfo := ⟨(jsonDevice.find "Name".toList).getD [], strId⟩
      { listed with mapSipDeviceInfo := listed.mapSipDeviceInfo.insert strId devInfo }
  | none => listed

def State.modifyEndpoint (strSipId : Text) (change : SipEndpointInfo → SipEndpointInfo)
    (state : State) : State :=
  { state with mapSipEndpoints := state.mapSipEndpoints.modify strSipId change }

/-- The registration data, type and times of a REGISTER. -/
def SipEndpointInfo.refresh (pRegInfo : RegisterInfo) (strType : Text) (i64CurTime : Int)
    (endpoint : SipEndpointInfo) : SipEndpointInfo :=
  { endpoint with
    sRegInfo := pRegInfo
    strType := strType
    i64KeepaliveTime := i64CurTime
    i64RegisterTime := i64CurTime }

/-- `insertEndpoint`, which returns whether the catalog is to be queried. The caller holds
the endpoint mutex. -/
def insertEndpoint (pRegInfo : RegisterInfo) (strType : Text) (i64CurTime : Int) : Thread Int := do
  let strSipId := pRegInfo.szRegUser
  let iter ← Prog.read (fun state => state.mapSipEndpoints.find strSipId)
  match iter with
  | some pExistEndpoint =>
    let ret ←
      if pRegInfo.szCallId = pExistEndpoint.sRegInfo.szCallId then pure 0
      else do
        removeCallContextBySipId strSipId
        Prog.write (State.modifyEndpoint strSipId SipEndpointInfo.removeAllSipDevice)
        pure 1
    Prog.write (State.modifyEndpoint strSipId
      (SipEndpointInfo.refresh pRegInfo strType i64CurTime))
    return ret
  | none =>
    Prog.write fun state => { state with
      mapSipEndpoints := state.mapSipEndpoints.insert strSipId
        ⟨pRegInfo, strType, i64CurTime, i64CurTime, [], .empty⟩ }
    return 1

def State.eraseEndpoint (strSipId : Text) (state : State) : State :=
  { state with mapSipEndpoints := state.mapSipEndpoints.erase strSipId }

def removeEndpoint (strSipId : Text) : Thread Int := do
  Prog.lock .sipEndpoint
  let iter ← Prog.read (fun state => state.mapSipEndpoints.find strSipId)
  match iter with
  | none =>
    Prog.unlock .sipEndpoint
    return -1
  | some _ =>
    Prog.write (State.eraseEndpoint strSipId)
    Prog.unlock .sipEndpoint
    return 0

/-- `queryGb28181PlatformInfo`: the first platform, in the order of their ids, that has the
device. -/
def State.queryGb28181PlatformInfo (strDevId : Text) (state : State) : Option SipEndpointInfo :=
  (state.mapSipEndpoints.entries.find? (fun entry =>
    entry.2.isExistSipDevice strDevId && entry.2.strType = sipEndpointGbPlatform)).map Prod.snd

def updateSipEndpointKeepalive (strSipId : Text) (i64CurTime : Int) : Thread Int := do
  Prog.lock .sipEndpoint
  let iter ← Prog.read (fun state => state.mapSipEndpoints.find strSipId)
  match iter with
  | none =>
    Prog.unlock .sipEndpoint
    return -1
  | some _ =>
    Prog.write (State.modifyEndpoint strSipId fun endpoint =>
      { endpoint with i64KeepaliveTime := i64CurTime })
    Prog.unlock .sipEndpoint
    return 0

/-- A product of two values of type `int`. -/
def intProduct (left right : Int) : Int := (left * right).bmod (2 ^ 32)

/-- `bNeedDelEndpoint`: no keepalive, or no registration, for too long. -/
def needDelEndpoint (iMonitorKeepalive i64CurTime : Int) (endpoint : SipEndpointInfo) : Bool :=
  i64CurTime - endpoint.i64KeepaliveTime ≥ intProduct iMonitorKeepalive 1000 ||
    i64CurTime - endpoint.i64RegisterTime ≥ intProduct endpoint.sRegInfo.expires 1000

/-- The loop of `checkSipEndpointHeartbeat`; the mutex keeps the map as the loop found it
but for what the loop erases behind itself. -/
def heartbeatLoop (iMonitorKeepalive i64CurTime : Int) : List (Text × SipEndpointInfo) → Thread Unit
  | [] => pure ()
  | (strSipId, pEndpointInfo) :: rest => do
    if needDelEndpoint iMonitorKeepalive i64CurTime pEndpointInfo then
      removeCallContextBySipId strSipId
      Prog.write (State.eraseEndpoint strSipId)
    heartbeatLoop iMonitorKeepalive i64CurTime rest

def checkSipEndpointHeartbeat (iMonitorKeepalive i64CurTime : Int) : Thread Unit := do
  Prog.lock .sipEndpoint
  let entries ← Prog.read (fun state => state.mapSipEndpoints.entries)
  heartbeatLoop iMonitorKeepalive i64CurTime entries
  Prog.unlock .sipEndpoint

/-- A playback INVITE that has waited too long. -/
def playbackTimeout (i64CurTime : Int) (pCallerInfo : PlaybackCallerInfo) : Bool :=
  i64CurTime - pCallerInfo.i64InviteTime ≥ 30 * 1000

/-- The loop of `checkPlaybackCallerInfo`. -/
def State.dropTimedOut (i64CurTime : Int) (state : State) : State :=
  { state with mapPlaybackCallerInfo :=
      state.mapPlaybackCallerInfo.keep (fun entry => !playbackTimeout i64CurTime entry.2) }

def checkPlaybackCallerInfo (i64CurTime : Int) : Thread Unit := do
  Prog.lock .playbackCaller
  Prog.write (State.dropTimedOut i64CurTime)
  Prog.unlock .playbackCaller

/-- The timer thread. -/
def doMonitorSipEndpoint (iMonitorKeepalive i64CurTime : Int) : Thread Unit := do
  checkSipEndpointHeartbeat iMonitorKeepalive i64CurTime
  checkPlaybackCallerInfo i64CurTime

/-- `insertPlaybackCallerInfo`: nothing where an INVITE for the device waits already. -/
def insertPlaybackCallerInfo (strDevId : Text) (callerInfo : PlaybackCallerInfo) : Thread Unit := do
  Prog.lock .playbackCaller
  Prog.write fun state => { state with
    mapPlaybackCallerInfo := state.mapPlaybackCallerInfo.insert strDevId callerInfo }
  Prog.unlock .playbackCaller

def removePlaybackCallerInfo (strDevId : Text) : Thread Unit := do
  Prog.lock .playbackCaller
  Prog.write fun state => { state with
    mapPlaybackCallerInfo := state.mapPlaybackCallerInfo.erase strDevId }
  Prog.unlock .playbackCaller

def getPlaybackCallerInfo (strDevId : Text) : Thread (Option PlaybackCallerInfo) := do
  Prog.lock .playbackCaller
  let iter ← Prog.read (fun state => state.mapPlaybackCallerInfo.find strDevId)
  Prog.unlock .playbackCaller
  return iter

end Gb28181.SipServer
