import Gb28181.MediaGate.Ports
import Gb28181.MediaGate.Registration
import Gb28181.SipServer.Handlers

/-! `GB28181MediaGate.cpp`: the stream instances of the gate, and what it does with the events
of the SIP stack and the calls of the application. -/

namespace Gb28181.MediaGate

open Gb28181.Lib Gb28181.SipUA

/-- A handle of the gate: which of the objects made so far it points to. -/
abbrev HMG := Nat

/-- A `CGB28181StreamInstance`; the SSRC is that of a pusher. -/
structure StreamInstance where
  bAutoRelease : Bool
  cid : Int
  did : Int
  strStreamId : Text
  iLocalPort : Nat
  ulSSRC : Nat
  deriving DecidableEq

inductive Kind where
  | pusher | puller
  deriving DecidableEq, Repr

/-- An object in memory. What it held stays here after its deletion, where the program may
find anything. -/
structure Cell where
  object : StreamInstance
  kind : Kind
  /-- How often its resources were released. -/
  released : Nat
  /-- How often it was deleted. -/
  deleted : Nat
  /-- It was used after its deletion. -/
  stale : Bool
  deriving DecidableEq

namespace Cell

def new (kind : Kind) (object : StreamInstance) : Cell := ⟨object, kind, 0, 0, false⟩

/-- A method of the object reads or writes it. -/
def use (change : StreamInstance → StreamInstance) (cell : Cell) : Cell :=
  { cell with
    object := change cell.object
    stale := cell.stale || 0 < cell.deleted }

def release (cell : Cell) : Cell :=
  { cell.use id with released := cell.released + 1 }

def delete (cell : Cell) : Cell :=
  { cell.use id with deleted := cell.deleted + 1 }

end Cell

/-- `EMeidaGateMsg`. -/
inductive GateMsg where
  | unknown | callInit | callRelease
  deriving DecidableEq, Repr

/-- One call of the application's callback. -/
structure GateEvent where
  eMsg : GateMsg
  pszStreamId : Text
  pszDevAddr : Option Text
  hPusher : Option HMG
  deriving DecidableEq

/-- The globals of the gate. -/
structure Gate where
  settings : Settings
  iProxyEnable : Int
  /-- Whether `g_fnMediaGateEventCB` is set. -/
  fnMediaGateEventCB : Bool
  ports : Ports
  registration : Registration
  cells : List Cell
  mapGB28181StreamInstance : OrderedMap Int HMG
  sent : List Request
  callbacks : List GateEvent
  /-- The callback was called where there is none: the process is gone. -/
  calledNull : Bool

/-- What the application passes to `GB28181MediaGate_Init`. -/
structure InitArguments where
  settings : Settings
  iMediaStartPort : Int
  fnCB : Bool
  iProxyEnable : Int
  iProxyStreamPort : Int

/-- `GB28181MediaGate_Init`, where the SIP stack starts. -/
def init (arguments : InitArguments) : Gate where
  settings := arguments.settings
  iProxyEnable := arguments.iProxyEnable
  fnMediaGateEventCB := arguments.fnCB
  ports := .init arguments.iMediaStartPort arguments.iProxyStreamPort
  registration := .initial
  cells := []
  mapGB28181StreamInstance := .empty
  sent := []
  callbacks := []
  calledNull := false

/-- What the ports, the SIP stack and the application answer while one event is handled. -/
structure Outcome where
  i64CurTime : Int
  /-- Whether the local port of each try can be opened. -/
  opens : Nat → Bool
  /-- `rand()`. -/
  rand : Nat
  /-- What the callback returns. -/
  callback : Int
  /-- `eXosip_call_build_answer` and `eXosip_call_build_ack`. -/
  build : Int

namespace Gate

variable (outcome : Outcome)

def send (request : Request) (gate : Gate) : Gate := { gate with sent := gate.sent ++ [request] }

def call (event : GateEvent) (gate : Gate) : Gate :=
  if gate.fnMediaGateEventCB then { gate with callbacks := gate.callbacks ++ [event] }
  else { gate with calledNull := true }

def setCells (cells : List Cell) (gate : Gate) : Gate := { gate with cells := cells }

def useCell (hInst : HMG) (change : Cell → Cell) (gate : Gate) : Gate :=
  gate.setCells (gate.cells.modify hInst change)

def sipUAAnswerInvite200OK (tid : Int) (sdpInfo : SdpInfo) (gate : Gate) : Gate :=
  if outcome.build ≠ 0 then gate.send (.answer tid 400 none)
  else gate.send (.answer tid 200 (sdpInfo2BodyString sdpInfo))

def sipUASendAck (did : Int) (gate : Gate) : Gate :=
  if outcome.build = 0 then gate.send (.sendAck did) else gate

def getStreamInstance (cid : Int) (gate : Gate) : Option HMG :=
  gate.mapGB28181StreamInstance.find cid

def eraseStreamInstance (cid : Int) (gate : Gate) : Gate :=
  match gate.getStreamInstance cid with
  | none => gate
  | some pInst =>
    let gate := gate.useCell pInst Cell.release
    let gate := gate.useCell pInst Cell.delete
    { gate with mapGB28181StreamInstance := gate.mapGB28181StreamInstance.erase cid }

end Gate

/-- `mediaGateGetKeyValue`: what it returns, and the value. -/
def mediaGateGetKeyValue (pszInStr pszKey : Text) (iValMaxSize : Nat) : Int × Text :=
  match strstr pszInStr (pszKey ++ "=".toList) with
  | none => (-1, [])
  | some pKeyPos =>
    let value := (pszInStr.drop (pKeyPos + (pszKey.length + 1))).takeWhile
      (fun char => char ≠ '&' ∧ char ≠ '\r' ∧ char ≠ '\n')
    if value.length > iValMaxSize then (-1, value.take iValMaxSize)
    else (value.length, value)

def payloadTypePs : Int := 96

def payloadTypeMpeg4 : Int := 97

def payloadTypeH264 : Int := 98

def setDefaultSdp (pszSessionName pszSipId pszStreamIP : Text) (port : Int) (pszSSRC : Text) :
    SdpInfo :=
  { SdpInfo.zero with
    szVersion := "0".toList
    szOrigin := pszSipId ++ " 0 0 IN IP4 ".toList ++ pszStreamIP
    szSessionName := pszSessionName
    szConnection := "IN IP4 ".toList ++ pszStreamIP
    sVideoMediaInfo := { MediaInfo.zero with
      ucUseFlag := 1
      port := port
      szProto := "RTP/AVP".toList
      iAttrCount := 3
      sAttr := ((MediaInfo.zero.sAttr.set 0 ⟨payloadTypePs, "rtpmap:96 PS/90000".toList⟩).set 1
        ⟨payloadTypeMpeg4, "rtpmap:97 MPEG4/90000".toList⟩).set 2
          ⟨payloadTypeH264, "rtpmap:98 H264/90000".toList⟩ }
    szY := pszSSRC }

namespace Gate

variable (outcome : Outcome)

/-- `createStreamPusher`. An object for which no port could be opened holds nothing and is
deleted at once. -/
def createStreamPusher (cid : Int) (pszStreamId : Text) (gate : Gate) : Option HMG × Gate :=
  let (opened, ports) := gate.ports.pusherTries outcome.opens 3
  let gate := { gate with ports := ports }
  match opened with
  | none => (none, gate)
  | some iLocalPort =>
    let pPusher := Cell.new .pusher ⟨false, cid, 0, pszStreamId, iLocalPort,
      100000 + outcome.rand % 200000⟩
    (some gate.cells.length, gate.setCells (gate.cells ++ [pPusher]))

def mediaGateHandleCallInviteIncoming (event : Event) (sdpInfo : SdpInfo) (gate : Gate) : Gate :=
  if gate.fnMediaGateEventCB = false then gate
  else
    let (ret, szStreamId) := mediaGateGetKeyValue sdpInfo.szX "id".toList 256
    if ret ≤ 0 then gate
    else
      match gate.createStreamPusher outcome event.cid szStreamId with
      | (none, gate) => gate
      | (some pPusher, gate) =>
        let gate := gate.call ⟨.callInit, szStreamId, some sdpInfo.szX, some pPusher⟩
        if outcome.callback = 0 then
          let gate := { gate with
            mapGB28181StreamInstance := gate.mapGB28181StreamInstance.insert event.cid pPusher }
          let object := (gate.cells[pPusher]?.map Cell.object).getD ⟨false, 0, 0, [], 0, 0⟩
          let answerSdp := setDefaultSdp "Play".toList gate.settings.strLocalSipId
            gate.settings.strLocalMediaIP object.iLocalPort (decimal object.ulSSRC)
          let gate := gate.useCell pPusher (Cell.use fun object => { object with did := event.did })
          gate.sipUAAnswerInvite200OK outcome event.tid answerSdp
        else
          let gate := gate.useCell pPusher Cell.release
          gate.useCell pPusher Cell.delete

def mediaGateHandleCallBye (event : Event) (gate : Gate) : Gate :=
  if gate.fnMediaGateEventCB = false then gate
  else
    match gate.getStreamInstance event.cid with
    | none => gate
    | some pInst =>
      let strStreamId := (gate.cells[pInst]?.map (·.object.strStreamId)).getD []
      let gate := gate.useCell pInst (Cell.use fun object => { object with bAutoRelease := true })
      let gate := gate.eraseStreamInstance event.cid
      gate.call ⟨.callRelease, strStreamId, none, none⟩

/-- The branch of `GB28181EventCB` for a 200 OK. -/
def handleCallAnswer200OK (event : Event) (gate : Gate) : Gate :=
  let gate :=
    match gate.getStreamInstance event.cid with
    | some pInst => gate.useCell pInst (Cell.use fun object => { object with did := event.did })
    | none => gate
  gate.sipUASendAck outcome event.did

/-- The branch of `GB28181EventCB` for other answers. -/
def handleCallAnswerRsp (event : Event) (gate : Gate) : Gate :=
  match gate.getStreamInstance event.cid with
  | some pInst =>
    let strStreamId := (gate.cells[pInst]?.map (·.object.strStreamId)).getD []
    let gate := gate.useCell pInst (Cell.use id)
    gate.call ⟨.callRelease, strStreamId, none, none⟩
  | none => gate

def onTimer (input : TimerInput) (gate : Gate) : Gate :=
  let (registration, requests) := gate.registration.handle gate.settings input
  { gate with
    registration := registration
    sent := gate.sent ++ requests }

/-- `GB28181EventCB`. -/
def gb28181EventCB (msg : SipServer.UAMsg) (event : Event) (gate : Gate) : Gate :=
  match msg with
  | .registerSuccess => gate.onTimer (.registerSuccess outcome.i64CurTime)
  | .registerFailure => gate.onTimer .registerFailure
  | .callInviteIncoming =>
    gate.mediaGateHandleCallInviteIncoming outcome event (getSdpInfo event.request)
  | .callAnswer200OK => gate.handleCallAnswer200OK outcome event
  | .callAnswerRsp => gate.handleCallAnswerRsp event
  | .callBye => gate.mediaGateHandleCallBye event
  | .messageRequestfailure => gate.onTimer .messageFailure
  | _ => gate

def handleEvent (event : Event) (gate : Gate) : Gate :=
  match SipServer.threadEventLoop event with
  | some msg => gate.gb28181EventCB outcome msg event
  | none => gate

end Gate

/-- What the application asks for with `GB28181MediaGate_CreateStreamPuller`. -/
structure PullRequest where
  pszStreamId : Text
  pszDestId : Text
  pszDestIP : Text
  iDestPort : Int
  iPlaybackFlag : Int
  i64StartTime : Int
  i64StopTime : Int
  deriving DecidableEq

/-- The body of the INVITE of a puller. -/
def pullerBody (settings : Settings) (request : PullRequest) (iLocalPort : Int) : Text :=
  let media := "m=video ".toList ++ decimal iLocalPort ++
    " RTP/AVP 96 98 97\r\na=recvonly\r\na=rtpmap:96 PS/90000\r\na=rtpmap:97 MPEG4/90000\r\na=rtpmap:98 H264/90000\r\n".toList
  let origin := "v=0\r\no=".toList ++ settings.strLocalSipId ++ " 0 0 IN IP4 ".toList ++
    settings.strLocalMediaIP
  if request.iPlaybackFlag = 0 then
    origin ++ "\r\ns=Play\r\nc=IN IP4 ".toList ++ settings.strLocalMediaIP ++
      "\r\nt=0 0\r\n".toList ++ media
  else
    origin ++ "\r\ns=Playback\r\nu=".toList ++ request.pszDestId ++ ":0\r\nc=IN IP4 ".toList ++
      settings.strLocalMediaIP ++ "\r\nt=".toList ++ decimal request.i64StartTime ++ " ".toList ++
      decimal request.i64StopTime ++ "\r\n".toList ++ media

def pullerSubject (settings : Settings) (request : PullRequest) : Text :=
  request.pszDestId ++ ":0,".toList ++ settings.strLocalSipId ++ ":0".toList

namespace Gate

/-- `GB28181MediaGate_CreateStreamPuller`; `initInvite` is what `SipUA_InitInviteWidthBody`
returns. -/
def createStreamPuller (request : PullRequest) (opens : Nat → Bool) (initInvite : Int)
    (gate : Gate) : Option HMG × Gate :=
  let (opened, ports) := gate.ports.pullerTries opens 3
  let gate := { gate with ports := ports }
  match opened with
  | none => (none, gate)
  | some (mediaPort, proxyPort) =>
    let hPuller := gate.cells.length
    let pPuller := Cell.new .puller ⟨false, 0, 0, request.pszStreamId, mediaPort, 0⟩
    let gate := gate.setCells (gate.cells ++ [pPuller])
    let iLocalPort := if gate.iProxyEnable = 1 then proxyPort else mediaPort
    let gate := gate.send (.initInvite gate.settings.strLocalSipId request.pszDestId
      request.pszDestIP request.iDestPort (pullerSubject gate.settings request)
      (pullerBody gate.settings request iLocalPort))
    let cid := initInvite
    if cid ≤ 0 then (none, gate.useCell hPuller Cell.delete)
    else
      let gate := gate.useCell hPuller (Cell.use fun object => { object with cid := cid })
      (some hPuller, { gate with
        mapGB28181StreamInstance := gate.mapGB28181StreamInstance.insert cid hPuller })

/-- `GB28181MediaGate_DeleteStreamPuller`. -/
def deleteStreamPuller (hPuller : HMG) (gate : Gate) : Gate :=
  match gate.cells[hPuller]? with
  | none => gate
  | some pPuller =>
    let gate := gate.useCell hPuller (Cell.use id)
    if pPuller.object.bAutoRelease then gate
    else
      let gate := gate.send (.terminateCall pPuller.object.cid pPuller.object.did)
      gate.eraseStreamInstance pPuller.object.cid

end Gate

section Creation

variable {gate : Gate} {outcome : Outcome} {cid initInvite : Int} {pszStreamId : Text}
  {request : PullRequest} {opens : Nat → Bool} {iLocalPort mediaPort proxyPort : Nat}

def Cell.newPusher (outcome : Outcome) (cid : Int) (pszStreamId : Text) (iLocalPort : Nat) : Cell :=
  .new .pusher ⟨false, cid, 0, pszStreamId, iLocalPort, 100000 + outcome.rand % 200000⟩

def Cell.newPuller (request : PullRequest) (mediaPort : Nat) (cid : Int) : Cell :=
  .new .puller ⟨false, cid, 0, request.pszStreamId, mediaPort, 0⟩

def Gate.pullerInvite (gate : Gate) (request : PullRequest) (mediaPort proxyPort : Nat) : Request :=
  .initInvite gate.settings.strLocalSipId request.pszDestId request.pszDestIP request.iDestPort
    (pullerSubject gate.settings request)
    (pullerBody gate.settings request
      (if gate.iProxyEnable = 1 then proxyPort else mediaPort : Nat))

theorem modify_last (cells : List Cell) (cell : Cell) (change : Cell → Cell) :
    (cells ++ [cell]).modify cells.length change = cells ++ [change cell] := by
  exact List.modifyTailIdx_add (List.modifyHead change) 0 cells [cell]

theorem createStreamPusher_none
    (closed : (gate.ports.pusherTries outcome.opens 3).1 = none) :
    gate.createStreamPusher outcome cid pszStreamId =
      (none, { gate with ports := (gate.ports.pusherTries outcome.opens 3).2 }) := by
  unfold Gate.createStreamPusher
  dsimp only
  rw [closed]

theorem createStreamPusher_some
    (opened : (gate.ports.pusherTries outcome.opens 3).1 = some iLocalPort) :
    gate.createStreamPusher outcome cid pszStreamId =
      (some gate.cells.length, { gate with
        ports := (gate.ports.pusherTries outcome.opens 3).2
        cells := gate.cells ++ [.newPusher outcome cid pszStreamId iLocalPort] }) := by
  unfold Gate.createStreamPusher
  dsimp only
  rw [opened]
  rfl

theorem createStreamPuller_none (closed : (gate.ports.pullerTries opens 3).1 = none) :
    gate.createStreamPuller request opens initInvite =
      (none, { gate with ports := (gate.ports.pullerTries opens 3).2 }) := by
  unfold Gate.createStreamPuller
  dsimp only
  rw [closed]

theorem createStreamPuller_refused
    (opened : (gate.ports.pullerTries opens 3).1 = some (mediaPort, proxyPort))
    (refused : initInvite ≤ 0) :
    gate.createStreamPuller request opens initInvite =
      (none, { gate with
        ports := (gate.ports.pullerTries opens 3).2
        cells := gate.cells ++ [(Cell.newPuller request mediaPort 0).delete]
        sent := gate.sent ++ [gate.pullerInvite request mediaPort proxyPort] }) := by
  unfold Gate.createStreamPuller
  dsimp only
  rw [opened]
  dsimp only
  rw [if_pos refused]
  simp only [Gate.useCell, Gate.send, Gate.setCells, modify_last]
  rfl

theorem createStreamPuller_some
    (opened : (gate.ports.pullerTries opens 3).1 = some (mediaPort, proxyPort))
    (invited : 0 < initInvite) :
    gate.createStreamPuller request opens initInvite =
      (some gate.cells.length, { gate with
        ports := (gate.ports.pullerTries opens 3).2
        cells := gate.cells ++ [.newPuller request mediaPort initInvite]
        sent := gate.sent ++ [gate.pullerInvite request mediaPort proxyPort]
        mapGB28181StreamInstance :=
          gate.mapGB28181StreamInstance.insert initInvite gate.cells.length }) := by
  unfold Gate.createStreamPuller
  dsimp only
  rw [opened]
  dsimp only
  rw [if_neg (not_le.mpr invited)]
  simp only [Gate.useCell, Gate.send, Gate.setCells, modify_last]
  rfl

/-- A puller is created when a port could be opened and the INVITE was sent. -/
theorem createStreamPuller_eq_some {hPuller : HMG} {after : Gate}
    (created : gate.createStreamPuller request opens initInvite = (some hPuller, after)) :
    ∃ mediaPort proxyPort, (gate.ports.pullerTries opens 3).1 = some (mediaPort, proxyPort) ∧
      0 < initInvite := by
  cases opened : (gate.ports.pullerTries opens 3).1 with
  | none =>
    rw [createStreamPuller_none opened] at created
    cases created
  | some both =>
    refine ⟨both.1, both.2, rfl, ?_⟩
    by_contra refused
    rw [createStreamPuller_refused opened (not_lt.mp refused)] at created
    cases created

end Creation

/-- What happens at the gate: an event of the SIP stack, a tick, or a call of the
application. -/
inductive Input where
  | event (event : Event) (outcome : Outcome)
  | tick (i64CurTime : Int) (outcome : TickOutcome)
  | createStreamPuller (request : PullRequest) (opens : Nat → Bool) (initInvite : Int)
  | deleteStreamPuller (hPuller : HMG)

def Gate.next (gate : Gate) : Input → Gate
  | .event event outcome => gate.handleEvent outcome event
  | .tick i64CurTime outcome => gate.onTimer (.tick i64CurTime outcome)
  | .createStreamPuller request opens initInvite =>
    (gate.createStreamPuller request opens initInvite).2
  | .deleteStreamPuller hPuller => gate.deleteStreamPuller hPuller

def Input.brings : Input → Option Int
  | .event incoming _ =>
    if SipServer.threadEventLoop incoming = some .callInviteIncoming then some incoming.cid
    else none
  | .createStreamPuller _ _ initInvite => if 0 < initInvite then some initInvite else none
  | _ => none

/-- The calls of the tables are among those that began, and the map leads to objects. -/
structure Known (used : List Int) (gate : Gate) : Prop where
  cells : ∀ cell ∈ gate.cells, cell.object.cid = 0 ∨ cell.object.cid ∈ used
  keys : ∀ key hInst, gate.mapGB28181StreamInstance.find key = some hInst →
    key ∈ used ∧ hInst < gate.cells.length

theorem cells_call {gate : Gate} (gateEvent : GateEvent) :
    (gate.call gateEvent).cells = gate.cells := by
  unfold Gate.call
  split <;> rfl

namespace Known

variable {gate after : Gate} {used later : List Int} {cid initInvite : Int} {hInst : HMG}
  {change : Cell → Cell} {outcome : Outcome} {event : Event} {pNew : Cell}

theorem of_same (known : Known used gate) (cells : after.cells = gate.cells)
    (map : after.mapGB28181StreamInstance = gate.mapGB28181StreamInstance) : Known used after := by
  obtain ⟨inCells, inMap⟩ := known
  rw [← cells] at inCells inMap
  rw [← map] at inMap
  exact ⟨inCells, inMap⟩

theorem mono (known : Known used gate) (more : used ⊆ later) : Known later gate :=
  ⟨fun cell member => (known.cells cell member).imp_right (fun there => more there),
    fun key hInst found => (known.keys key hInst found).imp_left (fun there => more there)⟩

theorem useCell (known : Known used gate)
    (keeps : ∀ cell, (change cell).object.cid = cell.object.cid) :
    Known used (gate.useCell hInst change) := by
  refine ⟨?_, ?_⟩
  · intro cell member
    obtain ⟨index, found⟩ := List.mem_iff_getElem?.mp member
    rw [Gate.useCell, Gate.setCells, List.getElem?_modify] at found
    obtain ⟨old, there, rfl⟩ := Option.map_eq_some_iff.mp found
    split
    · rw [keeps]
      exact known.cells old (List.mem_of_getElem? there)
    · exact known.cells old (List.mem_of_getElem? there)
  · intro key other found
    rw [Gate.useCell, Gate.setCells, List.length_modify]
    exact known.keys key other found

theorem use (known : Known used gate) (hInst : HMG) (change : StreamInstance → StreamInstance)
    (keeps : ∀ object, (change object).cid = object.cid) :
    Known used (gate.useCell hInst (Cell.use change)) :=
  known.useCell (fun cell => keeps cell.object)

theorem release (known : Known used gate) (hInst : HMG) :
    Known used ((gate.useCell hInst Cell.release).useCell hInst Cell.delete) := by
  have released : Known used (gate.useCell hInst Cell.release) := known.useCell (fun _ => rfl)
  exact released.useCell (fun _ => rfl)

theorem append (known : Known used gate) (there : pNew.object.cid = 0 ∨ pNew.object.cid ∈ used) :
    Known used { gate with cells := gate.cells ++ [pNew] } := by
  refine ⟨?_, ?_⟩
  · intro cell member
    rcases List.mem_append.mp member with old | new
    · exact known.cells cell old
    · rw [List.mem_singleton.mp new]
      exact there
  · intro key hInst found
    rw [List.length_append]
    exact (known.keys key hInst found).imp_right (fun below => below.trans (Nat.lt_succ_self _))

theorem insert (known : Known used gate) (there : cid ∈ used) (below : hInst < gate.cells.length) :
    Known used { gate with
      mapGB28181StreamInstance := gate.mapGB28181StreamInstance.insert cid hInst } := by
  refine ⟨known.cells, ?_⟩
  intro key other found
  rcases OrderedMap.mem_of_mem_insert (OrderedMap.mem_of_find found) with new | old
  · cases new
    exact ⟨there, below⟩
  · exact known.keys key other (OrderedMap.find_eq_some.mpr old)

theorem erase (known : Known used gate) : Known used (gate.eraseStreamInstance cid) := by
  unfold Gate.eraseStreamInstance
  split
  · exact known
  · rename_i pInst _
    have deleted := known.release pInst
    refine ⟨deleted.cells, ?_⟩
    intro key other found
    rw [OrderedMap.find_erase] at found
    split at found
    · exact nomatch found
    · exact deleted.keys key other found

theorem call (known : Known used gate) (gateEvent : GateEvent) :
    Known used (gate.call gateEvent) := by
  unfold Gate.call
  split <;> exact known.of_same rfl rfl

theorem invite (known : Known used gate) (there : event.cid ∈ used) (sdpInfo : SdpInfo) :
    Known used (gate.mediaGateHandleCallInviteIncoming outcome event sdpInfo) := by
  unfold Gate.mediaGateHandleCallInviteIncoming
  split
  · exact known
  · dsimp only
    split
    · exact known
    · cases opened : (gate.ports.pusherTries outcome.opens 3).1 with
      | none =>
        rw [createStreamPusher_none opened]
        exact known.of_same rfl rfl
      | some iLocalPort =>
        rw [createStreamPusher_some opened]
        have made : Known used { gate with
            ports := (gate.ports.pusherTries outcome.opens 3).2
            cells := gate.cells ++ [Cell.newPusher outcome event.cid
              (mediaGateGetKeyValue sdpInfo.szX "id".toList 256).2 iLocalPort] } :=
          (known.append (.inr there)).of_same rfl rfl
        have called := made.call ⟨.callInit, (mediaGateGetKeyValue sdpInfo.szX "id".toList 256).2,
          some sdpInfo.szX, some gate.cells.length⟩
        dsimp only
        split
        · have mapped := called.insert there (show gate.cells.length < _ by
            rw [cells_call, List.length_append]
            exact Nat.lt_succ_self _)
          have used := mapped.use gate.cells.length (fun object => { object with did := event.did })
            (fun _ => rfl)
          unfold Gate.sipUAAnswerInvite200OK
          split <;> exact used.of_same rfl rfl
        · exact called.release gate.cells.length

theorem createPuller (known : Known used gate) {request : PullRequest} {opens : Nat → Bool}
    (there : 0 < initInvite → initInvite ∈ used) :
    Known used (gate.createStreamPuller request opens initInvite).2 := by
  cases opened : (gate.ports.pullerTries opens 3).1 with
  | none =>
    rw [createStreamPuller_none opened]
    exact known.of_same rfl rfl
  | some both =>
    by_cases invited : 0 < initInvite
    · rw [createStreamPuller_some opened invited]
      have made : Known used { gate with
          cells := gate.cells ++ [Cell.newPuller request both.1 initInvite] } :=
        known.append (.inr (there invited))
      have below : gate.cells.length <
          (gate.cells ++ [Cell.newPuller request both.1 initInvite]).length := by
        rw [List.length_append]
        exact Nat.lt_succ_self _
      exact (made.insert (there invited) below).of_same rfl rfl
    · rw [createStreamPuller_refused opened (not_lt.mp invited)]
      have made : Known used { gate with
          cells := gate.cells ++ [(Cell.newPuller request both.1 0).delete] } :=
        known.append (.inl rfl)
      exact made.of_same rfl rfl

theorem delete (known : Known used gate) : Known used (gate.deleteStreamPuller hInst) := by
  unfold Gate.deleteStreamPuller
  split
  · exact known
  · rename_i pPuller _
    have read := known.use hInst id (fun _ => rfl)
    have sent : Known used (Gate.send (.terminateCall pPuller.object.cid pPuller.object.did)
        (gate.useCell hInst (Cell.use id))) := read.of_same rfl rfl
    dsimp only
    split
    · exact read
    · exact sent.erase

theorem handle (known : Known used gate) (msg : SipServer.UAMsg)
    (there : msg = .callInviteIncoming → event.cid ∈ used) :
    Known used (gate.gb28181EventCB outcome msg event) := by
  cases msg with
  | registerSuccess | registerFailure | messageRequestfailure => exact known.of_same rfl rfl
  | callInviteIncoming => exact known.invite (there rfl) _
  | callAnswer200OK =>
    show Known used (gate.handleCallAnswer200OK outcome event)
    have acked : ∀ gate, Known used gate → Known used (gate.sipUASendAck outcome event.did) := by
      intro gate known
      unfold Gate.sipUASendAck
      split
      · exact known.of_same rfl rfl
      · exact known
    unfold Gate.handleCallAnswer200OK
    split
    · exact acked _ (known.use _ (fun object => { object with did := event.did }) (fun _ => rfl))
    · exact acked _ known
  | callAnswerRsp =>
    show Known used (gate.handleCallAnswerRsp event)
    unfold Gate.handleCallAnswerRsp
    split
    · exact (known.use _ id (fun _ => rfl)).call _
    · exact known
  | callBye =>
    show Known used (gate.mediaGateHandleCallBye event)
    unfold Gate.mediaGateHandleCallBye
    split
    · exact known
    · split
      · exact known
      · rename_i pInst _
        have flagged := known.use pInst (fun object => { object with bAutoRelease := true }) (fun _ => rfl)
        exact flagged.erase.call _
  | registerNew | registerRefresh | callAck | message | messageAnswered | info => exact known

theorem next (known : Known used gate) (input : Input) :
    Known (used ++ input.brings.toList) (gate.next input) := by
  have wider := known.mono (List.subset_append_left used input.brings.toList)
  cases input with
  | tick => exact wider.of_same rfl rfl
  | createStreamPuller request opens initInvite =>
    refine wider.createPuller (fun invited => List.mem_append_right _ ?_)
    rw [Input.brings, if_pos invited]
    exact List.mem_singleton.mpr rfl
  | deleteStreamPuller => exact wider.delete
  | event incoming outcome =>
    show Known _ (gate.handleEvent outcome incoming)
    unfold Gate.handleEvent
    cases dispatched : SipServer.threadEventLoop incoming with
    | none => exact wider
    | some msg =>
      refine wider.handle msg ?_
      rintro rfl
      apply List.mem_append_right
      rw [Input.brings, if_pos dispatched]
      exact List.mem_singleton.mpr rfl

/-- The tables of every gate that `GB28181MediaGate_Init` has started. -/
theorem foldl (arguments : InitArguments) (inputs : List Input) :
    Known (inputs.filterMap Input.brings) (inputs.foldl Gate.next (init arguments)) := by
  induction inputs using List.reverseRecOn with
  | nil => exact ⟨nofun, nofun⟩
  | append_singleton inputs input ih =>
    rw [List.foldl_concat, List.filterMap_append]
    have after := ih.next input
    cases brings : input.brings with
    | none => simpa [brings] using after
    | some cid => simpa [brings] using after

end Known

def proxyArguments : InitArguments where
  settings := sampleSettings
  iMediaStartPort := 30000
  fnCB := true
  iProxyEnable := 1
  iProxyStreamPort := 20000

/-- Each port can be opened, and the callback and the SIP stack do what they are asked. -/
def willing : Outcome := ⟨0, fun _ => true, 4711, 0, 0⟩

def livePull : PullRequest :=
  ⟨"1".toList, "34020000001320000001".toList, "192.168.3.80".toList, 5060, 0, 0, 0⟩

end Gb28181.MediaGate
