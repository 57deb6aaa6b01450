import Gb28181.SipServer.CallManager

/-! `SipServer.cpp`: what the event thread does with each event of the SIP stack. -/

namespace Gb28181.SipServer

open Gb28181.Lib Gb28181.SipUA

/-- What `handleCatalogMsg` finds in a catalog response that has all its elements. -/
structure CatalogResponse where
  strSipId : Text
  iSumNum : Int
  items : List (List (Text × Text))

/-- The configuration, and what the XML parser and the time formatting give. -/
structure Environment where
  strLocalSipId : Text
  iMonitorKeepalive : Int
  getXmlElementText : Text → Text → Text
  catalogResponse : Text → Option CatalogResponse
  unixTime2StrTime : Int → Text

/-- What the clock and the SIP stack answer while one event is handled. -/
structure Outcome where
  i64CurTime : Int
  /-- The call id of `eXosip_call_send_initial_invite`, or a value below one where building
  or sending fails. -/
  initialInvite : Int
  /-- `eXosip_call_build_answer`, `eXosip_message_build_answer` and `eXosip_call_build_ack`. -/
  buildAnswer : Int
  /-- `eXosip_call_send_answer`. -/
  sendAnswer : Int
  deriving DecidableEq

variable (env : Environment) (outcome : Outcome)

/-- An INVITE whose body does not fit into the 1024 bytes, which the source writes past,
counts as one that cannot be sent. -/
def sipUAInitInviteWidthSdpInfo (pszDestId pszDestIP : Text) (iDestPort : Int)
    (subject : SubjectInfo) (sdpInfo : SdpInfo) : Thread Int :=
  match sdpInfo2BodyString sdpInfo with
  | none => return -1
  | some szBody => do
    if outcome.initialInvite > 0 then
      send (.initInvite pszDestId pszDestIP iDestPort (subjectInfo2String subject) szBody)
      return outcome.initialInvite
    else return -1

/-- The INVITE is sent and has a call id. -/
def Outcome.Forwards (sdpInfo : SdpInfo) : Prop :=
  (sdpInfo2BodyString sdpInfo).isSome ∧ 0 < outcome.initialInvite

instance (sdpInfo : SdpInfo) : Decidable (outcome.Forwards sdpInfo) :=
  inferInstanceAs (Decidable (_ ∧ _))

def sipUAAnswerInviteFailure (tid status : Int) : Thread Unit := send (.answerCall tid status none)

/-- A 200 whose body does not fit counts as one that cannot be sent. -/
def sipUAAnswerInvite200OK (tid : Int) (sdpInfo : SdpInfo) : Thread Int := do
  if outcome.buildAnswer ≠ 0 then
    send (.answerCall tid 400 none)
    return -1
  else
    match sdpInfo2BodyString sdpInfo with
    | none => return -1
    | some szBody =>
      send (.answerCall tid 200 (some szBody))
      return outcome.sendAnswer

def sipUASendAck (did : Int) : Thread Unit := do
  if outcome.buildAnswer = 0 then send (.sendAck did)

/-- `SipUA_RegisterReply200OK`: no reply to a request without an Expires header. -/
def sipUARegisterReply200OK (event : Event) : Thread Unit := do
  if (event.request.bind SipMessage.expires).isSome ∧ outcome.buildAnswer = 0 then
    send (.registerReply event.tid 200)

def sipUARegisterReply401Unauthorized (event : Event) : Thread Unit := do
  if outcome.buildAnswer = 0 then send (.registerReply event.tid 401)

def catalogQuery (szRegUser : Text) : Text :=
  "<?xml version=\"1.0\"?>\r\n<Query>\r\n<CmdType>Catalog</CmdType>\r\n<SN>17430</SN>\r\n<DeviceID>".toList ++
    szRegUser ++ "</DeviceID>\r\n</Query>\r\n".toList

def logout (strSipId : Text) : Thread Int := do
  removeCallContextBySipId strSipId
  let _ ← removeEndpoint strSipId
  return 0

def registerEndpoint (regInfo : RegisterInfo) (strType : Text) : Thread Int := do
  Prog.lock .sipEndpoint
  let iUpdateCatalog ← insertEndpoint regInfo strType outcome.i64CurTime
  Prog.unlock .sipEndpoint
  return iUpdateCatalog

def handleRegisterInfo (event : Event) (regInfo : RegisterInfo) : Thread Unit := do
  if (sipUAGetRequestBodyContent event 4096).1 > 0 then
    sipUARegisterReply200OK outcome event
    let _ ← registerEndpoint outcome regInfo sipEndpointDevicecloud
  else if regInfo.ucAuthorFlag = 0 then
    sipUARegisterReply401Unauthorized outcome event
  else
    sipUARegisterReply200OK outcome event
    let iUpdateCatalog ←
      if regInfo.expires = 0 then logout regInfo.szRegUser
      else registerEndpoint outcome regInfo sipEndpointGbPlatform
    if iUpdateCatalog = 1 then
      send (.initMessage regInfo.szRegUser regInfo.szContactIP regInfo.iContactPort
        (catalogQuery regInfo.szRegUser))

/-- The process ends where the registration cannot be read: nothing is answered or stored. -/
def sipServerHandleRegisterNew (event : Event) : Thread Unit :=
  match sipUAGetRegisterInfo event with
  | none => pure ()
  | some regInfo => handleRegisterInfo outcome event regInfo

/-- An INVITE forwarded: the new context, with the media and the id of the caller and the
id of the platform. -/
def openCall (sdpInfo : SdpInfo) (sHdrFrom : FromHeader) (platform : SipEndpointInfo)
    (tid cid did iCalleeCid : Int) : Thread Unit := do
  let pCallCtx ← newCallContext cid iCalleeCid
  Prog.write (State.writeContext pCallCtx fun context =>
    { context with sCaller := { context.sCaller with
        sVideoMediaInfo := sdpInfo.sVideoMediaInfo
        sAudioMediaInfo := sdpInfo.sAudioMediaInfo } })
  Prog.write (State.writeContext pCallCtx fun context =>
    { context with sCaller := { context.sCaller with szSipEndpointId := sHdrFrom.szUser } })
  Prog.write (State.writeContext pCallCtx fun context =>
    { context with sCallee := { context.sCallee with
        szSipEndpointId := platform.sRegInfo.szRegUser } })
  updateCallerCallLeg cid tid did

def initInviteMsg (sdpInfo : SdpInfo) (subject : SubjectInfo) (sHdrFrom : FromHeader)
    (tid cid did : Int) : Thread Unit := do
  Prog.lock .sipEndpoint
  let strDevId := subject.szSenderId
  let pGb28181Platform ← Prog.read (State.queryGb28181PlatformInfo strDevId)
  match pGb28181Platform with
  | some platform =>
    let iInviteRet ← sipUAInitInviteWidthSdpInfo outcome strDevId platform.sRegInfo.szContactIP
      platform.sRegInfo.iContactPort subject sdpInfo
    if iInviteRet > 0 then
      openCall sdpInfo sHdrFrom platform tid cid did iInviteRet
  | none => sipUAAnswerInviteFailure tid 404
  Prog.unlock .sipEndpoint

def recordInfoQuery (ulMsgReqSN : Nat) (senderId startTime endTime filePath : Text) : Text :=
  "<?xml version=\"1.0\"?>\r\n<Query>\r\n<CmdType>RecordInfo</CmdType>\r\n<SN>".toList ++
    decimal ulMsgReqSN ++ "</SN>\r\n<DeviceID>".toList ++ senderId ++
    "</DeviceID>\r\n<StartTime>".toList ++ startTime ++ "</StartTime>\r\n<EndTime>".toList ++
    endTime ++ "</EndTime>\r\n<FilePath>".toList ++ filePath ++
    "</FilePath>\r\n<Address>address1</Address>\r\n<Secrecy>0</Secrecy>\r\n<Type>time</Type>\r\n</Query>\r\n".toList

def handleInviteRealPlay (sdpInfo : SdpInfo) (subject : SubjectInfo) (sHdrFrom : FromHeader)
    (event : Event) : Thread Unit :=
  initInviteMsg outcome sdpInfo subject sHdrFrom event.tid event.cid event.did

/-- The playback INVITE waits for the record list that is asked for here. -/
def queryRecords (sdpInfo : SdpInfo) (subject : SubjectInfo) (sHdrFrom : FromHeader)
    (platform : SipEndpointInfo) (event : Event) : Thread Unit := do
  let szRegUser := platform.sRegInfo.szRegUser
  let ulMsgReqSN ← Prog.read State.ulMsgReqSN
  insertPlaybackCallerInfo subject.szSenderId
    ⟨event.tid, event.did, event.cid, sdpInfo, subject, sHdrFrom, outcome.i64CurTime⟩
  send (.initMessage szRegUser platform.sRegInfo.szContactIP platform.sRegInfo.iContactPort
    (recordInfoQuery ulMsgReqSN subject.szSenderId (env.unixTime2StrTime sdpInfo.i64TimeBegin)
      (env.unixTime2StrTime sdpInfo.i64TimeEnd) szRegUser))
  Prog.write fun state => { state with ulMsgReqSN := state.ulMsgReqSN + 1 }

def handleInvitePlayback (sdpInfo : SdpInfo) (subject : SubjectInfo) (sHdrFrom : FromHeader)
    (event : Event) : Thread Unit := do
  Prog.lock .sipEndpoint
  let pGb28181Platform ← Prog.read (State.queryGb28181PlatformInfo subject.szSenderId)
  match pGb28181Platform with
  | some platform => queryRecords env outcome sdpInfo subject sHdrFrom platform event
  | none => sipUAAnswerInviteFailure event.tid 404
  Prog.unlock .sipEndpoint

def sipServerHandleCallInviteIncoming (event : Event) : Thread Unit :=
  let sHdrFrom := sipUAGetRequestFromHeader event
  let sdpInfo := getSdpInfo event.request
  let subject := getSubject event.request
  if sdpInfo.szSessionName = "Play".toList then
    handleInviteRealPlay outcome sdpInfo subject sHdrFrom event
  else if sdpInfo.szSessionName = "Playback".toList then
    handleInvitePlayback env outcome sdpInfo subject sHdrFrom event
  else sipUAAnswerInviteFailure event.tid 400

def sipServerHandleCallAnswer200OK (event : Event) : Thread Unit := do
  Prog.lock .callContext
  let pCtx ← Prog.read (State.getCallContextByCallLeg event.cid .callee)
  match pCtx with
  | none => Prog.unlock .callContext
  | some (pCtx, context) =>
    let sdpInfo := getSdpInfo event.response
    let ret ← sipUAAnswerInvite200OK outcome context.sCaller.tid sdpInfo
    if ret = 0 then
      Prog.write (State.writeContext pCtx fun context =>
        { context with sCallee := { context.sCallee with
            tid := event.tid
            did := event.did
            sVideoMediaInfo := sdpInfo.sVideoMediaInfo
            sAudioMediaInfo := sdpInfo.sAudioMediaInfo } })
    Prog.unlock .callContext

/-- A final answer other than 200. The list is searched without its mutex. -/
def sipServerHandleCallAnswerResponse (event : Event) : Thread Unit := do
  let pCtx ← Prog.read (State.getCallContextByCallLeg event.cid .callee)
  match pCtx with
  | none => pure ()
  | some (pCtx, context) =>
    sipUAAnswerInviteFailure context.sCaller.tid 400
    removeCallContext pCtx

def sipServerHandleCallAck (event : Event) : Thread Unit := do
  let pCtx ← Prog.read (State.getCallContextByCallLeg event.cid .caller)
  match pCtx with
  | none => pure ()
  | some (_, context) => sipUASendAck outcome context.sCallee.did

def sipServerHandleCallBye (event : Event) : Thread Unit := do
  Prog.lock .callContext
  let pCtx ← Prog.read (State.getCallContext event.cid)
  match pCtx with
  | none => Prog.unlock .callContext
  | some (pCtx, context) =>
    send (.terminateCall context.sCaller.cid context.sCaller.did)
    send (.terminateCall context.sCallee.cid context.sCallee.did)
    Prog.unlock .callContext
    removeCallContext pCtx

def handleKeepaliveMsg (pszBody : Text) : Thread Int := do
  let ret ← updateSipEndpointKeepalive (env.getXmlElementText pszBody "DeviceID".toList)
    outcome.i64CurTime
  return if ret = 0 then 0 else -1

/-- The fields of one catalog item; a later field of the same name replaces an earlier one. -/
def deviceOf (fields : List (Text × Text)) : Device :=
  fields.foldl (fun item field => (item.erase field.1).insert field.1 field.2) .empty

def handleCatalogMsg (pszBody : Text) : Thread Int := do
  match env.catalogResponse pszBody with
  | none => return -1
  | some response =>
    Prog.lock .sipEndpoint
    let pSipEndpoint ← Prog.read (fun state => state.mapSipEndpoints.find response.strSipId)
    match pSipEndpoint with
    | none =>
      Prog.unlock .sipEndpoint
      return -1
    | some _ =>
      Prog.write (State.modifyEndpoint response.strSipId fun endpoint =>
        (response.items.map deviceOf).foldl SipEndpointInfo.appendSipDevice endpoint)
      send (.createStreamPullerLocal response.strSipId)
      Prog.unlock .sipEndpoint
      return 0

def handleRecordInfoMsg (pszBody : Text) : Thread Int := do
  let strDeviceId := env.getXmlElementText pszBody "DeviceID".toList
  if strDeviceId.length ≤ 0 then return -1
  else
    let playbackCaller ← getPlaybackCallerInfo strDeviceId
    match playbackCaller with
    | some caller =>
      initInviteMsg outcome caller.sdpInfo caller.subject caller.sHdrFrom caller.tid caller.cid
        caller.did
      removePlaybackCallerInfo strDeviceId
    | none => pure ()
    return 0

/-- `SipUA_AnswerMessage`. Where no answer can be built the source writes through a null
pointer and the process ends. -/
def sipUAAnswerMessage (event : Event) (ret : Int) : Thread Unit := do
  if outcome.buildAnswer = 0 then
    send (.answerMessage event.tid (if ret = 0 then 200 else 400))

def sipServerHandleMessage (event : Event) : Thread Unit := do
  let (ret, szBody) := sipUAGetRequestBodyContent event 4096
  if ret ≤ 0 then return
  let strCmdType := env.getXmlElementText szBody "CmdType".toList
  if strCmdType = "Keepalive".toList then
    let ret ← handleKeepaliveMsg env outcome szBody
    sipUAAnswerMessage outcome event ret
  else if strCmdType = "Catalog".toList then
    let ret ← handleCatalogMsg env szBody
    sipUAAnswerMessage outcome event ret
  else if strCmdType = "RecordInfo".toList then
    let ret ← handleRecordInfoMsg env outcome szBody
    sipUAAnswerMessage outcome event ret

/-- `ESipUAMsg`, the messages the event loop calls back with. -/
inductive UAMsg where
  | registerNew | registerRefresh | registerSuccess | registerFailure
  | callInviteIncoming | callAnswer200OK | callAnswerRsp | callAck | callBye
  | message | messageAnswered | messageRequestfailure | info
  deriving DecidableEq, Repr

/-- The `switch` of `threadEventLoop`. A REGISTER, MESSAGE or INFO request is told by its
method. -/
def threadEventLoop (event : Event) : Option UAMsg :=
  match event.type with
  | .registrationSuccess => some .registerSuccess
  | .registrationFailure => some .registerFailure
  | .registrationRefreshed => some .registerRefresh
  | .callInvite => some .callInviteIncoming
  | .callAnswered | .callRedirected | .callRequestfailure | .callServerfailure
  | .callGlobalfailure =>
    event.response.map fun response =>
      if response.statusCode = 200 then .callAnswer200OK else .callAnswerRsp
  | .callAck => some .callAck
  | .callClosed => some .callBye
  | .messageNew =>
    event.request.bind fun request =>
      if request.sipMethod = "REGISTER".toList then some .registerNew
      else if request.sipMethod = "MESSAGE".toList then some .message
      else if request.sipMethod = "INFO".toList then some .info
      else none
  | .messageAnswered => some .messageAnswered
  | .messageRequestfailure => some .messageRequestfailure
  | _ => none

/-- `SipServerEventCB`. The client registrations and the INFO requests do not touch what
`CCallManager` holds. -/
def sipServerEventCB (msg : UAMsg) (event : Event) : Thread Unit :=
  match msg with
  | .registerNew => sipServerHandleRegisterNew outcome event
  | .callInviteIncoming => sipServerHandleCallInviteIncoming env outcome event
  | .callAnswer200OK => sipServerHandleCallAnswer200OK outcome event
  | .callAnswerRsp => sipServerHandleCallAnswerResponse event
  | .callAck => sipServerHandleCallAck outcome event
  | .callBye => sipServerHandleCallBye event
  | .message => sipServerHandleMessage env outcome event
  | _ => pure ()

def handleEvent (event : Event) : Thread Unit :=
  match threadEventLoop event with
  | some msg => sipServerEventCB env outcome msg event
  | none => pure ()

end Gb28181.SipServer
