import Gb28181.SipUA.Events

namespace Gb28181.SipServer

open Gb28181.Lib Gb28181.SipUA

structure PortUse where
  nport : Int
  bused : Bool
  deriving DecidableEq

structure StMediaInfo where
  strCuUserID : Text
  strCuIp : Text
  nCuport : Int
  nCuNat : Int
  nCuTransType : Int
  nCuUserType : Int
  strCuGBVideoTransMode : Text
  nCuMSCheck : Int
  strPUID : Text
  nPuChannelID : Int
  nPuProtocol : Int
  nPuStreamType : Int
  nPuTransType : Int
  nPuFCode : Int
  strVtduRecvIp : Text
  strVtduSendIP : Text
  nOpenVideoStreamType : Int
  strOpenVideoGBVideoTransMode : Text
  nVtduRecvPort : Int
  nVtduSendPort : Int
  deriving DecidableEq

/-- The members of `SipServer` that the preview uses. -/
structure VideoPorts where
  vecRecvPortUse : List PortUse
  vecSendPortUse : List PortUse
  nInitialUser : UInt32
  deriving DecidableEq

/-- The loop of the constructor: every second port from the first one on. -/
def freePorts (first : Int) : List PortUse :=
  (List.range 7500).map (fun index : Nat => ⟨first + 2 * index, false⟩)

def VideoPorts.initial : VideoPorts := ⟨freePorts 15000, freePorts 30000, 1⟩

/-- An element as the XML parser gives it: its first text, and the elements below it. -/
inductive XmlElement where
  | element (name : Text) (text : Option Text) (children : List XmlElement)

def XmlElement.name : XmlElement → Text
  | .element name _ _ => name

def XmlElement.getText : XmlElement → Option Text
  | .element _ text _ => text

def XmlElement.children : XmlElement → List XmlElement
  | .element _ _ children => children

/-- Why the reading ends: with an error text, or because of a null pointer that is taken for
a text. -/
inductive Failure where
  | refused (strError : Text)
  | null
  deriving DecidableEq

/-- The fields read before a failure stay as they are. -/
abbrev Reading (Value : Type) := ExceptT Failure (StateM StMediaInfo) Value

def firstChildElement (elements : List XmlElement) (name strError : String) : Reading XmlElement :=
  match elements.find? (fun element => element.name = name.toList) with
  | some element => pure element
  | none => throw (.refused strError.toList)

def getText (element : XmlElement) : Reading Text :=
  match element.getText with
  | some text => pure text
  | none => throw .null

def readField (parent : XmlElement) (name strError : String)
    (store : Text → StMediaInfo → StMediaInfo) : Reading Unit := do
  let element ← firstChildElement parent.children name strError
  let text ← getText element
  modify (store text)

def readOptional (parent : XmlElement) (name : String)
    (store : Text → StMediaInfo → StMediaInfo) : Reading Unit := do
  match parent.children.find? (fun element => element.name = name.toList) with
  | some element =>
    let text ← getText element
    modify (store text)
  | none => pure ()

def readCuInfo (doc : List XmlElement) : Reading Unit := do
  let cuInfo ← firstChildElement doc "IE_CU_ADDRINFO" "cannot find IE_CU_ADDRINFO"
  readField cuInfo "UserID" "cannot find CU UserID" fun text info => { info with strCuUserID := text }
  readField cuInfo "IP" "cannot find CU IP" fun text info => { info with strCuIp := text }
  readField cuInfo "Port" "cannot find CU Port" fun text info => { info with nCuport := atoi text }
  readField cuInfo "Nat" "cannot find CU NAT" fun text info => { info with nCuNat := atoi text }
  readField cuInfo "TransType" "cannot find CU TransType" fun text info =>
    { info with nCuTransType := atoi text }
  readOptional cuInfo "UserType" fun text info => { info with nCuUserType := atoi text }
  readOptional cuInfo "GBVideoTransMode" fun text info => { info with strCuGBVideoTransMode := text }
  readField cuInfo "MSCheck" "cannot find CU MSCheck" fun text info =>
    { info with nCuMSCheck := atoi text }

def readPuInfo (doc : List XmlElement) : Reading Unit := do
  let puInfo ← firstChildElement doc "IE_PU_ADDRINFO" "cannot find IE_PU_ADDRINFO"
  readField puInfo "PUID" "cannot find PUID" fun text info => { info with strPUID := text }
  readField puInfo "ChannelID" "cannot find PU ChannelID" fun text info =>
    { info with nPuChannelID := atoi text }
  readField puInfo "Protocol" "cannot find PU Protocol" fun text info =>
    { info with nPuProtocol := atoi text }
  readField puInfo "StreamType" "cannot find PU StreamType" fun text info =>
    { info with nPuStreamType := atoi text }
  readField puInfo "TransType" "cannot find PU TransType" fun text info =>
    { info with nPuTransType := atoi text }
  readField puInfo "FCode" "cannot find PU FCode" fun text info => { info with nPuFCode := atoi text }

def readVtduRoute (doc : List XmlElement) : Reading Unit := do
  let vtduRoute ← firstChildElement doc "IE_VTDU_ROUTE" "cannot find IE_VTDU_ROUTE"
  readField vtduRoute "RecvIP" "cannot find RecvIP" fun text info =>
    { info with strVtduRecvIp := text }
  readField vtduRoute "SendIP" "cannot find SendIP" fun text info =>
    { info with strVtduSendIP := text }

def readOpenVideo (doc : List XmlElement) : Reading Unit := do
  let openVideo ← firstChildElement doc "IE_OPEN_VIDEO" "cannot find IE_OPEN_VIDEO"
  readField openVideo "StreamType" "cannot find OpenVideoStreamType" fun text info =>
    { info with nOpenVideoStreamType := atoi text }
  readField openVideo "GBVideoTransMode" "cannot find GBVideoTransMode" fun text info =>
    { info with strOpenVideoGBVideoTransMode := text }

/-- What the request says, read from the top-level elements of its body. -/
def readRequest (parse : Text → List XmlElement) (event : Event) : Reading Unit := do
  let (ret, szBody) := sipUAGetRequestBodyContent event 4096
  if ret ≤ 0 then throw (.refused "get msg body failed".toList)
  let doc := parse szBody
  readCuInfo doc
  readPuInfo doc
  readVtduRoute doc
  readOpenVideo doc

/-- The search for a port. The condition of its `if` is the assignment `bused = false`. -/
def findPort : List PortUse → List PortUse × Option Int
  | [] => ([], none)
  | port :: ports =>
    let port := { port with bused := false }
    if port.bused then ({ port with bused := true } :: ports, some port.nport)
    else
      let (ports, found) := findPort ports
      (port :: ports, found)

/-- `ports[index].bused = false`, which must not be out of range. -/
def freeAt (index : Int) (ports : List PortUse) : Option (List PortUse) :=
  if 0 ≤ index ∧ index < ports.length then
    some (ports.modify index.toNat (fun port => { port with bused := false }))
  else none

structure InfoAnswer where
  tid : Int
  status : Int
  body : Text
  deriving DecidableEq

def errorInfo (strError : Text) : Text := "error info: ".toList ++ strError

/-- An unsigned value printed with `%d`. -/
def signedDecimal (value : UInt32) : Text := decimal ((value.toNat : Int).bmod (2 ^ 32))

def transRespOpening : Text :=
  "<?xml version=\"1.0\" encoding=\"UTF-8\"?>\r\n".toList

def transRespFields (info : StMediaInfo) (nInitialUser : UInt32) : Text :=
  "<MessageVersion=\"1.0.2\">\r\n<IE_HEADER>\r\n<MessageType>MSG_READY_VIDEO_TRANS_RESP</MessageType>\r\n</IE_HEADER>\r\n<IE_CU_ADDRINFO>\r\n< UserID>".toList ++
    info.strCuUserID ++ "</UserID>\r\n<IP>>".toList ++ info.strCuIp ++
    "</IP>\r\n<Port>".toList ++ decimal info.nCuport ++ "</Port>\r\n<Nat>".toList ++
    decimal info.nCuNat ++ "</Nat>\r\n<TransType>".toList ++ decimal info.nCuTransType ++
    "</TransType>\r\n<MSCheck>".toList ++ decimal info.nCuMSCheck ++
    "</MSCheck>\r\n<VtduToCuPort>".toList ++ decimal info.nVtduSendPort ++
    "</VtduToCuPort>\r\n<InitialUser>".toList ++ signedDecimal nInitialUser ++
    "</InitialUser>\r\n</IE_CU_ADDRINFO>\r\n<IE_PU_ADDRINFO>\r\n<PUID>".toList ++ info.strPUID ++
    "</PUID>\r\n<ChannelID>".toList ++ decimal info.nPuChannelID ++
    "</ChannelID>\r\n<Protocol>".toList ++ decimal info.nPuProtocol ++
    "</Protocol>\r\n<StreamType>".toList ++ decimal info.nPuStreamType ++
    "</StreamType>\r\n<TransType>".toList ++ decimal info.nPuTransType ++
    "</TransType>\r\n<FCode>".toList ++ decimal info.nPuFCode ++
    "</FCode>\r\n<PuToVtduPort>".toList ++ decimal info.nVtduRecvPort ++
    "</PuToVtduPort>\r\n</IE_PU_ADDRINFO>\r\n<IE_VTDU_ROUTE>\r\n<RecvIP>".toList ++
    info.strVtduRecvIp ++ "</RecvIP>\r\n<SendIP>".toList ++ info.strVtduSendIP ++
    "</SendIP>\r\n</IE_VTDU_ROUTE>\r\n<IE_OPEN_VIDEO>\r\n<StreamType>".toList ++
    decimal info.nOpenVideoStreamType ++ "</StreamType> \r\n<GBVideoTransMode>".toList ++
    info.strOpenVideoGBVideoTransMode ++
    "</GBVideoTransMode>\r\n</IE_OPEN_VIDEO>\r\n<IE_RESULT>\r\n<ErrorCode>0</ErrorCode>\r\n<ErrorMessage/>\r\n</IE_RESULT>\r\n<VTDU_LOAD_STATE>\r\n<State/>\r\n</VTDU_LOAD_STATE>\r\n</Message>\r\n".toList

def readyVideoTransResp (info : StMediaInfo) (nInitialUser : UInt32) : Text :=
  transRespOpening ++ transRespFields info nInitialUser

/-- The end of the handler; nothing where the body does not fit its buffer. -/
def answerInfo (event : Event) (nStatus : Int) (strError : Text) (info : StMediaInfo)
    (ports : VideoPorts) : Option (VideoPorts × InfoAnswer) :=
  if nStatus = 200 then do
    let pszBody ← printed 4096 (errorInfo strError)
    return (ports, ⟨event.tid, nStatus, pszBody⟩)
  else do
    let pszBody ← printed 4096 (readyVideoTransResp info ports.nInitialUser)
    return ({ ports with nInitialUser := ports.nInitialUser + 1 }, ⟨event.tid, nStatus, pszBody⟩)

/-- A request, and what the members of `stCurMediaInfo` that have no constructor hold. -/
structure TransRequest where
  event : Event
  stCurMediaInfo : StMediaInfo

/-- The handler up to its answer; nothing where it crashes. -/
def sipServerHandleV3TransReady (parse : Text → List XmlElement) (ports : VideoPorts)
    (request : TransRequest) : Option (VideoPorts × InfoAnswer) :=
  match (readRequest parse request.event).run request.stCurMediaInfo with
  | (.error .null, _) => none
  | (.error (.refused strError), info) => answerInfo request.event 400 strError info ports
  | (.ok (), info) =>
    let (vecRecvPortUse, recvPort) := findPort ports.vecRecvPortUse
    match recvPort with
    | none =>
      answerInfo request.event 400 "no recv port can use".toList info { ports with
        vecRecvPortUse := vecRecvPortUse }
    | some recvPort =>
      let (vecSendPortUse, sendPort) := findPort ports.vecSendPortUse
      match sendPort with
      | none => do
        let rolledBack ← freeAt recvPort vecRecvPortUse
        answerInfo request.event 400 "no send port can use".toList
          { info with nVtduRecvPort := recvPort } { ports with
            vecRecvPortUse := rolledBack
            vecSendPortUse := vecSendPortUse }
      | some sendPort =>
        answerInfo request.event 200 [] { info with
            nVtduRecvPort := recvPort
            nVtduSendPort := sendPort } { ports with
            vecRecvPortUse := vecRecvPortUse
            vecSendPortUse := vecSendPortUse }

variable {parse : Text → List XmlElement} {ports after : VideoPorts} {request : TransRequest}
  {answer : InfoAnswer}

theorem findPort_spec (pool : List PortUse) :
    findPort pool = (pool.map (fun port => { port with bused := false }), none) := by
  induction pool with
  | nil => rfl
  | cons port pool ih =>
    rw [findPort, ih]
    rfl

theorem answerInfo_refused {event : Event} {strError : Text} {info : StMediaInfo}
    (answered : answerInfo event 400 strError info ports = some (after, answer)) :
    answer.status = 400 ∧ answer.body = readyVideoTransResp info ports.nInitialUser := by
  rw [answerInfo, if_neg (by decide)] at answered
  obtain ⟨body, fits, same⟩ := Option.bind_eq_some_iff.mp answered
  rw [printed, Option.ite_none_right_eq_some] at fits
  obtain ⟨-, fits⟩ := fits
  cases Option.some.inj fits
  cases Option.some.inj same
  exact ⟨rfl, rfl⟩

theorem refused_of_handled
    (handled : sipServerHandleV3TransReady parse ports request = some (after, answer)) :
    answer.status = 400 ∧
      ∃ info nInitialUser, answer.body = readyVideoTransResp info nInitialUser := by
  unfold sipServerHandleV3TransReady at handled
  split at handled
  · exact nomatch handled
  · obtain ⟨status, body⟩ := answerInfo_refused handled
    exact ⟨status, _, _, body⟩
  · simp only [findPort_spec] at handled
    obtain ⟨status, body⟩ := answerInfo_refused handled
    exact ⟨status, _, _, body⟩

/-- Everything the server asks for is in the request. -/
def TransRequest.WellFormed (parse : Text → List XmlElement) (request : TransRequest) : Prop :=
  ((readRequest parse request.event).run request.stCurMediaInfo).1 = .ok ()

/-- An acceptance that carries a port for each direction. -/
def InfoAnswer.Grants (recvPort sendPort : Int) (answer : InfoAnswer) : Prop :=
  answer.status = 200 ∧ ∃ info nInitialUser, answer.body = readyVideoTransResp info nInitialUser ∧
    info.nVtduRecvPort = recvPort ∧ info.nVtduSendPort = sendPort

def InfoAnswer.Refuses (answer : InfoAnswer) : Prop :=
  answer.status ≠ 200 ∧ ∃ strError, answer.body = errorInfo strError

def VideoPorts.HasFree (ports : VideoPorts) : Prop :=
  (∃ port ∈ ports.vecRecvPortUse, port.bused = false) ∧
    ∃ port ∈ ports.vecSendPortUse, port.bused = false

/-- The ports handed out are different, and they are the ones in use. -/
structure VideoPorts.Marks (given : List (Int × Int)) (ports : VideoPorts) : Prop where
  recvOnce : (given.map Prod.fst).Nodup
  sendOnce : (given.map Prod.snd).Nodup
  recvMarked : ∀ nport, nport ∈ given.map Prod.fst ↔
    ∃ port ∈ ports.vecRecvPortUse, port.nport = nport ∧ port.bused = true
  sendMarked : ∀ nport, nport ∈ given.map Prod.snd ↔
    ∃ port ∈ ports.vecSendPortUse, port.nport = nport ∧ port.bused = true

/-- Every request of a run is granted a port of each pool or refused with the pools as they
were; a well-formed one is granted them as long as there are any. -/
def Serves (parse : Text → List XmlElement) :
    VideoPorts → List (Int × Int) → List TransRequest → Prop
  | ports, given, [] => ports.Marks given
  | ports, given, request :: requests => ports.Marks given ∧
    ∃ after answer, sipServerHandleV3TransReady parse ports request = some (after, answer) ∧
      (request.WellFormed parse →
        ((∃ recvPort sendPort, answer.Grants recvPort sendPort) ↔ ports.HasFree)) ∧
      ((∃ recvPort sendPort, answer.Grants recvPort sendPort ∧
          Serves parse after (given ++ [(recvPort, sendPort)]) requests) ∨
        (answer.Refuses ∧ after.vecRecvPortUse = ports.vecRecvPortUse ∧
          after.vecSendPortUse = ports.vecSendPortUse ∧ Serves parse after given requests))

theorem freePorts_unused {port : PortUse} {first : Int} (member : port ∈ freePorts first) :
    port.bused = false := by
  unfold freePorts at member
  obtain ⟨index, -, rfl⟩ := List.mem_map.mp member
  rfl

theorem freePorts_first (first : Int) : ⟨first + 2 * (0 : Nat), false⟩ ∈ freePorts first := by
  have index : 0 ∈ List.range 7500 := List.mem_range.mpr (Nat.succ_pos _)
  unfold freePorts
  exact List.mem_map.mpr ⟨0, index, rfl⟩

theorem VideoPorts.vecRecvPortUse_initial :
    VideoPorts.initial.vecRecvPortUse = freePorts 15000 := by
  rw [VideoPorts.initial]

theorem VideoPorts.vecSendPortUse_initial :
    VideoPorts.initial.vecSendPortUse = freePorts 30000 := by
  rw [VideoPorts.initial]

theorem VideoPorts.hasFree_initial : VideoPorts.initial.HasFree := by
  constructor
  · rw [vecRecvPortUse_initial]
    exact ⟨_, freePorts_first 15000, rfl⟩
  · rw [vecSendPortUse_initial]
    exact ⟨_, freePorts_first 30000, rfl⟩

theorem VideoPorts.marks_initial : VideoPorts.initial.Marks [] := by
  refine ⟨List.nodup_nil, List.nodup_nil, ?_, ?_⟩
  · intro nport
    rw [vecRecvPortUse_initial]
    apply iff_of_false List.not_mem_nil
    rintro ⟨port, member, -, used⟩
    exact absurd (used.symm.trans (freePorts_unused member)) (by decide)
  · intro nport
    rw [vecSendPortUse_initial]
    apply iff_of_false List.not_mem_nil
    rintro ⟨port, member, -, used⟩
    exact absurd (used.symm.trans (freePorts_unused member)) (by decide)

theorem head_readyVideoTransResp (info : StMediaInfo) (nInitialUser : UInt32) :
    (readyVideoTransResp info nInitialUser).head? = some '<' := by
  have opening : transRespOpening.head? = some '<' := by decide +kernel
  unfold readyVideoTransResp
  rw [List.head?_append, opening]
  rfl

theorem head_errorInfo (strError : Text) : (errorInfo strError).head? = some 'e' := by
  have opening : "error info: ".toList.head? = some 'e' := by decide +kernel
  unfold errorInfo
  rw [List.head?_append, opening]
  rfl

theorem readyVideoTransResp_ne_errorInfo (info : StMediaInfo) (nInitialUser : UInt32)
    (strError : Text) : readyVideoTransResp info nInitialUser ≠ errorInfo strError := by
  intro same
  have first := head_readyVideoTransResp info nInitialUser
  rw [same, head_errorInfo] at first
  exact absurd first (by decide)

theorem not_serves_cons {given : List (Int × Int)} {requests : List TransRequest} :
    ¬ Serves parse ports given (request :: requests) := by
  rintro ⟨-, after, answer, handled, -, answered⟩
  obtain ⟨status, info, nInitialUser, body⟩ := refused_of_handled handled
  rcases answered with ⟨recvPort, sendPort, granted, -⟩ | ⟨⟨-, strError, error⟩, -⟩
  · exact absurd (status.symm.trans granted.1) (by decide)
  · exact readyVideoTransResp_ne_errorInfo info nInitialUser strError (body.symm.trans error)

/-- The pools and the answers go together in the run without requests only. -/
theorem serves_iff (parse : Text → List XmlElement) (requests : List TransRequest) :
    Serves parse .initial [] requests ↔ requests = [] := by
  cases requests with
  | nil => exact iff_of_true VideoPorts.marks_initial rfl
  | cons request requests => exact iff_of_false not_serves_cons nofun

def transFields : List (String × List (String × String)) :=
  [("IE_HEADER", [("MessageType", "MSG_READY_VIDEO_TRANS_REQ")]),
    ("IE_CU_ADDRINFO", [("UserID", "u1"), ("IP", "10.0.0.3"), ("Port", "6000"), ("Nat", "0"),
      ("TransType", "1"), ("MSCheck", "0")]),
    ("IE_PU_ADDRINFO", [("PUID", "p1"), ("ChannelID", "1"), ("Protocol", "0"),
      ("StreamType", "0"), ("TransType", "1"), ("FCode", "0")]),
    ("IE_VTDU_ROUTE", [("RecvIP", "10.0.0.4"), ("SendIP", "10.0.0.4")]),
    ("IE_OPEN_VIDEO", [("StreamType", "0"), ("GBVideoTransMode", "0")])]

def xmlText (name : String) (content : Text) : Text :=
  "<".toList ++ name.toList ++ ">".toList ++ content ++ "</".toList ++ name.toList ++ ">".toList

def transBody : Text :=
  transFields.flatMap fun parent =>
    xmlText parent.1 (parent.2.flatMap fun field => xmlText field.1 field.2.toList)

/-- Gives the elements of `transBody`. -/
def transParse (szBody : Text) : List XmlElement :=
  if szBody = transBody then
    transFields.map fun parent => .element parent.1.toList none
      (parent.2.map fun field => .element field.1.toList (some field.2.toList) [])
  else []

def transRequest : TransRequest where
  event :=
    { type := .messageNew, tid := 1, did := 0, cid := 0, response := none
      request := some ⟨0, "INFO".toList, none, none, none, none, none, none, none, some transBody⟩ }
  stCurMediaInfo := ⟨[], [], 0, 0, 0, 0, [], 0, [], 0, 0, 0, 0, 0, [], [], 0, [], 0, 0⟩

/-- A well-formed request is refused while all ports are free. -/
theorem transRequest_refused : transRequest.WellFormed transParse ∧ VideoPorts.initial.HasFree ∧
    ¬ ∀ requests, Serves transParse .initial [] requests := by
  refine ⟨?_, VideoPorts.hasFree_initial, fun serves => not_serves_cons (serves [transRequest])⟩
  unfold TransRequest.WellFormed
  decide +kernel

end Gb28181.SipServer
