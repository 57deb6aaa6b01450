import Gb28181.SipServer.VideoTrans

namespace Gb28181.SipServer

open Gb28181.Lib Gb28181.SipUA

def findElement (elements : List XmlElement) (name : String) : Option XmlElement :=
  elements.find? (fun element => element.name = name.toList)

/-- `getMsgCmdTypeV3`; nothing where a null pointer is taken for a text. -/
def getMsgCmdTypeV3 (parse : Text → List XmlElement) (pszBody : Text) : Option Text :=
  match findElement (parse pszBody) "IE_HEADER" with
  | none => some []
  | some header =>
    match findElement header.children "MessageType" with
    | none => some []
    | some messageType => messageType.getText

/-- The handlers that `sipServerHandleInfo` calls. -/
inductive InfoHandler where
  | v3TransReady | v3TransAck | v3TransStop | v3FileStart | v3FileStop
  deriving DecidableEq

/-- Nothing for a request that is not supported. -/
def infoHandler (strCmdType : Text) : Option InfoHandler :=
  if strCmdType = "MSG_READY_VIDEO_TRANS_REQ".toList then some .v3TransReady
  else if strCmdType = "MSG_START_VIDEO_VTDU_ACK".toList then some .v3TransAck
  else if strCmdType = "MSG_VTDU_STOP_VIDEO_REQ".toList then some .v3TransStop
  else if strCmdType = "MSG_START_FILE_VOD_TASK_REQ".toList then some .v3FileStart
  else if strCmdType = "MSG_STOP_FILE_VOD_TASK_REQ".toList then some .v3FileStop
  else none

/-- `sipServerHandleInfo` up to the handler it calls; nothing where it crashes before. -/
def sipServerHandleInfo (parse : Text → List XmlElement) (event : Event) :
    Option (Option InfoHandler) :=
  let (ret, szBody) := sipUAGetRequestBodyContent event 4096
  if ret ≤ 0 then some none else (getMsgCmdTypeV3 parse szBody).map infoHandler

/-- What the preview reads, from the elements it looks among. -/
def readElements (elements : List XmlElement) : Reading Unit := do
  readCuInfo elements
  readPuInfo elements
  readVtduRoute elements
  readOpenVideo elements

/-- A message of the type in the envelope the program itself writes: everything is inside the
element `Message`. -/
def XmlElement.Envelope (strType : Text) (message : XmlElement) : Prop :=
  message.name = "Message".toList ∧
  ∃ header messageType, findElement message.children "IE_HEADER" = some header ∧
    findElement header.children "MessageType" = some messageType ∧
    messageType.getText = some strType

/-- The type is recognised and goes to its handler, and the preview reads what is in the
message. -/
def Recognised (parse : Text → List XmlElement) (event : Event) (message : XmlElement)
    (strType : Text) : Prop :=
  getMsgCmdTypeV3 parse (sipUAGetRequestBodyContent event 4096).2 = some strType ∧
  sipServerHandleInfo parse event = some (infoHandler strType) ∧
  (strType = "MSG_READY_VIDEO_TRANS_REQ".toList → ∀ stCurMediaInfo,
    (readRequest parse event).run stCurMediaInfo =
      (readElements message.children).run stCurMediaInfo)

variable {parse : Text → List XmlElement} {event : Event} {message : XmlElement} {strType : Text}

/-- Nothing but the message stands at the top of its document. -/
theorem findElement_top {name : String} (other : message.name ≠ name.toList) :
    findElement [message] name = none := by
  unfold findElement
  rw [List.find?_cons_of_neg (by simpa using other), List.find?_nil]

theorem getMsgCmdTypeV3_message {szBody : Text} (parsed : parse szBody = [message])
    (name : message.name = "Message".toList) : getMsgCmdTypeV3 parse szBody = some [] := by
  have other : message.name ≠ "IE_HEADER".toList := by
    rw [name]
    decide
  unfold getMsgCmdTypeV3
  rw [parsed, findElement_top other]

theorem readRequest_eq (some : (sipUAGetRequestBodyContent event 4096).1 > 0) :
    readRequest parse event = readElements (parse (sipUAGetRequestBodyContent event 4096).2) := by
  unfold readRequest readElements
  dsimp only
  rw [if_neg (not_le.mpr some)]

theorem readRequest_message (some : (sipUAGetRequestBodyContent event 4096).1 > 0)
    (parsed : parse (sipUAGetRequestBodyContent event 4096).2 = [message])
    (name : message.name = "Message".toList) (stCurMediaInfo : StMediaInfo) :
    (readRequest parse event).run stCurMediaInfo =
      (.error (.refused "cannot find IE_CU_ADDRINFO".toList), stCurMediaInfo) := by
  have other : message.name ≠ "IE_CU_ADDRINFO".toList := by
    rw [name]
    decide
  have missing : [message].find? (fun element => element.name = "IE_CU_ADDRINFO".toList) = none :=
    findElement_top other
  rw [readRequest_eq some, parsed]
  unfold readElements readCuInfo firstChildElement
  rw [missing]
  rfl

/-- No message with a type is recognised: the lookups begin one level above the elements. -/
theorem message_recognised_iff (parse : Text → List XmlElement) (event : Event)
    (message : XmlElement) (strType : Text)
    (some : (sipUAGetRequestBodyContent event 4096).1 > 0)
    (parsed : parse (sipUAGetRequestBodyContent event 4096).2 = [message])
    (envelope : message.Envelope strType) :
    Recognised parse event message strType ↔ strType = [] := by
  have untyped := getMsgCmdTypeV3_message parsed envelope.1
  constructor
  · intro recognised
    have same := untyped.symm.trans recognised.1
    exact (Option.some.inj same).symm
  · intro empty
    have handled : sipServerHandleInfo parse event = Option.some (infoHandler []) := by
      unfold sipServerHandleInfo
      dsimp only
      rw [if_neg (not_le.mpr some), untyped]
      rfl
    rw [empty]
    refine ⟨untyped, handled, fun preview => ?_⟩
    exact absurd preview (by decide)

def messageBody : Text :=
  "<Message Version=\"1.0.2\"><IE_HEADER><MessageType>MSG_READY_VIDEO_TRANS_REQ</MessageType></IE_HEADER></Message>".toList

def messageElement : XmlElement :=
  .element "Message".toList none [.element "IE_HEADER".toList none
    [.element "MessageType".toList (some "MSG_READY_VIDEO_TRANS_REQ".toList) []]]

/-- Gives the element of `messageBody`. -/
def messageParse (szBody : Text) : List XmlElement :=
  if szBody = messageBody then [messageElement] else []

def messageEvent : Event :=
  { type := .messageNew, tid := 1, did := 0, cid := 0, response := none
    request := some ⟨0, "INFO".toList, none, none, none, none, none, none, none,
      some messageBody⟩ }

theorem messageElement_envelope :
    messageElement.Envelope "MSG_READY_VIDEO_TRANS_REQ".toList :=
  ⟨rfl, _, _, rfl, rfl, rfl⟩

theorem messageEvent_body : (sipUAGetRequestBodyContent messageEvent 4096).1 > 0 ∧
    (sipUAGetRequestBodyContent messageEvent 4096).2 = messageBody := by
  have spelled : messageBody = _ := toList_literal _ rfl
  unfold messageEvent
  rw [spelled]
  decide +kernel

theorem messageEvent_parsed :
    messageParse (sipUAGetRequestBodyContent messageEvent 4096).2 = [messageElement] := by
  rw [messageEvent_body.2]
  exact if_pos rfl

theorem message_recognised_preview :
    (Recognised messageParse messageEvent messageElement "MSG_READY_VIDEO_TRANS_REQ".toList ↔
      "MSG_READY_VIDEO_TRANS_REQ".toList = []) :=
  message_recognised_iff messageParse messageEvent messageElement _ messageEvent_body.1
    messageEvent_parsed messageElement_envelope

/-- Its type is not recognised, and no handler is called. -/
theorem preview_unrecognised :
    messageElement.Envelope "MSG_READY_VIDEO_TRANS_REQ".toList ∧
    sipServerHandleInfo messageParse messageEvent = some none ∧
    ¬ Recognised messageParse messageEvent messageElement
      "MSG_READY_VIDEO_TRANS_REQ".toList := by
  have untyped := getMsgCmdTypeV3_message messageEvent_parsed rfl
  refine ⟨messageElement_envelope, ?_, ?_⟩
  · unfold sipServerHandleInfo
    dsimp only
    rw [if_neg (not_le.mpr messageEvent_body.1), untyped]
    decide
  · intro recognised
    have same := untyped.symm.trans recognised.1
    exact absurd (Option.some.inj same) (by decide)

end Gb28181.SipServer
