import Gb28181.SipUA.Sdp

/-! The events of the SIP stack and what `SipUA.cpp` reads out of them. -/

namespace Gb28181.SipUA

open Gb28181.Lib

/-- `eXosip_event_type_t`. -/
inductive EventType where
  | registrationNew | registrationSuccess | registrationFailure | registrationRefreshed
  | registrationTerminated
  | callInvite | callReinvite | callNoanswer | callProceeding | callRinging | callAnswered
  | callRedirected | callRequestfailure | callServerfailure | callGlobalfailure | callAck
  | callCancelled | callTimeout
  | callMessageNew | callMessageProceeding | callMessageAnswered | callMessageRedirected
  | callMessageRequestfailure | callMessageServerfailure | callMessageGlobalfailure
  | callClosed | callReleased
  | messageNew | messageProceeding | messageAnswered | messageRedirected
  | messageRequestfailure | messageServerfailure | messageGlobalfailure
  | subscriptionUpdate | subscriptionClosed | subscriptionNoanswer | subscriptionProceeding
  | subscriptionAnswered | subscriptionRedirected | subscriptionRequestfailure
  | subscriptionServerfailure | subscriptionGlobalfailure | subscriptionNotify
  | subscriptionReleased | inSubscriptionNew | inSubscriptionReleased
  | notificationNoanswer | notificationProceeding | notificationAnswered
  | notificationRedirected | notificationRequestfailure | notificationServerfailure
  | notificationGlobalfailure
  deriving DecidableEq, Repr

structure SipUri where
  username : Option Text
  host : Option Text
  port : Option Text
  deriving DecidableEq

structure Authorization where
  username : Option Text
  realm : Option Text
  nonce : Option Text
  response : Option Text
  uri : Option Text
  deriving DecidableEq

structure CallId where
  number : Option Text
  host : Option Text
  deriving DecidableEq

/-- The parts of an `osip_message_t` the server reads. A contact `*` has no url, an empty
Expires header no value. -/
structure SipMessage where
  statusCode : Int
  sipMethod : Text
  via : Option SipUri
  contact : Option (Option SipUri)
  fromHeader : Option SipUri
  callId : Option CallId
  expires : Option (Option Text)
  authorization : Option Authorization
  subject : Option Text
  body : Option Text
  deriving DecidableEq

/-- An `eXosip_event_t`. -/
structure Event where
  type : EventType
  tid : Int
  did : Int
  cid : Int
  request : Option SipMessage
  response : Option SipMessage
  deriving DecidableEq

structure RegisterInfo where
  szRegUser : Text
  szContactIP : Text
  iContactPort : Int
  szCallId : Text
  ucAuthorFlag : Nat
  szAuthorUser : Text
  szRealm : Text
  szNonce : Text
  szUri : Text
  szMethod : Text
  szResponse : Text
  expires : Int
  deriving DecidableEq

structure FromHeader where
  szUser : Text
  szIP : Text
  port : Int
  deriving DecidableEq

def RegisterInfo.zero : RegisterInfo := ⟨[], [], 0, [], 0, [], [], [], [], [], [], 0⟩

def FromHeader.zero : FromHeader := ⟨[], [], 0⟩

def getSdpInfo (message : Option SipMessage) : SdpInfo :=
  match message.bind SipMessage.body with
  | some body => (parseSdpBody (cString body) body.length .zero).2
  | none => .zero

def getSubject (message : Option SipMessage) : SubjectInfo :=
  match message.bind SipMessage.subject with
  | some subject => (parseSubjectHeader .zero subject).2
  | none => .zero

/-- `SipUA_GetRequestFromHeader`, for a user and a host that fit into the arrays they are
copied to unchecked. -/
def sipUAGetRequestFromHeader (event : Event) : FromHeader :=
  match event.request.bind SipMessage.fromHeader with
  | some url =>
    { szUser := url.username.getD [], szIP := url.host.getD [], port := (url.port.map atoi).getD 0 }
  | none => .zero

/-- `SipUA_GetRequestBodyContent`: the length of the body, and the body where it is not
longer than the buffer. -/
def sipUAGetRequestBodyContent (event : Event) (iMaxBodyLen : Nat) : Int × Text :=
  match event.request with
  | none => (-1, [])
  | some request =>
    match request.body with
    | none => (0, [])
    | some body =>
      (body.length, if 0 < body.length ∧ body.length ≤ iMaxBodyLen then cString body else [])

/-- The contact of a REGISTER: the address of the Via header, or else that of the contact.
The source reads the url of a contact `*` through a null pointer: there is no result then. -/
def storeContact (request : SipMessage) (info : RegisterInfo) : Option RegisterInfo :=
  let viaInfo :=
    match request.via with
    | some via =>
      { info with
        szContactIP := via.host.getD info.szContactIP
        iContactPort := (via.port.map atoi).getD info.iContactPort }
    | none => info
  match request.contact with
  | some contact => do
    let url ← contact
    let named := { viaInfo with szRegUser := url.username.getD viaInfo.szRegUser }
    if named.szContactIP.length ≤ 0 then
      some { named with
        szContactIP := url.host.getD named.szContactIP
        iContactPort := (url.port.map atoi).getD named.iContactPort }
    else some named
  | none => some viaInfo

/-- The Expires header of a REGISTER; an empty one hands a null pointer to `atoi`. -/
def storeExpires (request : SipMessage) (info : RegisterInfo) : Option RegisterInfo :=
  match request.expires with
  | some hvalue => hvalue.map fun value => { info with expires := atoi value }
  | none => some { info with expires := -1 }

def callIdString (callId : CallId) : Text :=
  match callId.number, callId.host with
  | some number, some host => number ++ "@".toList ++ host
  | some number, none => number
  | none, _ => []

/-- `osip_strdup_without_quote`. -/
def withoutQuote (text : Text) : Text :=
  match text with
  | '"' :: rest => rest.dropLast
  | _ => text

def storeAuthorization (request : SipMessage) (info : RegisterInfo) : RegisterInfo :=
  match request.authorization with
  | some header =>
    { info with
      ucAuthorFlag := 1
      szAuthorUser := (header.username.map withoutQuote).getD []
      szRealm := (header.realm.map withoutQuote).getD []
      szNonce := (header.nonce.map withoutQuote).getD []
      szUri := (header.uri.map withoutQuote).getD []
      szMethod := request.sipMethod
      szResponse := (header.response.map withoutQuote).getD [] }
  | none => { info with ucAuthorFlag := 0 }

/-- The texts of the info fit into their arrays, to which they are copied unchecked. -/
def RegisterInfo.Fits (info : RegisterInfo) : Prop :=
  ∀ text ∈ [info.szRegUser, info.szContactIP, info.szCallId, info.szAuthorUser, info.szRealm,
    info.szNonce, info.szUri, info.szMethod, info.szResponse], text.length < sipuaStringLineLen

instance (info : RegisterInfo) : Decidable info.Fits :=
  inferInstanceAs (Decidable (∀ text ∈ [_, _, _, _, _, _, _, _, _], _))

/-- `SipUA_GetRegisterInfo`: no result where it reads through a null pointer or writes past
the end of one of the arrays. -/
def sipUAGetRegisterInfo (event : Event) : Option RegisterInfo :=
  match event.request with
  | none => some .zero
  | some request => do
    let info ← storeContact request .zero
    let info := { info with szCallId := (request.callId.map callIdString).getD [] }
    let info ← storeExpires request info
    let info := storeAuthorization request info
    if info.Fits then some info else none

end Gb28181.SipUA
