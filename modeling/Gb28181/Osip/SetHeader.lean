import Mathlib.Logic.Function.Basic
import Gb28181.Osip.KnownHeaders
import Gb28181.Osip.MultipleHeader
import Gb28181.Osip.Message

/-! The functions `osip_message_set_…`: how the headers of a message are stored. -/

namespace Gb28181.Osip

open Gb28181.Lib

/-- What the parser library does with the text of a URI or of a single header. `header` is an
`osip_header_t` of a name and a value. -/
structure ParserLib (Header : Type) extends HeaderLib Header where
  uriParse : Text → Option Header
  parse : HeaderKind → Text → Option Header
  header : Text → Option Text → Header
  subtype : Header → Option Text
  value : Header → Option Text

/-- A message after a header was to be set, and whether it could be. -/
abbrev Setting (Header : Type) := OsipMessage Header × Bool

section Setters

variable {Header : Type}

/-- The text that was printed before is not valid any more. -/
def OsipMessage.touch (sip : OsipMessage Header) : OsipMessage Header :=
  { sip with messageProperty := 2 }

@[simp] theorem touch_touch (sip : OsipMessage Header) : sip.touch.touch = sip.touch := rfl

/-- A header of which a message may have several. -/
def setListHeader (parse : Text → Option Header)
    (add : Header → OsipMessage Header → OsipMessage Header) (hvalue : Option Text)
    (sip : OsipMessage Header) : Setting Header :=
  if hvalue.getD [] = [] then (sip, true)
  else match parse (hvalue.getD []) with
    | none => (sip, false)
    | some header => ((add header sip).touch, true)

/-- A header of which a message has one at most. -/
def setSimpleHeader (parse : Text → Option Header) (get : OsipMessage Header → Option Header)
    (put : Header → OsipMessage Header → OsipMessage Header) (hvalue : Option Text)
    (sip : OsipMessage Header) : Setting Header :=
  if hvalue.getD [] = [] then (sip, true)
  else if (get sip).isSome then (sip, false)
  else match parse (hvalue.getD []) with
    | none => (sip.touch, false)
    | some header => ((put header sip).touch, true)

namespace ParserLib

variable (lib : ParserLib Header)

/-- An empty Accept is a header too. -/
def osipMessageSetAccept (hvalue : Option Text) (sip : OsipMessage Header) : Setting Header :=
  match lib.parse .accept (hvalue.getD []) with
  | none => (sip, false)
  | some accept => ({ sip with accepts := sip.accepts ++ [accept] }.touch, true)

def osipMessageSetAcceptEncoding :=
  setListHeader (lib.parse .acceptEncoding) fun acceptEncoding sip =>
    { sip with acceptEncodings := sip.acceptEncodings ++ [acceptEncoding] }

def osipMessageSetAcceptLanguage :=
  setListHeader (lib.parse .acceptLanguage) fun acceptLanguage sip =>
    { sip with acceptLanguages := sip.acceptLanguages ++ [acceptLanguage] }

def osipMessageSetAlertInfo :=
  setListHeader (lib.parse .alertInfo) fun alertInfo sip =>
    { sip with alertInfos := sip.alertInfos ++ [alertInfo] }

def osipMessageSetAllow :=
  setListHeader (lib.parse .allow) fun allow sip => { sip with allows := sip.allows ++ [allow] }

def osipMessageSetAuthenticationInfo :=
  setListHeader (lib.parse .authenticationInfo) fun authenticationInfo sip =>
    { sip with authenticationInfos := sip.authenticationInfos ++ [authenticationInfo] }

def osipMessageSetAuthorization :=
  setListHeader (lib.parse .authorization) fun authorization sip =>
    { sip with authorizations := sip.authorizations ++ [authorization] }

def osipMessageSetCallId :=
  setSimpleHeader (lib.parse .callId) OsipMessage.callId fun callId sip =>
    { sip with callId := some callId }

def osipMessageSetCallInfo :=
  setListHeader (lib.parse .callInfo) fun callInfo sip =>
    { sip with callInfos := sip.callInfos ++ [callInfo] }

def osipMessageSetContact :=
  setListHeader (lib.parse .contact) fun contact sip =>
    { sip with contacts := sip.contacts ++ [contact] }

def osipMessageSetContentEncoding :=
  setListHeader (lib.parse .contentEncoding) fun contentEncoding sip =>
    { sip with contentEncodings := sip.contentEncodings ++ [contentEncoding] }

def osipMessageSetContentLength :=
  setSimpleHeader (lib.parse .contentLength) OsipMessage.contentLength fun contentLength sip =>
    { sip with contentLength := some contentLength }

/-- A second one is refused even if it is empty. -/
def osipMessageSetContentType (hvalue : Option Text) (sip : OsipMessage Header) :
    Setting Header :=
  if sip.contentType.isSome then (sip, false)
  else if hvalue.getD [] = [] then (sip, true)
  else match lib.parse .contentType (hvalue.getD []) with
    | none => (sip.touch, false)
    | some contentType => ({ sip with contentType := some contentType }.touch, true)

def osipMessageSetCseq :=
  setSimpleHeader (lib.parse .cseq) OsipMessage.cseq fun cseq sip => { sip with cseq := some cseq }

def osipMessageSetErrorInfo :=
  setListHeader (lib.parse .errorInfo) fun errorInfo sip =>
    { sip with errorInfos := sip.errorInfos ++ [errorInfo] }

def osipMessageSetFrom :=
  setSimpleHeader (lib.parse .fromHeader) OsipMessage.fromHeader fun header sip =>
    { sip with fromHeader := some header }

def osipMessageSetMimeVersion :=
  setSimpleHeader (lib.parse .mimeVersion) OsipMessage.mimeVersion fun mimeVersion sip =>
    { sip with mimeVersion := some mimeVersion }

def osipMessageSetProxyAuthenticate :=
  setListHeader (lib.parse .proxyAuthenticate) fun proxyAuthenticate sip =>
    { sip with proxyAuthenticates := sip.proxyAuthenticates ++ [proxyAuthenticate] }

def osipMessageSetProxyAuthenticationInfo :=
  setListHeader (lib.parse .proxyAuthenticationInfo) fun proxyAuthenticationInfo sip =>
    { sip with
      proxyAuthenticationInfos := sip.proxyAuthenticationInfos ++ [proxyAuthenticationInfo] }

def osipMessageSetProxyAuthorization :=
  setListHeader (lib.parse .proxyAuthorization) fun proxyAuthorization sip =>
    { sip with proxyAuthorizations := sip.proxyAuthorizations ++ [proxyAuthorization] }

def osipMessageSetRecordRoute :=
  setListHeader (lib.parse .recordRoute) fun recordRoute sip =>
    { sip with recordRoutes := sip.recordRoutes ++ [recordRoute] }

def osipMessageSetRoute :=
  setListHeader (lib.parse .route) fun route sip => { sip with routes := sip.routes ++ [route] }

def osipMessageSetTo :=
  setSimpleHeader (lib.parse .toHeader) OsipMessage.toHeader fun header sip =>
    { sip with toHeader := some header }

def osipMessageSetVia :=
  setListHeader (lib.parse .via) fun via sip => { sip with vias := sip.vias ++ [via] }

def osipMessageSetWwwAuthenticate :=
  setListHeader (lib.parse .wwwAuthenticate) fun wwwAuthenticate sip =>
    { sip with wwwAuthenticates := sip.wwwAuthenticates ++ [wwwAuthenticate] }

/-- The `setheader` of a row of `pconfig`. -/
def setheader : HeaderKind → Option Text → OsipMessage Header → Setting Header
  | .accept => lib.osipMessageSetAccept
  | .acceptEncoding => lib.osipMessageSetAcceptEncoding
  | .acceptLanguage => lib.osipMessageSetAcceptLanguage
  | .alertInfo => lib.osipMessageSetAlertInfo
  | .allow => lib.osipMessageSetAllow
  | .authenticationInfo => lib.osipMessageSetAuthenticationInfo
  | .authorization => lib.osipMessageSetAuthorization
  | .contentType => lib.osipMessageSetContentType
  | .callId => lib.osipMessageSetCallId
  | .callInfo => lib.osipMessageSetCallInfo
  | .contact => lib.osipMessageSetContact
  | .contentEncoding => lib.osipMessageSetContentEncoding
  | .contentLength => lib.osipMessageSetContentLength
  | .cseq => lib.osipMessageSetCseq
  | .errorInfo => lib.osipMessageSetErrorInfo
  | .fromHeader => lib.osipMessageSetFrom
  | .mimeVersion => lib.osipMessageSetMimeVersion
  | .proxyAuthenticate => lib.osipMessageSetProxyAuthenticate
  | .proxyAuthenticationInfo => lib.osipMessageSetProxyAuthenticationInfo
  | .proxyAuthorization => lib.osipMessageSetProxyAuthorization
  | .recordRoute => lib.osipMessageSetRecordRoute
  | .route => lib.osipMessageSetRoute
  | .toHeader => lib.osipMessageSetTo
  | .via => lib.osipMessageSetVia
  | .wwwAuthenticate => lib.osipMessageSetWwwAuthenticate

/-- `__osip_message_call_method`. -/
def callMethod (config : ParserConfig) (hvalue : Option Text) (sip : OsipMessage Header) :
    Option (OsipMessage Header) :=
  let (sip, done) := lib.setheader config.setheader hvalue sip
  if done ∨ config.ignoredWhenInvalid then some sip else none

/-- `osip_message_set_header`. -/
def osipMessageSetHeader (hname : Text) (hvalue : Option Text) (sip : OsipMessage Header) :
    OsipMessage Header :=
  { sip with
    headers := sip.headers ++ [lib.header (osipClrspace hname) (hvalue.map osipClrspace)] }.touch

/-- `osip_message_set__header`. -/
def setHeader (hname : Text) (hvalue : Option Text) (sip : OsipMessage Header) :
    Option (OsipMessage Header) :=
  match (isKnownHeader hdrRefTable hname).bind (pconfig[·]?) with
  | some config => lib.callMethod config hvalue sip
  | none => some (lib.osipMessageSetHeader hname hvalue sip)

end ParserLib

end Setters

end Gb28181.Osip
