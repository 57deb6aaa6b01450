import Gb28181.Lib.Text

/-! `osip_message_to_str.c`: a SIP message and how it is written into a buffer, with the
head and the tail the V3 protocol puts around it. -/

namespace Gb28181.Osip

open Gb28181.Lib

/-- What the parser library does with a header or a URI, whatever its kind: it prints and
copies it, and gives the type and the boundary of a Content-Type. -/
structure HeaderLib (Header : Type) where
  toStr : Header → Option Text
  clone : Header → Option Header
  type : Header → Option Text
  boundary : Header → Option Text

structure OsipBody (Header : Type) where
  body : Text
  contentType : Option Header
  headers : List Header

/-- An `osip_message_t`. The buffer `message` stands with its terminating zero. -/
structure OsipMessage (Header : Type) where
  sipVersion : Option Text
  reqUri : Option Header
  sipMethod : Option Text
  statusCode : Int
  reasonPhrase : Option Text
  accepts : List Header
  acceptEncodings : List Header
  acceptLanguages : List Header
  alertInfos : List Header
  allows : List Header
  authenticationInfos : List Header
  authorizations : List Header
  callId : Option Header
  callInfos : List Header
  contacts : List Header
  contentEncodings : List Header
  contentLength : Option Header
  contentType : Option Header
  cseq : Option Header
  errorInfos : List Header
  fromHeader : Option Header
  mimeVersion : Option Header
  proxyAuthenticates : List Header
  proxyAuthenticationInfos : List Header
  proxyAuthorizations : List Header
  recordRoutes : List Header
  routes : List Header
  toHeader : Option Header
  vias : List Header
  wwwAuthenticates : List Header
  headers : List Header
  bodies : List (OsipBody Header)
  messageProperty : Int
  message : Option Text
  messageLength : Nat
  v3Head : Option Text

/-- `osip_message_init`. -/
def OsipMessage.init (Header : Type) : OsipMessage Header where
  sipVersion := none
  reqUri := none
  sipMethod := none
  statusCode := 0
  reasonPhrase := none
  accepts := []
  acceptEncodings := []
  acceptLanguages := []
  alertInfos := []
  allows := []
  authenticationInfos := []
  authorizations := []
  callId := none
  callInfos := []
  contacts := []
  contentEncodings := []
  contentLength := none
  contentType := none
  cseq := none
  errorInfos := []
  fromHeader := none
  mimeVersion := none
  proxyAuthenticates := []
  proxyAuthenticationInfos := []
  proxyAuthorizations := []
  recordRoutes := []
  routes := []
  toHeader := none
  vias := []
  wwwAuthenticates := []
  headers := []
  bodies := []
  messageProperty := 3
  message := none
  messageLength := 0
  v3Head := none

/-- An error code, or memory used outside of a buffer. -/
inductive Fail where
  | error | fault
  deriving DecidableEq

def crlf : Text := ['\r', '\n']

/-- A C string with its terminating zero. -/
def osipStrdup (buffer : Text) : Text := cString buffer ++ ['\x00']

def sipMessageMaxLength : Nat := 4000

def osipProtocolVersion : Text := "SIP/2.0".toList

/-- Every item printed, or nothing if one cannot be. -/
def printAll {Item : Type} (print : Item → Option Text) : List Item → Option Text
  | [] => some []
  | item :: items => do
    let text ← print item
    let texts ← printAll print items
    return text ++ texts

variable {Header : Type} (lib : HeaderLib Header) (sip : OsipMessage Header)

def startlineToStrreq : Option Text := do
  let reqUri ← sip.reqUri
  let sipMethod ← sip.sipMethod
  let rquri ← lib.toStr reqUri
  return cString sipMethod ++ [' '] ++ cString rquri ++ cString (sip.v3Head.getD []) ++ [' '] ++
    cString (sip.sipVersion.getD osipProtocolVersion)

def startlineToStrresp : Option Text := do
  let reasonPhrase ← sip.reasonPhrase
  if sip.statusCode < 100 ∨ sip.statusCode > 699 then none
  else
    return cString (sip.sipVersion.getD osipProtocolVersion) ++ [' '] ++
      (decimal sip.statusCode).take 3 ++ [' '] ++ cString reasonPhrase

def startlineToStr : Option Text :=
  if sip.sipMethod.isSome then startlineToStrreq lib sip
  else if sip.statusCode ≠ 0 then startlineToStrresp sip
  else none

/-- The place of the head, for which the length is not known yet. -/
def v3HeadExt : Text := List.replicate 6 '\xfe'

/-- The start line behind the place of the head. A `sipfrag` part without one has no such
place, and a line that is too long overruns the buffer. -/
def startPart (sipfrag : Bool) : Except Fail Text :=
  match startlineToStr lib sip with
  | some line =>
    if 6 + line.length + 2 < sipMessageMaxLength then .ok (v3HeadExt ++ line ++ crlf)
    else .error .fault
  | none => if sipfrag then .ok [] else .error .error

/-- A row of the table: a header that is there or not, or a list of headers. -/
inductive Row (Header : Type) where
  | simple (data : Option Header)
  | list (items : List Header)

def OsipMessage.table : List (Text × Row Header) :=
  [("Via: ".toList, .list sip.vias),
    ("Record-Route: ".toList, .list sip.recordRoutes),
    ("Route: ".toList, .list sip.routes),
    ("From: ".toList, .simple sip.fromHeader),
    ("To: ".toList, .simple sip.toHeader),
    ("Call-ID: ".toList, .simple sip.callId),
    ("CSeq: ".toList, .simple sip.cseq),
    ("Contact: ".toList, .list sip.contacts),
    ("Authorization: ".toList, .list sip.authorizations),
    ("WWW-Authenticate: ".toList, .list sip.wwwAuthenticates),
    ("Proxy-Authenticate: ".toList, .list sip.proxyAuthenticates),
    ("Proxy-Authorization: ".toList, .list sip.proxyAuthorizations),
    ("Content-Type: ".toList, .simple sip.contentType),
    ("Mime-Version: ".toList, .simple sip.mimeVersion),
    ("Allow: ".toList, .list sip.allows),
    ("Content-Encoding: ".toList, .list sip.contentEncodings),
    ("Call-Info: ".toList, .list sip.callInfos),
    ("Alert-Info: ".toList, .list sip.alertInfos),
    ("Error-Info: ".toList, .list sip.errorInfos),
    ("Accept: ".toList, .list sip.accepts),
    ("Accept-Encoding: ".toList, .list sip.acceptEncodings),
    ("Accept-Language: ".toList, .list sip.acceptLanguages),
    ("Authentication-Info: ".toList, .list sip.authenticationInfos),
    ("Proxy-Authentication-Info: ".toList, .list sip.proxyAuthenticationInfos)]

def headerLine (name : Text) (header : Header) : Option Text :=
  (lib.toStr header).map (fun text => name ++ cString text ++ crlf)

/-- `strcat_simple_header`, whose result nobody looks at: of a header that cannot be printed
only the name is left. -/
def strcatSimpleHeader (name : Text) : Option Header → Text
  | none => []
  | some header => (headerLine lib name header).getD name

def rowToStr (row : Text × Row Header) : Option Text :=
  match row.2 with
  | .simple data => some (strcatSimpleHeader lib row.1 data)
  | .list items => printAll (headerLine lib row.1) items

def headersToStr : Option Text := do
  let rows ← printAll (rowToStr lib) sip.table
  let others ← printAll (headerLine lib []) sip.headers
  return rows ++ others

/-- `osip_body_to_str`. -/
def bodyToStr (body : OsipBody Header) : Option Text :=
  if body.body.length ≤ 0 then none
  else do
    let contentType ← printAll (headerLine lib "content-type: ".toList) body.contentType.toList
    let headers ← printAll (headerLine lib []) body.headers
    return contentType ++ headers ++
      (if body.headers.length > 0 ∨ body.contentType.isSome then crlf else []) ++ body.body

def mimeMaxBoundaryLen : Nat := 70

/-- What stands before each body of a multipart message. -/
def boundaryOf : Except Fail (Option Text) :=
  match sip.contentType with
  | some contentType =>
    if sip.mimeVersion.isSome ∧
        (lib.type contentType).any (strcasecmpEq · "multipart".toList) then
      match lib.boundary contentType with
      | some gvalue =>
        if gvalue.length > mimeMaxBoundaryLen then .error .error
        else if gvalue = ['"'] then .error .fault
        else if gvalue.head? = some '"' ∧ gvalue.getLast? = some '"' then
          .ok (some (crlf ++ ['-', '-'] ++ cString (gvalue.tail.dropLast)))
        else .ok (some (crlf ++ ['-', '-'] ++ cString gvalue))
      | none => .ok none
    else .ok none
  | none => .ok none

def bodiesToStr : Except Fail Text := do
  let boundary ← boundaryOf lib sip
  let opening := match boundary with
    | some boundary => boundary ++ crlf
    | none => []
  let closing := match boundary with
    | some boundary => boundary ++ ['-', '-'] ++ crlf
    | none => []
  match printAll (fun body => (bodyToStr lib body).map (opening ++ ·)) sip.bodies with
  | some bodies => return bodies ++ closing
  | none => throw .error

/-- The loop over the parts of the length: the remainders by 256, then zeros. -/
def eachPartLen : Nat → Int → Text
  | 0, _ => []
  | parts + 1, nCurBodyLen =>
    if nCurBodyLen > 0 then
      Char.ofNat (nCurBodyLen % 256).toNat :: eachPartLen parts (nCurBodyLen / 256)
    else '\x00' :: eachPartLen parts nCurBodyLen

/-- The head for a frame of a length, which is computed as an `int`. -/
def v3FrameHead (totalLength : Nat) : Text :=
  '\x00' :: eachPartLen 4 (((totalLength : Int) - 6).bmod (2 ^ 32)) ++ ['\x01']

def contentLengthName : Text := "Content-Length: ".toList

/-- A buffer as it is before the head is put in, the length computed beside it, and the copy
that is kept in the message. -/
structure Draft where
  dest : Text
  totalLength : Nat
  message : Text

/-- The exit for a `sipfrag` part without a body. -/
def fragmentDraft (message : Text) : Draft :=
  let dest := message ++ crlf ++ ['#']
  ⟨dest, dest.length, osipStrdup dest⟩

/-- The exit for a message without a body. -/
def bodilessDraft (message : Text) : Draft :=
  let message := message ++ contentLengthName ++ ['0'] ++ crlf ++ crlf
  let dest := message ++ ['#']
  ⟨dest, message.length + 1, osipStrdup dest⟩

/-- The exit for a message with bodies, whose length goes over the blanks left for it. -/
def bodiesDraft (message bodies : Text) : Draft :=
  let contentLengthToModify := (message ++ contentLengthName).length
  let message := message ++ contentLengthName ++ List.replicate 5 ' ' ++ crlf ++ crlf
  let size := decimal ((bodies.length : Int).bmod (2 ^ 32))
  let dest := writeAt (contentLengthToModify + 5 - size.length) size (message ++ bodies) ++ ['#']
  ⟨dest, message.length + bodies.length + 1, dest ++ ['\x00']⟩

def draft (sipfrag : Bool) : Except Fail Draft := do
  let start ← startPart lib sip sipfrag
  match headersToStr lib sip with
  | none => throw .error
  | some headers =>
    if sipfrag ∧ sip.bodies.isEmpty then return fragmentDraft (start ++ headers)
    else if sip.bodies.isEmpty then return bodilessDraft (start ++ headers)
    else
      let bodies ← bodiesToStr lib sip
      return bodiesDraft (start ++ headers) bodies

/-- The bytes that go out, and the length that is reported for them. -/
structure Wire where
  dest : Text
  messageLength : Nat
  deriving DecidableEq

/-- `_osip_message_to_str`. -/
def osipMessageToStr (sipfrag : Bool) : Except Fail (Wire × OsipMessage Header) :=
  if sip.messageProperty = 1 then
    match sip.message with
    | some message =>
      if sip.messageLength ≤ message.length then
        .ok (⟨message.take sip.messageLength, sip.messageLength⟩, sip)
      else .error .fault
    | none => .error .fault
  else do
    let draft ← draft lib sip sipfrag
    if draft.message.length < 6 then throw .fault
    let head := v3FrameHead draft.totalLength
    return (⟨(head ++ draft.dest.drop 6).take draft.totalLength, draft.totalLength⟩,
      { sip with
        messageProperty := 1
        message := some (head ++ draft.message.drop 6)
        messageLength := draft.totalLength })

end Gb28181.Osip
