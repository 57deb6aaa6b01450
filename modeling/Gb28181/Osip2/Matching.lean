import Gb28181.Osip2.Fsm

/-! Which transaction a message belongs to: the matching of requests and responses in
`osip_transaction.c`, and the older comparisons of `osip_call_id.c`, `osip_from.c`,
`osip_cseq.c` and `osip_via.c`. -/

namespace Gb28181.Osip2

open Gb28181.Lib Gb28181.Osip

/-- What the parser library reads of headers to match messages. A parameter may be there without
a value. -/
structure MatchLib (Header : Type) extends StackLib Header where
  branch : Header → Option (Option Text)
  viaHost : Header → Option Text
  viaPort : Header → Option Text
  callIdHost : Header → Option Text
  tag : Header → Option (Option Text)
  cseqNumber : Header → Option Text
  cseqMethod : Header → Option Text

def strcmpEq (text other : Text) : Bool := cString text = cString other

def strlen (text : Text) : Nat := (cString text).length

variable {Header : Type} (lib : MatchLib Header)

def osipCallIdMatch (callid1 : Header) (callid2 : Option Header) : Bool :=
  match callid2 with
  | none => false
  | some callid2 =>
    match lib.number callid1, lib.number callid2 with
    | some number1, some number2 =>
      strcmpEq number1 number2 &&
        match lib.callIdHost callid1, lib.callIdHost callid2 with
        | none, none => true
        | some host1, some host2 => strcmpEq host1 host2
        | _, _ => false
    | _, _ => false

/-- `osip_from_tag_match` and `osip_to_tag_match`. -/
def osipTagMatch (from1 : Header) (from2 : Option Header) : Bool :=
  match from2 with
  | none => false
  | some from2 =>
    match lib.tag from1, lib.tag from2 with
    | none, none => true
    | some (some tag1), some (some tag2) => strcmpEq tag1 tag2
    | _, _ => false

def isInviteOrAck (method : Text) : Bool :=
  strcmpEq method "INVITE".toList || strcmpEq method "ACK".toList

def osipCseqMatch (cseq1 cseq2 : Header) : Bool :=
  match lib.cseqNumber cseq1, lib.cseqNumber cseq2, lib.cseqMethod cseq1, lib.cseqMethod cseq2 with
  | some number1, some number2, some method1, some method2 =>
    strcmpEq number1 number2 &&
      if isInviteOrAck method2 then isInviteOrAck method1 else strcmpEq method1 method2
  | _, _, _, _ => false

def osipViaMatch (via1 via2 : Header) : Bool :=
  match lib.toStr via1, lib.toStr via2 with
  | some text1, some text2 => strcmpEq text1 text2
  | _, _ => false

/-- The tags of To, where an ACK may bring one that the INVITE did not have. -/
def toTagMatch (tr : Origin Header) (request : OsipMessage Header) : Bool :=
  if msgIsMethod "ACK" request then
    match lib.tag tr.toHeader, request.toHeader.bind lib.tag with
    | none, some _ => true
    | some _, none => false
    | _, _ => osipTagMatch lib tr.toHeader request.toHeader
  else osipTagMatch lib tr.toHeader request.toHeader

def sentByMatch (tr : Origin Header) (via : Header) : Bool :=
  match lib.viaHost via, lib.viaHost tr.topvia with
  | some host, some origHost =>
    strcmpEq origHost host &&
      match lib.viaPort via, lib.viaPort tr.topvia with
      | some port, none => strcmpEq port "5060".toList
      | none, some origPort => strcmpEq origPort "5060".toList
      | some port, some origPort => strcmpEq origPort port
      | none, none => true
  | _, _ => false

/-- The mechanism for requests without the magic cookie. -/
def backwardMatch (tr : Origin Header) (request : OsipMessage Header) (cseq via : Header) : Bool :=
  osipCallIdMatch lib tr.callid request.callId && toTagMatch lib tr request &&
    osipTagMatch lib tr.fromHeader request.fromHeader && osipCseqMatch lib tr.cseq cseq &&
      osipViaMatch lib tr.topvia via

def hasCookie (branch : Text) : Bool := strncmpEq (cString branch) "z9hG4bK".toList 7

/-- `__osip_transaction_matching_request_osip_to_xist_17_2_3`. -/
def matchingRequest (tr : Origin Header) (request : OsipMessage Header) : Bool :=
  if tr.ctxType = .ict ∨ tr.ctxType = .nict then false
  else
    match request.cseq, request.cseq.bind lib.cseqMethod, request.vias.head? with
    | some cseq, some method, some via =>
      match lib.branch tr.topvia, lib.branch via with
      | none, none => backwardMatch lib tr request cseq via
      | some (some origBranch), some (some branch) =>
        if strlen origBranch ≠ strlen branch then false
        else if hasCookie origBranch ∧ hasCookie branch then
          strcmpEq origBranch branch && sentByMatch lib tr via &&
            match lib.cseqMethod tr.cseq with
            | some origMethod =>
              strcmpEq origMethod "INVITE".toList && strcmpEq method "ACK".toList ||
                strcmpEq origMethod method
            | none => false
        else backwardMatch lib tr request cseq via
      | _, _ => false
    | _, _, _ => false

/-- `__osip_transaction_matching_response_osip_to_xict_17_1_3`. -/
def matchingResponse (tr : Origin Header) (response : OsipMessage Header) : Bool :=
  if tr.ctxType = .ist ∨ tr.ctxType = .nist then false
  else
    match response.cseq.bind lib.cseqMethod, response.vias.head? with
    | some method, some via =>
      match lib.branch tr.topvia, lib.branch via, lib.cseqMethod tr.cseq with
      | some (some origBranch), some (some branch), some origMethod =>
        strcmpEq origBranch branch && strcmpEq method origMethod
      | _, _, _ => false
    | _, _ => false

/-- `osip_transaction_find`, for a message that came in. -/
def matchingMessage (tr : Origin Header) (sip : OsipMessage Header) : Bool :=
  if msgIsRequest sip then matchingRequest lib tr sip else matchingResponse lib tr sip

/-- `__osip_find_transaction` chooses the list by the method of the CSeq. -/
def listOfMessage (sip : OsipMessage Header) : Option FsmType :=
  match sip.cseq.bind lib.cseqMethod with
  | none => none
  | some method =>
    if msgIsRequest sip then if isInviteOrAck method then some .ist else some .nist
    else if strcmpEq method "INVITE".toList then some .ict else some .nict

/-- A copy reads as the original does. -/
structure CopiesAlike : Prop where
  branch : ∀ header copy, lib.clone header = some copy → lib.branch copy = lib.branch header
  viaHost : ∀ header copy, lib.clone header = some copy → lib.viaHost copy = lib.viaHost header
  viaPort : ∀ header copy, lib.clone header = some copy → lib.viaPort copy = lib.viaPort header
  number : ∀ header copy, lib.clone header = some copy → lib.number copy = lib.number header
  callIdHost : ∀ header copy, lib.clone header = some copy →
    lib.callIdHost copy = lib.callIdHost header
  tag : ∀ header copy, lib.clone header = some copy → lib.tag copy = lib.tag header
  cseqNumber : ∀ header copy, lib.clone header = some copy →
    lib.cseqNumber copy = lib.cseqNumber header
  cseqMethod : ∀ header copy, lib.clone header = some copy →
    lib.cseqMethod copy = lib.cseqMethod header
  toStr : ∀ header copy, lib.clone header = some copy → lib.toStr copy = lib.toStr header

/-- A parameter that is there has a value. -/
def Valued (parameter : Option (Option Text)) : Prop := parameter ≠ some none

/-- A request whose headers are complete, and whose CSeq has the method of its first line. -/
structure Complete (request : OsipMessage Header) : Prop where
  isRequest : msgIsRequest request
  notAck : msgIsMethod "ACK" request = false
  sameMethod : ∃ method cseqMethod, request.sipMethod = some method ∧
    request.cseq.bind lib.cseqMethod = some cseqMethod ∧ strcmpEq cseqMethod method
  via : ∀ via, request.vias.head? = some via →
    lib.viaHost via ≠ none ∧ lib.toStr via ≠ none ∧ Valued (lib.branch via)
  fromTag : ∀ header, request.fromHeader = some header → Valued (lib.tag header)
  toTag : ∀ header, request.toHeader = some header → Valued (lib.tag header)
  cseqNumber : ∀ cseq, request.cseq = some cseq → lib.cseqNumber cseq ≠ none

variable {lib : MatchLib Header} {request : OsipMessage Header} {tr : Transaction Header}
  {ctxType : FsmType} {now : Int} {header copy : Header}

@[simp] theorem strcmpEq_self (text : Text) : strcmpEq text text = true := decide_eq_true rfl

theorem osipTagMatch_copy (same : lib.tag copy = lib.tag header) (valued : Valued (lib.tag header)) :
    osipTagMatch lib copy (some header) = true := by
  unfold osipTagMatch
  dsimp only
  rw [same]
  cases tag : lib.tag header with
  | none => rfl
  | some value =>
    cases value with
    | none => exact absurd tag valued
    | some text => exact strcmpEq_self text

theorem osipCallIdMatch_copy (sameNumber : lib.number copy = lib.number header)
    (sameHost : lib.callIdHost copy = lib.callIdHost header) (numbered : lib.number header ≠ none) :
    osipCallIdMatch lib copy (some header) = true := by
  unfold osipCallIdMatch
  dsimp only
  rw [sameNumber, sameHost]
  cases number : lib.number header with
  | none => exact absurd number numbered
  | some text =>
    cases lib.callIdHost header with
    | none =>
      dsimp only
      rw [strcmpEq_self, Bool.and_self]
    | some host =>
      dsimp only
      rw [strcmpEq_self, strcmpEq_self, Bool.and_self]

theorem osipCseqMatch_copy (sameNumber : lib.cseqNumber copy = lib.cseqNumber header)
    (sameMethod : lib.cseqMethod copy = lib.cseqMethod header)
    (numbered : lib.cseqNumber header ≠ none) (named : lib.cseqMethod header ≠ none) :
    osipCseqMatch lib copy header = true := by
  unfold osipCseqMatch
  rw [sameNumber, sameMethod]
  cases number : lib.cseqNumber header with
  | none => exact absurd number numbered
  | some digits =>
    cases method : lib.cseqMethod header with
    | none => exact absurd method named
    | some name =>
      dsimp only
      rw [strcmpEq_self, strcmpEq_self]
      cases isInviteOrAck name <;> rfl

theorem osipViaMatch_copy (same : lib.toStr copy = lib.toStr header)
    (prints : lib.toStr header ≠ none) : osipViaMatch lib copy header = true := by
  unfold osipViaMatch
  rw [same]
  cases text : lib.toStr header with
  | none => exact absurd text prints
  | some printed => exact strcmpEq_self printed

theorem sentByMatch_copy {origin : Origin Header} {via : Header}
    (sameHost : lib.viaHost origin.topvia = lib.viaHost via)
    (samePort : lib.viaPort origin.topvia = lib.viaPort via) (hosted : lib.viaHost via ≠ none) :
    sentByMatch lib origin via = true := by
  unfold sentByMatch
  rw [sameHost, samePort]
  cases host : lib.viaHost via with
  | none => exact absurd host hosted
  | some name =>
    cases lib.viaPort via with
    | none =>
      dsimp only
      rw [strcmpEq_self, Bool.and_self]
    | some port =>
      dsimp only
      rw [strcmpEq_self, strcmpEq_self, Bool.and_self]

/-- The headers that a transaction copies. -/
structure CreatedFor (lib : MatchLib Header) (ctxType : FsmType) (request : OsipMessage Header)
    (origin : Origin Header) : Prop where
  ctxType : origin.ctxType = ctxType
  callid : ∃ header, request.callId = some header ∧ lib.clone header = some origin.callid ∧
    lib.number header ≠ none
  topvia : ∃ header, request.vias.head? = some header ∧ lib.clone header = some origin.topvia
  fromHeader : ∃ header, request.fromHeader = some header ∧
    lib.clone header = some origin.fromHeader
  toHeader : ∃ header, request.toHeader = some header ∧ lib.clone header = some origin.toHeader
  cseq : ∃ header, request.cseq = some header ∧ lib.clone header = some origin.cseq

theorem osipTransactionInit_createdFor
    (init : osipTransactionInit lib.toStackLib ctxType request now = some tr) :
    CreatedFor lib ctxType request tr.toOrigin := by
  simp only [osipTransactionInit, bind, Option.bind_eq_some_iff, pure, Option.some.injEq] at init
  obtain ⟨callId, hasCallId, number, hasNumber, via, hasVia, topvia, clonesVia, fromCopy,
    ⟨fromHeader, hasFrom, clonesFrom⟩, toCopy, ⟨toHeader, hasTo, clonesTo⟩, callid, clonesCallId,
    cseqCopy, ⟨cseq, hasCseq, clonesCseq⟩, _, _, same⟩ := init
  subst same
  exact ⟨rfl, ⟨callId, hasCallId, clonesCallId, hasNumber ▸ Option.some_ne_none number⟩,
    ⟨via, hasVia, clonesVia⟩, ⟨fromHeader, hasFrom, clonesFrom⟩, ⟨toHeader, hasTo, clonesTo⟩,
    ⟨cseq, hasCseq, clonesCseq⟩⟩

/-- A complete request matches the transaction that was created for it. -/
theorem matchingRequest_created (alike : CopiesAlike lib) (complete : Complete lib request)
    (serves : ctxType = .ist ∨ ctxType = .nist) {origin : Origin Header}
    (created : CreatedFor lib ctxType request origin) :
    matchingRequest lib origin request = true := by
  obtain ⟨type, ⟨callId, hasCallId, clonesCallId, numbered⟩, ⟨via, hasVia, clonesVia⟩,
    ⟨fromHeader, hasFrom, clonesFrom⟩, ⟨toHeader, hasTo, clonesTo⟩,
    ⟨cseq, hasCseq, clonesCseq⟩⟩ := created
  obtain ⟨method, cseqMethod, -, hasMethod, -⟩ := complete.sameMethod
  obtain ⟨hosted, prints, valued⟩ := complete.via via hasVia
  rw [hasCseq, Option.bind_some] at hasMethod
  have named : lib.cseqMethod cseq ≠ none := hasMethod ▸ Option.some_ne_none cseqMethod
  have backward : backwardMatch lib origin request cseq via = true := by
    unfold backwardMatch toTagMatch
    rw [if_neg (Bool.eq_false_iff.mp complete.notAck), hasCallId, hasTo, hasFrom,
      osipCallIdMatch_copy (alike.number _ _ clonesCallId) (alike.callIdHost _ _ clonesCallId)
        numbered,
      osipTagMatch_copy (alike.tag _ _ clonesTo) (complete.toTag _ hasTo),
      osipTagMatch_copy (alike.tag _ _ clonesFrom) (complete.fromTag _ hasFrom),
      osipCseqMatch_copy (alike.cseqNumber _ _ clonesCseq) (alike.cseqMethod _ _ clonesCseq)
        (complete.cseqNumber _ hasCseq) named,
      osipViaMatch_copy (alike.toStr _ _ clonesVia) prints]
    rfl
  have server : ¬ (origin.ctxType = .ict ∨ origin.ctxType = .nict) := by
    rw [type]
    rcases serves with rfl | rfl <;> decide
  unfold matchingRequest
  rw [if_neg server, hasCseq, Option.bind_some, hasVia, hasMethod,
    alike.cseqMethod _ _ clonesCseq, hasMethod]
  dsimp only
  rw [alike.branch _ _ clonesVia]
  cases branch : lib.branch via with
  | none => exact backward
  | some value =>
    cases value with
    | none => exact absurd branch valued
    | some text =>
      dsimp only
      rw [if_neg (not_not.mpr rfl)]
      split
      · rw [strcmpEq_self, strcmpEq_self, Bool.or_true, Bool.and_true, Bool.true_and]
        exact sentByMatch_copy (alike.viaHost _ _ clonesVia) (alike.viaPort _ _ clonesVia) hosted
      · exact backward

/-- The list that a complete request is looked for in is that of its transaction. -/
theorem listOfMessage_complete (complete : Complete lib request) :
    listOfMessage lib request =
      some (if msgIsMethod "INVITE" request then .ist else .nist) := by
  obtain ⟨method, cseqMethod, hasMethod, hasCseqMethod, same⟩ := complete.sameMethod
  have sameText : cString cseqMethod = cString method := of_decide_eq_true same
  have notAck := complete.notAck
  have literals : cString "INVITE".toList = "INVITE".toList ∧
      cString "ACK".toList = "ACK".toList := by
    simp [cString]
  unfold msgIsMethod at notAck
  rw [complete.isRequest, hasMethod, Bool.true_and, Option.map_some, decide_eq_false_iff_not,
    Option.some.injEq] at notAck
  unfold listOfMessage isInviteOrAck strcmpEq msgIsMethod
  rw [hasCseqMethod, complete.isRequest, hasMethod, Bool.true_and, Option.map_some, literals.1,
    literals.2]
  dsimp only
  rw [sameText, if_pos rfl, decide_eq_false notAck, Bool.or_false]
  simp only [Option.some.injEq]
  split <;> rfl

/-- What stands behind a name, up to the next parameter. -/
def textParameter (name value : Text) : Option (Option Text) :=
  (strstr value name).map fun offset =>
    some ((value.drop (offset + name.length)).takeWhile (· ≠ ';'))

def textSentBy (value : Text) : Text := ((value.dropWhile (· ≠ ' ')).drop 1).takeWhile (· ≠ ';')

def textMatchLib : MatchLib Text where
  toStackLib := textLib
  branch := textParameter "branch=".toList
  viaHost := fun value => some ((textSentBy value).takeWhile (· ≠ ':'))
  viaPort := fun value =>
    let port := (textSentBy value).dropWhile (· ≠ ':')
    if port = [] then none else some (port.drop 1)
  callIdHost := fun value =>
    let host := value.dropWhile (· ≠ '@')
    if host = [] then none else some (host.drop 1)
  tag := textParameter ";tag=".toList
  cseqNumber := fun value => some (value.takeWhile (· ≠ ' '))
  cseqMethod := fun value => some ((value.dropWhile (· ≠ ' ')).drop 1)

theorem textMatchLib_copiesAlike : CopiesAlike textMatchLib := by
  constructor <;> exact fun _ _ same => Option.some.inj same ▸ rfl

theorem textParameter_valued (name value : Text) : Valued (textParameter name value) := by
  intro same
  obtain ⟨_, _, empty⟩ := Option.map_eq_some_iff.mp same
  cases empty

theorem optionsRequest_complete : Complete textMatchLib optionsRequest where
  isRequest := rfl
  notAck := rfl
  sameMethod := ⟨_, _, rfl, rfl, rfl⟩
  via := fun _ _ => ⟨Option.some_ne_none _, Option.some_ne_none _, textParameter_valued _ _⟩
  fromTag := fun _ _ => textParameter_valued _ _
  toTag := fun _ _ => textParameter_valued _ _
  cseqNumber := fun _ _ => Option.some_ne_none _

end Gb28181.Osip2
