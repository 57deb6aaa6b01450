import Gb28181.Osip.Frame
import Mathlib.Data.List.Forall2

/-! `osip_message_clone`, and what is written for a copy of a message. -/

namespace Gb28181.Osip

open Gb28181.Lib

/-- `osip_list_clone`. -/
def osipListClone {Item : Type} (cloneFunc : Item → Option Item) : List Item → Option (List Item)
  | [] => some []
  | item :: items => do
    let copy ← cloneFunc item
    let copies ← osipListClone cloneFunc items
    return copy :: copies

section Definitions

variable {Header : Type} (lib : HeaderLib Header)

def cloneData : Option Header → Option (Option Header)
  | none => some none
  | some header => (lib.clone header).map some

/-- `osip_body_clone`. -/
def osipBodyClone (body : OsipBody Header) : Option (OsipBody Header) :=
  if body.body.length ≤ 0 then none
  else do
    let contentType ← cloneData lib body.contentType
    let headers ← osipListClone lib.clone body.headers
    return ⟨body.body, contentType, headers⟩

/-- `osip_message_clone`. The texts are copied as C strings, and `v3_head` is not copied. -/
def osipMessageClone (sip : OsipMessage Header) : Option (OsipMessage Header) := do
  let reqUri ← cloneData lib sip.reqUri
  let accepts ← osipListClone lib.clone sip.accepts
  let acceptEncodings ← osipListClone lib.clone sip.acceptEncodings
  let acceptLanguages ← osipListClone lib.clone sip.acceptLanguages
  let alertInfos ← osipListClone lib.clone sip.alertInfos
  let allows ← osipListClone lib.clone sip.allows
  let authenticationInfos ← osipListClone lib.clone sip.authenticationInfos
  let callInfos ← osipListClone lib.clone sip.callInfos
  let contentEncodings ← osipListClone lib.clone sip.contentEncodings
  let errorInfos ← osipListClone lib.clone sip.errorInfos
  let proxyAuthenticationInfos ← osipListClone lib.clone sip.proxyAuthenticationInfos
  let authorizations ← osipListClone lib.clone sip.authorizations
  let callId ← cloneData lib sip.callId
  let contacts ← osipListClone lib.clone sip.contacts
  let contentLength ← cloneData lib sip.contentLength
  let contentType ← cloneData lib sip.contentType
  let cseq ← cloneData lib sip.cseq
  let fromHeader ← cloneData lib sip.fromHeader
  let mimeVersion ← cloneData lib sip.mimeVersion
  let proxyAuthenticates ← osipListClone lib.clone sip.proxyAuthenticates
  let proxyAuthorizations ← osipListClone lib.clone sip.proxyAuthorizations
  let recordRoutes ← osipListClone lib.clone sip.recordRoutes
  let routes ← osipListClone lib.clone sip.routes
  let toHeader ← cloneData lib sip.toHeader
  let vias ← osipListClone lib.clone sip.vias
  let wwwAuthenticates ← osipListClone lib.clone sip.wwwAuthenticates
  let headers ← osipListClone lib.clone sip.headers
  let bodies ← osipListClone (osipBodyClone lib) sip.bodies
  return { OsipMessage.init Header with
    sipMethod := sip.sipMethod.map cString
    sipVersion := sip.sipVersion.map cString
    statusCode := sip.statusCode
    reasonPhrase := sip.reasonPhrase.map cString
    reqUri := reqUri
    accepts := accepts
    acceptEncodings := acceptEncodings
    acceptLanguages := acceptLanguages
    alertInfos := alertInfos
    allows := allows
    authenticationInfos := authenticationInfos
    callInfos := callInfos
    contentEncodings := contentEncodings
    errorInfos := errorInfos
    proxyAuthenticationInfos := proxyAuthenticationInfos
    authorizations := authorizations
    callId := callId
    contacts := contacts
    contentLength := contentLength
    contentType := contentType
    cseq := cseq
    fromHeader := fromHeader
    mimeVersion := mimeVersion
    proxyAuthenticates := proxyAuthenticates
    proxyAuthorizations := proxyAuthorizations
    recordRoutes := recordRoutes
    routes := routes
    toHeader := toHeader
    vias := vias
    wwwAuthenticates := wwwAuthenticates
    headers := headers
    bodies := bodies
    messageLength := sip.messageLength
    message := sip.message.map osipStrdup
    messageProperty := sip.messageProperty }

/-- A copy of a header that cannot be told from it. -/
structure Alike (copy header : Header) : Prop where
  toStr : lib.toStr copy = lib.toStr header
  type : lib.type copy = lib.type header
  boundary : lib.boundary copy = lib.boundary header

/-- The cloning functions of the headers make such copies. -/
def Copies : Prop := ∀ header copy, lib.clone header = some copy → Alike lib copy header

def OsipBody.parts (body : OsipBody Header) : List Header := body.contentType.toList ++ body.headers

/-- The request URI and the headers of a message and of its bodies. -/
def OsipMessage.parts (sip : OsipMessage Header) : List Header :=
  sip.reqUri.toList ++ sip.accepts ++ sip.acceptEncodings ++ sip.acceptLanguages ++
    sip.alertInfos ++ sip.allows ++ sip.authenticationInfos ++ sip.callInfos ++
    sip.contentEncodings ++ sip.errorInfos ++ sip.proxyAuthenticationInfos ++ sip.authorizations ++
    sip.callId.toList ++ sip.contacts ++ sip.contentLength.toList ++ sip.contentType.toList ++
    sip.cseq.toList ++ sip.fromHeader.toList ++ sip.mimeVersion.toList ++
    sip.proxyAuthenticates ++ sip.proxyAuthorizations ++ sip.recordRoutes ++ sip.routes ++
    sip.toHeader.toList ++ sip.vias ++ sip.wwwAuthenticates ++ sip.headers ++
    sip.bodies.flatMap OsipBody.parts

/-- Every part of a message can be cloned. -/
def Clonable (sip : OsipMessage Header) : Prop := ∀ part ∈ sip.parts, (lib.clone part).isSome

/-- The messages of a program: built by the parser or by the setters, which leave no cached
buffer that counts, written before, or cloned. -/
inductive Made : OsipMessage Header → Prop where
  | built {sip : OsipMessage Header} (uncached : sip.messageProperty ≠ 1) : Made sip
  | written {sip after : OsipMessage Header} {sipfrag : Bool} {wire : Wire} (made : Made sip)
      (printed : osipMessageToStr lib sip sipfrag = .ok (wire, after)) : Made after
  | cloned {sip copy : OsipMessage Header} (made : Made sip)
      (copied : osipMessageClone lib sip = some copy) : Made copy

end Definitions

variable {Header : Type} {lib : HeaderLib Header} {sip copy after : OsipMessage Header} {wire : Wire}

theorem osipListClone_spec {Item : Type} {cloneFunc : Item → Option Item} {Like : Item → Item → Prop}
    {items copies : List Item} (each : ∀ item copy, cloneFunc item = some copy → Like copy item)
    (cloned : osipListClone cloneFunc items = some copies) : List.Forall₂ Like copies items := by
  induction items generalizing copies with
  | nil =>
    cases cloned
    exact List.Forall₂.nil
  | cons item items ih =>
    obtain ⟨first, here, rest⟩ := Option.bind_eq_some_iff.mp cloned
    obtain ⟨others, there, same⟩ := Option.bind_eq_some_iff.mp rest
    cases same
    exact List.Forall₂.cons (each item first here) (ih there)

theorem isSome_osipListClone {Item : Type} (cloneFunc : Item → Option Item) (items : List Item) :
    (osipListClone cloneFunc items).isSome ↔ ∀ item ∈ items, (cloneFunc item).isSome := by
  induction items with
  | nil => simp [osipListClone]
  | cons item items ih =>
    rw [List.forall_mem_cons, ← ih, osipListClone]
    cases cloneFunc item with
    | none => simp
    | some copy => cases osipListClone cloneFunc items <;> simp

theorem printAll_congr {Item : Type} {print : Item → Option Text} {Like : Item → Item → Prop}
    {items copies : List Item} (each : ∀ copy item, Like copy item → print copy = print item)
    (alike : List.Forall₂ Like copies items) : printAll print copies = printAll print items := by
  induction alike with
  | nil => rfl
  | cons here _ ih => rw [printAll, printAll, each _ _ here, ih]

theorem isEmpty_congr {Item : Type} {Like : Item → Item → Prop} {items copies : List Item}
    (alike : List.Forall₂ Like copies items) : copies.isEmpty = items.isEmpty := by
  cases alike <;> rfl

theorem isSome_cloneData (data : Option Header) :
    (cloneData lib data).isSome ↔ ∀ header ∈ data.toList, (lib.clone header).isSome := by
  cases data with
  | none => simp [cloneData]
  | some header => simp [cloneData]

theorem cloneData_spec {data copied : Option Header} (copies : Copies lib)
    (cloned : cloneData lib data = some copied) : Option.Rel (Alike lib) copied data := by
  cases data with
  | none =>
    cases cloned
    exact Option.Rel.none
  | some header =>
    obtain ⟨copy, made, same⟩ := Option.map_eq_some_iff.mp cloned
    cases same
    exact Option.Rel.some (copies header copy made)

/-- The printed text of two rows is the same. -/
def RowAlike (lib : HeaderLib Header) (copy row : Text × Row Header) : Prop :=
  rowToStr lib copy = rowToStr lib row

theorem row_of_list {name : Text} {items copied : List Header} (copies : Copies lib)
    (cloned : osipListClone lib.clone items = some copied) :
    RowAlike lib (name, .list copied) (name, .list items) := by
  apply printAll_congr _ (osipListClone_spec copies cloned)
  intro copy item alike
  rw [headerLine, headerLine, alike.toStr]

theorem row_of_data {name : Text} {data copied : Option Header} (copies : Copies lib)
    (cloned : cloneData lib data = some copied) :
    RowAlike lib (name, .simple copied) (name, .simple data) := by
  cases cloneData_spec copies cloned with
  | none => rfl
  | some alike => simp only [RowAlike, rowToStr, strcatSimpleHeader, headerLine, alike.toStr]

structure BodyAlike (lib : HeaderLib Header) (copy original : OsipBody Header) : Prop where
  body : copy.body = original.body
  contentType : Option.Rel (Alike lib) copy.contentType original.contentType
  headers : List.Forall₂ (Alike lib) copy.headers original.headers

structure Copied (lib : HeaderLib Header) (sip copy : OsipMessage Header) : Prop where
  sipMethod : copy.sipMethod = sip.sipMethod.map cString
  sipVersion : copy.sipVersion = sip.sipVersion.map cString
  statusCode : copy.statusCode = sip.statusCode
  reasonPhrase : copy.reasonPhrase = sip.reasonPhrase.map cString
  reqUri : Option.Rel (Alike lib) copy.reqUri sip.reqUri
  contentType : Option.Rel (Alike lib) copy.contentType sip.contentType
  mimeVersion : Option.Rel (Alike lib) copy.mimeVersion sip.mimeVersion
  table : List.Forall₂ (RowAlike lib) copy.table sip.table
  headers : List.Forall₂ (Alike lib) copy.headers sip.headers
  bodies : List.Forall₂ (BodyAlike lib) copy.bodies sip.bodies
  messageLength : copy.messageLength = sip.messageLength
  message : copy.message = sip.message.map osipStrdup
  messageProperty : copy.messageProperty = sip.messageProperty
  v3Head : copy.v3Head = none

theorem osipBodyClone_spec {body copied : OsipBody Header} (copies : Copies lib)
    (cloned : osipBodyClone lib body = some copied) : BodyAlike lib copied body := by
  unfold osipBodyClone at cloned
  split at cloned
  · exact nomatch cloned
  · obtain ⟨contentType, contentTypeCopied, rest⟩ := Option.bind_eq_some_iff.mp cloned
    obtain ⟨headers, headersCopied, same⟩ := Option.bind_eq_some_iff.mp rest
    cases same
    exact ⟨rfl, cloneData_spec copies contentTypeCopied, osipListClone_spec copies headersCopied⟩

theorem osipMessageClone_spec (copies : Copies lib) (cloned : osipMessageClone lib sip = some copy) :
    Copied lib sip copy := by
  obtain ⟨reqUri, reqUriCopied, cloned⟩ := Option.bind_eq_some_iff.mp cloned
  obtain ⟨accepts, acceptsCopied, cloned⟩ := Option.bind_eq_some_iff.mp cloned
  obtain ⟨acceptEncodings, acceptEncodingsCopied, cloned⟩ := Option.bind_eq_some_iff.mp cloned
  obtain ⟨acceptLanguages, acceptLanguagesCopied, cloned⟩ := Option.bind_eq_some_iff.mp cloned
  obtain ⟨alertInfos, alertInfosCopied, cloned⟩ := Option.bind_eq_some_iff.mp cloned
  obtain ⟨allows, allowsCopied, cloned⟩ := Option.bind_eq_some_iff.mp cloned
  obtain ⟨authenticationInfos, authenticationInfosCopied, cloned⟩ := Option.bind_eq_some_iff.mp cloned
  obtain ⟨callInfos, callInfosCopied, cloned⟩ := Option.bind_eq_some_iff.mp cloned
  obtain ⟨contentEncodings, contentEncodingsCopied, cloned⟩ := Option.bind_eq_some_iff.mp cloned
  obtain ⟨errorInfos, errorInfosCopied, cloned⟩ := Option.bind_eq_some_iff.mp cloned
  obtain ⟨proxyAuthenticationInfos, proxyAuthenticationInfosCopied, cloned⟩ := Option.bind_eq_some_iff.mp cloned
  obtain ⟨authorizations, authorizationsCopied, cloned⟩ := Option.bind_eq_some_iff.mp cloned
  obtain ⟨callId, callIdCopied, cloned⟩ := Option.bind_eq_some_iff.mp cloned
  obtain ⟨contacts, contactsCopied, cloned⟩ := Option.bind_eq_some_iff.mp cloned
  obtain ⟨contentLength, contentLengthCopied, cloned⟩ := Option.bind_eq_some_iff.mp cloned
  obtain ⟨contentType, contentTypeCopied, cloned⟩ := Option.bind_eq_some_iff.mp cloned
  obtain ⟨cseq, cseqCopied, cloned⟩ := Option.bind_eq_some_iff.mp cloned
  obtain ⟨fromHeader, fromHeaderCopied, cloned⟩ := Option.bind_eq_some_iff.mp cloned
  obtain ⟨mimeVersion, mimeVersionCopied, cloned⟩ := Option.bind_eq_some_iff.mp cloned
  obtain ⟨proxyAuthenticates, proxyAuthenticatesCopied, cloned⟩ := Option.bind_eq_some_iff.mp cloned
  obtain ⟨proxyAuthorizations, proxyAuthorizationsCopied, cloned⟩ := Option.bind_eq_some_iff.mp cloned
  obtain ⟨recordRoutes, recordRoutesCopied, cloned⟩ := Option.bind_eq_some_iff.mp cloned
  obtain ⟨routes, routesCopied, cloned⟩ := Option.bind_eq_some_iff.mp cloned
  obtain ⟨toHeader, toHeaderCopied, cloned⟩ := Option.bind_eq_some_iff.mp cloned
  obtain ⟨vias, viasCopied, cloned⟩ := Option.bind_eq_some_iff.mp cloned
  obtain ⟨wwwAuthenticates, wwwAuthenticatesCopied, cloned⟩ := Option.bind_eq_some_iff.mp cloned
  obtain ⟨headers, headersCopied, cloned⟩ := Option.bind_eq_some_iff.mp cloned
  obtain ⟨bodies, bodiesCopied, cloned⟩ := Option.bind_eq_some_iff.mp cloned
  cases cloned
  refine ⟨rfl, rfl, rfl, rfl, cloneData_spec copies reqUriCopied,
    cloneData_spec copies contentTypeCopied, cloneData_spec copies mimeVersionCopied, ?_,
    osipListClone_spec copies headersCopied,
    osipListClone_spec (fun _ _ => osipBodyClone_spec copies) bodiesCopied, rfl, rfl, rfl, rfl⟩
  repeat' apply List.Forall₂.cons
  · exact row_of_list copies viasCopied
  · exact row_of_list copies recordRoutesCopied
  · exact row_of_list copies routesCopied
  · exact row_of_data copies fromHeaderCopied
  · exact row_of_data copies toHeaderCopied
  · exact row_of_data copies callIdCopied
  · exact row_of_data copies cseqCopied
  · exact row_of_list copies contactsCopied
  · exact row_of_list copies authorizationsCopied
  · exact row_of_list copies wwwAuthenticatesCopied
  · exact row_of_list copies proxyAuthenticatesCopied
  · exact row_of_list copies proxyAuthorizationsCopied
  · exact row_of_data copies contentTypeCopied
  · exact row_of_data copies mimeVersionCopied
  · exact row_of_list copies allowsCopied
  · exact row_of_list copies contentEncodingsCopied
  · exact row_of_list copies callInfosCopied
  · exact row_of_list copies alertInfosCopied
  · exact row_of_list copies errorInfosCopied
  · exact row_of_list copies acceptsCopied
  · exact row_of_list copies acceptEncodingsCopied
  · exact row_of_list copies acceptLanguagesCopied
  · exact row_of_list copies authenticationInfosCopied
  · exact row_of_list copies proxyAuthenticationInfosCopied
  · exact List.Forall₂.nil

theorem isSome_osipBodyClone (body : OsipBody Header) : (osipBodyClone lib body).isSome ↔
    (∀ part ∈ body.parts, (lib.clone part).isSome) ∧ body.body ≠ [] := by
  unfold osipBodyClone OsipBody.parts
  rw [List.forall_mem_append, ← isSome_cloneData, ← isSome_osipListClone]
  split
  · rename_i empty
    have none : body.body = [] := List.length_eq_zero_iff.mp (Nat.le_zero.mp empty)
    exact iff_of_false nofun (fun full => full.2 none)
  · rename_i full
    have some : body.body ≠ [] := fun none => full (none ▸ le_rfl)
    cases cloneData lib body.contentType with
    | none => simp
    | some contentType => cases osipListClone lib.clone body.headers <;> simp [some]

theorem isSome_bind_iff {First Second : Type} {data : Option First} {next : First → Option Second}
    {here rest : Prop} (first : data.isSome ↔ here) (later : ∀ first, (next first).isSome ↔ rest) :
    (data.bind next).isSome ↔ here ∧ rest := by
  rw [← first]
  cases data with
  | none => exact iff_of_false nofun (fun both => nomatch both.1)
  | some value => exact (later value).trans ⟨fun right => ⟨rfl, right⟩, And.right⟩

/-- A message can be cloned iff its parts can be and none of its bodies is empty. -/
theorem isSome_osipMessageClone : (osipMessageClone lib sip).isSome ↔
    Clonable lib sip ∧ ∀ body ∈ sip.bodies, body.body ≠ [] := by
  have bodies : (osipListClone (osipBodyClone lib) sip.bodies).isSome ↔
      (∀ part ∈ sip.bodies.flatMap OsipBody.parts, (lib.clone part).isSome) ∧
        ∀ body ∈ sip.bodies, body.body ≠ [] := by
    rw [isSome_osipListClone, List.forall_mem_flatMap, ← forall₂_and]
    exact forall₂_congr (fun body _ => isSome_osipBodyClone body)
  unfold Clonable OsipMessage.parts
  simp only [List.forall_mem_append, and_assoc]
  unfold osipMessageClone
  -- one step for each part, in the order in which they are cloned
  iterate 27
    refine isSome_bind_iff (by
      first
        | exact isSome_cloneData _
        | exact isSome_osipListClone _ _) (fun _ => ?_)
  rw [← bodies, Option.bind_eq_bind]
  cases osipListClone (osipBodyClone lib) sip.bodies with
  | none => exact Iff.rfl
  | some copies => exact iff_of_true rfl rfl

theorem cString_cString (text : Text) : cString (cString text) = cString text :=
  cString_eq_self (zero_not_mem_cString text)

theorem isSome_congr {data copied : Option Header} (same : Option.Rel (Alike lib) copied data) :
    copied.isSome = data.isSome := by
  cases same <;> rfl

theorem bodyToStr_congr {body copied : OsipBody Header} (alike : BodyAlike lib copied body) :
    bodyToStr lib copied = bodyToStr lib body := by
  have line : ∀ name copy header, Alike lib copy header →
      headerLine lib name copy = headerLine lib name header := by
    intro name copy header same
    rw [headerLine, headerLine, same.toStr]
  obtain ⟨text, contentType, headers⟩ := body
  obtain ⟨text, copiedType, copiedHeaders⟩ := copied
  obtain ⟨rfl, types, lists⟩ := alike
  have length := lists.length_eq
  have listed := printAll_congr (line []) lists
  dsimp only at types lists length listed
  unfold bodyToStr
  dsimp only
  rw [listed, length]
  cases types with
  | none => rfl
  | some same =>
    simp only [Option.toList_some, printAll, line _ _ _ same, Option.isSome_some]

theorem headersToStr_congr (copied : Copied lib sip copy) :
    headersToStr lib copy = headersToStr lib sip := by
  have rows : printAll (rowToStr lib) copy.table = printAll (rowToStr lib) sip.table :=
    printAll_congr (fun _ _ same => same) copied.table
  have others : printAll (headerLine lib []) copy.headers = printAll (headerLine lib []) sip.headers := by
    apply printAll_congr _ copied.headers
    intro copy header same
    rw [headerLine, headerLine, same.toStr]
  rw [headersToStr, headersToStr, rows, others]

theorem boundaryOf_congr (copied : Copied lib sip copy) : boundaryOf lib copy = boundaryOf lib sip := by
  have types := copied.contentType
  unfold boundaryOf
  rw [isSome_congr copied.mimeVersion]
  generalize copy.contentType = copiedType, sip.contentType = type at types
  cases types with
  | none => rfl
  | some same =>
    dsimp only
    rw [same.type, same.boundary]

theorem bodiesToStr_congr (copied : Copied lib sip copy) :
    bodiesToStr lib copy = bodiesToStr lib sip := by
  unfold bodiesToStr
  rw [boundaryOf_congr copied]
  cases boundaryOf lib sip with
  | error fail => rfl
  | ok boundary =>
    dsimp only [bind, Except.bind]
    rw [printAll_congr _ copied.bodies]
    intro copy body alike
    rw [bodyToStr_congr alike]

/-- The start line of a copy is the one of the message without its `v3_head`. -/
theorem startlineToStr_copied (copied : Copied lib sip copy) :
    startlineToStr lib copy = startlineToStr lib { sip with v3Head := none } := by
  have version : cString (copy.sipVersion.getD osipProtocolVersion) =
      cString (sip.sipVersion.getD osipProtocolVersion) := by
    rw [copied.sipVersion]
    cases sip.sipVersion with
    | none => rfl
    | some text => exact cString_cString text
  have request : startlineToStrreq lib copy = startlineToStrreq lib { sip with v3Head := none } := by
    have uri := copied.reqUri
    unfold startlineToStrreq
    rw [version, copied.v3Head, copied.sipMethod]
    dsimp only
    generalize copy.reqUri = copiedUri, sip.reqUri = reqUri at uri
    cases uri with
    | none => rfl
    | some same =>
      cases sip.sipMethod with
      | none => rfl
      | some method => simp only [Option.map_some, Option.bind_eq_bind, Option.bind_some, same.toStr,
          cString_cString]
  have response : startlineToStrresp copy = startlineToStrresp { sip with v3Head := none } := by
    unfold startlineToStrresp
    rw [version, copied.statusCode, copied.reasonPhrase]
    dsimp only
    cases sip.reasonPhrase with
    | none => rfl
    | some reason => simp only [Option.map_some, Option.bind_eq_bind, Option.bind_some,
        cString_cString]
  unfold startlineToStr
  rw [request, response, copied.sipMethod, copied.statusCode, Option.isSome_map]

/-- Without its `v3_head` the start line of a request is shorter by it. -/
theorem startlineToStr_plain {line : Text} (started : startlineToStr lib sip = some line) :
    ∃ plain, startlineToStr lib { sip with v3Head := none } = some plain ∧
      (plain.length = line.length →
        sip.sipMethod.isSome → cString (sip.v3Head.getD []) = []) ∧
      ((sip.sipMethod.isSome → cString (sip.v3Head.getD []) = []) → plain = line) := by
  unfold startlineToStr at started ⊢
  split at started
  · rename_i request
    obtain ⟨uri, here, rest⟩ := Option.bind_eq_some_iff.mp started
    obtain ⟨method, named, rest⟩ := Option.bind_eq_some_iff.mp rest
    obtain ⟨rquri, shown, same⟩ := Option.bind_eq_some_iff.mp rest
    cases same
    refine ⟨cString method ++ [' '] ++ cString rquri ++ cString [] ++ [' '] ++
      cString (sip.sipVersion.getD osipProtocolVersion), ?_, ?_, ?_⟩
    · rw [if_pos request]
      unfold startlineToStrreq
      dsimp only
      rw [here, named]
      dsimp only [Option.bind_eq_bind, Option.bind]
      rw [shown]
      rfl
    · intro equal _
      simp only [List.length_append, cString, List.takeWhile_nil, List.length_nil] at equal
      apply List.eq_nil_of_length_eq_zero
      unfold cString
      omega
    · intro none
      rw [none request]
      rfl
  · rename_i response
    refine ⟨line, ?_, fun _ request => absurd request response, fun _ => rfl⟩
    rw [if_neg response]
    exact started

theorem draft_congr {sipfrag : Bool} (copied : Copied lib sip copy)
    (same : startlineToStr lib copy = startlineToStr lib sip) :
    draft lib copy sipfrag = draft lib sip sipfrag := by
  unfold draft startPart
  rw [same, headersToStr_congr copied, bodiesToStr_congr copied, isEmpty_congr copied.bodies]

theorem writtenEnding_congr {sipfrag : Bool} (copied : Copied lib sip copy) :
    writtenEnding lib copy sipfrag = writtenEnding lib sip sipfrag := by
  unfold writtenEnding
  rw [bodiesToStr_congr copied, isEmpty_congr copied.bodies]

/-- What is printed has a start line, and none of its bodies is empty. -/
theorem printed_line (uncached : sip.messageProperty ≠ 1)
    (printed : osipMessageToStr lib sip false = .ok (wire, after)) :
    ∃ line, startlineToStr lib sip = some line := by
  obtain ⟨drafted, drawn, -⟩ := osipMessageToStr_spec uncached printed
  obtain ⟨start, headers, ending, begun, -⟩ := draft_spec drawn
  rcases startPart_cases begun with ⟨line, started, -⟩ | ⟨-, part, -⟩
  · exact ⟨line, started⟩
  · cases part

theorem isSome_of_printAll {Item : Type} {print : Item → Option Text} {items : List Item}
    {text : Text} (printed : printAll print items = some text) :
    ∀ item ∈ items, (print item).isSome := by
  induction items generalizing text with
  | nil => exact nofun
  | cons item items ih =>
    obtain ⟨first, here, rest⟩ := Option.bind_eq_some_iff.mp printed
    obtain ⟨others, there, same⟩ := Option.bind_eq_some_iff.mp rest
    rw [List.forall_mem_cons]
    exact ⟨Option.isSome_of_eq_some here, ih there⟩

theorem full_of_bodiesToStr {bodies : Text} (printed : bodiesToStr lib sip = .ok bodies) :
    ∀ body ∈ sip.bodies, body.body ≠ [] := by
  intro body member none
  unfold bodiesToStr at printed
  cases bound : boundaryOf lib sip with
  | error fail =>
    rw [bound] at printed
    exact nomatch printed
  | ok boundary =>
    rw [bound] at printed
    dsimp only [bind, Except.bind] at printed
    split at printed
    · rename_i texts shown
      have some := isSome_of_printAll shown body member
      rw [Option.isSome_map, bodyToStr, none] at some
      exact nomatch some
    · exact nomatch printed

theorem full_of_writtenEnding {ending : Text} {sipfrag : Bool}
    (printed : writtenEnding lib sip sipfrag = .ok ending) :
    ∀ body ∈ sip.bodies, body.body ≠ [] := by
  by_cases empty : sip.bodies.isEmpty
  · rw [List.isEmpty_iff.mp empty]
    exact nofun
  · unfold writtenEnding at printed
    rw [if_neg (fun fragment => empty fragment.2), if_neg empty] at printed
    cases bodied : bodiesToStr lib sip with
    | ok bodies => exact full_of_bodiesToStr bodied
    | error fail =>
      rw [bodied] at printed
      exact nomatch printed

theorem two_le_of_drawn {drafted : Draft} (long : 6 ≤ drafted.message.length)
    (same : drafted.message = drafted.dest ++ ['\x00']) : 2 ≤ drafted.dest.length := by
  rw [same, List.length_append, List.length_singleton] at long
  omega

/-- A cached buffer begins with the zero of the head, and is longer than that. -/
theorem cached_of_made (copies : Copies lib) (made : Made lib sip)
    (cached : sip.messageProperty = 1) :
    ∃ rest, sip.message = some ('\x00' :: rest) ∧ 2 ≤ sip.messageLength := by
  induction made with
  | built uncached => exact absurd cached uncached
  | @written sip after sipfrag wire made printed ih =>
    by_cases before : sip.messageProperty = 1
    · unfold osipMessageToStr at printed
      rw [if_pos before] at printed
      split at printed
      · split at printed
        · cases printed
          exact ih before
        · exact nomatch printed
      · exact nomatch printed
    · obtain ⟨drafted, drawn, long, -, rfl⟩ := osipMessageToStr_spec before printed
      obtain ⟨start, headers, ending, -, -, -, of⟩ := draft_spec drawn
      refine ⟨_, rfl, ?_⟩
      dsimp only
      rw [of.totalLength]
      exact two_le_of_drawn long of.message
  | @cloned sip copy made cloned ih =>
    have copied := osipMessageClone_spec copies cloned
    obtain ⟨rest, kept, long⟩ := ih (copied.messageProperty.symm.trans cached)
    rw [copied.message, kept, copied.messageLength]
    exact ⟨[], rfl, long⟩

/-- The copy of a cached message has lost the buffer but not the length of it. -/
theorem copy_of_cached (copies : Copies lib) (made : Made lib sip) (cached : sip.messageProperty = 1)
    (cloned : osipMessageClone lib sip = some copy) (sipfrag : Bool) :
    osipMessageToStr lib copy sipfrag = .error .fault := by
  have copied := osipMessageClone_spec copies cloned
  obtain ⟨rest, kept, long⟩ := cached_of_made copies made cached
  have lost : copy.message = some ['\x00'] := by
    rw [copied.message, kept]
    rfl
  unfold osipMessageToStr
  rw [if_pos (copied.messageProperty.trans cached), lost]
  dsimp only
  rw [if_neg]
  rw [copied.messageLength, List.length_singleton]
  omega

/-- A copy with the same start line is written the same. -/
theorem copy_written {sipfrag : Bool} (copied : Copied lib sip copy)
    (uncached : sip.messageProperty ≠ 1)
    (same : startlineToStr lib copy = startlineToStr lib sip)
    (printed : osipMessageToStr lib sip sipfrag = .ok (wire, after)) :
    ∃ again, osipMessageToStr lib copy sipfrag = .ok (wire, again) := by
  obtain ⟨drafted, drawn, long, rfl, -⟩ := osipMessageToStr_spec uncached printed
  unfold osipMessageToStr
  rw [if_neg (copied.messageProperty ▸ uncached), draft_congr copied same, drawn]
  dsimp only [bind, Except.bind]
  rw [if_neg (Nat.not_lt_of_le long)]
  exact ⟨_, rfl⟩

theorem line_of_copy {line plain : Text} (copied : Copied lib sip copy)
    (uncached : sip.messageProperty ≠ 1) (started : startlineToStr lib sip = some line)
    (restarted : startlineToStr lib copy = some plain)
    (printed : osipMessageToStr lib sip false = .ok (wire, after)) {again : OsipMessage Header}
    (reprinted : osipMessageToStr lib copy false = .ok (wire, again)) :
    plain.length = line.length := by
  obtain ⟨headers, ending, shown, ended, dest⟩ := wire_of_line uncached printed started
  obtain ⟨headers, ending, reshown, reended, redest⟩ :=
    wire_of_line (copied.messageProperty ▸ uncached) reprinted restarted
  rw [headersToStr_congr copied, shown] at reshown
  rw [writtenEnding_congr copied, ended] at reended
  cases reshown
  cases reended
  have lengths := congrArg List.length (dest.symm.trans redest)
  simp only [List.length_append, length_v3FrameHead] at lengths
  omega

/-- A copy of a message goes out as the message does iff the message is not cached, is no
request with a `v3_head`, and can be cloned. -/
theorem clone_same_wire_iff (copies : Copies lib) (made : Made lib sip)
    (printed : osipMessageToStr lib sip false = .ok (wire, after)) :
    (∃ copy again, osipMessageClone lib sip = some copy ∧
      osipMessageToStr lib copy false = .ok (wire, again)) ↔
    sip.messageProperty ≠ 1 ∧ (sip.sipMethod.isSome → cString (sip.v3Head.getD []) = []) ∧
      Clonable lib sip := by
  by_cases cached : sip.messageProperty = 1
  · apply iff_of_false _ (fun condition => condition.1 cached)
    rintro ⟨copy, again, cloned, reprinted⟩
    rw [copy_of_cached copies made cached cloned] at reprinted
    exact nomatch reprinted
  · rw [and_iff_right cached]
    obtain ⟨line, started⟩ := printed_line cached printed
    obtain ⟨plain, bare, longer, same⟩ := startlineToStr_plain started
    obtain ⟨headers, ending, -, ended, -⟩ := wire_of_line cached printed started
    constructor
    · rintro ⟨copy, again, cloned, reprinted⟩
      have copied := osipMessageClone_spec copies cloned
      have restarted := (startlineToStr_copied copied).trans bare
      have lengths := line_of_copy copied cached started restarted printed reprinted
      have clonable := isSome_osipMessageClone.mp (Option.isSome_of_eq_some cloned)
      exact ⟨longer lengths, clonable.1⟩
    · intro condition
      have whole := full_of_writtenEnding ended
      obtain ⟨copy, cloned⟩ := Option.isSome_iff_exists.mp
        (isSome_osipMessageClone.mpr ⟨condition.2, whole⟩)
      have copied := osipMessageClone_spec copies cloned
      have unchanged : startlineToStr lib copy = startlineToStr lib sip := by
        rw [startlineToStr_copied copied, bare, same condition.1, started]
      obtain ⟨again, reprinted⟩ := copy_written copied cached unchanged printed
      exact ⟨copy, again, cloned, reprinted⟩

theorem plainLib_copies : Copies plainLib := by
  intro header copy cloned
  cases cloned
  exact ⟨rfl, rfl, rfl⟩

theorem plainRequest_clonable : Clonable plainLib plainRequest := fun _ _ => rfl

theorem plainRequest_cloned : ∃ wire after copy again,
    osipMessageToStr plainLib plainRequest false = .ok (wire, after) ∧
      osipMessageClone plainLib plainRequest = some copy ∧
        osipMessageToStr plainLib copy false = .ok (wire, again) := by
  have uncached : plainRequest.messageProperty ≠ 1 := by decide
  obtain ⟨copy, again, cloned, reprinted⟩ :=
    (clone_same_wire_iff plainLib_copies (.built uncached) rfl).mpr
      ⟨uncached, fun _ => rfl, plainRequest_clonable⟩
  exact ⟨_, _, copy, again, rfl, cloned, reprinted⟩

/-- A request as the heart beat of a VTDU sends it. -/
def heartRequest : OsipMessage Text := { plainRequest with v3Head := some ";M=H".toList }

/-- The copy of it lacks the `v3_head`, and the copy of a message that was written before
cannot be written at all. -/
theorem heartRequest_cloned :
    (∃ wire after copy other again, osipMessageToStr plainLib heartRequest false = .ok (wire, after) ∧
      osipMessageClone plainLib heartRequest = some copy ∧
      osipMessageToStr plainLib copy false = .ok (other, again) ∧ other ≠ wire) ∧
    ∃ wire after copy, osipMessageToStr plainLib plainRequest false = .ok (wire, after) ∧
      osipMessageToStr plainLib after false = .ok (wire, after) ∧
      osipMessageClone plainLib after = some copy ∧
      osipMessageToStr plainLib copy false = .error .fault := by
  constructor
  · exact ⟨_, _, _, _, _, rfl, rfl, rfl, by decide⟩
  · have uncached : plainRequest.messageProperty ≠ 1 := by decide
    have printed : osipMessageToStr plainLib plainRequest false = .ok (_, _) := rfl
    refine ⟨_, _, _, printed, osipMessageToStr_again uncached printed false, rfl, ?_⟩
    exact copy_of_cached plainLib_copies (.written (.built uncached) printed) rfl rfl false

end Gb28181.Osip
