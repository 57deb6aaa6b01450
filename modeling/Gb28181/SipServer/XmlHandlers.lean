import Gb28181.SipServer.Handlers
import Gb28181.SipServer.InfoMessages

namespace Gb28181.SipServer

open Gb28181.Lib Gb28181.SipUA

/-- A named child whose text goes to the media information. -/
structure Lookup where
  name : String
  optional : Bool
  store : Text → StMediaInfo → StMediaInfo

def cuLookups : List Lookup :=
  [⟨"UserID", false, fun text info => { info with strCuUserID := text }⟩,
    ⟨"IP", false, fun text info => { info with strCuIp := text }⟩,
    ⟨"Port", false, fun text info => { info with nCuport := atoi text }⟩,
    ⟨"Nat", false, fun text info => { info with nCuNat := atoi text }⟩,
    ⟨"TransType", false, fun text info => { info with nCuTransType := atoi text }⟩,
    ⟨"UserType", true, fun text info => { info with nCuUserType := atoi text }⟩,
    ⟨"GBVideoTransMode", true, fun text info => { info with strCuGBVideoTransMode := text }⟩,
    ⟨"MSCheck", false, fun text info => { info with nCuMSCheck := atoi text }⟩]

def puLookups : List Lookup :=
  [⟨"PUID", false, fun text info => { info with strPUID := text }⟩,
    ⟨"ChannelID", false, fun text info => { info with nPuChannelID := atoi text }⟩,
    ⟨"Protocol", false, fun text info => { info with nPuProtocol := atoi text }⟩,
    ⟨"StreamType", false, fun text info => { info with nPuStreamType := atoi text }⟩,
    ⟨"TransType", false, fun text info => { info with nPuTransType := atoi text }⟩,
    ⟨"FCode", false, fun text info => { info with nPuFCode := atoi text }⟩]

def routeLookups : List Lookup :=
  [⟨"RecvIP", false, fun text info => { info with strVtduRecvIp := text }⟩,
    ⟨"SendIP", false, fun text info => { info with strVtduSendIP := text }⟩]

def openLookups : List Lookup :=
  [⟨"StreamType", false, fun text info => { info with nOpenVideoStreamType := atoi text }⟩,
    ⟨"GBVideoTransMode", false, fun text info => { info with strOpenVideoGBVideoTransMode := text }⟩]

/-- The elements whose text is taken, each with where it goes, up to the first one that is
missing. -/
structure Walk where
  uses : List (XmlElement × (Text → StMediaInfo → StMediaInfo))
  complete : Bool

def Walk.andThen (first next : Walk) : Walk :=
  if first.complete then ⟨first.uses ++ next.uses, next.complete⟩ else first

def Lookup.walk (parent : XmlElement) (lookup : Lookup) : Walk :=
  match findElement parent.children lookup.name with
  | some element => ⟨[(element, lookup.store)], true⟩
  | none => ⟨[], lookup.optional⟩

def walkGroup (doc : List XmlElement) (name : String) (lookups : List Lookup) : Walk :=
  match findElement doc name with
  | some parent => lookups.foldr (fun lookup rest => (lookup.walk parent).andThen rest) ⟨[], true⟩
  | none => ⟨[], false⟩

def walkRequest (doc : List XmlElement) : Walk :=
  (walkGroup doc "IE_CU_ADDRINFO" cuLookups).andThen
    ((walkGroup doc "IE_PU_ADDRINFO" puLookups).andThen
      ((walkGroup doc "IE_VTDU_ROUTE" routeLookups).andThen
        (walkGroup doc "IE_OPEN_VIDEO" openLookups)))

def Walk.TextsThere (walk : Walk) : Prop := ∀ use ∈ walk.uses, use.1.getText.isSome

/-- What they leave in the media information. -/
def Walk.stored (walk : Walk) (info : StMediaInfo) : StMediaInfo :=
  walk.uses.foldl (fun info use => use.2 (use.1.getText.getD []) info) info

/-- A reading takes the texts of a walk. -/
structure Reads (reading : Reading Unit) (walk : Walk) : Prop where
  done : walk.TextsThere → walk.complete = true →
    ∀ info, reading.run info = (.ok (), walk.stored info)
  refused : walk.TextsThere → walk.complete = false →
    ∀ info, ∃ strError, reading.run info = (.error (.refused strError), walk.stored info)
  null : ¬ walk.TextsThere → ∀ info, (reading.run info).1 = .error .null

variable {reading rest : Reading Unit} {walk first next : Walk} {parent : XmlElement}

theorem run_bind_ok {info after : StMediaInfo} (done : reading.run info = (.ok (), after)) :
    (reading >>= fun _ => rest).run info = rest.run after := by
  have bound : (reading >>= fun _ => rest).run info =
      ExceptT.bindCont (fun _ => rest) (reading.run info).1 (reading.run info).2 := rfl
  rw [bound, done]
  rfl

theorem run_bind_error {info after : StMediaInfo} {failure : Failure}
    (failed : reading.run info = (.error failure, after)) :
    (reading >>= fun _ => rest).run info = (.error failure, after) := by
  have bound : (reading >>= fun _ => rest).run info =
      ExceptT.bindCont (fun _ => rest) (reading.run info).1 (reading.run info).2 := rfl
  rw [bound, failed]
  rfl

/-- One reading after the other takes the texts of both, unless the first has ended. -/
theorem Reads.andThen (reads : Reads reading first) (later : Reads rest next) :
    Reads (reading >>= fun _ => rest) (first.andThen next) := by
  cases complete : first.complete with
  | false =>
    have ended : first.andThen next = first := by
      rw [Walk.andThen, if_neg (by simp [complete])]
    rw [ended]
    refine ⟨fun there whole => ?_, fun there _ info => ?_, fun missing info => ?_⟩
    · rw [complete] at whole
      contradiction
    · obtain ⟨strError, failed⟩ := reads.refused there complete info
      exact ⟨strError, run_bind_error failed⟩
    · have failed := reads.null missing info
      rw [run_bind_error (Prod.ext failed rfl)]
  | true =>
    have goesOn : first.andThen next = ⟨first.uses ++ next.uses, next.complete⟩ := by
      rw [Walk.andThen, if_pos complete]
    have both : (first.andThen next).TextsThere ↔ first.TextsThere ∧ next.TextsThere := by
      rw [goesOn]
      exact List.forall_mem_append
    have stored (info : StMediaInfo) :
        (first.andThen next).stored info = next.stored (first.stored info) := by
      rw [goesOn]
      exact List.foldl_append
    have same : (first.andThen next).complete = next.complete := by rw [goesOn]
    refine ⟨fun there whole info => ?_, fun there short info => ?_, fun missing info => ?_⟩
    · obtain ⟨own, behind⟩ := both.mp there
      rw [run_bind_ok (reads.done own complete info), stored]
      exact later.done behind (same ▸ whole) _
    · obtain ⟨own, behind⟩ := both.mp there
      rw [run_bind_ok (reads.done own complete info), stored]
      exact later.refused behind (same ▸ short) _
    · by_cases own : first.TextsThere
      · have behind : ¬ next.TextsThere := fun there => missing (both.mpr ⟨own, there⟩)
        rw [run_bind_ok (reads.done own complete info)]
        exact later.null behind _
      · have failed := reads.null own info
        rw [run_bind_error (Prod.ext failed rfl)]

theorem reads_element {element : XmlElement} {store : Text → StMediaInfo → StMediaInfo} :
    Reads (getText element >>= fun text => modify (store text)) ⟨[(element, store)], true⟩ := by
  have there : (Walk.mk [(element, store)] true).TextsThere ↔ element.getText.isSome :=
    List.forall_mem_singleton
  cases found : element.getText with
  | none =>
    refine ⟨fun text => ?_, fun text => ?_, fun _ info => ?_⟩
    · rw [there, found] at text
      contradiction
    · rw [there, found] at text
      contradiction
    · unfold getText
      rw [found]
      rfl
  | some text =>
    refine ⟨fun _ _ info => ?_, fun _ incomplete => ?_, fun missing => ?_⟩
    · unfold getText Walk.stored
      simp only [found, List.foldl_cons, List.foldl_nil]
      rfl
    · contradiction
    · rw [there, found] at missing
      exact absurd rfl missing

theorem reads_missing {strError : Text} :
    Reads (throw (.refused strError)) ⟨[], false⟩ := by
  refine ⟨fun _ complete => ?_, fun _ _ info => ⟨strError, rfl⟩, fun missing => ?_⟩
  · contradiction
  · exact absurd (fun use member => absurd member List.not_mem_nil) missing

theorem reads_nothing : Reads (pure ()) ⟨[], true⟩ := by
  refine ⟨fun _ _ _ => rfl, fun _ incomplete => ?_, fun missing => ?_⟩
  · contradiction
  · exact absurd (fun use member => absurd member List.not_mem_nil) missing

theorem reads_field {name strError : String} {store : Text → StMediaInfo → StMediaInfo} :
    Reads (readField parent name strError store) (Lookup.walk parent ⟨name, false, store⟩) := by
  unfold readField firstChildElement Lookup.walk
  cases found : findElement parent.children name with
  | none =>
    unfold findElement at found
    rw [found]
    exact reads_missing
  | some element =>
    unfold findElement at found
    rw [found]
    exact reads_element

theorem reads_optional {name : String} {store : Text → StMediaInfo → StMediaInfo} :
    Reads (readOptional parent name store) (Lookup.walk parent ⟨name, true, store⟩) := by
  unfold readOptional Lookup.walk
  cases found : findElement parent.children name with
  | none =>
    unfold findElement at found
    rw [found]
    exact reads_nothing
  | some element =>
    unfold findElement at found
    rw [found]
    exact reads_element

theorem Walk.andThen_nothing : walk.andThen ⟨[], true⟩ = walk := by
  unfold Walk.andThen
  split
  · rename_i complete
    rw [List.append_nil, ← complete]
  · rfl

theorem Reads.last (reads : Reads reading walk) : Reads reading (walk.andThen ⟨[], true⟩) := by
  rw [Walk.andThen_nothing]
  exact reads

variable {doc : List XmlElement}

theorem reads_group {name strError : String} {lookups : List Lookup}
    {fields : XmlElement → Reading Unit}
    (reads : ∀ parent, Reads (fields parent)
      (lookups.foldr (fun lookup rest => (lookup.walk parent).andThen rest) ⟨[], true⟩)) :
    Reads (firstChildElement doc name strError >>= fields) (walkGroup doc name lookups) := by
  unfold firstChildElement walkGroup
  cases found : findElement doc name with
  | none =>
    unfold findElement at found
    rw [found]
    exact reads_missing
  | some parent =>
    unfold findElement at found
    rw [found]
    exact reads parent

theorem reads_cuInfo : Reads (readCuInfo doc) (walkGroup doc "IE_CU_ADDRINFO" cuLookups) := by
  unfold readCuInfo
  apply reads_group
  intro cuInfo
  exact reads_field.andThen (reads_field.andThen (reads_field.andThen (reads_field.andThen
    (reads_field.andThen (reads_optional.andThen (reads_optional.andThen reads_field.last))))))

theorem reads_puInfo : Reads (readPuInfo doc) (walkGroup doc "IE_PU_ADDRINFO" puLookups) := by
  unfold readPuInfo
  apply reads_group
  intro puInfo
  exact reads_field.andThen (reads_field.andThen (reads_field.andThen (reads_field.andThen
    (reads_field.andThen reads_field.last))))

theorem reads_vtduRoute : Reads (readVtduRoute doc) (walkGroup doc "IE_VTDU_ROUTE" routeLookups) := by
  unfold readVtduRoute
  apply reads_group
  intro vtduRoute
  exact reads_field.andThen reads_field.last

theorem reads_openVideo : Reads (readOpenVideo doc) (walkGroup doc "IE_OPEN_VIDEO" openLookups) := by
  unfold readOpenVideo
  apply reads_group
  intro openVideo
  exact reads_field.andThen reads_field.last

def requestWalk (parse : Text → List XmlElement) (event : Event) : Walk :=
  if (sipUAGetRequestBodyContent event 4096).1 ≤ 0 then ⟨[], false⟩
  else walkRequest (parse (sipUAGetRequestBodyContent event 4096).2)

variable {parse : Text → List XmlElement} {event : Event}

theorem reads_request : Reads (readRequest parse event) (requestWalk parse event) := by
  unfold requestWalk
  by_cases empty : (sipUAGetRequestBodyContent event 4096).1 ≤ 0
  · rw [if_pos empty]
    have refused : readRequest parse event = throw (.refused "get msg body failed".toList) := by
      unfold readRequest
      dsimp only
      rw [if_pos empty]
      rfl
    rw [refused]
    exact reads_missing
  · rw [if_neg empty, readRequest_eq (lt_of_not_ge empty)]
    unfold readElements
    exact reads_cuInfo.andThen (reads_puInfo.andThen (reads_vtduRoute.andThen reads_openVideo))

theorem isSome_answerInfo {nStatus : Int} (refusal : nStatus ≠ 200) (strError : Text)
    (info : StMediaInfo) (ports : VideoPorts) :
    (answerInfo event nStatus strError info ports).isSome ↔
      (readyVideoTransResp info ports.nInitialUser).length < 4096 := by
  unfold answerInfo printed
  rw [if_neg refusal]
  by_cases fits : (readyVideoTransResp info ports.nInitialUser).length < 4096
  · rw [if_pos fits]
    exact iff_of_true rfl fits
  · rw [if_neg fits]
    exact iff_of_false Bool.false_ne_true fits

/-- The preview is answered where the texts are there and the answer fits its buffer. -/
theorem isSome_handleV3TransReady (ports : VideoPorts) (request : TransRequest) :
    (sipServerHandleV3TransReady parse ports request).isSome ↔
      (requestWalk parse request.event).TextsThere ∧
        (readyVideoTransResp ((requestWalk parse request.event).stored request.stCurMediaInfo)
          ports.nInitialUser).length < 4096 := by
  have reads := @reads_request parse request.event
  unfold sipServerHandleV3TransReady
  by_cases there : (requestWalk parse request.event).TextsThere
  · rw [and_iff_right there]
    cases complete : (requestWalk parse request.event).complete with
    | false =>
      obtain ⟨strError, refused⟩ := reads.refused there complete request.stCurMediaInfo
      rw [refused]
      exact isSome_answerInfo (by decide) _ _ _
    | true =>
      rw [reads.done there complete request.stCurMediaInfo]
      simp only [findPort_spec]
      exact isSome_answerInfo (by decide) _ _ _
  · have failed := reads.null there request.stCurMediaInfo
    generalize (readRequest parse request.event).run request.stCurMediaInfo = result at failed
    obtain ⟨outcome, info⟩ := result
    dsimp only at failed
    rw [failed]
    exact iff_of_false Bool.false_ne_true fun both => there both.1

section Catalog

variable (utf8Text : Text → Text)

/-- The fields of an item that have a text, in UTF-8. -/
def itemFields (item : XmlElement) : List (Text × Text) :=
  item.children.filterMap (fun child => child.getText.map fun text => (child.name, utf8Text text))

def childOf (elements : List XmlElement) (name strError : String) : Except Failure XmlElement :=
  match findElement elements name with
  | some element => .ok element
  | none => .error (.refused strError.toList)

def textOf (element : XmlElement) : Except Failure Text :=
  match element.getText with
  | some text => .ok text
  | none => .error .null

/-- What `handleCatalogMsg` reads before it takes the endpoint mutex. -/
def readCatalog (doc : List XmlElement) : Except Failure CatalogResponse := do
  let response ← childOf doc "Response" "cannot find Response"
  let deviceId ← childOf response.children "DeviceID" "cannot find Response.DeviceID"
  let strSipId ← textOf deviceId
  let sumNum ← childOf response.children "SumNum" "cannot find Response.SumNum"
  let iSumNum ← textOf sumNum
  let deviceList ← childOf response.children "DeviceList" "cannot find Response.DeviceList"
  return ⟨strSipId, atoi iSumNum, deviceList.children.map (itemFields utf8Text)⟩

/-- The environment of a server with this parser. -/
def Environment.parsing (env : Environment) (parse : Text → List XmlElement) : Environment :=
  { env with catalogResponse := fun pszBody => (readCatalog utf8Text (parse pszBody)).toOption }

/-- `appendSipDevice` has an id to print of an item. -/
def hasDeviceId (fields : List (Text × Text)) : Bool :=
  fields.any fun field => field.1 = "DeviceID".toList

/-- `appendSipDevice` prints an item without an id with one argument for two strings. The thread is
lost there, and with it the mutex that it holds while the platform is registered. -/
def lostInItems (strSipId : Text) : Thread Int := do
  Prog.lock .sipEndpoint
  let pSipEndpoint ← Prog.read (fun state => state.mapSipEndpoints.find strSipId)
  match pSipEndpoint with
  | none =>
    Prog.unlock .sipEndpoint
    return -1
  | some _ => return -1

/-- The handler on the elements of a body; nothing where it crashes. -/
def handleCatalogBody (env : Environment) (parse : Text → List XmlElement) (pszBody : Text) :
    Option (Thread Int) :=
  match readCatalog utf8Text (parse pszBody) with
  | .error .null => none
  | .error (.refused _) => some (handleCatalogMsg (env.parsing utf8Text parse) pszBody)
  | .ok response =>
    if response.items.all hasDeviceId then
      some (handleCatalogMsg (env.parsing utf8Text parse) pszBody)
    else some (lostInItems response.strSipId)

end Catalog

/-- The platform id of a response has a text, and so has the number of its devices. -/
def CatalogTexts (doc : List XmlElement) : Prop :=
  ∀ response, findElement doc "Response" = some response →
    ∀ deviceId, findElement response.children "DeviceID" = some deviceId →
      deviceId.getText.isSome ∧
      ∀ sumNum, findElement response.children "SumNum" = some sumNum → sumNum.getText.isSome

/-- Each item of a response that has all its elements has a `DeviceID` with a text. -/
def CatalogIds (doc : List XmlElement) : Prop :=
  ∀ response, findElement doc "Response" = some response →
    (findElement response.children "DeviceID").isSome →
    (findElement response.children "SumNum").isSome →
    ∀ deviceList, findElement response.children "DeviceList" = some deviceList →
      ∀ item ∈ deviceList.children, ∃ child ∈ item.children,
        child.name = "DeviceID".toList ∧ child.getText.isSome

/-- The message type of a header has a text. -/
def HeaderText (doc : List XmlElement) : Prop :=
  ∀ header, findElement doc "IE_HEADER" = some header →
    ∀ messageType, findElement header.children "MessageType" = some messageType →
      messageType.getText.isSome

variable {utf8Text : Text → Text}

theorem forall_found {found : Option XmlElement} {condition : XmlElement → Prop} :
    (∀ element, found = some element → condition element) ↔
      match found with
      | some element => condition element
      | none => True := by
  cases found with
  | none => exact iff_of_true (fun _ there => by contradiction) trivial
  | some element => simp

theorem isSome_getMsgCmdTypeV3 (pszBody : Text) :
    (getMsgCmdTypeV3 parse pszBody).isSome ↔ HeaderText (parse pszBody) := by
  unfold getMsgCmdTypeV3 HeaderText
  rw [forall_found]
  cases findElement (parse pszBody) "IE_HEADER" with
  | none => exact iff_of_true rfl trivial
  | some header =>
    dsimp only
    rw [forall_found]
    cases findElement header.children "MessageType" with
    | none => exact iff_of_true rfl trivial
    | some messageType => exact Iff.rfl

theorem readCatalog_null : readCatalog utf8Text doc = .error .null ↔ ¬ CatalogTexts doc := by
  unfold readCatalog CatalogTexts childOf textOf
  rw [forall_found]
  cases findElement doc "Response" with
  | none => simp [bind, Except.bind]
  | some response =>
    simp only [bind, Except.bind, pure, Except.pure, forall_found]
    cases findElement response.children "DeviceID" with
    | none => simp
    | some deviceId =>
      cases id : deviceId.getText with
      | none => simp [id]
      | some strSipId =>
        cases findElement response.children "SumNum" with
        | none => simp [id]
        | some sumNum =>
          cases number : sumNum.getText with
          | none => simp [id, number]
          | some iSumNum =>
            cases findElement response.children "DeviceList" <;> simp [id, number]

theorem hasDeviceId_itemFields (item : XmlElement) : hasDeviceId (itemFields utf8Text item) = true ↔
    ∃ child ∈ item.children, child.name = "DeviceID".toList ∧ child.getText.isSome := by
  unfold hasDeviceId itemFields
  rw [List.any_eq_true]
  constructor
  · rintro ⟨field, member, named⟩
    obtain ⟨child, inside, same⟩ := List.mem_filterMap.mp member
    obtain ⟨text, there, rfl⟩ := Option.map_eq_some_iff.mp same
    exact ⟨child, inside, of_decide_eq_true named, Option.isSome_iff_exists.mpr ⟨text, there⟩⟩
  · rintro ⟨child, inside, named, there⟩
    obtain ⟨text, same⟩ := Option.isSome_iff_exists.mp there
    exact ⟨(child.name, utf8Text text),
      List.mem_filterMap.mpr ⟨child, inside, by rw [same]; rfl⟩, decide_eq_true named⟩

theorem catalogIds_iff (texts : CatalogTexts doc) :
    CatalogIds doc ↔ ∀ response, readCatalog utf8Text doc = .ok response →
      response.items.all hasDeviceId = true := by
  unfold CatalogTexts at texts
  unfold readCatalog CatalogIds childOf textOf
  rw [forall_found] at texts ⊢
  cases there : findElement doc "Response" with
  | none => simp [bind, Except.bind]
  | some response =>
    rw [there] at texts
    simp only [bind, Except.bind, pure, Except.pure, forall_found] at texts ⊢
    cases id : findElement response.children "DeviceID" with
    | none => simp
    | some deviceId =>
      rw [id] at texts
      obtain ⟨idText, number⟩ := texts
      obtain ⟨strSipId, idText⟩ := Option.isSome_iff_exists.mp idText
      cases sum : findElement response.children "SumNum" with
      | none => simp [idText]
      | some sumNum =>
        rw [sum] at number
        obtain ⟨iSumNum, numberText⟩ := Option.isSome_iff_exists.mp number
        cases findElement response.children "DeviceList" with
        | none => simp [idText, numberText]
        | some deviceList => simp [idText, numberText, hasDeviceId_itemFields]

/-- The handler gives the endpoint mutex back on every way out. -/
theorem balanced_handleCatalogMsg {env : Environment} {pszBody : Text} :
    (handleCatalogMsg env pszBody).Balanced ∅ := by
  have returned : insert Mutex.sipEndpoint (∅ : Set Mutex) \ {Mutex.sipEndpoint} = ∅ := by simp
  unfold handleCatalogMsg
  cases env.catalogResponse pszBody with
  | none => exact rfl
  | some response =>
    refine Prog.balanced_lock.mpr ⟨Set.notMem_empty _, Prog.balanced_read.mpr fun state => ?_⟩
    cases state.mapSipEndpoints.find response.strSipId with
    | none =>
      exact Prog.balanced_unlock.mpr ⟨Set.mem_insert _ _, Prog.balanced_done.mpr returned⟩
    | some endpoint =>
      refine Prog.balanced_write.mpr fun _ => Prog.balanced_write.mpr fun _ => ?_
      exact Prog.balanced_unlock.mpr ⟨Set.mem_insert _ _, Prog.balanced_done.mpr returned⟩

/-- A thread that is lost in the items of a registered platform keeps the mutex. -/
theorem not_balanced_lostInItems (strSipId : Text) : ¬ (lostInItems strSipId).Balanced ∅ := by
  intro balanced
  let known : State := { State.initial with
    mapSipEndpoints := OrderedMap.empty.insert strSipId ⟨.zero, [], 0, 0, [], .empty⟩ }
  have taken := (Prog.balanced_lock.mp balanced).2
  have after := Prog.balanced_read.mp taken known
  have found : known.mapSipEndpoints.find strSipId = some ⟨.zero, [], 0, 0, [], .empty⟩ := by
    rw [OrderedMap.find_insert rfl, if_pos rfl]
  rw [found] at after
  exact (Set.insert_nonempty _ _).ne_empty (Prog.balanced_done.mp after)

theorem handleCatalogBody_iff {env : Environment} (pszBody : Text) :
    (∃ program, handleCatalogBody utf8Text env parse pszBody = some program ∧
      program.Balanced ∅) ↔ CatalogTexts (parse pszBody) ∧ CatalogIds (parse pszBody) := by
  unfold handleCatalogBody
  by_cases texts : CatalogTexts (parse pszBody)
  · rw [and_iff_right texts, catalogIds_iff texts]
    cases read : readCatalog utf8Text (parse pszBody) with
    | error failure =>
      cases failure with
      | null => exact absurd texts (readCatalog_null.mp read)
      | refused strError => exact iff_of_true ⟨_, rfl, balanced_handleCatalogMsg⟩ nofun
    | ok response =>
      dsimp only
      by_cases ids : response.items.all hasDeviceId = true
      · rw [if_pos ids]
        refine iff_of_true ⟨_, rfl, balanced_handleCatalogMsg⟩ ?_
        rintro other ⟨⟩
        exact ids
      · rw [if_neg ids]
        refine iff_of_false ?_ fun all => ids (all response rfl)
        rintro ⟨program, ⟨⟩, balanced⟩
        exact not_balanced_lostInItems _ balanced
  · rw [readCatalog_null.mpr texts]
    refine iff_of_false ?_ fun both => texts both.1
    rintro ⟨program, handled, -⟩
    cases handled

/-- The handlers return, with the mutex given back, where each text they take is there; the preview
where its answer fits besides, and the catalog where each item has an id. -/
theorem xml_handlers_survive_iff (parse : Text → List XmlElement) (utf8Text : Text → Text)
    (env : Environment) :
    (∀ pszBody, (getMsgCmdTypeV3 parse pszBody).isSome ↔ HeaderText (parse pszBody)) ∧
    (∀ ports request, (sipServerHandleV3TransReady parse ports request).isSome ↔
      (requestWalk parse request.event).TextsThere ∧
        (readyVideoTransResp ((requestWalk parse request.event).stored request.stCurMediaInfo)
          ports.nInitialUser).length < 4096) ∧
    ∀ pszBody, (∃ program, handleCatalogBody utf8Text env parse pszBody = some program ∧
      program.Balanced ∅) ↔ CatalogTexts (parse pszBody) ∧ CatalogIds (parse pszBody) :=
  ⟨isSome_getMsgCmdTypeV3, isSome_handleV3TransReady, handleCatalogBody_iff⟩

def emptyType : Text := "<IE_HEADER><MessageType/></IE_HEADER>".toList

def emptyUser : Text := "<IE_CU_ADDRINFO><UserID/></IE_CU_ADDRINFO>".toList

def emptyPlatform : Text := "<Response><DeviceID/></Response>".toList

/-- An element with one below it, and no text. -/
def nested (outer inner : String) : List XmlElement :=
  [.element outer.toList none [.element inner.toList none []]]

/-- Gives the elements of the three bodies. -/
def emptyParse (szBody : Text) : List XmlElement :=
  if szBody = emptyType then nested "IE_HEADER" "MessageType"
  else if szBody = emptyUser then nested "IE_CU_ADDRINFO" "UserID"
  else if szBody = emptyPlatform then nested "Response" "DeviceID"
  else []

theorem emptyParse_eq : emptyParse emptyType = nested "IE_HEADER" "MessageType" ∧
    emptyParse emptyUser = nested "IE_CU_ADDRINFO" "UserID" ∧
    emptyParse emptyPlatform = nested "Response" "DeviceID" := by
  have apart : emptyUser ≠ emptyType ∧ emptyPlatform ≠ emptyType ∧ emptyPlatform ≠ emptyUser := by
    decide
  unfold emptyParse
  rw [if_pos rfl, if_neg apart.1, if_pos rfl, if_neg apart.2.1, if_neg apart.2.2, if_pos rfl]
  exact ⟨rfl, rfl, rfl⟩

/-- A request for the preview with the second body. -/
def emptyRequest : TransRequest :=
  { transRequest with
    event := { messageEvent with
      request := some ⟨0, "INFO".toList, none, none, none, none, none, none, none,
        some emptyUser⟩ } }

/-- A server that finds nothing in a body. -/
def blankEnvironment : Environment := ⟨[], 0, fun _ _ => [], fun _ => none, fun _ => []⟩

/-- None of the handlers survives its body. -/
theorem xml_handlers_crash :
    getMsgCmdTypeV3 emptyParse emptyType = none ∧
    sipServerHandleV3TransReady emptyParse .initial emptyRequest = none ∧
    handleCatalogBody id blankEnvironment emptyParse emptyPlatform = none := by
  obtain ⟨header, user, platform⟩ := emptyParse_eq
  have read : sipUAGetRequestBodyContent emptyRequest.event 4096 = (42, emptyUser) := by
    decide +kernel
  refine ⟨?_, ?_, ?_⟩
  · unfold getMsgCmdTypeV3
    rw [header]
    rfl
  · have missing : ¬ (requestWalk emptyParse emptyRequest.event).TextsThere := by
      unfold requestWalk
      rw [read, if_neg (by decide), user]
      intro there
      exact absurd (there _ List.mem_cons_self) Bool.false_ne_true
    apply Option.not_isSome_iff_eq_none.mp
    rw [isSome_handleV3TransReady]
    exact fun both => missing both.1
  · have null : readCatalog id (emptyParse emptyPlatform) = .error .null := by
      rw [platform]
      rfl
    unfold handleCatalogBody
    rw [null]

end Gb28181.SipServer
