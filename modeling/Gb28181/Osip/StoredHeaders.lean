import Gb28181.Osip.SetHeader

namespace Gb28181.Osip

open Gb28181.Lib

variable {Header : Type}

/-- A header that a message has once at most. -/
def HeaderKind.single : HeaderKind → Bool
  | .contentType | .callId | .contentLength | .cseq | .fromHeader | .mimeVersion | .toHeader =>
    true
  | _ => false

def OsipMessage.items (sip : OsipMessage Header) : HeaderKind → List Header
  | .accept => sip.accepts
  | .acceptEncoding => sip.acceptEncodings
  | .acceptLanguage => sip.acceptLanguages
  | .alertInfo => sip.alertInfos
  | .allow => sip.allows
  | .authenticationInfo => sip.authenticationInfos
  | .authorization => sip.authorizations
  | .contentType => sip.contentType.toList
  | .callId => sip.callId.toList
  | .callInfo => sip.callInfos
  | .contact => sip.contacts
  | .contentEncoding => sip.contentEncodings
  | .contentLength => sip.contentLength.toList
  | .cseq => sip.cseq.toList
  | .errorInfo => sip.errorInfos
  | .fromHeader => sip.fromHeader.toList
  | .mimeVersion => sip.mimeVersion.toList
  | .proxyAuthenticate => sip.proxyAuthenticates
  | .proxyAuthenticationInfo => sip.proxyAuthenticationInfos
  | .proxyAuthorization => sip.proxyAuthorizations
  | .recordRoute => sip.recordRoutes
  | .route => sip.routes
  | .toHeader => sip.toHeader.toList
  | .via => sip.vias
  | .wwwAuthenticate => sip.wwwAuthenticates

/-- The message with other headers of the known kinds. -/
def OsipMessage.withItems (sip : OsipMessage Header) (items : HeaderKind → List Header) :
    OsipMessage Header :=
  { sip with
    accepts := items .accept
    acceptEncodings := items .acceptEncoding
    acceptLanguages := items .acceptLanguage
    alertInfos := items .alertInfo
    allows := items .allow
    authenticationInfos := items .authenticationInfo
    authorizations := items .authorization
    contentType := (items .contentType).head?
    callId := (items .callId).head?
    callInfos := items .callInfo
    contacts := items .contact
    contentEncodings := items .contentEncoding
    contentLength := (items .contentLength).head?
    cseq := (items .cseq).head?
    errorInfos := items .errorInfo
    fromHeader := (items .fromHeader).head?
    mimeVersion := (items .mimeVersion).head?
    proxyAuthenticates := items .proxyAuthenticate
    proxyAuthenticationInfos := items .proxyAuthenticationInfo
    proxyAuthorizations := items .proxyAuthorization
    recordRoutes := items .recordRoute
    routes := items .route
    toHeader := (items .toHeader).head?
    vias := items .via
    wwwAuthenticates := items .wwwAuthenticate }

def addItems (kind : HeaderKind) (headers : List Header) (items : HeaderKind → List Header) :
    HeaderKind → List Header :=
  Function.update items kind (items kind ++ headers)

/-- The header that a value stands for. An empty value stands for none, but for Accept. -/
def ParserLib.readValue (lib : ParserLib Header) (kind : HeaderKind) (hvalue : Option Text) :
    Option Header :=
  if hvalue.getD [] = [] ∧ kind ≠ .accept then none else lib.parse kind (hvalue.getD [])

variable (lib : ParserLib Header) (sip : OsipMessage Header)

theorem withItems_items : sip.withItems sip.items = sip := by
  simp [OsipMessage.withItems, OsipMessage.items]

theorem items_withItems (items : HeaderKind → List Header) (kind : HeaderKind) :
    (sip.withItems items).items kind = if kind.single then (items kind).take 1 else items kind := by
  cases kind <;>
    simp [OsipMessage.withItems, OsipMessage.items, HeaderKind.single, List.take_one]

theorem addItems_none (kind : HeaderKind) :
    sip.withItems (addItems kind [] sip.items) = sip := by
  simp [addItems, withItems_items]

theorem addItems_present {kind : HeaderKind} {header : Header} (headers : List Header)
    (single : kind.single = true) (here : sip.items kind = [header]) :
    sip.withItems (addItems kind headers sip.items) = sip := by
  refine Eq.trans ?_ (withItems_items sip)
  cases kind <;> simp_all [addItems, HeaderKind.single, OsipMessage.withItems]

theorem setListHeader_touch {kind : HeaderKind} {hvalue : Option Text}
    {add : Header → OsipMessage Header → OsipMessage Header} (filled : kind ≠ .accept)
    (adds : ∀ header, add header sip = sip.withItems (addItems kind [header] sip.items)) :
    (setListHeader (lib.parse kind) add hvalue sip).1.touch =
      (sip.withItems (addItems kind (lib.readValue kind hvalue).toList sip.items)).touch := by
  unfold setListHeader ParserLib.readValue
  by_cases empty : hvalue.getD [] = []
  · simp [empty, filled, addItems_none]
  · cases read : lib.parse kind (hvalue.getD []) with
    | none => simp [empty, addItems_none]
    | some header => simp [empty, adds, OsipMessage.touch]

theorem setSimpleHeader_touch {kind : HeaderKind} {hvalue : Option Text}
    {get : OsipMessage Header → Option Header}
    {put : Header → OsipMessage Header → OsipMessage Header} (filled : kind ≠ .accept)
    (single : kind.single = true) (own : sip.items kind = (get sip).toList)
    (puts : ∀ header, get sip = none →
      put header sip = sip.withItems (addItems kind [header] sip.items)) :
    (setSimpleHeader (lib.parse kind) get put hvalue sip).1.touch =
      (sip.withItems (addItems kind (lib.readValue kind hvalue).toList sip.items)).touch := by
  unfold setSimpleHeader ParserLib.readValue
  by_cases empty : hvalue.getD [] = []
  · simp [empty, filled, addItems_none]
  · cases old : get sip with
    | some header =>
      have here : sip.items kind = [header] := by simp [own, old]
      simp [empty, addItems_present sip _ single here]
    | none =>
      cases read : lib.parse kind (hvalue.getD []) with
      | none => simp [empty, addItems_none, OsipMessage.touch]
      | some header => simp [empty, puts header old, OsipMessage.touch]

/-- A header that is set is added to the ones of its kind, and nothing else changes. -/
theorem setheader_touch (kind : HeaderKind) (hvalue : Option Text) :
    (lib.setheader kind hvalue sip).1.touch =
      (sip.withItems (addItems kind (lib.readValue kind hvalue).toList sip.items)).touch := by
  cases kind with
  | accept =>
    cases read : lib.parse .accept (hvalue.getD []) <;>
      simp [ParserLib.setheader, ParserLib.osipMessageSetAccept, ParserLib.readValue, read,
        addItems, OsipMessage.withItems, OsipMessage.items, OsipMessage.touch]
  | contentType =>
    have simple : (lib.osipMessageSetContentType hvalue sip).1 =
        (setSimpleHeader (lib.parse .contentType) OsipMessage.contentType
          (fun contentType sip => { sip with contentType := some contentType }) hvalue sip).1 := by
      unfold ParserLib.osipMessageSetContentType setSimpleHeader
      by_cases empty : hvalue.getD [] = [] <;> cases old : sip.contentType <;> simp [empty]
    refine (congrArg OsipMessage.touch simple).trans ?_
    apply setSimpleHeader_touch <;>
      simp +contextual [addItems, HeaderKind.single, OsipMessage.withItems, OsipMessage.items]
  | callId | contentLength | cseq | fromHeader | mimeVersion | toHeader =>
    apply setSimpleHeader_touch <;>
      simp +contextual [addItems, HeaderKind.single, OsipMessage.withItems, OsipMessage.items]
  | _ =>
    apply setListHeader_touch <;> simp [addItems, OsipMessage.withItems, OsipMessage.items]

def headerKind (hname : Text) : Option HeaderKind := (headerConfig hname).map (·.setheader)

/-- The headers of a kind that fields stand for. -/
def ParserLib.knownHeaders (fields : List (Text × Option Text)) (kind : HeaderKind) :
    List Header :=
  fields.filterMap fun field =>
    if headerKind field.1 = some kind then lib.readValue kind field.2 else none

def ParserLib.otherHeaders (fields : List (Text × Option Text)) : List Header :=
  fields.filterMap fun field =>
    if headerKind field.1 = none then
      some (lib.header (osipClrspace field.1) (field.2.map osipClrspace))
    else none

/-- The message with what fields stand for. -/
def OsipMessage.withFields (fields : List (Text × Option Text)) : OsipMessage Header :=
  { sip with headers := sip.headers ++ lib.otherHeaders fields }.withItems fun kind =>
    sip.items kind ++ lib.knownHeaders fields kind

/-- The fields are set one after the other. -/
def ParserLib.storeFields (fields : List (Text × Option Text)) (sip : OsipMessage Header) :
    Option (OsipMessage Header) :=
  fields.foldlM (fun sip field => lib.setHeader field.1 field.2 sip) sip

theorem setHeader_touch {hname : Text} {hvalue : Option Text} {after : OsipMessage Header}
    (set : lib.setHeader hname hvalue sip = some after) :
    after.touch = (sip.withFields lib [(hname, hvalue)]).touch := by
  unfold ParserLib.setHeader at set
  rw [headerConfig_eq] at set
  cases known : headerConfig hname with
  | none =>
    rw [known] at set
    cases set
    simp [OsipMessage.withFields, ParserLib.knownHeaders, ParserLib.otherHeaders, headerKind, known,
      ParserLib.osipMessageSetHeader, OsipMessage.touch, OsipMessage.withItems,
      OsipMessage.items]
  | some config =>
    rw [known] at set
    have stored := setheader_touch lib sip config.setheader hvalue
    have same : after = (lib.setheader config.setheader hvalue sip).1 := by
      unfold ParserLib.callMethod at set
      dsimp only at set
      split at set
      · exact (Option.some.inj set).symm
      · cases set
    rw [same, stored]
    have items : addItems config.setheader (lib.readValue config.setheader hvalue).toList
        sip.items = fun kind => sip.items kind ++ lib.knownHeaders [(hname, hvalue)] kind := by
      funext kind
      by_cases own : kind = config.setheader
      · subst own
        cases read : lib.readValue config.setheader hvalue <;>
          simp [addItems, ParserLib.knownHeaders, headerKind, known, read]
      · have other : config.setheader ≠ kind := fun same => own same.symm
        simp [addItems, ParserLib.knownHeaders, headerKind, known, own, other]
    simp [OsipMessage.withFields, ParserLib.otherHeaders, headerKind, known, items]

theorem bodies_setHeader {hname : Text} {hvalue : Option Text} {after : OsipMessage Header}
    (set : lib.setHeader hname hvalue sip = some after) : after.bodies = sip.bodies := by
  have touched := setHeader_touch lib sip set
  calc after.bodies = after.touch.bodies := rfl
    _ = sip.bodies := by rw [touched]; rfl

theorem withFields_nil : sip.withFields lib [] = sip := by
  simp [OsipMessage.withFields, ParserLib.knownHeaders, ParserLib.otherHeaders, withItems_items]

theorem withFields_append (first second : List (Text × Option Text)) :
    sip.withFields lib (first ++ second) = (sip.withFields lib first).withFields lib second := by
  simp [OsipMessage.withFields, ParserLib.knownHeaders, ParserLib.otherHeaders,
    OsipMessage.withItems, OsipMessage.items, Option.or_assoc]

theorem storeFields_touch {fields : List (Text × Option Text)} {after : OsipMessage Header}
    (stored : lib.storeFields fields sip = some after) :
    after.touch = (sip.withFields lib fields).touch := by
  induction fields generalizing sip with
  | nil =>
    cases stored
    rw [withFields_nil]
  | cons field fields ih =>
    obtain ⟨between, set, rest⟩ := Option.bind_eq_some_iff.mp stored
    have first := setHeader_touch lib sip set
    calc after.touch = (between.withFields lib fields).touch := ih between rest
      _ = between.touch.withFields lib fields := rfl
      _ = (sip.withFields lib [field]).touch.withFields lib fields := by rw [first]
      _ = ((sip.withFields lib [field]).withFields lib fields).touch := rfl
      _ = (sip.withFields lib (field :: fields)).touch := by rw [← withFields_append]; rfl

/-- A header could be set, and what was printed before is not valid any more. -/
def Done (setting : Setting Header) : Prop := setting = (setting.1.touch, true)

theorem setListHeader_done {parse : Text → Option Header}
    {add : Header → OsipMessage Header → OsipMessage Header} {hvalue : Option Text}
    (full : hvalue.getD [] ≠ []) (read : (parse (hvalue.getD [])).isSome) :
    Done (setListHeader parse add hvalue sip) := by
  obtain ⟨header, read⟩ := Option.isSome_iff_exists.mp read
  simp [Done, setListHeader, full, read, OsipMessage.touch]

theorem setSimpleHeader_done {parse : Text → Option Header}
    {get : OsipMessage Header → Option Header}
    {put : Header → OsipMessage Header → OsipMessage Header} {hvalue : Option Text}
    (full : hvalue.getD [] ≠ []) (read : (parse (hvalue.getD [])).isSome) (free : get sip = none) :
    Done (setSimpleHeader parse get put hvalue sip) := by
  obtain ⟨header, read⟩ := Option.isSome_iff_exists.mp read
  simp [Done, setSimpleHeader, full, free, read, OsipMessage.touch]

theorem setheader_done {kind : HeaderKind} {hvalue : Option Text}
    (read : (lib.readValue kind hvalue).isSome) (free : kind.single = true → sip.items kind = []) :
    Done (lib.setheader kind hvalue sip) := by
  unfold ParserLib.readValue at read
  split at read
  · cases read
  · rename_i full
    cases kind with
    | accept =>
      obtain ⟨accept, read⟩ := Option.isSome_iff_exists.mp read
      simp [Done, ParserLib.setheader, ParserLib.osipMessageSetAccept, read, OsipMessage.touch]
    | contentType =>
      obtain ⟨contentType, read⟩ := Option.isSome_iff_exists.mp read
      have free : sip.contentType = none := by simpa [OsipMessage.items] using free rfl
      have full : hvalue.getD [] ≠ [] := by simpa using full
      simp [Done, ParserLib.setheader, ParserLib.osipMessageSetContentType, free, full, read,
        OsipMessage.touch]
    | callId | contentLength | cseq | fromHeader | mimeVersion | toHeader =>
      dsimp only [ParserLib.setheader]
      apply setSimpleHeader_done sip _ read
      · simpa [OsipMessage.items] using free rfl
      · simpa using full
    | _ =>
      dsimp only [ParserLib.setheader]
      apply setListHeader_done sip _ read
      simpa using full

/-- A field of a known kind whose value can be read, where the message has none of a kind that
is single; or a field of another name. -/
def OsipMessage.Takes (field : Text × Option Text) : Prop :=
  ∀ kind, headerKind field.1 = some kind → (lib.readValue kind field.2).isSome ∧
    (kind.single = true → sip.items kind = [])

theorem setHeader_eq {field : Text × Option Text} (takes : sip.Takes lib field) :
    lib.setHeader field.1 field.2 sip = some (sip.withFields lib [field]).touch := by
  have touched : ∃ after : OsipMessage Header,
      lib.setHeader field.1 field.2 sip = some after.touch := by
    unfold ParserLib.setHeader
    rw [headerConfig_eq]
    cases known : headerConfig field.1 with
    | none => exact ⟨_, rfl⟩
    | some config =>
      have same : headerKind field.1 = some config.setheader := by simp [headerKind, known]
      obtain ⟨read, free⟩ := takes config.setheader same
      have done := setheader_done lib sip read free
      refine ⟨(lib.setheader config.setheader field.2 sip).1, ?_⟩
      refine (?_ : lib.callMethod config field.2 sip = _)
      unfold ParserLib.callMethod
      rw [done]
      simp
  obtain ⟨after, set⟩ := touched
  have same := setHeader_touch lib sip set
  exact set.trans (congrArg some same)

/-- Fields that can be read are stored, if no kind that is single comes a second time. -/
theorem storeFields_eq {fields : List (Text × Option Text)} (filled : fields ≠ [])
    (read : ∀ field ∈ fields, ∀ kind, headerKind field.1 = some kind →
      (lib.readValue kind field.2).isSome)
    (once : ∀ kind, kind.single = true →
      (sip.items kind ++ lib.knownHeaders fields kind).length ≤ 1) :
    lib.storeFields fields sip = some (sip.withFields lib fields).touch := by
  induction fields generalizing sip with
  | nil => exact absurd rfl filled
  | cons field fields ih =>
    obtain ⟨here, there⟩ := List.forall_mem_cons.mp read
    have takes : sip.Takes lib field := by
      intro kind known
      refine ⟨here kind known, fun single => ?_⟩
      obtain ⟨header, value⟩ := Option.isSome_iff_exists.mp (here kind known)
      have few := once kind single
      simp [ParserLib.knownHeaders, known, value] at few
      exact List.length_eq_zero_iff.mp (by omega)
    have stored : lib.storeFields (field :: fields) sip =
        lib.storeFields fields (sip.withFields lib [field]).touch := by
      simp [ParserLib.storeFields, setHeader_eq lib sip takes]
    rw [stored]
    by_cases last : fields = []
    · subst last
      rfl
    · have whole : sip.withFields lib (field :: fields) =
          (sip.withFields lib [field]).withFields lib fields :=
        withFields_append lib sip [field] fields
      rw [whole]
      refine ih (sip.withFields lib [field]).touch last there fun kind single => ?_
      have few := once kind single
      have known : lib.knownHeaders (field :: fields) kind =
          lib.knownHeaders [field] kind ++ lib.knownHeaders fields kind :=
        List.filterMap_append (l := [field])
      have items : (sip.withFields lib [field]).touch.items kind =
          (sip.items kind ++ lib.knownHeaders [field] kind).take 1 := by
        refine Eq.trans (b := (sip.withFields lib [field]).items kind) rfl ?_
        rw [OsipMessage.withFields, items_withItems, if_pos single]
      rw [known, ← List.append_assoc, List.length_append] at few
      rw [items, List.length_append]
      exact (Nat.add_le_add_right (List.length_take_le' ..) _).trans few

end Gb28181.Osip
