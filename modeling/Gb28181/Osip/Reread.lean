import Gb28181.Osip.Frame
import Gb28181.Osip.Multipart

namespace Gb28181.Osip

open Gb28181.Lib

/-- The name that a header is printed under. -/
def HeaderKind.title : HeaderKind → Text
  | .accept => "Accept".toList
  | .acceptEncoding => "Accept-Encoding".toList
  | .acceptLanguage => "Accept-Language".toList
  | .alertInfo => "Alert-Info".toList
  | .allow => "Allow".toList
  | .authenticationInfo => "Authentication-Info".toList
  | .authorization => "Authorization".toList
  | .contentType => "Content-Type".toList
  | .callId => "Call-ID".toList
  | .callInfo => "Call-Info".toList
  | .contact => "Contact".toList
  | .contentEncoding => "Content-Encoding".toList
  | .contentLength => "Content-Length".toList
  | .cseq => "CSeq".toList
  | .errorInfo => "Error-Info".toList
  | .fromHeader => "From".toList
  | .mimeVersion => "Mime-Version".toList
  | .proxyAuthenticate => "Proxy-Authenticate".toList
  | .proxyAuthenticationInfo => "Proxy-Authentication-Info".toList
  | .proxyAuthorization => "Proxy-Authorization".toList
  | .recordRoute => "Record-Route".toList
  | .route => "Route".toList
  | .toHeader => "To".toList
  | .via => "Via".toList
  | .wwwAuthenticate => "WWW-Authenticate".toList

/-- The order in which the headers are printed; the length comes behind the others. -/
def tableOrder : List HeaderKind :=
  [.via, .recordRoute, .route, .fromHeader, .toHeader, .callId, .cseq, .contact, .authorization,
    .wwwAuthenticate, .proxyAuthenticate, .proxyAuthorization, .contentType, .mimeVersion, .allow,
    .contentEncoding, .callInfo, .alertInfo, .errorInfo, .accept, .acceptEncoding, .acceptLanguage,
    .authenticationInfo, .proxyAuthenticationInfo]

variable {Header : Type} (lib : ParserLib Header) (sip : OsipMessage Header)

theorem table_eq : sip.table.map (fun row => (row.1, row.2.items)) =
    tableOrder.map (fun kind => (kind.title ++ ": ".toList, sip.items kind)) := by
  rfl

theorem title_known : ∀ kind ∈ .contentLength :: tableOrder,
    headerKind (osipTolower kind.title) = some kind := by
  decide +kernel

theorem tableOrder_nodup : tableOrder.Nodup := by decide

/-- A header as it stands in a head: under a known name, or under one of its own. -/
abbrev Entry (Header : Type) := Option HeaderKind × Header

def OsipMessage.entries : List (Entry Header) :=
  tableOrder.flatMap (fun kind => (sip.items kind).map (some kind, ·)) ++ sip.headers.map (none, ·)

def Entry.line : Entry Header → Text
  | (some kind, header) => namedLine 1 kind.title ((lib.toStr header).getD [])
  | (none, header) => (lib.toStr header).getD []

/-- A header of another name as it is read again: with its name in small letters. -/
def ParserLib.lowered (header : Header) : Header :=
  let text := (lib.toStr header).getD []
  match strchr text ':' 0 with
  | none => header
  | some colonIndex =>
    lib.header (osipTolower (text.take colonIndex))
      (some (osipClrspace (text.drop (colonIndex + 1))))

/-- The header of an entry is printed in a line of its own, and read again as it was, or with its
name in small letters. -/
def Entry.Rereads : Entry Header → Prop
  | (some kind, header) => ∃ hvalue, lib.toStr header = some hvalue ∧ hvalue ≠ [] ∧
      NamedLine kind.title hvalue ∧ IsSingle (osipTolower kind.title) hvalue ∧
      lib.parse kind hvalue = some header
  | (none, header) => ∃ hname hvalue, lib.toStr header = some (namedLine 1 hname hvalue) ∧
      NamedLine hname hvalue ∧ ' ' ∉ hname ∧ IsSingle (osipTolower hname) hvalue ∧
      headerKind (osipTolower hname) = none

/-- The field that an entry is read from. -/
structure Entry.ReadFrom (entry : Entry Header) (field : Text × Option Text) : Prop where
  line : lineFields (entry.line lib) = some [field]
  known : ∀ kind, lib.knownHeaders [field] kind = if entry.1 = some kind then [entry.2] else []
  other : lib.otherHeaders [field] = if entry.1 = none then [lib.lowered entry.2] else []
  readable : ∀ kind, headerKind field.1 = some kind → (lib.readValue kind field.2).isSome

variable {lib} {entry : Entry Header} {entries : List (Entry Header)}

theorem Entry.Rereads.line (rereads : entry.Rereads lib) :
    IsHeadLine (entry.line lib) ∧ BalancedLine (entry.line lib) := by
  obtain ⟨_ | kind, header⟩ := entry
  · obtain ⟨hname, hvalue, printed, named, -, single, -⟩ := rereads
    simp only [Entry.line, printed, Option.getD_some]
    exact ⟨named.isHeadLine, balancedLine_namedLine named (.inl Nat.one_ne_zero) single⟩
  · obtain ⟨hvalue, printed, -, named, single, -⟩ := rereads
    simp only [Entry.line, printed, Option.getD_some]
    exact ⟨named.isHeadLine, balancedLine_namedLine named (.inl Nat.one_ne_zero) single⟩

theorem isLws_toLower {char : Char} (apart : isLws char = false) : isLws char.toLower = false := by
  have letters : ∀ blank ∈ [' ', '\r', '\n', '\t'], blank.isAlpha = false ∧ isLws blank = true := by
    decide
  by_contra spaced
  rw [Bool.not_eq_false] at spaced
  have listed : char.toLower ∈ [' ', '\r', '\n', '\t'] := by
    simpa [isLws, or_assoc] using spaced
  obtain ⟨noLetter, isBlank⟩ := letters _ listed
  have same : char = char.toLower := eq_of_toLower noLetter rfl
  rw [← same, apart] at isBlank
  cases isBlank

theorem stripped_toLower {text : Text} (stripped : Stripped isLws text) :
    Stripped isLws (osipTolower text) := by
  refine ⟨fun char first => ?_, fun char last => ?_⟩
  · rw [osipTolower, List.head?_map] at first
    obtain ⟨own, here, rfl⟩ := Option.map_eq_some_iff.mp first
    exact isLws_toLower (stripped.1 own here)
  · rw [osipTolower, List.getLast?_map] at last
    obtain ⟨own, here, rfl⟩ := Option.map_eq_some_iff.mp last
    exact isLws_toLower (stripped.2 own here)

theorem lowered_eq {header : Header} {hname hvalue : Text}
    (printed : lib.toStr header = some (namedLine 1 hname hvalue))
    (named : NamedLine hname hvalue) :
    lib.lowered header = lib.header (osipTolower hname) (some hvalue) := by
  unfold ParserLib.lowered
  rw [printed, Option.getD_some]
  dsimp only
  rw [strchr_namedLine named]
  dsimp only
  rw [value_namedLine named, namedLine, List.take_left]

theorem Entry.Rereads.readFrom (rereads : entry.Rereads lib)
    (titled : ∀ kind, entry.1 = some kind → kind ∈ .contentLength :: tableOrder) :
    ∃ field, entry.ReadFrom lib field := by
  obtain ⟨_ | kind, header⟩ := entry
  · obtain ⟨hname, hvalue, printed, named, -, single, unknown⟩ := rereads
    refine ⟨(osipTolower hname, some hvalue), ?_, fun kind => ?_, ?_, fun kind known => ?_⟩
    · simpa [Entry.line, printed] using lineFields_namedLine named (.inl Nat.one_ne_zero) single
    · simp [ParserLib.knownHeaders, unknown]
    · have name : osipClrspace (osipTolower hname) = osipTolower hname :=
        strip_eq_self (stripped_toLower named.named.2.2)
      have value : osipClrspace hvalue = hvalue := strip_eq_self named.stripped
      simp [ParserLib.otherHeaders, unknown, lowered_eq printed named, name, value]
    · rw [unknown] at known
      cases known
  · obtain ⟨hvalue, printed, full, named, single, same⟩ := rereads
    have known := title_known kind (titled kind rfl)
    refine ⟨(osipTolower kind.title, some hvalue), ?_, fun other => ?_, ?_, fun other here => ?_⟩
    · simpa [Entry.line, printed] using lineFields_namedLine named (.inl Nat.one_ne_zero) single
    · by_cases own : kind = other
      · subst own
        simp [ParserLib.knownHeaders, known, ParserLib.readValue, full, same]
      · simp [ParserLib.knownHeaders, known, own]
    · simp [ParserLib.otherHeaders, known]
    · rw [known] at here
      cases here
      simp [ParserLib.readValue, full, same]

variable (lib) in
/-- The fields that entries are read from. -/
structure ReadsEntries (entries : List (Entry Header)) (fields : List (Text × Option Text)) :
    Prop where
  lines : headFields (entries.map (Entry.line lib)) = some fields
  known : ∀ kind, lib.knownHeaders fields kind =
    (entries.filter (·.1 = some kind)).map Prod.snd
  other : lib.otherHeaders fields =
    ((entries.filter (·.1 = none)).map Prod.snd).map lib.lowered
  filled : entries ≠ [] → fields ≠ []
  readable : ∀ field ∈ fields, ∀ kind, headerKind field.1 = some kind →
    (lib.readValue kind field.2).isSome

theorem exists_readsEntries (each : ∀ entry ∈ entries, ∃ field, Entry.ReadFrom lib entry field) :
    ∃ fields, ReadsEntries lib entries fields := by
  induction entries with
  | nil => exact ⟨[], rfl, fun _ => rfl, rfl, fun some => absurd rfl some, by simp⟩
  | cons entry entries ih =>
    obtain ⟨here, there⟩ := List.forall_mem_cons.mp each
    obtain ⟨field, reads⟩ := here
    obtain ⟨fields, others⟩ := ih there
    refine ⟨field :: fields, ?_, fun kind => ?_, ?_, fun _ => List.cons_ne_nil _ _, ?_⟩
    · simp [headFields, reads.line, others.lines]
    · have joined : lib.knownHeaders (field :: fields) kind =
          lib.knownHeaders [field] kind ++ lib.knownHeaders fields kind :=
        List.filterMap_append (l := [field])
      rw [joined, reads.known, others.known, List.filter_cons]
      by_cases own : entry.1 = some kind <;> simp [own]
    · have joined : lib.otherHeaders (field :: fields) =
          lib.otherHeaders [field] ++ lib.otherHeaders fields :=
        List.filterMap_append (l := [field])
      rw [joined, reads.other, others.other, List.filter_cons]
      by_cases own : entry.1 = none <;> simp [own]
    · exact List.forall_mem_cons.mpr ⟨reads.readable, others.readable⟩

theorem printAll_lines {Item : Type} {print : Item → Option Text} {line : Item → Text}
    {items : List Item} (each : ∀ item ∈ items, print item = some (line item ++ crlf)) :
    printAll print items = some (joinLines (items.map line)) := by
  induction items with
  | nil => rfl
  | cons item items ih =>
    obtain ⟨here, there⟩ := List.forall_mem_cons.mp each
    simp [printAll, here, ih there, joinLines, crlf]

theorem printAll_joined {Item : Type} {print : Item → Option Text} {lines : Item → List Text}
    {items : List Item} (each : ∀ item ∈ items, print item = some (joinLines (lines item))) :
    printAll print items = some (joinLines (items.flatMap lines)) := by
  induction items with
  | nil => rfl
  | cons item items ih =>
    obtain ⟨here, there⟩ := List.forall_mem_cons.mp each
    simp [printAll, here, ih there, joinLines]

theorem printAll_map {Item Row : Type} (print : Row → Option Text) (row : Item → Row)
    (items : List Item) :
    printAll print (items.map row) = printAll (fun item => print (row item)) items := by
  induction items with
  | nil => rfl
  | cons item items ih => simp [printAll, ih]

theorem headerLine_line {name text : Text} {header : Header}
    (printed : lib.toStr header = some text) (zeroless : '\x00' ∉ text) :
    headerLine lib.toHeaderLib name header = some (name ++ text ++ crlf) := by
  simp [headerLine, printed, cString_eq_self zeroless]

theorem zero_not_mem_line {line : Text} (plain : IsLine line) : '\x00' ∉ line :=
  fun zero => (plain _ zero).2.2 rfl

theorem headerLines_entries (rereads : ∀ entry ∈ sip.entries, entry.Rereads lib) :
    headerLines lib.toHeaderLib sip = some (joinLines (sip.entries.map (Entry.line lib))) := by
  have rows : printAll (fun row : Text × Row Header =>
      printAll (headerLine lib.toHeaderLib row.1) row.2.items) sip.table =
      some (joinLines (tableOrder.flatMap fun kind =>
        (sip.items kind).map fun header => Entry.line lib (some kind, header))) := by
    have named : printAll (fun row : Text × Row Header =>
        printAll (headerLine lib.toHeaderLib row.1) row.2.items) sip.table =
        printAll (fun row : Text × List Header => printAll (headerLine lib.toHeaderLib row.1) row.2)
          (sip.table.map fun row => (row.1, row.2.items)) := by rw [printAll_map]
    rw [named, table_eq, printAll_map]
    refine printAll_joined fun kind member => printAll_lines fun header own => ?_
    have listed : (some kind, header) ∈ sip.entries :=
      List.mem_append_left _ (List.mem_flatMap.mpr
        ⟨kind, member, List.mem_map.mpr ⟨header, own, rfl⟩⟩)
    obtain ⟨hvalue, printed, -, line, -⟩ := rereads _ listed
    rw [headerLine_line printed (zero_not_mem_line line.plain.2)]
    simp [Entry.line, printed, namedLine]
  have others : printAll (headerLine lib.toHeaderLib []) sip.headers =
      some (joinLines (sip.headers.map fun header => Entry.line lib (none, header))) := by
    refine printAll_lines fun header member => ?_
    have own : (none, header) ∈ sip.entries :=
      List.mem_append_right _ (List.mem_map.mpr ⟨header, member, rfl⟩)
    obtain ⟨hname, hvalue, printed, named, -⟩ := rereads _ own
    have line : IsHeadLine (namedLine 1 hname hvalue) := named.isHeadLine
    rw [headerLine_line printed (zero_not_mem_line line.1)]
    simp [Entry.line, printed]
  unfold headerLines
  simp [rows, others, OsipMessage.entries, joinLines_append, List.map_flatMap, Function.comp_def]

theorem filter_rows {order : List HeaderKind} (once : order.Nodup)
    (items : HeaderKind → List Header) (kind : HeaderKind) :
    ((order.flatMap fun kind => (items kind).map fun header =>
      ((some kind, header) : Entry Header)).filter (·.1 = some kind)).map Prod.snd =
        if kind ∈ order then items kind else [] := by
  induction order with
  | nil => rfl
  | cons first order ih =>
    obtain ⟨apart, once⟩ := List.nodup_cons.mp once
    rw [List.flatMap_cons, List.filter_append, List.map_append, ih once]
    by_cases own : first = kind
    · subst own
      simp [apart, List.filter_map, Function.comp_def]
    · have other : kind ≠ first := fun same => own same.symm
      simp [own, other, List.filter_map, Function.comp_def]

theorem known_entries (kind : HeaderKind) :
    (sip.entries.filter (·.1 = some kind)).map Prod.snd =
      if kind ∈ tableOrder then sip.items kind else [] := by
  have others : (sip.headers.map fun header => ((none, header) : Entry Header)).filter
      (·.1 = some kind) = [] := by simp [List.filter_map, Function.comp_def]
  rw [OsipMessage.entries, List.filter_append, others, List.append_nil,
    filter_rows tableOrder_nodup]

theorem other_entries : (sip.entries.filter (·.1 = none)).map Prod.snd = sip.headers := by
  have rows : (tableOrder.flatMap fun kind => (sip.items kind).map
      fun header => ((some kind, header) : Entry Header)).filter (·.1 = none) = [] := by
    simp [List.filter_flatMap, List.filter_map, Function.comp_def]
  rw [OsipMessage.entries, List.filter_append, rows, List.nil_append]
  simp [List.filter_map, Function.comp_def]

variable (lib) in
/-- A start line that is read as it was. -/
inductive OsipMessage.StartRereads (sip : OsipMessage Header) : Prop where
  | request (request : RequestLine) (reqUri : Header)
      (parts : sip.sipMethod = some request.method ∧ sip.reqUri = some reqUri ∧
        sip.sipVersion = some request.version)
      (uncoded : sip.statusCode = 0 ∧ sip.reasonPhrase = none)
      (printed : lib.toStr reqUri = some request.uri)
      (read : lib.uriParse request.uri = some reqUri)
  | response (status : StatusLine)
      (parts : sip.sipVersion = some status.version ∧ sip.statusCode = status.statusCode ∧
        sip.reasonPhrase = some status.reasonPhrase)
      (unnamed : sip.sipMethod = none ∧ sip.reqUri = none)

/-- A message with that start line and nothing else. -/
def OsipMessage.startOf : OsipMessage Header :=
  { OsipMessage.init Header with
    sipVersion := sip.sipVersion
    reqUri := sip.reqUri
    sipMethod := sip.sipMethod
    statusCode := sip.statusCode
    reasonPhrase := sip.reasonPhrase }

theorem RequestLine.isHeadLine (request : RequestLine) : IsHeadLine request.line := by
  obtain ⟨named, spaceless, tabless, -⟩ := request.named
  obtain ⟨method, uri, version⟩ := request.plain
  obtain ⟨first, rest, same⟩ := List.exists_cons_of_ne_nil named
  have noSpace : first ≠ ' ' := fun blank => spaceless (by simp [same, blank])
  have noTab : first ≠ '\t' := fun blank => tabless (by simp [same, blank])
  refine ⟨?_, ?_, ?_, ?_⟩
  · exact method.append (IsLine.cons (by decide) (uri.append (IsLine.cons (by decide) version)))
  · simp [RequestLine.line]
  · simp [RequestLine.line, same, noSpace]
  · simp [RequestLine.line, same, noTab]

theorem StatusLine.isHeadLine (status : StatusLine) : IsHeadLine status.line := by
  obtain ⟨begins, -⟩ := status.versioned
  obtain ⟨version, reason⟩ := status.plain
  obtain ⟨rest, same⟩ := begins
  have shape : ∃ more, status.line = 'S' :: more := ⟨_, by rw [StatusLine.line, ← same]; rfl⟩
  obtain ⟨more, first⟩ := shape
  refine ⟨?_, ?_, ?_, ?_⟩
  · exact version.append (IsLine.cons (by decide)
      ((isLine_decimal _).append (IsLine.cons (by decide) reason)))
  all_goals simp [first]

/-- The line is printed, and gives the start of the message again. -/
theorem OsipMessage.StartRereads.line (start : sip.StartRereads lib)
    (unframed : sip.v3Head = none) :
    ∃ line, startlineToStr lib.toHeaderLib sip = some line ∧ IsHeadLine line ∧
      ∀ rest, lib.startlineParse (.init Header) (line ++ '\r' :: '\n' :: rest) =
        ⟨sip.startOf, rest, true⟩ := by
  cases start with
  | request request reqUri parts uncoded printed read =>
    obtain ⟨method, uri, version⟩ := parts
    obtain ⟨code, reason⟩ := uncoded
    obtain ⟨methodLine, uriLine, versionLine⟩ := request.plain
    refine ⟨request.line, ?_, request.isHeadLine, fun rest => ?_⟩
    · have empty : cString [] = [] := rfl
      simp [startlineToStr, startlineToStrreq, method, uri, version, printed, unframed, empty,
        cString_eq_self (zero_not_mem_line methodLine), cString_eq_self (zero_not_mem_line uriLine),
        cString_eq_self (zero_not_mem_line versionLine), RequestLine.line]
    · rw [startlineParse_request lib _ request read]
      simp [OsipMessage.startOf, method, uri, version, code, reason]
  | response status parts unnamed =>
    obtain ⟨version, code, reason⟩ := parts
    obtain ⟨method, uri⟩ := unnamed
    obtain ⟨versionLine, reasonLine⟩ := status.plain
    obtain ⟨low, high⟩ := status.coded
    refine ⟨status.line, ?_, status.isHeadLine, fun rest => ?_⟩
    · have digits : (decimal status.statusCode).length ≤ 3 := by
        obtain ⟨number, same⟩ := Int.eq_ofNat_of_zero_le (by omega : 0 ≤ status.statusCode)
        rw [same] at high ⊢
        exact (length_decimal_le_iff number 3 (by decide)).mpr (by omega)
      have some : status.statusCode ≠ 0 := by omega
      have inside : ¬ (status.statusCode < 100 ∨ status.statusCode > 699) := by omega
      simp [startlineToStr, startlineToStrresp, method, version, code, reason, some, inside,
        List.take_of_length_le digits, cString_eq_self (zero_not_mem_line versionLine),
        cString_eq_self (zero_not_mem_line reasonLine), StatusLine.line]
    · rw [startlineParse_status lib _ status]
      simp [OsipMessage.startOf, method, uri, version, code, reason]

variable (lib) in
def OsipMessage.reread (length : Header) : OsipMessage Header :=
  { sip with
    headers := sip.headers.map lib.lowered
    contentLength := some length
    messageProperty := 2
    message := none
    messageLength := 0
    v3Head := none }

def lengthLine (blanks size : Nat) : Text :=
  namedLine blanks HeaderKind.contentLength.title (decimal size)

def lengthField (size : Nat) : Text × Option Text :=
  (osipTolower HeaderKind.contentLength.title, some (decimal size))

theorem isLws_decimal (number : Int) : ∀ char ∈ decimal number, isLws char = false := by
  have blanks : ∀ char ∈ [' ', '\r', '\n', '\t'], char.isDigit = false ∧ char ≠ '-' := by decide
  intro char member
  by_contra blank
  rw [Bool.not_eq_false] at blank
  have listed : char ∈ [' ', '\r', '\n', '\t'] := by simpa [isLws, or_assoc] using blank
  obtain ⟨noDigit, noSign⟩ := blanks char listed
  exact not_mem_decimal noDigit noSign member

theorem named_length (size : Nat) :
    NamedLine HeaderKind.contentLength.title (decimal size) where
  named := by
    refine ⟨?_, ?_, stripped_of_edges ?_ ?_⟩ <;> decide +kernel
  plain := by
    refine ⟨?_, isLine_decimal _⟩
    unfold IsLine
    decide +kernel
  stripped := by
    refine ⟨fun char first => ?_, fun char last => ?_⟩
    · exact isLws_decimal _ char (List.mem_of_head? first)
    · exact isLws_decimal _ char (List.mem_of_getLast? last)

theorem single_length (size : Nat) :
    IsSingle (osipTolower HeaderKind.contentLength.title) (decimal size) :=
  .inl (.inl (not_mem_decimal (by decide) (by decide)))

theorem lengthLine_plain (blanks size : Nat) :
    IsHeadLine (lengthLine blanks size) ∧ BalancedLine (lengthLine blanks size) :=
  ⟨(named_length size).isHeadLine,
    balancedLine_namedLine (named_length size) (.inr (decimal_ne_nil _)) (single_length size)⟩

theorem headFields_append {lines others : List Text} {fields more : List (Text × Option Text)}
    (here : headFields lines = some fields) (there : headFields others = some more) :
    headFields (lines ++ others) = some (fields ++ more) := by
  induction lines generalizing fields with
  | nil =>
    cases here
    exact there
  | cons line lines ih =>
    obtain ⟨own, first, rest⟩ := Option.bind_eq_some_iff.mp here
    obtain ⟨later, second, same⟩ := Option.bind_eq_some_iff.mp rest
    cases same
    simp [headFields, first, ih second]

theorem headFields_length (blanks size : Nat) :
    headFields [lengthLine blanks size] = some [lengthField size] := by
  have fields := @lineFields_namedLine _ _ blanks (named_length size) (.inr (decimal_ne_nil _))
    (single_length size)
  simp [headFields, lengthLine, fields, lengthField]

theorem items_startOf (kind : HeaderKind) : sip.startOf.items kind = [] := by cases kind <;> rfl

theorem items_single {kind : HeaderKind} (single : kind.single = true) :
    (sip.items kind).length ≤ 1 := by
  have few (data : Option Header) : data.toList.length ≤ 1 := by cases data <;> simp
  cases kind <;> first | exact few _ | cases single

theorem mem_tableOrder (kind : HeaderKind) : kind ∈ tableOrder ↔ kind ≠ .contentLength := by
  cases kind <;> decide

/-- The entries and the length are stored as the message has them. -/
theorem storeFields_entries {size : Nat} {length : Header}
    (rereads : ∀ entry ∈ sip.entries, entry.Rereads lib)
    (read : lib.parse .contentLength (decimal size) = some length) (blanks : Nat) :
    ∃ fields, headFields (sip.entries.map (Entry.line lib) ++ [lengthLine blanks size]) =
        some fields ∧
      lib.storeFields fields sip.startOf = some { sip.reread lib length with bodies := [] } := by
  have each : ∀ entry ∈ sip.entries, ∃ field, Entry.ReadFrom lib entry field := by
    intro entry member
    refine (rereads entry member).readFrom fun kind same => List.mem_cons_of_mem _ ?_
    rcases List.mem_append.mp member with row | other
    · obtain ⟨own, listed, inside⟩ := List.mem_flatMap.mp row
      obtain ⟨header, -, rfl⟩ := List.mem_map.mp inside
      exact Option.some.inj same ▸ listed
    · obtain ⟨header, -, rfl⟩ := List.mem_map.mp other
      cases same
  obtain ⟨fields, reads⟩ := exists_readsEntries each
  have titled : headerKind (lengthField size).1 = some .contentLength :=
    title_known .contentLength List.mem_cons_self
  have value : lib.readValue .contentLength (lengthField size).2 = some length := by
    have filled := decimal_ne_nil (size : Int)
    simp [ParserLib.readValue, lengthField, filled, read]
  have known (kind : HeaderKind) : lib.knownHeaders (fields ++ [lengthField size]) kind =
      if kind = .contentLength then [length] else sip.items kind := by
    have joined : lib.knownHeaders (fields ++ [lengthField size]) kind =
        lib.knownHeaders fields kind ++ lib.knownHeaders [lengthField size] kind :=
      List.filterMap_append
    rw [joined, reads.known, known_entries]
    by_cases own : kind = .contentLength
    · subst own
      simp [mem_tableOrder, ParserLib.knownHeaders, titled, value]
    · have other : HeaderKind.contentLength ≠ kind := fun same => own same.symm
      simp [mem_tableOrder, own, ParserLib.knownHeaders, titled, other]
  have other : lib.otherHeaders (fields ++ [lengthField size]) =
      sip.headers.map lib.lowered := by
    have joined : lib.otherHeaders (fields ++ [lengthField size]) =
        lib.otherHeaders fields ++ lib.otherHeaders [lengthField size] := List.filterMap_append
    rw [joined, reads.other, other_entries]
    simp [ParserLib.otherHeaders, titled]
  have readable : ∀ field ∈ fields ++ [lengthField size], ∀ kind,
      headerKind field.1 = some kind → (lib.readValue kind field.2).isSome := by
    intro field member kind same
    rcases List.mem_append.mp member with first | last
    · exact reads.readable field first kind same
    · rw [List.mem_singleton.mp last] at same ⊢
      rw [titled] at same
      cases same
      rw [value]
      rfl
  have once (kind : HeaderKind) (single : kind.single = true) :
      (sip.startOf.items kind ++
        lib.knownHeaders (fields ++ [lengthField size]) kind).length ≤ 1 := by
    rw [items_startOf, known, List.nil_append]
    split
    · exact le_rfl
    · exact items_single sip single
  refine ⟨fields ++ [lengthField size],
    headFields_append reads.lines (headFields_length blanks size), ?_⟩
  rw [storeFields_eq lib sip.startOf (List.append_ne_nil_of_right_ne_nil _ (by simp)) readable once]
  simp [OsipMessage.withFields, known, other, OsipMessage.withItems,
    OsipMessage.items, OsipMessage.reread, OsipMessage.startOf, OsipMessage.touch, OsipMessage.init]

variable (lib) in
/-- No bodies, or those of a multipart whose boundary stands in none of them. -/
inductive OsipMessage.BodiesReread (sip : OsipMessage Header) : Prop where
  | bodiless (none : sip.bodies = [])
  | multipart (contentType : Header) (type subtype gvalue : Text)
      (typed : sip.contentType = some contentType ∧ lib.type contentType = some type ∧
        lib.subtype contentType = some subtype ∧ lib.boundary contentType = some gvalue)
      (several : strcasecmpEq type "multipart".toList = true ∧ sip.mimeVersion.isSome)
      (bounded : gvalue.length ≤ mimeMaxBoundaryLen ∧ gvalue ≠ ['"'] ∧ '\x00' ∉ gvalue)
      (filled : sip.bodies ≠ [])
      (parts : ∀ body ∈ sip.bodies, PartRereads lib (sepBoundary gvalue) body)

def bodiesText (lib : HeaderLib Header) (sip : OsipMessage Header) : Text :=
  if sip.bodies.isEmpty then []
  else match bodiesToStr lib sip with
    | .ok bodies => bodies
    | .error _ => []

variable {body : OsipBody Header} {bodies : List (OsipBody Header)} {sep gvalue closing : Text}

theorem bodyToStr_rereads (rereads : BodyRereads lib body) :
    bodyToStr lib.toHeaderLib body = some (bodyText lib body) := by
  have full : ¬ body.body.length ≤ 0 := fun empty =>
    rereads.filled (List.length_eq_zero_iff.mp (Nat.le_zero.mp empty))
  have contentType : printAll (headerLine lib.toHeaderLib "content-type: ".toList)
      body.contentType.toList = some (joinLines (body.contentType.toList.map fun contentType =>
        namedLine 1 contentTypeName ((lib.toStr contentType).getD []))) := by
    refine printAll_lines fun contentType own => ?_
    obtain ⟨hvalue, printed, named, -⟩ := rereads.contentType _ (Option.mem_toList.mp own)
    have name : "content-type: ".toList = contentTypeName ++ [':', ' '] := by decide +kernel
    rw [headerLine_line printed (zero_not_mem_line named.plain.2), name, printed]
    simp [namedLine]
  have headers : printAll (headerLine lib.toHeaderLib []) body.headers =
      some (joinLines (body.headers.map fun header => (lib.toStr header).getD [])) := by
    refine printAll_lines fun header own => ?_
    obtain ⟨hname, hvalue, printed, named, -⟩ := rereads.headers _ own
    have line : IsHeadLine (namedLine 1 hname hvalue) := named.isHeadLine
    rw [headerLine_line printed (zero_not_mem_line line.1), printed]
    rfl
  have headed : body.headers.length > 0 ∨ body.contentType.isSome = true := by
    rcases rereads.headed with typed | filled
    · exact .inr typed
    · exact .inl (List.length_pos_of_ne_nil filled)
  unfold bodyToStr
  rw [if_neg full, contentType, headers]
  dsimp only [Option.bind_eq_bind, Option.bind_some]
  rw [if_pos headed, bodyText, bodyLines, joinLines_append]
  simp

/-- The boundary is printed in front of each body and behind the last one. -/
theorem printAll_bodies (parts : ∀ body ∈ bodies, PartRereads lib sep body) :
    ∃ texts, printAll (fun body => (bodyToStr lib.toHeaderLib body).map
        ('\r' :: sep ++ crlf ++ ·)) bodies = some texts ∧
      texts ++ '\r' :: (sep ++ ['-', '-', '\r', '\n']) =
        '\r' :: (sep ++ behindBoundary lib sep ['\n'] bodies) := by
  induction bodies with
  | nil => exact ⟨[], rfl, rfl⟩
  | cons body bodies ih =>
    obtain ⟨here, there⟩ := List.forall_mem_cons.mp parts
    obtain ⟨texts, printed, same⟩ := ih there
    refine ⟨'\r' :: sep ++ crlf ++ bodyText lib body ++ texts, ?_, ?_⟩
    · simp only [printAll, bodyToStr_rereads here.rereads, Option.map_some, printed,
        Option.bind_eq_bind, Option.bind_some, Option.pure_def]
    · rw [List.append_assoc, same]
      simp [behindBoundary, crlf]

theorem bodiesToStr_multipart (contentType : Header) (type : Text)
    (typed : sip.contentType = some contentType ∧ lib.type contentType = some type ∧
      lib.boundary contentType = some gvalue)
    (several : strcasecmpEq type "multipart".toList = true ∧ sip.mimeVersion.isSome)
    (bounded : gvalue.length ≤ mimeMaxBoundaryLen ∧ gvalue ≠ ['"'] ∧ '\x00' ∉ gvalue)
    (parts : ∀ body ∈ sip.bodies, PartRereads lib (sepBoundary gvalue) body) :
    bodiesToStr lib.toHeaderLib sip = .ok ('\r' :: (sepBoundary gvalue ++
      behindBoundary lib (sepBoundary gvalue) ['\n'] sip.bodies)) := by
  obtain ⟨present, ofType, boundary⟩ := typed
  obtain ⟨multipart, mime⟩ := several
  obtain ⟨short, whole, zeroless⟩ := bounded
  have bare : cString gvalue.tail.dropLast = gvalue.tail.dropLast := cString_eq_self fun zero =>
    zeroless (List.mem_of_mem_tail (List.mem_of_mem_dropLast zero))
  have bound : boundaryOf lib.toHeaderLib sip = .ok (some ('\r' :: sepBoundary gvalue)) := by
    have fits : ¬ gvalue.length > mimeMaxBoundaryLen := Nat.not_lt.mpr short
    unfold boundaryOf sepBoundary
    rw [present]
    dsimp only
    rw [ofType, Option.any_some, if_pos ⟨mime, multipart⟩, boundary]
    dsimp only
    rw [if_neg fits, if_neg whole, bare, cString_eq_self zeroless]
    split <;> rfl
  obtain ⟨texts, printed, same⟩ := printAll_bodies parts
  unfold bodiesToStr
  rw [bound]
  dsimp only [bind, Except.bind]
  rw [printed]
  have tail : texts ++ ('\r' :: sepBoundary gvalue ++ ['-', '-'] ++ crlf) = texts ++
      '\r' :: (sepBoundary gvalue ++ ['-', '-', '\r', '\n']) := by simp [crlf]
  exact congrArg Except.ok (tail.trans same)

variable (lib) in
/-- A message that is printed and read again as it was: its start line, each of its headers, the
length of its bodies, and the bodies. -/
structure OsipMessage.Rereads (sip : OsipMessage Header) : Prop where
  start : sip.StartRereads lib
  unframed : sip.v3Head = none
  entries : ∀ entry ∈ sip.entries, entry.Rereads lib
  lengths : ∀ size : Nat, (lib.parse .contentLength (decimal size)).isSome
  bodies : sip.BodiesReread lib

theorem contentLengthLine_eq (size : Nat) :
    contentLengthLine size = lengthLine (6 - (decimal size).length) size := by
  have name : HeaderKind.contentLength.title ++ [':'] = "Content-Length:".toList := by
    decide +kernel
  have parts : ∀ name whole space digits : Text, name ++ [':'] = whole →
      whole ++ space ++ digits = name ++ ':' :: (space ++ digits) := by
    rintro name whole space digits rfl
    simp
  exact parts _ _ _ _ name

/-- The text is made up of the start line, the lines of the entries, the length, a blank line and
the bodies. -/
theorem sipText_rereads (rereads : sip.Rereads lib) : ∃ line blanks,
    startlineToStr lib.toHeaderLib sip = some line ∧ IsHeadLine line ∧
      (∀ rest, lib.startlineParse (.init Header) (line ++ '\r' :: '\n' :: rest) =
        ⟨sip.startOf, rest, true⟩) ∧
      sipText lib.toHeaderLib sip false = some
        (joinLines (line :: (sip.entries.map (Entry.line lib) ++
          [lengthLine blanks (bodiesText lib.toHeaderLib sip).length])) ++ crlf ++
            bodiesText lib.toHeaderLib sip) := by
  obtain ⟨line, started, plain, read⟩ :=
    OsipMessage.StartRereads.line sip rereads.start rereads.unframed
  have shown := headerLines_entries sip rereads.entries
  have ended : ∃ blanks, ending lib.toHeaderLib sip false = some
      (lengthLine blanks (bodiesText lib.toHeaderLib sip).length ++ crlf ++ crlf ++
        bodiesText lib.toHeaderLib sip) := by
    unfold ending bodiesText
    cases rereads.bodies with
    | bodiless none =>
      have zero : contentLengthName ++ ['0'] = lengthLine 1 0 := by decide +kernel
      refine ⟨1, ?_⟩
      simp [none, zero]
    | multipart contentType type subtype gvalue typed several bounded filled parts =>
      obtain ⟨present, ofType, -, boundary⟩ := typed
      have printed := bodiesToStr_multipart sip contentType type ⟨present, ofType, boundary⟩
        several bounded parts
      generalize '\r' :: (sepBoundary gvalue ++
        behindBoundary lib (sepBoundary gvalue) ['\n'] sip.bodies) = bodies at printed
      refine ⟨6 - (decimal bodies.length).length, ?_⟩
      simp [filled, printed, contentLengthLine_eq]
  obtain ⟨blanks, ended⟩ := ended
  refine ⟨line, blanks, started, plain, read, ?_⟩
  rw [sipText_of_line started shown ended, joinLines_cons, joinLines_append, joinLines_cons]
  simp [crlf, joinLines]

/-- The text from the blank line on is read into the message, whether its last character is that
of the text or one behind it. -/
theorem readBehind_rereads {tail : Text} (bodies : sip.BodiesReread lib) (length : Header)
    (short : tail.length ≤ 1) : ∃ behind last,
      (∀ front : Text, front ++ crlf ++ bodiesText lib.toHeaderLib sip ++ tail =
        front ++ '\r' :: (behind ++ [last])) ∧
      EndsLines (behind ++ ['\x00']) ∧
      lib.readBehind { sip.reread lib length with bodies := [] } behind =
        some (sip.reread lib length) := by
  obtain ⟨closing, last, ends, few⟩ : ∃ closing last, '\n' :: tail = closing ++ [last] ∧
      (closing = [] ∨ closing = ['\n']) := by
    cases tail with
    | nil => exact ⟨[], '\n', rfl, .inl rfl⟩
    | cons char tail =>
      have none : tail = [] := List.length_eq_zero_iff.mp (by simpa using short)
      exact ⟨['\n'], char, by rw [none]; rfl, .inr rfl⟩
  cases bodies with
  | bodiless none =>
    refine ⟨closing, last, fun front => ?_, ?_, ?_⟩
    · simp [bodiesText, none, crlf, ← ends]
    · rcases few with rfl | rfl
      · exact ⟨[], .inr rfl⟩
      · exact ⟨['\x00'], .inl rfl⟩
    · rw [readBehind_bodiless rfl few]
      simp [OsipMessage.reread, none]
  | multipart contentType type subtype gvalue typed several bounded filled parts =>
    obtain ⟨present, ofType, ofSubtype, boundary⟩ := typed
    have printed := bodiesToStr_multipart sip contentType type ⟨present, ofType, boundary⟩
      several bounded parts
    refine ⟨'\n' :: '\r' :: (sepBoundary gvalue ++
      behindBoundary lib (sepBoundary gvalue) closing sip.bodies), last, fun front => ?_,
      ⟨_, .inl rfl⟩, ?_⟩
    · have joined := @behindBoundary_append _ lib (sepBoundary gvalue) ['\n'] sip.bodies tail
      have parted := @behindBoundary_append _ lib (sepBoundary gvalue) closing sip.bodies [last]
      rw [← ends] at parted
      rw [List.singleton_append, ← parted] at joined
      simp [bodiesText, filled, printed, crlf, joined]
    · exact @readBehind_multipart _ lib closing sip.bodies
        { sip.reread lib length with bodies := [] } contentType type subtype gvalue rfl present
        ofType ofSubtype boundary several.1 bounded.2.2 filled parts

/-- The text is read into the message that was printed, with or without a character behind it. -/
theorem osipMessageParse_sipText {text tail : Text} {length : Header} (rereads : sip.Rereads lib)
    (short : tail.length ≤ 1)
    (read : lib.parse .contentLength (decimal (bodiesText lib.toHeaderLib sip).length) =
      some length)
    (formed : sipText lib.toHeaderLib sip false = some text) :
    lib.osipMessageParse false (.init Header) (text ++ tail) = some (sip.reread lib length) := by
  obtain ⟨line, blanks, -, plain, started, shape⟩ := sipText_rereads sip rereads
  cases formed.symm.trans shape
  obtain ⟨fields, lines, stored⟩ := storeFields_entries sip rereads.entries read blanks
  obtain ⟨behind, last, whole, ends, parsed⟩ := readBehind_rereads sip rereads.bodies length short
  have heads : ∀ own ∈ line :: (sip.entries.map (Entry.line lib) ++
      [lengthLine blanks (bodiesText lib.toHeaderLib sip).length]), IsHeadLine own := by
    refine List.forall_mem_cons.mpr ⟨plain, List.forall_mem_append.mpr ⟨?_, ?_⟩⟩
    · exact List.forall_mem_map.mpr fun entry member => (rereads.entries entry member).line.1
    · exact List.forall_mem_singleton.mpr (lengthLine_plain _ _).1
  have balanced : ∀ own ∈ sip.entries.map (Entry.line lib) ++
      [lengthLine blanks (bodiesText lib.toHeaderLib sip).length], BalancedLine own := by
    refine List.forall_mem_append.mpr ⟨?_, ?_⟩
    · exact List.forall_mem_map.mpr fun entry member => (rereads.entries entry member).line.2
    · exact List.forall_mem_singleton.mpr (lengthLine_plain _ _).2
  rw [whole, ParserLib.osipMessageParse_lines started heads balanced ends, lines,
    Option.bind_some, stored, Option.bind_some, parsed]

end Gb28181.Osip
