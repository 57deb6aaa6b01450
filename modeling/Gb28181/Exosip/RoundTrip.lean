import Gb28181.Osip.Clone
import Gb28181.Osip.ParseMessage
import Gb28181.Exosip.TcpFrames

namespace Gb28181.Exosip

open Gb28181.Lib Gb28181.Osip

inductive Transport where
  | udp | tcp
  deriving DecidableEq

/-- `udp_tl_read_message`: a datagram is passed on as it is, as far as the buffer reaches. -/
def udpTlReadMessage (datagram : Text) : List Text :=
  let buf := datagram.take sipMessageMaxLength
  if buf.length > 5 then [buf] else []

/-- The messages passed on where a frame comes in one datagram, or in one `recv` on a fresh
connection. -/
def Transport.passed (stale : Char) : Transport → Text → Option (List Text)
  | .udp, frame => some (udpTlReadMessage frame)
  | .tcp, frame => (tcpTlReadMessage stale none frame).map Prod.snd

section Definitions

variable {Header : Type} (lib : HeaderLib Header) (parser : HeadParser Header)
  (sip : OsipMessage Header)

/-- One message is passed on and parsed, and has the bodies of the message that was sent. -/
def RoundTrips (passed : Option (List Text)) : Prop :=
  ∃ message parsed, passed = some [message] ∧ osipMessageParse lib parser message = some parsed ∧
    parsed.bodies.map OsipBody.body = sip.bodies.map OsipBody.body

/-- The start line and the headers are printed in lines of their own, none of which is another
Content-Length. -/
structure Lined (line : Text) (before : List Text) : Prop where
  started : startlineToStr lib sip = some line
  shown : headersToStr lib sip = some (joinLines before)
  startLine : IsStartLine line
  plain : ∀ own ∈ line :: before, IsHeadLine own
  others : ∀ line ∈ before, ¬ GivesLength line

/-- No body, or a single one that is not part of a multipart. -/
structure SingleBody : Prop where
  single : sip.bodies = [] ∨ ∃ body, sip.bodies = [⟨body, none, []⟩]
  noMultipart : ∀ contentType ∈ sip.contentType, ∀ type ∈ lib.type contentType,
    ¬ strcasecmpEq type "multipart".toList

/-- A message that was built, or one that has been written since. -/
inductive Sendable : OsipMessage Header → Prop where
  | built {sip : OsipMessage Header} (uncached : sip.messageProperty ≠ 1) : Sendable sip
  | written {sip after : OsipMessage Header} {wire : Wire} (uncached : sip.messageProperty ≠ 1)
      (printed : osipMessageToStr lib sip false = .ok (wire, after)) : Sendable after

def bodyBytes : Text := sip.bodies.flatMap OsipBody.body

def sizeLine : Text :=
  if sip.bodies.isEmpty then contentLengthName ++ ['0']
  else contentLengthLine (bodyBytes sip).length

/-- The Content-Type that is read has the type of the one that was printed. -/
def KeepsType (lines : List Text) : Prop := ∀ parsed, parser.parseLines lines = some parsed →
  parsed.contentType.bind lib.type = sip.contentType.bind lib.type

end Definitions

variable {Header : Type} {lib : HeaderLib Header} {parser : HeadParser Header}
  {sip parsed after : OsipMessage Header} {line : Text} {before : List Text} {wire : Wire}

theorem boundaryOf_single (single : SingleBody lib sip) : boundaryOf lib sip = .ok none := by
  unfold boundaryOf
  split
  · rename_i contentType here
    rw [if_neg]
    rintro ⟨-, multipart⟩
    cases known : lib.type contentType with
    | none =>
      rw [known] at multipart
      exact nomatch multipart
    | some type =>
      rw [known] at multipart
      exact single.noMultipart contentType here type known multipart
  · rfl

theorem bodyToStr_single {body : Text} (full : body ≠ []) :
    bodyToStr lib ⟨body, none, []⟩ = some body := by
  have length : ¬ body.length ≤ 0 := fun none => full (List.length_eq_zero_iff.mp (Nat.le_zero.mp none))
  unfold bodyToStr
  rw [if_neg length]
  rfl

theorem bodiesToStr_single {body bodies : Text} (single : SingleBody lib sip)
    (one : sip.bodies = [⟨body, none, []⟩]) (printed : bodiesToStr lib sip = .ok bodies) :
    bodies = body ∧ body ≠ [] := by
  have full : body ≠ [] := by
    have all := full_of_bodiesToStr printed
    rw [one] at all
    exact all _ List.mem_cons_self
  unfold bodiesToStr at printed
  rw [boundaryOf_single single, one] at printed
  dsimp only [bind, Except.bind, printAll] at printed
  rw [bodyToStr_single full] at printed
  have same := Except.ok.inj printed
  dsimp only at same
  rw [List.nil_append, List.append_nil, List.append_nil] at same
  exact ⟨same.symm, full⟩

/-- What is printed behind the headers is the length, a blank line and the body. -/
theorem ending_single {ending : Text} (single : SingleBody lib sip)
    (small : ending.length < 10 ^ 6) (printed : writtenEnding lib sip false = .ok ending) :
    ending = sizeLine sip ++ crlf ++ crlf ++ bodyBytes sip ∧
      ∀ body ∈ sip.bodies, body.body ≠ [] := by
  unfold writtenEnding at printed
  rw [if_neg (fun fragment => Bool.false_ne_true fragment.1)] at printed
  unfold sizeLine bodyBytes
  rcases single.single with none | ⟨body, one⟩
  · rw [none] at printed ⊢
    cases printed
    exact ⟨(List.append_nil _).symm, nofun⟩
  · have some : ¬ sip.bodies.isEmpty := by
      rw [one]
      exact Bool.false_ne_true
    rw [if_neg some] at printed ⊢
    cases bodied : bodiesToStr lib sip with
    | error fail =>
      rw [bodied] at printed
      exact nomatch printed
    | ok bodies =>
      obtain ⟨rfl, full⟩ := bodiesToStr_single single one bodied
      rw [bodied] at printed
      have same := Except.ok.inj printed
      subst same
      have short : bodies.length < 10 ^ 6 := by
        simp only [List.length_append] at small
        omega
      dsimp only
      rw [one, contentLengthField_eq short]
      refine ⟨?_, ?_⟩
      · rw [List.flatMap_cons, List.flatMap_nil, List.append_nil]
      · intro body member
        rw [List.mem_singleton.mp member]
        exact full

/-- The line with the length has the parts of such a line. -/
theorem sizeLine_eq (sip : OsipMessage Header) : ∃ space digits, (∀ char ∈ space, char = ' ') ∧
    (digits ≠ [] ∧ ∀ char ∈ digits, char.isDigit) ∧
    Nat.ofDigitChars 10 digits 0 = (bodyBytes sip).length ∧
    sizeLine sip = "Content-Length".toList ++ ':' :: (space ++ digits) := by
  have colon : "Content-Length".toList ++ [':'] = "Content-Length:".toList := by decide +kernel
  have parts : ∀ name whole space digits : Text, name ++ [':'] = whole →
      whole ++ space ++ digits = name ++ ':' :: (space ++ digits) := by
    rintro name whole space digits rfl
    simp only [List.append_assoc, List.cons_append, List.nil_append]
  unfold sizeLine
  split
  · rename_i empty
    have none : bodyBytes sip = [] := by
      rw [bodyBytes, List.isEmpty_iff.mp empty]
      rfl
    refine ⟨[' '], ['0'], by decide, by decide, ?_, ?_⟩
    · rw [none]
      decide
    · decide +kernel
  · generalize (bodyBytes sip).length = size
    refine ⟨List.replicate (6 - (decimal size).length) ' ', decimal size, ?_, ⟨?_, ?_⟩, ?_, ?_⟩
    · exact fun char member => List.eq_of_mem_replicate member
    · exact Nat.toDigits_ne_nil
    · exact fun char member => Nat.isDigit_of_mem_toDigits (by decide) (by decide) member
    · exact Nat.ofDigitChars_ten_toDigits
    · exact parts _ _ _ _ colon

/-- The start line and the headers of a message, with the line that gives the length. -/
def headLines (sip : OsipMessage Header) (before : List Text) : List Text := before ++ [sizeLine sip]

theorem exists_sipMessage (lined : Lined lib sip line before) : ∃ message : SipMessage,
    message.lines = line :: headLines sip before ∧ message.body = bodyBytes sip := by
  obtain ⟨space, digits, blank, numeral, length, same⟩ := sizeLine_eq sip
  have shape : "Content-Length".toList ++ List.replicate 0 ' ' ++ ':' :: (space ++ digits ++ []) =
      sizeLine sip := by
    rw [same, List.replicate_zero, List.append_nil, List.append_nil]
  refine ⟨⟨line, before, "Content-Length".toList, 0, space, digits, [], [], bodyBytes sip, ?_, ?_, ?_,
    ?_, numeral, length⟩, ?_, rfl⟩
  · rw [List.append_nil]
    exact fun own member => ⟨(lined.plain own member).1, (lined.plain own member).2.1⟩
  · rw [List.append_nil]
    exact lined.others
  · decide +kernel
  · rw [List.append_nil]
    exact fun char member => .inl (blank char member)
  · exact congrArg (fun last => line :: (before ++ [last])) shape

/-- What goes out is the frame of a text with the head lines of the message and its body. -/
theorem wire_eq_frame (uncached : sip.messageProperty ≠ 1)
    (printed : osipMessageToStr lib sip false = .ok (wire, after))
    (lined : Lined lib sip line before) (single : SingleBody lib sip)
    (short : wire.dest.length ≤ sipMessageMaxLength) :
    (∀ body ∈ sip.bodies, body.body ≠ []) ∧ ∃ message : SipMessage,
      message.lines = line :: headLines sip before ∧ message.body = bodyBytes sip ∧
        wire.dest = message.frame := by
  obtain ⟨headers, ending, shown, ended, dest⟩ := wire_of_line uncached printed lined.started
  rw [lined.shown] at shown
  cases shown
  have length := congrArg List.length dest
  rw [List.length_append, List.length_append, length_v3FrameHead, List.length_singleton] at length
  have small : ending.length < 10 ^ 6 := by
    rw [sipMessageMaxLength] at short
    rw [List.length_append] at length
    omega
  obtain ⟨rfl, full⟩ := ending_single single small ended
  obtain ⟨message, lines, body⟩ := exists_sipMessage lined
  refine ⟨full, message, lines, body, ?_⟩
  have text : line ++ crlf ++ joinLines before ++ (sizeLine sip ++ crlf ++ crlf ++ bodyBytes sip) =
      message.text := by
    rw [SipMessage.text, lines, body, headLines, joinLines_cons, joinLines_append, joinLines_cons]
    simp only [crlf, joinLines, List.flatMap_nil, List.append_assoc, List.cons_append,
      List.nil_append]
  rw [text] at dest length
  have low : (message.text.length + 1) % 2 ^ 32 < 2 ^ 31 := by
    rw [sipMessageMaxLength] at short
    omega
  rw [dest, (v3FrameHead_iff _).mpr low, SipMessage.frame]
  simp only [List.append_assoc, List.cons_append, List.nil_append]

theorem wire_begins (uncached : sip.messageProperty ≠ 1)
    (printed : osipMessageToStr lib sip false = .ok (wire, after))
    (started : startlineToStr lib sip = some line) :
    ∃ rest, wire.dest = '\x00' :: rest ∧ 5 ≤ rest.length := by
  obtain ⟨headers, ending, -, -, dest⟩ := wire_of_line uncached printed started
  have length := congrArg List.length dest
  rw [List.length_append, List.length_append, length_v3FrameHead] at length
  unfold v3FrameHead at dest
  obtain ⟨rest, begins⟩ : ∃ rest, wire.dest = '\x00' :: rest := ⟨_, dest⟩
  refine ⟨rest, begins, ?_⟩
  rw [begins, List.length_cons] at length
  omega

theorem isHeadLine_headLines (lined : Lined lib sip line before) :
    ∀ own ∈ line :: headLines sip before, IsHeadLine own := by
  obtain ⟨message, lines, -⟩ := exists_sipMessage lined
  intro own member
  rw [headLines, ← List.cons_append, List.mem_append] at member
  rcases member with other | last
  · exact lined.plain own other
  · rw [List.mem_singleton.mp last]
    have member : sizeLine sip ∈ message.lines := by
      rw [lines, headLines, ← List.cons_append]
      exact List.mem_append_right _ List.mem_cons_self
    obtain ⟨isLine, some⟩ := message.plain_lines (sizeLine sip) member
    obtain ⟨space, digits, -, -, -, same⟩ := sizeLine_eq sip
    have first : (sizeLine sip).head? = .some 'C' := by
      rw [same]
      rfl
    refine ⟨isLine, some, ?_, ?_⟩ <;> rw [first] <;> decide

/-- Without a body, a text is parsed as far as its lines are. -/
theorem parse_bodiless {lines : List Text} (lawful : parser.Lawful) (started : IsStartLine line)
    (plain : ∀ own ∈ line :: lines, IsHeadLine own) :
    osipMessageParse lib parser (joinLines (line :: lines) ++ crlf) =
      (parser.parseLines (line :: lines)).map (withContentLength parser) := by
  have ends : EndsLines ([] ++ ['\x00']) := ⟨[], .inr rfl⟩
  have parsed := @osipMessageParse_lines _ lib parser _ _ lawful started plain [] ends '\n'
  rw [List.nil_append] at parsed
  rw [crlf, parsed]
  cases parser.parseLines (line :: lines) with
  | none => rfl
  | some sip => rfl

theorem parse_bodied {lines : List Text} {body : Text} (lawful : parser.Lawful)
    (started : IsStartLine line) (plain : ∀ own ∈ line :: lines, IsHeadLine own)
    (noMultipart : ∀ sip, parser.parseLines (line :: lines) = some sip →
      ∀ type ∈ sip.contentType.bind lib.type, ¬ strcasecmpEq type "multipart".toList)
    (full : body ≠ []) (small : body.length < 2 ^ 64)
    (read : osipMessageParse lib parser (joinLines (line :: lines) ++ crlf ++ body) = some parsed) :
    parsed.bodies = [] ∨
      ∃ body', parsed.bodies = [⟨body', none, []⟩] ∧ body'.length < body.length := by
  obtain ⟨front, last, rfl⟩ := (List.eq_nil_or_concat' body).resolve_left full
  have shape : joinLines (line :: lines) ++ crlf ++ (front ++ [last]) =
      joinLines (line :: lines) ++ '\r' :: ('\n' :: front ++ [last]) := by
    rw [List.append_assoc]
    rfl
  have ends : EndsLines ('\n' :: front ++ ['\x00']) := ⟨front ++ ['\x00'], .inl rfl⟩
  rw [shape, osipMessageParse_lines lawful started plain ends] at read
  obtain ⟨sip, head, read⟩ := Option.bind_eq_some_iff.mp read
  dsimp only at read
  split at read
  · cases read
    rw [bodies_withContentLength]
    exact .inl (lawful.bodiless _ _ _ started plain head)
  · obtain ⟨bodied, behind, rfl⟩ := Option.map_eq_some_iff.mp read
    rw [List.length_append, List.length_singleton] at small ⊢
    have few : front.length < 2 ^ 64 := by omega
    rw [bodies_withContentLength]
    rcases msgOsipBodyParse_spec few (lawful.bodiless _ _ _ started plain head) (noMultipart sip head) behind with
      none | ⟨body', one, fits⟩
    · exact .inl none
    · exact .inr ⟨body', one, Nat.lt_succ_of_le fits⟩

theorem noMultipart_of_keeps {lines : List Text} (single : SingleBody lib sip)
    (keeps : KeepsType lib parser sip lines) : ∀ read, parser.parseLines lines = some read →
      ∀ type ∈ read.contentType.bind lib.type, ¬ strcasecmpEq type "multipart".toList := by
  intro read head type known
  rw [keeps read head] at known
  obtain ⟨contentType, here, known⟩ := Option.bind_eq_some_iff.mp known
  exact single.noMultipart contentType here type known

/-- The lines of a message with a body of that length are parsed into it only where there is
no body. -/
theorem roundTrips_text_iff {lines : List Text} {body : Text} (lawful : parser.Lawful)
    (started : IsStartLine line) (plain : ∀ own ∈ line :: lines, IsHeadLine own)
    (single : SingleBody lib sip) (keeps : KeepsType lib parser sip (line :: lines))
    (full : ∀ body ∈ sip.bodies, body.body ≠ [])
    (length : body.length = (bodyBytes sip).length) (small : body.length < 2 ^ 64) :
    RoundTrips lib parser sip (some [joinLines (line :: lines) ++ crlf ++ body]) ↔
      sip.bodies = [] ∧ (parser.parseLines (line :: lines)).isSome := by
  constructor
  · rintro ⟨message, parsed, here, read, same⟩
    cases List.singleton_inj.mp (Option.some.inj here)
    rcases single.single with none | ⟨sent, one⟩
    · refine ⟨none, ?_⟩
      rw [bodyBytes, none] at length
      rw [List.length_eq_zero_iff.mp length, List.append_nil,
        parse_bodiless lawful started plain] at read
      obtain ⟨sip', head, -⟩ := Option.map_eq_some_iff.mp read
      exact Option.isSome_iff_exists.mpr ⟨sip', head⟩
    · have sentFull : sent ≠ [] := full ⟨sent, none, []⟩ (by rw [one]; exact List.mem_cons_self)
      rw [bodyBytes, one, List.flatMap_singleton] at length
      have bodied : body ≠ [] := by
        intro empty
        rw [empty] at length
        exact sentFull (List.length_eq_zero_iff.mp length.symm)
      rw [one] at same
      rcases parse_bodied lawful started plain (noMultipart_of_keeps single keeps) bodied small
        read with none | ⟨body', other, shorter⟩
      · rw [none] at same
        exact nomatch same
      · rw [other] at same
        have same := List.singleton_inj.mp same
        dsimp only at same length
        rw [same, length] at shorter
        exact absurd shorter (Nat.lt_irrefl _)
  · rintro ⟨none, reads⟩
    obtain ⟨sip', head⟩ := Option.isSome_iff_exists.mp reads
    rw [bodyBytes, none] at length
    refine ⟨_, withContentLength parser sip', rfl, ?_, ?_⟩
    · rw [List.length_eq_zero_iff.mp length, List.append_nil,
        parse_bodiless lawful started plain, head]
      rfl
    · rw [bodies_withContentLength, lawful.bodiless _ _ _ started plain head, none]

theorem not_roundTrips_udp {rest : Text} (lawful : parser.Lawful) (stale : Char)
    (long : 5 ≤ rest.length) :
    ¬ RoundTrips lib parser sip (Transport.udp.passed stale ('\x00' :: rest)) := by
  have whole : ('\x00' :: rest).take sipMessageMaxLength =
      '\x00' :: rest.take (sipMessageMaxLength - 1) := rfl
  have enough : ('\x00' :: rest.take (sipMessageMaxLength - 1)).length > 5 := by
    rw [List.length_cons, List.length_take, sipMessageMaxLength]
    omega
  rintro ⟨message, parsed, here, read, -⟩
  unfold Transport.passed udpTlReadMessage at here
  dsimp only at here
  rw [whole, if_pos enough] at here
  cases List.singleton_inj.mp (Option.some.inj here)
  rw [osipMessageParse_zero lawful] at read
  cases read

theorem not_roundTrips_of_udp (lawful : parser.Lawful) (stale : Char)
    (uncached : sip.messageProperty ≠ 1)
    (printed : osipMessageToStr lib sip false = .ok (wire, after))
    (started : startlineToStr lib sip = some line) :
    ¬ RoundTrips lib parser sip (Transport.udp.passed stale wire.dest) := by
  obtain ⟨rest, begins, long⟩ := wire_begins uncached printed started
  rw [begins]
  exact not_roundTrips_udp lawful stale long

theorem roundTrips_tcp_iff (lawful : parser.Lawful) (stale : Char)
    (uncached : sip.messageProperty ≠ 1)
    (printed : osipMessageToStr lib sip false = .ok (wire, after))
    (lined : Lined lib sip line before) (single : SingleBody lib sip)
    (keeps : KeepsType lib parser sip (line :: headLines sip before))
    (short : wire.dest.length ≤ sipMessageMaxLength) :
    RoundTrips lib parser sip (Transport.tcp.passed stale wire.dest) ↔
      sip.bodies = [] ∧ (parser.parseLines (line :: headLines sip before)).isSome := by
  obtain ⟨full, message, lines, body, framed⟩ := wire_eq_frame uncached printed lined single short
  rw [framed] at short
  have passed : Transport.tcp.passed stale wire.dest = some [message.masked.text] := by
    rw [framed, Transport.passed, tcpTlReadMessage_frame stale short]
    rfl
  have text : message.masked.text =
      joinLines (line :: headLines sip before) ++ crlf ++ message.masked.body := by
    rw [← lines]
    rfl
  have length : message.masked.body.length = (bodyBytes sip).length :=
    (length_osipStrncpy ..).trans (congrArg List.length body)
  have small : message.masked.body.length < 2 ^ 64 := by
    have inside := message.length_text
    rw [message.length_frame, sipMessageMaxLength] at short
    rw [length, ← body]
    omega
  rw [passed, text]
  exact roundTrips_text_iff lawful lined.startLine (isHeadLine_headLines lined) single keeps full
    length small

theorem roundTrips_iff_of_built {transport : Transport} (lawful : parser.Lawful) (stale : Char)
    (uncached : sip.messageProperty ≠ 1)
    (printed : osipMessageToStr lib sip false = .ok (wire, after))
    (lined : Lined lib sip line before) (single : SingleBody lib sip)
    (keeps : KeepsType lib parser sip (line :: headLines sip before))
    (arrives : transport = .tcp → wire.dest.length ≤ sipMessageMaxLength) :
    RoundTrips lib parser sip (transport.passed stale wire.dest) ↔
      transport = .tcp ∧ sip.bodies = [] ∧
        (parser.parseLines (line :: headLines sip before)).isSome := by
  cases transport with
  | udp =>
    apply iff_of_false (not_roundTrips_of_udp lawful stale uncached printed lined.started)
    exact fun tcp => nomatch tcp.1
  | tcp =>
    rw [roundTrips_tcp_iff lawful stale uncached printed lined single keeps (arrives rfl)]
    exact (and_iff_right rfl).symm

/-- A message in a V3 frame is read again as it was sent iff it comes over TCP and has no body,
and the parser takes its lines in. -/
theorem round_trip_iff {stale : Char} {transport : Transport} (lawful : parser.Lawful)
    (sendable : Sendable lib sip) (printed : osipMessageToStr lib sip false = .ok (wire, after))
    (lined : Lined lib sip line before) (single : SingleBody lib sip)
    (keeps : KeepsType lib parser sip (line :: headLines sip before))
    (arrives : transport = .tcp → wire.dest.length ≤ sipMessageMaxLength) :
    RoundTrips lib parser sip (transport.passed stale wire.dest) ↔
      transport = .tcp ∧ sip.bodies = [] ∧
        (parser.parseLines (line :: headLines sip before)).isSome := by
  cases sendable with
  | built uncached =>
    exact roundTrips_iff_of_built lawful stale uncached printed lined single keeps arrives
  | @written built _ first uncached earlier =>
    cases (osipMessageToStr_again uncached earlier false).symm.trans printed
    -- the message that is kept differs from the one that was built in its buffer only
    have same := earlier
    obtain ⟨drafted, -, -, -, rfl⟩ := osipMessageToStr_spec uncached same
    have builtLined : Lined lib built line before :=
      ⟨lined.started, lined.shown, lined.startLine, lined.plain, lined.others⟩
    have builtSingle : SingleBody lib built := ⟨single.single, single.noMultipart⟩
    have builtKeeps : KeepsType lib parser built (line :: headLines built before) := keeps
    have whole := roundTrips_iff_of_built lawful stale uncached earlier builtLined builtSingle
      builtKeeps arrives
    exact whole

def plainParserLib : ParserLib Text where
  toHeaderLib := plainLib
  uriParse := some
  parse := fun _ hvalue => some hvalue
  header := fun hname hvalue => namedLine 1 hname (hvalue.getD [])
  subtype := fun _ => none
  value := some

def plainParser : HeadParser Text := plainParserLib.headParser

theorem plainParser_lawful : plainParser.Lawful := plainParserLib.headParser_lawful

def bareRequest : OsipMessage Text := { plainRequest with bodies := [] }

theorem plainRequest_lined (bodies : List (OsipBody Text)) :
    Lined plainLib { plainRequest with bodies := bodies } "ACK sip:a SIP/2.0".toList
      ["Call-ID: 12".toList] where
  started := rfl
  shown := rfl
  startLine := by
    refine ⟨"ACK".toList, "sip:a".toList, "SIP/2.0".toList, ?_, ?_, ?_, 's', ?_⟩ <;> decide +kernel
  plain := by
    unfold IsHeadLine IsLine
    decide +kernel
  others := by
    unfold GivesLength
    decide +kernel

theorem bareRequest_single : SingleBody plainLib bareRequest where
  single := .inl rfl
  noMultipart := nofun

theorem plainRequest_single : SingleBody plainLib plainRequest where
  single := .inr ⟨_, rfl⟩
  noMultipart := nofun

theorem plainParser_keeps (sip : OsipMessage Text) (lines : List Text) :
    sip.contentType = none → KeepsType plainLib plainParser sip lines := by
  intro none parsed _
  rw [none]
  cases parsed.contentType <;> rfl

theorem bareRequest_read : ∃ wire after,
    osipMessageToStr plainLib bareRequest false = .ok (wire, after) ∧
      RoundTrips plainLib plainParser bareRequest (Transport.tcp.passed ' ' wire.dest) := by
  refine ⟨_, _, rfl, ?_⟩
  refine (round_trip_iff plainParser_lawful (.built (by decide)) rfl (plainRequest_lined [])
    bareRequest_single (plainParser_keeps _ _ rfl) (fun _ => ?_)).mpr ⟨rfl, rfl, ?_⟩
  · decide +kernel
  · decide +kernel

/-- Over UDP the parser takes the head for an empty text, and over TCP the body is lost. -/
theorem plainRequest_not_read : ∃ wire after bare bareAfter,
    osipMessageToStr plainLib plainRequest false = .ok (wire, after) ∧
    osipMessageToStr plainLib bareRequest false = .ok (bare, bareAfter) ∧
    ¬ RoundTrips plainLib plainParser bareRequest (Transport.udp.passed ' ' bare.dest) ∧
    ¬ RoundTrips plainLib plainParser plainRequest (Transport.udp.passed ' ' wire.dest) ∧
    ¬ RoundTrips plainLib plainParser plainRequest (Transport.tcp.passed ' ' wire.dest) := by
  refine ⟨_, _, _, _, rfl, rfl, ?_, ?_, ?_⟩
  · exact not_roundTrips_of_udp plainParser_lawful ' ' (by decide) rfl (plainRequest_lined []).started
  · exact not_roundTrips_of_udp plainParser_lawful ' ' (by decide) rfl (plainRequest_lined _).started
  · apply mt (roundTrips_tcp_iff plainParser_lawful ' ' (by decide) rfl (plainRequest_lined _)
      plainRequest_single (plainParser_keeps _ _ rfl) (by decide +kernel)).mp
    exact fun empty => nomatch empty.1

end Gb28181.Exosip
