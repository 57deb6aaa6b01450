import Gb28181.Osip.Reread
import Gb28181.Exosip.RoundTrip

namespace Gb28181.Exosip

open Gb28181.Lib Gb28181.Osip

variable {Header : Type} {lib : ParserLib Header} {sip after : OsipMessage Header} {wire : Wire}

theorem lengthNames : ∀ name ∈ ["content-length".toList, ['l']],
    headerKind name = some .contentLength ∧ ∀ char ∈ name, char ≠ ' ' ∧ char ≠ ':' := by
  decide +kernel

theorem not_givesLength {hname hvalue : Text} (named : NamedLine hname hvalue)
    (token : ' ' ∉ hname) (other : headerKind (osipTolower hname) ≠ some .contentLength) :
    ¬ GivesLength (namedLine 1 hname hvalue) := by
  rintro ⟨name, member, colon, either, begins⟩
  obtain ⟨known, apart⟩ := lengthNames name member
  -- the first blank or colon ends the name, in the one text as in the other
  let inName (char : Char) : Bool := char ≠ ' ' && char ≠ ':'
  have lower : (namedLine 1 hname hvalue).map Char.toLower =
      osipTolower hname ++ ':' :: ((List.replicate 1 ' ' ++ hvalue).map Char.toLower) := by
    simp [namedLine, osipTolower]
  have own : ∀ char ∈ osipTolower hname, inName char = true := by
    intro char inside
    obtain ⟨upper, here, rfl⟩ := List.mem_map.mp inside
    have noSpace : upper.toLower ≠ ' ' := fun same =>
      token (eq_of_toLower (by decide) same ▸ here)
    have noColon : upper.toLower ≠ ':' := fun same =>
      named.named.2.1 (eq_of_toLower (by decide) same ▸ here)
    simp [inName, noSpace, noColon]
  have theirs : ∀ char ∈ name, inName char = true := by
    intro char inside
    obtain ⟨noSpace, noColon⟩ := apart char inside
    simp [inName, noSpace, noColon]
  have stops : inName colon = false := by
    simp only [List.mem_cons, List.not_mem_nil, or_false] at either
    rcases either with rfl | rfl <;> rfl
  obtain ⟨rest, same⟩ := begins
  rw [lower, List.append_assoc] at same
  have names := congrArg (List.takeWhile inName) same
  have colonEnds : ¬ inName ':' = true := by decide
  rw [List.takeWhile_append_of_pos theirs, List.takeWhile_append_of_pos own, List.singleton_append,
    List.takeWhile_cons_of_neg (Bool.not_eq_true _ ▸ stops),
    List.takeWhile_cons_of_neg colonEnds, List.append_nil, List.append_nil] at names
  have equal : name = osipTolower hname := names
  exact other (equal ▸ known)

theorem tableOrder_tokens : ∀ kind ∈ tableOrder, ' ' ∉ kind.title := by decide +kernel

theorem entries_not_givesLength (rereads : ∀ entry ∈ sip.entries, entry.Rereads lib) :
    ∀ entry ∈ sip.entries, ¬ GivesLength (entry.line lib) := by
  intro entry member
  rcases List.mem_append.mp member with row | other
  · obtain ⟨kind, listed, inside⟩ := List.mem_flatMap.mp row
    obtain ⟨header, -, rfl⟩ := List.mem_map.mp inside
    obtain ⟨hvalue, printed, -, named, -⟩ := rereads _ member
    have known := title_known kind (List.mem_cons_of_mem _ listed)
    have apart := (mem_tableOrder kind).mp listed
    simp only [Entry.line, printed, Option.getD_some]
    exact not_givesLength named (tableOrder_tokens kind listed) (by simpa [known] using apart)
  · obtain ⟨header, -, rfl⟩ := List.mem_map.mp other
    obtain ⟨hname, hvalue, printed, named, token, -, unknown⟩ := rereads _ member
    simp only [Entry.line, printed, Option.getD_some]
    exact not_givesLength named token (by simp [unknown])

/-- The text of the message is one with a correct length. -/
theorem exists_sipMessage_of_rereads (rereads : sip.Rereads lib) : ∃ message : SipMessage,
    sipText lib.toHeaderLib sip false = some message.text ∧
      message.body = bodiesText lib.toHeaderLib sip := by
  obtain ⟨line, blanks, -, plain, -, formed⟩ := sipText_rereads sip rereads
  have lines : ∀ own ∈ line :: sip.entries.map (Entry.line lib), IsHeadLine own :=
    List.forall_mem_cons.mpr ⟨plain, List.forall_mem_map.mpr fun entry member =>
      (rereads.entries entry member).line.1⟩
  refine ⟨
    { startLine := line
      before := sip.entries.map (Entry.line lib)
      name := HeaderKind.contentLength.title
      blanks := 0
      space := List.replicate blanks ' '
      digits := decimal (bodiesText lib.toHeaderLib sip).length
      trailer := []
      behind := []
      body := bodiesText lib.toHeaderLib sip
      plain := ?_
      others := ?_
      named := ?_
      spaced := ?_
      numeral := ?_
      length := Nat.ofDigitChars_ten_toDigits }, ?_, rfl⟩
  · rw [List.append_nil]
    exact fun own member => ⟨(lines own member).1, (lines own member).2.1⟩
  · rw [List.append_nil]
    exact List.forall_mem_map.mpr (entries_not_givesLength rereads.entries)
  · decide +kernel
  · rw [List.append_nil]
    exact fun char member => .inl (List.eq_of_mem_replicate member)
  · exact ⟨Nat.toDigits_ne_nil, fun char member =>
      Nat.isDigit_of_mem_toDigits (by decide) (by decide) member⟩
  · rw [formed]
    simp [SipMessage.text, SipMessage.lines, SipMessage.contentLength, lengthLine, namedLine]

/-- A frame that is not too long is the one of the text. -/
theorem wire_eq_frame_of_rereads {message : SipMessage} (uncached : sip.messageProperty ≠ 1)
    (rereads : sip.Rereads lib) (formed : sipText lib.toHeaderLib sip false = some message.text)
    (printed : osipMessageToStr lib.toHeaderLib sip false = .ok (wire, after))
    (short : wire.dest.length ≤ sipMessageMaxLength) : wire.dest = message.frame := by
  obtain ⟨line, started, -⟩ := OsipMessage.StartRereads.line sip rereads.start rereads.unframed
  have shown := headerLines_entries sip rereads.entries
  obtain ⟨renders, listed⟩ := headerLines_iff.mp shown
  obtain ⟨headers, written, same, ended, dest⟩ := wire_of_line uncached printed started
  rw [listed] at same
  cases same
  have long := congrArg List.length dest
  rw [List.length_append, List.length_append, length_v3FrameHead, List.length_append] at long
  rw [sipMessageMaxLength] at short
  have small : written.length < 4000 := by omega
  obtain ⟨right, stands, -, fits, equal⟩ := ending_spec ended
  have sizes : ∀ bodies, bodiesToStr lib.toHeaderLib sip = .ok bodies → sip.bodies ≠ [] →
      bodies.length < 10 ^ 6 := by
    intro bodies bodied filled
    unfold writtenEnding at ended
    rw [bodied] at ended
    have same : contentLengthField bodies.length ++ crlf ++ crlf ++ bodies = written := by
      simpa [filled, Except.map] using ended
    rw [← same, List.length_append] at small
    omega
  have last := equal (fits.mpr sizes)
  subst last
  have text := (sipText_of_line started shown stands).symm.trans formed
  have measured : message.text.length < 4000 := by
    rw [← Option.some.inj text, List.length_append]
    omega
  have formattable : Formattable lib.toHeaderLib sip false := by
    refine ⟨Option.isSome_of_eq_some started, renders, sizes, fun own here => ?_⟩
    cases formed.symm.trans here
    omega
  obtain ⟨own, here, framed⟩ := (framed_iff_of_line uncached printed started).mpr formattable
  cases formed.symm.trans here
  have size : wire.dest.length - 6 = message.text.length + 1 := by
    have long := congrArg List.length framed
    simp only [littleEndian32, List.length_append, List.length_cons, List.length_nil] at long
    omega
  rw [framed, size]
  rfl

variable (lib) in
/-- A message that is written for the first time, in a frame that one `recv` can take. -/
structure Sent (sip : OsipMessage Header) (wire : Wire) : Prop where
  uncached : sip.messageProperty ≠ 1
  rereads : sip.Rereads lib
  zeroless : '\x00' ∉ bodiesText lib.toHeaderLib sip
  printed : ∃ after, osipMessageToStr lib.toHeaderLib sip false = .ok (wire, after)
  short : wire.dest.length ≤ sipMessageMaxLength

variable (lib sip) in
/-- The message that was sent, with the length that was printed and without the text; the names
of headers that the parser does not know are in small letters. -/
def received : OsipMessage Header :=
  { sip with
    headers := sip.headers.map lib.lowered
    contentLength := lib.parse .contentLength (decimal (bodiesText lib.toHeaderLib sip).length)
    messageProperty := 2
    message := none
    messageLength := 0 }

/-- The frame of a message has its text, which is read as the message. -/
theorem Sent.frame (sent : Sent lib sip wire) : ∃ message : SipMessage,
    wire.dest = message.frame ∧
      lib.osipMessageParse false (.init Header) message.masked.text =
        some (received lib sip) := by
  obtain ⟨after, printed⟩ := sent.printed
  obtain ⟨message, formed, body⟩ := exists_sipMessage_of_rereads sent.rereads
  have framed := wire_eq_frame_of_rereads sent.uncached sent.rereads formed printed sent.short
  obtain ⟨length, read⟩ := Option.isSome_iff_exists.mp
    (sent.rereads.lengths (bodiesText lib.toHeaderLib sip).length)
  have whole : message.masked.text = message.text := by
    refine message.masked_eq_iff.mpr fun char member => ?_
    rw [body, cString_eq_self sent.zeroless, List.drop_length] at member
    cases member
  have parsed : lib.osipMessageParse false (.init Header) (message.text ++ []) =
      some (sip.reread lib length) :=
    osipMessageParse_sipText sip sent.rereads (Nat.zero_le _) read formed
  rw [List.append_nil] at parsed
  refine ⟨message, framed, ?_⟩
  rw [whole, parsed, OsipMessage.reread, received, read, ← sent.rereads.unframed]

/-- The frames of several messages, one behind the other. -/
theorem exists_frames {sent : List (OsipMessage Header × Wire)}
    (each : ∀ one ∈ sent, Sent lib one.1 one.2) : ∃ messages : List SipMessage,
      sent.map (fun one => one.2.dest) = messages.map SipMessage.frame ∧
      messages.map (fun message =>
          lib.osipMessageParse false (.init Header) message.masked.text) =
        sent.map fun one => some (received lib one.1) := by
  induction sent with
  | nil => exact ⟨[], rfl, rfl⟩
  | cons one sent ih =>
    obtain ⟨here, there⟩ := List.forall_mem_cons.mp each
    obtain ⟨message, framed, parsed⟩ := here.frame
    obtain ⟨messages, frames, others⟩ := ih there
    exact ⟨message :: messages, by simp [framed, frames], by simp [parsed, others]⟩

/-- Messages that go out over one connection, each in a frame that is received as a whole, are
read as they were sent, each once and in their order: the start line, every header, and the bodies
of a multipart. -/
theorem sent_messages_reread {sent : List (OsipMessage Header × Wire)}
    {chunks : List (Text × Char)} (each : ∀ one ∈ sent, Sent lib one.1 one.2)
    (whole : chunks.map Prod.fst = sent.map fun one => one.2.dest) :
    ∃ connection, chunks.foldl Connection.recv (some .fresh) = some connection ∧
      connection.previousContent = none ∧
      connection.passed.map (lib.osipMessageParse false (.init Header)) =
        sent.map fun one => some (received lib one.1) := by
  obtain ⟨messages, frames, parsed⟩ := exists_frames each
  have short : ∀ chunk ∈ chunks, chunk.1.length ≤ sipMessageMaxLength := by
    intro chunk member
    have own : chunk.1 ∈ sent.map fun one => one.2.dest :=
      whole ▸ List.mem_map.mpr ⟨chunk, member, rfl⟩
    obtain ⟨one, listed, same⟩ := List.mem_map.mp own
    rw [← same]
    exact (each one listed).short
  have run := @foldl_recv_frames .fresh messages chunks rfl (whole.trans frames) short
  refine ⟨_, run, rfl, ?_⟩
  rw [← parsed]
  simp [Connection.fresh, Function.comp_def]

def multipartInfo : OsipMessage Text :=
  { OsipMessage.init Text with
    sipMethod := some "INFO".toList
    reqUri := some "sip:a".toList
    sipVersion := some "SIP/2.0".toList
    callId := some "12".toList
    contentType := some "multipart/mixed;boundary=b".toList
    mimeVersion := some "1.0".toList
    headers := ["Subject: x".toList]
    bodies := [⟨"v=0".toList, some "application/sdp".toList, []⟩] }

theorem echo_named : ∀ line ∈ [(HeaderKind.callId.title, "12".toList),
    (HeaderKind.contentType.title, "multipart/mixed;boundary=b".toList),
    (HeaderKind.mimeVersion.title, "1.0".toList), ("Subject".toList, ['x']),
    (contentTypeName, "application/sdp".toList)], NamedLine line.1 line.2 := by
  intro line member
  obtain ⟨⟨filled, colonless⟩, plain, edges⟩ : (line.1 ≠ [] ∧ ':' ∉ line.1) ∧
      (IsLine line.1 ∧ IsLine line.2) ∧ ∀ text ∈ [line.1, line.2],
        text.head?.all (!isLws ·) = true ∧ text.getLast?.all (!isLws ·) = true := by
    revert line
    unfold IsLine
    decide +kernel
  have stripped : ∀ text ∈ [line.1, line.2], Stripped isLws text := fun text own =>
    stripped_of_edges (edges text own).1 (edges text own).2
  exact ⟨⟨filled, colonless, stripped _ (by simp)⟩, plain, stripped _ (by simp)⟩

theorem multipartInfo_rereads : multipartInfo.Rereads echoLib := by
  have named := echo_named
  simp only [List.forall_mem_cons, List.not_mem_nil, IsEmpty.forall_iff, implies_true,
    and_true] at named
  obtain ⟨callId, contentType, mimeVersion, subject, bodyType⟩ := named
  refine ⟨?_, rfl, ?_, fun _ => rfl, ?_⟩
  · refine .request
      { method := "INFO".toList, uri := "sip:a".toList, version := "SIP/2.0".toList
        named := ?_, addressed := ?_, versioned := ?_, plain := ?_ }
      _ ⟨rfl, rfl, rfl⟩ ⟨rfl, rfl⟩ rfl rfl
    · decide +kernel
    · refine ⟨?_, ?_, stripped_of_edges ?_ ?_⟩ <;> decide +kernel
    · decide +kernel
    · unfold IsLine
      decide +kernel
  · have entries : multipartInfo.entries = [(some .callId, "12".toList),
        (some .contentType, "multipart/mixed;boundary=b".toList),
        (some .mimeVersion, "1.0".toList), (none, "Subject: x".toList)] := rfl
    rw [entries]
    simp only [List.forall_mem_cons, List.not_mem_nil, IsEmpty.forall_iff, implies_true, and_true]
    refine ⟨⟨_, rfl, by decide, callId, .inl (.inl (by decide)), rfl⟩,
      ⟨_, rfl, by decide, contentType, .inl (.inl (by decide)), rfl⟩,
      ⟨_, rfl, by decide, mimeVersion, .inl (.inl (by decide)), rfl⟩,
      ⟨"Subject".toList, ['x'], rfl, subject, by decide, .inl (.inl (by decide)), ?_⟩⟩
    decide +kernel
  · refine .multipart _ "multipart".toList "mixed".toList ['b'] ⟨rfl, rfl, rfl, rfl⟩
      ⟨by decide +kernel, rfl⟩ (by decide) (List.cons_ne_nil _ _) ?_
    refine List.forall_mem_singleton.mpr ⟨⟨.inl rfl, by decide, ?_, ?_⟩, ?_, by decide +kernel⟩
    · intro contentType same
      cases same
      exact ⟨_, rfl, bodyType, rfl⟩
    · exact fun header member => absurd member List.not_mem_nil
    · unfold FirstThere
      decide +kernel

theorem multipartInfo_sent : ∃ wire, Sent echoLib multipartInfo wire := by
  have fits : (osipMessageToStr echoLib.toHeaderLib multipartInfo false).toOption.any
      (fun sent => sent.1.dest.length ≤ sipMessageMaxLength) = true := by decide +kernel
  cases printed : osipMessageToStr echoLib.toHeaderLib multipartInfo false with
  | error fail =>
    rw [printed] at fits
    cases fits
  | ok sent =>
    rw [printed] at fits
    exact ⟨sent.1, by decide, multipartInfo_rereads, by decide +kernel, ⟨sent.2, printed⟩,
      of_decide_eq_true fits⟩

theorem multipartInfo_reread_twice : ∃ wire connection, Sent echoLib multipartInfo wire ∧
    [(wire.dest, ' '), (wire.dest, ' ')].foldl Connection.recv (some .fresh) = some connection ∧
      connection.passed.map (echoLib.osipMessageParse false (.init Text)) =
        [some (received echoLib multipartInfo), some (received echoLib multipartInfo)] := by
  obtain ⟨wire, sent⟩ := multipartInfo_sent
  have each : ∀ one ∈ [(multipartInfo, wire), (multipartInfo, wire)], Sent echoLib one.1 one.2 := by
    simp [sent]
  obtain ⟨connection, run, -, parsed⟩ := @sent_messages_reread _ echoLib _
    [(wire.dest, ' '), (wire.dest, ' ')] each rfl
  exact ⟨wire, connection, sent, run, parsed⟩

end Gb28181.Exosip
