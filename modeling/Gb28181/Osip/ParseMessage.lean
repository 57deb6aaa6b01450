import Gb28181.Osip.ParseBody

/-! `_osip_message_parse` as a whole. -/

namespace Gb28181.Osip

open Gb28181.Lib

variable {Header : Type} (lib : ParserLib Header)

/-- The start line and the headers of a C string, and where the body begins. -/
def ParserLib.headParse (sipfrag : Bool) (sip : OsipMessage Header) (tmp : Text) :
    Option (OsipMessage Header × Text) :=
  let start := lib.startlineParse sip tmp
  if start.done ∨ sipfrag then
    lib.msgHeadersParse start.headers (start.headers.length + 1) start.headers start.dest
  else none

/-- The parser as it is seen from the bodies. -/
def ParserLib.headParser : HeadParser Header where
  parseHead text :=
    let tmp := cString (replaceAllLws .any (text ++ ['\x00']))
    (lib.headParse false (.init Header) tmp).map fun (sip, body) => (sip, tmp.length - body.length)
  parseLines lines :=
    (lib.headParse false (.init Header) (joinLines lines ++ crlf)).map Prod.fst
  subtype := lib.subtype
  value := lib.value
  contentLengthParse := lib.parse .contentLength
  parseMultipart sip startOfBuf length := (lib.parseMultipart sip startOfBuf length).toOption

/-- `_osip_message_parse`. The last character of the buffer is overwritten with a zero. -/
def ParserLib.osipMessageParse (sipfrag : Bool) (sip : OsipMessage Header) (buf : Text) :
    Option (OsipMessage Header) :=
  if buf = [] then none
  else
    let tmp := replaceAllLws .any ((buf.dropLast ++ ['\x00']).dropWhile isLineEnd)
    match lib.headParse sipfrag sip (cString tmp) with
    | none => none
    | some (sip, body) =>
      let tmp := tmp.drop ((cString tmp).length - body.length)
      if tmp[0]? = some '\x00' ∨ tmp[1]? = some '\x00' ∨ tmp[2]? = some '\x00' then
        some (withContentLength lib.headParser sip)
      else
        (msgOsipBodyParse lib.toHeaderLib lib.headParser sip tmp (tmp.length - 1)).map
          (withContentLength lib.headParser)

/-- What is read of the text from a blank line on, up to the zero that closes it. -/
def ParserLib.readBehind (sip : OsipMessage Header) (behind : Text) :
    Option (OsipMessage Header) :=
  let tmp := '\r' :: (behind ++ ['\x00'])
  if tmp[0]? = some '\x00' ∨ tmp[1]? = some '\x00' ∨ tmp[2]? = some '\x00' then
    some (withContentLength lib.headParser sip)
  else
    (msgOsipBodyParse lib.toHeaderLib lib.headParser sip tmp (behind.length + 1)).map
      (withContentLength lib.headParser)

variable {lib} {sip dest : OsipMessage Header} {line : Text} {lines : List Text}

theorem ParserLib.headParse_eq {tmp : Text} : lib.headParse false sip tmp =
    (lib.startlineParse sip tmp).taken.bind fun (dest, headers) =>
      lib.msgHeadersParse headers (headers.length + 1) headers dest := by
  unfold ParserLib.headParse StartLine.taken
  by_cases done : (lib.startlineParse sip tmp).done <;> simp [done]

/-- What is read of the lines of a head does not depend on what is behind them. -/
theorem ParserLib.headParse_lines {read : Option (OsipMessage Header)}
    (started : ∀ rest, (lib.startlineParse sip (line ++ '\r' :: '\n' :: rest)).taken =
      read.map (·, rest)) (plain : ∀ own ∈ lines, IsHeadLine own) (rest : Text) :
    lib.headParse false sip (joinLines (line :: lines) ++ '\r' :: rest) =
      (read.bind (lib.storeLines lines ·)).map (·, '\r' :: rest) := by
  have first : joinLines (line :: lines) ++ '\r' :: rest =
      line ++ '\r' :: '\n' :: (joinLines lines ++ '\r' :: rest) := by
    rw [joinLines_cons, List.append_assoc]
    rfl
  have enough : lines.length < (joinLines lines ++ '\r' :: rest).length + 1 := by
    have short := length_le_joinLines lines
    rw [List.length_append]
    omega
  rw [ParserLib.headParse_eq, first, started]
  cases read with
  | none => rfl
  | some dest => exact msgHeadersParse_lines lib enough plain

theorem ParserLib.headParser_lawful (lib : ParserLib Header) : lib.headParser.Lawful where
  empty := rfl
  lines := by
    intro line lines rest started plain zeroless ends
    obtain ⟨isHeadLine, others⟩ := List.forall_mem_cons.mp plain
    obtain ⟨read, -, started⟩ := startlineParse_line lib (.init Header) started isHeadLine.1
    have whole : joinLines (line :: lines) ++ '\r' :: rest ++ ['\x00'] =
        joinLines (line :: lines) ++ '\r' :: (rest ++ ['\x00']) := by simp
    have free : '\x00' ∉ joinLines (line :: lines) ++ '\r' :: rest := by
      have lineless := zero_not_mem_joinLines fun own member => (plain own member).1
      simp [lineless, zeroless]
    have text : cString (replaceAllLws .any (joinLines (line :: lines) ++ '\r' :: rest ++
        ['\x00'])) = joinLines (line :: lines) ++ '\r' :: rest := by
      rw [whole, replaceAllLws_lines (List.cons_ne_nil _ _) plain ends, ← whole, cString_append free]
      exact List.append_nil _
    unfold ParserLib.headParser
    dsimp only
    rw [text, crlf, headParse_lines started others, headParse_lines started others]
    cases read.bind (lib.storeLines lines ·) <;> simp
  bodiless := by
    intro line lines sip started plain read
    obtain ⟨isHeadLine, others⟩ := List.forall_mem_cons.mp plain
    obtain ⟨start, same, started⟩ := startlineParse_line lib (.init Header) started isHeadLine.1
    unfold ParserLib.headParser at read
    dsimp only at read
    rw [crlf, headParse_lines started others, Option.map_map] at read
    obtain ⟨after, stored, rfl⟩ := Option.map_eq_some_iff.mp read
    obtain ⟨dest, here, stored⟩ := Option.bind_eq_some_iff.mp stored
    exact (bodies_storeLines lib stored).trans (same dest here)

/-- Behind the head the message is read from the blank line on, without its last character. -/
theorem ParserLib.osipMessageParse_head {read : Option (OsipMessage Header)}
    (started : ∀ rest, (lib.startlineParse sip (line ++ '\r' :: '\n' :: rest)).taken =
      read.map (·, rest)) (plain : ∀ own ∈ line :: lines, IsHeadLine own)
    {behind : Text} (ends : EndsLines (behind ++ ['\x00'])) (last : Char) :
    lib.osipMessageParse false sip (joinLines (line :: lines) ++ '\r' :: (behind ++ [last])) =
      (read.bind (lib.storeLines lines ·)).bind (lib.readBehind · behind) := by
  have zeroless := zero_not_mem_joinLines fun own member => (plain own member).1
  have filled : line :: lines ≠ [] := List.cons_ne_nil _ _
  have closed : (joinLines (line :: lines) ++ '\r' :: (behind ++ [last])).dropLast ++
      ['\x00'] = joinLines (line :: lines) ++ '\r' :: (behind ++ ['\x00']) := by
    have whole : joinLines (line :: lines) ++ '\r' :: (behind ++ [last]) =
        (joinLines (line :: lines) ++ '\r' :: behind) ++ [last] := by simp
    rw [whole, List.dropLast_concat]
    simp
  have begins : (joinLines (line :: lines) ++ '\r' :: (behind ++ ['\x00'])).dropWhile
      isLineEnd = joinLines (line :: lines) ++ '\r' :: (behind ++ ['\x00']) := by
    obtain ⟨isLine, some, -⟩ := plain line List.mem_cons_self
    obtain ⟨first, rest, rfl⟩ := List.exists_cons_of_ne_nil some
    obtain ⟨noReturn, noFeed, -⟩ := isLine first List.mem_cons_self
    simp [joinLines_cons, isLineEnd, noReturn, noFeed]
  have text : cString (joinLines (line :: lines) ++ '\r' :: (behind ++ ['\x00'])) =
      joinLines (line :: lines) ++ '\r' :: cString (behind ++ ['\x00']) := by
    rw [cString_append zeroless]
    rfl
  have head := headParse_lines started (fun own member => plain own (List.mem_cons_of_mem _ member))
    (cString (behind ++ ['\x00']))
  have offset : (joinLines (line :: lines) ++ '\r' :: cString (behind ++ ['\x00'])).length -
      ('\r' :: cString (behind ++ ['\x00'])).length = (joinLines (line :: lines)).length := by
    rw [List.length_append, Nat.add_sub_cancel]
  have size : ('\r' :: (behind ++ ['\x00'])).length - 1 = behind.length + 1 := by simp
  unfold ParserLib.osipMessageParse
  rw [if_neg (by simp), closed, begins, replaceAllLws_lines filled plain ends]
  dsimp only
  rw [text, head]
  cases read.bind (lib.storeLines lines ·) with
  | none => rfl
  | some sip =>
    dsimp only [Option.map_some, Option.bind_some]
    rw [offset, List.drop_left, size]
    rfl

/-- The same where it is known how the start line is read, and which fields the lines have. -/
theorem ParserLib.osipMessageParse_lines
    (started : ∀ rest, lib.startlineParse sip (line ++ '\r' :: '\n' :: rest) = ⟨dest, rest, true⟩)
    (plain : ∀ own ∈ line :: lines, IsHeadLine own) (balanced : ∀ own ∈ lines, BalancedLine own)
    {behind : Text} (ends : EndsLines (behind ++ ['\x00'])) (last : Char) :
    lib.osipMessageParse false sip (joinLines (line :: lines) ++ '\r' :: (behind ++ [last])) =
      (headFields lines).bind fun fields => (lib.storeFields fields dest).bind fun sip =>
        lib.readBehind sip behind := by
  have taken (rest : Text) : (lib.startlineParse sip (line ++ '\r' :: '\n' :: rest)).taken =
      (some dest).map (·, rest) := taken_eq_some.mpr (started rest)
  rw [osipMessageParse_head taken plain ends, Option.bind_some, storeLines_fields lib balanced,
    Option.bind_assoc]

/-- Seen from the bodies, a Content-Length is set as it is by its own setter. -/
theorem ParserLib.setContentLength_headParser {hvalue : Text} (filled : hvalue ≠ []) :
    Osip.osipMessageSetContentLength lib.headParser sip hvalue =
      let set := lib.osipMessageSetContentLength (some hvalue) sip
      if set.2 then some set.1 else none := by
  have same : lib.headParser.contentLengthParse = lib.parse .contentLength := rfl
  unfold Osip.osipMessageSetContentLength ParserLib.osipMessageSetContentLength setSimpleHeader
  rw [same, Option.getD_some, if_neg filled]
  by_cases known : sip.contentLength.isSome
  · simp [known]
  · cases lib.parse .contentLength hvalue <;> simp [known, OsipMessage.touch]

/-- Seen from the bodies, a message is parsed as it is as a whole. -/
theorem ParserLib.osipMessageParse_headParser (started : IsStartLine line)
    (plain : ∀ own ∈ line :: lines, IsHeadLine own) {behind : Text}
    (ends : EndsLines (behind ++ ['\x00'])) (last : Char) :
    Osip.osipMessageParse lib.toHeaderLib lib.headParser
        (joinLines (line :: lines) ++ '\r' :: (behind ++ [last])) =
      lib.osipMessageParse false (.init Header)
        (joinLines (line :: lines) ++ '\r' :: (behind ++ [last])) := by
  obtain ⟨read, -, taken⟩ := startlineParse_line lib (.init Header) started
    (plain line List.mem_cons_self).1
  have meant : lib.headParser.parseLines (line :: lines) = read.bind (lib.storeLines lines ·) := by
    unfold ParserLib.headParser
    dsimp only
    rw [crlf, headParse_lines taken fun own member => plain own (List.mem_cons_of_mem _ member),
      Option.map_map]
    exact Option.map_id'
  rw [Osip.osipMessageParse_lines lib.headParser_lawful started plain ends,
    osipMessageParse_head taken plain ends, meant]
  rfl

end Gb28181.Osip
