import Gb28181.Osip.Parse
import Gb28181.Osip.StoredHeaders

/-! `osip_message_parse.c`: the start line and the headers, read from a buffer in which the
continuations of lines are blanks. -/

namespace Gb28181.Osip

open Gb28181.Lib

def isLineEnd (char : Char) : Bool := char = '\r' || char = '\n'

def isBlank (char : Char) : Bool := char = ' ' || char = '\t'

/-- `CRLFCRLF`, or two of the same. -/
def endsHead : Text → Bool
  | '\r' :: '\n' :: '\r' :: '\n' :: _ => true
  | '\r' :: '\r' :: _ => true
  | '\n' :: '\n' :: _ => true
  | _ => false

/-- A line end with a blank behind it. -/
def foldsLine : Text → Bool
  | '\r' :: '\n' :: blank :: _ => isBlank blank
  | '\r' :: blank :: _ => isBlank blank
  | '\n' :: blank :: _ => isBlank blank
  | _ => false

/-- Where the loop is: at any character, at the second of two that are overwritten, or in the
blanks behind these. -/
inductive LwsScan where
  | any | second | blanks

/-- `osip_util_replace_all_lws`. The first character behind the blanks is not looked at. -/
def replaceAllLws : LwsScan → Text → Text
  | _, [] => []
  | .any, char :: rest =>
    if '\x00' ∈ (char :: rest).take 4 ∨ (char :: rest).length < 4 then char :: rest
    else if endsHead (char :: rest) then char :: rest
    else if foldsLine (char :: rest) then ' ' :: replaceAllLws .second rest
    else char :: replaceAllLws .any rest
  | .second, _ :: rest => ' ' :: replaceAllLws .blanks rest
  | .blanks, char :: rest =>
    if isBlank char then ' ' :: replaceAllLws .blanks rest
    else char :: replaceAllLws .any rest

/-- What `__osip_find_next_crlf` finds: no line end, one with a continuation behind it, or the
offset behind one. -/
inductive LineEnd where
  | missing | lws | behind (endOfHeader : Nat)
  deriving DecidableEq

def behindLineEnd (text : Text) (place : Nat) : Nat :=
  if text[place]? = some '\r' ∧ text[place + 1]? = some '\n' then place + 2 else place + 1

/-- `__osip_find_next_crlf`. -/
def findNextCrlf (startOfHeader : Text) : LineEnd :=
  match startOfHeader.findIdx? isLineEnd with
  | none => .missing
  | some soh =>
    let endOfHeader := behindLineEnd startOfHeader soh
    if (startOfHeader[endOfHeader]?).any isBlank then .lws else .behind endOfHeader

/-- A message with what was read of the start line, where its headers begin, and whether it
could be read. -/
structure StartLine (Header : Type) where
  dest : OsipMessage Header
  headers : Text
  done : Bool

/-- What is read, and where the headers begin. -/
def StartLine.taken {Header : Type} (start : StartLine Header) :
    Option (OsipMessage Header × Text) :=
  if start.done then some (start.dest, start.headers) else none

/-- How far the line reaches from a place on, and where the headers begin behind it. -/
def restOfLine (buf : Text) (place : Nat) : Option (Nat × Text) :=
  ((buf.drop place).findIdx? isLineEnd).map fun length =>
    (length, buf.drop (behindLineEnd buf (place + length)))

/-- `sscanf` for `%d`. -/
def scanInt (text : Text) : Option Int :=
  let unsigned := match text.dropWhile isSpace with
    | '-' :: rest => rest
    | '+' :: rest => rest
    | rest => rest
  if unsigned.head?.any Char.isDigit then some (atoi text) else none

section Reading

variable {Header : Type} (lib : ParserLib Header)

/-- `__osip_message_startline_parsereq`. -/
def ParserLib.startlineParsereq (dest : OsipMessage Header) (buf : Text) : StartLine Header :=
  let dest := { dest with sipMethod := none, statusCode := 0, reasonPhrase := none }
  let failed : StartLine Header := ⟨dest, buf, false⟩
  let unread : StartLine Header := ⟨{ dest with reqUri := none }, buf, false⟩
  match strchr buf ' ' 0 with
  | none => failed
  | some p2 =>
    if buf.length ≤ p2 + 2 ∨ p2 = 0 then failed
    else match strchr buf ' ' (p2 + 2) with
      | none => failed
      | some p1 =>
        if p1 - p2 < 2 then failed
        else match lib.uriParse (osipClrspace ((buf.drop (p2 + 1)).take (p1 - p2 - 1))) with
          | none => unread
          | some reqUri =>
            match restOfLine buf p1 with
            | none => unread
            | some (length, headers) =>
              if length < 2 then unread
              else
                { dest := { dest with
                    sipMethod := some (buf.take p2)
                    reqUri := some reqUri
                    sipVersion := some ((buf.drop (p1 + 1)).take (length - 1)) }
                  headers := headers
                  done := true }

/-- `__osip_message_startline_parseresp`. -/
def startlineParseresp (dest : OsipMessage Header) (buf : Text) : StartLine Header :=
  let dest := { dest with reqUri := none, sipMethod := none }
  match strchr buf ' ' 0 with
  | none => ⟨dest, buf, false⟩
  | some statuscode =>
    match strchr buf ' ' (statuscode + 1) with
    | none => ⟨{ dest with sipVersion := none }, buf, false⟩
    | some reasonphrase =>
      let dest := { dest with sipVersion := some (buf.take statuscode) }
      match scanInt (buf.drop (statuscode + 1)) with
      | none => ⟨dest, buf, false⟩
      | some code =>
        let dest := { dest with statusCode := code }
        if code = 0 then ⟨dest, buf, false⟩
        else match restOfLine buf reasonphrase with
          | none => ⟨dest, buf, false⟩
          | some (length, headers) =>
            { dest := { dest with
                reasonPhrase := some ((buf.drop (reasonphrase + 1)).take (length - 1)) }
              headers := headers
              done := true }

/-- `__osip_message_startline_parse`. -/
def ParserLib.startlineParse (dest : OsipMessage Header) (buf : Text) : StartLine Header :=
  if strncmpEq buf "SIP/".toList 4 then startlineParseresp dest buf
  else lib.startlineParsereq dest buf

/-- The value between the colon and the end of a header; it may be missing. -/
def headerValue (startOfHeader : Text) (colonIndex endOfHeader : Nat) : Option Text :=
  let ending :=
    if (startOfHeader[endOfHeader - 2]?).any isLineEnd then endOfHeader - 2 else endOfHeader - 1
  if ending - colonIndex < 2 then none
  else some (osipClrspace ((startOfHeader.drop (colonIndex + 1)).take (ending - colonIndex - 1)))

/-- A header is stored, and the next one begins behind it; or there is an error. -/
def ParserLib.headerParse (startOfHeader : Text) (sip : OsipMessage Header) :
    Option (Nat × OsipMessage Header) :=
  match strchr startOfHeader ':' 0 with
  | none => none
  | some colonIndex =>
    if colonIndex + 1 < 2 then none
    else match findNextCrlf startOfHeader with
      | .behind endOfHeader =>
        if endOfHeader ≤ colonIndex then none
        else
          (osipMessageSetMultipleHeader lib.setHeader (osipClrspace (startOfHeader.take colonIndex))
            (headerValue startOfHeader colonIndex endOfHeader) sip).map (endOfHeader, ·)
      | _ => none

/-- `msg_headers_parse`: the message, and where its body begins. If the last line end is missing
the latter stays as it was. -/
def ParserLib.msgHeadersParse (body : Text) :
    Nat → Text → OsipMessage Header → Option (OsipMessage Header × Text)
  | 0, _, _ => none
  | fuel + 1, startOfHeader, sip =>
    match startOfHeader.head? with
    | none => some (sip, body)
    | some first =>
      if findNextCrlf startOfHeader = .missing then none
      else if isLineEnd first then some (sip, startOfHeader)
      else match lib.headerParse startOfHeader sip with
        | none => none
        | some (endOfHeader, sip) =>
          ParserLib.msgHeadersParse body fuel (startOfHeader.drop endOfHeader) sip

end Reading

variable {text rest : Text} {lines : List Text}

theorem replaceAllLws_cons {char : Char} (unfolded : foldsLine (char :: rest) = false)
    (fixed : replaceAllLws .any rest = rest) :
    replaceAllLws .any (char :: rest) = char :: rest := by
  simp [replaceAllLws, unfolded, fixed]

theorem replaceAllLws_line (plain : IsLine text) (fixed : replaceAllLws .any rest = rest) :
    replaceAllLws .any (text ++ rest) = text ++ rest := by
  induction text with
  | nil => exact fixed
  | cons char text ih =>
    obtain ⟨⟨noReturn, noFeed, -⟩, others⟩ := List.forall_mem_cons.mp plain
    refine replaceAllLws_cons ?_ (ih others)
    unfold foldsLine
    split <;> simp_all

theorem replaceAllLws_blank_line (ends : EndsLines rest) :
    replaceAllLws .any ('\r' :: '\n' :: '\r' :: rest) = '\r' :: '\n' :: '\r' :: rest := by
  obtain ⟨more, rfl | rfl⟩ := ends <;> simp [replaceAllLws, endsHead]

theorem replaceAllLws_line_end (next : ∀ char ∈ rest.head?, isBlank char = false)
    (fixed : replaceAllLws .any rest = rest) :
    replaceAllLws .any ('\r' :: '\n' :: rest) = '\r' :: '\n' :: rest := by
  refine replaceAllLws_cons ?_ (replaceAllLws_cons ?_ fixed)
  · cases rest with
    | nil => rfl
    | cons char rest => exact next char rfl
  · cases rest with
    | nil => rfl
    | cons char rest =>
      have apart := next char rfl
      unfold foldsLine
      split <;> simp_all

/-- No blank stands at the beginning of lines up to a blank one. -/
theorem head?_joinLines (plain : ∀ line ∈ lines, IsHeadLine line) :
    ∀ char ∈ (joinLines lines ++ '\r' :: rest).head?, isBlank char = false := by
  intro char here
  cases lines with
  | nil =>
    cases here
    rfl
  | cons line lines =>
    obtain ⟨-, filled, noSpace, noTab⟩ := plain line List.mem_cons_self
    obtain ⟨first, line, rfl⟩ := List.exists_cons_of_ne_nil filled
    rw [joinLines_cons] at here
    cases here
    simpa [isBlank] using And.intro noSpace noTab

theorem length_le_joinLines (lines : List Text) : lines.length ≤ (joinLines lines).length := by
  induction lines with
  | nil => exact Nat.zero_le _
  | cons line lines ih =>
    rw [joinLines_cons]
    simp
    omega

theorem replaceAllLws_lines (some : lines ≠ []) (plain : ∀ line ∈ lines, IsHeadLine line)
    (ends : EndsLines rest) :
    replaceAllLws .any (joinLines lines ++ '\r' :: rest) = joinLines lines ++ '\r' :: rest := by
  induction lines with
  | nil => exact absurd rfl some
  | cons line lines ih =>
    obtain ⟨here, others⟩ := List.forall_mem_cons.mp plain
    have whole : joinLines (line :: lines) ++ '\r' :: rest =
        line ++ ('\r' :: '\n' :: (joinLines lines ++ '\r' :: rest)) := by
      rw [joinLines_cons, List.append_assoc]
      rfl
    rw [whole]
    refine replaceAllLws_line here.1 ?_
    by_cases last : lines = []
    · subst last
      exact replaceAllLws_blank_line ends
    · exact replaceAllLws_line_end (head?_joinLines others) (ih last others)

theorem strchr_zero (text : Text) (char : Char) :
    strchr text char 0 = text.findIdx? (· = char) := by
  simp [strchr]

theorem strchr_eq_none {text : Text} {char : Char} : strchr text char 0 = none ↔ char ∉ text := by
  simp [strchr_zero, List.findIdx?_eq_none_iff]
  grind

theorem strchr_append {char : Char} (free : char ∉ text) :
    strchr (text ++ char :: rest) char 0 = some text.length := by
  have none_inside : text.findIdx? (· = char) = none := by
    rw [← strchr_zero]
    exact strchr_eq_none.mpr free
  simp [strchr_zero, List.findIdx?_append, none_inside, List.findIdx?_cons]

theorem findIdx?_line {line : Text} (plain : IsLine line) :
    (line ++ '\r' :: rest).findIdx? isLineEnd = some line.length := by
  have none_inside : line.findIdx? isLineEnd = none := by
    refine List.findIdx?_eq_none_iff.mpr fun char member => ?_
    obtain ⟨first, second, -⟩ := plain char member
    simp [isLineEnd, first, second]
  simp [List.findIdx?_append, none_inside, List.findIdx?_cons, isLineEnd]

theorem behindLineEnd_line {line : Text} :
    behindLineEnd (line ++ '\r' :: '\n' :: rest) line.length = line.length + 2 := by
  simp [behindLineEnd]

theorem drop_behind {front : Text} {char : Char} :
    (front ++ char :: rest).drop (front.length + 1) = rest := by
  rw [List.drop_append, List.drop_of_length_le (Nat.le_succ _)]
  simp

theorem restOfLine_last {front last : Text} (plain : IsLine last) :
    restOfLine (front ++ ' ' :: (last ++ '\r' :: '\n' :: rest)) front.length =
      some (last.length + 1, rest) := by
  have spaced : IsLine (' ' :: last) := IsLine.cons (by decide) plain
  have behind := @behindLineEnd_line rest (front ++ ' ' :: last)
  have found := @findIdx?_line ('\n' :: rest) _ spaced
  rw [List.append_assoc, List.cons_append, List.length_append, List.length_cons] at behind
  rw [List.cons_append] at found
  rw [restOfLine, List.drop_left, found, Option.map_some, List.length_cons, behind]
  have whole : front ++ ' ' :: (last ++ '\r' :: '\n' :: rest) =
      (front ++ ' ' :: last ++ ['\r', '\n']) ++ rest := by simp
  have size : front.length + (last.length + 1) + 2 =
      (front ++ ' ' :: last ++ ['\r', '\n']).length := by simp; omega
  rw [whole, size, List.drop_left]

variable {Header : Type} (lib : ParserLib Header) (dest : OsipMessage Header)

structure RequestLine where
  method : Text
  uri : Text
  version : Text
  named : method ≠ [] ∧ ' ' ∉ method ∧ '\t' ∉ method ∧ ¬ "SIP/".toList <+: method
  addressed : uri ≠ [] ∧ ' ' ∉ uri ∧ Stripped isLws uri
  versioned : version ≠ []
  plain : IsLine method ∧ IsLine uri ∧ IsLine version

def RequestLine.line (request : RequestLine) : Text :=
  request.method ++ ' ' :: (request.uri ++ ' ' :: request.version)

theorem not_response {method : Text} (other : ¬ "SIP/".toList <+: method) :
    strncmpEq (method ++ ' ' :: rest) "SIP/".toList 4 = false := by
  refine decide_eq_false fun same => ?_
  have begins : "SIP/".toList <+: method ++ ' ' :: rest := by
    have whole : "SIP/".toList.take 4 = "SIP/".toList := by decide
    rw [whole] at same
    exact same ▸ List.take_prefix ..
  by_cases short : method.length < 4
  · have inside : ' ' ∈ "SIP/".toList := by
      obtain ⟨more, shape⟩ := begins
      have here : ("SIP/".toList ++ more)[method.length]? = some ' ' := by
        rw [shape]
        simp
      rw [List.getElem?_append_left (by simpa using short)] at here
      exact List.mem_of_getElem? here
    exact absurd inside (by decide)
  · refine other (List.prefix_of_prefix_length_le begins (List.prefix_append ..) ?_)
    simpa using short

/-- The buffer of a start line of three parts. -/
def threeParts (first second third rest : Text) : Text :=
  first ++ ' ' :: (second ++ ' ' :: (third ++ '\r' :: '\n' :: rest))

section ThreeParts

variable {first second third : Text}

theorem threeParts_front : threeParts first second third rest =
    (first ++ ' ' :: second) ++ ' ' :: (third ++ '\r' :: '\n' :: rest) := by simp [threeParts]

theorem length_front : (first ++ ' ' :: second).length = first.length + 1 + second.length := by
  simp
  omega

theorem strchr_first (spaceless : ' ' ∉ first) :
    strchr (threeParts first second third rest) ' ' 0 = some first.length := strchr_append spaceless

theorem strchr_second (spaceless : ' ' ∉ second) :
    strchr (threeParts first second third rest) ' ' (first.length + 1) =
      some (first.length + 1 + second.length) := by
  have found := @strchr_append _ (third ++ '\r' :: '\n' :: rest) _ spaceless
  rw [strchr_zero] at found
  rw [strchr, threeParts, drop_behind, found]
  rfl

/-- The second part may as well be searched from its second character on. -/
theorem strchr_second' (filled : second ≠ []) (spaceless : ' ' ∉ second) :
    strchr (threeParts first second third rest) ' ' (first.length + 2) =
      some (first.length + 1 + second.length) := by
  obtain ⟨char, more, rfl⟩ := List.exists_cons_of_ne_nil filled
  have behind : (threeParts first (char :: more) third rest).drop (first.length + 2) =
      more ++ ' ' :: (third ++ '\r' :: '\n' :: rest) := by
    simp [threeParts, List.drop_append]
  have found := @strchr_append more (third ++ '\r' :: '\n' :: rest) ' '
    (List.not_mem_of_not_mem_cons spaceless)
  rw [strchr_zero] at found
  rw [strchr, behind, found]
  simp
  omega

theorem take_first : (threeParts first second third rest).take first.length = first := by
  simp [threeParts]

theorem take_second :
    ((threeParts first second third rest).drop (first.length + 1)).take second.length = second := by
  rw [threeParts, drop_behind, List.take_left]

theorem take_third : ((threeParts first second third rest).drop
    (first.length + 1 + second.length + 1)).take third.length = third := by
  rw [threeParts_front, ← length_front, drop_behind, List.take_left]

theorem restOfLine_third (plain : IsLine third) :
    restOfLine (threeParts first second third rest) (first.length + 1 + second.length) =
      some (third.length + 1, rest) := by
  rw [threeParts_front, ← length_front]
  exact restOfLine_last plain

theorem taken_eq_some {start : StartLine Header} {read : OsipMessage Header} {headers : Text} :
    start.taken = some (read, headers) ↔ start = ⟨read, headers, true⟩ := by
  obtain ⟨dest, own, done⟩ := start
  cases done <;> simp [StartLine.taken]

/-- What is read of a request line, if its URI can be read and its version is not empty. -/
def ParserLib.requestOf (first second third : Text) : Option (OsipMessage Header) :=
  match lib.uriParse (osipClrspace second) with
  | none => none
  | some reqUri =>
    if first = [] ∨ third = [] then none
    else some { dest with
      sipMethod := some first
      reqUri := some reqUri
      sipVersion := some third
      statusCode := 0
      reasonPhrase := none }

theorem startlineParsereq_parts (spaceless : ' ' ∉ first ∧ ' ' ∉ second) (filled : second ≠ [])
    (plain : IsLine third) :
    (lib.startlineParsereq dest (threeParts first second third rest)).taken =
      (lib.requestOf dest first second third).map (·, rest) := by
  have address := List.length_pos_of_ne_nil filled
  have long : ¬ (threeParts first second third rest).length ≤ first.length + 2 := by
    simp [threeParts]
    omega
  have width : first.length + 1 + second.length - first.length = second.length + 1 := by omega
  have wide : ¬ second.length + 1 < 2 := by omega
  simp only [ParserLib.startlineParsereq, ParserLib.requestOf, strchr_first spaceless.1,
    strchr_second' filled spaceless.2, restOfLine_third plain, long, width, wide, false_or,
    Nat.add_sub_cancel, take_first, take_second, take_third, if_false]
  by_cases nameless : first = []
  · cases lib.uriParse (osipClrspace second) <;> simp [nameless, StartLine.taken]
  · cases lib.uriParse (osipClrspace second) with
    | none => simp [nameless, StartLine.taken]
    | some reqUri =>
      cases third with
      | nil => simp [nameless, StartLine.taken]
      | cons char third =>
        have versioned : ¬ third.length + 1 + 1 < 2 := by omega
        simp [nameless, StartLine.taken, versioned]

/-- What is read of a status line, if its code is a number other than zero. -/
def statusOf (first second third : Text) : Option (OsipMessage Header) :=
  match scanInt (second ++ [' ']) with
  | none => none
  | some code =>
    if code = 0 then none
    else some { dest with
      reqUri := none
      sipMethod := none
      sipVersion := some first
      statusCode := code
      reasonPhrase := some third }

theorem digitsValue_blank (digits : Text) :
    digitsValue (digits ++ ' ' :: rest) = digitsValue (digits ++ [' ']) := by
  simp [digitsValue, List.takeWhile_append, Char.isDigit]

/-- `sscanf` reads a number up to a blank, if no white space is in front of it. -/
theorem scanInt_blank (begins : ∃ char ∈ second.head?, isSpace char = false) :
    scanInt (second ++ ' ' :: rest) = scanInt (second ++ [' ']) := by
  obtain ⟨char, here, noSpace⟩ := begins
  obtain ⟨more, rfl⟩ := List.head?_eq_some_iff.mp here
  have front (text : Text) : (char :: text).dropWhile isSpace = char :: text := by simp [noSpace]
  have digit : ((more ++ ' ' :: rest).head?).any Char.isDigit =
      ((more ++ [' ']).head?).any Char.isDigit := by cases more <;> rfl
  have value := @digitsValue_blank rest more
  have whole := @digitsValue_blank rest (char :: more)
  simp only [List.cons_append] at whole ⊢
  by_cases minus : char = '-'
  · subst minus
    simp only [scanInt, atoi, atoll, front, digit, value]
  · by_cases plus : char = '+'
    · subst plus
      simp only [scanInt, atoi, atoll, front, digit, value]
    · simp only [scanInt, atoi, atoll, front]
      split <;> simp_all

theorem startlineParseresp_parts (spaceless : ' ' ∉ first ∧ ' ' ∉ second)
    (begins : ∃ char ∈ second.head?, isSpace char = false) (plain : IsLine third) :
    (startlineParseresp dest (threeParts first second third rest)).taken =
      (statusOf dest first second third).map (·, rest) := by
  have code : scanInt ((threeParts first second third rest).drop (first.length + 1)) =
      scanInt (second ++ [' ']) := by
    rw [threeParts, drop_behind]
    exact scanInt_blank begins
  simp only [startlineParseresp, statusOf, strchr_first spaceless.1, strchr_second spaceless.2,
    restOfLine_third plain, code, Nat.add_sub_cancel, take_first, take_third]
  cases scanInt (second ++ [' ']) with
  | none => rfl
  | some code => by_cases zero : code = 0 <;> simp [zero, StartLine.taken]

theorem strncmpEq_parts : strncmpEq (threeParts first second third rest) "SIP/".toList 4 =
    strncmpEq (threeParts first second third []) "SIP/".toList 4 := by
  have long : 4 ≤ (threeParts first second third []).length := by
    simp [threeParts]
    omega
  have whole : threeParts first second third rest = threeParts first second third [] ++ rest := by
    simp [threeParts]
  rw [strncmpEq, strncmpEq, whole, List.take_append_of_le_length long]

end ThreeParts

theorem bodies_requestOf {first second third : Text} :
    ∀ read ∈ lib.requestOf dest first second third, read.bodies = dest.bodies := by
  intro read here
  unfold ParserLib.requestOf at here
  split at here
  · cases here
  · split at here <;> cases here
    rfl

theorem bodies_statusOf {first second third : Text} :
    ∀ read ∈ statusOf dest first second third, read.bodies = dest.bodies := by
  intro read here
  unfold statusOf at here
  split at here
  · cases here
  · split at here <;> cases here
    rfl

/-- What is read of a start line does not depend on what is behind it. -/
theorem startlineParse_line {line : Text} (started : IsStartLine line) (plain : IsLine line) :
    ∃ read : Option (OsipMessage Header), (∀ own ∈ read, own.bodies = dest.bodies) ∧
      ∀ rest, (lib.startlineParse dest (line ++ '\r' :: '\n' :: rest)).taken =
        read.map (·, rest) := by
  obtain ⟨first, second, third, rfl, noBlank, oneBlank, begins⟩ := started
  have filled : second ≠ [] := by
    rintro rfl
    obtain ⟨char, here, -⟩ := begins
    exact nomatch here
  have last : IsLine third := fun char member => plain char (by simp [member])
  have shape (rest : Text) : first ++ ' ' :: second ++ ' ' :: third ++ '\r' :: '\n' :: rest =
      threeParts first second third rest := by simp [threeParts]
  by_cases response : strncmpEq (threeParts first second third []) "SIP/".toList 4
  · refine ⟨statusOf dest first second third, bodies_statusOf dest, fun rest => ?_⟩
    rw [shape, ParserLib.startlineParse, strncmpEq_parts, if_pos response]
    exact startlineParseresp_parts dest ⟨noBlank, oneBlank⟩ begins last
  · refine ⟨lib.requestOf dest first second third, bodies_requestOf lib dest, fun rest => ?_⟩
    rw [shape, ParserLib.startlineParse, strncmpEq_parts, if_neg response]
    exact startlineParsereq_parts lib dest ⟨noBlank, oneBlank⟩ filled last

/-- A request line is read into its three parts, if the URI can be read. -/
theorem startlineParse_request (request : RequestLine) {reqUri : Header}
    (read : lib.uriParse request.uri = some reqUri) :
    lib.startlineParse dest (request.line ++ '\r' :: '\n' :: rest) =
      { dest := { dest with
          sipMethod := some request.method
          reqUri := some reqUri
          sipVersion := some request.version
          statusCode := 0
          reasonPhrase := none }
        headers := rest
        done := true } := by
  obtain ⟨named, spaceless, -, other⟩ := request.named
  obtain ⟨addressed, whole, stripped⟩ := request.addressed
  have shape : request.line ++ '\r' :: '\n' :: rest =
      threeParts request.method request.uri request.version rest := by
    simp [RequestLine.line, threeParts]
  have response : strncmpEq (threeParts request.method request.uri request.version rest)
      "SIP/".toList 4 = false := not_response other
  have uri : osipClrspace request.uri = request.uri := strip_eq_self stripped
  have filled : ¬ (request.method = [] ∨ request.version = []) :=
    not_or.mpr ⟨named, request.versioned⟩
  rw [shape, ParserLib.startlineParse, response]
  refine taken_eq_some.mp ?_
  refine (startlineParsereq_parts lib dest ⟨spaceless, whole⟩ addressed request.plain.2.2).trans ?_
  simp only [ParserLib.requestOf, uri, read, if_neg filled, Option.map_some]

theorem apart_of_isDigit {digit : Char} (isDigit : digit.isDigit = true) :
    isSpace digit = false ∧ digit ≠ '-' ∧ digit ≠ '+' := by
  simp only [Char.isDigit, Bool.and_eq_true, decide_eq_true_eq] at isDigit
  have low : (48 : Nat) ≤ digit.val.toNat := isDigit.1
  refine ⟨Bool.eq_false_iff.mpr fun space => ?_, ?_, ?_⟩
  · rcases Bool.or_eq_true_iff.mp space with blank | between
    · rw [of_decide_eq_true blank] at low
      exact absurd low (by decide)
    · have high : digit.val.toNat ≤ 13 := of_decide_eq_true (Bool.and_eq_true_iff.mp between).2
      omega
  · rintro rfl
    exact absurd low (by decide)
  · rintro rfl
    exact absurd low (by decide)

theorem isDigit_decimal {number : Int} {digit : Char} (positive : 0 ≤ number)
    (member : digit ∈ decimal number) : digit.isDigit = true := by
  obtain ⟨natural, rfl⟩ := Int.eq_ofNat_of_zero_le positive
  exact Nat.isDigit_of_mem_toDigits (b := 10) (n := natural) (by decide) (by decide) member

theorem scanInt_decimal {number : Int} (positive : 0 ≤ number) (small : number < 2 ^ 31) :
    scanInt (decimal number ++ ' ' :: rest) = some number := by
  have stops : ∀ char ∈ (' ' :: rest).head?, char.isDigit = false := by
    intro char here
    cases here
    rfl
  have value := atoi_decimal (Int.le_trans (by decide) positive) small stops
  obtain ⟨digit, digits, shape⟩ := List.exists_cons_of_ne_nil (decimal_ne_nil number)
  have member : digit ∈ decimal number := shape ▸ List.mem_cons_self
  have isDigit := isDigit_decimal positive member
  obtain ⟨noSpace, noMinus, noPlus⟩ := apart_of_isDigit isDigit
  rw [shape, List.cons_append] at value ⊢
  have behind : (digit :: (digits ++ ' ' :: rest)).dropWhile isSpace =
      digit :: (digits ++ ' ' :: rest) := by simp [noSpace]
  unfold scanInt
  rw [behind, value]
  split <;> simp_all

structure StatusLine where
  version : Text
  statusCode : Int
  reasonPhrase : Text
  versioned : "SIP/".toList <+: version ∧ ' ' ∉ version
  coded : 100 ≤ statusCode ∧ statusCode ≤ 699
  plain : IsLine version ∧ IsLine reasonPhrase

def StatusLine.line (status : StatusLine) : Text :=
  status.version ++ ' ' :: (decimal status.statusCode ++ ' ' :: status.reasonPhrase)

theorem startlineParse_status (status : StatusLine) :
    lib.startlineParse dest (status.line ++ '\r' :: '\n' :: rest) =
      { dest := { dest with
          reqUri := none
          sipMethod := none
          sipVersion := some status.version
          statusCode := status.statusCode
          reasonPhrase := some status.reasonPhrase }
        headers := rest
        done := true } := by
  obtain ⟨begins, spaceless⟩ := status.versioned
  obtain ⟨low, high⟩ := status.coded
  have shape : status.line ++ '\r' :: '\n' :: rest =
      threeParts status.version (decimal status.statusCode) status.reasonPhrase rest := by
    simp [StatusLine.line, threeParts]
  have response : strncmpEq (threeParts status.version (decimal status.statusCode)
      status.reasonPhrase rest) "SIP/".toList 4 = true := by
    obtain ⟨more, same⟩ := begins
    rw [← same]
    rfl
  have whole : ' ' ∉ decimal status.statusCode := not_mem_decimal (by decide) (by decide)
  have code : scanInt (decimal status.statusCode ++ [' ']) = some status.statusCode :=
    scanInt_decimal (by omega) (by omega)
  have filled : status.statusCode ≠ 0 := by omega
  rw [shape, ParserLib.startlineParse, response]
  refine taken_eq_some.mp ?_
  refine (startlineParseresp_parts dest ⟨spaceless, whole⟩ ?_ status.plain.2).trans ?_
  · obtain ⟨digit, digits, numeral⟩ := List.exists_cons_of_ne_nil
      (decimal_ne_nil status.statusCode)
    have member : digit ∈ decimal status.statusCode := numeral ▸ List.mem_cons_self
    exact ⟨digit, by rw [numeral]; rfl, (apart_of_isDigit (isDigit_decimal (by omega) member)).1⟩
  · simp only [statusOf, code, if_neg filled, Option.map_some]

end Gb28181.Osip
