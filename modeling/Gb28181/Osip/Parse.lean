import Gb28181.Lib.Lines
import Gb28181.Osip.Message

/-! `osip_message_parse.c`: how a message is read, the bodies above all. -/

namespace Gb28181.Osip

open Gb28181.Lib

/-- What the parser library does with the text in front of the bodies. `parseHead` takes in the
start line and the headers of a C string, and gives the offset at which they end; `parseLines`
is what they mean, line by line. -/
structure HeadParser (Header : Type) where
  parseHead : Text → Option (OsipMessage Header × Nat)
  parseLines : List Text → Option (OsipMessage Header)
  subtype : Header → Option Text
  value : Header → Option Text
  contentLengthParse : Text → Option Header
  parseMultipart : OsipMessage Header → Text → Nat → Option (OsipMessage Header)

/-- A `size_t`. -/
def sizeT (number : Int) : Nat := (number % 2 ^ 64).toNat

def osipAtoi : Option Text → Int
  | none => -1
  | some number => atoi (cString number)

section Parsing

variable {Header : Type} (lib : HeaderLib Header) (parser : HeadParser Header)

def osipMessageSetContentLength (sip : OsipMessage Header) (hvalue : Text) :
    Option (OsipMessage Header) :=
  if sip.contentLength.isSome then none
  else (parser.contentLengthParse hvalue).map (fun header =>
    { sip with contentLength := some header, messageProperty := 2 })

/-- `osip_message_set_body`. -/
def osipMessageSetBody (sip : OsipMessage Header) (body : Text) : OsipMessage Header :=
  { sip with bodies := sip.bodies ++ [⟨body, none, []⟩], messageProperty := 2 }

/-- The line end in front of the body. -/
def firstCrlf : Text → Option Nat
  | '\r' :: '\n' :: _ => some 2
  | '\r' :: _ => some 1
  | '\n' :: _ => some 1
  | _ => none

/-- The length of a body that is no multipart. -/
def osipBodyLen (sip : OsipMessage Header) (startOfBody type subtype : Text) :
    Option (OsipMessage Header × Nat) :=
  match sip.contentLength with
  | some contentLength => some (sip, sizeT (osipAtoi (parser.value contentLength) - 1))
  | none =>
    if strcasecmpEq type "application".toList ∧ strcasecmpEq subtype "sdp".toList then
      let strlen := (cString startOfBody).length
      (osipMessageSetContentLength parser sip (decimal strlen)).map (·, strlen)
    else none

def singleBodyParse (sip : OsipMessage Header) (startOfBuf : Text) (length : Nat)
    (type subtype : Text) : Option (OsipMessage Header) := do
  let skip ← firstCrlf startOfBuf
  let startOfBody := startOfBuf.drop skip
  let length := sizeT (length - skip)
  if length = 0 then none
  else
    let (sip, bodyLen) ← osipBodyLen parser sip startOfBody type subtype
    if length < bodyLen then none
    else some (osipMessageSetBody sip (startOfBody.take bodyLen))

def msgOsipBodyParse (sip : OsipMessage Header) (startOfBuf : Text) (length : Nat) :
    Option (OsipMessage Header) :=
  match sip.contentType with
  | none => some sip
  | some contentType =>
    match lib.type contentType, parser.subtype contentType with
    | some type, some subtype =>
      if strcasecmpEq type "multipart".toList then parser.parseMultipart sip startOfBuf length
      else singleBodyParse parser sip startOfBuf length type subtype
    | _, _ => some sip

/-- Mandatory in the oSIP stack. -/
def withContentLength (sip : OsipMessage Header) : OsipMessage Header :=
  if sip.contentLength.isSome then sip
  else (osipMessageSetContentLength parser sip ['0']).getD sip

/-- `osip_message_parse`. The last character is not read: it is overwritten with the closing
zero. -/
def osipMessageParse (buf : Text) : Option (OsipMessage Header) :=
  if buf = [] then none
  else
    let tmp := (buf.dropLast ++ ['\x00']).dropWhile (fun char => char = '\r' ∨ char = '\n')
    match parser.parseHead (cString tmp) with
    | none => none
    | some (sip, nextHeaderIndex) =>
      let skipped := buf.length - tmp.length + nextHeaderIndex
      let tmp := tmp.drop nextHeaderIndex
      if tmp[0]? = some '\x00' ∨ tmp[1]? = some '\x00' ∨ tmp[2]? = some '\x00' then
        some (withContentLength parser sip)
      else
        (msgOsipBodyParse lib parser sip tmp (buf.length - skipped - 1)).map
          (withContentLength parser)

end Parsing

/-- A start line with the two blanks that part it. No other white space follows the first. -/
def IsStartLine (line : Text) : Prop :=
  ∃ first second third, line = first ++ ' ' :: second ++ ' ' :: third ∧
    ' ' ∉ first ∧ ' ' ∉ second ∧ ∃ char ∈ second.head?, isSpace char = false

/-- A line that is not the continuation of the one before. -/
def IsHeadLine (line : Text) : Prop :=
  IsLine line ∧ line ≠ [] ∧ line.head? ≠ some ' ' ∧ line.head? ≠ some '\t'

/-- What begins like a blank line, or ends the text. -/
def EndsLines (rest : Text) : Prop := ∃ more, rest = '\n' :: more ∨ rest = '\x00' :: more

/-- An empty text has no start line; start line and headers are read line by line, up to the
blank line, and bring no bodies. -/
structure HeadParser.Lawful {Header : Type} (parser : HeadParser Header) : Prop where
  empty : parser.parseHead [] = none
  lines : ∀ line lines rest, IsStartLine line → (∀ own ∈ line :: lines, IsHeadLine own) →
    '\x00' ∉ rest → EndsLines (rest ++ ['\x00']) →
    parser.parseHead (joinLines (line :: lines) ++ '\r' :: rest) =
      (parser.parseLines (line :: lines)).map (·, (joinLines (line :: lines)).length)
  bodiless : ∀ line lines sip, IsStartLine line → (∀ own ∈ line :: lines, IsHeadLine own) →
    parser.parseLines (line :: lines) = some sip → sip.bodies = []

variable {Header : Type} {lib : HeaderLib Header} {parser : HeadParser Header}
  {sip parsed : OsipMessage Header}

theorem bodies_setContentLength {hvalue : Text}
    (set : osipMessageSetContentLength parser sip hvalue = some parsed) :
    parsed.bodies = sip.bodies := by
  unfold osipMessageSetContentLength at set
  split at set
  · exact nomatch set
  · obtain ⟨header, -, rfl⟩ := Option.map_eq_some_iff.mp set
    rfl

theorem bodies_withContentLength : (withContentLength parser sip).bodies = sip.bodies := by
  unfold withContentLength
  split
  · rfl
  · cases set : osipMessageSetContentLength parser sip ['0'] with
    | none => rfl
    | some parsed => exact bodies_setContentLength set

theorem bodies_osipBodyLen {startOfBody type subtype : Text} {bodyLen : Nat}
    (measured : osipBodyLen parser sip startOfBody type subtype = some (parsed, bodyLen)) :
    parsed.bodies = sip.bodies := by
  unfold osipBodyLen at measured
  split at measured
  · cases measured
    rfl
  · split at measured
    · obtain ⟨sip', set, same⟩ := Option.map_eq_some_iff.mp measured
      cases same
      exact bodies_setContentLength set
    · exact nomatch measured

theorem singleBodyParse_spec {rest type subtype : Text} {length : Nat} (small : length < 2 ^ 64)
    (read : singleBodyParse parser sip ('\r' :: '\n' :: rest) (length + 2) type subtype =
      some parsed) :
    ∃ body, parsed.bodies = sip.bodies ++ [⟨body, none, []⟩] ∧ body.length ≤ length := by
  have left : sizeT (((length + 2 : Nat) : Int) - 2) = length := by
    unfold sizeT
    omega
  have first : firstCrlf ('\r' :: '\n' :: rest) = some 2 := rfl
  unfold singleBodyParse at read
  rw [first] at read
  dsimp only [Option.bind_eq_bind, Option.bind_some] at read
  rw [Int.ofNat_two, left] at read
  split at read
  · exact nomatch read
  · obtain ⟨⟨measured, bodyLen⟩, here, read⟩ := Option.bind_eq_some_iff.mp read
    dsimp only at read
    split at read
    · exact nomatch read
    · rename_i enough
      cases read
      refine ⟨_, congrArg (· ++ _) (bodies_osipBodyLen here), ?_⟩
      exact (List.length_take_le ..).trans (Nat.le_of_not_lt enough)

/-- What is no multipart has at most one body, which is no longer than what is left. -/
theorem msgOsipBodyParse_spec {rest : Text} {length : Nat} (small : length < 2 ^ 64)
    (bodiless : sip.bodies = [])
    (noMultipart : ∀ type ∈ sip.contentType.bind lib.type, ¬ strcasecmpEq type "multipart".toList)
    (read : msgOsipBodyParse lib parser sip ('\r' :: '\n' :: rest) (length + 2) = some parsed) :
    parsed.bodies = [] ∨ ∃ body, parsed.bodies = [⟨body, none, []⟩] ∧ body.length ≤ length := by
  unfold msgOsipBodyParse at read
  split at read
  · cases read
    exact .inl bodiless
  · rename_i contentType here
    split at read
    · rename_i type subtype known _
      rw [here, Option.bind_some, known] at noMultipart
      rw [if_neg (noMultipart type rfl)] at read
      obtain ⟨body, one, fits⟩ := singleBodyParse_spec small read
      rw [bodiless] at one
      exact .inr ⟨body, one, fits⟩
    · cases read
      exact .inl bodiless

/-- What is read of a text as a C string ends the lines as the text does. -/
theorem endsLines_cString {rest : Text} (ends : EndsLines rest) :
    EndsLines (cString rest ++ ['\x00']) := by
  obtain ⟨more, rfl | rfl⟩ := ends
  · exact ⟨cString more ++ ['\x00'], .inl rfl⟩
  · exact ⟨[], .inr rfl⟩

/-- Behind the head the message is read from the blank line on, without its last character. -/
theorem osipMessageParse_lines {line : Text} {lines : List Text} (lawful : parser.Lawful)
    (started : IsStartLine line) (plain : ∀ own ∈ line :: lines, IsHeadLine own)
    {behind : Text} (ends : EndsLines (behind ++ ['\x00'])) (last : Char) :
    osipMessageParse lib parser (joinLines (line :: lines) ++ '\r' :: (behind ++ [last])) =
      (parser.parseLines (line :: lines)).bind (fun sip =>
        let tmp := '\r' :: (behind ++ ['\x00'])
        if tmp[0]? = some '\x00' ∨ tmp[1]? = some '\x00' ∨ tmp[2]? = some '\x00' then
          some (withContentLength parser sip)
        else
          (msgOsipBodyParse lib parser sip tmp (behind.length + 1)).map
            (withContentLength parser)) := by
  have zeroFree := zero_not_mem_joinLines (fun own member => (plain own member).1)
  have head := plain line List.mem_cons_self
  generalize joined : joinLines (line :: lines) = front at zeroFree ⊢
  have closed : (front ++ '\r' :: (behind ++ [last])).dropLast ++ ['\x00'] =
      front ++ '\r' :: (behind ++ ['\x00']) := by
    rw [← List.cons_append, ← List.append_assoc, List.dropLast_concat, List.append_assoc,
      List.cons_append]
  have begins : (front ++ '\r' :: (behind ++ ['\x00'])).dropWhile
      (fun char => char = '\r' ∨ char = '\n') = front ++ '\r' :: (behind ++ ['\x00']) := by
    rw [← joined, joinLines_cons]
    obtain ⟨isLine, some, -⟩ := head
    cases line with
    | nil => exact absurd rfl some
    | cons first rest =>
      obtain ⟨noReturn, noFeed, -⟩ := isLine first List.mem_cons_self
      apply List.dropWhile_cons_of_neg
      simp only [noReturn, noFeed, or_self, decide_false, Bool.false_eq_true, not_false_eq_true]
  have read : parser.parseHead (cString (front ++ '\r' :: (behind ++ ['\x00']))) =
      (parser.parseLines (line :: lines)).map (·, front.length) := by
    have stops : cString ('\r' :: (behind ++ ['\x00'])) = '\r' :: cString (behind ++ ['\x00']) := rfl
    rw [cString_append zeroFree, stops, ← joined]
    exact lawful.lines line lines _ started plain (zero_not_mem_cString _) (endsLines_cString ends)
  have some : front ++ '\r' :: (behind ++ [last]) ≠ [] :=
    List.append_ne_nil_of_right_ne_nil _ (List.cons_ne_nil _ _)
  unfold osipMessageParse
  rw [if_neg some, closed]
  dsimp only
  rw [begins, read]
  cases parser.parseLines (line :: lines) with
  | none => rfl
  | some sip =>
    have same : (front ++ '\r' :: (behind ++ ['\x00'])).length =
        (front ++ '\r' :: (behind ++ [last])).length := by
      simp only [List.length_append, List.length_cons, List.length_nil]
    have left : ((front ++ '\r' :: (behind ++ [last])).length - front.length - 1) =
        behind.length + 1 := by
      simp only [List.length_append, List.length_cons, List.length_nil]
      omega
    dsimp only [Option.map_some, Option.bind_some]
    rw [same, Nat.sub_self, Nat.zero_add, List.drop_left, left]

theorem osipMessageParse_zero (lawful : parser.Lawful) (rest : Text) :
    osipMessageParse lib parser ('\x00' :: rest) = none := by
  have zero : ∃ more, ('\x00' :: rest).dropLast ++ ['\x00'] = '\x00' :: more := by
    cases rest with
    | nil => exact ⟨[], rfl⟩
    | cons first rest => exact ⟨(first :: rest).dropLast ++ ['\x00'], rfl⟩
  obtain ⟨more, closed⟩ := zero
  have begins : ('\x00' :: more).dropWhile (fun char => char = '\r' ∨ char = '\n') =
      '\x00' :: more := rfl
  have empty : cString ('\x00' :: more) = [] := rfl
  unfold osipMessageParse
  rw [if_neg (List.cons_ne_nil _ _), closed]
  dsimp only
  rw [begins, empty, lawful.empty]

end Gb28181.Osip
