import Gb28181.Lib.Lines
import Gb28181.Osip.Frame
import Gb28181.Exosip.TcpRead

namespace Gb28181.Exosip

open Gb28181.Lib Gb28181.Osip

/-- A header that gives the length of the body. -/
def GivesLength (line : Text) : Prop :=
  ∃ name ∈ ["content-length".toList, ['l']], ∃ colon ∈ [' ', ':'],
    name ++ [colon] <+: line.map Char.toLower

/-- A SIP text with a correct Content-Length, which may have its short name. -/
structure SipMessage where
  startLine : Text
  before : List Text
  name : Text
  blanks : Nat
  space : Text
  digits : Text
  trailer : Text
  behind : List Text
  body : Text
  plain : ∀ line ∈ startLine :: before ++ behind, IsLine line ∧ line ≠ []
  others : ∀ line ∈ before ++ behind, ¬ GivesLength line
  named : name.map Char.toLower ∈ ["content-length".toList, ['l']]
  spaced : ∀ char ∈ space ++ trailer, char = ' ' ∨ char = '\t'
  numeral : digits ≠ [] ∧ ∀ char ∈ digits, char.isDigit
  length : Nat.ofDigitChars 10 digits 0 = body.length

def SipMessage.contentLength (message : SipMessage) : Text :=
  message.name ++ List.replicate message.blanks ' ' ++ ':' :: (message.space ++ message.digits ++
    message.trailer)

def SipMessage.lines (message : SipMessage) : List Text :=
  message.startLine :: message.before ++ message.contentLength :: message.behind

def SipMessage.text (message : SipMessage) : Text :=
  joinLines message.lines ++ crlf ++ message.body

/-- The text between its head and its tail. -/
def SipMessage.frame (message : SipMessage) : Text :=
  '\x00' :: littleEndian32 (message.text.length + 1) ++ '\x01' :: (message.text ++ ['#'])

/-- A way to receive frames, with what the buffer holds behind each chunk. -/
structure Received (messages : List SipMessage) (chunks : List (Text × Char)) : Prop where
  stream : (chunks.map Prod.fst).flatten = messages.flatMap SipMessage.frame
  nonempty : ∀ chunk ∈ chunks, chunk.1 ≠ []
  short : ∀ chunk ∈ chunks, chunk.1.length ≤ sipMessageMaxLength

/-- The messages are passed on, each once, complete and in order. -/
def PassesOn (messages : List SipMessage) (chunks : List (Text × Char)) : Prop :=
  ∃ connection, chunks.foldl Connection.recv (some .fresh) = some connection ∧
    connection.passed = messages.map SipMessage.text

/-- No zero before another character. -/
def ZerosLast (text : Text) : Prop := ∀ char ∈ text.drop (cString text).length, char = '\x00'

/-- Every `recv` takes exactly one frame. -/
def FrameByFrame (messages : List SipMessage) (chunks : List (Text × Char)) : Prop :=
  chunks.map Prod.fst = messages.map SipMessage.frame

/-- What the four searches look for at the beginning of a line. -/
def keys : List Text :=
  ["content-length ".toList, "content-length:".toList, "l ".toList, "l:".toList]

theorem keys_apart : ∀ key ∈ keys, ∀ other ∈ keys, key <+: other → key = other := by
  decide +kernel

theorem keys_begin : ∀ key ∈ keys, '\r' ∉ key ∧ key.head? ≠ some '\r' ∧ key ≠ [] := by
  decide +kernel

theorem beginsNot_blank {key : Text} (member : key ∈ keys) : BeginsNot key [] := by
  intro rest begins
  obtain ⟨-, first, some⟩ := keys_begin key member
  cases key with
  | nil => exact some rfl
  | cons char key =>
    have same := (List.cons_prefix_cons.mp begins).1
    exact first (congrArg _ same)

variable {message : SipMessage}

/-- The first characters of the header with the length, in small letters. -/
def SipMessage.key (message : SipMessage) : Text :=
  message.name.map Char.toLower ++ [if message.blanks = 0 then ':' else ' ']

theorem SipMessage.key_mem (message : SipMessage) : message.key ∈ keys := by
  have names := message.named
  have each : ∀ name ∈ ["content-length".toList, ['l']], ∀ colon ∈ [' ', ':'],
      name ++ [colon] ∈ keys := by decide +kernel
  unfold SipMessage.key
  split
  · exact each _ names _ (by decide)
  · exact each _ names _ (by decide)

def SipMessage.front (message : SipMessage) : List Text := message.startLine :: message.before

theorem SipMessage.front_ne_nil (message : SipMessage) : message.front ≠ [] := List.cons_ne_nil _ _

theorem SipMessage.lines_eq (message : SipMessage) :
    message.lines = message.front ++ message.contentLength :: message.behind := rfl

theorem SipMessage.plain_name (message : SipMessage) : IsLine message.name ∧ ':' ∉ message.name := by
  have names : ∀ name ∈ ["content-length".toList, ['l']], ∀ char ∈ ['\r', '\n', '\x00', ':'],
      char.toLower ∉ name := by decide +kernel
  have apart : ∀ char ∈ ['\r', '\n', '\x00', ':'], char ∉ message.name := by
    intro char special member
    exact names _ message.named char special (List.mem_map_of_mem member)
  constructor
  · intro char member
    refine ⟨?_, ?_, ?_⟩ <;> rintro rfl <;> exact apart _ (by decide) member
  · exact apart ':' (by decide)

theorem SipMessage.plain_contentLength (message : SipMessage) :
    IsLine message.contentLength ∧ message.contentLength ≠ [] := by
  have blank : ∀ char, char = ' ' ∨ char = '\t' → char ≠ '\r' ∧ char ≠ '\n' ∧ char ≠ '\x00' := by
    rintro char (rfl | rfl) <;> decide
  have digit : ∀ char : Char, char.isDigit → char ≠ '\r' ∧ char ≠ '\n' ∧ char ≠ '\x00' := by
    intro char isDigit
    refine ⟨?_, ?_, ?_⟩ <;> rintro rfl <;> exact absurd isDigit (by decide)
  have spaced := message.spaced
  rw [List.forall_mem_append] at spaced
  constructor
  · unfold SipMessage.contentLength
    intro char member
    simp only [List.mem_append, List.mem_cons, List.mem_replicate] at member
    rcases member with (name | blanks) | colon | (space | digits) | trailer
    · exact message.plain_name.1 char name
    · exact blank char (.inl blanks.2)
    · rw [colon]
      decide
    · exact blank char (spaced.1 char space)
    · exact digit char (message.numeral.2 char digits)
    · exact blank char (spaced.2 char trailer)
  · unfold SipMessage.contentLength
    exact List.append_ne_nil_of_right_ne_nil _ (List.cons_ne_nil _ _)

theorem SipMessage.plain_lines (message : SipMessage) :
    ∀ line ∈ message.lines, IsLine line ∧ line ≠ [] := by
  have plain := message.plain
  rw [List.cons_append, List.forall_mem_cons, List.forall_mem_append] at plain
  rw [lines_eq, front, List.cons_append, List.forall_mem_cons, List.forall_mem_append,
    List.forall_mem_cons]
  exact ⟨plain.1, plain.2.1, message.plain_contentLength, plain.2.2⟩

theorem SipMessage.cString_text (message : SipMessage) : cString message.text =
    joinLines message.lines ++ '\r' :: '\n' :: cString message.body := by
  have plain := zero_not_mem_joinLines (fun line member => (message.plain_lines line member).1)
  unfold SipMessage.text
  rw [List.append_assoc, cString_append plain]
  rfl

theorem SipMessage.lower_text (message : SipMessage) : (cString message.text).map Char.toLower =
    joinLines (message.lines.map (List.map Char.toLower)) ++
      '\r' :: '\n' :: (cString message.body).map Char.toLower := by
  rw [cString_text, List.map_append, map_joinLines]
  rfl

theorem SipMessage.findEndSip (message : SipMessage) :
    findEndSip message.text = some ((joinLines message.lines).length - 2) := by
  unfold Exosip.findEndSip
  rw [cString_text]
  apply strstr_blank_line
  · exact fun line member => (message.plain_lines line member).1
  · exact List.cons_ne_nil _ _
  · exact fun line member => (message.plain_lines line member).2

theorem SipMessage.beginsNot (message : SipMessage) {key line : Text} (member : key ∈ keys)
    (own : line ∈ message.before ++ message.behind) : BeginsNot key (line.map Char.toLower) := by
  have names : ∀ key ∈ keys, ∃ name ∈ ["content-length".toList, ['l']], ∃ colon ∈ [' ', ':'],
      key = name ++ [colon] := by decide +kernel
  obtain ⟨name, named, colon, stands, rfl⟩ := names key member
  apply beginsNot_of_prefix (keys_begin _ member).1
  intro begins
  exact message.others line own ⟨name, named, colon, stands, begins⟩

theorem SipMessage.key_prefix (message : SipMessage) :
    message.key <+: message.contentLength.map Char.toLower := by
  unfold SipMessage.key SipMessage.contentLength
  rw [List.append_assoc, List.map_append, List.prefix_append_right_inj]
  cases message.blanks with
  | zero => exact ⟨_, rfl⟩
  | succ blanks => exact ⟨_, rfl⟩

theorem SipMessage.beginsNot_contentLength (message : SipMessage) {key : Text} (member : key ∈ keys)
    (other : key ≠ message.key) : BeginsNot key (message.contentLength.map Char.toLower) := by
  apply beginsNot_of_prefix (keys_begin _ member).1
  intro begins
  rcases List.prefix_or_prefix_of_prefix begins message.key_prefix with short | long
  · exact other (keys_apart _ member _ message.key_mem short)
  · exact other (keys_apart _ message.key_mem _ member long).symm

theorem SipMessage.length_lower (message : SipMessage) :
    (joinLines (message.lines.map (List.map Char.toLower))).length =
      (joinLines message.lines).length := by
  rw [← map_joinLines, List.length_map]

theorem SipMessage.plain_lower (message : SipMessage) :
    ∀ line ∈ message.lines.map (List.map Char.toLower), IsLine line := by
  intro line member
  obtain ⟨line, own, rfl⟩ := List.mem_map.mp member
  exact (message.plain_lines line own).1.toLower

/-- The text as a search goes through it, up to the blank line. -/
theorem SipMessage.lower_whole (message : SipMessage) :
    (cString message.text).map Char.toLower =
      joinLines (message.lines.map (List.map Char.toLower) ++ [[]]) ++
        (cString message.body).map Char.toLower := by
  rw [lower_text, joinLines_append, List.append_assoc]
  rfl

theorem SipMessage.apart_whole (message : SipMessage) {key : Text} (member : key ∈ keys)
    (other : key ≠ message.key) :
    ∀ line ∈ (message.lines.map (List.map Char.toLower) ++ [[]]).tail, BeginsNot key line := by
  have front : ∀ line ∈ message.before, BeginsNot key (line.map Char.toLower) :=
    fun line own => message.beginsNot member (List.mem_append_left _ own)
  have behind : ∀ line ∈ message.behind, BeginsNot key (line.map Char.toLower) :=
    fun line own => message.beginsNot member (List.mem_append_right _ own)
  rw [lines_eq, SipMessage.front, List.cons_append, List.map_cons, List.cons_append, List.tail_cons,
    List.map_append, List.map_cons]
  simp only [List.forall_mem_append, List.forall_mem_cons, List.forall_mem_map, List.not_mem_nil,
    IsEmpty.forall_iff, implies_true, and_true]
  exact ⟨⟨front, message.beginsNot_contentLength member other, behind⟩, beginsNot_blank member⟩

/-- The text as a search goes through it, up to the header with the length. -/
theorem SipMessage.lower_front (message : SipMessage) : ∃ rest,
    (cString message.text).map Char.toLower =
      joinLines (message.front.map (List.map Char.toLower)) ++
        (message.contentLength.map Char.toLower ++ rest) := by
  refine ⟨'\r' :: '\n' :: (joinLines (message.behind.map (List.map Char.toLower)) ++
    '\r' :: '\n' :: (cString message.body).map Char.toLower), ?_⟩
  rw [lower_text, lines_eq, List.map_append, List.map_cons, joinLines_append, joinLines_cons]
  simp only [List.append_assoc, List.cons_append]

theorem SipMessage.plain_front (message : SipMessage) :
    ∀ line ∈ message.front.map (List.map Char.toLower), IsLine line := by
  intro line member
  apply message.plain_lower
  rw [lines_eq, List.map_append]
  exact List.mem_append_left _ member

theorem SipMessage.apart_front (message : SipMessage) :
    ∀ line ∈ (message.front.map (List.map Char.toLower)).tail, BeginsNot message.key line := by
  rw [front, List.map_cons, List.tail_cons, List.forall_mem_map]
  exact fun line own => message.beginsNot message.key_mem (List.mem_append_left _ own)

theorem SipMessage.length_front (message : SipMessage) :
    (joinLines (message.front.map (List.map Char.toLower))).length =
      (joinLines message.front).length := by
  rw [← map_joinLines, List.length_map]

theorem SipMessage.length_lines (message : SipMessage) : (joinLines message.lines).length =
    (joinLines message.front).length + message.contentLength.length + 2 +
      (joinLines message.behind).length := by
  rw [lines_eq, joinLines_append, joinLines_cons]
  simp only [List.length_append, List.length_cons]
  omega

variable {needle : Text}

theorem strcasestr_found (shape : needle.map Char.toLower = '\n' :: message.key) :
    osipStrcasestr message.text needle = some ((joinLines message.front).length - 1) := by
  obtain ⟨rest, text⟩ := message.lower_front
  rw [osipStrcasestr, shape, text, ← message.length_front]
  apply strstr_key message.plain_front (List.cons_ne_nil _ _) message.apart_front
  exact message.key_prefix.trans (List.prefix_append ..)

theorem strcasestr_found_crlf (shape : needle.map Char.toLower = '\r' :: '\n' :: message.key) :
    osipStrcasestr message.text needle = some ((joinLines message.front).length - 2) := by
  obtain ⟨rest, text⟩ := message.lower_front
  rw [osipStrcasestr, shape, text, ← message.length_front]
  apply strstr_crlf_key message.plain_front (List.cons_ne_nil _ _) message.apart_front
  exact message.key_prefix.trans (List.prefix_append ..)

variable {key : Text}

theorem length_blank (message : SipMessage) :
    (joinLines (message.lines.map (List.map Char.toLower) ++ [[]])).length =
      (joinLines message.lines).length + 2 := by
  rw [joinLines_append, List.length_append, message.length_lower]
  rfl

theorem plain_blank (message : SipMessage) :
    ∀ line ∈ message.lines.map (List.map Char.toLower) ++ [[]], IsLine line := by
  rw [List.forall_mem_append]
  refine ⟨message.plain_lower, ?_⟩
  intro line member
  rw [List.mem_singleton.mp member]
  exact nofun

theorem strcasestr_missing (member : key ∈ keys) (other : key ≠ message.key)
    (shape : needle.map Char.toLower = '\n' :: key) :
    (osipStrcasestr message.text needle).all (· > (joinLines message.lines).length - 2) := by
  rw [osipStrcasestr, shape, message.lower_whole]
  rw [Option.all_eq_true]
  intro offset found
  have behind := le_of_strstr_key (plain_blank message) (message.apart_whole member other) found
  rw [length_blank] at behind
  exact decide_eq_true (by omega)

theorem strcasestr_missing_crlf (member : key ∈ keys) (other : key ≠ message.key)
    (shape : needle.map Char.toLower = '\r' :: '\n' :: key) :
    (osipStrcasestr message.text needle).all (· > (joinLines message.lines).length - 2) := by
  rw [osipStrcasestr, shape, message.lower_whole]
  rw [Option.all_eq_true]
  intro offset found
  have behind := le_of_strstr_crlf_key (plain_blank message) (message.apart_whole member other) found
  have long := message.length_lines
  rw [length_blank] at behind
  exact decide_eq_true (by omega)

theorem searchAgain_missing {previousContent : Text} {endSip : Nat} {clHeader : Option Nat}
    (missing : clHeader.all (· > endSip)) :
    searchAgain previousContent endSip needle clHeader = osipStrcasestr previousContent needle :=
  if_pos missing

theorem searchAgain_found {previousContent : Text} {endSip offset : Nat} (found : offset ≤ endSip) :
    searchAgain previousContent endSip needle (some offset) = some offset := by
  apply if_neg
  rw [Option.all_some, decide_eq_true_iff]
  exact Nat.not_lt_of_le found

/-- From the line end before its header on, the first colon is the one of the header. -/
theorem colon_found {offset : Nat} (here : offset + 1 = (joinLines message.front).length ∨
    offset + 2 = (joinLines message.front).length) :
    (strstr ((cString message.text).drop offset) [':']).map (offset + ·) =
      some ((joinLines message.front).length + message.name.length + message.blanks) := by
  obtain ⟨ends, free, dropped, offset_eq⟩ : ∃ ends, ':' ∉ ends ∧
      (joinLines message.front).drop offset = ends ∧
        offset + ends.length = (joinLines message.front).length := by
    obtain ⟨start, shape⟩ := joinLines_ends message.front_ne_nil
    rw [shape, List.length_append] at here ⊢
    rcases here with newline | crlf
    · refine ⟨['\n'], by decide, ?_, newline⟩
      have last : offset = start.length + 1 := Nat.succ.inj newline
      rw [last, List.drop_length_add_append]
      rfl
    · refine ⟨['\r', '\n'], by decide, ?_, crlf⟩
      have last : offset = start.length := Nat.add_right_cancel crlf
      rw [last, List.drop_left]
  obtain ⟨rest, text⟩ : ∃ rest, cString message.text = joinLines message.front ++
      (message.name ++ List.replicate message.blanks ' ' ++ ':' :: rest) := by
    refine ⟨message.space ++ message.digits ++ message.trailer ++ '\r' :: '\n' ::
      (joinLines message.behind ++ '\r' :: '\n' :: cString message.body), ?_⟩
    rw [message.cString_text, message.lines_eq, joinLines_append, joinLines_cons,
      SipMessage.contentLength]
    simp only [List.append_assoc, List.cons_append]
  have before : ':' ∉ ends ++ (message.name ++ List.replicate message.blanks ' ') := by
    simp only [List.mem_append, not_or]
    refine ⟨free, message.plain_name.2, ?_⟩
    exact fun member => absurd (List.eq_of_mem_replicate member) (by decide)
  rw [text, List.drop_append_of_le_length (by omega), dropped, ← List.append_assoc,
    strstr_char before, Option.map_some]
  simp only [List.length_append, List.length_replicate]
  congr 1
  omega

theorem SipMessage.two_le_front (message : SipMessage) : 2 ≤ (joinLines message.front).length := by
  obtain ⟨start, ends⟩ := joinLines_ends message.front_ne_nil
  rw [ends, List.length_append]
  exact Nat.le_add_left ..

theorem SipMessage.front_before_end (message : SipMessage) :
    (joinLines message.front).length < (joinLines message.lines).length - 2 := by
  have long := message.length_lines
  have some := List.length_pos_of_ne_nil message.plain_contentLength.2
  omega

/-- The four searches find the header with whichever of the four beginnings it has. -/
theorem searches (message : SipMessage) {endSip : Nat} {first second third fourth : Text}
    {key₁ key₂ key₃ key₄ : Text} (all : keys = [key₁, key₂, key₃, key₄])
    (apart : [key₁, key₂, key₃, key₄].Nodup) (shape₁ : first.map Char.toLower = '\n' :: key₁)
    (shape₂ : second.map Char.toLower = '\n' :: key₂)
    (shape₃ : third.map Char.toLower = '\r' :: '\n' :: key₃)
    (shape₄ : fourth.map Char.toLower = '\r' :: '\n' :: key₄)
    (last : endSip = (joinLines message.lines).length - 2) :
    ∃ offset, (offset + 1 = (joinLines message.front).length ∨
        offset + 2 = (joinLines message.front).length) ∧
      searchAgain message.text endSip fourth (searchAgain message.text endSip third
        (searchAgain message.text endSip second (osipStrcasestr message.text first))) =
          some offset := by
  subst last
  have before := message.front_before_end
  have two := message.two_le_front
  have newline : (joinLines message.front).length - 1 ≤ (joinLines message.lines).length - 2 := by
    omega
  have crlf : (joinLines message.front).length - 2 ≤ (joinLines message.lines).length - 2 := by
    omega
  have own := message.key_mem
  have member₁ : key₁ ∈ keys := all ▸ by simp
  have member₂ : key₂ ∈ keys := all ▸ by simp
  have member₃ : key₃ ∈ keys := all ▸ by simp
  simp only [List.nodup_cons, List.mem_cons, List.not_mem_nil, or_false, not_or] at apart
  obtain ⟨⟨apart₁₂, apart₁₃, apart₁₄⟩, ⟨apart₂₃, apart₂₄⟩, apart₃₄, -⟩ := apart
  rw [all] at own
  simp only [List.mem_cons, List.not_mem_nil, or_false] at own
  rcases own with key | key | key | key
  · refine ⟨(joinLines message.front).length - 1, .inl (by omega), ?_⟩
    rw [strcasestr_found (by rw [shape₁, key]), searchAgain_found newline,
      searchAgain_found newline, searchAgain_found newline]
  · refine ⟨(joinLines message.front).length - 1, .inl (by omega), ?_⟩
    rw [searchAgain_missing (strcasestr_missing member₁ (key ▸ apart₁₂) shape₁),
      strcasestr_found (by rw [shape₂, key]), searchAgain_found newline,
      searchAgain_found newline]
  · refine ⟨(joinLines message.front).length - 2, .inr (by omega), ?_⟩
    rw [searchAgain_missing (strcasestr_missing member₁ (key ▸ apart₁₃) shape₁),
      searchAgain_missing (strcasestr_missing member₂ (key ▸ apart₂₃) shape₂),
      strcasestr_found_crlf (by rw [shape₃, key]), searchAgain_found crlf]
  · refine ⟨(joinLines message.front).length - 2, .inr (by omega), ?_⟩
    rw [searchAgain_missing (strcasestr_missing member₁ (key ▸ apart₁₄) shape₁),
      searchAgain_missing (strcasestr_missing member₂ (key ▸ apart₂₄) shape₂),
      searchAgain_missing (strcasestr_missing_crlf member₃ (key ▸ apart₃₄) shape₃),
      strcasestr_found_crlf (by rw [shape₄, key])]

theorem SipMessage.findClHeader (message : SipMessage) :
    findClHeader message.text ((joinLines message.lines).length - 2) =
      some ((joinLines message.front).length + message.name.length + message.blanks) := by
  have before := message.front_before_end
  have apart : ["content-length ".toList, "content-length:".toList, "l ".toList, "l:".toList].Nodup := by
    decide +kernel
  have first : "\ncontent-length ".toList.map Char.toLower = '\n' :: "content-length ".toList := by
    decide +kernel
  have second : "\ncontent-length:".toList.map Char.toLower = '\n' :: "content-length:".toList := by
    decide +kernel
  have third : "\r\nl ".toList.map Char.toLower = '\r' :: '\n' :: "l ".toList := by decide +kernel
  have fourth : "\r\nl:".toList.map Char.toLower = '\r' :: '\n' :: "l:".toList := by decide +kernel
  obtain ⟨offset, here, found⟩ := searches message rfl apart first second third fourth rfl
  unfold Exosip.findClHeader
  dsimp only
  rw [found, Option.bind_some, if_pos (by omega)]
  exact colon_found here

theorem SipMessage.atoi_behind_colon (message : SipMessage) (small : message.body.length < 2 ^ 31) :
    atoi (cString (message.text.drop
      ((joinLines message.front).length + message.name.length + message.blanks + 1))) =
        message.body.length := by
  have spaced := message.spaced
  rw [List.forall_mem_append] at spaced
  obtain ⟨rest, text⟩ : ∃ rest, message.text = (joinLines message.front ++
      (message.name ++ List.replicate message.blanks ' ' ++ [':'])) ++
        (message.space ++ (message.digits ++ (message.trailer ++ ['\r'])) ++ rest) := by
    refine ⟨'\n' :: (joinLines message.behind ++ crlf ++ message.body), ?_⟩
    rw [SipMessage.text, message.lines_eq, joinLines_append, joinLines_cons,
      SipMessage.contentLength]
    simp only [List.append_assoc, List.cons_append, List.nil_append]
  have place : (joinLines message.front).length + message.name.length + message.blanks + 1 =
      (joinLines message.front ++
        (message.name ++ List.replicate message.blanks ' ' ++ [':'])).length := by
    simp only [List.length_append, List.length_replicate, List.length_singleton]
    omega
  have blank : ∀ char, char = ' ' ∨ char = '\t' → isSpace char ∧ char.isDigit = false ∧ char ≠ '\x00' := by
    rintro char (rfl | rfl) <;> decide
  have free : '\x00' ∉ message.space ++ (message.digits ++ (message.trailer ++ ['\r'])) := by
    simp only [List.mem_append, not_or]
    refine ⟨?_, ?_, ?_, by decide⟩
    · exact fun zero => (blank _ (spaced.1 _ zero)).2.2 rfl
    · exact fun zero => absurd (message.numeral.2 _ zero) (by decide)
    · exact fun zero => (blank _ (spaced.2 _ zero)).2.2 rfl
  have stops : ∀ char ∈ (message.trailer ++ '\r' :: cString rest).head?, char.isDigit = false := by
    cases shape : message.trailer with
    | nil =>
      intro char first
      cases first
      decide
    | cons head trailer =>
      intro char first
      cases first
      exact (blank _ (spaced.2 _ (shape ▸ List.mem_cons_self))).2.1
  have number := message.length
  have read := atoi_digits (fun char member => (blank char (spaced.1 char member)).1)
    message.numeral stops (number ▸ small)
  rw [text, place, List.drop_left, cString_append free, List.append_assoc, List.append_assoc,
    List.append_assoc, List.singleton_append, read, number]

theorem SipMessage.length_text (message : SipMessage) :
    message.text.length = (joinLines message.lines).length + 2 + message.body.length := by
  rw [SipMessage.text, List.length_append, List.length_append]
  rfl

theorem SipMessage.look (message : SipMessage) (small : message.body.length < 2 ^ 31) :
    look message.text = .message message.text.length := by
  have before := message.front_before_end
  have value := message.atoi_behind_colon small
  have named : message.name.length + message.blanks < message.contentLength.length := by
    unfold SipMessage.contentLength
    simp only [List.length_append, List.length_cons, List.length_replicate]
    omega
  have length := message.length_lines
  unfold Exosip.look
  rw [message.findEndSip]
  dsimp only
  rw [message.findClHeader]
  dsimp only
  rw [if_neg (by omega), value, message.length_text]
  rw [if_pos (by omega)]
  congr 1
  omega

theorem SipMessage.reassemble (message : SipMessage) (small : message.body.length < 2 ^ 31) :
    reassemble message.text = (none, [message.text]) := by
  rw [Exosip.reassemble]
  split
  · rename_i looked
    rw [message.look small] at looked
    contradiction
  · rename_i looked
    rw [message.look small] at looked
    contradiction
  · rename_i looked
    rw [message.look small] at looked
    cases looked
    rw [List.take_length, Nat.sub_self, if_pos rfl]

theorem length_osipStrncpy (src : Text) (length : Nat) : (osipStrncpy src length).length = length := by
  have short : ((cString src).take length).length ≤ length := List.length_take_le ..
  unfold osipStrncpy
  dsimp only
  rw [List.length_append, List.length_replicate]
  omega

theorem osipStrncpy_append {front : Text} (free : '\x00' ∉ front) (rest : Text) (length : Nat) :
    osipStrncpy (front ++ rest) (front.length + length) = front ++ osipStrncpy rest length := by
  unfold osipStrncpy
  dsimp only
  rw [cString_append free, List.take_length_add_append, List.length_append, Nat.add_sub_add_left,
    List.append_assoc]

/-- What follows a text does not matter for as much as it has. -/
theorem osipStrncpy_whole (text rest : Text) :
    osipStrncpy (text ++ rest) text.length = osipStrncpy text text.length := by
  by_cases zero : '\x00' ∈ text
  · obtain ⟨front, behind, rfl, free⟩ := List.eq_append_cons_of_mem zero
    have stops : ∀ more, cString (front ++ '\x00' :: more) = front := fun more => by
      rw [cString_append free]
      exact List.append_nil _
    unfold osipStrncpy
    rw [List.append_assoc, List.cons_append, stops, stops]
  · unfold osipStrncpy
    rw [cString_append zero, List.take_left, cString_eq_self zero, List.take_length]

theorem osipStrncpy_eq_iff (text : Text) : osipStrncpy text text.length = text ↔ ZerosLast text := by
  have split : cString text ++ text.drop (cString text).length = text :=
    List.prefix_iff_eq_append.mp (List.takeWhile_prefix _)
  have all : (cString text).take text.length = cString text :=
    List.take_of_length_le (List.takeWhile_prefix _).length_le
  unfold osipStrncpy ZerosLast
  dsimp only
  rw [all, ← List.length_drop]
  constructor
  · intro same char member
    have padding := List.append_cancel_left (same.trans split.symm)
    rw [← padding] at member
    exact List.eq_of_mem_replicate member
  · intro zeros
    rw [← List.eq_replicate_of_mem zeros, split]

theorem SipMessage.length_frame (message : SipMessage) :
    message.frame.length = message.text.length + 7 := by
  unfold SipMessage.frame littleEndian32
  simp only [List.length_append, List.length_cons, List.length_nil]
  omega

/-- The message as it is copied: with blanks of its own behind the first zero of the body. -/
def SipMessage.masked (message : SipMessage) : SipMessage :=
  { message with
    body := osipStrncpy message.body message.body.length
    length := message.length.trans (length_osipStrncpy ..).symm }

theorem SipMessage.text_masked (message : SipMessage) (rest : Text) :
    osipStrncpy (message.text ++ rest) message.text.length = message.masked.text := by
  have plain := zero_not_mem_joinLines (fun line member => (message.plain_lines line member).1)
  have free : '\x00' ∉ joinLines message.lines ++ crlf := by
    rw [List.mem_append, not_or]
    exact ⟨plain, by decide⟩
  unfold SipMessage.text
  rw [List.length_append, List.append_assoc, osipStrncpy_append free, osipStrncpy_whole]
  rfl

theorem SipMessage.masked_eq_iff (message : SipMessage) :
    message.masked.text = message.text ↔ ZerosLast message.body := by
  rw [← osipStrncpy_eq_iff]
  exact List.append_right_inj _

/-- One frame in one chunk is one message, and nothing stays behind. -/
theorem tcpTlReadMessage_frame {message : SipMessage} (stale : Char)
    (short : message.frame.length ≤ sipMessageMaxLength) :
    tcpTlReadMessage stale none message.frame = some (none, [message.masked.text]) := by
  rw [message.length_frame, sipMessageMaxLength] at short
  have long := message.length_text
  have headed : (message.frame ++ ['\x00']).head? = some '\x00' ∧
      (message.frame ++ ['\x00'])[4]?.getD stale = '\x00' := by
    have high : (message.text.length + 1) / 16777216 % 256 = 0 := by omega
    refine ⟨rfl, ?_⟩
    have fourth : (message.frame ++ ['\x00'])[4]?.getD stale =
        Char.ofNat ((message.text.length + 1) / 16777216 % 256) := rfl
    rw [fourth, high]
  have behind : (message.frame ++ ['\x00']).drop 6 = message.text ++ (['#'] ++ ['\x00']) :=
    List.append_assoc ..
  have number : ((message.frame.length : Int) - 7) = message.text.length := by
    rw [message.length_frame]
    omega
  have small : message.masked.body.length < 2 ^ 31 := by
    have same : message.masked.body.length = message.body.length := length_osipStrncpy ..
    omega
  unfold tcpTlReadMessage
  dsimp only
  rw [if_pos headed, if_pos headed, number, if_neg (Int.not_lt.mpr (Int.natCast_nonneg _)), behind,
    Int.toNat_natCast, message.text_masked, Option.getD_none, List.nil_append,
    message.masked.reassemble small]

theorem recv_frame {connection : Connection} {message : SipMessage} (stale : Char)
    (idle : connection.previousContent = none)
    (short : message.frame.length ≤ sipMessageMaxLength) :
    Connection.recv (some connection) (message.frame, stale) =
      some ⟨none, connection.passed ++ [message.masked.text]⟩ := by
  unfold Connection.recv
  dsimp only [Option.bind_eq_bind, Option.bind_some]
  rw [idle, tcpTlReadMessage_frame stale short]
  rfl

/-- Frame by frame, the messages are passed on as they are copied. -/
theorem foldl_recv_frames {connection : Connection} {messages : List SipMessage}
    {chunks : List (Text × Char)} (idle : connection.previousContent = none)
    (whole : FrameByFrame messages chunks)
    (short : ∀ chunk ∈ chunks, chunk.1.length ≤ sipMessageMaxLength) :
    chunks.foldl Connection.recv (some connection) =
      some ⟨none, connection.passed ++ messages.map (fun message => message.masked.text)⟩ := by
  induction chunks generalizing connection messages with
  | nil =>
    rw [FrameByFrame, List.map_nil, eq_comm, List.map_eq_nil_iff] at whole
    subst whole
    rw [List.foldl_nil, List.map_nil, List.append_nil, ← idle]
  | cons chunk chunks ih =>
    cases messages with
    | nil => exact nomatch whole
    | cons message messages =>
      obtain ⟨first, rest⟩ := List.cons.inj whole
      obtain ⟨here, there⟩ := List.forall_mem_cons.mp short
      have chunk_eq : chunk = (message.frame, chunk.2) := Prod.ext first rfl
      rw [List.foldl_cons, chunk_eq, recv_frame chunk.2 idle (first ▸ here), ih rfl rest there,
        List.map_cons, List.append_assoc]
      rfl

theorem passesOn_iff {messages : List SipMessage} {chunks : List (Text × Char)}
    (short : ∀ chunk ∈ chunks, chunk.1.length ≤ sipMessageMaxLength)
    (whole : FrameByFrame messages chunks) :
    PassesOn messages chunks ↔ ∀ message ∈ messages, ZerosLast message.body := by
  have run := @foldl_recv_frames .fresh _ _ rfl whole short
  rw [PassesOn, run]
  constructor
  · rintro ⟨connection, same, passed⟩ message member
    rw [← Option.some.inj same] at passed
    exact message.masked_eq_iff.mp (List.map_inj_left.mp passed message member)
  · intro zeros
    refine ⟨_, rfl, ?_⟩
    apply List.map_inj_left.mpr
    exact fun message member => message.masked_eq_iff.mpr (zeros message member)

/-- Where every `recv` takes exactly one frame, the messages received so far have been passed
on after each of them iff no body has a zero before another character. -/
theorem passesOn_frames_iff {messages : List SipMessage} {chunks : List (Text × Char)}
    (received : Received messages chunks) (whole : FrameByFrame messages chunks) :
    (∀ count, PassesOn (messages.take count) (chunks.take count)) ↔
      ∀ message ∈ messages, ZerosLast message.body := by
  have earlier : ∀ count, FrameByFrame (messages.take count) (chunks.take count) := by
    intro count
    rw [FrameByFrame, List.map_take, List.map_take, whole]
  have short : ∀ count, ∀ chunk ∈ chunks.take count, chunk.1.length ≤ sipMessageMaxLength :=
    fun count chunk member => received.short chunk (List.mem_of_mem_take member)
  constructor
  · intro passes message member
    have all := (passesOn_iff (short messages.length) (earlier messages.length)).mp
      (passes messages.length)
    rw [List.take_length] at all
    exact all message member
  · intro zeros count
    apply (passesOn_iff (short count) (earlier count)).mpr
    exact fun message member => zeros message (List.mem_of_mem_take member)

def plainMessage : SipMessage where
  startLine := "ACK".toList
  before := []
  name := ['l']
  blanks := 0
  space := []
  digits := ['1']
  trailer := []
  behind := []
  body := ['x']
  plain := by
    unfold IsLine
    decide
  others := nofun
  named := by decide
  spaced := by decide
  numeral := by decide
  length := by decide

theorem plainMessage_received :
    Received [plainMessage, plainMessage] [(plainMessage.frame, ' '), (plainMessage.frame, ' ')] := by
  refine ⟨rfl, ?_, ?_⟩ <;> decide

theorem plainMessage_passed :
    PassesOn [plainMessage, plainMessage] [(plainMessage.frame, ' '), (plainMessage.frame, ' ')] := by
  have zeros : ∀ message ∈ [plainMessage, plainMessage], ZerosLast message.body := by
    unfold ZerosLast
    decide
  exact (passesOn_frames_iff plainMessage_received rfl).mpr zeros 2

/-- A head in a chunk of its own has a length below zero without the tail. -/
theorem head_alone :
    Received [plainMessage] [(plainMessage.frame.take 6, ' '), (plainMessage.frame.drop 6, ' ')] ∧
      tcpTlReadMessage ' ' none (plainMessage.frame.take 6) = none ∧
      ¬ PassesOn [plainMessage] [(plainMessage.frame.take 6, ' '), (plainMessage.frame.drop 6, ' ')] := by
  refine ⟨?_, rfl, ?_⟩
  · refine ⟨rfl, ?_, ?_⟩ <;> decide
  · rintro ⟨connection, run, -⟩
    exact nomatch run

end Gb28181.Exosip
