import Gb28181.Osip.Message

namespace Gb28181.Osip

open Gb28181.Lib

variable {Header : Type} {lib : HeaderLib Header} {sip after : OsipMessage Header} {sipfrag : Bool}
  {wire : Wire} {text : Text}

/-- The bytes of a number below 2^32, the lowest first. -/
def littleEndian32 (number : Nat) : Text :=
  [Char.ofNat (number % 256), Char.ofNat (number / 256 % 256), Char.ofNat (number / 65536 % 256),
    Char.ofNat (number / 16777216 % 256)]

def Row.items : Row Header → List Header
  | .simple data => data.toList
  | .list items => items

/-- Every header of the message, each in a line of its own. -/
def headerLines (lib : HeaderLib Header) (sip : OsipMessage Header) : Option Text := do
  let rows ← printAll (fun row => printAll (headerLine lib row.1) row.2.items) sip.table
  let others ← printAll (headerLine lib []) sip.headers
  return rows ++ others

/-- The number stands right-aligned in six columns. -/
def contentLengthLine (size : Nat) : Text :=
  "Content-Length:".toList ++ List.replicate (6 - (decimal size).length) ' ' ++ decimal size

/-- What follows the headers: the length, a blank line and the bodies. -/
def ending (lib : HeaderLib Header) (sip : OsipMessage Header) (sipfrag : Bool) : Option Text :=
  if sipfrag ∧ sip.bodies.isEmpty then some crlf
  else if sip.bodies.isEmpty then some (contentLengthName ++ ['0'] ++ crlf ++ crlf)
  else match bodiesToStr lib sip with
    | .ok bodies => some (contentLengthLine bodies.length ++ crlf ++ crlf ++ bodies)
    | .error _ => none

/-- The SIP text of a message; a `sipfrag` part may lack a start line. -/
def sipText (lib : HeaderLib Header) (sip : OsipMessage Header) (sipfrag : Bool) : Option Text := do
  let start ← match startlineToStr lib sip with
    | some line => some (line ++ crlf)
    | none => if sipfrag then some [] else none
  let headers ← headerLines lib sip
  let ending ← ending lib sip sipfrag
  return start ++ headers ++ ending

/-- The SIP text between the head with its length and the tail. -/
def Framed (lib : HeaderLib Header) (sip : OsipMessage Header) (sipfrag : Bool) (wire : Wire) :
    Prop :=
  ∃ text, sipText lib sip sipfrag = some text ∧
    wire.dest = '\x00' :: littleEndian32 (wire.dest.length - 6) ++ '\x01' :: (text ++ ['#'])

/-- A header that stands alone can be printed. -/
def Row.Renders (lib : HeaderLib Header) : Row Header → Prop
  | .simple data => ∀ header ∈ data, (lib.toStr header).isSome
  | .list _ => True

/-- What the printer takes for granted: a start line, headers that can be printed, a length
of the bodies with six digits at most and one of the frame that is a positive `int`. -/
structure Formattable (lib : HeaderLib Header) (sip : OsipMessage Header) (sipfrag : Bool) :
    Prop where
  startLine : (startlineToStr lib sip).isSome
  headers : ∀ row ∈ sip.table, row.2.Renders lib
  bodies : ∀ bodies, bodiesToStr lib sip = .ok bodies → sip.bodies ≠ [] → bodies.length < 10 ^ 6
  length : ∀ text, sipText lib sip sipfrag = some text → (text.length + 1) % 2 ^ 32 < 2 ^ 31

theorem zero_not_mem_printAll {Item : Type} {print : Item → Option Text} {items : List Item}
    (free : ∀ item ∈ items, ∀ text, print item = some text → '\x00' ∉ text)
    (printed : printAll print items = some text) : '\x00' ∉ text := by
  induction items generalizing text with
  | nil =>
    cases printed
    exact List.not_mem_nil
  | cons item items ih =>
    obtain ⟨first, here, rest⟩ := Option.bind_eq_some_iff.mp printed
    obtain ⟨others, there, same⟩ := Option.bind_eq_some_iff.mp rest
    cases same
    rw [List.mem_append, not_or]
    constructor
    · exact free item List.mem_cons_self first here
    · exact ih (fun item member => free item (List.mem_cons_of_mem _ member)) there

theorem zero_not_mem_headerLine {name : Text} {header : Header} (free : '\x00' ∉ name)
    (printed : headerLine lib name header = some text) : '\x00' ∉ text := by
  obtain ⟨value, -, rfl⟩ := Option.map_eq_some_iff.mp printed
  simp only [List.mem_append, not_or]
  exact ⟨⟨free, zero_not_mem_cString value⟩, by decide⟩

theorem zero_not_mem_tableName {row : Text × Row Header} (member : row ∈ sip.table) :
    '\x00' ∉ row.1 := by
  have names : ∀ name ∈ (OsipMessage.init Unit).table.map Prod.fst, '\x00' ∉ name := by
    decide +kernel
  have same : sip.table.map Prod.fst = (OsipMessage.init Unit).table.map Prod.fst := rfl
  apply names
  rw [← same]
  exact List.mem_map_of_mem member

theorem zero_not_mem_row {row : Text × Row Header} (member : row ∈ sip.table)
    (printed : rowToStr lib row = some text) : '\x00' ∉ text := by
  have free := zero_not_mem_tableName member
  obtain ⟨name, items⟩ := row
  cases items with
  | simple data =>
    cases printed
    cases data with
    | none => exact List.not_mem_nil
    | some header =>
      cases line : headerLine lib name header with
      | none =>
        rw [strcatSimpleHeader, line]
        exact free
      | some text =>
        rw [strcatSimpleHeader, line]
        exact zero_not_mem_headerLine free line
  | list items => exact zero_not_mem_printAll (fun _ _ _ => zero_not_mem_headerLine free) printed

theorem zero_not_mem_headers (printed : headersToStr lib sip = some text) : '\x00' ∉ text := by
  obtain ⟨rows, first, rest⟩ := Option.bind_eq_some_iff.mp printed
  obtain ⟨others, second, same⟩ := Option.bind_eq_some_iff.mp rest
  cases same
  rw [List.mem_append, not_or]
  constructor
  · exact zero_not_mem_printAll (fun _ member _ => zero_not_mem_row member) first
  · exact zero_not_mem_printAll (fun _ _ _ => zero_not_mem_headerLine List.not_mem_nil) second

theorem zero_not_mem_startline (printed : startlineToStr lib sip = some text) : '\x00' ∉ text := by
  have free := zero_not_mem_cString
  unfold startlineToStr at printed
  split at printed
  · obtain ⟨uri, -, rest⟩ := Option.bind_eq_some_iff.mp printed
    obtain ⟨method, -, rest⟩ := Option.bind_eq_some_iff.mp rest
    obtain ⟨rquri, -, same⟩ := Option.bind_eq_some_iff.mp rest
    cases same
    simp only [List.mem_append, not_or]
    exact ⟨⟨⟨⟨⟨free _, by decide⟩, free _⟩, free _⟩, by decide⟩, free _⟩
  · split at printed
    · obtain ⟨reason, -, rest⟩ := Option.bind_eq_some_iff.mp printed
      split at rest
      · exact nomatch rest
      · cases rest
        simp only [List.mem_append, not_or]
        refine ⟨⟨⟨⟨free _, by decide⟩, ?_⟩, by decide⟩, free _⟩
        exact fun member => zero_not_mem_decimal _ (List.mem_of_mem_take member)
    · exact nomatch printed

/-- The start is a line behind the place of the head, or nothing in a `sipfrag` part. -/
theorem startPart_cases (printed : startPart lib sip sipfrag = .ok text) :
    (∃ line, startlineToStr lib sip = some line ∧ text = v3HeadExt ++ line ++ crlf) ∨
      (startlineToStr lib sip = none ∧ sipfrag = true ∧ text = []) := by
  unfold startPart at printed
  cases started : startlineToStr lib sip with
  | none =>
    rw [started] at printed
    cases sipfrag with
    | true =>
      cases printed
      exact .inr ⟨rfl, rfl, rfl⟩
    | false => cases printed
  | some line =>
    rw [started] at printed
    dsimp only at printed
    split at printed
    · cases printed
      exact .inl ⟨line, rfl, rfl⟩
    · cases printed

theorem zero_not_mem_startPart (printed : startPart lib sip sipfrag = .ok text) : '\x00' ∉ text := by
  rcases startPart_cases printed with ⟨line, started, rfl⟩ | ⟨-, -, rfl⟩
  · simp only [List.mem_append, not_or]
    exact ⟨⟨by decide, zero_not_mem_startline started⟩, by decide⟩
  · exact List.not_mem_nil

/-- The length of the bodies, written over five blanks and as much as it needs before them. -/
def contentLengthField (size : Nat) : Text :=
  let number := decimal ((size : Int).bmod (2 ^ 32))
  writeAt (21 - number.length) number (contentLengthName ++ List.replicate 5 ' ')

def writtenEnding (lib : HeaderLib Header) (sip : OsipMessage Header) (sipfrag : Bool) :
    Except Fail Text :=
  if sipfrag ∧ sip.bodies.isEmpty then .ok crlf
  else if sip.bodies.isEmpty then .ok (contentLengthName ++ ['0'] ++ crlf ++ crlf)
  else (bodiesToStr lib sip).map
    (fun bodies => contentLengthField bodies.length ++ crlf ++ crlf ++ bodies)

theorem length_contentLengthName : contentLengthName.length = 16 := by decide +kernel

theorem length_contentLengthField (size : Nat) : (contentLengthField size).length = 21 := by
  have number := length_decimal_bmod size
  unfold contentLengthField
  rw [length_writeAt] <;>
    simp only [List.length_append, length_contentLengthName, List.length_replicate]
  omega

/-- A draft of a text: the text with the tail, its length, and a copy of it. -/
structure Draft.Of (text : Text) (draft : Draft) : Prop where
  dest : draft.dest = text ++ ['#']
  totalLength : draft.totalLength = draft.dest.length
  message : draft.message = draft.dest ++ ['\x00']

theorem osipStrdup_of_zeroless (free : '\x00' ∉ text) : osipStrdup text = text ++ ['\x00'] := by
  rw [osipStrdup, cString_eq_self free]

theorem fragmentDraft_of {message : Text} (free : '\x00' ∉ message) :
    (fragmentDraft message).Of (message ++ crlf) := by
  refine ⟨rfl, rfl, ?_⟩
  apply osipStrdup_of_zeroless
  simp only [List.mem_append, not_or]
  exact ⟨⟨free, by decide⟩, by decide⟩

theorem bodilessDraft_of {message : Text} (free : '\x00' ∉ message) :
    (bodilessDraft message).Of (message ++ (contentLengthName ++ ['0'] ++ crlf ++ crlf)) := by
  have ending : '\x00' ∉ contentLengthName ++ ['0'] ++ crlf ++ crlf ++ ['#'] := by decide +kernel
  refine ⟨?_, ?_, ?_⟩
  · simp only [bodilessDraft, List.append_assoc]
  · simp only [bodilessDraft, List.length_append, List.length_cons, List.length_nil]
  · apply osipStrdup_of_zeroless
    simp only [List.append_assoc, List.mem_append, not_or] at ending ⊢
    exact ⟨free, ending⟩

theorem bodiesDraft_of (message bodies : Text) : (bodiesDraft message bodies).Of
    (message ++ (contentLengthField bodies.length ++ crlf ++ crlf ++ bodies)) := by
  have number := length_decimal_bmod bodies.length
  have written : (bodiesDraft message bodies).dest =
      message ++ (contentLengthField bodies.length ++ crlf ++ crlf ++ bodies) ++ ['#'] := by
    unfold bodiesDraft contentLengthField
    dsimp only
    generalize decimal ((bodies.length : Int).bmod (2 ^ 32)) = size at number ⊢
    have offset : (message ++ contentLengthName).length + 5 - size.length =
        message.length + (21 - size.length) := by
      rw [List.length_append, length_contentLengthName]
      omega
    have shape : message ++ contentLengthName ++ List.replicate 5 ' ' ++ crlf ++ crlf ++ bodies =
        message ++ ((contentLengthName ++ List.replicate 5 ' ') ++ (crlf ++ crlf ++ bodies)) := by
      simp only [List.append_assoc]
    rw [offset, shape, writeAt_append_right, writeAt_append_left]
    · simp only [List.append_assoc]
    · rw [List.length_append, length_contentLengthName, List.length_replicate]
      omega
  refine ⟨written, ?_, rfl⟩
  rw [written]
  simp only [bodiesDraft, List.length_append, length_contentLengthName, length_contentLengthField,
    List.length_replicate, List.length_cons, List.length_nil]
  omega

/-- The draft of a message is one of its start, its headers and its ending. -/
theorem draft_spec {drafted : Draft} (printed : draft lib sip sipfrag = .ok drafted) :
    ∃ start headers ending, startPart lib sip sipfrag = .ok start ∧
      headersToStr lib sip = some headers ∧ writtenEnding lib sip sipfrag = .ok ending ∧
      drafted.Of (start ++ headers ++ ending) := by
  unfold draft at printed
  cases started : startPart lib sip sipfrag with
  | error fail =>
    rw [started] at printed
    exact nomatch printed
  | ok start =>
    rw [started] at printed
    dsimp only [bind, Except.bind] at printed
    cases lines : headersToStr lib sip with
    | none =>
      rw [lines] at printed
      exact nomatch printed
    | some headers =>
      rw [lines] at printed
      have free : '\x00' ∉ start ++ headers := by
        rw [List.mem_append, not_or]
        exact ⟨zero_not_mem_startPart started, zero_not_mem_headers lines⟩
      unfold writtenEnding
      dsimp only at printed
      split at printed
      · rename_i fragment
        cases printed
        rw [if_pos fragment]
        exact ⟨start, headers, _, rfl, rfl, rfl, fragmentDraft_of free⟩
      · rename_i whole
        rw [if_neg whole]
        split at printed
        · rename_i bodiless
          cases printed
          rw [if_pos bodiless]
          exact ⟨start, headers, _, rfl, rfl, rfl, bodilessDraft_of free⟩
        · rename_i embodied
          rw [if_neg embodied]
          cases bodied : bodiesToStr lib sip with
          | error fail =>
            rw [bodied] at printed
            exact nomatch printed
          | ok bodies =>
            rw [bodied] at printed
            have same : bodiesDraft (start ++ headers) bodies = drafted := Except.ok.inj printed
            exact ⟨start, headers, _, rfl, rfl, rfl, same ▸ bodiesDraft_of _ bodies⟩

theorem printAll_iff {Item : Type} {strict lenient : Item → Option Text} {allows : Item → Prop}
    {items : List Item}
    (each : ∀ item text, strict item = some text ↔ allows item ∧ lenient item = some text) :
    printAll strict items = some text ↔
      (∀ item ∈ items, allows item) ∧ printAll lenient items = some text := by
  induction items generalizing text with
  | nil => simp [printAll]
  | cons item items ih =>
    simp only [printAll, Option.bind_eq_bind, Option.bind_eq_some_iff, each, ih,
      List.forall_mem_cons]
    constructor
    · rintro ⟨first, ⟨here, one⟩, rest, ⟨there, others⟩, same⟩
      exact ⟨⟨here, there⟩, first, one, rest, others, same⟩
    · rintro ⟨⟨here, there⟩, first, one, rest, others, same⟩
      exact ⟨first, ⟨here, one⟩, rest, ⟨there, others⟩, same⟩

/-- A row is printed in full where its header can be printed. -/
theorem row_iff (row : Text × Row Header) (text : Text) :
    printAll (headerLine lib row.1) row.2.items = some text ↔
      row.2.Renders lib ∧ rowToStr lib row = some text := by
  obtain ⟨name, items⟩ := row
  cases items with
  | list items => exact (iff_of_eq (true_and _)).symm
  | simple data =>
    cases data with
    | none => simp [Row.items, Row.Renders, rowToStr, strcatSimpleHeader, printAll]
    | some header =>
      cases shown : lib.toStr header with
      | none =>
        simp [Row.items, Row.Renders, printAll, headerLine, shown]
      | some value =>
        simp [Row.items, Row.Renders, rowToStr, strcatSimpleHeader, printAll, headerLine, shown]

theorem headerLines_iff : headerLines lib sip = some text ↔
    (∀ row ∈ sip.table, row.2.Renders lib) ∧ headersToStr lib sip = some text := by
  unfold headerLines headersToStr
  generalize sip.table = table
  constructor
  · intro printed
    obtain ⟨rows, first, rest⟩ := Option.bind_eq_some_iff.mp printed
    obtain ⟨renders, first⟩ := (printAll_iff row_iff).mp first
    exact ⟨renders, Option.bind_eq_some_iff.mpr ⟨rows, first, rest⟩⟩
  · rintro ⟨renders, printed⟩
    obtain ⟨rows, first, rest⟩ := Option.bind_eq_some_iff.mp printed
    exact Option.bind_eq_some_iff.mpr ⟨rows, (printAll_iff row_iff).mpr ⟨renders, first⟩, rest⟩

theorem length_contentLength : "Content-Length:".toList.length = 15 := by decide +kernel

theorem blanks_of_contentLengthName : contentLengthName ++ List.replicate 5 ' ' =
    "Content-Length:".toList ++ List.replicate 6 ' ' := by decide +kernel

theorem length_contentLengthLine (size : Nat) :
    (contentLengthLine size).length = 15 + max 6 (decimal size).length := by
  unfold contentLengthLine
  rw [List.length_append, List.length_append, length_contentLength, List.length_replicate]
  generalize (decimal (size : Int)).length = digits
  omega

theorem writeAt_blanks {name number : Text} (digits : number.length ≤ 6) :
    writeAt (name.length + 6 - number.length) number (name ++ List.replicate 6 ' ') =
      name ++ List.replicate (6 - number.length) ' ' ++ number := by
  rw [Nat.add_sub_assoc digits, writeAt_append_right, List.append_assoc]
  congr 1
  unfold writeAt
  rw [List.take_replicate, List.drop_replicate, Nat.min_eq_left (Nat.sub_le ..),
    Nat.sub_add_cancel digits, Nat.sub_self, List.replicate_zero, List.append_nil]

/-- A length of six digits at most goes into its field. -/
theorem contentLengthField_eq {size : Nat} (small : size < 10 ^ 6) :
    contentLengthField size = contentLengthLine size := by
  have digits := (length_decimal_le_iff size 6 (by decide)).mpr small
  have same : (size : Int).bmod (2 ^ 32) = size := by
    apply Int.bmod_eq_of_le <;> omega
  have field := @writeAt_blanks "Content-Length:".toList _ digits
  rw [length_contentLength] at field
  unfold contentLengthField contentLengthLine
  rw [same, blanks_of_contentLengthName]
  exact field

/-- What is written is no longer than what should be, and the same unless a length needs
more than six digits. -/
theorem ending_spec {written : Text} (printed : writtenEnding lib sip sipfrag = .ok written) :
    ∃ right, ending lib sip sipfrag = some right ∧ written.length ≤ right.length ∧
      (right.length = written.length ↔
        ∀ bodies, bodiesToStr lib sip = .ok bodies → sip.bodies ≠ [] → bodies.length < 10 ^ 6) ∧
      (right.length = written.length → written = right) := by
  unfold writtenEnding at printed
  unfold ending
  split at printed
  · rename_i fragment
    cases printed
    have bodiless : sip.bodies = [] := List.isEmpty_iff.mp fragment.2
    rw [if_pos fragment]
    exact ⟨crlf, rfl, le_rfl, iff_of_true rfl (fun _ _ some => absurd bodiless some), fun _ => rfl⟩
  · rename_i whole
    rw [if_neg whole]
    split at printed
    · rename_i empty
      cases printed
      have bodiless : sip.bodies = [] := List.isEmpty_iff.mp empty
      rw [if_pos empty]
      exact ⟨_, rfl, le_rfl, iff_of_true rfl (fun _ _ some => absurd bodiless some), fun _ => rfl⟩
    · rename_i embodied
      rw [if_neg embodied]
      cases bodied : bodiesToStr lib sip with
      | error fail =>
        rw [bodied] at printed
        exact nomatch printed
      | ok bodies =>
        rw [bodied] at printed
        have same := Except.ok.inj printed
        subst same
        have columns := length_decimal_le_iff bodies.length 6 (by decide)
        have lengths : (contentLengthLine bodies.length ++ crlf ++ crlf ++ bodies).length =
            (contentLengthField bodies.length ++ crlf ++ crlf ++ bodies).length ↔
              bodies.length < 10 ^ 6 := by
          rw [← columns]
          simp only [List.length_append, length_contentLengthLine, length_contentLengthField]
          omega
        refine ⟨_, rfl, ?_, ?_, ?_⟩
        · simp only [List.length_append, length_contentLengthLine, length_contentLengthField]
          omega
        · rw [lengths]
          constructor
          · intro small others here _
            cases here
            exact small
          · intro small
            exact small bodies rfl (fun none => embodied (List.isEmpty_iff.mpr none))
        · intro equal
          dsimp only
          rw [contentLengthField_eq (lengths.mp equal)]

theorem eachPartLen_succ (parts number : Nat) : eachPartLen (parts + 1) number =
    Char.ofNat (number % 256) :: eachPartLen parts ((number / 256 : Nat) : Int) := by
  rw [eachPartLen]
  split
  · congr 1
  · rename_i none
    have zero : number = 0 := by omega
    subst zero
    rfl

theorem eachPartLen_four (number : Nat) : eachPartLen 4 number = littleEndian32 number := by
  rw [eachPartLen_succ, eachPartLen_succ, eachPartLen_succ, eachPartLen_succ, eachPartLen,
    Nat.div_div_eq_div_mul, Nat.div_div_eq_div_mul]
  rfl

theorem eachPartLen_neg {parts : Nat} {number : Int} (negative : number < 0) :
    eachPartLen parts number = List.replicate parts '\x00' := by
  induction parts with
  | zero => rfl
  | succ parts ih =>
    rw [eachPartLen, if_neg (by omega), ih]
    rfl

theorem littleEndian32_mod (number : Nat) :
    littleEndian32 (number % 2 ^ 32) = littleEndian32 number := by
  have first : number % 2 ^ 32 % 256 = number % 256 := by omega
  have second : number % 2 ^ 32 / 256 % 256 = number / 256 % 256 := by omega
  have third : number % 2 ^ 32 / 65536 % 256 = number / 65536 % 256 := by omega
  have fourth : number % 2 ^ 32 / 16777216 % 256 = number / 16777216 % 256 := by omega
  rw [littleEndian32, first, second, third, fourth]
  rfl

/-- The head carries the length of what follows it where that is a positive `int`. -/
theorem v3FrameHead_iff (length : Nat) :
    v3FrameHead (6 + length) = '\x00' :: littleEndian32 length ++ ['\x01'] ↔
      length % 2 ^ 32 < 2 ^ 31 := by
  have shift : (((6 + length : Nat) : Int) - 6) = length := by omega
  unfold v3FrameHead
  rw [shift]
  by_cases small : length % 2 ^ 32 < 2 ^ 31
  · have positive : (length : Int).bmod (2 ^ 32) = ((length % 2 ^ 32 : Nat) : Int) := by
      rw [Int.bmod_eq_emod_of_lt] <;> omega
    rw [positive, eachPartLen_four, littleEndian32_mod]
    exact iff_of_true rfl small
  · have negative : (length : Int).bmod (2 ^ 32) < 0 := by
      rw [Int.bmod_def]
      omega
    rw [eachPartLen_neg negative]
    apply iff_of_false _ small
    intro same
    have high : ∀ byte < 256, 128 ≤ byte → '\x00' ≠ Char.ofNat byte := by decide +kernel
    have last := congrArg (fun head : Text => head[4]?) same
    simp only [List.replicate, littleEndian32, List.cons_append, List.nil_append,
      List.getElem?_cons_succ, List.getElem?_cons_zero, Option.some.injEq] at last
    exact high _ (Nat.mod_lt _ (by decide)) (by omega) last

theorem length_eachPartLen (parts : Nat) (number : Int) :
    (eachPartLen parts number).length = parts := by
  induction parts generalizing number with
  | zero => rfl
  | succ parts ih =>
    rw [eachPartLen]
    split <;> rw [List.length_cons, ih]

theorem length_v3FrameHead (totalLength : Nat) : (v3FrameHead totalLength).length = 6 := by
  unfold v3FrameHead
  rw [List.cons_append, List.length_cons, List.length_append, length_eachPartLen]
  rfl

/-- A message that is not there from an earlier call comes from its draft. -/
theorem osipMessageToStr_spec (uncached : sip.messageProperty ≠ 1)
    (printed : osipMessageToStr lib sip sipfrag = .ok (wire, after)) :
    ∃ drafted, draft lib sip sipfrag = .ok drafted ∧ 6 ≤ drafted.message.length ∧
      wire = ⟨(v3FrameHead drafted.totalLength ++ drafted.dest.drop 6).take drafted.totalLength,
        drafted.totalLength⟩ ∧
      after = { sip with
        messageProperty := 1
        message := some (v3FrameHead drafted.totalLength ++ drafted.message.drop 6)
        messageLength := drafted.totalLength } := by
  unfold osipMessageToStr at printed
  rw [if_neg uncached] at printed
  cases drawn : draft lib sip sipfrag with
  | error fail =>
    rw [drawn] at printed
    exact nomatch printed
  | ok drafted =>
    rw [drawn] at printed
    dsimp only [bind, Except.bind] at printed
    split at printed
    · exact nomatch printed
    · rename_i long
      have same := Prod.mk.inj (Except.ok.inj printed)
      exact ⟨drafted, rfl, Nat.le_of_not_lt long, same.1.symm, same.2.symm⟩

/-- The head goes over the first six bytes, whatever they are. -/
theorem take_behind_head {head buffer : Text} (six : head.length = 6) (size : Nat) :
    (head ++ buffer.drop 6).take size = head.take size ++ (buffer.take size).drop 6 := by
  rw [List.take_append, six, List.drop_take]

theorem take_copy {head dest message : Text} (six : head.length = 6)
    (copy : message = dest ++ ['\x00']) :
    (head ++ message.drop 6).take dest.length = (head ++ dest.drop 6).take dest.length := by
  rw [take_behind_head six, take_behind_head six, copy, List.take_left, List.take_length]

theorem osipMessageToStr_again (uncached : sip.messageProperty ≠ 1)
    (printed : osipMessageToStr lib sip sipfrag = .ok (wire, after)) (again : Bool) :
    osipMessageToStr lib after again = .ok (wire, after) := by
  obtain ⟨drafted, drawn, -, rfl, rfl⟩ := osipMessageToStr_spec uncached printed
  obtain ⟨start, headers, ending, -, -, -, of⟩ := draft_spec drawn
  have six := length_v3FrameHead drafted.totalLength
  have fits : drafted.totalLength ≤
      (v3FrameHead drafted.totalLength ++ drafted.message.drop 6).length := by
    rw [List.length_append, six, of.message, of.totalLength, List.length_drop, List.length_append]
    omega
  have kept := take_copy six of.message
  rw [← of.totalLength] at kept
  unfold osipMessageToStr
  rw [if_pos rfl]
  dsimp only
  rw [if_pos fits, kept]

theorem messageLength_eq (uncached : sip.messageProperty ≠ 1)
    (printed : osipMessageToStr lib sip sipfrag = .ok (wire, after)) :
    wire.messageLength = wire.dest.length := by
  obtain ⟨drafted, drawn, -, rfl, -⟩ := osipMessageToStr_spec uncached printed
  obtain ⟨start, headers, ending, -, -, -, of⟩ := draft_spec drawn
  have six := length_v3FrameHead drafted.totalLength
  have all : drafted.totalLength ≤
      (v3FrameHead drafted.totalLength ++ drafted.dest.drop 6).length := by
    rw [List.length_append, six, of.totalLength, List.length_drop]
    omega
  exact (List.length_take_of_le all).symm

theorem wire_of_line {line : Text} (uncached : sip.messageProperty ≠ 1)
    (printed : osipMessageToStr lib sip sipfrag = .ok (wire, after))
    (started : startlineToStr lib sip = some line) :
    ∃ headers ending, headersToStr lib sip = some headers ∧
      writtenEnding lib sip sipfrag = .ok ending ∧
      wire.dest = v3FrameHead (6 + ((line ++ crlf ++ headers ++ ending).length + 1)) ++
        (line ++ crlf ++ headers ++ ending) ++ ['#'] := by
  obtain ⟨drafted, drawn, -, rfl, -⟩ := osipMessageToStr_spec uncached printed
  obtain ⟨start, headers, ending, begun, shown, ended, of⟩ := draft_spec drawn
  rcases startPart_cases begun with ⟨line', started', rfl⟩ | ⟨none, -, -⟩
  · obtain rfl : line = line' := Option.some.inj (started.symm.trans started')
    refine ⟨headers, ending, shown, ended, ?_⟩
    have dest : drafted.dest = v3HeadExt ++ ((line ++ crlf ++ headers ++ ending) ++ ['#']) := by
      rw [of.dest]
      simp only [List.append_assoc]
    have total : drafted.totalLength = 6 + ((line ++ crlf ++ headers ++ ending).length + 1) := by
      rw [of.totalLength, dest, List.length_append, List.length_append]
      rfl
    have six := length_v3FrameHead drafted.totalLength
    have behind : drafted.dest.drop 6 = (line ++ crlf ++ headers ++ ending) ++ ['#'] := by
      rw [dest]
      exact List.drop_left' rfl
    have all : (v3FrameHead drafted.totalLength ++ drafted.dest.drop 6).length ≤
        drafted.totalLength := by
      rw [behind, List.length_append, six, List.length_append]
      exact total.ge
    dsimp only
    rw [List.take_of_length_le all, behind, ← total]
    simp only [List.append_assoc]
  · rw [started] at none
    cases none

theorem wire_of_no_line (uncached : sip.messageProperty ≠ 1)
    (printed : osipMessageToStr lib sip sipfrag = .ok (wire, after))
    (started : startlineToStr lib sip = none) :
    ∃ headers ending, headersToStr lib sip = some headers ∧
      writtenEnding lib sip sipfrag = .ok ending ∧
      wire.dest.length = (headers ++ ending).length + 1 := by
  have measured := messageLength_eq uncached printed
  obtain ⟨drafted, drawn, -, rfl, -⟩ := osipMessageToStr_spec uncached printed
  obtain ⟨start, headers, ending, begun, shown, ended, of⟩ := draft_spec drawn
  rcases startPart_cases begun with ⟨line, started', -⟩ | ⟨-, -, rfl⟩
  · rw [started] at started'
    cases started'
  · refine ⟨headers, ending, shown, ended, ?_⟩
    rw [← measured]
    dsimp only
    rw [of.totalLength, of.dest, List.length_append]
    rfl

theorem sipText_of_line {line headers right : Text} (started : startlineToStr lib sip = some line)
    (shown : headerLines lib sip = some headers) (ended : ending lib sip sipfrag = some right) :
    sipText lib sip sipfrag = some (line ++ crlf ++ headers ++ right) := by
  unfold sipText
  rw [started, shown, ended]
  rfl

theorem sipText_inv {line : Text} (started : startlineToStr lib sip = some line)
    (formed : sipText lib sip sipfrag = some text) :
    ∃ headers right, headerLines lib sip = some headers ∧ ending lib sip sipfrag = some right ∧
      text = line ++ crlf ++ headers ++ right := by
  unfold sipText at formed
  rw [started] at formed
  obtain ⟨start, begun, rest⟩ := Option.bind_eq_some_iff.mp formed
  cases begun
  obtain ⟨headers, shown, rest⟩ := Option.bind_eq_some_iff.mp rest
  obtain ⟨right, ended, same⟩ := Option.bind_eq_some_iff.mp rest
  exact ⟨headers, right, shown, ended, (Option.some.inj same).symm⟩

theorem framed_length (framed : Framed lib sip sipfrag wire) :
    ∃ text, sipText lib sip sipfrag = some text ∧ wire.dest.length = text.length + 7 := by
  obtain ⟨text, formed, same⟩ := framed
  refine ⟨text, formed, ?_⟩
  have long := congrArg List.length same
  simp only [littleEndian32, List.length_append, List.length_cons, List.length_nil] at long
  omega

/-- Without a start line there is no room for the head. -/
theorem not_framed_of_no_line (uncached : sip.messageProperty ≠ 1)
    (printed : osipMessageToStr lib sip sipfrag = .ok (wire, after))
    (started : startlineToStr lib sip = none) : ¬ Framed lib sip sipfrag wire := by
  intro framed
  obtain ⟨headers, written, shown, ended, measured⟩ := wire_of_no_line uncached printed started
  obtain ⟨text, formed, long⟩ := framed_length framed
  obtain ⟨right, stands, noLonger, -⟩ := ending_spec ended
  unfold sipText at formed
  rw [started] at formed
  cases sipfrag with
  | false => exact nomatch formed
  | true =>
    obtain ⟨others, listed, rest⟩ := Option.bind_eq_some_iff.mp formed
    obtain ⟨last, closed, same⟩ := Option.bind_eq_some_iff.mp rest
    rw [(headerLines_iff.mp listed).2] at shown
    rw [stands] at closed
    cases shown
    cases closed
    cases same
    simp only [List.length_append, List.length_nil] at measured long
    omega

/-- With a start line the frame is right where the length of the bodies goes into its field
and the length of the frame into the head. -/
theorem framed_iff_of_line {line : Text} (uncached : sip.messageProperty ≠ 1)
    (printed : osipMessageToStr lib sip sipfrag = .ok (wire, after))
    (started : startlineToStr lib sip = some line) :
    Framed lib sip sipfrag wire ↔ Formattable lib sip sipfrag := by
  obtain ⟨headers, written, shown, ended, dest⟩ := wire_of_line uncached printed started
  obtain ⟨right, stands, noLonger, fits, same⟩ := ending_spec ended
  have long : wire.dest.length = (line ++ crlf ++ headers ++ written).length + 7 := by
    rw [dest, List.length_append, List.length_append, length_v3FrameHead]
    simp only [List.length_cons, List.length_nil]
    omega
  have length : wire.dest.length - 6 = (line ++ crlf ++ headers ++ written).length + 1 := by omega
  constructor
  · intro framed
    obtain ⟨text, formed, measured⟩ := framed_length framed
    obtain ⟨others, last, listed, closed, rfl⟩ := sipText_inv started formed
    obtain ⟨renders, whole⟩ := headerLines_iff.mp listed
    rw [whole] at shown
    rw [stands] at closed
    cases shown
    cases closed
    have equal : right.length = written.length := by
      simp only [List.length_append] at long measured
      omega
    have bodies := same equal
    subst bodies
    refine ⟨Option.isSome_of_eq_some started, renders, fits.mp equal, ?_⟩
    intro text again
    rw [formed] at again
    cases again
    apply (v3FrameHead_iff _).mp
    obtain ⟨text, again, framed⟩ := framed
    rw [formed] at again
    cases again
    rw [length, dest, List.append_assoc] at framed
    apply List.append_cancel_right
    rw [framed, List.append_assoc]
    rfl
  · intro formattable
    have listed := headerLines_iff.mpr ⟨formattable.headers, shown⟩
    have equal := same (fits.mpr formattable.bodies)
    subst equal
    have formed := sipText_of_line started listed stands
    refine ⟨_, formed, ?_⟩
    rw [length, dest, (v3FrameHead_iff _).mpr (formattable.length _ formed)]
    simp only [List.cons_append, List.append_assoc, List.nil_append]

/-- A message that is written for the first time stands in a V3 frame, and is given out again
by every later call, iff it is formattable. -/
theorem frame_format_iff (uncached : sip.messageProperty ≠ 1)
    (printed : osipMessageToStr lib sip sipfrag = .ok (wire, after)) :
    (Framed lib sip sipfrag wire ∧ wire.messageLength = wire.dest.length ∧
      ∀ again, osipMessageToStr lib after again = .ok (wire, after)) ↔
        Formattable lib sip sipfrag := by
  have length := messageLength_eq uncached printed
  have again := osipMessageToStr_again uncached printed
  rw [and_iff_left ⟨length, again⟩]
  cases started : startlineToStr lib sip with
  | some line => exact framed_iff_of_line uncached printed started
  | none =>
    apply iff_of_false (not_framed_of_no_line uncached printed started)
    intro formattable
    have line := formattable.startLine
    rw [started] at line
    exact nomatch line

def plainLib : HeaderLib Text where
  toStr := some
  clone := some
  type := fun _ => none
  boundary := fun _ => none

def plainRequest : OsipMessage Text :=
  { OsipMessage.init Text with
    sipMethod := some "ACK".toList
    reqUri := some "sip:a".toList
    callId := some "12".toList
    bodies := [⟨"v=0".toList, none, []⟩] }

theorem plainLib_renders (row : Row Text) : row.Renders plainLib := by
  cases row with
  | simple data => exact fun _ _ => rfl
  | list items => trivial

theorem plainRequest_formattable : Formattable plainLib plainRequest false where
  startLine := rfl
  headers := fun row _ => plainLib_renders row.2
  bodies := by
    intro bodies written _
    cases written
    decide
  length := by
    intro text formed
    cases formed
    decide +kernel

theorem plainRequest_framed : ∃ wire after,
    osipMessageToStr plainLib plainRequest false = .ok (wire, after) ∧
      Framed plainLib plainRequest false wire ∧ wire.messageLength = wire.dest.length ∧
        ∀ again, osipMessageToStr plainLib after again = .ok (wire, after) := by
  refine ⟨_, _, rfl, ?_⟩
  exact (frame_format_iff (by decide) rfl).mpr plainRequest_formattable

/-- A part without a start line: the head goes over the name of its first header. -/
def plainFragment : OsipMessage Text :=
  { OsipMessage.init Text with callId := some "12".toList }

theorem plainFragment_unframed : ∃ after,
    osipMessageToStr plainLib plainFragment true =
      .ok (⟨['\x00', '\n', '\x00', '\x00', '\x00', '\x01'] ++ "D: 12\r\n\r\n#".toList, 16⟩, after) ∧
    plainFragment.messageProperty ≠ 1 ∧
    ¬ Framed plainLib plainFragment true
      ⟨['\x00', '\n', '\x00', '\x00', '\x00', '\x01'] ++ "D: 12\r\n\r\n#".toList, 16⟩ := by
  refine ⟨_, rfl, by decide, ?_⟩
  apply not_framed_of_no_line (by decide) rfl
  rfl

end Gb28181.Osip
