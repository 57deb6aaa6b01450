import Gb28181.Osip.HeadFields

/-! The bodies of a multipart message: `osip_body.c` and `msg_osip_body_parse`. -/

namespace Gb28181.Osip

open Gb28181.Lib

/-- `__osip_find_next_occurence`: a zero in front of the text is passed over, if the buffer has
something `left` behind it. -/
def findNextOccurence (str : Text) : Nat → Text → Nat → Option Nat
  | 0, _, _ => none
  | tries + 1, buf, left =>
    match strstr (cString buf) str with
    | some offset => some offset
    | none =>
      let strlen := (cString buf).length
      if strlen < left then
        (findNextOccurence str tries (buf.drop (strlen + 1)) (left - (strlen + 1))).map
          (strlen + 1 + ·)
      else none

def contentTypeName : Text := "content-type".toList

section Bodies

variable {Header : Type} (lib : ParserLib Header)

/-- `osip_body_set_contenttype` and `osip_body_set_header`. -/
def ParserLib.osipBodySetHeader (hname hvalue : Text) (body : OsipBody Header) :
    Option (OsipBody Header) :=
  if strncmpEq (osipTolower hname) contentTypeName 12 then
    (lib.parse .contentType hvalue).map fun contentType =>
      { body with contentType := some contentType }
  else some { body with headers := body.headers ++ [lib.header hname (some hvalue)] }

/-- `osip_body_parse_header`, in a C string: the headers, and what follows their last line. -/
def ParserLib.osipBodyParseHeader :
    Nat → Text → OsipBody Header → Option (OsipBody Header × Text)
  | 0, _, _ => none
  | fuel + 1, startOfLine, body =>
    match strchr startOfLine ':' 0 with
    | none => none
    | some colonIndex =>
      if colonIndex + 1 < 2 then none
      else match findNextCrlf startOfLine with
        | .behind endOfLine =>
          if endOfLine < colonIndex + 4 then none
          else
            match lib.osipBodySetHeader (osipClrspace (startOfLine.take colonIndex))
              (osipClrspace
                ((startOfLine.drop (colonIndex + 1)).take (endOfLine - 2 - colonIndex - 1)))
              body with
            | none => none
            | some body =>
              let nextLine := startOfLine.drop endOfLine
              if nextLine.head?.any isLineEnd then some (body, nextLine)
              else ParserLib.osipBodyParseHeader fuel nextLine body
        | _ => none

/-- `osip_body_parse_mime`. -/
def ParserLib.osipBodyParseMime (startOfBody : Text) : Option (OsipBody Header) := do
  let text := cString startOfBody
  let (body, blankLine) ← lib.osipBodyParseHeader (text.length + 1) text ⟨[], none, []⟩
  let skip ← firstCrlf blankLine
  let start := text.length - blankLine.length + skip
  if startOfBody.length ≤ start then none
  else some { body with body := startOfBody.drop start }

/-- `osip_message_set_body_mime`. -/
def ParserLib.osipMessageSetBodyMime (buf : Text) (sip : OsipMessage Header) :
    Option (OsipMessage Header) :=
  (lib.osipBodyParseMime buf).map fun body => { sip with bodies := sip.bodies ++ [body] }.touch

def sepBoundary (gvalue : Text) : Text :=
  "\n--".toList ++
    if gvalue.head? = some '"' ∧ gvalue.getLast? = some '"' then gvalue.tail.dropLast else gvalue

/-- The loop of `msg_osip_body_parse`, with `startOfBody` as an offset in the buffer. A part that
ends before it begins is copied with a length below zero. -/
def ParserLib.bodiesLoop (sepBoundary startOfBuf : Text) (length : Nat) :
    Nat → Nat → OsipMessage Header → Except Fail (OsipMessage Header)
  | 0, _, _ => .error .error
  | fuel + 1, startOfBody, sip =>
    match findNextOccurence sepBoundary 1000 (startOfBuf.drop startOfBody)
      (length - startOfBody) with
    | none => .error .error
    | some first =>
      let behind := startOfBody + first + sepBoundary.length
      match findNextOccurence sepBoundary 1000 (startOfBuf.drop behind) (length - behind) with
      | none => .error .error
      | some second =>
        let endOfBody := behind + second
        let startOfBody :=
          if (startOfBuf[behind + 1]?).any isLineEnd then behind + 2 else behind + 1
        let cut := if startOfBuf[endOfBody - 1]? = some '\r' then 1 else 0
        if endOfBody < startOfBody + cut then .error .fault
        else
          match lib.osipMessageSetBodyMime
            ((startOfBuf.drop startOfBody).take (endOfBody - cut - startOfBody)) sip with
          | none => .error .error
          | some sip =>
            if strncmpEq (startOfBuf.drop (endOfBody + sepBoundary.length)) "--".toList 2 then
              .ok sip
            else ParserLib.bodiesLoop sepBoundary startOfBuf length fuel endOfBody sip

/-- `msg_osip_body_parse`, for a multipart. -/
def ParserLib.parseMultipart (sip : OsipMessage Header) (startOfBuf : Text) (length : Nat) :
    Except Fail (OsipMessage Header) :=
  match sip.contentType.bind lib.boundary with
  | none => .error .error
  | some gvalue =>
    lib.bodiesLoop (sepBoundary gvalue) startOfBuf length (startOfBuf.length + 1) 0 sip

end Bodies

variable {Header : Type} (lib : ParserLib Header) {body : OsipBody Header}
  {str front line rest : Text} {lines : List Text}

/-- Nothing of a text stands in front of where it is looked for. -/
def FirstThere (str front : Text) : Prop :=
  ∀ offset, offset < front.length → ¬ Occurs (front ++ str) str offset

theorem FirstThere.apart (first : FirstThere str front) {offset : Nat}
    (before : offset < front.length) :
    ¬ Occurs (front ++ (str ++ rest)) str offset := by
  intro occurs
  refine first offset before ?_
  have whole : (front ++ (str ++ rest)).drop offset = (front ++ str).drop offset ++ rest := by
    rw [← List.append_assoc, List.drop_append_of_le_length]
    rw [List.length_append]
    omega
  rw [Occurs, whole] at occurs
  refine List.prefix_of_prefix_length_le occurs (List.prefix_append ..) ?_
  rw [List.length_drop, List.length_append]
  omega

/-- Up to a zero there is nothing to be found, and behind it everything. -/
theorem FirstThere.behind_zero {before behind : Text} (some : str ≠ [])
    (first : FirstThere str (before ++ '\x00' :: behind)) :
    strstr before str = none ∧ FirstThere str behind := by
  constructor
  · refine strstr_eq_none fun offset occurs => ?_
    have inside : offset < before.length := by
      by_contra beyond
      rw [Occurs, List.drop_of_length_le (Nat.le_of_not_lt beyond)] at occurs
      exact some (List.prefix_nil.mp occurs)
    refine first offset (by rw [List.length_append]; omega) ?_
    rw [Occurs, List.append_assoc, List.drop_append_of_le_length inside.le]
    exact occurs.trans (List.prefix_append ..)
  · intro offset inside occurs
    refine first (before.length + 1 + offset) (by simp; omega) ?_
    rw [← occurs_drop, List.append_assoc, List.cons_append, drop_behind]
    exact occurs

/-- What is looked for is found, if there are few zeros in front of it. -/
theorem findNextOccurence_spec {tries left : Nat} (some : str ≠ []) (zeroless : '\x00' ∉ str)
    (first : FirstThere str front) (few : front.count '\x00' < tries)
    (enough : front.length < left) :
    findNextOccurence str tries (front ++ (str ++ rest)) left = .some front.length := by
  induction tries generalizing front left with
  | zero => exact absurd few (Nat.not_lt_zero _)
  | succ tries ih =>
    unfold findNextOccurence
    by_cases zero : '\x00' ∈ front
    · obtain ⟨before, behind, rfl, free⟩ := List.eq_append_cons_of_mem zero
      obtain ⟨missing, first⟩ := first.behind_zero some
      have stops : cString (before ++ '\x00' :: behind ++ (str ++ rest)) = before := by
        rw [List.append_assoc, List.cons_append, cString_append free]
        exact List.append_nil before
      have size : (before ++ '\x00' :: behind).length = before.length + 1 + behind.length := by
        simp
        omega
      have count : (before ++ '\x00' :: behind).count '\x00' = behind.count '\x00' + 1 := by
        rw [List.count_append, List.count_eq_zero.mpr free, List.count_cons_self, Nat.zero_add]
      have next : (before ++ '\x00' :: behind ++ (str ++ rest)).drop (before.length + 1) =
          behind ++ (str ++ rest) := by rw [List.append_assoc, List.cons_append, drop_behind]
      have further : before.length < left := by omega
      rw [stops, missing]
      dsimp only
      rw [if_pos further, next, ih first (by omega) (by omega), size]
      rfl
    · have found : strstr (cString (front ++ (str ++ rest))) str = .some front.length := by
        rw [cString_append zero, cString_append zeroless]
        refine strstr_eq_some ?_ fun earlier before => first.apart before
        rw [Occurs, List.drop_left]
        exact List.prefix_append ..
      rw [found]

def ParserLib.bodyLine (line : Text) (body : OsipBody Header) : Option (OsipBody Header) :=
  match strchr line ':' 0 with
  | none => none
  | some colonIndex =>
    if colonIndex = 0 ∨ line.length < colonIndex + 2 then none
    else lib.osipBodySetHeader (osipClrspace (line.take colonIndex))
      (osipClrspace (line.drop (colonIndex + 1))) body

theorem osipBodyParseHeader_line {fuel : Nat} (plain : IsLine line)
    (next : ∀ char ∈ rest.head?, isBlank char = false) :
    lib.osipBodyParseHeader (fuel + 1) (line ++ '\r' :: '\n' :: rest) body =
      (lib.bodyLine line body).bind fun body =>
        if rest.head?.any isLineEnd then some (body, rest)
        else lib.osipBodyParseHeader fuel rest body := by
  have behind : (line ++ '\r' :: '\n' :: rest).drop (line.length + 2) = rest := by
    simp [List.drop_append]
  rw [ParserLib.osipBodyParseHeader, findNextCrlf_line plain next, ParserLib.bodyLine]
  dsimp only
  cases search : strchr line ':' 0 with
  | none =>
    cases found : strchr (line ++ '\r' :: '\n' :: rest) ':' 0 with
    | none => rfl
    | some colonIndex =>
      have beyond := colon_behind search found
      have short : line.length + 2 < colonIndex + 4 := by omega
      simp [short]
  | some colonIndex =>
    obtain ⟨inside, found⟩ := @colon_inside line ('\r' :: '\n' :: rest) _ search
    rw [found]
    dsimp only
    by_cases nameless : colonIndex = 0
    · simp [nameless]
    · have named : ¬ colonIndex + 1 < 2 := by omega
      rw [if_neg named]
      by_cases short : line.length < colonIndex + 2
      · have early : line.length + 2 < colonIndex + 4 := by omega
        simp [short, early]
      · have late : ¬ line.length + 2 < colonIndex + 4 := by omega
        have filled : ¬ (colonIndex = 0 ∨ line.length < colonIndex + 2) := by omega
        have value : ((line ++ '\r' :: '\n' :: rest).drop (colonIndex + 1)).take
            (line.length + 2 - 2 - colonIndex - 1) = line.drop (colonIndex + 1) := by
          rw [List.drop_append_of_le_length inside, List.take_append_of_le_length (by simp; omega),
            List.take_of_length_le (by simp; omega)]
        rw [if_neg late, if_neg filled, List.take_append_of_le_length inside.le, value, behind]
        cases lib.osipBodySetHeader _ _ body <;> rfl

theorem osipBodyParseHeader_lines {fuel : Nat} (some : lines ≠ []) (enough : lines.length ≤ fuel)
    (plain : ∀ line ∈ lines, IsHeadLine line) :
    lib.osipBodyParseHeader fuel (joinLines lines ++ '\r' :: rest) body =
      (lines.foldlM (fun body line => lib.bodyLine line body) body).map (·, '\r' :: rest) := by
  induction lines generalizing fuel body with
  | nil => exact absurd rfl some
  | cons line lines ih =>
    obtain ⟨fuel, rfl⟩ := Nat.exists_eq_add_one_of_ne_zero (Nat.ne_zero_of_lt enough)
    obtain ⟨here, others⟩ := List.forall_mem_cons.mp plain
    have whole : joinLines (line :: lines) ++ '\r' :: rest =
        line ++ '\r' :: '\n' :: (joinLines lines ++ '\r' :: rest) := by
      rw [joinLines_cons, List.append_assoc]
      rfl
    rw [whole, osipBodyParseHeader_line lib here.1 (head?_joinLines others), List.foldlM_cons]
    cases lib.bodyLine line body with
    | none => rfl
    | some body =>
      simp only [Option.bind_eq_bind, Option.bind_some]
      by_cases last : lines = []
      · subst last
        rfl
      · have more : ¬ (joinLines lines ++ '\r' :: rest).head?.any isLineEnd = true := by
          obtain ⟨second, lines, rfl⟩ := List.exists_cons_of_ne_nil last
          obtain ⟨isLine, filled, -⟩ := others second List.mem_cons_self
          obtain ⟨first, tail, rfl⟩ := List.exists_cons_of_ne_nil filled
          obtain ⟨noReturn, noFeed, -⟩ := isLine first List.mem_cons_self
          simp [joinLines_cons, isLineEnd, noReturn, noFeed]
        rw [if_neg more]
        exact ih last (Nat.le_of_succ_le_succ enough) others

/-- A part with headers: the body is what stands behind the blank line. -/
theorem osipBodyParseMime_lines {content : Text} (some : lines ≠ [])
    (plain : ∀ line ∈ lines, IsHeadLine line) (filled : content ≠ []) :
    lib.osipBodyParseMime (joinLines lines ++ '\r' :: '\n' :: content) =
      (lines.foldlM (fun body line => lib.bodyLine line body) ⟨[], none, []⟩).map
        ({ · with body := content }) := by
  have zeroless := zero_not_mem_joinLines fun line member => (plain line member).1
  have text : cString (joinLines lines ++ '\r' :: '\n' :: content) =
      joinLines lines ++ '\r' :: '\n' :: cString content := by
    rw [cString_append zeroless]
    rfl
  have enough : lines.length ≤ (joinLines lines ++ '\r' :: '\n' :: cString content).length + 1 := by
    have short := length_le_joinLines lines
    rw [List.length_append]
    omega
  have start : (joinLines lines ++ '\r' :: '\n' :: cString content).length -
      ('\r' :: '\n' :: cString content).length + 2 = (joinLines lines).length + 2 := by
    rw [List.length_append, Nat.add_sub_cancel]
  have behind : (joinLines lines ++ '\r' :: '\n' :: content).drop ((joinLines lines).length + 2) =
      content := by simp [List.drop_append]
  have long : ¬ (joinLines lines ++ '\r' :: '\n' :: content).length ≤
      (joinLines lines).length + 2 := by
    have full := List.length_pos_of_ne_nil filled
    simp
    omega
  unfold ParserLib.osipBodyParseMime
  dsimp only
  rw [text, osipBodyParseHeader_lines lib some enough plain]
  cases lines.foldlM (fun body line => lib.bodyLine line body)
    (⟨[], none, []⟩ : OsipBody Header) with
  | none => rfl
  | some body =>
    simp only [Option.bind_eq_bind, Option.map_some, Option.bind_some, firstCrlf]
    rw [start, if_neg long, behind]

end Gb28181.Osip
