import Gb28181.Osip.ParseMessage

namespace Gb28181.Osip

open Gb28181.Lib

variable {Header : Type} (lib : ParserLib Header)

/-- The lines of the headers of a body. -/
def bodyLines (body : OsipBody Header) : List Text :=
  body.contentType.toList.map (fun contentType =>
    namedLine 1 contentTypeName ((lib.toStr contentType).getD [])) ++
    body.headers.map fun header => (lib.toStr header).getD []

def bodyText (body : OsipBody Header) : Text := joinLines (bodyLines lib body) ++ crlf ++ body.body

/-- A body with headers that are printed in lines of their own and read again as they were. -/
structure BodyRereads (body : OsipBody Header) : Prop where
  headed : body.contentType.isSome ∨ body.headers ≠ []
  filled : body.body ≠ []
  contentType : ∀ contentType ∈ body.contentType, ∃ hvalue, lib.toStr contentType = some hvalue ∧
    NamedLine contentTypeName hvalue ∧ lib.parse .contentType hvalue = some contentType
  headers : ∀ header ∈ body.headers, ∃ hname hvalue,
    lib.toStr header = some (namedLine 1 hname hvalue) ∧ NamedLine hname hvalue ∧
      strncmpEq (osipTolower hname) contentTypeName 12 = false ∧
      lib.header hname (some hvalue) = header

variable {lib} {body : OsipBody Header} {hname hvalue : Text}

theorem bodyLine_namedLine (named : NamedLine hname hvalue) :
    lib.bodyLine (namedLine 1 hname hvalue) body = lib.osipBodySetHeader hname hvalue body := by
  have some : ¬ (hname.length = 0 ∨ (namedLine 1 hname hvalue).length < hname.length + 2) := by
    simp [namedLine, named.named.1]
  unfold ParserLib.bodyLine
  rw [strchr_namedLine named]
  dsimp only
  rw [if_neg some, lineName_namedLine named, value_namedLine named]

theorem BodyRereads.lines_plain (rereads : BodyRereads lib body) :
    ∀ line ∈ bodyLines lib body, IsHeadLine line := by
  intro line member
  rcases List.mem_append.mp member with first | other
  · obtain ⟨contentType, own, rfl⟩ := List.mem_map.mp first
    obtain ⟨hvalue, printed, named, -⟩ := rereads.contentType _ (Option.mem_toList.mp own)
    simpa [printed] using named.isHeadLine
  · obtain ⟨header, own, rfl⟩ := List.mem_map.mp other
    obtain ⟨hname, hvalue, printed, named, -⟩ := rereads.headers _ own
    simpa [printed] using named.isHeadLine

theorem BodyRereads.lines_ne_nil (rereads : BodyRereads lib body) : bodyLines lib body ≠ [] := by
  rcases rereads.headed with some | some
  · obtain ⟨contentType, same⟩ := Option.isSome_iff_exists.mp some
    simp [bodyLines, same]
  · simp [bodyLines, some]

theorem foldlM_bodyLine {headers : List Header} {body : OsipBody Header}
    (each : ∀ header ∈ headers, ∃ hname hvalue,
      lib.toStr header = some (namedLine 1 hname hvalue) ∧ NamedLine hname hvalue ∧
        strncmpEq (osipTolower hname) contentTypeName 12 = false ∧
        lib.header hname (some hvalue) = header) :
    (headers.map fun header => (lib.toStr header).getD []).foldlM
        (fun body line => lib.bodyLine line body) body =
      some { body with headers := body.headers ++ headers } := by
  induction headers generalizing body with
  | nil => simp
  | cons header headers ih =>
    obtain ⟨⟨hname, hvalue, printed, named, other, same⟩, others⟩ := List.forall_mem_cons.mp each
    simp [printed, bodyLine_namedLine named, ParserLib.osipBodySetHeader, other, same, ih others]

theorem BodyRereads.read (rereads : BodyRereads lib body) :
    lib.osipBodyParseMime (bodyText lib body) = some body := by
  have shape : bodyText lib body =
      joinLines (bodyLines lib body) ++ '\r' :: '\n' :: body.body := by simp [bodyText, crlf]
  have read : (bodyLines lib body).foldlM (fun body line => lib.bodyLine line body)
      (⟨[], none, []⟩ : OsipBody Header) = some ⟨[], body.contentType, body.headers⟩ := by
    rw [bodyLines, List.foldlM_append]
    cases first : body.contentType with
    | none => simp [foldlM_bodyLine rereads.headers]
    | some contentType =>
      obtain ⟨hvalue, printed, named, same⟩ := rereads.contentType _ first
      have typed : strncmpEq (osipTolower contentTypeName) contentTypeName 12 = true := by decide
      have set : lib.bodyLine (namedLine 1 contentTypeName hvalue) ⟨[], none, []⟩ =
          some ⟨[], some contentType, []⟩ := by
        rw [bodyLine_namedLine named, ParserLib.osipBodySetHeader, if_pos typed, same]
        rfl
      have one : (some contentType).toList.map (fun contentType =>
          namedLine 1 contentTypeName ((lib.toStr contentType).getD [])) =
            [namedLine 1 contentTypeName hvalue] := by simp [printed]
      rw [one, List.foldlM_cons, set]
      exact foldlM_bodyLine rereads.headers
  rw [shape, osipBodyParseMime_lines lib rereads.lines_ne_nil rereads.lines_plain rereads.filled,
    read]
  rfl

variable {sep buf closing : Text} {bodies : List (OsipBody Header)}

/-- A body between two boundaries: it is read as it was, the boundary does not stand in it, and
it has few zeros. -/
structure PartRereads (lib : ParserLib Header) (sep : Text) (body : OsipBody Header) : Prop where
  rereads : BodyRereads lib body
  first : FirstThere sep ('\r' :: '\n' :: (bodyText lib body ++ ['\r']))
  few : (bodyText lib body).count '\x00' < 1000

variable (lib sep closing) in
/-- What stands behind the boundary in front of these bodies. -/
def behindBoundary : List (OsipBody Header) → Text
  | [] => '-' :: '-' :: '\r' :: closing
  | body :: bodies => '\r' :: '\n' :: (bodyText lib body ++ '\r' :: (sep ++ behindBoundary bodies))

theorem behindBoundary_append (more : Text) :
    behindBoundary lib sep closing bodies ++ more =
      behindBoundary lib sep (closing ++ more) bodies := by
  induction bodies with
  | nil => rfl
  | cons body bodies ih => simp [behindBoundary, ih]

theorem zero_count_part (part : PartRereads lib sep body) :
    ('\r' :: '\n' :: (bodyText lib body ++ ['\r'])).count '\x00' < 1000 := by
  simpa [List.count_cons, List.count_append] using part.few

theorem behindBoundary_ends (bodies : List (OsipBody Header)) :
    strncmpEq (behindBoundary lib sep closing bodies) "--".toList 2 = bodies.isEmpty := by
  cases bodies with
  | nil => rfl
  | cons body bodies => rfl

theorem length_le_behindBoundary (bodies : List (OsipBody Header)) :
    bodies.length ≤ (behindBoundary lib sep closing bodies).length := by
  induction bodies with
  | nil => exact Nat.zero_le _
  | cons body bodies ih =>
    simp [behindBoundary]
    omega

theorem bodiesLoop_parts {fuel start : Nat} {front : Text} {sip : OsipMessage Header}
    (filled : sep ≠ []) (zeroless : '\x00' ∉ sep)
    (parts : ∀ own ∈ body :: bodies, PartRereads lib sep own)
    (here : buf.drop start = front ++ (sep ++ behindBoundary lib sep closing (body :: bodies)))
    (first : FirstThere sep front) (few : front.count '\x00' < 1000)
    (enough : bodies.length < fuel) :
    lib.bodiesLoop sep buf (buf.length - 1) fuel start sip =
      .ok { sip with bodies := sip.bodies ++ body :: bodies }.touch := by
  induction fuel generalizing start front sip body bodies with
  | zero => exact absurd enough (Nat.not_lt_zero _)
  | succ fuel ih =>
    obtain ⟨part, others⟩ := List.forall_mem_cons.mp parts
    have size : buf.length - start = front.length + (sep.length +
        (behindBoundary lib sep closing (body :: bodies)).length) := by
      have same := congrArg List.length here
      rw [List.length_drop] at same
      simpa using same
    have tail : (behindBoundary lib sep closing (body :: bodies)).length =
        (bodyText lib body).length + 3 + sep.length +
          (behindBoundary lib sep closing bodies).length := by
      simp [behindBoundary]
      omega
    have long : 1 < (behindBoundary lib sep closing bodies).length := by
      cases bodies <;> simp [behindBoundary]
    have found : findNextOccurence sep 1000 (buf.drop start) (buf.length - 1 - start) =
        some front.length := by
      rw [here]
      exact findNextOccurence_spec filled zeroless first few (by omega)
    have behind : buf.drop (start + front.length + sep.length) =
        behindBoundary lib sep closing (body :: bodies) := by
      rw [← List.drop_drop, ← List.drop_drop, here, List.drop_left, List.drop_left]
    generalize begins : start + front.length + sep.length = boundary at behind
    have next : findNextOccurence sep 1000 (buf.drop boundary) (buf.length - 1 - boundary) =
        some ((bodyText lib body).length + 3) := by
      have shape : behindBoundary lib sep closing (body :: bodies) =
          ('\r' :: '\n' :: (bodyText lib body ++ ['\r'])) ++
            (sep ++ behindBoundary lib sep closing bodies) := by
        simp [behindBoundary]
      rw [behind, shape, findNextOccurence_spec filled zeroless part.first (zero_count_part part)]
      · simp
      · simp
        omega
    have second : (buf[boundary + 1]?).any isLineEnd = true := by
      have same : buf[boundary + 1]? = (buf.drop boundary)[1]? := List.getElem?_drop.symm
      rw [same, behind]
      rfl
    have cut : buf[boundary + ((bodyText lib body).length + 3) - 1]? = some '\r' := by
      have same : buf[boundary + ((bodyText lib body).length + 2)]? =
          (buf.drop boundary)[(bodyText lib body).length + 2]? := List.getElem?_drop.symm
      have place : boundary + ((bodyText lib body).length + 3) - 1 =
          boundary + ((bodyText lib body).length + 2) := by omega
      rw [place, same, behind]
      simp [behindBoundary]
    have wide : ¬ boundary + ((bodyText lib body).length + 3) < boundary + 2 + 1 := by omega
    have piece : (buf.drop (boundary + 2)).take
        (boundary + ((bodyText lib body).length + 3) - 1 - (boundary + 2)) = bodyText lib body := by
      have width : boundary + ((bodyText lib body).length + 3) - 1 - (boundary + 2) =
          (bodyText lib body).length := by omega
      rw [width, ← List.drop_drop, behind]
      simp [behindBoundary]
    have rest : buf.drop (boundary + ((bodyText lib body).length + 3)) =
        sep ++ behindBoundary lib sep closing bodies := by
      rw [← List.drop_drop, behind]
      simp [behindBoundary, List.drop_append]
    have ends : buf.drop (boundary + ((bodyText lib body).length + 3) + sep.length) =
        behindBoundary lib sep closing bodies := by rw [← List.drop_drop, rest, List.drop_left]
    have set : lib.osipMessageSetBodyMime (bodyText lib body) sip =
        some { sip with bodies := sip.bodies ++ [body] }.touch := by
      simp [ParserLib.osipMessageSetBodyMime, part.rereads.read]
    unfold ParserLib.bodiesLoop
    rw [found]
    dsimp only
    rw [begins, next]
    dsimp only
    rw [if_pos second, if_pos cut, if_neg wide, piece, set, ends, behindBoundary_ends]
    cases bodies with
    | nil => rfl
    | cons other bodies =>
      dsimp only [List.isEmpty_cons]
      have first : FirstThere sep [] := fun _ inside => absurd inside (Nat.not_lt_zero _)
      rw [if_neg Bool.false_ne_true,
        @ih other bodies _ [] _ others rest first (by simp) (Nat.lt_of_succ_lt_succ enough)]
      simp [OsipMessage.touch]

/-- The bodies of a message with this boundary are read one after the other. -/
theorem parseMultipart_parts {gvalue : Text} {contentType : Header} {sip : OsipMessage Header}
    (typed : sip.contentType = some contentType) (bounded : lib.boundary contentType = some gvalue)
    (zeroless : '\x00' ∉ sepBoundary gvalue)
    (parts : ∀ own ∈ body :: bodies, PartRereads lib (sepBoundary gvalue) own) :
    let buf := '\r' :: '\n' :: '\r' ::
      (sepBoundary gvalue ++ behindBoundary lib (sepBoundary gvalue) closing (body :: bodies))
    lib.parseMultipart sip buf (buf.length - 1) =
      .ok { sip with bodies := sip.bodies ++ body :: bodies }.touch := by
  intro buf
  have filled : sepBoundary gvalue ≠ [] := by simp [sepBoundary]
  have here : buf.drop 0 = ['\r', '\n', '\r'] ++
      (sepBoundary gvalue ++
        behindBoundary lib (sepBoundary gvalue) closing (body :: bodies)) := rfl
  have first : FirstThere (sepBoundary gvalue) ['\r', '\n', '\r'] := by
    intro offset inside occurs
    obtain ⟨rest, shape⟩ : ∃ rest, sepBoundary gvalue = '\n' :: '-' :: '-' :: rest := ⟨_, rfl⟩
    have place : offset = 0 ∨ offset = 1 ∨ offset = 2 := by
      simp at inside
      omega
    rw [shape] at occurs
    rcases place with rfl | rfl | rfl <;> simp [Occurs] at occurs
  have enough : bodies.length < buf.length + 1 := by
    have short := @length_le_behindBoundary _ lib (sepBoundary gvalue) closing (body :: bodies)
    have size : buf.length = 3 + ((sepBoundary gvalue).length +
        (behindBoundary lib (sepBoundary gvalue) closing (body :: bodies)).length) := by
      simp [buf]
      omega
    rw [List.length_cons] at short
    omega
  have bound : sip.contentType.bind lib.boundary = some gvalue := by
    rw [typed]
    exact bounded
  unfold ParserLib.parseMultipart
  rw [bound]
  exact bodiesLoop_parts filled zeroless parts here first (by decide) enough

theorem zero_not_mem_sepBoundary {gvalue : Text} (zeroless : '\x00' ∉ gvalue) :
    '\x00' ∉ sepBoundary gvalue := by
  have bare : '\x00' ∉ gvalue.tail.dropLast := fun zero =>
    zeroless (List.mem_of_mem_tail (List.mem_of_mem_dropLast zero))
  unfold sepBoundary
  rw [List.mem_append, not_or]
  refine ⟨by decide +kernel, ?_⟩
  split
  · exact bare
  · exact zeroless

theorem msgOsipBodyParse_multipart {sip : OsipMessage Header} {contentType : Header}
    {type subtype : Text} (present : sip.contentType = some contentType)
    (ofType : lib.type contentType = some type) (ofSubtype : lib.subtype contentType = some subtype)
    (multipart : strcasecmpEq type "multipart".toList = true) (buf : Text) (length : Nat) :
    msgOsipBodyParse lib.toHeaderLib lib.headParser sip buf length =
      (lib.parseMultipart sip buf length).toOption := by
  have same : lib.headParser.subtype contentType = some subtype := ofSubtype
  unfold msgOsipBodyParse
  rw [present]
  dsimp only
  rw [ofType, same]
  exact if_pos multipart

theorem withContentLength_measured {sip : OsipMessage Header}
    (measured : sip.contentLength.isSome) :
    withContentLength lib.headParser sip = sip := if_pos measured

/-- Behind a head with nothing but a blank line nothing is read. -/
theorem readBehind_bodiless {sip : OsipMessage Header} (measured : sip.contentLength.isSome)
    (few : closing = [] ∨ closing = ['\n']) : lib.readBehind sip closing = some sip := by
  have zero : ('\r' :: (closing ++ ['\x00']))[0]? = some '\x00' ∨
      ('\r' :: (closing ++ ['\x00']))[1]? = some '\x00' ∨
        ('\r' :: (closing ++ ['\x00']))[2]? = some '\x00' := by
    rcases few with rfl | rfl
    · exact .inr (.inl rfl)
    · exact .inr (.inr rfl)
  unfold ParserLib.readBehind
  dsimp only
  rw [if_pos zero, withContentLength_measured measured]

/-- Behind the head of a multipart its bodies are read. -/
theorem readBehind_multipart {sip : OsipMessage Header} {contentType : Header}
    {type subtype gvalue : Text} (measured : sip.contentLength.isSome)
    (present : sip.contentType = some contentType) (ofType : lib.type contentType = some type)
    (ofSubtype : lib.subtype contentType = some subtype)
    (boundary : lib.boundary contentType = some gvalue)
    (multipart : strcasecmpEq type "multipart".toList = true) (zeroless : '\x00' ∉ gvalue)
    (filled : bodies ≠ []) (parts : ∀ own ∈ bodies, PartRereads lib (sepBoundary gvalue) own) :
    lib.readBehind sip ('\n' :: '\r' :: (sepBoundary gvalue ++
      behindBoundary lib (sepBoundary gvalue) closing bodies)) =
        some { sip with bodies := sip.bodies ++ bodies }.touch := by
  obtain ⟨body, bodies, rfl⟩ := List.exists_cons_of_ne_nil filled
  have parsed := @parseMultipart_parts _ lib body (closing ++ ['\x00']) bodies gvalue contentType
    sip present boundary (zero_not_mem_sepBoundary zeroless) parts
  dsimp only at parsed
  rw [← behindBoundary_append] at parsed
  have text : '\r' :: ('\n' :: '\r' :: (sepBoundary gvalue ++ behindBoundary lib
        (sepBoundary gvalue) closing (body :: bodies)) ++ ['\x00']) =
      '\r' :: '\n' :: '\r' :: (sepBoundary gvalue ++ (behindBoundary lib
        (sepBoundary gvalue) closing (body :: bodies) ++ ['\x00'])) := by simp
  have size : ('\n' :: '\r' :: (sepBoundary gvalue ++ behindBoundary lib
        (sepBoundary gvalue) closing (body :: bodies))).length + 1 =
      ('\r' :: '\n' :: '\r' :: (sepBoundary gvalue ++ (behindBoundary lib
        (sepBoundary gvalue) closing (body :: bodies) ++ ['\x00']))).length - 1 := by
    simp only [List.length_cons, List.length_append, List.length_nil]
    omega
  unfold ParserLib.readBehind
  dsimp only
  rw [text, if_neg (by simp), size, msgOsipBodyParse_multipart present ofType ofSubtype multipart,
    parsed]
  exact congrArg some (withContentLength_measured measured)

end Gb28181.Osip
