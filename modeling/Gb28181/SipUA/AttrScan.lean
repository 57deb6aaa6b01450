import Gb28181.SipUA.MediaSection

/-! The scan of `parseMediaSdpBody` for attribute lines stays inside the body and ends. -/

namespace Gb28181.SipUA

open Gb28181.Lib

/-- The variables of the loop; `pPos` is an offset into the body, whose closing zero stands at
its length. -/
structure AttrScan where
  pPos : Nat
  iPosLen : Int
  iAttrIndex : Nat
  info : MediaInfo

def AttrScan.round (body : Text) (scan : AttrScan) : AttrScan :=
  let line := getLineContent (body.drop scan.pPos) "a=".toList sipuaStringLineLen
  if line.ret > 0 then
    let stored := storeAttrLine line.szContent line.iContentLen scan.info scan.iAttrIndex
    ⟨scan.pPos + line.ret.toNat, scan.iPosLen + line.ret, stored.2, stored.1⟩
  else ⟨scan.pPos + 1, scan.iPosLen + 1, scan.iAttrIndex, scan.info⟩

/-- Another round follows where a character stands at the position; a later round than the first
only while the length is not used up. -/
def AttrScan.Continues (body : Text) (iMaxInLen : Int) (rounds : Nat) (scan : AttrScan) : Prop :=
  scan.pPos < body.length ∧ (rounds = 0 ∨ scan.iPosLen < iMaxInLen)

/-- Where the loop stands after so many rounds. -/
inductive Stands (body : Text) (iMaxInLen : Int) (start : AttrScan) : Nat → AttrScan → Prop where
  | start : Stands body iMaxInLen start 0 start
  | round {rounds : Nat} {scan : AttrScan} (stands : Stands body iMaxInLen start rounds scan)
      (continues : scan.Continues body iMaxInLen rounds) :
      Stands body iMaxInLen start (rounds + 1) (scan.round body)

/-- `parseMediaSdpBody` up to the loop; nothing where it returns before. -/
def attrStart (pMediaInfo : MediaInfo) (pszInBuff : Text) (iMaxInLen : Int) (pszMediaType : Text) :
    Option AttrScan :=
  if iMaxInLen ≤ 0 then none
  else
    match strstr pszInBuff pszMediaType with
    | none => none
    | some 0 => none
    | some iPosLen =>
      let line := getLineContent (pszInBuff.drop iPosLen) "m=".toList sipuaStringLineLen
      if line.ret ≤ 0 then none
      else
        match splitString line.szContent ' ' with
        | _ :: port :: proto :: type :: types =>
          some ⟨iPosLen + line.ret.toNat, iPosLen + line.ret, 0, storePayloadTypes (type :: types)
            { pMediaInfo with ucUseFlag := 0, port := atoi port, szProto := proto }⟩
        | _ => none

variable {body pszInBuff pszMediaType : Text} {iMaxInLen : Int} {start scan : AttrScan}
  {rounds : Nat} {pMediaInfo : MediaInfo}

/-- What follows an occurrence ends inside the text: no line is longer than what is left. -/
theorem getLineContent_inside (text pszLineName : Text) (iMaxContentLen : Nat) :
    (getLineContent text pszLineName iMaxContentLen).ret.toNat ≤ text.length := by
  unfold getLineContent
  split
  · exact Nat.zero_le _
  · rename_i offset found
    have name := (occurs_of_strstr found).1.length_le
    have content := (List.takeWhile_prefix (!isLineEnd ·)
      (l := text.drop (offset + pszLineName.length))).length_le
    rw [List.length_drop] at name content
    dsimp only
    split
    · dsimp only
      omega
    · exact Nat.zero_le _

theorem round_moves (inside : scan.pPos < body.length) :
    scan.pPos < (scan.round body).pPos ∧ (scan.round body).pPos ≤ body.length := by
  have line := getLineContent_inside (body.drop scan.pPos) "a=".toList sipuaStringLineLen
  rw [List.length_drop] at line
  unfold AttrScan.round
  dsimp only
  split
  · dsimp only
    omega
  · dsimp only
    omega

theorem Stands.inside (stands : Stands body iMaxInLen start rounds scan)
    (first : start.pPos ≤ body.length) :
    scan.pPos ≤ body.length ∧ start.pPos + rounds ≤ scan.pPos := by
  induction stands with
  | start => exact ⟨first, Nat.le_refl _⟩
  | round stands continues ih =>
    obtain ⟨onward, within⟩ := round_moves continues.1
    obtain ⟨-, far⟩ := ih
    exact ⟨within, by omega⟩

theorem attrLoop_round {rounds : Nat} (inside : scan.pPos < body.length) :
    attrLoop iMaxInLen (rounds + 1) (body.drop scan.pPos) scan.iPosLen scan.iAttrIndex scan.info =
      if (scan.round body).iPosLen ≥ iMaxInLen then (scan.round body).info
      else attrLoop iMaxInLen rounds (body.drop (scan.round body).pPos) (scan.round body).iPosLen
        (scan.round body).iAttrIndex (scan.round body).info := by
  have some : body.drop scan.pPos = body[scan.pPos] :: body.drop (scan.pPos + 1) :=
    List.drop_eq_getElem_cons inside
  rw [some, attrLoop.eq_3, ← some]
  unfold AttrScan.round
  generalize getLineContent (body.drop scan.pPos) "a=".toList sipuaStringLineLen = line
  dsimp only
  by_cases found : line.ret > 0
  · have moved : ((line.ret.toNat : Nat) : Int) = line.ret := Int.toNat_of_nonneg (by omega)
    rw [if_pos found, if_pos found, if_pos found, moved, List.drop_drop]
  · rw [if_neg found, if_neg found, if_neg found, List.drop_drop]
    rfl

/-- From wherever the loop stands it comes to its end, with what it stores. -/
theorem attrLoop_ends {fuel : Nat} (stands : Stands body iMaxInLen start rounds scan)
    (unbroken : rounds = 0 ∨ scan.iPosLen < iMaxInLen) (inside : scan.pPos ≤ body.length)
    (enough : body.length - scan.pPos ≤ fuel) :
    ∃ rounds last, Stands body iMaxInLen start rounds last ∧
      ¬ last.Continues body iMaxInLen rounds ∧
      attrLoop iMaxInLen fuel (body.drop scan.pPos) scan.iPosLen scan.iAttrIndex scan.info =
        last.info := by
  by_cases ended : body.length ≤ scan.pPos
  · refine ⟨rounds, scan, stands, fun continues => Nat.not_lt_of_le ended continues.1, ?_⟩
    rw [List.drop_eq_nil_of_le ended]
    cases fuel <;> rfl
  · have onward : scan.pPos < body.length := Nat.lt_of_not_le ended
    induction fuel generalizing rounds scan with
    | zero => omega
    | succ fuel ih =>
      have next := stands.round ⟨onward, unbroken⟩
      obtain ⟨moved, within⟩ := round_moves onward
      rw [attrLoop_round onward]
      by_cases broken : (scan.round body).iPosLen ≥ iMaxInLen
      · rw [if_pos broken]
        refine ⟨_, _, next, ?_, rfl⟩
        rintro ⟨-, first | below⟩
        · exact Nat.succ_ne_zero _ first
        · omega
      · rw [if_neg broken]
        have below : (scan.round body).iPosLen < iMaxInLen := by omega
        by_cases passed : body.length ≤ (scan.round body).pPos
        · refine ⟨_, _, next, fun continues => Nat.not_lt_of_le passed continues.1, ?_⟩
          rw [List.drop_eq_nil_of_le passed]
          cases fuel <;> rfl
        · exact ih next (.inr below) within (by omega) passed (Nat.lt_of_not_le passed)

/-- Where the function does not come to the loop it fails. -/
theorem parseMediaSdpBody_none
    (failed : attrStart pMediaInfo pszInBuff iMaxInLen pszMediaType = none) :
    (parseMediaSdpBody pMediaInfo pszInBuff iMaxInLen pszMediaType).1 = -1 := by
  unfold attrStart at failed
  unfold parseMediaSdpBody
  by_cases used : iMaxInLen ≤ 0
  · rw [if_pos used]
  · rw [if_neg used] at failed ⊢
    cases found : strstr pszInBuff pszMediaType with
    | none => rfl
    | some offset =>
      cases offset with
      | zero => rfl
      | succ iPosLen =>
        simp only [found] at failed ⊢
        generalize getLineContent (pszInBuff.drop (iPosLen + 1)) "m=".toList sipuaStringLineLen =
          line at failed ⊢
        by_cases short : line.ret ≤ 0
        · rw [if_pos short]
        · rw [if_neg short] at failed ⊢
          by_cases many : ∃ name port proto type types,
              splitString line.szContent ' ' = name :: port :: proto :: type :: types
          · obtain ⟨name, port, proto, type, types, pieces⟩ := many
            rw [pieces] at failed
            contradiction
          · split
            · rename_i pieces
              exact absurd ⟨_, _, _, _, _, pieces⟩ many
            · rfl

theorem parseMediaSdpBody_some
    (begun : attrStart pMediaInfo pszInBuff iMaxInLen pszMediaType = some start) :
    start.pPos ≤ pszInBuff.length ∧
      parseMediaSdpBody pMediaInfo pszInBuff iMaxInLen pszMediaType =
        (0, { attrLoop iMaxInLen (pszInBuff.length - start.pPos) (pszInBuff.drop start.pPos)
          start.iPosLen start.iAttrIndex start.info with ucUseFlag := 1 }) := by
  unfold attrStart at begun
  unfold parseMediaSdpBody
  by_cases used : iMaxInLen ≤ 0
  · rw [if_pos used] at begun
    contradiction
  · rw [if_neg used] at begun ⊢
    cases found : strstr pszInBuff pszMediaType with
    | none =>
      rw [found] at begun
      contradiction
    | some offset =>
      have within := (occurs_of_strstr found).1.length_le
      rw [List.length_drop] at within
      cases offset with
      | zero =>
        rw [found] at begun
        contradiction
      | succ iPosLen =>
        have shorter := getLineContent_inside (pszInBuff.drop (iPosLen + 1)) "m=".toList
          sipuaStringLineLen
        simp only [found] at begun ⊢
        generalize getLineContent (pszInBuff.drop (iPosLen + 1)) "m=".toList sipuaStringLineLen =
          line at begun shorter ⊢
        by_cases short : line.ret ≤ 0
        · rw [if_pos short] at begun
          contradiction
        · rw [if_neg short] at begun ⊢
          by_cases many : ∃ name port proto type types,
              splitString line.szContent ' ' = name :: port :: proto :: type :: types
          · obtain ⟨name, port, proto, type, types, pieces⟩ := many
            rw [pieces] at begun ⊢
            cases begun
            rw [List.length_drop] at shorter
            dsimp only
            rw [List.drop_drop, List.length_drop]
            exact ⟨by omega, rfl⟩
          · split at begun
            · rename_i pieces
              exact absurd ⟨_, _, _, _, _, pieces⟩ many
            · contradiction

/-- Wherever the loop stands it is inside the body, and a further round moves it on; so it comes
to its end within the length of the body, and the function returns what is stored there. -/
theorem attr_scan_inside
    (begun : attrStart pMediaInfo pszInBuff iMaxInLen pszMediaType = some start) :
    (∀ rounds scan, Stands pszInBuff iMaxInLen start rounds scan →
      scan.pPos ≤ pszInBuff.length ∧ rounds ≤ pszInBuff.length ∧
      (scan.Continues pszInBuff iMaxInLen rounds → scan.pPos < (scan.round pszInBuff).pPos)) ∧
    ∃ rounds last, Stands pszInBuff iMaxInLen start rounds last ∧
      ¬ last.Continues pszInBuff iMaxInLen rounds ∧
      parseMediaSdpBody pMediaInfo pszInBuff iMaxInLen pszMediaType =
        (0, { last.info with ucUseFlag := 1 }) := by
  obtain ⟨first, whole⟩ := parseMediaSdpBody_some begun
  constructor
  · intro rounds scan stands
    obtain ⟨within, far⟩ := stands.inside first
    exact ⟨within, by omega, fun continues => (round_moves continues.1).1⟩
  · have begins : Stands pszInBuff iMaxInLen start 0 start := .start
    obtain ⟨rounds, last, stands, ended, stored⟩ :=
      attrLoop_ends begins (.inl rfl) first (Nat.le_refl _)
    exact ⟨rounds, last, stands, ended, by rw [whole, stored]⟩

/-- A body with an attribute line that does not fit the line buffer. -/
def overlongBody : Text := "s=x\nm=video 1 P 96\na=".toList ++ List.replicate 130 'b'

theorem attr_scan_inside_overlong :
    ∃ start, attrStart .zero overlongBody 152 "m=video".toList = some start ∧
      (∀ rounds scan, Stands overlongBody 152 start rounds scan →
        scan.pPos ≤ overlongBody.length ∧ rounds ≤ overlongBody.length ∧
        (scan.Continues overlongBody 152 rounds → scan.pPos < (scan.round overlongBody).pPos)) ∧
      ∃ rounds last, Stands overlongBody 152 start rounds last ∧
        ¬ last.Continues overlongBody 152 rounds ∧
        parseMediaSdpBody .zero overlongBody 152 "m=video".toList =
          (0, { last.info with ucUseFlag := 1 }) := by
  have begun : (attrStart .zero overlongBody 152 "m=video".toList).isSome := by decide +kernel
  obtain ⟨start, begun⟩ := Option.isSome_iff_exists.mp begun
  exact ⟨start, begun, attr_scan_inside begun⟩

end Gb28181.SipUA
