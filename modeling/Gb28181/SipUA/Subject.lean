import Gb28181.SipUA.Sdp

/-! The subject header: which texts `parseSubjectHeader` takes, and what it makes of what
`subjectInfo2String` writes. -/

namespace Gb28181.SipUA

open Gb28181.Lib

/-- Four fields that can stand in a header: without a separator, and shorter than their
buffers. -/
def SubjectInfo.Plain (info : SubjectInfo) : Prop :=
  ∀ field ∈ [info.szSenderId, info.szSenderStreamSeq, info.szRecverId, info.szRecverStreamSeq],
    ',' ∉ field ∧ ':' ∉ field ∧ field.length < sipuaStringLineLen

def SubjectInfo.Numbered (info : SubjectInfo) : Prop :=
  info.szSenderStreamSeq ≠ [] ∧ info.szRecverStreamSeq ≠ []

instance (info : SubjectInfo) : Decidable info.Numbered :=
  inferInstanceAs (Decidable (_ ∧ _))

/-- A header of the form the standard gives it. -/
def WellFormedSubject (pszSubject : Text) : Prop :=
  ∃ info : SubjectInfo, info.Plain ∧ pszSubject = subjectInfo2String info

/-- A comma separates two parts; one more at the very end changes nothing. -/
def TwoParts (pszSubject : Text) : Prop :=
  pszSubject.count ',' = if pszSubject.getLast? = some ',' then 2 else 1

/-- Exactly the well-formed headers are taken, and with their own fields. -/
def SubjectRead (pSubjectInfo : SubjectInfo) (pszSubject : Text) : Prop :=
  ((parseSubjectHeader pSubjectInfo pszSubject).1 = 0 ↔ WellFormedSubject pszSubject) ∧
  ∀ info : SubjectInfo, info.Plain → pszSubject = subjectInfo2String info →
    (parseSubjectHeader pSubjectInfo pszSubject).2 = info

variable {pSubjectInfo info : SubjectInfo} {pszSubject : Text}

theorem splitString_two {id seq : Text} (idFree : ':' ∉ id) (seqFree : ':' ∉ seq) :
    splitString (id ++ ':' :: seq) ':' = if seq = [] then [id] else [id, seq] := by
  rw [splitString_cons idFree, splitString_last seqFree]
  split <;> rfl

theorem subjectInfo2String_eq (info : SubjectInfo) :
    subjectInfo2String info = (info.szSenderId ++ ':' :: info.szSenderStreamSeq) ++
      ',' :: (info.szRecverId ++ ':' :: info.szRecverStreamSeq) := by
  unfold subjectInfo2String
  have colon : ":".toList = [':'] := rfl
  have comma : ",".toList = [','] := rfl
  rw [colon, comma]
  simp only [List.append_assoc, List.cons_append, List.nil_append]

/-- A well-formed header is taken; its fields are stored where both sequences are there. -/
theorem parseSubjectHeader_printed (plain : info.Plain) :
    parseSubjectHeader pSubjectInfo (subjectInfo2String info) =
      (0, if info.Numbered then info else pSubjectInfo) := by
  have sender := plain info.szSenderId (by simp)
  have senderSeq := plain info.szSenderStreamSeq (by simp)
  have recver := plain info.szRecverId (by simp)
  have recverSeq := plain info.szRecverStreamSeq (by simp)
  have apart (id seq : Text) (idFree : ',' ∉ id) (seqFree : ',' ∉ seq) :
      ',' ∉ id ++ ':' :: seq := by
    simp [idFree, seqFree]
  have pieces : splitString (subjectInfo2String info) ',' =
      [info.szSenderId ++ ':' :: info.szSenderStreamSeq,
        info.szRecverId ++ ':' :: info.szRecverStreamSeq] := by
    rw [subjectInfo2String_eq, splitString_cons (apart _ _ sender.1 senderSeq.1),
      splitString_single (apart _ _ recver.1 recverSeq.1)
        (List.append_ne_nil_of_right_ne_nil _ (List.cons_ne_nil _ _))]
  unfold parseSubjectHeader SubjectInfo.Numbered
  simp only [pieces, splitString_two sender.2.1 senderSeq.2.1, splitString_two recver.2.1 recverSeq.2.1]
  by_cases first : info.szSenderStreamSeq = []
  · simp [first]
  · by_cases second : info.szRecverStreamSeq = []
    · simp [first, second]
    · simp [first, second]

/-- Whether a header is taken depends on its commas alone. -/
theorem parseSubjectHeader_taken :
    (parseSubjectHeader pSubjectInfo pszSubject).1 = 0 ↔ TwoParts pszSubject := by
  have counted : TwoParts pszSubject ↔ (splitString pszSubject ',').length = 2 := by
    rw [length_splitString, TwoParts]
    by_cases empty : pszSubject = []
    · rw [empty]
      decide
    · by_cases closed : pszSubject.getLast? = some ','
      · rw [if_pos closed, if_pos (.inr closed)]
        omega
      · rw [if_neg closed, if_neg (not_or.mpr ⟨empty, closed⟩)]
        omega
  rw [counted, parseSubjectHeader]
  split
  · rename_i pieces
    rw [pieces]
    split <;> simp
  · rename_i other
    have refused : (-1 : Int) ≠ 0 := by decide
    refine iff_of_false refused fun two => ?_
    obtain ⟨sender, recver, pieces⟩ := List.length_eq_two.mp two
    exact other _ _ pieces

theorem WellFormedSubject.twoParts (formed : WellFormedSubject pszSubject) :
    TwoParts pszSubject := by
  obtain ⟨info, plain, rfl⟩ := formed
  have taken := @parseSubjectHeader_printed .zero info plain
  exact parseSubjectHeader_taken.mp (congrArg Prod.fst taken)

theorem parseSubjectHeader_fields (plain : info.Plain) :
    parseSubjectHeader pSubjectInfo (subjectInfo2String info) = (0, info) ↔
      info.Numbered ∨ pSubjectInfo = info := by
  rw [parseSubjectHeader_printed plain]
  by_cases numbered : info.Numbered
  · rw [if_pos numbered]
    exact iff_of_true rfl (.inl numbered)
  · rw [if_neg numbered, Prod.mk.injEq]
    exact ⟨fun same => .inr same.2, fun one => ⟨rfl, one.resolve_left numbered⟩⟩

/-- Exactly the well-formed headers are taken where two parts are always well formed, and with
their fields where both stream sequences are there or the fields were there before. What is
printed is read back under the same condition. -/
theorem subject_header_iff (pSubjectInfo : SubjectInfo) :
    (∀ pszSubject : Text, SubjectRead pSubjectInfo pszSubject ↔
      (TwoParts pszSubject → WellFormedSubject pszSubject) ∧
      ∀ info : SubjectInfo, info.Plain → pszSubject = subjectInfo2String info →
        info.Numbered ∨ pSubjectInfo = info) ∧
    ∀ info : SubjectInfo, info.Plain →
      (parseSubjectHeader pSubjectInfo (subjectInfo2String info) = (0, info) ↔
        info.Numbered ∨ pSubjectInfo = info) := by
  refine ⟨fun pszSubject => and_congr ?_ ?_, fun info plain => parseSubjectHeader_fields plain⟩
  · rw [parseSubjectHeader_taken]
    exact ⟨Iff.mp, fun formed => ⟨formed, WellFormedSubject.twoParts⟩⟩
  · refine forall_congr' fun info => forall_congr' fun plain => forall_congr' fun text => ?_
    have fields := @parseSubjectHeader_fields pSubjectInfo info plain
    rw [Prod.ext_iff, parseSubjectHeader_printed plain] at fields
    rw [← fields, text, parseSubjectHeader_printed plain]
    exact (and_iff_right rfl).symm

/-- A header without the sender's stream sequence. -/
def unnumberedSubject : SubjectInfo := ⟨['a'], [], ['b'], ['c']⟩

/-- It is taken without being stored, and so are two parts that have no separator of their
own. -/
theorem subject_header_unnumbered :
    unnumberedSubject.Plain ∧
    parseSubjectHeader .zero (subjectInfo2String unnumberedSubject) = (0, .zero) ∧
    ¬ SubjectRead .zero (subjectInfo2String unnumberedSubject) ∧
    ¬ SubjectRead .zero ['a', ',', 'b'] := by
  have plain : unnumberedSubject.Plain := by
    unfold SubjectInfo.Plain
    decide
  have taken : parseSubjectHeader .zero (subjectInfo2String unnumberedSubject) = (0, .zero) :=
    parseSubjectHeader_printed plain
  refine ⟨plain, taken, ?_, ?_⟩
  · rintro ⟨-, stored⟩
    have same := stored unnumberedSubject plain rfl
    rw [taken] at same
    exact absurd same (by decide)
  · rintro ⟨formed, -⟩
    obtain ⟨info, -, text⟩ := formed.mp rfl
    have colon : ':' ∈ subjectInfo2String info := by
      rw [subjectInfo2String_eq]
      simp
    rw [← text] at colon
    exact absurd colon (by decide)

end Gb28181.SipUA
