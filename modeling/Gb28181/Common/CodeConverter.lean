import Mathlib.Logic.Function.Iterate
import Mathlib.Data.UInt
import Mathlib.Tactic.Common

/-! `CodeConverter_IsGBK`: the loop over the bytes of a C string, and the texts it accepts. -/

namespace Gb28181.Common

/-- The bytes of a C string in front of its closing zero. -/
structure CBytes where
  bytes : List UInt8
  terminated : 0 ∉ bytes

/-- The locals of the loop, or what is returned; `i` and `nBytes` are unsigned. -/
inductive GbkScan where
  | scanning (i nBytes : Nat) (bAllAscii : Bool)
  | returned (result : Bool)
  deriving DecidableEq

def GbkScan.finish (nBytes : Nat) (bAllAscii : Bool) : GbkScan :=
  if nBytes ≠ 0 then .returned false
  else if bAllAscii then .returned true
  else .returned true

def GbkScan.round (str : List UInt8) : GbkScan → GbkScan
  | .returned result => .returned result
  | .scanning i nBytes bAllAscii =>
    let chr := str.getD i 0
    if chr = 0 then finish nBytes bAllAscii
    else
      let bAllAscii := if chr &&& 0x80 ≠ 0 ∧ nBytes = 0 then false else bAllAscii
      if nBytes = 0 then
        if 0x80 ≤ chr then
          if 0x81 ≤ chr ∧ chr ≤ 0xFE then .scanning ((i + 1) % 2 ^ 32) (2 - 1) bAllAscii
          else .returned false
        else .scanning ((i + 1) % 2 ^ 32) nBytes bAllAscii
      else if chr < 0x40 ∨ 0xFE < chr then .returned false
      else .scanning ((i + 1) % 2 ^ 32) (nBytes - 1) bAllAscii

/-- `CodeConverter_IsGBK` returns a result. -/
def IsGBKReturns (str : List UInt8) (result : Bool) : Prop :=
  ∃ rounds, (GbkScan.round str)^[rounds] (.scanning 0 0 true) = .returned result

/-- Texts of ASCII bytes and of characters of two bytes, of which the first says so. -/
inductive Encoded (Trail : UInt8 → Prop) : List UInt8 → Prop
  | nil : Encoded Trail []
  | ascii {byte : UInt8} {rest : List UInt8} (small : byte < 0x80) (later : Encoded Trail rest) :
    Encoded Trail (byte :: rest)
  | pair {lead trail : UInt8} {rest : List UInt8} (first : 0x81 ≤ lead ∧ lead ≤ 0xFE)
    (second : Trail trail) (later : Encoded Trail rest) : Encoded Trail (lead :: trail :: rest)

def GBKTrail (trail : UInt8) : Prop := 0x40 ≤ trail ∧ trail ≤ 0xFE ∧ trail ≠ 0x7F

def GBK (text : List UInt8) : Prop := Encoded GBKTrail text

def AnyTrail (trail : UInt8) : Prop := 0x40 ≤ trail ∧ trail ≤ 0xFE

/-- Some character of the text has 0x7F for its second byte, and nothing else is wrong with it. -/
def DelTrail (text : List UInt8) : Prop :=
  ∃ front lead back, text = front ++ lead :: 0x7F :: back ∧ Encoded AnyTrail front ∧
    (0x81 ≤ lead ∧ lead ≤ 0xFE) ∧ Encoded AnyTrail back

/-- The bytes that are accepted, in front of a character or behind the first byte of one. -/
def accepts : Bool → List UInt8 → Bool
  | inside, [] => !inside
  | false, chr :: rest =>
    if chr < 0x80 then accepts false rest
    else if 0x81 ≤ chr ∧ chr ≤ 0xFE then accepts true rest
    else false
  | true, chr :: rest => if 0x40 ≤ chr ∧ chr ≤ 0xFE then accepts false rest else false

variable {str text : List UInt8} {lead byte : UInt8}

theorem not_lead_of_ascii (small : byte < 0x80) : ¬ (0x81 ≤ byte ∧ byte ≤ 0xFE) := by
  rw [UInt8.lt_iff_toNat_lt] at small
  rw [UInt8.le_iff_toNat_le]
  rintro ⟨low, -⟩
  exact absurd (Nat.lt_of_lt_of_le small (Nat.le_trans (by decide) low)) (Nat.lt_irrefl _)

theorem not_ascii_of_lead (first : 0x81 ≤ lead ∧ lead ≤ 0xFE) : ¬ lead < 0x80 :=
  fun small => not_lead_of_ascii small first

theorem accepts_of_encoded (encoded : Encoded AnyTrail text) : accepts false text = true := by
  induction encoded with
  | nil => rfl
  | ascii small _ ih => rw [accepts, if_pos small, ih]
  | @pair lead trail rest first second _ ih =>
    have range : 0x40 ≤ trail ∧ trail ≤ 0xFE := second
    rw [accepts, if_neg (not_ascii_of_lead first), if_pos first, accepts, if_pos range, ih]

theorem encoded_of_accepts (text : List UInt8) :
    (accepts false text = true → Encoded AnyTrail text) ∧
      (accepts true text = true →
        ∃ trail rest, text = trail :: rest ∧ AnyTrail trail ∧ Encoded AnyTrail rest) := by
  induction text with
  | nil => exact ⟨fun _ => .nil, fun inside => absurd inside (by decide)⟩
  | cons chr rest ih =>
    constructor
    · intro accepted
      rw [accepts] at accepted
      split at accepted
      · rename_i small
        exact .ascii small (ih.1 accepted)
      · split at accepted
        · rename_i first
          obtain ⟨trail, rest, rfl, second, later⟩ := ih.2 accepted
          exact .pair first second later
        · exact absurd accepted Bool.false_ne_true
    · intro accepted
      rw [accepts] at accepted
      split at accepted
      · rename_i second
        exact ⟨chr, rest, rfl, second, ih.1 accepted⟩
      · exact absurd accepted Bool.false_ne_true

theorem accepts_iff : accepts false text = true ↔ Encoded AnyTrail text :=
  ⟨(encoded_of_accepts text).1, accepts_of_encoded⟩

theorem Encoded.append {Trail : UInt8 → Prop} {front back : List UInt8}
    (encoded : Encoded Trail front)
    (later : Encoded Trail back) : Encoded Trail (front ++ back) := by
  induction encoded with
  | nil => exact later
  | ascii small _ ih => exact .ascii small ih
  | pair first second _ ih => exact .pair first second ih

/-- A text of the loop is one of GBK, or has a character that GBK leaves out. -/
theorem gbk_or_delTrail (encoded : Encoded AnyTrail text) : GBK text ∨ DelTrail text := by
  induction encoded with
  | nil => exact .inl .nil
  | ascii small _ ih =>
    rcases ih with gbk | ⟨front, lead, back, rfl, before, first, behind⟩
    · exact .inl (.ascii small gbk)
    · exact .inr ⟨_ :: front, lead, back, rfl, .ascii small before, first, behind⟩
  | @pair first trail rest lead second later ih =>
    by_cases del : trail = 0x7F
    · exact .inr ⟨[], first, rest, by rw [del]; rfl, .nil, lead, later⟩
    · rcases ih with gbk | ⟨front, other, back, rfl, before, otherLead, behind⟩
      · exact .inl (.pair lead ⟨second.1, second.2, del⟩ gbk)
      · exact .inr ⟨first :: trail :: front, other, back, rfl, .pair lead second before, otherLead,
          behind⟩

theorem encoded_of_gbk (gbk : GBK text) : Encoded AnyTrail text := by
  induction gbk with
  | nil => exact .nil
  | ascii small _ ih => exact .ascii small ih
  | pair first second _ ih => exact .pair first ⟨second.1, second.2.1⟩ ih

theorem encoded_of_delTrail (delTrail : DelTrail text) : Encoded AnyTrail text := by
  obtain ⟨front, lead, back, rfl, before, first, behind⟩ := delTrail
  exact before.append (.pair first ⟨by decide, by decide⟩ behind)

theorem Encoded.behind_ascii {Trail : UInt8 → Prop} (small : byte < 0x80)
    (encoded : Encoded Trail (byte :: text)) : Encoded Trail text := by
  cases encoded with
  | ascii _ later => exact later
  | pair first _ _ => exact absurd first (not_lead_of_ascii small)

theorem Encoded.behind_lead {Trail : UInt8 → Prop} (first : 0x81 ≤ lead ∧ lead ≤ 0xFE)
    (encoded : Encoded Trail (lead :: byte :: text)) : Trail byte ∧ Encoded Trail text := by
  cases encoded with
  | ascii small _ => exact absurd first (not_lead_of_ascii small)
  | pair _ second later => exact ⟨second, later⟩

theorem not_gbk_of_delTrail (delTrail : DelTrail text) : ¬ GBK text := by
  obtain ⟨front, lead, back, rfl, before, first, -⟩ := delTrail
  intro gbk
  induction before with
  | nil => exact (gbk.behind_lead first).1.2.2 rfl
  | ascii small _ ih => exact ih (gbk.behind_ascii small)
  | pair lead _ _ ih => exact ih (gbk.behind_lead lead).2

theorem iterate_returned (rounds : Nat) (result : Bool) :
    (GbkScan.round str)^[rounds] (.returned result) = .returned result := by
  induction rounds with
  | zero => rfl
  | succ rounds ih => exact ih

theorem IsGBKReturns.unique {result other : Bool} (returns : IsGBKReturns str result)
    (again : IsGBKReturns str other) : result = other := by
  obtain ⟨rounds, reached⟩ := returns
  obtain ⟨more, later⟩ := again
  have both := congrArg (GbkScan.round str)^[more] reached
  have flip := congrArg (GbkScan.round str)^[rounds] later
  rw [iterate_returned, ← Function.iterate_add_apply] at both flip
  rw [Nat.add_comm, flip] at both
  exact (GbkScan.returned.inj both).symm

theorem round_end {i nBytes : Nat} {bAllAscii : Bool} (ended : str.getD i 0 = 0) :
    GbkScan.round str (.scanning i nBytes bAllAscii) = .returned (decide (nBytes = 0)) := by
  unfold GbkScan.round GbkScan.finish
  dsimp only
  rw [if_pos ended]
  by_cases none : nBytes = 0
  · rw [if_neg (not_not.mpr none), decide_eq_true none]
    split <;> rfl
  · rw [if_pos none, decide_eq_false none]

theorem round_byte {i : Nat} {inside bAllAscii : Bool} {rest : List UInt8} (some : byte ≠ 0)
    (here : str.getD i 0 = byte) :
    (∃ inside' bAllAscii', GbkScan.round str (.scanning i inside.toNat bAllAscii) =
        .scanning ((i + 1) % 2 ^ 32) inside'.toNat bAllAscii' ∧
      accepts inside (byte :: rest) = accepts inside' rest) ∨
    GbkScan.round str (.scanning i inside.toNat bAllAscii) = .returned false ∧
      accepts inside (byte :: rest) = false := by
  unfold GbkScan.round
  dsimp only
  rw [here, if_neg some]
  cases inside with
  | false =>
    have front : false.toNat = 0 := rfl
    rw [if_pos front, accepts]
    by_cases small : byte < 0x80
    · rw [if_neg (UInt8.not_le.mpr small), if_pos small]
      exact .inl ⟨false, _, rfl, rfl⟩
    · rw [if_pos (UInt8.not_lt.mp small), if_neg small]
      by_cases first : 0x81 ≤ byte ∧ byte ≤ 0xFE
      · rw [if_pos first, if_pos first]
        exact .inl ⟨true, _, rfl, rfl⟩
      · rw [if_neg first, if_neg first]
        exact .inr ⟨rfl, rfl⟩
  | true =>
    have behind : ¬ true.toNat = 0 := Nat.one_ne_zero
    rw [if_neg behind, accepts]
    by_cases second : 0x40 ≤ byte ∧ byte ≤ 0xFE
    · have apart : ¬ (byte < 0x40 ∨ 0xFE < byte) := by
        rw [not_or, UInt8.not_lt, UInt8.not_lt]
        exact second
      rw [if_neg apart, if_pos second]
      exact .inl ⟨false, _, rfl, rfl⟩
    · have apart : byte < 0x40 ∨ 0xFE < byte := by
        rwa [not_and_or, UInt8.not_le, UInt8.not_le] at second
      rw [if_pos apart, if_neg second]
      exact .inr ⟨rfl, rfl⟩

/-- As long as `i` does not overflow the loop decides what is accepted. -/
theorem scan_returns (plain : 0 ∉ str) (short : str.length < 2 ^ 32) {i : Nat} {rest : List UInt8}
    (here : str.drop i = rest) (inside bAllAscii : Bool) :
    ∃ rounds, (GbkScan.round str)^[rounds] (.scanning i inside.toNat bAllAscii) =
      .returned (accepts inside rest) := by
  induction rest generalizing i inside bAllAscii with
  | nil =>
    have ended : str.getD i 0 = 0 := by
      rw [List.getD_eq_getElem?_getD, List.getElem?_eq_none (List.drop_eq_nil_iff.mp here)]
      rfl
    refine ⟨1, (round_end ended).trans ?_⟩
    cases inside <;> rfl
  | cons byte rest ih =>
    have inRange : i < str.length := by
      apply Nat.lt_of_not_le
      intro beyond
      rw [List.drop_eq_nil_of_le beyond] at here
      exact List.cons_ne_nil _ _ here.symm
    rw [List.drop_eq_getElem_cons inRange, List.cons.injEq] at here
    obtain ⟨first, later⟩ := here
    have read : str.getD i 0 = byte := by
      rw [List.getD_eq_getElem?_getD, List.getElem?_eq_getElem inRange, first]
      rfl
    have some : byte ≠ 0 := fun zero => plain (zero ▸ first ▸ List.getElem_mem inRange)
    have next : (i + 1) % 2 ^ 32 = i + 1 := Nat.mod_eq_of_lt (by omega)
    rcases @round_byte str byte i inside bAllAscii rest some read with
      ⟨inside', bAllAscii', step, same⟩ | ⟨step, same⟩
    · rw [next] at step
      obtain ⟨rounds, reached⟩ := ih later inside' bAllAscii'
      refine ⟨rounds + 1, ?_⟩
      rw [Function.iterate_succ_apply, step, reached, same]
    · exact ⟨1, step.trans (congrArg GbkScan.returned same.symm)⟩

/-- From 2^32 bytes on `i` never comes to the closing zero. -/
theorem not_true_of_long (plain : 0 ∉ str) (long : 2 ^ 32 ≤ str.length) (rounds : Nat)
    {i : Nat} (low : i < 2 ^ 32) (inside bAllAscii : Bool) :
    (GbkScan.round str)^[rounds] (.scanning i inside.toNat bAllAscii) ≠ .returned true := by
  induction rounds generalizing i inside bAllAscii with
  | zero => exact GbkScan.noConfusion
  | succ rounds ih =>
    have inRange : i < str.length := Nat.lt_of_lt_of_le low long
    have read : str.getD i 0 = str[i] := by
      rw [List.getD_eq_getElem?_getD, List.getElem?_eq_getElem inRange]
      rfl
    have some : str[i] ≠ 0 := fun zero => plain (zero ▸ List.getElem_mem inRange)
    rw [Function.iterate_succ_apply]
    rcases @round_byte str _ i inside bAllAscii [] some read with
      ⟨inside', bAllAscii', step, -⟩ | ⟨step, -⟩
    · rw [step]
      exact ih (Nat.mod_lt _ (Nat.two_pow_pos 32)) inside' bAllAscii'
    · rw [step, iterate_returned]
      exact fun same => Bool.false_ne_true (GbkScan.returned.inj same)

theorem isGBK_returns_iff (plain : 0 ∉ str) :
    IsGBKReturns str true ↔ str.length < 2 ^ 32 ∧ Encoded AnyTrail str := by
  by_cases short : str.length < 2 ^ 32
  · have returns : IsGBKReturns str (accepts false str) :=
      scan_returns plain short (List.drop_zero) false true
    rw [← accepts_iff]
    constructor
    · exact fun accepted => ⟨short, returns.unique accepted⟩
    · rintro ⟨-, accepted⟩
      rwa [accepted] at returns
  · refine iff_of_false ?_ (fun both => short both.1)
    rintro ⟨rounds, reached⟩
    exact not_true_of_long plain (Nat.le_of_not_lt short) rounds (Nat.two_pow_pos 32) false true
      reached

/-- Where `CodeConverter_IsGBK` tells the texts of GBK from the others. -/
theorem isGBK_exact_iff (str : CBytes) : (IsGBKReturns str.bytes true ↔ GBK str.bytes) ↔
    if str.bytes.length < 2 ^ 32 then ¬ DelTrail str.bytes else ¬ GBK str.bytes := by
  rw [isGBK_returns_iff str.terminated]
  split
  case isTrue short =>
    rw [and_iff_right short]
    constructor
    · intro exactly delTrail
      exact not_gbk_of_delTrail delTrail (exactly.mp (encoded_of_delTrail delTrail))
    · intro clear
      exact ⟨fun encoded => (gbk_or_delTrail encoded).resolve_right clear, encoded_of_gbk⟩
  case isFalse long =>
    constructor
    · exact fun exactly gbk => long (exactly.mpr gbk).1
    · exact fun other => iff_of_false (fun both => long both.1) other

/-- A character with the second byte 0x7F. -/
def delText : CBytes := ⟨[0x81, 0x7F], by decide⟩

theorem isGBK_accepts_del : ¬ ∀ str : CBytes, IsGBKReturns str.bytes true ↔ GBK str.bytes := by
  intro exactly
  have accepted : IsGBKReturns delText.bytes true := ⟨3, by decide⟩
  have gbk := (exactly delText).mp accepted
  exact (gbk.behind_lead ⟨by decide, by decide⟩).1.2.2 rfl

end Gb28181.Common
