import Gb28181.Lib.Occurrences
import Gb28181.SipUA.Sdp

/-! `splitString` as the loop it is, for a separator of any length. -/

namespace Gb28181.SipUA

open Gb28181.Lib

/-- `s.find(c, pos)`. -/
def findFrom (s c : Text) (pos : Nat) : Option Nat :=
  if pos ≤ s.length then (strstr (s.drop pos) c).map (pos + ·) else none

/-- The loop, for so many rounds at most: where it leaves `pos1`, and what it has pushed. -/
def splitLoop (s c : Text) : Nat → Nat → Option Nat → List Text → Option (Nat × List Text)
  | _, pos1, none, v => some (pos1, v)
  | 0, _, some _, _ => none
  | rounds + 1, pos1, some pos2, v =>
    splitLoop s c rounds (pos2 + c.length) (findFrom s c (pos2 + c.length))
      (v ++ [(s.drop pos1).take (pos2 - pos1)])

/-- `splitString` where the loop ends within so many rounds. -/
def splitStringWithin (rounds : Nat) (s c : Text) : Option (List Text) :=
  (splitLoop s c rounds 0 (findFrom s c 0) []).map fun (pos1, v) =>
    if pos1 ≠ s.length then v ++ [s.drop pos1] else v

variable {s c : Text} {pos pos1 rounds : Nat} {offsets : List Nat}

theorem findFrom_eq_none (missing : findFrom s c pos = none) (inside : pos ≤ s.length) :
    ∀ offset, pos ≤ offset → ¬ Occurs s c offset := by
  rw [findFrom, if_pos inside, Option.map_eq_none_iff] at missing
  intro offset behind occurs
  obtain ⟨inner, rfl⟩ := Nat.exists_eq_add_of_le behind
  exact strstr_isNone_iff.mp missing inner (occurs_drop.mpr occurs)

theorem findFrom_eq_some {offset : Nat} (found : findFrom s c pos = some offset) :
    pos ≤ offset ∧ Occurs s c offset ∧
      ∀ earlier, pos ≤ earlier → earlier < offset → ¬ Occurs s c earlier := by
  unfold findFrom at found
  by_cases inside : pos ≤ s.length
  · rw [if_pos inside] at found
    obtain ⟨inner, here, rfl⟩ := Option.map_eq_some_iff.mp found
    obtain ⟨occurs, first⟩ := occurs_of_strstr here
    refine ⟨Nat.le_add_right .., occurs_drop.mp occurs, ?_⟩
    intro earlier behind before
    obtain ⟨earlier, rfl⟩ := Nat.exists_eq_add_of_le behind
    exact fun occurs => first earlier (by omega) (occurs_drop.mpr occurs)
  · rw [if_neg inside] at found
    contradiction

/-- The loop goes through the occurrences from left to right, and ends. -/
theorem splitLoop_runs (some : c ≠ []) (inside : pos1 ≤ s.length)
    (enough : s.length ≤ pos1 + rounds) (v : List Text) :
    ∃ offsets, LeftToRight s c pos1 offsets ∧
      splitLoop s c rounds pos1 (findFrom s c pos1) v =
        .some (lastEnd c.length pos1 offsets, v ++ piecesBefore s c.length pos1 offsets) := by
  induction rounds generalizing pos1 v with
  | zero =>
    cases found : findFrom s c pos1 with
    | none =>
      refine ⟨[], findFrom_eq_none found inside, ?_⟩
      rw [splitLoop, piecesBefore, List.append_nil]
      rfl
    | some pos2 =>
      obtain ⟨behind, occurs, -⟩ := findFrom_eq_some found
      have width := occurs.length_le
      have length := List.length_pos_of_ne_nil some
      rw [List.length_drop] at width
      omega
  | succ rounds ih =>
    cases found : findFrom s c pos1 with
    | none =>
      refine ⟨[], findFrom_eq_none found inside, ?_⟩
      rw [splitLoop, piecesBefore, List.append_nil]
      rfl
    | some pos2 =>
      obtain ⟨behind, occurs, first⟩ := findFrom_eq_some found
      have width := occurs.length_le
      have length := List.length_pos_of_ne_nil some
      rw [List.length_drop] at width
      obtain ⟨offsets, later, runs⟩ := @ih (pos2 + c.length) (by omega) (by omega)
        (v ++ [(s.drop pos1).take (pos2 - pos1)])
      refine ⟨pos2 :: offsets, ⟨behind, occurs, first, later⟩, ?_⟩
      rw [splitLoop, runs, piecesBefore, lastEnd, List.append_assoc, List.singleton_append]

theorem lastEnd_le (found : LeftToRight s c pos1 offsets) (inside : pos1 ≤ s.length) (some : c ≠ []) :
    lastEnd c.length pos1 offsets ≤ s.length := by
  induction offsets generalizing pos1 with
  | nil => exact inside
  | cons offset offsets ih =>
    have width := found.2.1.length_le
    have length := List.length_pos_of_ne_nil some
    rw [List.length_drop] at width
    exact ih found.2.2.2 (by omega)

/-- The pieces that `splitString` pushes: those in front of the occurrences, and what follows
the last one unless it is empty. -/
def piecesOf (s c : Text) (offsets : List Nat) : List Text :=
  let rest := s.drop (lastEnd c.length 0 offsets)
  piecesBefore s c.length 0 offsets ++ if rest = [] then [] else [rest]

theorem splitStringWithin_eq (some : c ≠ []) : ∃ offsets, LeftToRight s c 0 offsets ∧
    ∀ rounds, s.length ≤ rounds → splitStringWithin rounds s c = .some (piecesOf s c offsets) := by
  obtain ⟨offsets, found, -⟩ :=
    @splitLoop_runs s c 0 s.length some (Nat.zero_le _) (by omega) []
  refine ⟨offsets, found, ?_⟩
  intro rounds enough
  obtain ⟨others, other, runs⟩ := @splitLoop_runs s c 0 rounds some (Nat.zero_le _) (by omega) []
  obtain rfl := found.unique other
  have last := lastEnd_le found (Nat.zero_le _) some
  rw [splitStringWithin, runs, Option.map_some, piecesOf, List.nil_append]
  dsimp only
  by_cases ends : lastEnd c.length 0 offsets = s.length
  · rw [if_neg (not_not.mpr ends), ends, List.drop_length, if_pos rfl, List.append_nil]
  · have more : s.drop (lastEnd c.length 0 offsets) ≠ [] := by
      rw [ne_eq, List.drop_eq_nil_iff]
      omega
    rw [if_pos ends, if_neg more]

theorem piecesBefore_append_last {separator : Char} (found : LeftToRight s [separator] pos1 offsets) :
    piecesBefore s 1 pos1 offsets ++ (if s.drop (lastEnd 1 pos1 offsets) = [] then []
      else [s.drop (lastEnd 1 pos1 offsets)]) = splitString (s.drop pos1) separator := by
  induction offsets generalizing pos1 with
  | nil => exact (splitString_last found.not_mem_rest).symm
  | cons offset offsets ih =>
    have own := found.rejoin
    have later := found.2.2.2.rejoin
    have after := ih found.2.2.2
    have free := found.not_mem_piece List.mem_cons_self
    rw [List.length_singleton] at own later after
    rw [piecesBefore, List.flatMap_cons, List.append_assoc, List.append_assoc, lastEnd, later] at own
    rw [← own, piecesBefore, List.cons_append, lastEnd, after]
    exact (splitString_cons free _).symm

/-- For one character it is the `splitString` that the SDP functions are stated over. -/
theorem splitStringWithin_char (separator : Char) (enough : s.length ≤ rounds) :
    splitStringWithin rounds s [separator] = some (splitString s separator) := by
  obtain ⟨offsets, found, pieces⟩ := splitStringWithin_eq (s := s) (List.cons_ne_nil separator [])
  rw [pieces rounds enough, piecesOf, List.length_singleton, piecesBefore_append_last found,
    List.drop_zero]

theorem not_mem_piecesOf {separator : Char} (found : LeftToRight s [separator] 0 offsets) {piece : Text}
    (member : piece ∈ piecesOf s [separator] offsets) : separator ∉ piece := by
  rcases List.mem_append.mp member with before | last
  · exact found.not_mem_piece before
  · split at last
    · exact absurd last List.not_mem_nil
    · rw [List.mem_singleton.mp last]
      exact found.not_mem_rest

theorem length_piecesOf : (piecesOf s c offsets).length =
    offsets.length + if s.drop (lastEnd c.length 0 offsets) = [] then 0 else 1 := by
  rw [piecesOf, List.length_append, length_piecesBefore]
  split <;> rfl

/-- Joined again the pieces give the text, less one separator where nothing follows it. -/
theorem intercalate_piecesOf (found : LeftToRight s c 0 offsets) :
    if s.drop (lastEnd c.length 0 offsets) = [] ∧ s ≠ [] then c.intercalate (piecesOf s c offsets) ++ c = s
    else c.intercalate (piecesOf s c offsets) = s := by
  have whole := found.rejoin
  rw [List.drop_zero] at whole
  by_cases rest : s.drop (lastEnd c.length 0 offsets) = []
  · have pieces : piecesOf s c offsets = piecesBefore s c.length 0 offsets := by
      unfold piecesOf
      dsimp only
      rw [if_pos rest, List.append_nil]
    rw [rest, List.append_nil] at whole
    rw [pieces]
    by_cases empty : s = []
    · rw [if_neg (fun both => both.2 empty)]
      cases offsets with
      | nil => exact empty.symm
      | cons offset offsets =>
        have joined := @intercalate_append_name c (piecesBefore s c.length 0 (offset :: offsets))
          (List.cons_ne_nil _ _)
        rw [whole] at joined
        exact (List.append_eq_nil_iff.mp (joined.trans empty)).1.trans empty.symm
    · have some : piecesBefore s c.length 0 offsets ≠ [] := by
        intro none
        rw [none, List.flatMap_nil] at whole
        exact empty whole.symm
      rw [if_pos ⟨rest, empty⟩, intercalate_append_name some]
      exact whole
  · have pieces : piecesOf s c offsets =
        piecesBefore s c.length 0 offsets ++ [s.drop (lastEnd c.length 0 offsets)] := by
      unfold piecesOf
      dsimp only
      rw [if_neg rest]
    rw [if_neg (fun both => rest both.1), pieces, intercalate_concat]
    exact whole

/-- `splitString` ends; its pieces joined give the text again, have no separator of one character
in them, and are as many as the separators allow. -/
theorem splitString_faithful (s c : Text) (separator : c ≠ []) :
    ∃ pieces offsets, (∀ rounds, s.length ≤ rounds → splitStringWithin rounds s c = some pieces) ∧
      LeftToRight s c 0 offsets ∧
      (if s.drop (lastEnd c.length 0 offsets) = [] ∧ s ≠ [] then c.intercalate pieces ++ c = s
        else c.intercalate pieces = s) ∧
      (∀ char, c = [char] → ∀ piece ∈ pieces, char ∉ piece) ∧
      pieces.length = offsets.length + if s.drop (lastEnd c.length 0 offsets) = [] then 0 else 1 := by
  obtain ⟨offsets, found, pieces⟩ := @splitStringWithin_eq s c separator
  refine ⟨piecesOf s c offsets, offsets, pieces, found, intercalate_piecesOf found, ?_,
    length_piecesOf⟩
  rintro char rfl piece member
  exact not_mem_piecesOf found member

theorem splitString_faithful_colons : ∃ pieces : List Text,
    splitStringWithin 7 ['a', ':', ':', ':', 'b', ':', ':'] [':', ':'] = some pieces ∧
      pieces = [['a'], [':', 'b']] := by
  obtain ⟨pieces, offsets, ends, -⟩ :=
    splitString_faithful ['a', ':', ':', ':', 'b', ':', ':'] [':', ':'] (by decide)
  have split := ends 7 (by decide)
  have run : splitStringWithin 7 ['a', ':', ':', ':', 'b', ':', ':'] [':', ':'] =
      some [['a'], [':', 'b']] := by decide
  exact ⟨pieces, split, Option.some.inj (split.symm.trans run)⟩

end Gb28181.SipUA
