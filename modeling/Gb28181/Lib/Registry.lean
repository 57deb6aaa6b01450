import Mathlib.Data.List.Nodup

namespace Gb28181.Lib

universe u

variable {Row : Type u} {before after later : List (Nat × Row)} {bound next : Nat}
  {wanted : Nat × Row → Bool} {row : Nat × Row}

/-- Rows under different numbers below the bound. -/
structure Numbered (bound : Nat) (rows : List (Nat × Row)) : Prop where
  nodup : (rows.map Prod.fst).Nodup
  below : ∀ row ∈ rows, row.1 < bound

/-- Rows went, and rows came under numbers from the bound on. -/
def Grown (bound : Nat) (before after : List (Nat × Row)) : Prop :=
  ∃ new, after.Sublist (before ++ new) ∧ ∀ row ∈ new, bound ≤ row.1

theorem Numbered.mono (numbered : Numbered bound before) (le : bound ≤ next) :
    Numbered next before :=
  ⟨numbered.nodup, fun row member => Nat.lt_of_lt_of_le (numbered.below row member) le⟩

theorem Numbered.sublist (numbered : Numbered bound before) (sub : after.Sublist before) :
    Numbered bound after :=
  ⟨numbered.nodup.sublist (sub.map Prod.fst), fun row member =>
    numbered.below row (sub.subset member)⟩

theorem Numbered.concat (numbered : Numbered bound before) (content : Row) :
    Numbered (bound + 1) (before ++ [(bound, content)]) := by
  refine ⟨?_, fun row member => ?_⟩
  · rw [List.map_append]
    refine List.Nodup.append numbered.nodup (List.nodup_singleton _) ?_
    intro number old new
    obtain ⟨row, member, same⟩ := List.mem_map.mp old
    rw [List.mem_singleton.mp new] at same
    exact absurd same (Nat.ne_of_lt (numbered.below row member))
  · rcases List.mem_append.mp member with old | new
    · exact Nat.lt_succ_of_lt (numbered.below row old)
    · rw [List.mem_singleton.mp new]
      exact Nat.lt_succ_self bound

theorem Grown.refl (rows : List (Nat × Row)) : Grown bound rows rows :=
  ⟨[], by rw [List.append_nil], fun _ member => absurd member List.not_mem_nil⟩

theorem Grown.sublist (sub : after.Sublist before) : Grown bound before after :=
  ⟨[], by rwa [List.append_nil], fun _ member => absurd member List.not_mem_nil⟩

theorem Grown.concat (content : Row) : Grown bound before (before ++ [(bound, content)]) :=
  ⟨[(bound, content)], .refl _, fun _ member =>
    Nat.le_of_eq (congrArg Prod.fst (List.mem_singleton.mp member)).symm⟩

theorem Grown.trans (first : Grown bound before after) (second : Grown next after later)
    (le : bound ≤ next) : Grown bound before later := by
  obtain ⟨new, sub, above⟩ := first
  obtain ⟨newer, subLater, aboveLater⟩ := second
  refine ⟨new ++ newer, ?_, fun row member => ?_⟩
  · rw [← List.append_assoc]
    exact subLater.trans (sub.append_right newer)
  · rcases List.mem_append.mp member with old | recent
    · exact above row old
    · exact Nat.le_trans le (aboveLater row recent)

/-- A number that is still there is still that of its row. -/
theorem mem_of_grown (numbered : Numbered bound before) (grown : Grown bound before after)
    (member : row ∈ before) (stays : row.1 ∈ after.map Prod.fst) : row ∈ after := by
  obtain ⟨new, sub, above⟩ := grown
  obtain ⟨other, there, same⟩ := List.mem_map.mp stays
  rcases List.mem_append.mp (sub.subset there) with old | recent
  · exact List.inj_on_of_nodup_map numbered.nodup old member same ▸ there
  · have below := numbered.below row member
    rw [← same] at below
    exact absurd below (Nat.not_lt.mpr (above other recent))

theorem find?_of_grown (numbered : Numbered bound before) (grown : Grown bound before after)
    (found : before.find? wanted = some row) (stays : row.1 ∈ after.map Prod.fst) :
    after.find? wanted = some row := by
  have there := mem_of_grown numbered grown (List.mem_of_find?_eq_some found) stays
  obtain ⟨fits, front, back, split, others⟩ := List.find?_eq_some_iff_append.mp found
  obtain ⟨new, sub, above⟩ := grown
  have once := numbered.nodup
  rw [split, List.map_append, List.map_cons] at once
  obtain ⟨-, behind, apart⟩ := List.nodup_append.mp once
  have notInFront : row ∉ front := fun early =>
    apart row.1 (List.mem_map_of_mem early) row.1 List.mem_cons_self rfl
  have notBehind : row ∉ back ++ new := by
    intro late
    rcases List.mem_append.mp late with old | recent
    · exact (List.nodup_cons.mp behind).1 (List.mem_map_of_mem old)
    · have below := numbered.below row (List.mem_of_find?_eq_some found)
      exact absurd below (Nat.not_lt.mpr (above row recent))
  rw [split, List.append_assoc] at sub
  obtain ⟨left, right, parts, inFront, inBack⟩ := List.sublist_append_iff.mp sub
  have inRight : row ∈ right := by
    rw [parts] at there
    exact (List.mem_append.mp there).resolve_left fun early => notInFront (inFront.subset early)
  rcases List.sublist_cons_iff.mp inBack with skipped | ⟨rest, starts, _⟩
  · exact absurd (skipped.subset inRight) notBehind
  · refine List.find?_eq_some_iff_append.mpr ⟨fits, left, rest, ?_, fun other early => ?_⟩
    · rw [parts, starts]
    · exact others other (inFront.subset early)

/-- A row that is the first of its kind when it comes stays so. -/
theorem find?_concat {content : Row} (missing : before.find? wanted = none)
    (fits : wanted (bound, content)) :
    (before ++ [(bound, content)]).find? wanted = some (bound, content) := by
  rw [List.find?_append, missing, Option.none_or, List.find?_singleton, if_pos fits]

end Gb28181.Lib
