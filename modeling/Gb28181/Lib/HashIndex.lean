import Mathlib.Data.List.Basic

namespace Gb28181.Lib

universe u

variable {Key : Type u} (slot : Key → Nat)

/-- The keys go into their slots one after the other, under their positions; where a slot is
taken, the index fails. -/
def fillSlots : List Key → Nat → List (Option Nat) → Option (List (Option Nat))
  | [], _, table => some table
  | key :: keys, position, table =>
    match table[slot key]? with
    | some none => fillSlots keys (position + 1) (table.set (slot key) (some position))
    | _ => none

/-- The position in the slot of a key, if the key that stands there is the one that is looked
for. -/
def searchSlot [DecidableEq Key] (keys : List Key) (table : List (Option Nat)) (key : Key) : Option Nat :=
  match table[slot key]? with
  | some (some position) => if keys[position]? = some key then some position else none
  | _ => none

variable {slot} {keys done : List Key} {table built : List (Option Nat)}

/-- A slot holds the position of the one key that belongs there. -/
def Indexes (slot : Key → Nat) (keys : List Key) (table : List (Option Nat)) : Prop :=
  ∀ place position, table[place]? = some (some position) ↔
    place < table.length ∧ ∃ key, keys[position]? = some key ∧ slot key = place

theorem Indexes.empty (size : Nat) : Indexes slot [] (List.replicate size none) := by
  intro place position
  simp [List.getElem?_replicate]

theorem Indexes.insert {key : Key} (indexes : Indexes slot done table)
    (free : table[slot key]? = some none) :
    Indexes slot (done ++ [key]) (table.set (slot key) (some done.length)) := by
  have inside : slot key < table.length := (List.getElem?_eq_some_iff.mp free).1
  have unused (position : Nat) (other : Key) (old : done[position]? = some other) :
      slot other ≠ slot key := by
    intro same
    have taken := (indexes (slot key) position).mpr ⟨inside, other, old, same⟩
    rw [free] at taken
    cases taken
  intro place position
  rw [List.length_set]
  by_cases own : slot key = place
  · subst own
    rw [List.getElem?_set_self inside]
    constructor
    · intro same
      cases same
      exact ⟨inside, key, List.getElem?_concat_length, rfl⟩
    · rintro ⟨-, other, here, same⟩
      rcases Nat.lt_trichotomy position done.length with old | new | beyond
      · rw [List.getElem?_append_left old] at here
        exact absurd same (unused position other here)
      · rw [new]
      · rw [List.getElem?_eq_none (by simp; omega)] at here
        cases here
  · rw [List.getElem?_set_ne own, indexes place position]
    refine and_congr_right fun _ => exists_congr fun other => ?_
    refine and_congr_left fun same => ?_
    by_cases old : position < done.length
    · rw [List.getElem?_append_left old]
    · rw [List.getElem?_eq_none (Nat.le_of_not_lt old)]
      rw [List.getElem?_append_right (Nat.le_of_not_lt old)]
      constructor
      · intro same
        cases same
      · intro here
        have last : other = key := List.mem_singleton.mp (List.mem_of_getElem? here)
        exact absurd (last ▸ same) own

theorem fillSlots_indexes (indexes : Indexes slot done table)
    (filled : fillSlots slot keys done.length table = some built) :
    Indexes slot (done ++ keys) built ∧ built.length = table.length ∧
      ∀ key ∈ keys, slot key < table.length := by
  induction keys generalizing done table with
  | nil =>
    cases filled
    simp [indexes]
  | cons key keys ih =>
    unfold fillSlots at filled
    split at filled
    · rename_i free
      have inside : slot key < table.length := (List.getElem?_eq_some_iff.mp free).1
      have longer : (done ++ [key]).length = done.length + 1 := by simp
      rw [← longer] at filled
      obtain ⟨all, size, others⟩ := ih (indexes.insert free) filled
      rw [List.append_assoc] at all
      rw [List.length_set] at size others
      exact ⟨all, size, List.forall_mem_cons.mpr ⟨inside, others⟩⟩
    · cases filled

/-- A key is found in its slot where a search through all keys finds it, and only there. -/
theorem searchSlot_eq_findIdx? [DecidableEq Key] {size : Nat}
    (filled : fillSlots slot keys 0 (List.replicate size none) = some built) (key : Key) :
    searchSlot slot keys built key = keys.findIdx? (· = key) := by
  have start : Indexes slot [] (List.replicate size none) := Indexes.empty size
  obtain ⟨indexes, same, fits⟩ := fillSlots_indexes start filled
  rw [List.nil_append] at indexes
  cases search : keys.findIdx? (· = key) with
  | none =>
    have absent := List.findIdx?_eq_none_iff.mp search
    unfold searchSlot
    split
    · rename_i position _
      refine if_neg fun here => ?_
      simpa using absent key (List.mem_of_getElem? here)
    · rfl
  | some position =>
    obtain ⟨inside, here, -⟩ := List.findIdx?_eq_some_iff_getElem.mp search
    have here : keys[position]? = some key := by simpa [inside] using here
    have taken := (indexes (slot key) position).mpr
      ⟨same ▸ fits key (List.mem_of_getElem? here), key, here, rfl⟩
    rw [searchSlot, taken]
    exact if_pos here

end Gb28181.Lib
