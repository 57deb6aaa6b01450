import Mathlib.Data.List.Perm.Basic
import Mathlib.Data.List.Nodup
import Mathlib.Order.Lattice
import Mathlib.Order.Defs.LinearOrder

/-! Maps as lists of entries in strictly ascending key order, walked and searched the
way a `std::map` is. -/

namespace Gb28181.Lib

universe u v

/-- One element and those with another key, where no key occurs twice. -/
theorem perm_cons_filter {Key : Type u} {Entry : Type v} [DecidableEq Key] {entries : List Entry}
    {key : Entry → Key} {entry : Entry} (apart : (entries.map key).Nodup)
    (there : entry ∈ entries) :
    entries.Perm (entry :: entries.filter (fun other => key other ≠ key entry)) := by
  refine (List.perm_ext_iff_of_nodup apart.of_map ?_).mpr ?_
  · refine List.nodup_cons.mpr ⟨?_, apart.of_map.filter _⟩
    simp
  · intro other
    simp only [List.mem_cons, List.mem_filter, decide_eq_true_eq]
    constructor
    · intro member
      by_cases same : key other = key entry
      · exact .inl (List.inj_on_of_nodup_map apart member there same)
      · exact .inr ⟨member, same⟩
    · rintro (rfl | ⟨member, _⟩)
      · exact there
      · exact member

variable {Key : Type u} {Value : Type v} [LinearOrder Key]

/-- A map; its entries stand in ascending key order, so no key occurs twice. -/
@[ext] structure OrderedMap (Key : Type u) (Value : Type v) [LinearOrder Key] where
  entries : List (Key × Value)
  ascending : entries.Pairwise (fun left right => left.1 < right.1)

namespace OrderedMap

instance [DecidableEq Value] : DecidableEq (OrderedMap Key Value) :=
  fun left right => decidable_of_iff (left.entries = right.entries) OrderedMap.ext_iff.symm

def empty : OrderedMap Key Value := ⟨[], List.Pairwise.nil⟩

def keys (map : OrderedMap Key Value) : List Key := map.entries.map Prod.fst

def find (map : OrderedMap Key Value) (key : Key) : Option Value :=
  (map.entries.find? (fun entry => entry.1 = key)).map Prod.snd

def placed (key : Key) (value : Value) : List (Key × Value) → List (Key × Value)
  | [] => [(key, value)]
  | entry :: rest =>
    if key < entry.1 then (key, value) :: entry :: rest
    else if key = entry.1 then entry :: rest
    else entry :: placed key value rest

theorem mem_of_mem_placed {key : Key} {value : Value} {entry : Key × Value}
    {entries : List (Key × Value)} (member : entry ∈ placed key value entries) :
    entry = (key, value) ∨ entry ∈ entries := by
  induction entries with
  | nil => simpa [placed] using member
  | cons first rest ih =>
    rw [placed] at member
    split at member
    · simpa using member
    · split at member
      · exact .inr member
      · rcases List.mem_cons.mp member with rfl | later
        · simp
        · rcases ih later with new | old
          · exact .inl new
          · exact .inr (List.mem_cons_of_mem _ old)

theorem ascending_placed {key : Key} {value : Value} {entries : List (Key × Value)}
    (ascending : entries.Pairwise (fun left right => left.1 < right.1)) :
    (placed key value entries).Pairwise (fun left right => left.1 < right.1) := by
  induction entries with
  | nil => simp [placed]
  | cons first rest ih =>
    obtain ⟨below, later⟩ := List.pairwise_cons.mp ascending
    rw [placed]
    split
    case isTrue smaller =>
      refine List.pairwise_cons.mpr ⟨?_, ascending⟩
      intro entry member
      rcases List.mem_cons.mp member with rfl | behind
      · exact smaller
      · exact smaller.trans (below entry behind)
    case isFalse notSmaller =>
      split
      case isTrue => exact ascending
      case isFalse different =>
        refine List.pairwise_cons.mpr ⟨?_, ih later⟩
        intro entry member
        rcases mem_of_mem_placed member with rfl | behind
        · exact lt_of_le_of_ne (not_lt.mp notSmaller) (Ne.symm different)
        · exact below entry behind

/-- `std::map::insert`: an entry that is there stays. -/
def insert (map : OrderedMap Key Value) (key : Key) (value : Value) : OrderedMap Key Value :=
  ⟨placed key value map.entries, ascending_placed map.ascending⟩

/-- What is kept of the entries under a condition. -/
def keep (map : OrderedMap Key Value) (condition : Key × Value → Bool) : OrderedMap Key Value :=
  ⟨map.entries.filter condition, map.ascending.filter condition⟩

def erase (map : OrderedMap Key Value) (key : Key) : OrderedMap Key Value :=
  map.keep (fun entry => entry.1 ≠ key)

/-- `map[key] = value`. -/
def assign (map : OrderedMap Key Value) (key : Key) (value : Value) : OrderedMap Key Value :=
  (map.erase key).insert key value

/-- The value under a key changed in place. -/
def modify (map : OrderedMap Key Value) (key : Key) (change : Value → Value) :
    OrderedMap Key Value :=
  ⟨map.entries.map (fun entry => if entry.1 = key then (entry.1, change entry.2) else entry), by
    refine List.Pairwise.map _ ?_ map.ascending
    intro left right below
    split <;> split <;> exact below⟩

variable {map : OrderedMap Key Value} {key other : Key} {value : Value} {entry : Key × Value}

@[simp] theorem entries_empty : (empty : OrderedMap Key Value).entries = [] := rfl

@[simp] theorem mem_keep {condition : Key × Value → Bool} :
    entry ∈ (map.keep condition).entries ↔ entry ∈ map.entries ∧ condition entry = true :=
  List.mem_filter

@[simp] theorem mem_erase :
    entry ∈ (map.erase key).entries ↔ entry ∈ map.entries ∧ entry.1 ≠ key := by
  simp [erase]

theorem mem_of_find (found : map.find key = some value) : (key, value) ∈ map.entries := by
  obtain ⟨entry, first, rfl⟩ := Option.map_eq_some_iff.mp found
  have same : entry.1 = key := by simpa using List.find?_some first
  rw [← same]
  exact List.mem_of_find?_eq_some first

theorem find_eq_none : map.find key = none ↔ ∀ entry ∈ map.entries, entry.1 ≠ key := by
  simp [find]

theorem mem_keys : key ∈ map.keys ↔ ∃ value, (key, value) ∈ map.entries := by
  simp [keys]

theorem mem_keys_of_find (found : map.find key = some value) : key ∈ map.keys :=
  mem_keys.mpr ⟨value, mem_of_find found⟩

theorem nodup_keys (map : OrderedMap Key Value) : map.keys.Nodup :=
  (List.pairwise_map.mpr map.ascending).imp ne_of_lt

theorem eq_of_mem (left : (key, value) ∈ map.entries) {value' : Value}
    (right : (key, value') ∈ map.entries) : value = value' :=
  (Prod.mk.inj (List.inj_on_of_nodup_map map.nodup_keys left right rfl)).2

/-- The entry found is the one the map has under the key. -/
theorem find_eq_some : map.find key = some value ↔ (key, value) ∈ map.entries := by
  constructor
  · exact mem_of_find
  · intro member
    cases found : map.find key with
    | none => exact absurd rfl (find_eq_none.mp found _ member)
    | some value' => rw [eq_of_mem member (mem_of_find found)]

theorem mem_modify {change : Value → Value} :
    entry ∈ (map.modify key change).entries ↔
      ∃ old ∈ map.entries, (if old.1 = key then (old.1, change old.2) else old) = entry := by
  simp [modify]

@[simp] theorem keys_modify (change : Value → Value) :
    (map.modify key change).keys = map.keys := by
  simp only [keys, modify, List.map_map]
  refine List.map_congr_left ?_
  intro entry _
  simp only [Function.comp_apply]
  split <;> rfl

private theorem placed_perm {entries : List (Key × Value)}
    (absent : ∀ entry ∈ entries, entry.1 ≠ key) :
    (placed key value entries).Perm ((key, value) :: entries) := by
  induction entries with
  | nil => exact List.Perm.refl _
  | cons first rest ih =>
    rw [placed]
    split
    · exact List.Perm.refl _
    · rw [if_neg (Ne.symm (absent first (by simp)))]
      have later := ih (fun entry member => absent entry (by simp [member]))
      exact (later.cons first).trans (List.Perm.swap _ _ _)

theorem insert_perm (absent : map.find key = none) :
    (map.insert key value).entries.Perm ((key, value) :: map.entries) :=
  placed_perm (find_eq_none.mp absent)

theorem mem_insert (absent : map.find key = none) :
    entry ∈ (map.insert key value).entries ↔ entry = (key, value) ∨ entry ∈ map.entries := by
  rw [(insert_perm absent).mem_iff, List.mem_cons]

/-- The entry under a key, and those the erasure leaves. -/
theorem erase_perm (found : map.find key = some value) :
    map.entries.Perm ((key, value) :: (map.erase key).entries) :=
  perm_cons_filter map.nodup_keys (mem_of_find found)

private theorem placed_there {entries : List (Key × Value)}
    (ascending : entries.Pairwise (fun left right => left.1 < right.1))
    (there : entry ∈ entries) : placed entry.1 value entries = entries := by
  induction entries with
  | nil => exact nomatch there
  | cons first rest ih =>
    obtain ⟨below, later⟩ := List.pairwise_cons.mp ascending
    rw [placed]
    rcases List.mem_cons.mp there with rfl | behind
    · simp
    · have above := below entry behind
      rw [if_neg above.asymm, if_neg above.ne', ih later behind]

theorem insert_there (there : (map.find key).isSome) : map.insert key value = map := by
  obtain ⟨old, found⟩ := Option.isSome_iff_exists.mp there
  exact OrderedMap.ext (placed_there map.ascending (mem_of_find found))

theorem find_erase : (map.erase key).find other = if other = key then none else map.find other := by
  split
  case isTrue same =>
    subst same
    exact find_eq_none.mpr (fun entry member => (mem_erase.mp member).2)
  case isFalse apart =>
    apply Option.ext
    intro value
    rw [find_eq_some, find_eq_some, mem_erase]
    exact and_iff_left apart

/-- A new key is found with its value, and every other key as before. -/
theorem find_insert (absent : map.find key = none) :
    (map.insert key value).find other = if other = key then some value else map.find other := by
  split
  case isTrue same =>
    subst same
    exact find_eq_some.mpr ((mem_insert absent).mpr (.inl rfl))
  case isFalse apart =>
    apply Option.ext
    intro found
    rw [find_eq_some, find_eq_some, mem_insert absent]
    exact or_iff_right (fun same => apart (Prod.mk.inj same).1)

theorem find_assign :
    (map.assign key value).find other = if other = key then some value else map.find other := by
  have absent : (map.erase key).find key = none := by
    rw [find_erase, if_pos rfl]
  rw [assign, find_insert absent, find_erase]
  by_cases same : other = key
  · rw [if_pos same, if_pos same]
  · rw [if_neg same, if_neg same, if_neg same]

theorem of_find_assign {found : Value} (there : (map.assign key value).find other = some found) :
    (other = key ∧ found = value) ∨ map.find other = some found := by
  rw [find_assign] at there
  by_cases same : other = key
  · rw [if_pos same] at there
    exact .inl ⟨same, (Option.some.inj there).symm⟩
  · rw [if_neg same] at there
    exact .inr there

theorem find_modify {change : Value → Value} : (map.modify key change).find other =
    if other = key then (map.find key).map change else map.find other := by
  apply Option.ext
  intro found
  rw [find_eq_some, mem_modify]
  split
  case isTrue same =>
    subst same
    rw [Option.map_eq_some_iff]
    constructor
    · rintro ⟨old, member, changed⟩
      split at changed
      case isTrue there =>
        cases changed
        exact ⟨old.2, find_eq_some.mpr (there ▸ member), rfl⟩
      case isFalse apart =>
        rw [changed] at apart
        exact absurd rfl apart
    · rintro ⟨old, there, rfl⟩
      exact ⟨(other, old), find_eq_some.mp there, if_pos rfl⟩
  case isFalse apart =>
    rw [find_eq_some]
    constructor
    · rintro ⟨old, member, changed⟩
      split at changed
      case isTrue there =>
        cases changed
        exact absurd there apart
      case isFalse => exact changed ▸ member
    · intro member
      exact ⟨(other, found), member, if_neg apart⟩

@[simp] theorem isSome_find_modify {change : Value → Value} :
    ((map.modify key change).find other).isSome = (map.find other).isSome := by
  rw [find_modify]
  by_cases same : other = key
  · rw [if_pos same, same, Option.isSome_map]
  · rw [if_neg same]

theorem of_find_modify {change : Value → Value} {found : Value}
    (there : (map.modify key change).find other = some found) :
    ∃ before, map.find other = some before ∧ (found = before ∨ found = change before) := by
  rw [find_modify] at there
  by_cases same : other = key
  · rw [if_pos same, ← same] at there
    obtain ⟨before, known, changed⟩ := Option.map_eq_some_iff.mp there
    exact ⟨before, known, .inr changed.symm⟩
  · rw [if_neg same] at there
    exact ⟨found, there, .inl rfl⟩

theorem mem_of_mem_insert (member : entry ∈ (map.insert key value).entries) :
    entry = (key, value) ∨ entry ∈ map.entries :=
  mem_of_mem_placed member

end OrderedMap

end Gb28181.Lib
