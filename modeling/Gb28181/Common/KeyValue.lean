import Gb28181.MediaGate.Gate

/-! `mediaGateGetKeyValue` and `Comm_GetKeyValue`: the value of a key in a string of the form
`k1=v1&k2=v2`, which is how the x line of SDP comes. -/

namespace Gb28181.Common

open Gb28181.Lib

/-- The loop that copies the value to the output buffer. -/
def copyValue (iValMaxSize : Nat) : Text → Nat → Text → Int × Text
  | [], iValLen, pszVal => (iValLen, pszVal)
  | char :: pValPos, iValLen, pszVal =>
    if char = '&' ∨ char = '\r' ∨ char = '\n' then (iValLen, pszVal)
    else if iValLen ≥ iValMaxSize then (-1, pszVal)
    else copyValue iValMaxSize pValPos (iValLen + 1) (pszVal.set iValLen char)

/-- The body of both functions: what they return and leave in `pszVal`; without a result where
the name with its `=` and its closing zero does not fit `szKeyName`. -/
def getKeyValue (pszInStr pszKey pszVal : Text) (iValMaxSize : Nat) : Option (Int × Text) :=
  if pszKey.length + 2 > 1024 then none
  else
    match strstr pszInStr (pszKey ++ ['=']) with
    | none => some (-1, pszVal)
    | some pKeyPos =>
      some (copyValue iValMaxSize (pszInStr.drop (pKeyPos + (pszKey.length + 1))) 0 pszVal)

def mediaGateGetKeyValue : Text → Text → Text → Nat → Option (Int × Text) := getKeyValue

def commGetKeyValue : Text → Text → Text → Nat → Option (Int × Text) := getKeyValue

def isValueEnd (char : Char) : Bool := char = '&' || char = '\r' || char = '\n'

structure Key where
  name : Text
  plain : ∀ char ∈ name, isValueEnd char = false ∧ char ≠ '=' ∧ char ≠ '\x00'

structure KeyValue where
  key : Key
  value : Text
  plain : ∀ char ∈ value, isValueEnd char = false ∧ char ≠ '\x00'

def KeyValue.text (pair : KeyValue) : Text := pair.key.name ++ '=' :: pair.value

def paramText : List KeyValue → Text
  | [] => []
  | pair :: pairs => pair.text ++ pairs.flatMap fun next => '&' :: next.text

/-- The value of the first pair with a key. -/
def valueOf (pairs : List KeyValue) (key : Key) : Option Text :=
  (pairs.find? (·.key.name = key.name)).map KeyValue.value

/-- The value with a zero behind it and its length, where it fits with the zero; else -1. -/
def Answers (pairs : List KeyValue) (key : Key) (size : Nat) (result : Int × Text) : Prop :=
  match valueOf pairs key with
  | none => result.1 = -1
  | some value =>
    if value.length < size then
      result = ((value.length : Int), value ++ zeroed (size - value.length))
    else result.1 = -1

/-- A lookup in a zeroed buffer gives the answer. -/
def LooksUp (lookup : Text → Text → Text → Nat → Option (Int × Text)) (pairs : List KeyValue)
    (key : Key) (size : Nat) : Prop :=
  ∃ result, lookup (paramText pairs) key.name (zeroed size) size = some result ∧
    Answers pairs key size result

/-- What stands behind the first `key=` of a pair: its value where its key ends in this one, or
else a part of it. -/
def KeyValue.behind (key : Key) (pair : KeyValue) : Option Text :=
  if key.name <:+ pair.key.name then some pair.value
  else (strstr pair.value (key.name ++ ['='])).map fun offset =>
    pair.value.drop (offset + (key.name.length + 1))

/-- The name fits its buffer, and the first pair that has `key=` in it has the right value behind
it, or one that is too long where there is no right one. -/
def FindsOwn (pairs : List KeyValue) (key : Key) (size : Nat) : Prop :=
  key.name.length < 1023 ∧
    match pairs.findSome? (KeyValue.behind key) with
    | none => True
    | some read =>
      match valueOf pairs key with
      | none => size < read.length
      | some value => if value.length < size then read = value else size < read.length

variable {key : Key} {pair : KeyValue} {pairs : List KeyValue} {size offset : Nat}
  {text name front rest : Text}

/-- What stands behind the first occurrence of a name, up to the end of a value. -/
def readBehind (text name : Text) : Option Text :=
  (strstr text name).map fun offset =>
    (text.drop (offset + name.length)).takeWhile (!isValueEnd ·)

/-- Behind what is copied already, the loop copies up to the end of the value or of the buffer. -/
theorem copyValue_eq (pValPos done back : Text) :
    copyValue (done.length + back.length) pValPos done.length (done ++ back) =
      let value := pValPos.takeWhile (!isValueEnd ·)
      if back.length < value.length then (-1, done ++ value.take back.length)
      else (((done ++ value).length : Int), done ++ value ++ back.drop value.length) := by
  induction pValPos generalizing done back with
  | nil => simp [copyValue]
  | cons char pValPos ih =>
    unfold copyValue
    dsimp only
    by_cases ends : isValueEnd char
    · have stops : char = '&' ∨ char = '\r' ∨ char = '\n' := by
        simpa [isValueEnd, or_assoc] using ends
      rw [if_pos stops, List.takeWhile_cons_of_neg (by simp [ends])]
      simp
    · have goes : ¬ (char = '&' ∨ char = '\r' ∨ char = '\n') := by
        simpa [isValueEnd, or_assoc] using ends
      rw [if_neg goes, List.takeWhile_cons_of_pos (by simp [ends])]
      cases back with
      | nil => simp
      | cons cell back =>
        have room : ¬ done.length ≥ done.length + (cell :: back).length := by
          rw [List.length_cons]
          omega
        have set : (done ++ cell :: back).set done.length char = done ++ [char] ++ back := by
          rw [List.set_append_right _ _ (Nat.le_refl _), Nat.sub_self, List.set_cons_zero,
            List.append_assoc, List.singleton_append]
        have size : done.length + (cell :: back).length =
            (done ++ [char]).length + back.length := by
          rw [List.length_append, List.length_cons, List.length_singleton]
          omega
        have next : done.length + 1 = (done ++ [char]).length := by
          rw [List.length_append, List.length_singleton]
        rw [if_neg room, set, size, next, ih]
        simp only [List.length_cons, Nat.succ_lt_succ_iff, List.take_succ_cons, List.drop_succ_cons,
          List.append_assoc, List.singleton_append]

/-- What is returned and left in a zeroed buffer where this is read, or nothing. -/
def taken (size : Nat) : Option Text → Int × Text
  | none => (-1, zeroed size)
  | some read =>
    if size < read.length then (-1, read.take size)
    else (read.length, read ++ zeroed (size - read.length))

theorem getKeyValue_eq (fits : name.length < 1023) :
    getKeyValue text name (zeroed size) size =
      some (taken size (readBehind text (name ++ ['=']))) := by
  have room : ¬ name.length + 2 > 1024 := by omega
  have width : (name ++ ['=']).length = name.length + 1 := List.length_append
  unfold getKeyValue readBehind
  rw [if_neg room, width]
  cases strstr text (name ++ ['=']) with
  | none => rfl
  | some pKeyPos =>
    have copied := copyValue_eq (text.drop (pKeyPos + (name.length + 1))) [] (zeroed size)
    have length : (zeroed size).length = size := List.length_replicate
    rw [List.length_nil, Nat.zero_add, List.nil_append, length] at copied
    dsimp only
    rw [copied, Option.map_some]
    generalize (text.drop (pKeyPos + (name.length + 1))).takeWhile (!isValueEnd ·) = value
    unfold taken
    dsimp only
    by_cases long : size < value.length
    · rw [if_pos long, if_pos long]
      rfl
    · rw [if_neg long, if_neg long, List.nil_append, zeroed, List.drop_replicate]
      rfl

/-- The model of the media gate, which has no buffer, says the same of the function. -/
theorem getKeyValue_mediaGate (fits : name.length < 1023) :
    getKeyValue text name (zeroed size) size =
      let found := MediaGate.mediaGateGetKeyValue text name size
      some (found.1, found.2 ++ zeroed (size - found.2.length)) := by
  have ends : (fun char : Char => decide (char ≠ '&' ∧ char ≠ '\r' ∧ char ≠ '\n')) =
      (!isValueEnd ·) := by
    funext char
    refine Bool.eq_iff_iff.mpr ?_
    simp [isValueEnd, and_assoc]
  have equals : "=".toList = ['='] := rfl
  have width : (name ++ ['=']).length = name.length + 1 := List.length_append
  rw [getKeyValue_eq fits]
  unfold MediaGate.mediaGateGetKeyValue readBehind
  rw [equals, ends, width]
  cases strstr text (name ++ ['=']) with
  | none => rfl
  | some pKeyPos =>
    dsimp only [Option.map_some]
    generalize (text.drop (pKeyPos + (name.length + 1))).takeWhile (!isValueEnd ·) = value
    unfold taken
    dsimp only
    by_cases long : size < value.length
    · have full : (value.take size).length = size := List.length_take_of_le long.le
      rw [if_pos long, if_pos long, full, Nat.sub_self]
      exact congrArg some (Prod.ext rfl (List.append_nil _).symm)
    · rw [if_neg long, if_neg long]

theorem prefix_of_prefix_append {char : Char} (free : char ∉ name)
    (occurs : name <+: front ++ char :: rest) : name <+: front := by
  induction name generalizing front with
  | nil => exact List.nil_prefix
  | cons first name ih =>
    cases front with
    | nil =>
      have same := (List.cons_prefix_cons.mp occurs).1
      exact absurd (same ▸ List.mem_cons_self) free
    | cons first' front =>
      obtain ⟨rfl, later⟩ := List.cons_prefix_cons.mp occurs
      exact List.cons_prefix_cons.mpr ⟨rfl, ih (mt (List.mem_cons_of_mem _) free) later⟩

/-- A name without the separator stands in front of it or behind it. -/
theorem strstr_append_cons {char : Char} (free : char ∉ name) (filled : name ≠ []) :
    strstr (front ++ char :: rest) name =
      (strstr front name).or ((strstr rest name).map (· + (front.length + 1))) := by
  induction front with
  | nil =>
    have apart : ¬ name <+: char :: rest := fun occurs =>
      filled (List.prefix_nil.mp (prefix_of_prefix_append free occurs))
    have nowhere : strstr [] name = none :=
      strstr_eq_none fun offset occurs => filled (occurs_nil.mp occurs)
    rw [List.nil_append, strstr_cons apart, nowhere]
    rfl
  | cons first front ih =>
    rw [List.cons_append]
    by_cases here : name <+: first :: front
    · have still : name <+: first :: (front ++ char :: rest) :=
        here.trans (List.prefix_append (first :: front) (char :: rest))
      rw [strstr_eq_zero here, strstr_eq_zero still]
      rfl
    · have still : ¬ name <+: first :: (front ++ char :: rest) := by
        rw [← List.cons_append]
        exact mt (prefix_of_prefix_append free) here
      rw [strstr_cons still, strstr_cons here, ih]
      cases strstr front name with
      | some offset => rfl
      | none => cases strstr rest name <;> rfl

theorem prefix_equals_iff {own value : Text} (free : '=' ∉ name) (ownFree : '=' ∉ own) :
    name ++ ['='] <+: own ++ '=' :: value ↔ name = own := by
  constructor
  · intro occurs
    have inside : name <+: own :=
      prefix_of_prefix_append free ((List.prefix_append name ['=']).trans occurs)
    obtain ⟨more, rfl⟩ := inside
    rw [List.append_assoc, List.prefix_append_right_inj] at occurs
    cases more with
    | nil => exact (List.append_nil name).symm
    | cons first more =>
      have same := (List.cons_prefix_cons.mp occurs).1
      exact absurd (List.mem_append_right name (same ▸ List.mem_cons_self)) ownFree
  · rintro rfl
    exact (List.prefix_append_right_inj name).mpr (List.prefix_append ['='] value)

/-- In a pair, the name with its `=` stands at the end of the pair's name or in the value. -/
theorem strstr_pair {own value : Text} (free : '=' ∉ name) (ownFree : '=' ∉ own) :
    strstr (own ++ '=' :: value) (name ++ ['=']) =
      if name <:+ own then some (own.length - name.length)
      else (strstr value (name ++ ['='])).map (· + (own.length + 1)) := by
  induction own with
  | nil =>
    by_cases none : name = []
    · rw [if_pos (List.suffix_nil.mpr none), none]
      exact strstr_eq_zero (List.prefix_append ['='] value)
    · have apart : ¬ name ++ ['='] <+: [] ++ '=' :: value :=
        mt (prefix_equals_iff free List.not_mem_nil).mp none
      rw [List.nil_append] at apart
      rw [if_neg (mt List.suffix_nil.mp none), List.nil_append, strstr_cons apart]
      rfl
  | cons first own ih =>
    have behind : '=' ∉ own := mt (List.mem_cons_of_mem _) ownFree
    have begins : name ++ ['='] <+: first :: own ++ '=' :: value ↔ name = first :: own :=
      prefix_equals_iff free ownFree
    have shorter : name <:+ first :: own ↔ name = first :: own ∨ name <:+ own :=
      List.suffix_cons_iff
    by_cases same : name = first :: own
    · rw [if_pos (shorter.mpr (.inl same)), strstr_eq_zero (begins.mpr same), same, Nat.sub_self]
    · have apart := mt begins.mp same
      rw [List.cons_append] at apart ⊢
      rw [strstr_cons apart, ih behind]
      by_cases ends : name <:+ own
      · have short := ends.length_le
        rw [if_pos ends, if_pos (shorter.mpr (.inr ends)), Option.map_some, List.length_cons,
          Nat.succ_sub short]
      · rw [if_neg ends, if_neg (mt shorter.mp (not_or.mpr ⟨same, ends⟩)), Option.map_map]
        rfl

theorem takeWhile_append_amp (value rest : Text) :
    (value ++ '&' :: rest).takeWhile (!isValueEnd ·) = value.takeWhile (!isValueEnd ·) := by
  induction value with
  | nil => exact List.takeWhile_cons_of_neg (by decide)
  | cons first value ih =>
    rw [List.cons_append, List.takeWhile_cons, List.takeWhile_cons, ih]

/-- What is not found in front of a `&` is looked for behind it. -/
theorem readBehind_append (free : '&' ∉ name) (filled : name ≠ []) :
    readBehind (front ++ '&' :: rest) name = (readBehind front name).or (readBehind rest name) := by
  unfold readBehind
  rw [strstr_append_cons free filled]
  cases found : strstr front name with
  | some offset =>
    have inside : offset + name.length ≤ front.length := by
      have occurs := (occurs_of_strstr found).1.length_le
      have short := List.length_pos_of_ne_nil filled
      rw [List.length_drop] at occurs
      omega
    simp only [Option.some_or, Option.map_some]
    rw [List.drop_append_of_le_length inside, takeWhile_append_amp]
  | none =>
    cases strstr rest name with
    | none => rfl
    | some offset =>
      have shift : offset + (front.length + 1) + name.length =
          front.length + 1 + (offset + name.length) := by
        omega
      simp only [Option.none_or, Option.map_some, Option.map_none]
      rw [shift, ← List.drop_drop, List.drop_length_add_append]
      rfl

theorem KeyValue.takeWhile_drop (count : Nat) :
    (pair.value.drop count).takeWhile (!isValueEnd ·) = pair.value.drop count := by
  refine List.takeWhile_eq_self_iff.mpr fun char member => ?_
  rw [(pair.plain char (List.mem_of_mem_drop member)).1]
  rfl

theorem Key.not_mem (key : Key) : '=' ∉ key.name := fun member => (key.plain _ member).2.1 rfl

theorem readBehind_text : readBehind pair.text (key.name ++ ['=']) = pair.behind key := by
  unfold readBehind KeyValue.behind KeyValue.text
  rw [strstr_pair key.not_mem pair.key.not_mem]
  by_cases ends : key.name <:+ pair.key.name
  · have short := ends.length_le
    have place : pair.key.name.length - key.name.length + (key.name ++ ['=']).length =
        pair.key.name.length + 1 := by
      rw [List.length_append, List.length_singleton]
      omega
    rw [if_pos ends, if_pos ends, Option.map_some, place, List.drop_length_add_append]
    exact congrArg some (KeyValue.takeWhile_drop 0)
  · rw [if_neg ends, if_neg ends, Option.map_map]
    refine congrArg (Option.map · _) (funext fun offset => ?_)
    have shift : offset + (pair.key.name.length + 1) + (key.name ++ ['=']).length =
        pair.key.name.length + (offset + (key.name.length + 1) + 1) := by
      rw [List.length_append, List.length_singleton]
      omega
    dsimp only [Function.comp_apply]
    rw [shift, List.drop_length_add_append, List.drop_succ_cons, KeyValue.takeWhile_drop]

/-- What is read is what stands behind the first `key=` of the pairs. -/
theorem readBehind_paramText :
    readBehind (paramText pairs) (key.name ++ ['=']) = pairs.findSome? (KeyValue.behind key) := by
  have free : '&' ∉ key.name ++ ['='] := by
    intro member
    rcases List.mem_append.mp member with member | member
    · exact absurd (key.plain _ member).1 (by decide)
    · exact absurd (List.mem_singleton.mp member) (by decide)
  have filled : key.name ++ ['='] ≠ [] := by simp
  induction pairs with
  | nil =>
    have nowhere : strstr [] (key.name ++ ['=']) = none :=
      strstr_eq_none fun offset occurs => filled (occurs_nil.mp occurs)
    rw [readBehind, paramText, nowhere]
    rfl
  | cons pair pairs ih =>
    cases pairs with
    | nil =>
      rw [paramText, List.flatMap_nil, List.append_nil, readBehind_text]
      cases found : pair.behind key <;> simp [found]
    | cons next pairs =>
      have text : paramText (pair :: next :: pairs) =
          pair.text ++ '&' :: paramText (next :: pairs) :=
        rfl
      rw [text, readBehind_append free filled, readBehind_text, ih]
      cases found : pair.behind key <;> simp [found]

theorem behind_of_valueOf {value : Text} (known : valueOf pairs key = some value) :
    pairs.findSome? (KeyValue.behind key) ≠ none := by
  intro missing
  obtain ⟨pair, found, -⟩ := Option.map_eq_some_iff.mp known
  have holds := List.find?_some found
  have same : pair.key.name = key.name := of_decide_eq_true holds
  have nothing := List.findSome?_eq_none_iff.mp missing pair (List.mem_of_find?_eq_some found)
  rw [KeyValue.behind, same, if_pos (List.suffix_refl _)] at nothing
  cases nothing

/-- What is read from the pairs is the answer exactly when it is the own value, or is too long
where there is none that fits. -/
theorem answers_taken_iff :
    Answers pairs key size (taken size (pairs.findSome? (KeyValue.behind key))) ↔
    match pairs.findSome? (KeyValue.behind key) with
    | none => True
    | some read =>
      match valueOf pairs key with
      | none => size < read.length
      | some value => if value.length < size then read = value else size < read.length := by
  unfold Answers
  cases found : pairs.findSome? (KeyValue.behind key) with
  | none =>
    cases known : valueOf pairs key with
    | none => simp [taken]
    | some value => exact absurd found (behind_of_valueOf known)
  | some read =>
    unfold taken
    dsimp only
    by_cases long : size < read.length
    · rw [if_pos long]
      cases valueOf pairs key with
      | none => simp [long]
      | some value =>
        dsimp only
        by_cases short : value.length < size
        · rw [if_pos short, if_pos short]
          constructor
          · intro same
            have lengths : (-1 : Int) = value.length := congrArg Prod.fst same
            omega
          · rintro rfl
            omega
        · rw [if_neg short, if_neg short]
          exact iff_of_true rfl long
    · rw [if_neg long]
      have known : ((read.length : Nat) : Int) ≠ -1 := by omega
      cases valueOf pairs key with
      | none => exact iff_of_false known long
      | some value =>
        dsimp only
        by_cases short : value.length < size
        · rw [if_pos short, if_pos short]
          constructor
          · intro same
            have lengths : ((read.length : Nat) : Int) = value.length := congrArg Prod.fst same
            exact (List.append_inj (congrArg Prod.snd same) (by omega)).1
          · rintro rfl
            rfl
        · rw [if_neg short, if_neg short]
          exact iff_of_false known long

theorem looksUp_getKeyValue_iff : LooksUp getKeyValue pairs key size ↔ FindsOwn pairs key size := by
  unfold LooksUp FindsOwn
  by_cases fits : key.name.length < 1023
  · rw [getKeyValue_eq fits, readBehind_paramText]
    simp only [Option.some.injEq, exists_eq_left', fits, true_and]
    exact answers_taken_iff
  · have overflow : key.name.length + 2 > 1024 := by omega
    refine iff_of_false ?_ fun finds => fits finds.1
    rintro ⟨result, ran, -⟩
    rw [getKeyValue, if_pos overflow] at ran
    cases ran

/-- A lookup answers for the own pair of the key exactly when the first `key=` is in front of the
own value, or of one that is too long where there is none that fits. -/
theorem key_lookup_iff (pairs : List KeyValue) (key : Key) (size : Nat) :
    (LooksUp mediaGateGetKeyValue pairs key size ↔ FindsOwn pairs key size) ∧
      (LooksUp commGetKeyValue pairs key size ↔ FindsOwn pairs key size) :=
  ⟨looksUp_getKeyValue_iff, looksUp_getKeyValue_iff⟩

def idKey : Key := ⟨['i', 'd'], by decide⟩

/-- The string `devid=1&id=2`. -/
def devidFirst : List KeyValue :=
  [⟨⟨['d', 'e', 'v', 'i', 'd'], by decide⟩, ['1'], by decide⟩, ⟨idKey, ['2'], by decide⟩]

/-- The key of an earlier pair may end in the one that is looked up. -/
theorem key_lookup_finds_devid :
    ¬ ∀ (pairs : List KeyValue) (key : Key) (size : Nat),
      LooksUp mediaGateGetKeyValue pairs key size ∧ LooksUp commGetKeyValue pairs key size := by
  intro all
  obtain ⟨result, ran, answers⟩ := (all devidFirst idKey 256).1
  have found : mediaGateGetKeyValue (paramText devidFirst) idKey.name (zeroed 256) 256 =
      some (1, '1' :: zeroed 255) :=
    rfl
  obtain rfl := Option.some.inj (found.symm.trans ran)
  have own : ((1 : Int), '1' :: zeroed 255) = (1, '2' :: zeroed 255) := answers
  exact absurd (List.cons.inj (congrArg Prod.snd own)).1 (by decide)

end Gb28181.Common
