import Mathlib.Data.List.Infix
import Mathlib.Data.List.TakeWhile
import Mathlib.Data.Nat.Find
import Mathlib.Data.Int.Order.Basic
import Mathlib.Algebra.Order.Ring.Int
import Mathlib.Tactic.Common

namespace Gb28181.Lib

/-- The characters of an array, or of a C string without its closing zero. -/
abbrev Text := List Char

instance (priority := high) (text : Text) (property : Char → Prop) [DecidablePred property] :
    Decidable (∀ char ∈ text, property char) :=
  List.decidableBAll property text

instance (priority := high) (text : Text) (property : Char → Prop) [DecidablePred property] :
    Decidable (∃ char ∈ text, property char) :=
  List.decidableBEx property text

/-- The characters of a literal, spelled one by one: evaluates faster than `String.toList`. -/
theorem toList_literal {text : Text} (literal : String)
    (spelled : literal = String.ofList text) : literal.toList = text := by
  rw [spelled, String.toList_ofList]

/-- The C string an array holds. -/
def cString (text : Text) : Text := text.takeWhile (· ≠ '\x00')

/-- The offset at which `strstr` finds a name. -/
def strstr (text name : Text) : Option Nat :=
  if name.isPrefixOf text then some 0
  else
    match text with
    | [] => none
    | _ :: rest => (strstr rest name).map (· + 1)

/-- The name stands at an offset of the text. -/
def Occurs (text name : Text) (offset : Nat) : Prop := name <+: text.drop offset

instance (text name : Text) (offset : Nat) : Decidable (Occurs text name offset) :=
  inferInstanceAs (Decidable (name <+: text.drop offset))

variable {text name rest : Text} {offset : Nat} {first : Char}

@[simp] theorem occurs_zero : Occurs text name 0 ↔ name <+: text := Iff.rfl

@[simp] theorem occurs_nil : Occurs [] name offset ↔ name = [] := by
  simp [Occurs]

@[simp] theorem occurs_succ : Occurs (first :: rest) name (offset + 1) ↔ Occurs rest name offset :=
  Iff.rfl

theorem occurs_drop {begin : Nat} :
    Occurs (text.drop begin) name offset ↔ Occurs text name (begin + offset) := by
  unfold Occurs
  rw [List.drop_drop]

theorem strstr_eq_zero (here : name <+: text) : strstr text name = some 0 := by
  rw [strstr.eq_def, if_pos (List.isPrefixOf_iff_prefix.mpr here)]

theorem strstr_cons (missing : ¬ name <+: first :: rest) :
    strstr (first :: rest) name = (strstr rest name).map (· + 1) := by
  rw [strstr.eq_def, if_neg (mt List.isPrefixOf_iff_prefix.mp missing)]

theorem strstr_eq_some (occurs : Occurs text name offset)
    (first : ∀ earlier < offset, ¬ Occurs text name earlier) : strstr text name = some offset := by
  induction offset generalizing text with
  | zero => exact strstr_eq_zero (by simpa using occurs)
  | succ offset ih =>
    have missing : ¬ name <+: text := by simpa using first 0 (Nat.succ_pos _)
    cases text with
    | nil => exact absurd (by simpa using occurs) missing
    | cons head rest =>
      rw [strstr_cons missing, ih (by simpa using occurs)]
      · rfl
      · intro earlier below
        simpa using first (earlier + 1) (Nat.succ_lt_succ below)

theorem strstr_eq_none (nowhere : ∀ offset, ¬ Occurs text name offset) :
    strstr text name = none := by
  induction text with
  | nil => rw [strstr.eq_def, if_neg (mt List.isPrefixOf_iff_prefix.mp (by simpa using nowhere 0))]
  | cons head rest ih =>
    rw [strstr_cons (by simpa using nowhere 0), ih]
    · rfl
    · intro offset
      simpa using nowhere (offset + 1)

theorem occurs_of_strstr (found : strstr text name = some offset) :
    Occurs text name offset ∧ ∀ earlier < offset, ¬ Occurs text name earlier := by
  by_cases somewhere : ∃ offset, Occurs text name offset
  · have least := strstr_eq_some (Nat.find_spec somewhere) (fun _ => Nat.find_min somewhere)
    rw [least] at found
    cases found
    exact ⟨Nat.find_spec somewhere, fun _ => Nat.find_min somewhere⟩
  · rw [strstr_eq_none (not_exists.mp somewhere)] at found
    simp at found

theorem strstr_isNone_iff : strstr text name = none ↔ ∀ offset, ¬ Occurs text name offset := by
  constructor
  · intro missing offset occurs
    have somewhere : ∃ offset, Occurs text name offset := ⟨offset, occurs⟩
    rw [strstr_eq_some (Nat.find_spec somewhere) (fun _ => Nat.find_min somewhere)] at missing
    simp at missing
  · exact strstr_eq_none

/-- `strncmp(text, name, count) == 0` on C strings. -/
def strncmpEq (text name : Text) (count : Nat) : Bool := text.take count = name.take count

def zeroed (size : Nat) : Text := List.replicate size '\x00'

def isSpace (char : Char) : Bool := char = ' ' || ('\t' ≤ char && char ≤ '\r')

/-- The number the leading digits spell. -/
def digitsValue (text : Text) : Int := Nat.ofDigitChars 10 (text.takeWhile Char.isDigit) 0

/-- `strtol` in base ten: blanks, a sign and digits; saturates at 64 bits. -/
def atoll (text : Text) : Int :=
  match text.dropWhile isSpace with
  | '-' :: rest => max (-digitsValue rest) (-2 ^ 63)
  | '+' :: rest => min (digitsValue rest) (2 ^ 63 - 1)
  | rest => min (digitsValue rest) (2 ^ 63 - 1)

/-- `(int) strtol`. -/
def atoi (text : Text) : Int := (atoll text).bmod (2 ^ 32)

/-- What `%d` and `%lld` print. -/
def decimal : Int → Text
  | .ofNat number => Nat.toDigits 10 number
  | .negSucc number => '-' :: Nat.toDigits 10 (number + 1)

private theorem takeWhile_digits (number : Nat)
    (stops : ∀ char ∈ rest.head?, char.isDigit = false) :
    (Nat.toDigits 10 number ++ rest).takeWhile Char.isDigit = Nat.toDigits 10 number := by
  rw [List.takeWhile_append_of_pos (fun char member =>
    Nat.isDigit_of_mem_toDigits (by decide) (by decide) member)]
  cases rest with
  | nil => simp
  | cons head rest => simp [stops head (by simp)]

private theorem toDigits_cons (number : Nat) : ∃ digit digits,
    Nat.toDigits 10 number = digit :: digits ∧ digit.isDigit = true := by
  cases shape : Nat.toDigits 10 number with
  | nil => exact absurd shape Nat.toDigits_ne_nil
  | cons digit digits =>
    refine ⟨digit, digits, rfl, ?_⟩
    apply Nat.isDigit_of_mem_toDigits (b := 10) (n := number) (by decide) (by decide)
    rw [shape]
    exact List.mem_cons_self

private theorem isSpace_of_isDigit {digit : Char} (isDigit : digit.isDigit = true) :
    isSpace digit = false := by
  simp only [Char.isDigit, Bool.and_eq_true, decide_eq_true_eq] at isDigit
  have low : (48 : Nat) ≤ digit.val.toNat := isDigit.1
  simp only [isSpace, Bool.or_eq_false_iff, decide_eq_false_iff_not, Bool.and_eq_false_iff]
  refine ⟨?_, .inr ?_⟩
  · rintro rfl
    exact absurd low (by decide)
  · intro below
    have high : digit.val.toNat ≤ 13 := below
    omega

private theorem atoll_of_digit {digit : Char} (isDigit : digit.isDigit = true) :
    atoll (digit :: rest) = min (digitsValue (digit :: rest)) (2 ^ 63 - 1) := by
  have noSpace : (digit :: rest).dropWhile isSpace = digit :: rest := by
    simp [isSpace_of_isDigit isDigit]
  simp only [atoll, noSpace]
  split
  case h_1 shape =>
    cases shape
    simp [Char.isDigit] at isDigit
  case h_2 shape =>
    cases shape
    simp [Char.isDigit] at isDigit
  case h_3 => rfl

private theorem digitsValue_toDigits (number : Nat)
    (stops : ∀ char ∈ rest.head?, char.isDigit = false) :
    digitsValue (Nat.toDigits 10 number ++ rest) = number := by
  rw [digitsValue, takeWhile_digits number stops, Nat.ofDigitChars_ten_toDigits]

theorem atoll_decimal {number : Int} (low : -2 ^ 63 ≤ number) (high : number < 2 ^ 63)
    (stops : ∀ char ∈ rest.head?, char.isDigit = false) :
    atoll (decimal number ++ rest) = number := by
  cases number with
  | ofNat number =>
    obtain ⟨digit, digits, shape, isDigit⟩ := toDigits_cons number
    have value := digitsValue_toDigits number stops
    simp only [decimal, shape, List.cons_append] at value ⊢
    rw [atoll_of_digit isDigit, value]
    simp only [Int.ofNat_eq_natCast] at high ⊢
    omega
  | negSucc number =>
    have value := digitsValue_toDigits (number + 1) stops
    have sign : atoll ('-' :: (Nat.toDigits 10 (number + 1) ++ rest)) =
        max (-digitsValue (Nat.toDigits 10 (number + 1) ++ rest)) (-2 ^ 63) := rfl
    rw [decimal, List.cons_append, sign, value]
    omega

theorem atoi_decimal {number : Int} (low : -2 ^ 31 ≤ number) (high : number < 2 ^ 31)
    (stops : ∀ char ∈ rest.head?, char.isDigit = false) :
    atoi (decimal number ++ rest) = number := by
  rw [atoi, atoll_decimal (by omega) (by omega) stops]
  exact Int.bmod_eq_of_le (by omega) (by omega)

/-- `strcasecmp(text, other) == 0`. -/
def strcasecmpEq (text other : Text) : Bool := text.map Char.toLower = other.map Char.toLower

theorem eq_of_toLower {char ending : Char} (apart : ending.isAlpha = false)
    (same : char.toLower = ending) : char = ending := by
  unfold Char.toLower at same
  split at same
  · rename_i upper
    have value : char.val.toNat + 32 = ending.val.toNat := by
      rw [← same, UInt32.toNat_add]
      have high : char.val.toNat ≤ 90 := upper.2
      exact (Nat.mod_eq_of_lt (Nat.lt_of_le_of_lt (Nat.add_le_add_right high 32) (by decide))).symm
    have low : 65 ≤ char.val.toNat := upper.1
    have high : char.val.toNat ≤ 90 := upper.2
    have lower : ending.isLower = true := by
      refine (Bool.and_eq_true_iff (x := decide (97 ≤ ending.val))).mpr ⟨?_, ?_⟩
      · exact decide_eq_true (show 97 ≤ ending.val.toNat by omega)
      · exact decide_eq_true (show ending.val.toNat ≤ 122 by omega)
    have letter : ending.isAlpha = true := Bool.or_eq_true_iff.mpr (.inr lower)
    exact absurd (apart.symm.trans letter) Bool.false_ne_true
  · exact same

theorem cString_eq_self (free : '\x00' ∉ text) : cString text = text := by
  apply List.takeWhile_eq_self_iff.mpr
  intro char member
  exact decide_eq_true (fun zero => free (zero ▸ member))

theorem zero_not_mem_cString (text : Text) : '\x00' ∉ cString text := by
  intro member
  exact absurd (List.mem_takeWhile_imp member) (by decide)

theorem mem_decimal {number : Int} {char : Char} (member : char ∈ decimal number) :
    char.isDigit ∨ char = '-' := by
  cases number with
  | ofNat number => exact .inl (Nat.isDigit_of_mem_toDigits (by decide) (by decide) member)
  | negSucc number =>
    rcases List.mem_cons.mp member with sign | digit
    · exact .inr sign
    · exact .inl (Nat.isDigit_of_mem_toDigits (by decide) (by decide) digit)

theorem not_mem_decimal {number : Int} {char : Char} (noDigit : char.isDigit = false)
    (noSign : char ≠ '-') : char ∉ decimal number := by
  intro member
  rcases mem_decimal member with digit | sign
  · rw [noDigit] at digit
    exact Bool.false_ne_true digit
  · exact noSign sign

theorem zero_not_mem_decimal (number : Int) : '\x00' ∉ decimal number :=
  not_mem_decimal (by decide) (by decide)

theorem decimal_ne_nil (number : Int) : decimal number ≠ [] := by
  cases number with
  | ofNat number => exact Nat.toDigits_ne_nil
  | negSucc number => exact List.cons_ne_nil _ _

theorem cString_append (free : '\x00' ∉ text) : cString (text ++ rest) = text ++ cString rest := by
  apply List.takeWhile_append_of_pos
  intro char member
  exact decide_eq_true (fun zero => free (zero ▸ member))

/-- What `strchr` finds behind a text without the character. -/
theorem strstr_char {char : Char} (free : char ∉ text) :
    strstr (text ++ char :: rest) [char] = some text.length := by
  apply strstr_eq_some
  · rw [Occurs, List.drop_left]
    exact ⟨rest, rfl⟩
  · intro earlier before occurs
    rw [Occurs, List.drop_append_of_le_length before.le, List.drop_eq_getElem_cons before,
      List.cons_append, List.cons_prefix_cons] at occurs
    exact free (occurs.1 ▸ List.getElem_mem before)

theorem atoi_digits {space digits : Text} (spaced : ∀ char ∈ space, isSpace char)
    (numeral : digits ≠ [] ∧ ∀ char ∈ digits, char.isDigit)
    (stops : ∀ char ∈ rest.head?, char.isDigit = false)
    (small : Nat.ofDigitChars 10 digits 0 < 2 ^ 31) :
    atoi (space ++ (digits ++ rest)) = Nat.ofDigitChars 10 digits 0 := by
  obtain ⟨digit, others, rfl⟩ := List.exists_cons_of_ne_nil numeral.1
  have behind : (space ++ (digit :: others ++ rest)).dropWhile isSpace = digit :: others ++ rest := by
    rw [List.dropWhile_append_of_pos spaced, List.cons_append, List.dropWhile_cons_of_neg]
    rw [isSpace_of_isDigit (numeral.2 digit List.mem_cons_self)]
    exact Bool.false_ne_true
  have first : (digit :: others ++ rest).dropWhile isSpace = digit :: others ++ rest := by
    rw [List.cons_append, List.dropWhile_cons_of_neg]
    rw [isSpace_of_isDigit (numeral.2 digit List.mem_cons_self)]
    exact Bool.false_ne_true
  have blanks : atoll (space ++ (digit :: others ++ rest)) = atoll (digit :: others ++ rest) := by
    rw [atoll, atoll, behind, first]
  have value : digitsValue (digit :: others ++ rest) = Nat.ofDigitChars 10 (digit :: others) 0 := by
    rw [digitsValue, List.takeWhile_append_of_pos numeral.2]
    cases rest with
    | nil => simp
    | cons head rest => simp [stops head (by simp)]
  rw [atoi, blanks, List.cons_append, atoll_of_digit (numeral.2 digit List.mem_cons_self),
    ← List.cons_append, value]
  rw [min_eq_left (by omega)]
  exact Int.bmod_eq_of_le (by omega) (by omega)

def writeAt (offset : Nat) (text buffer : Text) : Text :=
  buffer.take offset ++ text ++ buffer.drop (offset + text.length)

theorem writeAt_append_right (front : Text) (offset : Nat) (text buffer : Text) :
    writeAt (front.length + offset) text (front ++ buffer) = front ++ writeAt offset text buffer := by
  unfold writeAt
  rw [List.take_length_add_append, Nat.add_assoc, List.drop_length_add_append, List.append_assoc,
    List.append_assoc, List.append_assoc]

theorem writeAt_append_left {offset : Nat} {text buffer : Text} (rest : Text)
    (inside : offset + text.length ≤ buffer.length) :
    writeAt offset text (buffer ++ rest) = writeAt offset text buffer ++ rest := by
  unfold writeAt
  rw [List.take_append_of_le_length (by omega), List.drop_append_of_le_length inside]
  simp only [List.append_assoc]

theorem length_writeAt {offset : Nat} {text buffer : Text}
    (inside : offset + text.length ≤ buffer.length) :
    (writeAt offset text buffer).length = buffer.length := by
  unfold writeAt
  simp only [List.length_append, List.length_take, List.length_drop]
  omega

theorem length_decimal_le_iff (number columns : Nat) (positive : 0 < columns) :
    (decimal (number : Int)).length ≤ columns ↔ number < 10 ^ columns :=
  Nat.length_toDigits_le_iff (by decide) positive

theorem length_decimal_bmod (number : Int) : (decimal (number.bmod (2 ^ 32))).length ≤ 11 := by
  have low := Int.le_bmod (x := number) (m := 2 ^ 32) (by decide)
  have high := Int.bmod_lt (x := number) (m := 2 ^ 32) (by decide)
  generalize number.bmod (2 ^ 32) = value at low high ⊢
  cases value with
  | ofNat value =>
    have small : value < 10 ^ 11 := by
      simp only [Int.ofNat_eq_natCast] at high
      omega
    exact (Nat.length_toDigits_le_iff (by decide) (by decide)).mpr small
  | negSucc value =>
    have small : value + 1 < 10 ^ 10 := by
      simp only [Int.negSucc_eq] at low
      omega
    have digits : (Nat.toDigits 10 (value + 1)).length ≤ 10 :=
      (Nat.length_toDigits_le_iff (by decide) (by decide)).mpr small
    exact Nat.succ_le_succ digits

theorem atoll_range (text : Text) : -2 ^ 63 ≤ atoll text ∧ atoll text < 2 ^ 63 := by
  have natural : ∀ digits, 0 ≤ digitsValue digits := fun digits => Int.natCast_nonneg _
  unfold atoll
  split
  · rename_i rest _
    have positive := natural rest
    omega
  · rename_i rest _
    have positive := natural rest
    omega
  · have positive := natural (text.dropWhile isSpace)
    omega

theorem length_decimal_atoll (text : Text) : (decimal (atoll text)).length ≤ 20 := by
  obtain ⟨low, high⟩ := atoll_range text
  generalize atoll text = value at low high ⊢
  cases value with
  | ofNat value =>
    have small : value < 10 ^ 20 := by
      simp only [Int.ofNat_eq_natCast] at high
      omega
    exact (Nat.length_toDigits_le_iff (by decide) (by decide)).mpr small
  | negSucc value =>
    have small : value + 1 < 10 ^ 19 := by
      simp only [Int.negSucc_eq] at low
      omega
    have digits : (Nat.toDigits 10 (value + 1)).length ≤ 19 :=
      (Nat.length_toDigits_le_iff (by decide) (by decide)).mpr small
    exact Nat.succ_le_succ digits

theorem atoi_range (text : Text) : -2 ^ 31 ≤ atoi text ∧ atoi text < 2 ^ 31 := by
  have low := Int.le_bmod (x := atoll text) (m := 2 ^ 32) (by decide)
  have high := Int.bmod_lt (x := atoll text) (m := 2 ^ 32) (by decide)
  unfold atoi
  omega

end Gb28181.Lib
