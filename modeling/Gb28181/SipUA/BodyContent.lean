import Gb28181.SipUA.Events

/-! Bodies copied to a buffer: what `SipUA_GetRequestBodyContent` and
`SipUA_GetResponseBodyContent` return and what they leave in the buffer. -/

namespace Gb28181.SipUA

open Gb28181.Lib

/-- What the two functions do with the message of the event. -/
def copyBody (message : Option SipMessage) (pszOutBody : Text) (iMaxBodyLen : Nat) : Int × Text :=
  match message with
  | none => (-1, pszOutBody)
  | some message =>
    match message.body with
    | none => (0, pszOutBody)
    | some body =>
      let ret := (body.length : Int).bmod (2 ^ 32)
      if ret > 0 ∧ ret ≤ iMaxBodyLen then (ret, writeAt 0 (body.take ret.toNat) pszOutBody)
      else (ret, pszOutBody)

/-- `SipUA_GetRequestBodyContent`. -/
def copyRequestBody (event : Event) (pszOutBody : Text) (iMaxBodyLen : Nat) : Int × Text :=
  copyBody event.request pszOutBody iMaxBodyLen

/-- `SipUA_GetResponseBodyContent`. -/
def copyResponseBody (event : Event) (pszOutBody : Text) (iMaxBodyLen : Nat) : Int × Text :=
  copyBody event.response pszOutBody iMaxBodyLen

/-- A positive result is the length of the body, which the buffer holds with a zero behind. -/
def BodyContract (message : Option SipMessage) (result : Int × Text) : Prop :=
  result.1 > 0 → ∃ body, message.bind SipMessage.body = some body ∧ result.1 = body.length ∧
    result.2.take body.length = body ∧ result.2[body.length]? = some '\x00'

/-- The body is shorter than the buffer, or its length is not a positive `int`. -/
def FitsBuffer (message : Option SipMessage) (iMaxBodyLen : Nat) : Prop :=
  ∀ body, message.bind SipMessage.body = some body →
    (body.length : Int).bmod (2 ^ 32) ≤ 0 ∨ ((body.length : Int) < 2 ^ 31 ∧ body.length < iMaxBodyLen)

variable {message : Option SipMessage} {iMaxBodyLen : Nat} {body : Text}

theorem copyBody_none (absent : message.bind SipMessage.body = none) (pszOutBody : Text) :
    (copyBody message pszOutBody iMaxBodyLen).1 ≤ 0 := by
  cases message with
  | none =>
    have failed : (-1 : Int) ≤ 0 := by decide
    exact failed
  | some request =>
    have bodiless : request.body = none := absent
    unfold copyBody
    dsimp only
    rw [bodiless]

theorem copyBody_some (present : message.bind SipMessage.body = some body) (pszOutBody : Text) :
    copyBody message pszOutBody iMaxBodyLen =
      if (body.length : Int).bmod (2 ^ 32) > 0 ∧
          (body.length : Int).bmod (2 ^ 32) ≤ iMaxBodyLen then
        ((body.length : Int).bmod (2 ^ 32),
          writeAt 0 (body.take ((body.length : Int).bmod (2 ^ 32)).toNat) pszOutBody)
      else ((body.length : Int).bmod (2 ^ 32), pszOutBody) := by
  cases message with
  | none => contradiction
  | some request =>
    have there : request.body = some body := present
    unfold copyBody
    dsimp only
    rw [there]

/-- A text written to a zeroed buffer has the zeroes behind it. -/
theorem writeAt_zeroed (text : Text) (size : Nat) :
    writeAt 0 text (zeroed size) = text ++ zeroed (size - text.length) := by
  rw [writeAt, zeroed, List.take_zero, List.nil_append, Nat.zero_add, List.drop_replicate]
  rfl

theorem bodyContract_iff :
    BodyContract message (copyBody message (zeroed iMaxBodyLen) iMaxBodyLen) ↔
      FitsBuffer message iMaxBodyLen := by
  cases present : message.bind SipMessage.body with
  | none =>
    refine iff_of_true ?_ ?_
    · intro positive
      exact absurd (copyBody_none present _) (not_le.mpr positive)
    · intro body there
      rw [present] at there
      contradiction
  | some body =>
    have only : FitsBuffer message iMaxBodyLen ↔ (body.length : Int).bmod (2 ^ 32) ≤ 0 ∨
        ((body.length : Int) < 2 ^ 31 ∧ body.length < iMaxBodyLen) := by
      unfold FitsBuffer
      rw [present]
      simp
    rw [only, copyBody_some present]
    have below : (body.length : Int).bmod (2 ^ 32) < 2 ^ 31 :=
      Int.lt_of_lt_of_le (Int.bmod_lt (by decide)) (by decide)
    have small (narrow : (body.length : Int) < 2 ^ 31) :
        (body.length : Int).bmod (2 ^ 32) = body.length :=
      Int.bmod_eq_of_le (by omega) (by omega)
    generalize (body.length : Int).bmod (2 ^ 32) = ret at below small ⊢
    unfold BodyContract
    constructor
    · intro contract
      rw [or_iff_not_imp_left]
      intro notPositive
      have positive : ret > 0 := lt_of_not_ge notPositive
      -- Either way a cell of the buffer stands behind the body.
      split at contract
      · rename_i copied
        obtain ⟨own, there, same, -, zero⟩ := contract positive
        obtain rfl := Option.some.inj (present.symm.trans there)
        obtain ⟨inside, -⟩ := List.getElem?_eq_some_iff.mp zero
        have room : 0 + (body.take ret.toNat).length ≤ (zeroed iMaxBodyLen).length := by
          rw [List.length_take, zeroed, List.length_replicate]
          omega
        dsimp only at same inside
        rw [length_writeAt room, zeroed, List.length_replicate] at inside
        exact ⟨by omega, inside⟩
      · obtain ⟨own, there, same, -, zero⟩ := contract positive
        obtain rfl := Option.some.inj (present.symm.trans there)
        obtain ⟨inside, -⟩ := List.getElem?_eq_some_iff.mp zero
        dsimp only at same inside
        rw [zeroed, List.length_replicate] at inside
        exact ⟨by omega, inside⟩
    · intro fits returned
      have positive : ret > 0 := by
        split at returned <;> exact returned
      obtain ⟨narrow, inside⟩ := fits.resolve_left (not_le.mpr positive)
      have same := small narrow
      rw [if_pos ⟨positive, by omega⟩]
      dsimp only
      rw [same, Int.toNat_natCast, List.take_length, writeAt_zeroed]
      refine ⟨body, present, rfl, List.take_left, ?_⟩
      rw [List.getElem?_append_right (Nat.le_refl _), Nat.sub_self, zeroed,
        List.getElem?_replicate_of_lt (Nat.sub_pos_of_lt inside)]

/-- Both functions keep the contract where the body of their message fits, and only there. A
handler that goes on with the buffer as a string sees of a body with a zero byte what is in front
of that byte. -/
theorem body_contract_iff (event : Event) (iMaxBodyLen : Nat) :
    (BodyContract event.request (copyRequestBody event (zeroed iMaxBodyLen) iMaxBodyLen) ↔
      FitsBuffer event.request iMaxBodyLen) ∧
    (BodyContract event.response (copyResponseBody event (zeroed iMaxBodyLen) iMaxBodyLen) ↔
      FitsBuffer event.response iMaxBodyLen) :=
  ⟨bodyContract_iff, bodyContract_iff⟩

theorem cString_zeroes (text : Text) (size : Nat) : cString (text ++ zeroed size) = cString text := by
  unfold cString
  induction text with
  | nil =>
    cases size with
    | zero => rfl
    | succ size => rfl
  | cons char text ih =>
    rw [List.cons_append, List.takeWhile_cons, List.takeWhile_cons, ih]

/-- What the handlers work on is the text that stands in their zeroed buffer. -/
theorem sipUAGetRequestBodyContent_eq {event : Event}
    (narrow : ∀ body, event.request.bind SipMessage.body = some body →
      (body.length : Int) < 2 ^ 31) :
    sipUAGetRequestBodyContent event iMaxBodyLen =
      ((copyRequestBody event (zeroed iMaxBodyLen) iMaxBodyLen).1,
        cString (copyRequestBody event (zeroed iMaxBodyLen) iMaxBodyLen).2) := by
  have empty : cString (zeroed iMaxBodyLen) = [] := cString_zeroes [] iMaxBodyLen
  unfold sipUAGetRequestBodyContent copyRequestBody copyBody
  cases there : event.request with
  | none =>
    dsimp only
    rw [empty]
  | some request =>
    dsimp only
    cases own : request.body with
    | none =>
      dsimp only
      rw [empty]
    | some body =>
      have short := narrow body (by rw [there]; exact own)
      have same : (body.length : Int).bmod (2 ^ 32) = body.length :=
        Int.bmod_eq_of_le (by omega) (by omega)
      dsimp only
      rw [same]
      by_cases room : 0 < body.length ∧ body.length ≤ iMaxBodyLen
      · have copied : (body.length : Int) > 0 ∧ (body.length : Int) ≤ iMaxBodyLen := by omega
        rw [if_pos room, if_pos copied]
        dsimp only
        rw [Int.toNat_natCast, List.take_length, writeAt_zeroed, cString_zeroes]
      · have left : ¬ ((body.length : Int) > 0 ∧ (body.length : Int) ≤ iMaxBodyLen) := by omega
        rw [if_neg room, if_neg left]
        dsimp only
        rw [empty]

def longMessage : SipMessage :=
  ⟨0, "MESSAGE".toList, none, none, none, none, none, none, none, some (List.replicate 4097 'a')⟩

def longEvent : Event :=
  { type := .messageNew, tid := 1, did := 0, cid := 0, request := some longMessage, response := none }

/-- Its handler goes on with the length of the body and an empty buffer. -/
theorem long_body_empty :
    copyRequestBody longEvent (zeroed 4096) 4096 = (4097, zeroed 4096) ∧
    ¬ BodyContract longEvent.request (copyRequestBody longEvent (zeroed 4096) 4096) := by
  have body : longEvent.request.bind SipMessage.body = some (List.replicate 4097 'a') := rfl
  have copied : copyRequestBody longEvent (zeroed 4096) 4096 = (4097, zeroed 4096) := by
    rw [copyRequestBody, copyBody_some body, List.length_replicate]
    rfl
  refine ⟨copied, ?_⟩
  rw [copied]
  intro contract
  obtain ⟨own, there, same, -, zero⟩ := contract (by decide)
  obtain ⟨inside, -⟩ := List.getElem?_eq_some_iff.mp zero
  dsimp only at same inside
  rw [zeroed, List.length_replicate] at inside
  omega

end Gb28181.SipUA
