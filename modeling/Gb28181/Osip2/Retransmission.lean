import Gb28181.Lib.Backoff
import Gb28181.Osip2.Timers

namespace Gb28181.Osip2

open Gb28181.Lib Gb28181.Osip

variable {Header : Type}

/-- The request of a client is passed to `cb_send_message`. -/
def Effect.asks : Effect Header → Bool
  | .send (some message) =>
    evtSetTypeIncomingSipmessage message.sip = .rcvReqinvite ∨
      evtSetTypeIncomingSipmessage message.sip = .rcvRequest
  | _ => false

/-- The states in which a client sends its request again. -/
def State.isAsking : State → Bool
  | .ictCalling | .nictTrying | .nictProceeding => true
  | _ => false

/-- The timer that sends the request again. -/
def FsmType.resending : FsmType → TimerName
  | .nict => .e
  | _ => .a

def FsmType.expiring : FsmType → TimerName
  | .nict => .f
  | _ => .b

/-- How long a client waits at most before it asks again. -/
def FsmType.longest : FsmType → Int
  | .nict => 4000
  | _ => 64000

/-- The wait before a request is sent for the `n`-th time again, in milliseconds. -/
def FsmType.wait (ctxType : FsmType) (n : Nat) : Int := min (defaultT1 * 2 ^ n) ctxType.longest

def FsmType.mostAgain : FsmType → Nat
  | .nict => 10
  | _ => 6

variable {tr : Transaction Header} {evt : Event Header} {sip : Message Header}
  {answers : Answers} {result : Result Header} {state : State} {lib : StackLib Header}
  {timer : TimerName} {ctxType : FsmType} {now begun : Int} {asked : Nat}
  {effects : List (Effect Header)}

/-- A started timer ends its length from now on, and the length is twice as long as before, if
that is not too long. -/
structure Doubled (longest now : Int) (before after : Timer) : Prop where
  start : ∀ ends, after.start = some ends → ends = addGettimeofday now after.length
  length : ∀ ends, after.start = some ends → min (2 * before.length) longest ≤ after.length

/-- A started timer has been started before, or is started now. -/
structure KeptTimer (now : Int) (before after : Timer) : Prop where
  start : ∀ ends, after.start = some ends →
    before.start = some ends ∨ ends = addGettimeofday now before.length
  length : ∀ ends, after.start = some ends → after.length = before.length

/-- What a step of a client is for its timers. -/
inductive TimedStep (ctxType : FsmType) (tr : Transaction Header) (evt : Event Header)
    (answers : Answers) (result : Result Header) : Prop where
  | holds (quiet : result.2.countP Effect.asks = 0)
      (first : result.1.state.isFirst → result.1 = tr)
      (asking : result.1.state.isAsking → tr.state.isAsking ∧ result.1.timers = tr.timers)
  | begins (first : tr.state.isFirst) (begun : result.1.state.isFirst = false)
      (once : result.2.countP Effect.asks ≤ 1)
      (timing : Timer) (timers : result.1.timers = Function.update tr.timers ctxType.resending timing)
      (resending : KeptTimer answers.now (tr.timers ctxType.resending) timing)
  | resends (ends_wait : evt = .timeout ctxType.resending) (asking : tr.state.isAsking)
      (begun : result.1.state.isFirst = false) (once : result.2.countP Effect.asks ≤ 1)
      (timing : Timer) (timers : result.1.timers = Function.update tr.timers ctxType.resending timing)
      (resending : Doubled ctxType.longest answers.now (tr.timers ctxType.resending) timing)

def Transaction.Acknowledges (tr : Transaction Header) : Prop :=
  ∀ sip, holdsSip tr.ack sip → evtSetTypeIncomingSipmessage sip = .rcvReqack

def stepTimed (tr : Transaction Header) (evt : Event Header) (answers : Answers)
    (result : Result Header) : Prop :=
  tr.Acknowledges → TimedStep tr.ctxType tr evt answers result

@[simp] theorem countP_freeOld_asks {old : Option (Message Header)} :
    (freeOld old).countP Effect.asks = 0 := by
  cases old <;> rfl

theorem quiet_within {tells : MessageCallback → Option (Message Header) → Prop}
    (within : ∀ effect ∈ effects,
      effect.Within (evtSetTypeIncomingSipmessage · = .rcvReqack) tells) :
    effects.countP Effect.asks = 0 := by
  refine List.countP_eq_zero.mpr fun effect member => ?_
  have acknowledges := within effect member
  cases effect with
  | send message =>
    cases message with
    | none => exact Bool.false_ne_true
    | some message =>
      have same : evtSetTypeIncomingSipmessage message.sip = .rcvReqack := acknowledges
      simp [Effect.asks, same]
  | _ => exact Bool.false_ne_true

theorem quiet_report {old : Option (Message Header)} {type : MessageCallback}
    {report : Option (Message Header)} :
    (freeOld old ++ [Effect.callback type report]).countP Effect.asks = 0 := by
  rw [List.countP_append, countP_freeOld_asks]
  rfl

theorem once_send {message : Option (Message Header)} (quiet : effects.countP Effect.asks = 0) :
    (Effect.send message :: effects).countP Effect.asks ≤ 1 := by
  rw [List.countP_cons, quiet, Nat.zero_add]
  split <;> decide

theorem timed_leaves {before : Transaction Header} (quiet : effects.countP Effect.asks = 0)
    (begun : tr.state.isFirst = false) (rests : tr.state.isAsking = false) :
    TimedStep ctxType before evt answers (tr, effects) :=
  .holds quiet (fun first => absurd first (Bool.eq_false_iff.mp begun))
    (fun asking => absurd asking (Bool.eq_false_iff.mp rests))

theorem keptTimer_same (timing : Timer) : KeptTimer now timing timing :=
  ⟨fun _ same => .inl same, fun _ _ => rfl⟩

theorem keptTimer_stopped {before : Timer} : KeptTimer now before ⟨-1, none⟩ :=
  ⟨fun _ started => absurd started (Option.some_ne_none _).symm,
    fun _ started => absurd started (Option.some_ne_none _).symm⟩

theorem doubled_stopped {before : Timer} {longest : Int} : Doubled longest now before ⟨-1, none⟩ :=
  ⟨fun _ started => absurd started (Option.some_ne_none _).symm,
    fun _ started => absurd started (Option.some_ne_none _).symm⟩

theorem doubled_again {before : Timer} {longest length : Int}
    (long : min (2 * before.length) longest ≤ length) :
    Doubled longest now before ⟨length, some (addGettimeofday now length)⟩ :=
  ⟨fun _ same => (Option.some.inj same).symm, fun _ _ => long⟩

theorem timed_begins_same {message : Option (Message Header)} (first : tr.state.isFirst)
    (begun : result.1.state.isFirst = false) (quiet : result.2.countP Effect.asks = 0)
    (timers : result.1.timers = tr.timers) :
    TimedStep ctxType tr evt answers (result.after [.send message]) :=
  .begins first begun (once_send quiet) _ (timers.trans (Function.update_eq_self _ _).symm)
    (keptTimer_same _)

theorem ictFsm_timed : ∀ transition ∈ ictFsm lib, transition.Meets stepTimed .ict := by
  unfold ictFsm
  simp only [List.forall_mem_cons, Transition.Meets, stepTimed]
  refine ⟨?invite, ?timeoutA, ?timeoutB, ?ringing, ?answered, ?refused, ?ringingAgain,
    ?answeredLater, ?refusedLater, ?refusedAgain, ?timeoutD, ?rest⟩
  case invite =>
    intro tr evt sip answers own here _ _ _
    rw [own]
    have first : tr.state.isFirst = true := by
      rw [here]
      rfl
    unfold ictSndInvite
    dsimp only
    split
    · exact timed_begins_same first rfl rfl rfl
    · split
      · refine @stopReliable_cases _ _ lib .a (fun result => TimedStep .ict tr evt answers
          (result.after [.send (some sip)])) _ _ _ ?_ ?_ ?_
        · exact fun _ => timed_begins_same first rfl rfl rfl
        · exact timed_begins_same first rfl rfl rfl
        · exact .begins first rfl (once_send rfl) _ rfl keptTimer_stopped
      · exact timed_begins_same first rfl rfl rfl
  case timeoutA =>
    intro tr answers own here _
    rw [own]
    have asking : tr.state.isAsking = true := by
      rw [here]
      rfl
    have going : tr.state.isFirst = false := by
      rw [here]
      rfl
    have doubled : Doubled FsmType.ict.longest answers.now (tr.timers .a) _ :=
      doubled_again ((min_le_left _ _).trans_eq (mul_comm 2 (tr.timers .a).length))
    unfold osipIctTimeoutAEvent
    dsimp only
    split
    · exact .resends rfl asking rfl (once_send rfl) _ rfl doubled
    · split
      · refine @stopReliable_cases _ _ lib .a (fun result => TimedStep .ict tr (.timeout .a)
          answers (result.after [.send tr.origRequest])) _ _ _ ?_ ?_ ?_
        · exact fun _ => .resends rfl asking rfl (once_send rfl) _ rfl doubled
        · exact .resends rfl asking going (once_send rfl) _ rfl doubled
        · exact .resends rfl asking going (once_send rfl) _ (Function.update_idem _ _ _)
            doubled_stopped
      · exact .resends rfl asking going (once_send rfl) _ rfl doubled
  case timeoutB | timeoutD => exact fun _ _ _ _ _ => timed_leaves rfl rfl rfl
  case ringing | ringingAgain =>
    exact fun _ _ _ _ _ _ _ _ _ => timed_leaves quiet_report rfl rfl
  case answered | answeredLater =>
    exact fun _ _ _ _ _ _ _ _ _ => timed_leaves (by simp [Effect.asks]) rfl rfl
  case refused | refusedLater =>
    intro tr evt sip answers _ _ _ _ _
    unfold ictRcv3456xx
    dsimp only
    split
    · split
      · exact timed_leaves (by simp [Effect.asks]) rfl rfl
      · rename_i ack created
        have sends : ∀ effect ∈ freeOld tr.lastResponse ++
            [.malloc ⟨answers.address, ack⟩, .send (some ⟨answers.address, ack⟩)],
            effect.Within (evtSetTypeIncomingSipmessage · = .rcvReqack) (fun _ _ => True) :=
          within_append within_freeOld (within_cons trivial
            (within_cons (ictCreateAck_acknowledges created) within_nil))
        split
        · exact timed_leaves (quiet_within (within_append sends
            (within_cons trivial (within_cons trivial within_nil)))) rfl rfl
        · exact timed_leaves (quiet_within (within_append sends
            (within_cons trivial (within_cons trivial within_nil)))) rfl rfl
    · exact timed_leaves countP_freeOld_asks rfl rfl
  case refusedAgain =>
    intro tr evt sip answers _ here _ _ acknowledges
    have sends : ∀ effect ∈ [Effect.callback .ictStatus3456xxReceivedAgain (some sip),
        .free sip, .send tr.ack], effect.Within (evtSetTypeIncomingSipmessage · = .rcvReqack)
          (fun _ _ => True) :=
      within_cons trivial (within_cons trivial (within_cons (within_send acknowledges) within_nil))
    unfold ictRetransmitAck
    dsimp only
    split
    · exact timed_leaves (quiet_within (within_append sends (within_cons trivial within_nil)))
        rfl rfl
    · exact timed_leaves (quiet_within (within_append sends
        (within_cons trivial (within_cons trivial within_nil)))) rfl rfl
  case rest => exact fun transition member => absurd member List.not_mem_nil

theorem nictFsm_timed : ∀ transition ∈ nictFsm lib, transition.Meets stepTimed .nict := by
  unfold nictFsm
  simp only [List.forall_mem_cons, Transition.Meets, stepTimed]
  refine ⟨?send, ?timeoutF, ?timeoutE, ?trying, ?answered, ?refused, ?lateF, ?lateE,
    ?tryingAgain, ?answeredLater, ?refusedLater, ?timeoutK, ?rest⟩
  case send =>
    intro tr evt sip answers own here _ _ _
    rw [own]
    have first : tr.state.isFirst = true := by
      rw [here]
      rfl
    unfold nictSndRequest
    dsimp only
    split
    · split
      · exact .begins first rfl (once_send rfl) _ rfl
          ⟨fun _ same => .inr (Option.some.inj same).symm, fun _ _ => rfl⟩
      · exact timed_begins_same first rfl rfl rfl
    · exact timed_begins_same first rfl rfl rfl
  case timeoutF | lateF | timeoutK => exact fun _ _ _ _ _ => timed_leaves rfl rfl rfl
  case timeoutE | lateE =>
    intro tr answers own here _
    rw [own]
    have asking : tr.state.isAsking = true := by
      rw [here]
      rfl
    have going : tr.state.isFirst = false := by
      rw [here]
      rfl
    let length := if tr.state = .nictTrying then
      if (tr.timers .e).length * 2 > 4000 then 4000 else (tr.timers .e).length * 2 else 4000
    have doubled : Doubled FsmType.nict.longest answers.now (tr.timers .e)
        ⟨length, some (addGettimeofday answers.now length)⟩ := by
      refine doubled_again ?_
      have longest : FsmType.nict.longest = 4000 := rfl
      dsimp only [length]
      split_ifs <;> omega
    unfold osipNictTimeoutEEvent
    dsimp only
    by_cases failed : answers.sent < 0
    · rw [if_pos failed]
      exact .resends rfl asking rfl (once_send rfl) _ rfl doubled
    · rw [if_neg failed]
      by_cases sent : answers.sent = 0
      · rw [if_pos sent]
        refine @stopReliable_cases _ _ lib .e (fun result => TimedStep .nict tr (.timeout .e)
          answers (result.after [.send tr.origRequest])) _ _ _ ?_ ?_ ?_
        · exact fun _ => .resends rfl asking rfl (once_send rfl) _ rfl doubled
        · exact .resends rfl asking going (once_send rfl) _ rfl doubled
        · exact .resends rfl asking going (once_send rfl) _ (Function.update_idem _ _ _)
            doubled_stopped
      · rw [if_neg sent]
        exact .resends rfl asking going (once_send rfl) _ rfl doubled
  case trying | tryingAgain =>
    intro tr evt sip answers _ here _ _ _
    refine .holds quiet_report (fun first => by cases first) (fun _ => ⟨?_, rfl⟩)
    rw [here]
    rfl
  case answered | refused | answeredLater | refusedLater =>
    exact fun _ _ _ _ _ _ _ _ _ => timed_leaves quiet_report rfl rfl
  case rest => exact fun transition member => absurd member List.not_mem_nil

theorem takeTurn_timed (asks : tr.ctxType = .ict ∨ tr.ctxType = .nict)
    (acknowledges : tr.Acknowledges) (turn : Turn Header) :
    TimedStep tr.ctxType tr turn.1 turn.2 (takeTurn lib tr turn) := by
  refine @execute_meets _ lib tr turn.1 turn.2 stepTimed ?_ ?_ acknowledges
  · rcases asks with own | own <;> rw [own]
    · exact ictFsm_timed
    · exact nictFsm_timed
  · exact fun _ => .holds countP_freeOld_asks (fun _ => rfl) (fun asking => ⟨asking, rfl⟩)

theorem takeTurn_acknowledges (asks : tr.ctxType = .ict ∨ tr.ctxType = .nict)
    (acknowledges : tr.Acknowledges) (turn : Turn Header) :
    (takeTurn lib tr turn).1.Acknowledges := by
  intro sip holds
  cases takeTurn_clientStep asks turn with
  | rests rests => exact acknowledges sip (rests.ack ▸ holds)
  | begins _ _ _ _ _ _ _ ack _ => exact acknowledges sip (ack ▸ holds)
  | waits _ _ _ _ _ _ _ ack _ => exact acknowledges sip (ack ▸ holds)
  | concludes _ _ _ _ _ _ _ ack _ =>
    rcases ack sip holds with old | created
    · exact acknowledges sip old
    · exact created

theorem le_addGettimeofday {wait length : Int} (le : wait ≤ length) (short : wait ≤ 900000) :
    now + wait * 1000 ≤ addGettimeofday now length := by
  unfold addGettimeofday
  split <;> omega

def FsmType.interval (ctxType : FsmType) (n : Nat) : Int := ctxType.wait n * 1000

theorem wait_nonneg (n : Nat) : 0 ≤ ctxType.wait n := by
  unfold FsmType.wait
  refine le_min (mul_nonneg (by decide) (pow_nonneg (by decide) n)) ?_
  cases ctxType <;> decide

theorem wait_short (n : Nat) : ctxType.wait n ≤ 900000 := by
  refine (min_le_right _ _).trans ?_
  cases ctxType <;> decide

theorem wait_succ {n : Nat} {length : Int} (le : ctxType.wait n ≤ length) :
    ctxType.wait (n + 1) ≤ min (2 * length) ctxType.longest := by
  refine le_min ?_ (min_le_right _ _)
  have doubled : defaultT1 * 2 ^ (n + 1) = 2 * (defaultT1 * 2 ^ n) := by
    rw [pow_succ, ← mul_assoc, mul_comm]
  unfold FsmType.wait at *
  rw [doubled]
  rcases min_le_iff.mp le with low | high
  · exact (min_le_left _ _).trans (mul_le_mul_of_nonneg_left low (by decide))
  · have positive : 0 ≤ ctxType.longest := by cases ctxType <;> decide
    exact (min_le_right _ _).trans (by omega)

theorem due_interval (asks : ctxType = .ict ∨ ctxType = .nict) :
    begun + 32000000 ≤ begun + due ctxType.interval (ctxType.mostAgain + 1) := by
  refine Int.add_le_add_left ?_ begun
  rcases asks with own | own <;> rw [own] <;> decide

/-- A client that was created at `begun` has passed its request to `cb_send_message` so often. -/
inductive Transaction.Asked (tr : Transaction Header) (begun : Int) : Nat → Prop where
  | never (first : tr.state.isFirst)
      (length : (tr.timers tr.ctxType.resending).length = defaultT1)
      (start : ∀ ends, (tr.timers tr.ctxType.resending).start = some ends →
        begun + 500000 ≤ ends)
      (expires : (tr.timers tr.ctxType.expiring).start = some (begun + 32000000)) :
      tr.Asked begun 0
  | again (asked more : Nat) (asking : tr.state.isAsking) (most : asked ≤ more + 1)
      (paced : Paced tr.ctxType.interval begun (begun + 32000000) more
        (tr.timers tr.ctxType.resending).start)
      (length : ∀ ends, (tr.timers tr.ctxType.resending).start = some ends →
        tr.ctxType.wait more ≤ (tr.timers tr.ctxType.resending).length)
      (expires : (tr.timers tr.ctxType.expiring).start = some (begun + 32000000)) :
      tr.Asked begun asked
  | enough (asked : Nat) (passed : tr.state.isFirst = false) (rests : tr.state.isAsking = false)
      (most : asked ≤ tr.ctxType.mostAgain + 1) : tr.Asked begun asked

theorem not_isAsking_of_isFirst {state : State} (first : state.isFirst) : ¬ state.isAsking := by
  cases state <;> cases first <;> exact Bool.false_ne_true

theorem expiring_ne_resending (ctxType : FsmType) : ctxType.expiring ≠ ctxType.resending := by
  cases ctxType <;> exact TimerName.noConfusion

theorem more_le_mostAgain {more : Nat} {next : Option Int}
    (asks : ctxType = .ict ∨ ctxType = .nict)
    (paced : Paced ctxType.interval begun (begun + 32000000) more next) :
    more ≤ ctxType.mostAgain :=
  Nat.le_of_lt_succ (paced.count_lt (fun n => mul_nonneg (wait_nonneg n) (by decide))
    (Nat.succ_pos _) (due_interval asks))

theorem Transaction.Asked.most (isAsked : tr.Asked begun asked)
    (asks : tr.ctxType = .ict ∨ tr.ctxType = .nict) : asked ≤ tr.ctxType.mostAgain + 1 := by
  cases isAsked with
  | never => exact Nat.zero_le _
  | again _ more asking most paced length expires =>
    exact most.trans (Nat.succ_le_succ (more_le_mostAgain asks paced))
  | enough _ passed rests most => exact most

/-- The timer that sends again is over, and the timer that gives up is not. -/
structure Transaction.Resends (tr : Transaction Header) (checked : Int) : Prop where
  asking : tr.state.isAsking
  passed : ∃ ends, (tr.timers tr.ctxType.resending).start = some ends ∧ ends < checked
  early : ∀ ends, (tr.timers tr.ctxType.expiring).start = some ends → checked ≤ ends

theorem asked_step (isAsked : tr.Asked begun asked)
    (asks : tr.ctxType = .ict ∨ tr.ctxType = .nict)
    (sameType : result.1.ctxType = tr.ctxType)
    (step : TimedStep tr.ctxType tr evt answers result) (timely : begun ≤ answers.now)
    (resends : evt = .timeout tr.ctxType.resending → tr.state.isAsking →
      ∃ checked, tr.Resends checked ∧ checked ≤ answers.now) :
    result.1.Asked begun (asked + result.2.countP Effect.asks) := by
  cases step with
  | holds quiet first asking =>
    rw [quiet, Nat.add_zero]
    by_cases stillFirst : result.1.state.isFirst = true
    · exact first stillFirst ▸ isAsked
    · by_cases stillAsking : result.1.state.isAsking = true
      · obtain ⟨here, timers⟩ := asking stillAsking
        cases isAsked with
        | never first _ _ _ => exact absurd here (not_isAsking_of_isFirst first)
        | again _ more _ most paced length expires =>
          rw [← timers, ← sameType] at paced length expires
          exact .again _ more stillAsking most paced (sameType ▸ length) expires
        | enough _ _ rests _ => exact absurd here (Bool.eq_false_iff.mp rests)
      · exact .enough _ (Bool.eq_false_iff.mpr stillFirst) (Bool.eq_false_iff.mpr stillAsking)
          (sameType ▸ isAsked.most asks)
  | begins first passed once timing timers kept =>
    cases isAsked with
    | never _ length start expires =>
      rw [Nat.zero_add]
      by_cases nowAsking : result.1.state.isAsking = true
      · have resending : result.1.timers result.1.ctxType.resending = timing := by
          rw [timers, sameType, Function.update_self]
        have expiring : result.1.timers result.1.ctxType.expiring =
            tr.timers tr.ctxType.expiring := by
          rw [timers, sameType, Function.update_of_ne (expiring_ne_resending _)]
        have far (ends : Int) (started : timing.start = some ends) : begun + 500000 ≤ ends := by
          rcases kept.start ends started with before | now
          · exact start ends before
          · rw [length] at now
            have behind := @le_addGettimeofday answers.now defaultT1 defaultT1 (Int.le_refl _)
              (by decide)
            have unit : defaultT1 * 1000 = 500000 := rfl
            omega
        refine .again _ 0 nowAsking once ⟨.inl rfl, ?_⟩ ?_ (expiring ▸ expires)
        · rw [resending, sameType]
          have firstWait : due tr.ctxType.interval (0 + 1) = 500000 := by
            rcases asks with own | own <;> rw [own] <;> decide
          rw [firstWait]
          exact far
        · rw [resending, sameType]
          intro ends started
          rw [kept.length ends started, length]
          exact (min_le_left _ _).trans_eq (mul_one _)
      · exact .enough _ passed (Bool.eq_false_iff.mpr nowAsking)
          (once.trans (Nat.le_add_left _ _))
    | again _ _ asking _ _ _ _ => exact absurd asking (not_isAsking_of_isFirst first)
    | enough _ passed _ _ => exact absurd first (Bool.eq_false_iff.mp passed)
  | resends ends_wait asking passed once timing timers doubled =>
    obtain ⟨checked, ⟨_, ⟨ends, started, passed_now⟩, early⟩, later⟩ := resends ends_wait asking
    cases isAsked with
    | never first _ _ _ => exact absurd asking (not_isAsking_of_isFirst first)
    | again _ more _ most paced length expires =>
      have resending : result.1.timers result.1.ctxType.resending = timing := by
        rw [timers, sameType, Function.update_self]
      have expiring : result.1.timers result.1.ctxType.expiring =
          tr.timers tr.ctxType.expiring := by
        rw [timers, sameType, Function.update_of_ne (expiring_ne_resending _)]
      have longer (moment : Int) (same : timing.start = some moment) :
          tr.ctxType.wait (more + 1) ≤ timing.length :=
        (wait_succ (length ends started)).trans (doubled.length moment same)
      have again : Paced tr.ctxType.interval begun (begun + 32000000) (more + 1) timing.start := by
        refine paced.again started passed_now (early _ expires) fun moment same => ?_
        rw [doubled.start moment same]
        exact (Int.add_le_add_right later _).trans
          (le_addGettimeofday (longer moment same) (wait_short _))
      have once_more := Nat.add_le_add most once
      by_cases nowAsking : result.1.state.isAsking = true
      · refine .again _ (more + 1) nowAsking once_more ?_ ?_ (expiring ▸ expires)
        · rw [resending, sameType]
          exact again
        · rw [resending, sameType]
          exact longer
      · refine .enough _ passed (Bool.eq_false_iff.mpr nowAsking) (once_more.trans ?_)
        rw [sameType]
        exact Nat.succ_le_succ (more_le_mostAgain asks again)
    | enough _ _ rests _ => exact absurd asking (Bool.eq_false_iff.mp rests)

/-- What a client is between its steps. -/
structure Transaction.Clocked (tr : Transaction Header) (ctxType : FsmType) (begun : Int)
    (past : List (Effect Header)) : Prop where
  type : tr.ctxType = ctxType
  acknowledges : tr.Acknowledges
  asked : tr.Asked begun (past.countP Effect.asks)

variable {past : List (Effect Header)} {turn : Turn Header} {round : Round Header}

theorem clocked_step (asks : ctxType = .ict ∨ ctxType = .nict)
    (clocked : tr.Clocked ctxType begun past) (timely : begun ≤ turn.2.now)
    (resends : turn.1 = .timeout ctxType.resending → tr.state.isAsking →
      ∃ checked, tr.Resends checked ∧ checked ≤ turn.2.now) :
    (takeTurn lib tr turn).1.Clocked ctxType begun (past ++ (takeTurn lib tr turn).2) := by
  obtain ⟨type, acknowledges, asked⟩ := clocked
  subst type
  have sameType := (@takeTurn_orderly _ lib tr turn).sameType
  refine ⟨sameType, takeTurn_acknowledges asks acknowledges turn, ?_⟩
  rw [List.countP_append]
  exact asked_step asked asks sameType (takeTurn_timed asks acknowledges turn) timely resends

/-- What has come, and when: no event of a timer, and nothing before the transaction begins. -/
structure Round.Timely (round : Round Header) (begun : Int) : Prop where
  arrivals : ∀ turn ∈ round.arrivals, begun ≤ turn.2.now ∧ ∀ timer, turn.1 ≠ .timeout timer
  checked : begun ≤ round.checked
  atTimeout : round.checked ≤ round.atTimeout.now

/-- While a client asks, what arrives does not move its timers. -/
theorem clocked_arrivals (asks : ctxType = .ict ∨ ctxType = .nict)
    (clocked : tr.Clocked ctxType begun past) {arrivals : List (Turn Header)}
    (timely : ∀ turn ∈ arrivals, begun ≤ turn.2.now ∧ ∀ timer, turn.1 ≠ .timeout timer) :
    (tr.state.isAsking → (turns lib tr arrivals).1.state.isFirst = false ∧
      ((turns lib tr arrivals).1.state.isAsking → (turns lib tr arrivals).1.timers = tr.timers)) ∧
      (turns lib tr arrivals).1.Clocked ctxType begun (past ++ (turns lib tr arrivals).2) := by
  refine @trace_induction_on _ _ _ (takeTurn lib) tr arrivals
    (fun now given => (tr.state.isAsking → now.state.isFirst = false ∧
      (now.state.isAsking → now.timers = tr.timers)) ∧
        now.Clocked ctxType begun (past ++ given)) _ ?_ timely ?_
  · refine ⟨fun asking => ⟨?_, fun _ => rfl⟩, (List.append_nil past).symm ▸ clocked⟩
    exact Bool.eq_false_iff.mpr fun first => not_isAsking_of_isFirst first asking
  · intro now given turn ⟨later, message⟩ ⟨still, clocked⟩
    refine ⟨fun asking => ?_, ?_⟩
    · obtain ⟨passed, same⟩ := still asking
      cases @takeTurn_timed _ _ lib (clocked.type ▸ asks) clocked.acknowledges turn with
      | holds _ first asking =>
        refine ⟨Bool.eq_false_iff.mpr fun nowFirst => ?_, fun nowAsking => ?_⟩
        · rw [first nowFirst] at nowFirst
          exact absurd nowFirst (Bool.eq_false_iff.mp passed)
        · obtain ⟨here, timers⟩ := asking nowAsking
          exact timers.trans (same here)
      | begins first _ _ _ _ _ => exact absurd first (Bool.eq_false_iff.mp passed)
      | resends ends_wait _ _ _ _ _ _ => exact absurd ends_wait (message _)
    · rw [← List.append_assoc]
      exact clocked_step asks clocked later (fun ends_wait _ => absurd ends_wait (message _))

theorem needTimerXEvent_iff {timing : Timer} {condState : Bool} {checked : Int} :
    needTimerXEvent timing condState checked = true ↔
      condState = true ∧ ∃ ends, timing.start = some ends ∧ ends < checked := by
  unfold needTimerXEvent
  rw [Bool.and_eq_true]
  refine and_congr_right fun _ => ?_
  cases timing.start with
  | none => simp
  | some ends => simp

theorem firstOver_cons {checked : Int} {row : TimerName × List State}
    {rows : List (TimerName × List State)} : firstOver tr checked (row :: rows) =
      if needTimerXEvent (tr.timers row.1) (row.2.contains tr.state) checked then some row.1
      else firstOver tr checked rows := by
  unfold firstOver
  rw [List.find?_cons]
  split
  · rename_i needed
    rw [if_pos needed]
    rfl
  · rename_i unneeded
    rw [if_neg (Bool.eq_false_iff.mp unneeded)]

/-- One timer is found behind another one that is asked for in the same states. -/
theorem firstOver_behind {checked : Int} {first second : TimerName} {states : List State}
    {rows : List (TimerName × List State)} (other : first ≠ second)
    (nowhere : ∀ row ∈ rows, row.1 ≠ second)
    (found : firstOver tr checked ((first, states) :: (second, states) :: rows) = some second) :
    states.contains tr.state = true ∧
      (∃ ends, (tr.timers second).start = some ends ∧ ends < checked) ∧
      ∀ ends, (tr.timers first).start = some ends → checked ≤ ends := by
  rw [firstOver_cons, firstOver_cons] at found
  dsimp only at found
  split at found
  · exact absurd (Option.some.inj found) other
  · rename_i unneeded
    split at found
    · rename_i needed
      obtain ⟨here, passed⟩ := needTimerXEvent_iff.mp needed
      refine ⟨here, passed, fun ends started => Int.not_lt.mp fun early => ?_⟩
      exact unneeded (needTimerXEvent_iff.mpr ⟨here, ends, started, early⟩)
    · unfold firstOver at found
      obtain ⟨row, member, same⟩ := Option.map_eq_some_iff.mp found
      exact absurd same (nowhere row (List.mem_of_find?_eq_some member))

/-- The timer that sends again is asked for after the one that gives up. -/
theorem osipTimersExecute_resends {pending : Bool} {checked : Int}
    (asks : tr.ctxType = .ict ∨ tr.ctxType = .nict)
    (found : osipTimersExecute tr pending checked = some tr.ctxType.resending) :
    tr.Resends checked := by
  unfold osipTimersExecute at found
  have asking {states : List State} (all : ∀ state ∈ states, state.isAsking)
      (here : states.contains tr.state = true) : tr.state.isAsking :=
    all tr.state (List.contains_iff_mem.mp here)
  rcases asks with own | own <;> rw [own] at found <;> dsimp only at found
  · split at found
    · cases found
    · obtain ⟨here, passed, early⟩ := firstOver_behind (by decide) (by decide) found
      exact ⟨asking (by decide) here, own ▸ passed, own ▸ early⟩
  · rw [firstOver_cons] at found
    split at found
    · cases found
    · obtain ⟨here, passed, early⟩ := firstOver_behind (by decide) (by decide) found
      exact ⟨asking (by decide) here, own ▸ passed, own ▸ early⟩

theorem clocked_round (asks : ctxType = .ict ∨ ctxType = .nict)
    (clocked : tr.Clocked ctxType begun past) (timely : round.Timely begun) :
    (takeRound lib tr round).1.Clocked ctxType begun (past ++ (takeRound lib tr round).2) := by
  obtain ⟨still, arrived⟩ := @clocked_arrivals _ _ lib _ _ _ asks clocked _ timely.arrivals
  unfold takeRound Round.queue
  split
  · exact arrived
  · rename_i timer found
    unfold turns at *
    rw [trace_concat, ← List.append_assoc]
    refine clocked_step asks arrived (timely.checked.trans timely.atTimeout) fun same asking => ?_
    have own := clocked.type
    subst own
    rw [Event.timeout.inj same] at found
    obtain ⟨before, passed, early⟩ := osipTimersExecute_resends asks found
    refine ⟨round.checked, ⟨asking, ?_, ?_⟩, timely.atTimeout⟩
    · rw [arrived.type, (still before).2 asking]
      exact passed
    · rw [arrived.type, (still before).2 asking]
      exact early

theorem osipTransactionInit_clocked {request : OsipMessage Header}
    (asks : ctxType = .ict ∨ ctxType = .nict)
    (init : osipTransactionInit lib ctxType request begun = some tr) :
    tr.Clocked ctxType begun [] := by
  obtain ⟨⟨type, state⟩, -, -, noAck⟩ := osipTransactionInit_first init
  refine ⟨type, fun sip holds => ?_, ?_⟩
  · obtain ⟨_, same, _⟩ := holds
    rw [noAck] at same
    cases same
  · simp only [osipTransactionInit, bind, Option.bind_eq_some_iff, pure, Option.some.injEq] at init
    obtain ⟨_, _, _, _, _, _, _, _, _, _, _, _, _, _, _, _, _, _, same⟩ := init
    subst same
    rcases asks with own | own <;> subst own
    · exact .never rfl rfl (fun ends started => (Option.some.inj started).le) rfl
    · exact .never rfl rfl (fun ends started => by cases started) rfl

/-- However the peer and the network behave, a client passes its INVITE to `cb_send_message` seven
times at most, and another request eleven times at most. -/
theorem rounds_asks {request : OsipMessage Header} (asks : ctxType = .ict ∨ ctxType = .nict)
    (init : osipTransactionInit lib ctxType request begun = some tr) (all : List (Round Header))
    (timely : ∀ round ∈ all, round.Timely begun) :
    (rounds lib tr all).2.countP Effect.asks ≤ ctxType.mostAgain + 1 := by
  have first : tr.Clocked ctxType begun [] := osipTransactionInit_clocked asks init
  have kept : (rounds lib tr all).1.Clocked ctxType begun (rounds lib tr all).2 :=
    trace_induction_on (fun now past => Transaction.Clocked now ctxType begun past) first timely
      (fun now past round timely clocked => clocked_round asks clocked timely)
  have most := kept.asked.most (kept.type ▸ asks)
  exact kept.type ▸ most

/-- The OPTIONS request is sent, and nothing comes for the first half second. -/
def optionsRounds : List (Round Text) :=
  [⟨[(.outgoing ⟨0, optionsRequest⟩, ⟨0, 0, 1⟩)], 1, ⟨1, 0, 2⟩⟩, ⟨[], 500001, ⟨500001, 0, 3⟩⟩]

theorem rounds_asks_options : ∃ tr, osipTransactionInit textLib .nict optionsRequest 0 = some tr ∧
    (rounds textLib tr optionsRounds).2.countP Effect.asks ≤ 11 := by
  have timely : ∀ round ∈ optionsRounds, round.Timely 0 := by
    refine List.forall_mem_cons.mpr ⟨⟨?_, by decide, by decide⟩,
      List.forall_mem_cons.mpr ⟨⟨?_, by decide, by decide⟩, ?_⟩⟩
    · exact List.forall_mem_cons.mpr ⟨⟨Int.le_refl 0, fun _ same => by cases same⟩,
        fun _ member => absurd member List.not_mem_nil⟩
    · exact fun _ member => absurd member List.not_mem_nil
    · exact fun _ member => absurd member List.not_mem_nil
  exact ⟨_, rfl, @rounds_asks _ _ textLib .nict 0 optionsRequest (.inr rfl) rfl optionsRounds timely⟩

end Gb28181.Osip2
