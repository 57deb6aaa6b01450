import Gb28181.Osip2.Origins

/-! The timers in `osip.c`: one round of the event loop for a transaction, and that no
transaction waits for ever. -/

namespace Gb28181.Osip2

open Gb28181.Lib Gb28181.Osip

variable {Header : Type}

/-- `__osip_transaction_need_timer_x_event`. -/
def needTimerXEvent (timer : Timer) (condState : Bool) (now : Int) : Bool :=
  condState &&
    match timer.start with
    | none => false
    | some start => start < now

/-- The first timer of a list that is over, where it is asked for in this state. -/
def firstOver (tr : Transaction Header) (now : Int) (asked : List (TimerName × List State)) :
    Option TimerName :=
  (asked.find? fun row => needTimerXEvent (tr.timers row.1) (row.2.contains tr.state) now).map
    Prod.fst

/-- `osip_timers_ict_execute` and the functions next to it, for one transaction. Only the first
one asks for an empty queue. -/
def osipTimersExecute (tr : Transaction Header) (pending : Bool) (now : Int) : Option TimerName :=
  match tr.ctxType with
  | .ict =>
    if pending then none
    else
      firstOver tr now [(.b, [.ictCalling]), (.a, [.ictCalling]), (.d, [.ictCompleted])]
  | .ist =>
    firstOver tr now [(.i, [.istConfirmed]), (.h, [.istCompleted]), (.g, [.istCompleted])]
  | .nict =>
    firstOver tr now [(.k, [.nictCompleted]), (.f, [.nictProceeding, .nictTrying]),
      (.e, [.nictProceeding, .nictTrying])]
  | .nist => firstOver tr now [(.j, [.nistCompleted])]

/-- One round of `eXosip_execute`: what has come into the queue, when the timers are looked at,
and the answers for the event of a timer. -/
structure Round (Header : Type) where
  arrivals : List (Turn Header)
  checked : Int
  atTimeout : Answers

/-- The queue that `osip_ict_execute` and the functions next to it empty. -/
def Round.queue (round : Round Header) (tr : Transaction Header) : List (Turn Header) :=
  match osipTimersExecute tr (round.arrivals ≠ []) round.checked with
  | none => round.arrivals
  | some timer => round.arrivals ++ [(.timeout timer, round.atTimeout)]

def takeRound (lib : StackLib Header) (tr : Transaction Header) (round : Round Header) :
    Result Header :=
  turns lib tr (round.queue tr)

/-- The timer that runs in a state until the transaction ends. -/
def State.runs : State → Option TimerName
  | .ictPreCalling | .ictCalling => some .b
  | .ictCompleted => some .d
  | .istCompleted => some .h
  | .istConfirmed => some .i
  | .nictPreTrying | .nictTrying | .nictProceeding => some .f
  | .nictCompleted => some .k
  | .nistCompleted => some .j
  | _ => none

/-- The timer has been started, and not stopped since. -/
def Transaction.Started (tr : Transaction Header) (timer : TimerName) : Prop :=
  (tr.timers timer).start ≠ none

def Transaction.Runs (tr : Transaction Header) : Prop :=
  ∀ timer, tr.state.runs = some timer → tr.Started timer

variable {tr : Transaction Header} {evt : Event Header} {sip : Message Header}
  {answers : Answers} {result : Result Header} {state : State} {lib : StackLib Header}
  {timer name : TimerName} {now : Int}

@[simp] theorem timers_setTimer_same (timing : Timer) :
    (tr.setTimer name timing).timers name = timing :=
  Function.update_self _ _ _

theorem timers_setTimer_other (timing : Timer) (other : timer ≠ name) :
    (tr.setTimer name timing).timers timer = tr.timers timer :=
  Function.update_of_ne other _ _

theorem started_setTimer (timing : Timer) (other : timer ≠ name) (started : tr.Started timer) :
    (tr.setTimer name timing).Started timer := by
  unfold Transaction.Started
  rw [timers_setTimer_other timing other]
  exact started

theorem started_startTimer (now : Int) : (tr.startTimer name now).Started name := by
  unfold Transaction.Started Transaction.startTimer
  rw [timers_setTimer_same]
  exact Option.some_ne_none _

theorem runs_started {next : Transaction Header} (runs : next.state.runs = some name)
    (started : next.Started name) : next.Runs := by
  intro timer here
  rw [runs] at here
  exact Option.some.inj here ▸ started

theorem runs_none {next : Transaction Header} (runs : next.state.runs = none) : next.Runs := by
  intro timer here
  rw [runs] at here
  cases here

def stepRuns (tr : Transaction Header) (_ : Event Header) (_ : Answers) (result : Result Header) :
    Prop :=
  tr.Runs → result.1.Runs

theorem runs_sndResponse {fail : Transaction Header → Int → Result Header}
    {sent : OsipMessage Header → MessageCallback}
    {finish : Transaction Header → Answers → Result Header}
    (fails : ∀ now error, (fail now error).1.Runs)
    (finishes : ∀ now : Transaction Header, now.state = tr.state → now.timers = tr.timers →
      (finish now answers).1.Runs) :
    (sndResponse fail sent finish tr sip answers).1.Runs := by
  unfold sndResponse
  dsimp only
  split
  · exact fails _ _
  · exact finishes _ rfl rfl

theorem runs_rcvRequestAgain {fail : Transaction Header → Int → Result Header}
    {receivedAgain : MessageCallback} {sentAgain : OsipMessage Header → MessageCallback}
    (fails : ∀ now error, (fail now error).1.Runs) (runs : tr.Runs) :
    (rcvRequestAgain fail receivedAgain sentAgain tr sip answers).1.Runs := by
  unfold rcvRequestAgain
  dsimp only
  split
  · exact runs
  · split
    · exact fails _ _
    · exact runs

theorem ictFsm_runs : ∀ transition ∈ ictFsm lib, transition.Meets stepRuns .ict := by
  have fails (tr : Transaction Header) (error : Int) : (ictHandleTransportError tr error).1.Runs :=
    runs_none rfl
  unfold ictFsm
  simp only [List.forall_mem_cons, Transition.Meets, stepRuns]
  refine ⟨?invite, ?timeoutA, ?timeoutB, ?ringing, ?answered, ?refused, ?ringingAgain,
    ?answeredLater, ?refusedLater, ?refusedAgain, ?timeoutD, ?rest⟩
  case invite =>
    intro tr evt sip answers _ here _ _ runs
    have started : tr.Started .b := runs .b (by rw [here]; rfl)
    unfold ictSndInvite Result.after
    dsimp only
    split
    · exact fails _ _
    · split
      · refine @stopReliable_cases _ _ lib .a (fun result => result.1.Runs) _ _ _ (fails _)
          (runs_started rfl started) (runs_started rfl ?_)
        exact started_setTimer _ (by decide) started
      · exact runs_started rfl started
  case timeoutA =>
    intro tr answers _ here runs
    have started : tr.Started .b := runs .b (by rw [here]; rfl)
    have keeps (now : Transaction Header) (state : now.state = tr.state)
        (starts : now.Started .b) : now.Runs :=
      runs_started (by rw [state, here]; rfl) starts
    unfold osipIctTimeoutAEvent Result.after
    dsimp only
    split
    · exact fails _ _
    · split
      · refine @stopReliable_cases _ _ lib .a (fun result => result.1.Runs) _ _ _ (fails _) ?_ ?_
        · exact keeps _ rfl (started_setTimer _ (by decide) started)
        · exact keeps _ rfl
            (started_setTimer _ (by decide) (started_setTimer _ (by decide) started))
      · exact keeps _ rfl (started_setTimer _ (by decide) started)
  case timeoutB | timeoutD => exact fun _ _ _ _ _ => runs_none rfl
  case ringing | answered | ringingAgain | answeredLater =>
    exact fun _ _ _ _ _ _ _ _ _ => runs_none rfl
  case refused | refusedLater =>
    intro tr evt sip answers _ _ _ _ _
    unfold ictRcv3456xx
    dsimp only
    split
    · split
      · exact runs_none rfl
      · split
        · exact fails _ answers.sent
        · exact runs_started rfl (started_startTimer _)
    · exact runs_started rfl (started_startTimer _)
  case refusedAgain =>
    intro tr evt sip answers _ here _ _ runs
    unfold ictRetransmitAck Result.after
    dsimp only
    split
    · exact runs_started rfl (runs .d (by rw [here]; rfl))
    · exact fails _ _
  case rest => exact fun transition member => absurd member List.not_mem_nil

theorem istFsm_runs : ∀ transition ∈ (istFsm : List (Transition Header)),
    transition.Meets stepRuns .ist := by
  have fails (tr : Transaction Header) (error : Int) : (istHandleTransportError tr error).1.Runs :=
    runs_none rfl
  unfold istFsm
  simp only [List.forall_mem_cons, Transition.Meets, stepRuns]
  refine ⟨?invite, ?inviteAgain, ?inviteLate, ?timeoutG, ?timeoutH, ?ringing, ?answer, ?refusal,
    ?ack, ?ackAgain, ?timeoutI, ?rest⟩
  case invite | inviteAgain | inviteLate =>
    intro tr evt sip answers _ _ _ _ runs
    unfold istRcvInvite
    by_cases first : tr.state = .istPreProceeding
    · rw [if_pos first]
      exact runs_none rfl
    · rw [if_neg first]
      exact runs_rcvRequestAgain fails runs
  case timeoutG =>
    intro tr answers _ here runs
    have started : tr.Started .h := runs .h (by rw [here]; rfl)
    have keeps (timing : Timer) : (tr.setTimer .g timing).Runs :=
      runs_started (congrArg State.runs here) (started_setTimer timing (by decide) started)
    unfold osipIstTimeoutGEvent
    dsimp only [Transaction.setTimer]
    split
    · exact fails _ (osipTransactionSndXxx tr.lastResponse answers).1
    · exact keeps _
  case timeoutH | timeoutI => exact fun _ _ _ _ _ => runs_none rfl
  case ringing =>
    intro tr evt sip answers _ here _ _ _
    refine runs_sndResponse fails (fun now state _ => runs_none ?_)
    dsimp only
    rw [state, here]
    rfl
  case answer =>
    exact fun _ _ _ _ _ _ _ _ _ => runs_sndResponse fails (fun _ _ _ => runs_none rfl)
  case refusal =>
    intro tr evt sip answers _ _ _ _ _
    exact runs_sndResponse fails (fun now _ _ => runs_started rfl (started_startTimer _))
  case ack | ackAgain =>
    exact fun _ _ _ _ _ _ _ _ _ => runs_started rfl (started_startTimer _)
  case rest => exact fun transition member => absurd member List.not_mem_nil

theorem nictFsm_runs : ∀ transition ∈ nictFsm lib, transition.Meets stepRuns .nict := by
  have fails (tr : Transaction Header) (error : Int) :
      (nictHandleTransportError tr error).1.Runs := runs_none rfl
  unfold nictFsm
  simp only [List.forall_mem_cons, Transition.Meets, stepRuns]
  refine ⟨?send, ?timeoutF, ?timeoutE, ?trying, ?answered, ?refused, ?lateF, ?lateE,
    ?tryingAgain, ?answeredLater, ?refusedLater, ?timeoutK, ?rest⟩
  case send =>
    intro tr evt sip answers _ here _ _ runs
    have started : tr.Started .f := runs .f (by rw [here]; rfl)
    unfold nictSndRequest Result.after
    dsimp only
    split
    · refine runs_started rfl ?_
      dsimp only [osipTransactionSetState]
      split
      · exact started_setTimer _ (by decide) started
      · exact started
    · exact fails _ _
  case timeoutF | lateF | timeoutK => exact fun _ _ _ _ _ => runs_none rfl
  case timeoutE | lateE =>
    intro tr answers _ here runs
    have waits : tr.state.runs = some .f := by
      rw [here]
      rfl
    have started : tr.Started .f := runs .f waits
    have keeps (now : Transaction Header) (state : now.state = tr.state)
        (starts : now.Started .f) : now.Runs :=
      runs_started (by rw [state]; exact waits) starts
    unfold osipNictTimeoutEEvent Result.after
    dsimp only
    by_cases failed : answers.sent < 0
    · rw [if_pos failed]
      exact fails _ _
    · rw [if_neg failed]
      by_cases sent : answers.sent = 0
      · rw [if_pos sent]
        refine @stopReliable_cases _ _ lib .e (fun result => result.1.Runs) _ _ _ (fails _) ?_ ?_
        · exact keeps _ rfl (started_setTimer _ (by decide) started)
        · exact keeps _ rfl
            (started_setTimer _ (by decide) (started_setTimer _ (by decide) started))
      · rw [if_neg sent]
        exact keeps _ rfl (started_setTimer _ (by decide) started)
  case trying | tryingAgain =>
    intro tr evt sip answers _ here _ _ runs
    exact runs_started rfl (runs .f (by rw [here]; rfl))
  case answered | refused | answeredLater | refusedLater =>
    intro tr evt sip answers _ here _ _ _
    unfold nictRcv23456xx
    dsimp only
    rw [if_pos (by rw [here]; exact State.noConfusion)]
    exact runs_started rfl (started_startTimer _)
  case rest => exact fun transition member => absurd member List.not_mem_nil

theorem nistFsm_runs : ∀ transition ∈ (nistFsm : List (Transition Header)),
    transition.Meets stepRuns .nist := by
  have fails (tr : Transaction Header) (error : Int) :
      (nistHandleTransportError tr error).1.Runs := runs_none rfl
  unfold nistFsm
  simp only [List.forall_mem_cons, Transition.Meets, stepRuns]
  refine ⟨?request, ?trying, ?answer, ?refusal, ?tryingAgain, ?answerLater, ?refusalLater,
    ?requestAgain, ?timeoutJ, ?requestLate, ?rest⟩
  case request | requestAgain | requestLate =>
    intro tr evt sip answers _ _ _ _ runs
    unfold nistRcvRequest
    by_cases first : tr.state = .nistPreTrying
    · rw [if_pos first]
      exact runs_none rfl
    · rw [if_neg first]
      exact runs_rcvRequestAgain fails runs
  case trying | tryingAgain =>
    exact fun _ _ _ _ _ _ _ _ _ => runs_sndResponse fails (fun _ _ _ => runs_none rfl)
  case answer | refusal | answerLater | refusalLater =>
    intro tr evt sip answers _ here _ _ _
    refine runs_sndResponse fails (fun now state _ => ?_)
    dsimp only
    rw [if_pos (by rw [state, here]; exact State.noConfusion)]
    exact runs_started rfl (started_startTimer _)
  case timeoutJ => exact fun _ _ _ _ _ => runs_none rfl
  case rest => exact fun transition member => absurd member List.not_mem_nil

theorem turns_runs (runs : tr.Runs) (inputs : List (Turn Header)) :
    (turns lib tr inputs).1.Runs := by
  apply @trace_induction _ _ _ (takeTurn lib) tr inputs (fun now _ => now.Runs)
  · exact runs
  · intro now _ turn runs
    refine @execute_meets _ lib now turn.1 turn.2 stepRuns ?_ (fun runs => runs) runs
    cases now.ctxType with
    | ict => exact ictFsm_runs
    | ist => exact istFsm_runs
    | nict => exact nictFsm_runs
    | nist => exact nistFsm_runs

def rounds (lib : StackLib Header) : Transaction Header → List (Round Header) → Result Header :=
  trace (takeRound lib)

theorem rounds_turns (all : List (Round Header)) :
    ∃ inputs, rounds lib tr all = turns lib tr inputs := by
  induction all using List.reverseRecOn with
  | nil => exact ⟨[], rfl⟩
  | append_singleton earlier round ih =>
    obtain ⟨inputs, same⟩ := ih
    refine ⟨inputs ++ round.queue (rounds lib tr earlier).1, ?_⟩
    unfold rounds turns at *
    rw [trace_concat, trace_append, ← same]
    rfl

theorem osipTransactionInit_runs {request : OsipMessage Header} {ctxType : FsmType}
    (init : osipTransactionInit lib ctxType request now = some tr) :
    tr.Runs ∧ tr.state.type = tr.ctxType := by
  simp only [osipTransactionInit, bind, Option.bind_eq_some_iff, pure, Option.some.injEq] at init
  obtain ⟨_, _, _, _, _, _, _, _, _, _, _, _, _, _, _, _, _, _, same⟩ := init
  subst same
  cases ctxType with
  | ict => exact ⟨runs_started rfl (Option.some_ne_none _), rfl⟩
  | ist => exact ⟨runs_none rfl, rfl⟩
  | nict => exact ⟨runs_started rfl (Option.some_ne_none _), rfl⟩
  | nist => exact ⟨runs_none rfl, rfl⟩

/-- Once the timer that runs in a state is over, it is the first one that is found. -/
theorem osipTimersExecute_over {ends : Int} (own : tr.state.type = tr.ctxType)
    (begun : tr.state.isFirst = false) (runs : tr.state.runs = some timer)
    (started : (tr.timers timer).start = some ends) (over_now : ends < now) :
    osipTimersExecute tr false now = some timer := by
  have needed : needTimerXEvent (tr.timers timer) true now = true := by
    simp [needTimerXEvent, started, over_now]
  have unasked (timing : Timer) : needTimerXEvent timing false now = false := rfl
  unfold osipTimersExecute firstOver
  rw [← own]
  cases here : tr.state <;> rw [here] at begun runs <;> cases begun <;> cases runs <;>
    simp [State.type, List.find?, needed, unasked]

/-- The timer that runs in a state ends the transaction. -/
theorem execute_runs (own : tr.state.type = tr.ctxType) (begun : tr.state.isFirst = false)
    (runs : tr.state.runs = some timer) :
    (osipTransactionExecute lib tr (.timeout timer) answers).1.state = tr.ctxType.terminated := by
  unfold osipTransactionExecute
  dsimp only [Event.type]
  rw [← own]
  cases here : tr.state <;> rw [here] at begun runs <;> cases begun <;> cases runs <;> rfl

/-- No transaction waits for ever: where its state has a timer that runs, the timer was started,
and the first round without a message after its end ends the transaction, whatever came
before. -/
theorem rounds_deadline {request : OsipMessage Header} {ctxType : FsmType}
    (init : osipTransactionInit lib ctxType request now = some tr) (all : List (Round Header))
    (begun : (rounds lib tr all).1.state.isFirst = false)
    (runs : (rounds lib tr all).1.state.runs = some timer) :
    ∃ ends, ((rounds lib tr all).1.timers timer).start = some ends ∧
      ∀ round : Round Header, round.arrivals = [] → ends < round.checked →
        (rounds lib tr (all ++ [round])).1.state = ctxType.terminated := by
  obtain ⟨first, own⟩ := osipTransactionInit_runs init
  obtain ⟨inputs, same⟩ := @rounds_turns _ tr lib all
  have started : (rounds lib tr all).1.Started timer := same ▸ turns_runs first inputs
    timer (same ▸ runs)
  obtain ⟨ends, ends_eq⟩ := Option.ne_none_iff_exists'.mp started
  refine ⟨ends, ends_eq, fun round quiet over_now => ?_⟩
  have type : (rounds lib tr all).1.ctxType = ctxType :=
    (same ▸ turns_type inputs : (rounds lib tr all).1.ctxType = tr.ctxType).trans
      (osipTransactionInit_first init).1.1
  have sameType : (rounds lib tr all).1.state.type = (rounds lib tr all).1.ctxType := by
    rw [same, turns_type_state own, turns_type]
  have found := osipTimersExecute_over sameType begun runs ends_eq over_now
  have queue : round.queue (rounds lib tr all).1 = [(.timeout timer, round.atTimeout)] := by
    simp [Round.queue, quiet, found]
  have last : (rounds lib tr (all ++ [round])).1 =
      (takeRound lib (rounds lib tr all).1 round).1 := by
    unfold rounds
    rw [trace_concat]
  rw [last, takeRound, queue, ← type]
  exact execute_runs sameType begun runs

theorem rounds_deadline_options : ∃ tr,
    osipTransactionInit textLib .nict optionsRequest 0 = some tr ∧
      ∃ ends, ((rounds textLib tr [⟨[(.outgoing ⟨0, optionsRequest⟩, ⟨0, 0, 1⟩)], 1,
          ⟨1, 0, 2⟩⟩]).1.timers .f).start = some ends ∧
        ∀ round : Round Text, round.arrivals = [] → ends < round.checked →
          (rounds textLib tr ([⟨[(.outgoing ⟨0, optionsRequest⟩, ⟨0, 0, 1⟩)], 1, ⟨1, 0, 2⟩⟩] ++
            [round])).1.state = .nictTerminated := by
  refine ⟨_, rfl, ?_⟩
  exact @rounds_deadline _ _ textLib .f 0 optionsRequest .nict rfl
    [⟨[(.outgoing ⟨0, optionsRequest⟩, ⟨0, 0, 1⟩)], 1, ⟨1, 0, 2⟩⟩] rfl rfl

end Gb28181.Osip2
