import Gb28181.MediaGate.Registration

namespace Gb28181.MediaGate

open Gb28181.Lib Registration

def TimerInput.time : TimerInput → Option Int
  | .tick i64CurTime _ | .registerSuccess i64CurTime => some i64CurTime
  | .registerFailure | .messageFailure => none

def InTime (inputs : List TimerInput) : Prop :=
  (inputs.filterMap TimerInput.time).Pairwise (· ≤ ·)

instance (inputs : List TimerInput) : Decidable (InTime inputs) :=
  inferInstanceAs (Decidable (List.Pairwise _ _))

variable (settings : Settings) {state : Registration} {input : TimerInput}
  {inputs earlier between later : List TimerInput} {first now : Int} {outcome : TickOutcome}

/-- The tick calls `SipUA_RefreshRegister`, which returns success. -/
def RefreshedAt (earlier : List TimerInput) (now : Int) (outcome : TickOutcome) : Prop :=
  Refreshes settings (Registration.run settings earlier) (.tick now outcome) ∧
    outcome.refreshRegister = 0

/-- The time of the last Keepalive of a run, zero before the first one. -/
def lastKeepalive (inputs : List TimerInput) : Int :=
  (go .initial 0 inputs)
where
  go (state : Registration) (last : Int) : List TimerInput → Int
    | [] => last
    | input :: inputs =>
      go (state.next settings input)
        (if SendsKeepalive settings state input then input.time.getD last else last) inputs

/-- A relation between the times of any two successful refreshes of one registered stretch,
and of what came between them. -/
def BetweenRefreshes (inputs : List TimerInput)
    (relation : Int → List TimerInput → Int → Prop) : Prop :=
  ∀ earlier first firstOutcome between second secondOutcome later,
    inputs = earlier ++ .tick first firstOutcome :: (between ++ .tick second secondOutcome :: later) →
    RefreshedAt settings earlier first firstOutcome →
    RefreshedAt settings (earlier ++ .tick first firstOutcome :: between) second secondOutcome →
    Throughout (Registration.next settings) (·.bRegisterSuccess = true)
      (Registration.run settings (earlier ++ [.tick first firstOutcome])) between →
    relation first between second

/-- While the gate is registered, refreshes keep their distance and Keepalives come in time. -/
structure OnTime (inputs : List TimerInput) : Prop where
  apart : BetweenRefreshes settings inputs
    (fun first _ second => (iExpires - 30) * 1000 ≤ second - first)
  keepalive : ∀ earlier now outcome later, inputs = earlier ++ .tick now outcome :: later →
    (Registration.run settings earlier).bRegisterSuccess = true →
    ¬ Refreshes settings (Registration.run settings earlier) (.tick now outcome) →
    30 * 1000 ≤ now - lastKeepalive settings earlier →
    SendsKeepalive settings (Registration.run settings earlier) (.tick now outcome)

def Unanswered (between : List TimerInput) : Prop := ∀ now, .registerSuccess now ∉ between

/-- While the gate stays registered, the next tick behind a successful refresh comes after the
register success that answers it. -/
def RefreshesAnswered (inputs : List TimerInput) : Prop :=
  ∀ earlier first firstOutcome between second secondOutcome later,
    inputs = earlier ++ .tick first firstOutcome :: (between ++ .tick second secondOutcome :: later) →
    RefreshedAt settings earlier first firstOutcome →
    Throughout (Registration.next settings) (·.bRegisterSuccess = true)
      (Registration.run settings (earlier ++ [.tick first firstOutcome])) between →
    ¬ Unanswered between

/-- Behind a refresh that is not answered, each tick whose `SipUA_RefreshRegister` would return
success comes late enough, or so early after the registration that was refreshed that it is not
due. -/
def TicksApart (inputs : List TimerInput) : Prop :=
  ∀ earlier first firstOutcome between second secondOutcome later,
    inputs = earlier ++ .tick first firstOutcome :: (between ++ .tick second secondOutcome :: later) →
    RefreshedAt settings earlier first firstOutcome →
    Throughout (Registration.next settings) (·.bRegisterSuccess = true)
      (Registration.run settings (earlier ++ [.tick first firstOutcome])) between →
    Unanswered between → secondOutcome.refreshRegister = 0 →
    (iExpires - 30) * 1000 ≤ second - first ∨
      second - first + (Registration.run settings earlier).i64RegisterTime < (iExpires - 30) * 1000

variable {settings}

theorem run_append : run settings (earlier ++ later) = later.foldl (next settings) (run settings earlier) :=
  List.foldl_append

theorem lastKeepalive_go : lastKeepalive.go settings state state.i64LastKeepaliveTime inputs =
    (inputs.foldl (next settings) state).i64LastKeepaliveTime := by
  induction inputs generalizing state with
  | nil => rfl
  | cons input inputs ih =>
    rw [List.foldl_cons, ← ih, lastKeepalive.go]
    congr 1
    cases input with
    | tick now outcome => exact next_tick_lastKeepaliveTime.symm
    | registerSuccess | registerFailure => exact if_neg nofun
    | messageFailure =>
      rw [if_neg nofun]
      unfold next handle mediaGateHandleMessageFailure
      dsimp only
      split <;> rfl

/-- The stamp of the last Keepalive is the time it was sent. -/
theorem run_lastKeepaliveTime :
    (run settings inputs).i64LastKeepaliveTime = lastKeepalive settings inputs :=
  lastKeepalive_go.symm

/-- The stamp that is left of a refresh at `first`, as long as no other refresh has come: either the
gap that was stored or the time of a register success. -/
theorem stamp_between (refreshed : RefreshedAt settings earlier first outcome)
    (forward : ∀ time ∈ between.filterMap TimerInput.time, first ≤ time)
    (apart : ∀ front now second back, between = front ++ .tick now second :: back →
      RefreshedAt settings (earlier ++ .tick first outcome :: front) now second →
      (run settings (earlier ++ .tick first outcome :: front)).i64RegisterTime =
        first - (run settings earlier).i64RegisterTime →
      Unanswered front → (iExpires - 30) * 1000 ≤ now - first) :
    (∃ time ∈ between.filterMap TimerInput.time, (iExpires - 30) * 1000 ≤ time - first) ∨
      (¬ Unanswered between ∧
        first ≤ (run settings (earlier ++ .tick first outcome :: between)).i64RegisterTime) ∨
      (Unanswered between ∧
        (run settings (earlier ++ .tick first outcome :: between)).i64RegisterTime =
          first - (run settings earlier).i64RegisterTime) := by
  induction between using List.reverseRecOn with
  | nil =>
    refine .inr (.inr ⟨fun _ => List.not_mem_nil, ?_⟩)
    rw [run_append, List.foldl_cons, List.foldl_nil, next_tick_registerTime]
    exact if_pos refreshed
  | append_singleton between input ih =>
    have past : ∀ time ∈ between.filterMap TimerInput.time, first ≤ time := by
      intro time member
      exact forward time (by rw [List.filterMap_append]; exact List.mem_append_left _ member)
    have stamped := ih past fun front now second back split => by
      subst split
      exact apart front now second (back ++ [input]) (by simp)
    rcases stamped with ⟨time, member, late⟩ | stamp
    · exact .inl ⟨time, by rw [List.filterMap_append]; exact List.mem_append_left _ member, late⟩
    · rw [← List.cons_append, ← List.append_assoc, run_append, List.foldl_cons, List.foldl_nil]
      have quiet (other : ∀ now, input ≠ .registerSuccess now) :
          Unanswered (between ++ [input]) ↔ Unanswered between := by
        refine forall_congr' fun now => ?_
        rw [List.mem_append, List.mem_singleton, or_iff_left (other now).symm]
      cases input with
      | tick now second =>
        by_cases again : RefreshedAt settings (earlier ++ .tick first outcome :: between) now second
        · have late : (iExpires - 30) * 1000 ≤ now - first := by
            rcases stamp with ⟨-, stamp⟩ | ⟨unanswered, stamp⟩
            · have due := (refreshes_tick.mp again.1).2
              omega
            · exact apart between now second [] rfl again stamp unanswered
          exact .inl ⟨now, by simp [TimerInput.time], late⟩
        · refine .inr ?_
          rw [quiet nofun, next_tick_registerTime, if_neg (show ¬ (_ ∧ _) from again)]
          exact stamp
      | registerSuccess now =>
        refine .inr (.inl ⟨fun unanswered => unanswered now (by simp), ?_⟩)
        exact forward now (by simp [TimerInput.time])
      | registerFailure =>
        refine .inr ?_
        rw [quiet nofun]
        exact stamp
      | messageFailure =>
        have kept : ∀ state, (next settings state .messageFailure).i64RegisterTime =
            state.i64RegisterTime := by
          intro state
          unfold next handle mediaGateHandleMessageFailure
          dsimp only
          split <;> rfl
        refine .inr ?_
        rw [quiet nofun, kept]
        exact stamp

/-- The times between two ticks, and that of the second one. -/
theorem times_between (inTime : InTime inputs) {secondOutcome : TickOutcome} {second : Int}
    (split : inputs = earlier ++ .tick first outcome :: (between ++ .tick second secondOutcome :: later)) :
    ∀ time ∈ between.filterMap TimerInput.time, first ≤ time ∧ time ≤ second := by
  intro time member
  have sorted := inTime
  simp only [InTime, split, List.filterMap_append, List.filterMap_cons, TimerInput.time] at sorted
  obtain ⟨-, rest, -⟩ := List.pairwise_append.mp sorted
  obtain ⟨behind, rest⟩ := List.pairwise_cons.mp rest
  obtain ⟨-, -, ordered⟩ := List.pairwise_append.mp rest
  exact ⟨behind time (List.mem_append_left _ member), ordered time member second (by simp)⟩

theorem throughout_front {front back : List TimerInput} {input : TimerInput}
    (registered : Throughout (next settings) (·.bRegisterSuccess = true) state
      (front ++ input :: back)) :
    Throughout (next settings) (·.bRegisterSuccess = true) state front :=
  (throughout_append.mp registered).1

theorem RefreshesAnswered.ticksApart (answered : RefreshesAnswered settings inputs) :
    TicksApart settings inputs := by
  intro earlier first firstOutcome between second secondOutcome later split refreshed registered
    unanswered
  exact absurd unanswered (answered _ _ _ _ _ _ _ split refreshed registered)

theorem apart_of_ticksApart (answered : TicksApart settings inputs) (inTime : InTime inputs) :
    BetweenRefreshes settings inputs
      (fun first _ second => (iExpires - 30) * 1000 ≤ second - first) := by
  intro earlier first firstOutcome between second secondOutcome later split refreshed again registered
  have times := times_between inTime split
  have unanswered : ∀ front now outcome back, between = front ++ .tick now outcome :: back →
      RefreshedAt settings (earlier ++ .tick first firstOutcome :: front) now outcome →
      (run settings (earlier ++ .tick first firstOutcome :: front)).i64RegisterTime =
        first - (run settings earlier).i64RegisterTime →
      Unanswered front → (iExpires - 30) * 1000 ≤ now - first := by
    intro front now outcome back shape other stamp none
    subst shape
    have due := (refreshes_tick.mp other.1).2
    rcases answered earlier first firstOutcome front now outcome
        (back ++ .tick second secondOutcome :: later) (by rw [split]; simp) refreshed
        (throughout_front registered) none other.2 with late | early
    · exact late
    · omega
  rcases stamp_between refreshed (fun time member => (times time member).1) unanswered with
    ⟨time, member, late⟩ | ⟨-, stamp⟩ | ⟨none, stamp⟩
  · have before := (times time member).2
    omega
  · have due := (refreshes_tick.mp again.1).2
    omega
  · have due := (refreshes_tick.mp again.1).2
    rcases answered _ _ _ _ _ _ _ split refreshed registered none again.2 with late | early
    · exact late
    · omega

theorem ticksApart_of_apart (inTime : InTime inputs)
    (apart : BetweenRefreshes settings inputs
      (fun first _ second => (iExpires - 30) * 1000 ≤ second - first)) :
    TicksApart settings inputs := by
  intro earlier first firstOutcome between second secondOutcome later split refreshed registered
    none willing
  have times := times_between inTime split
  by_contra neither
  obtain ⟨soon, due⟩ := not_or.mp neither
  have others : ∀ front now outcome back, between = front ++ .tick now outcome :: back →
      RefreshedAt settings (earlier ++ .tick first firstOutcome :: front) now outcome →
      (run settings (earlier ++ .tick first firstOutcome :: front)).i64RegisterTime =
        first - (run settings earlier).i64RegisterTime →
      Unanswered front → (iExpires - 30) * 1000 ≤ now - first := by
    intro front now outcome back shape other _ _
    subst shape
    exact apart earlier first firstOutcome front now outcome
      (back ++ .tick second secondOutcome :: later) (by rw [split]; simp) refreshed other
      (throughout_front registered)
  rcases stamp_between refreshed (fun time member => (times time member).1) others with
    ⟨time, member, late⟩ | ⟨some, -⟩ | ⟨-, stamp⟩
  · have before := (times time member).2
    omega
  · exact some none
  · -- the tick finds the gap that the first refresh has stored, and refreshes again
    have there : (run settings (earlier ++ .tick first firstOutcome :: between)).bRegisterSuccess =
        true := by
      have last := registered.last
      rwa [← run_append, List.append_assoc, List.singleton_append] at last
    have again : RefreshedAt settings (earlier ++ .tick first firstOutcome :: between) second
        secondOutcome := ⟨refreshes_tick.mpr ⟨there, by omega⟩, willing⟩
    exact soon (apart _ _ _ _ _ _ _ split refreshed again registered)

theorem onTime_iff (inTime : InTime inputs) :
    OnTime settings inputs ↔ TicksApart settings inputs := by
  constructor
  · exact fun onTime => ticksApart_of_apart inTime onTime.apart
  · intro ticksApart
    refine ⟨apart_of_ticksApart ticksApart inTime, ?_⟩
    intro earlier now outcome later _ registered notRefreshed late
    rw [refreshes_tick, not_and] at notRefreshed
    rw [← run_lastKeepaliveTime] at late
    exact sendsKeepalive_tick.mpr ⟨registered, notRefreshed registered, late⟩

/-- The timer is on time in every run in which refreshes are answered before the next tick, and
in those of the others whose ticks are apart. -/
theorem onTime_of_answered (inputs : List TimerInput) (inTime : InTime inputs) :
    (RefreshesAnswered settings inputs → OnTime settings inputs) ∧
      (OnTime settings inputs ↔ TicksApart settings inputs) :=
  ⟨fun answered => (onTime_iff inTime).mpr answered.ticksApart, onTime_iff inTime⟩

def answeredRefresh : List TimerInput :=
  [.registerSuccess 1700000000000, .tick 1700003570000 ⟨1, 0⟩, .registerSuccess 1700003570020,
    .tick 1700003580000 ⟨1, 0⟩, .tick 1700007140020 ⟨1, 0⟩]

def unansweredRefresh : List TimerInput :=
  [.registerSuccess 1700000000000, .tick 1700003570000 ⟨1, 0⟩, .tick 1700003580000 ⟨1, 0⟩]

theorem answeredRefresh_answered : RefreshesAnswered sampleSettings answeredRefresh := by
  intro earlier first firstOutcome between second secondOutcome later split refreshed _ unanswered
  match earlier, split with
  | [], split => cases (List.cons.inj split).1
  | [_], split =>
    -- behind the first tick the register success comes first
    have behind := (List.cons.inj (List.cons.inj split).2).2
    match between, behind with
    | [], behind => cases (List.cons.inj behind).1
    | _ :: _, behind =>
      cases (List.cons.inj behind).1
      exact unanswered _ List.mem_cons_self
  | [_, _], split => cases (List.cons.inj (List.cons.inj (List.cons.inj split).2).2).1
  | [_, _, _], split =>
    -- the second tick comes too soon after the success to refresh
    obtain ⟨success, ticks⟩ := List.cons.inj split
    obtain ⟨tick, answers⟩ := List.cons.inj ticks
    obtain ⟨answer, behind⟩ := List.cons.inj answers
    cases (List.cons.inj behind).1
    subst success tick answer
    exact absurd refreshed.1 (by decide +kernel)
  | _ :: _ :: _ :: _ :: _, split =>
    have size := congrArg List.length split
    simp [answeredRefresh] at size
    omega

theorem answeredRefresh_onTime : OnTime sampleSettings answeredRefresh :=
  (onTime_of_answered answeredRefresh (by decide +kernel)).1 answeredRefresh_answered

/-- Ten seconds after a refresh that nothing has answered yet, the next tick refreshes again. -/
theorem refreshed_again : ¬ ∀ inputs, InTime inputs → OnTime sampleSettings inputs := by
  intro onTime
  have apart := (onTime unansweredRefresh (by decide +kernel)).apart
    [.registerSuccess 1700000000000] 1700003570000 ⟨1, 0⟩ [] 1700003580000 ⟨1, 0⟩ [] rfl
    ⟨by decide +kernel, rfl⟩ ⟨by decide +kernel, rfl⟩ (by decide +kernel)
  exact absurd apart (by decide)

end Gb28181.MediaGate
