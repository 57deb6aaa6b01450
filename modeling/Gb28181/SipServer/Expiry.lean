import Gb28181.SipServer.Registrations

/-! The expiry of endpoints: which ones `checkSipEndpointHeartbeat` removes, with which calls,
and where its limits of type `int` are not those of the configuration. -/

namespace Gb28181.SipServer

open Gb28181.Lib Gb28181.SipUA

/-- An endpoint goes, and its calls before it. -/
def State.expel (state : State) (strSipId : Text) : State :=
  (state.removeBySipId strSipId).eraseEndpoint strSipId

def State.expelAll (state : State) (ids : List Text) : State := ids.foldl State.expel state

/-- The endpoints under a condition gone, with the calls they have a part in. -/
def State.swept (due : SipEndpointInfo → Bool) (state : State) : State :=
  { state with
    mapSipEndpoints := state.mapSipEndpoints.keep (fun entry => !due entry.2)
    lsCallContext := state.lsCallContext.filter (fun cell =>
      state.mapSipEndpoints.entries.all (fun entry => !(due entry.2 && cell.2.serves entry.1))) }

/-- No keepalive, or no registration, for as long as the seconds say. -/
def overdue (iMonitorKeepalive i64CurTime : Int) (endpoint : SipEndpointInfo) : Bool :=
  i64CurTime - endpoint.i64KeepaliveTime ≥ iMonitorKeepalive * 1000 ||
    i64CurTime - endpoint.i64RegisterTime ≥ endpoint.sRegInfo.expires * 1000

/-- What is overdue is gone, and nothing else is different but for what was sent. -/
def ExpiresExactly (iMonitorKeepalive i64CurTime : Int) (state after : State) : Prop :=
  after = { state.swept (overdue iMonitorKeepalive i64CurTime) with sent := after.sent }

/-- The gap has reached the limit of type `int`, but not the seconds. -/
def TooSoon (gap seconds : Int) : Prop := intProduct seconds 1000 ≤ gap ∧ gap < seconds * 1000

/-- The gap has reached the seconds, but not the limit of type `int`. -/
def TooLate (gap seconds : Int) : Prop := seconds * 1000 ≤ gap ∧ gap < intProduct seconds 1000

variable {iMonitorKeepalive i64CurTime : Int} {state : State} {endpoint : SipEndpointInfo}
  {strSipId : Text} {ids : List Text} {due due' : SipEndpointInfo → Bool}

section Limits

variable (iMonitorKeepalive i64CurTime endpoint)

/-- Removed before it is overdue. -/
def RemovedEarly : Prop :=
  (TooSoon (i64CurTime - endpoint.i64KeepaliveTime) iMonitorKeepalive ∨
    TooSoon (i64CurTime - endpoint.i64RegisterTime) endpoint.sRegInfo.expires) ∧
  i64CurTime - endpoint.i64KeepaliveTime < iMonitorKeepalive * 1000 ∧
  i64CurTime - endpoint.i64RegisterTime < endpoint.sRegInfo.expires * 1000

/-- Kept although it is overdue. -/
def KeptLate : Prop :=
  (TooLate (i64CurTime - endpoint.i64KeepaliveTime) iMonitorKeepalive ∨
    TooLate (i64CurTime - endpoint.i64RegisterTime) endpoint.sRegInfo.expires) ∧
  i64CurTime - endpoint.i64KeepaliveTime < intProduct iMonitorKeepalive 1000 ∧
  i64CurTime - endpoint.i64RegisterTime < intProduct endpoint.sRegInfo.expires 1000

end Limits

theorem intProduct_exact {seconds : Int} (low : -2147483 ≤ seconds) (high : seconds ≤ 2147483) :
    intProduct seconds 1000 = seconds * 1000 := by
  unfold intProduct
  exact Int.bmod_eq_of_le (by omega) (by omega)

theorem needDel_eq_overdue :
    needDelEndpoint iMonitorKeepalive i64CurTime endpoint =
        overdue iMonitorKeepalive i64CurTime endpoint ↔
      ¬ RemovedEarly iMonitorKeepalive i64CurTime endpoint ∧
        ¬ KeptLate iMonitorKeepalive i64CurTime endpoint := by
  unfold needDelEndpoint overdue RemovedEarly KeptLate TooSoon TooLate
  rw [Bool.eq_iff_iff]
  simp only [Bool.or_eq_true, decide_eq_true_eq]
  omega

theorem run_heartbeatLoop (entries : List (Text × SipEndpointInfo)) :
    (heartbeatLoop iMonitorKeepalive i64CurTime entries).run state =
      ((), state.expelAll ((entries.filter
        (fun entry => needDelEndpoint iMonitorKeepalive i64CurTime entry.2)).map Prod.fst)) := by
  induction entries generalizing state with
  | nil => rfl
  | cons entry entries ih =>
    unfold heartbeatLoop
    rw [List.filter_cons]
    by_cases needed : needDelEndpoint iMonitorKeepalive i64CurTime entry.2 = true
    · rw [if_pos needed, if_pos needed]
      simp only [removeCallContextBySipId, Prog.run_bind, Prog.run_lock, Prog.run_unlock,
        Prog.run_write, ih]
      rfl
    · rw [if_neg needed, if_neg needed]
      exact ih

theorem run_checkSipEndpointHeartbeat :
    (checkSipEndpointHeartbeat iMonitorKeepalive i64CurTime).run state =
      ((), state.expelAll ((state.mapSipEndpoints.entries.filter
        (fun entry => needDelEndpoint iMonitorKeepalive i64CurTime entry.2)).map Prod.fst)) := by
  simp only [checkSipEndpointHeartbeat, Prog.run_bind, Prog.run_lock, Prog.run_unlock,
    Prog.run_read, run_heartbeatLoop]

theorem expelAll_endpoints : (state.expelAll ids).mapSipEndpoints =
    state.mapSipEndpoints.keep (fun entry => !ids.contains entry.1) := by
  induction ids generalizing state with
  | nil => exact OrderedMap.ext (List.filter_eq_self.mpr fun _ _ => rfl).symm
  | cons id ids ih =>
    refine ih.trans (OrderedMap.ext ?_)
    change ((state.mapSipEndpoints.entries.filter _).filter _) = state.mapSipEndpoints.entries.filter _
    rw [List.filter_filter]
    apply List.filter_congr
    intro entry _
    by_cases same : entry.1 = id
    · simp [same]
    · simp [same]

theorem expelAll_calls : (state.expelAll ids).lsCallContext =
    state.lsCallContext.filter (fun cell => ids.all (!cell.2.serves ·)) := by
  induction ids generalizing state with
  | nil => exact (List.filter_eq_self.mpr fun _ _ => rfl).symm
  | cons id ids ih =>
    refine ih.trans ?_
    change ((state.lsCallContext.filter _).filter _) = state.lsCallContext.filter _
    rw [List.filter_filter]
    exact List.filter_congr fun cell _ => Bool.and_comm ..

theorem expelAll_others : state.expelAll ids =
    { state with
      mapSipEndpoints := (state.expelAll ids).mapSipEndpoints
      lsCallContext := (state.expelAll ids).lsCallContext
      sent := (state.expelAll ids).sent } := by
  induction ids generalizing state with
  | nil => rfl
  | cons id ids ih => exact ih

theorem expelAll_sent : (state.expelAll ids).sent.Perm (state.sent ++
    (state.lsCallContext.filter (fun cell => !ids.all (!cell.2.serves ·))).flatMap
      (fun cell => hangUp cell.2)) := by
  induction ids generalizing state with
  | nil =>
    have none : state.lsCallContext.filter (fun _ => false) = [] :=
      List.filter_eq_nil_iff.mpr fun _ _ => Bool.false_ne_true
    change state.sent.Perm (state.sent ++ (state.lsCallContext.filter fun _ => false).flatMap _)
    rw [none, List.flatMap_nil, List.append_nil]
  | cons id ids ih =>
    refine ih.trans ?_
    change ((state.sent ++ _) ++ ((state.lsCallContext.filter _).filter _).flatMap _).Perm _
    rw [List.append_assoc, ← List.flatMap_append, List.filter_filter]
    refine List.Perm.append_left _ (List.Perm.flatMap_right _ ?_)
    have parted := List.filter_append_perm (fun cell => cell.2.serves id)
      (state.lsCallContext.filter (fun cell => !(id :: ids).all (!cell.2.serves ·)))
    rw [List.filter_filter, List.filter_filter] at parted
    have served (cell : Pointer × CallContext) :
        (cell.2.serves id && !(id :: ids).all (!cell.2.serves ·)) = cell.2.serves id := by
      rw [List.all_cons]
      cases cell.2.serves id <;> rfl
    have others (cell : Pointer × CallContext) :
        (!cell.2.serves id && !(id :: ids).all (!cell.2.serves ·)) =
          (!ids.all (!cell.2.serves ·) && !cell.2.serves id) := by
      rw [List.all_cons]
      cases cell.2.serves id <;> simp
    simp only [served, others] at parted
    exact parted

theorem expelAll_due : state.expelAll ((state.mapSipEndpoints.entries.filter
      (fun entry => due entry.2)).map Prod.fst) =
    { state.swept due with sent := (state.expelAll ((state.mapSipEndpoints.entries.filter
      (fun entry => due entry.2)).map Prod.fst)).sent } := by
  rw [expelAll_others, expelAll_endpoints, expelAll_calls]
  have endpoints : state.mapSipEndpoints.keep (fun entry =>
      !((state.mapSipEndpoints.entries.filter (fun entry => due entry.2)).map Prod.fst).contains
        entry.1) = state.mapSipEndpoints.keep (fun entry => !due entry.2) := by
    refine OrderedMap.ext (List.filter_congr fun entry member => congrArg not ?_)
    rw [Bool.eq_iff_iff, List.contains_iff_mem, List.mem_map]
    constructor
    · rintro ⟨other, chosen, same⟩
      obtain ⟨there, late⟩ := List.mem_filter.mp chosen
      have value : (entry.1, other.2) ∈ state.mapSipEndpoints.entries := by
        rw [← same]
        exact there
      rw [OrderedMap.eq_of_mem member value]
      exact late
    · intro late
      exact ⟨entry, List.mem_filter.mpr ⟨member, late⟩, rfl⟩
  have calls (cell : Pointer × CallContext) :
      ((state.mapSipEndpoints.entries.filter (fun entry => due entry.2)).map Prod.fst).all
        (!cell.2.serves ·) =
      state.mapSipEndpoints.entries.all (fun entry => !(due entry.2 && cell.2.serves entry.1)) := by
    rw [List.all_map, List.all_filter]
    refine congrArg (state.mapSipEndpoints.entries.all ·) (funext fun entry => ?_)
    cases due entry.2 <;> simp
  simp only [State.swept, endpoints, calls]

/-- Two conditions sweep the same where they agree on every endpoint, and only there. -/
theorem swept_congr : state.swept due = state.swept due' ↔
    ∀ entry ∈ state.mapSipEndpoints.entries, due entry.2 = due' entry.2 := by
  constructor
  · intro same entry member
    have left : entry ∈ (state.swept due).mapSipEndpoints.entries ↔
        entry ∈ (state.swept due').mapSipEndpoints.entries := by
      rw [same]
    simp only [State.swept, OrderedMap.mem_keep, member, true_and, Bool.not_eq_true'] at left
    cases first : due entry.2 <;> cases second : due' entry.2 <;> simp [first, second] at left ⊢
  · intro agree
    have endpoints : state.mapSipEndpoints.keep (fun entry => !due entry.2) =
        state.mapSipEndpoints.keep (fun entry => !due' entry.2) :=
      OrderedMap.ext (List.filter_congr fun entry member => congrArg not (agree entry member))
    have calls (cell : Pointer × CallContext) :
        state.mapSipEndpoints.entries.all (fun entry => !(due entry.2 && cell.2.serves entry.1)) =
          state.mapSipEndpoints.entries.all
            (fun entry => !(due' entry.2 && cell.2.serves entry.1)) := by
      rw [Bool.eq_iff_iff, List.all_eq_true, List.all_eq_true]
      refine forall₂_congr fun entry member => ?_
      rw [agree entry member]
    simp only [State.swept, endpoints, calls]

/-- Expiry is exact where the limits tell what is overdue. -/
theorem expiresExactly_iff :
    ExpiresExactly iMonitorKeepalive i64CurTime state
        ((checkSipEndpointHeartbeat iMonitorKeepalive i64CurTime).run state).2 ↔
      ∀ entry ∈ state.mapSipEndpoints.entries,
        needDelEndpoint iMonitorKeepalive i64CurTime entry.2 =
          overdue iMonitorKeepalive i64CurTime entry.2 := by
  rw [ExpiresExactly, run_checkSipEndpointHeartbeat, expelAll_due, ← swept_congr]
  constructor
  · intro after
    exact congrArg (fun after : State => { after with sent := state.sent }) after
  · intro agree
    rw [agree]

/-- Expiry is exact where no endpoint goes early and none stays late. -/
theorem expiry_exact_iff (iMonitorKeepalive i64CurTime : Int) (state : State) :
    ExpiresExactly iMonitorKeepalive i64CurTime state
        ((checkSipEndpointHeartbeat iMonitorKeepalive i64CurTime).run state).2 ↔
      ∀ entry ∈ state.mapSipEndpoints.entries,
        ¬ RemovedEarly iMonitorKeepalive i64CurTime entry.2 ∧
          ¬ KeptLate iMonitorKeepalive i64CurTime entry.2 := by
  rw [expiresExactly_iff]
  exact forall_congr' fun entry => forall_congr' fun _ => needDel_eq_overdue

/-- With limits of up to 24 days expiry is exact at every time. -/
theorem expires_exactly_within (low : -2147483 ≤ iMonitorKeepalive)
    (high : iMonitorKeepalive ≤ 2147483)
    (within : ∀ entry ∈ state.mapSipEndpoints.entries,
      -2147483 ≤ entry.2.sRegInfo.expires ∧ entry.2.sRegInfo.expires ≤ 2147483) :
    ExpiresExactly iMonitorKeepalive i64CurTime state
      ((checkSipEndpointHeartbeat iMonitorKeepalive i64CurTime).run state).2 := by
  apply expiresExactly_iff.mpr
  intro entry member
  obtain ⟨lowExpires, highExpires⟩ := within entry member
  unfold needDelEndpoint overdue
  rw [intProduct_exact low high, intProduct_exact lowExpires highExpires]

theorem expiry_hangs_up (iMonitorKeepalive i64CurTime : Int) (state : State) :
    ((checkSipEndpointHeartbeat iMonitorKeepalive i64CurTime).run state).2.sent.Perm
      (state.sent ++ (state.lsCallContext.filter (fun cell =>
        cell ∉ ((checkSipEndpointHeartbeat iMonitorKeepalive i64CurTime).run
          state).2.lsCallContext)).flatMap (fun cell => hangUp cell.2)) := by
  rw [run_checkSipEndpointHeartbeat]
  refine expelAll_sent.trans (List.Perm.append_left _ (List.Perm.of_eq ?_))
  refine congrArg (List.flatMap _) (List.filter_congr fun cell member => ?_)
  rw [expelAll_calls, Bool.eq_iff_iff, decide_eq_true_iff, List.mem_filter, not_and,
    Bool.not_eq_true', Bool.not_eq_true]
  exact ⟨fun gone _ => gone, fun gone => gone member⟩

def longRegister : Event :=
  { platformRegister with
    request := some { plainRequest with
      sipMethod := "REGISTER".toList
      contact := some (some ⟨some "P".toList, some "10.0.0.2".toList, some "5060".toList⟩)
      expires := some (some "2147484".toList)
      authorization := some ⟨none, none, none, none, none⟩ } }

/-- The server that it has registered with at 1000. -/
def longRegistered : State :=
  State.handleAll sampleEnvironment .initial [.event longRegister (answering 1000 0)]

/-- It is removed at once. -/
theorem long_expires_at_once :
    ¬ ExpiresExactly 120 1000 longRegistered
      ((checkSipEndpointHeartbeat 120 1000).run longRegistered).2 := by
  intro expired
  have endpoints : ((checkSipEndpointHeartbeat 120 1000).run longRegistered).2.mapSipEndpoints.keys
        = [] ∧
      (longRegistered.swept (overdue 120 1000)).mapSipEndpoints.keys = ["P".toList] := by
    decide +kernel
  rw [expired, endpoints.2] at endpoints
  exact absurd endpoints.1 (List.cons_ne_nil _ _)

end Gb28181.SipServer
