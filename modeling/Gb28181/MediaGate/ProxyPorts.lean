import Gb28181.Lib.Runs
import Gb28181.MediaGate.Gate

namespace Gb28181.MediaGate

open Gb28181.Lib Ports

inductive PortCall where
  | createStreamPusher (outcome : Outcome) (cid : Int) (pszStreamId : Text)
  | createStreamPuller (request : PullRequest) (opens : Nat → Bool) (initInvite : Int)

def Gate.make (gate : Gate) : PortCall → Gate
  | .createStreamPusher outcome cid pszStreamId =>
    (gate.createStreamPusher outcome cid pszStreamId).2
  | .createStreamPuller request opens initInvite =>
    (gate.createStreamPuller request opens initInvite).2

/-- A puller behind the proxy advertises the port that is mapped to the one it bound. -/
def PortCall.AdvertisesMapped (gate : Gate) : PortCall → Prop
  | .createStreamPusher _ _ _ => True
  | .createStreamPuller request opens initInvite =>
    gate.iProxyEnable = 1 → ∀ hPuller after,
      gate.createStreamPuller request opens initInvite = (some hPuller, after) →
        ∃ pPuller, after.cells[hPuller]? = some pPuller ∧
          after.sent = gate.sent ++ [.initInvite gate.settings.strLocalSipId request.pszDestId
            request.pszDestIP request.iDestPort (pullerSubject gate.settings request)
            (pullerBody gate.settings request (gate.ports.iProxyStreamPort +
              (pPuller.object.iLocalPort - gate.ports.usMediaGateStreamStartPort)))]

/-- The two ports stay in step, and every puller advertises the port mapped to its own. -/
def ProxyMapped (gate : Gate) (calls : List PortCall) : Prop :=
  Throughout Gate.make (·.ports.InStep) gate calls ∧
    EveryStep Gate.make (fun gate call => call.AdvertisesMapped gate) gate calls

/-- A pusher that goes round all the local ports, back to the one it came from. -/
def PortCall.GoesRound (gate : Gate) : PortCall → Prop
  | .createStreamPusher outcome _ _ =>
    gate.ports.usMediaGateStreamStartPort < gate.ports.usCurrUseMediaGateStreamPort ∧
      positions gate.ports.usMediaGateStreamStartPort ∣ tried outcome.opens 3
  | .createStreamPuller _ _ _ => True

variable {gate : Gate} {outcome : Outcome} {cid initInvite iProxyStreamPort : Int} {start : Nat}
  {pszStreamId : Text} {request : PullRequest} {opens : Nat → Bool} {position : Nat}

theorem ports_createStreamPusher : (gate.createStreamPusher outcome cid pszStreamId).2.ports =
    (gate.ports.pusherTries outcome.opens 3).2 := by
  cases opened : (gate.ports.pusherTries outcome.opens 3).1 with
  | none => rw [createStreamPusher_none opened]
  | some iLocalPort => rw [createStreamPusher_some opened]

theorem ports_createStreamPuller : (gate.createStreamPuller request opens initInvite).2.ports =
    (gate.ports.pullerTries opens 3).2 := by
  cases opened : (gate.ports.pullerTries opens 3).1 with
  | none => rw [createStreamPuller_none opened]
  | some both =>
    by_cases refused : initInvite ≤ 0
    · rw [createStreamPuller_refused opened refused]
    · rw [createStreamPuller_some opened (not_le.mp refused)]

theorem tried_pos (opens : Nat → Bool) (left : Nat) : 0 < tried opens (left + 1) := by
  rw [tried]
  split
  · exact one_pos
  · exact Nat.succ_pos _

/-- A pusher keeps the ports in step when it goes round. -/
theorem inStep_createStreamPusher
    (placed : At start iProxyStreamPort position position gate.ports)
    (below : start < mediaGateMaxUsePort) :
    (gate.createStreamPusher outcome cid pszStreamId).2.ports.InStep ↔
      PortCall.GoesRound gate (.createStreamPusher outcome cid pszStreamId) := by
  have moved := @At.pusherTries _ _ _ _ _ outcome.opens placed below 3
  rw [ports_createStreamPusher, moved.inStep_iff, eq_comm,
    iterate_rotated_eq_iff placed.inside (tried_pos _ _), PortCall.GoesRound, placed.starts,
    placed.media]
  refine and_congr_left' ?_
  omega

def Placed (start : Nat) (iProxyStreamPort : Int) (gate : Gate) : Prop :=
  ∃ position proxyPosition, At start iProxyStreamPort position proxyPosition gate.ports

theorem Placed.inStep (placed : Placed start iProxyStreamPort gate) (inStep : gate.ports.InStep) :
    ∃ position, At start iProxyStreamPort position position gate.ports := by
  obtain ⟨position, proxyPosition, at_⟩ := placed
  cases at_.inStep_iff.mp inStep
  exact ⟨position, at_⟩

theorem inStep_make (placed : At start iProxyStreamPort position position gate.ports)
    (below : start < mediaGateMaxUsePort) (natural : 0 ≤ iProxyStreamPort)
    (fits : iProxyStreamPort + 2 * positions start < 65536) (call : PortCall) :
    Placed start iProxyStreamPort (gate.make call) ∧
      ((gate.make call).ports.InStep ↔ call.GoesRound gate) := by
  cases call with
  | createStreamPusher outcome cid pszStreamId =>
    have moved := @At.pusherTries _ _ _ _ _ outcome.opens placed below 3
    rw [← @ports_createStreamPusher gate outcome cid pszStreamId] at moved
    exact ⟨⟨_, _, moved⟩, inStep_createStreamPusher placed below⟩
  | createStreamPuller request opens initInvite =>
    obtain ⟨⟨after, moved⟩, -⟩ := @At.pullerTries _ _ _ _ opens placed below natural fits 3
    rw [← @ports_createStreamPuller gate initInvite request opens] at moved
    exact ⟨⟨_, _, moved⟩, iff_of_true (moved.inStep_iff.mpr rfl) trivial⟩

theorem advertisesMapped (placed : At start iProxyStreamPort position position gate.ports)
    (below : start < mediaGateMaxUsePort) (natural : 0 ≤ iProxyStreamPort)
    (fits : iProxyStreamPort + 2 * positions start < 65536) (call : PortCall) :
    call.AdvertisesMapped gate := by
  cases call with
  | createStreamPusher => trivial
  | createStreamPuller request opens initInvite =>
    intro enabled hPuller after created
    obtain ⟨mediaPort, proxyPort, opened, invited⟩ := createStreamPuller_eq_some created
    obtain ⟨-, mapped⟩ := @At.pullerTries _ _ _ _ opens placed below natural fits 3
    have advertised := mapped _ opened
    rw [createStreamPuller_some opened invited] at created
    cases created
    refine ⟨_, List.getElem?_concat_length, ?_⟩
    rw [placed.starts, placed.proxyStarts]
    show _ = gate.sent ++ [Request.initInvite _ _ _ _ _ (pullerBody _ _
      (iProxyStreamPort + ((mediaPort : Int) - start)))]
    rw [← advertised, Gate.pullerInvite, if_pos enabled]

/-- From `GB28181MediaGate_Init` on, the mapping holds in exactly the runs in which every
pusher goes round. -/
theorem proxyMapped_iff (arguments : InitArguments)
    (below : unsignedShort arguments.iMediaStartPort < mediaGateMaxUsePort)
    (natural : 0 ≤ arguments.iProxyStreamPort)
    (fits : arguments.iProxyStreamPort +
      2 * positions (unsignedShort arguments.iMediaStartPort) < 65536) (calls : List PortCall) :
    ProxyMapped (init arguments) calls ↔
      EveryStep Gate.make (fun gate call => call.GoesRound gate) (init arguments) calls := by
  have started : At (unsignedShort arguments.iMediaStartPort) arguments.iProxyStreamPort 0 0
      (init arguments).ports := by
    refine ⟨rfl, ?_, rfl, rfl, Nat.zero_le _⟩
    simpa [init, Ports.init] using unsignedShort_of_lt natural (by omega)
  have inStep := started.inStep_iff.mpr rfl
  have exactly := @throughout_iff_everyStep _ _ Gate.make (·.ports.InStep) _ _ _ calls
    (show Placed _ _ (init arguments) from ⟨0, 0, started⟩) inStep
    (fun gate call _ placed inStep _ => by
      obtain ⟨position, at_⟩ := placed.inStep inStep
      exact (inStep_make at_ below natural fits call).1)
    (fun gate call _ placed inStep => by
      obtain ⟨position, at_⟩ := placed.inStep inStep
      exact (inStep_make at_ below natural fits call).2)
  constructor
  · intro mapped
    exact exactly.mp mapped.1
  · intro steps
    have placed : Throughout Gate.make (fun gate =>
        Placed (unsignedShort arguments.iMediaStartPort) arguments.iProxyStreamPort gate ∧
          gate.ports.InStep) (init arguments) calls := by
      apply throughout_of_everyStep ⟨⟨0, 0, started⟩, inStep⟩ _ steps
      intro gate call both goesRound
      obtain ⟨position, at_⟩ := both.1.inStep both.2
      have step := inStep_make at_ below natural fits call
      exact ⟨step.1, step.2.mpr goesRound⟩
    refine ⟨exactly.mpr steps, everyStep_of_throughout placed ?_⟩
    intro gate call both
    obtain ⟨position, at_⟩ := both.1.inStep both.2
    exact advertisesMapped at_ below natural fits call

def twoPullers : List PortCall :=
  [.createStreamPuller livePull (fun _ => true) 1, .createStreamPuller livePull (· = 2) 2]

theorem proxyMapped_iff_twoPullers :
    ProxyMapped (init proxyArguments) twoPullers ↔
      EveryStep Gate.make (fun gate call => call.GoesRound gate) (init proxyArguments) twoPullers :=
  proxyMapped_iff proxyArguments (by decide) (by decide) (by decide) twoPullers

/-- One pusher is enough to take the proxy out of step. -/
theorem pusher_out_of_step : ¬ ∀ (arguments : InitArguments) (calls : List PortCall),
    unsignedShort arguments.iMediaStartPort < mediaGateMaxUsePort →
    0 ≤ arguments.iProxyStreamPort →
    arguments.iProxyStreamPort + 2 * positions (unsignedShort arguments.iMediaStartPort) < 65536 →
    ProxyMapped (init arguments) calls := by
  intro mapped
  have inStep := (mapped proxyArguments [.createStreamPusher willing 4 "1".toList] (by decide)
    (by decide) (by decide)).1.last
  exact absurd inStep (by decide)

end Gb28181.MediaGate
