import Gb28181.Lib.Rotation

namespace Gb28181.MediaGate

open Gb28181.Lib

/-- A number in an `unsigned short`. -/
def unsignedShort (number : Int) : Nat := (number % 65536).toNat

/-- `MEDIA_GATE_MAX_USE_PORT`. -/
def mediaGateMaxUsePort : Nat := 65000

structure Ports where
  usMediaGateStreamStartPort : Nat
  usCurrUseMediaGateStreamPort : Nat
  iProxyStreamPort : Int
  usCurrUseProxyStreamPort : Nat
  deriving DecidableEq

namespace Ports

/-- What `GB28181MediaGate_Init` stores. -/
def init (iMediaStartPort iProxyStreamPort : Int) : Ports where
  usMediaGateStreamStartPort := unsignedShort iMediaStartPort
  usCurrUseMediaGateStreamPort := unsignedShort iMediaStartPort
  iProxyStreamPort := iProxyStreamPort
  usCurrUseProxyStreamPort := unsignedShort iProxyStreamPort

/-- `createStreamPusher` starts over near the last port. -/
def startOver (ports : Ports) : Ports :=
  if ports.usCurrUseMediaGateStreamPort ≥ mediaGateMaxUsePort then
    { ports with usCurrUseMediaGateStreamPort := ports.usMediaGateStreamStartPort }
  else ports

/-- `GB28181MediaGate_CreateStreamPuller` starts over with the proxy port, too. -/
def startBothOver (ports : Ports) : Ports :=
  if ports.usCurrUseMediaGateStreamPort ≥ mediaGateMaxUsePort then
    { ports with
      usCurrUseMediaGateStreamPort := ports.usMediaGateStreamStartPort
      usCurrUseProxyStreamPort := unsignedShort ports.iProxyStreamPort }
  else ports

def moveOn (ports : Ports) : Ports :=
  { ports with usCurrUseMediaGateStreamPort := unsignedShort (ports.usCurrUseMediaGateStreamPort + 2) }

def moveBothOn (ports : Ports) : Ports :=
  { ports.moveOn with usCurrUseProxyStreamPort := unsignedShort (ports.usCurrUseProxyStreamPort + 2) }

/-- The loop of `createStreamPusher`: the port that could be opened. The tries are numbered
from zero. -/
def pusherTries (opens : Nat → Bool) : Nat → Ports → Option Nat × Ports
  | 0, ports => (none, ports)
  | left + 1, ports =>
    let ports := ports.startOver
    if opens 0 then (some ports.usCurrUseMediaGateStreamPort, ports.moveOn)
    else pusherTries (fun iTry => opens (iTry + 1)) left ports.moveOn

/-- The loop of `GB28181MediaGate_CreateStreamPuller`: the port that could be opened, and the
port of the proxy at that moment. -/
def pullerTries (opens : Nat → Bool) : Nat → Ports → Option (Nat × Nat) × Ports
  | 0, ports => (none, ports)
  | left + 1, ports =>
    let ports := ports.startBothOver
    if opens 0 then
      (some (ports.usCurrUseMediaGateStreamPort, ports.usCurrUseProxyStreamPort), ports.moveBothOn)
    else pullerTries (fun iTry => opens (iTry + 1)) left ports.moveBothOn

/-- The proxy port stands as far from its start as the local port does. -/
def InStep (ports : Ports) : Prop :=
  (ports.usCurrUseProxyStreamPort : Int) - ports.iProxyStreamPort =
    (ports.usCurrUseMediaGateStreamPort : Int) - ports.usMediaGateStreamStartPort

instance (ports : Ports) : Decidable ports.InStep := inferInstanceAs (Decidable (_ = _))

end Ports

/-- The number of ports that are tried. -/
def tried (opens : Nat → Bool) : Nat → Nat
  | 0 => 0
  | left + 1 => if opens 0 then 1 else tried (fun iTry => opens (iTry + 1)) left + 1

namespace Ports

/-- The number of positions the local port goes through before it starts over. -/
def positions (start : Nat) : Nat := (65001 - start) / 2

/-- The local port stands at one position behind its start, the proxy port at another. -/
structure At (start : Nat) (iProxyStreamPort : Int) (position proxyPosition : Nat)
    (ports : Ports) : Prop where
  media : ports.usCurrUseMediaGateStreamPort = start + 2 * position
  proxy : (ports.usCurrUseProxyStreamPort : Int) = iProxyStreamPort + 2 * proxyPosition
  starts : ports.usMediaGateStreamStartPort = start
  proxyStarts : ports.iProxyStreamPort = iProxyStreamPort
  inside : position ≤ positions start

variable {start position proxyPosition : Nat} {iProxyStreamPort : Int} {ports : Ports}
  {opens : Nat → Bool}

theorem unsignedShort_of_lt {number : Int} (natural : 0 ≤ number) (below : number < 65536) :
    (unsignedShort number : Int) = number := by
  rw [unsignedShort, Int.emod_eq_of_lt natural below, Int.toNat_of_nonneg natural]

/-- The local port starts over behind its last position. -/
theorem At.wraps_iff (placed : At start iProxyStreamPort position proxyPosition ports) :
    ports.usCurrUseMediaGateStreamPort ≥ mediaGateMaxUsePort ↔ ¬ position < positions start := by
  have media := placed.media
  have inside := placed.inside
  unfold positions at inside ⊢
  unfold mediaGateMaxUsePort
  omega

theorem At.inStep_iff (placed : At start iProxyStreamPort position proxyPosition ports) :
    ports.InStep ↔ proxyPosition = position := by
  have media := placed.media
  have proxy := placed.proxy
  rw [InStep, placed.starts, placed.proxyStarts]
  omega

theorem At.startOver (placed : At start iProxyStreamPort position proxyPosition ports) :
    At start iProxyStreamPort (if position < positions start then position else 0) proxyPosition
      ports.startOver := by
  unfold Ports.startOver
  by_cases inside : position < positions start
  · rw [if_neg (mt placed.wraps_iff.mp (not_not.mpr inside)), if_pos inside]
    exact placed
  · rw [if_pos (placed.wraps_iff.mpr inside), if_neg inside]
    exact ⟨placed.starts, placed.proxy, placed.starts, placed.proxyStarts, Nat.zero_le _⟩

theorem At.startBothOver (placed : At start iProxyStreamPort position position ports)
    (natural : 0 ≤ iProxyStreamPort) (fits : iProxyStreamPort < 65536) :
    At start iProxyStreamPort (if position < positions start then position else 0)
      (if position < positions start then position else 0) ports.startBothOver := by
  unfold Ports.startBothOver
  by_cases inside : position < positions start
  · rw [if_neg (mt placed.wraps_iff.mp (not_not.mpr inside)), if_pos inside]
    exact placed
  · rw [if_pos (placed.wraps_iff.mpr inside), if_neg inside]
    refine ⟨placed.starts, ?_, placed.starts, placed.proxyStarts, Nat.zero_le _⟩
    rw [placed.proxyStarts]
    simpa using unsignedShort_of_lt natural fits

theorem At.moveOn (placed : At start iProxyStreamPort position proxyPosition ports)
    (below : start < mediaGateMaxUsePort) (room : position < positions start) :
    At start iProxyStreamPort (position + 1) proxyPosition ports.moveOn := by
  refine ⟨?_, placed.proxy, placed.starts, placed.proxyStarts, room⟩
  have media := placed.media
  unfold positions at room
  unfold mediaGateMaxUsePort at below
  have stored : (unsignedShort (ports.usCurrUseMediaGateStreamPort + 2) : Int) =
      ports.usCurrUseMediaGateStreamPort + 2 := unsignedShort_of_lt (by omega) (by omega)
  show unsignedShort (ports.usCurrUseMediaGateStreamPort + 2) = start + 2 * (position + 1)
  omega

theorem At.moveBothOn (placed : At start iProxyStreamPort position proxyPosition ports)
    (below : start < mediaGateMaxUsePort) (room : position < positions start)
    (fits : iProxyStreamPort + 2 * (proxyPosition + 1) < 65536) :
    At start iProxyStreamPort (position + 1) (proxyPosition + 1) ports.moveBothOn := by
  have moved := placed.moveOn below room
  refine ⟨moved.media, ?_, moved.starts, moved.proxyStarts, moved.inside⟩
  have proxy := placed.proxy
  have stored : (unsignedShort (ports.usCurrUseProxyStreamPort + 2) : Int) =
      ports.usCurrUseProxyStreamPort + 2 := unsignedShort_of_lt (by omega) (by omega)
  show (unsignedShort (ports.usCurrUseProxyStreamPort + 2) : Int) = _
  rw [stored, proxy]
  push_cast
  omega

theorem positions_pos (below : start < mediaGateMaxUsePort) : 0 < positions start := by
  unfold mediaGateMaxUsePort at below
  unfold positions
  omega

/-- Before it moves on, the local port never stands at the last position. -/
theorem position_lt (below : start < mediaGateMaxUsePort) :
    (if position < positions start then position else 0) < positions start := by
  split
  case isTrue inside => exact inside
  case isFalse => exact positions_pos below

theorem At.pusherTries (placed : At start iProxyStreamPort position proxyPosition ports)
    (below : start < mediaGateMaxUsePort) (left : Nat) :
    At start iProxyStreamPort ((rotated (positions start))^[tried opens left] position)
      proxyPosition (pusherTries opens left ports).2 := by
  induction left generalizing opens position ports with
  | zero => exact placed
  | succ left ih =>
    have moved := placed.startOver.moveOn below (position_lt below)
    rw [Ports.pusherTries, tried]
    split
    case isTrue => exact moved
    case isFalse =>
      rw [Function.iterate_succ_apply]
      exact ih moved

/-- The tries of a puller keep the ports in step, and so are the two it gives. -/
theorem At.pullerTries (placed : At start iProxyStreamPort position position ports)
    (below : start < mediaGateMaxUsePort) (natural : 0 ≤ iProxyStreamPort)
    (fits : iProxyStreamPort + 2 * positions start < 65536) (left : Nat) :
    (∃ position, At start iProxyStreamPort position position (pullerTries opens left ports).2) ∧
      ∀ opened ∈ (pullerTries opens left ports).1,
        (opened.2 : Int) = iProxyStreamPort + (opened.1 - start) := by
  induction left generalizing opens position ports with
  | zero => exact ⟨⟨position, placed⟩, nofun⟩
  | succ left ih =>
    have room := @position_lt start position below
    have restarted := placed.startBothOver natural (by omega)
    have moved := restarted.moveBothOn below room (by omega)
    rw [Ports.pullerTries]
    split
    case isTrue =>
      refine ⟨⟨_, moved⟩, ?_⟩
      rintro opened ⟨⟩
      have media := restarted.media
      have proxy := restarted.proxy
      dsimp only
      omega
    case isFalse => exact ih moved

end Ports

end Gb28181.MediaGate
