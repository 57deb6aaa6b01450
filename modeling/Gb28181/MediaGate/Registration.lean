import Gb28181.Lib.Runs
import Gb28181.SipUA.Sdp

namespace Gb28181.MediaGate

open Gb28181.Lib Gb28181.SipUA

/-- What `GB28181MediaGate_Init` stores. -/
structure Settings where
  strLocalSipId : Text
  strLocalMediaIP : Text
  strSipServerId : Text
  strSipServerIP : Text
  iSipServerPort : Int
  deriving DecidableEq

def sampleSettings : Settings :=
  ⟨"34020000002020000001".toList, "192.168.3.81".toList, "34020000002000000001".toList,
    "192.168.3.80".toList, 5060⟩

/-- What the gate has the SIP stack send. -/
inductive Request where
  | registerUnauthor (pszLocalId : Text) (expires : Int) (pszServerId pszServerIP : Text)
      (port : Int) (pszBody : Text)
  | refreshRegister (iRegisterId expires : Int)
  | initMessage (pszSrcId pszDestId pszDestIP : Text) (iDestPort : Int) (pszBody : Text)
  | initInvite (pszSrcId pszDestId pszDestIP : Text) (iDestPort : Int) (pszSubject pszBody : Text)
  | answer (tid status : Int) (body : Option Text)
  | sendAck (did : Int)
  | terminateCall (cid did : Int)
  deriving DecidableEq

/-- `g_iExpires`, which nothing changes. -/
def iExpires : Int := 3600

/-- The state of the registration; `iMsgFailureCount` is a static of its handler. -/
structure Registration where
  iRegisterId : Int
  bRegisterSuccess : Bool
  i64RegisterTime : Int
  i64LastKeepaliveTime : Int
  iMsgFailureCount : Int
  deriving DecidableEq

def Registration.initial : Registration := ⟨0, false, 0, 0, 0⟩

/-- What `SipUA_RegisterUnauthor` and `SipUA_RefreshRegister` return to a tick. -/
structure TickOutcome where
  registerUnauthor : Int
  refreshRegister : Int
  deriving DecidableEq

/-- What reaches the registration, with the milliseconds since 1970 where a handler reads
the clock. -/
inductive TimerInput where
  | tick (i64CurTime : Int) (outcome : TickOutcome)
  | registerSuccess (i64CurTime : Int)
  | registerFailure
  | messageFailure
  deriving DecidableEq

def keepaliveXml (strLocalSipId : Text) : Text :=
  "<?xml version=\"1.0\"?>\r\n<Notify>\r\n<CmdType>Keepalive</CmdType>\r\n<SN>43</SN>\r\n<DeviceID>".toList ++
    strLocalSipId ++ "</DeviceID>\r\n<Status>OK</Status>\r\n</Notify>\r\n".toList

namespace Registration

variable (settings : Settings)

def mediaGateRegister (ret : Int) (state : Registration) : Registration × List Request :=
  let request := Request.registerUnauthor settings.strLocalSipId iExpires settings.strSipServerId
    settings.strSipServerIP settings.iSipServerPort "gb28181 register from media gate".toList
  if ret ≤ 0 then (state, [request])
  else ({ state with iRegisterId := ret }, [request])

def keepaliveMsgTimer (i64CurTime : Int) (outcome : TickOutcome) (state : Registration) :
    Registration × List Request :=
  if state.bRegisterSuccess = false then
    mediaGateRegister settings outcome.registerUnauthor state
  else
    let i64RegGap := i64CurTime - state.i64RegisterTime
    if i64RegGap ≥ (iExpires - 30) * 1000 then
      let request := Request.refreshRegister state.iRegisterId iExpires
      if outcome.refreshRegister ≠ 0 then (state, [request])
      -- the gap is stored, not the time
      else ({ state with i64RegisterTime := i64RegGap }, [request])
    else
      let i64KeepaliveGap := i64CurTime - state.i64LastKeepaliveTime
      if i64KeepaliveGap ≥ 30 * 1000 then
        ({ state with i64LastKeepaliveTime := i64CurTime },
          [.initMessage settings.strLocalSipId settings.strSipServerId settings.strSipServerIP
            settings.iSipServerPort (keepaliveXml settings.strLocalSipId)])
      else (state, [])

def mediaGateHandleRegisterSuccess (i64CurTime : Int) (state : Registration) : Registration :=
  { state with
    bRegisterSuccess := true
    i64RegisterTime := i64CurTime }

def mediaGateHandleRegisterFailure (state : Registration) : Registration :=
  { state with bRegisterSuccess := false }

def mediaGateHandleMessageFailure (state : Registration) : Registration :=
  let iMsgFailureCount := state.iMsgFailureCount + 1
  if iMsgFailureCount ≥ 3 then
    { state with
      iMsgFailureCount := 0
      bRegisterSuccess := false }
  else { state with iMsgFailureCount := iMsgFailureCount }

def handle (state : Registration) : TimerInput → Registration × List Request
  | .tick i64CurTime outcome => keepaliveMsgTimer settings i64CurTime outcome state
  | .registerSuccess i64CurTime => (mediaGateHandleRegisterSuccess i64CurTime state, [])
  | .registerFailure => (mediaGateHandleRegisterFailure state, [])
  | .messageFailure => (mediaGateHandleMessageFailure state, [])

def next (state : Registration) (input : TimerInput) : Registration :=
  (handle settings state input).1

def run (inputs : List TimerInput) : Registration := inputs.foldl (next settings) initial

end Registration

variable (settings : Settings) {state : Registration} {now : Int} {outcome : TickOutcome}

/-- The input is a tick that calls `SipUA_RefreshRegister`. -/
def Refreshes (state : Registration) (input : TimerInput) : Prop :=
  .refreshRegister state.iRegisterId iExpires ∈ (state.handle settings input).2

/-- The input is a tick that sends a Keepalive. -/
def SendsKeepalive (state : Registration) (input : TimerInput) : Prop :=
  .initMessage settings.strLocalSipId settings.strSipServerId settings.strSipServerIP
    settings.iSipServerPort (keepaliveXml settings.strLocalSipId) ∈ (state.handle settings input).2

instance (input : TimerInput) : Decidable (Refreshes settings state input) :=
  inferInstanceAs (Decidable (_ ∈ _))

instance (input : TimerInput) : Decidable (SendsKeepalive settings state input) :=
  inferInstanceAs (Decidable (_ ∈ _))

variable {settings}

section Tick

open Registration

@[simp] theorem handle_tick : state.handle settings (.tick now outcome) =
    keepaliveMsgTimer settings now outcome state := rfl

theorem tick_unregistered (unregistered : state.bRegisterSuccess = false) :
    keepaliveMsgTimer settings now outcome state =
      mediaGateRegister settings outcome.registerUnauthor state :=
  if_pos unregistered

theorem tick_due (registered : state.bRegisterSuccess = true)
    (due : (iExpires - 30) * 1000 ≤ now - state.i64RegisterTime) :
    keepaliveMsgTimer settings now outcome state =
      (if outcome.refreshRegister ≠ 0 then state
        else { state with i64RegisterTime := now - state.i64RegisterTime },
        [.refreshRegister state.iRegisterId iExpires]) := by
  unfold keepaliveMsgTimer
  rw [if_neg (by rw [registered]; nofun), if_pos due]
  dsimp only
  split <;> rfl

theorem tick_early (registered : state.bRegisterSuccess = true)
    (early : ¬ (iExpires - 30) * 1000 ≤ now - state.i64RegisterTime) :
    keepaliveMsgTimer settings now outcome state =
      if 30 * 1000 ≤ now - state.i64LastKeepaliveTime then
        ({ state with i64LastKeepaliveTime := now },
          [.initMessage settings.strLocalSipId settings.strSipServerId settings.strSipServerIP
            settings.iSipServerPort (keepaliveXml settings.strLocalSipId)])
      else (state, []) := by
  unfold keepaliveMsgTimer
  rw [if_neg (by rw [registered]; nofun), if_neg early]

theorem mem_register (ret : Int) (request : Request) :
    request ∈ (mediaGateRegister settings ret state).2 ↔ request = .registerUnauthor
      settings.strLocalSipId iExpires settings.strSipServerId settings.strSipServerIP
      settings.iSipServerPort "gb28181 register from media gate".toList := by
  unfold mediaGateRegister
  split <;> exact List.mem_singleton

theorem register_keeps (ret : Int) :
    (mediaGateRegister settings ret state).1.i64RegisterTime = state.i64RegisterTime ∧
    (mediaGateRegister settings ret state).1.i64LastKeepaliveTime = state.i64LastKeepaliveTime := by
  unfold mediaGateRegister
  split <;> exact ⟨rfl, rfl⟩

theorem refreshes_tick : Refreshes settings state (.tick now outcome) ↔
    state.bRegisterSuccess = true ∧ (iExpires - 30) * 1000 ≤ now - state.i64RegisterTime := by
  rw [Refreshes, handle_tick]
  cases registered : state.bRegisterSuccess with
  | false =>
    rw [tick_unregistered registered, mem_register]
    exact iff_of_false nofun nofun
  | true =>
    by_cases due : (iExpires - 30) * 1000 ≤ now - state.i64RegisterTime
    · rw [tick_due registered due]
      exact iff_of_true (List.mem_singleton.mpr rfl) ⟨rfl, due⟩
    · rw [tick_early registered due]
      refine iff_of_false ?_ (fun refreshes => due refreshes.2)
      split <;> simp

theorem sendsKeepalive_tick : SendsKeepalive settings state (.tick now outcome) ↔
    state.bRegisterSuccess = true ∧ ¬ (iExpires - 30) * 1000 ≤ now - state.i64RegisterTime ∧
      30 * 1000 ≤ now - state.i64LastKeepaliveTime := by
  rw [SendsKeepalive, handle_tick]
  cases registered : state.bRegisterSuccess with
  | false =>
    rw [tick_unregistered registered, mem_register]
    exact iff_of_false nofun nofun
  | true =>
    by_cases due : (iExpires - 30) * 1000 ≤ now - state.i64RegisterTime
    · rw [tick_due registered due]
      exact iff_of_false (by simp) (fun sends => sends.2.1 due)
    · rw [tick_early registered due]
      split
      case isTrue late => exact iff_of_true (List.mem_singleton.mpr rfl) ⟨rfl, due, late⟩
      case isFalse recent => exact iff_of_false nofun (fun sends => recent sends.2.2)

/-- A tick stores a time for a registration only when it refreshes, and then the gap. -/
theorem next_tick_registerTime :
    (state.next settings (.tick now outcome)).i64RegisterTime =
      if Refreshes settings state (.tick now outcome) ∧ outcome.refreshRegister = 0 then
        now - state.i64RegisterTime
      else state.i64RegisterTime := by
  rw [if_congr (and_congr_left' refreshes_tick) rfl rfl]
  rw [next, handle_tick]
  cases registered : state.bRegisterSuccess with
  | false =>
    rw [tick_unregistered registered, if_neg nofun]
    exact (register_keeps _).1
  | true =>
    by_cases due : (iExpires - 30) * 1000 ≤ now - state.i64RegisterTime
    · rw [tick_due registered due]
      by_cases returned : outcome.refreshRegister = 0
      · rw [if_neg (not_not.mpr returned), if_pos ⟨⟨rfl, due⟩, returned⟩]
      · rw [if_pos returned, if_neg (fun both => returned both.2)]
    · rw [tick_early registered due]
      split <;> exact (if_neg (fun both => due both.1.2)).symm

theorem next_tick_lastKeepaliveTime :
    (state.next settings (.tick now outcome)).i64LastKeepaliveTime =
      if SendsKeepalive settings state (.tick now outcome) then now
      else state.i64LastKeepaliveTime := by
  rw [if_congr sendsKeepalive_tick rfl rfl]
  rw [next, handle_tick]
  cases registered : state.bRegisterSuccess with
  | false =>
    rw [tick_unregistered registered, if_neg nofun]
    exact (register_keeps _).2
  | true =>
    by_cases due : (iExpires - 30) * 1000 ≤ now - state.i64RegisterTime
    · rw [tick_due registered due]
      split <;> exact (if_neg (fun sends => sends.2.1 due)).symm
    · rw [tick_early registered due]
      split
      case isTrue late => exact (if_pos ⟨rfl, due, late⟩).symm
      case isFalse recent => exact (if_neg (fun sends => recent sends.2.2)).symm

end Tick

end Gb28181.MediaGate
