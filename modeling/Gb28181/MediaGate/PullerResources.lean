import Gb28181.MediaGate.Gate

/-! What the creation of a puller holds of the system: sockets, buffers and a receive thread,
taken by `initStreamPuller` and given back by `releaseStreamPuller` alone. -/

namespace Gb28181.MediaGate

open Gb28181.Lib

/-- What the system answers to one try: the descriptors of the two sockets, negative where the
port cannot be opened, and whether the thread starts. -/
structure Try where
  rtp : Int
  rtcp : Int
  thread : Bool

/-- The members of `CGB28181StreamPuller` that stand for what it holds. -/
structure Puller where
  fdRtp : Int
  fdRtcp : Int
  bThreadWorking : Bool
  /-- Whether `m_pPsData` and `m_pRawData` point to a buffer. -/
  pPsData : Bool
  pRawData : Bool
  cid : Int
  deriving DecidableEq

def Puller.new : Puller := ⟨-1, -1, false, false, false, 0⟩

/-- What the process holds, and the pullers its application has handles of. -/
structure Process where
  sockets : List Int
  threads : Nat
  buffers : Nat
  objects : List Puller
  mapGB28181StreamInstance : OrderedMap Int HMG
  known : ∀ entry ∈ mapGB28181StreamInstance.entries, entry.2 < objects.length

namespace Process

/-- `createFd`: an open socket, or nothing. -/
def createFd (fd : Int) (process : Process) : Int × Process :=
  if fd < 0 then (-1, process) else (fd, { process with sockets := fd :: process.sockets })

def close (fd : Int) (process : Process) : Process :=
  { process with sockets := process.sockets.erase fd }

/-- `initStreamPuller`. Whether the thread has started is not asked. -/
def initStreamPuller (answer : Try) (puller : Puller) (process : Process) : Int × Puller × Process :=
  let (fdRtp, process) := process.createFd answer.rtp
  let puller : Puller := { puller with fdRtp := fdRtp }
  if puller.fdRtp ≤ 0 then (-1, puller, process)
  else
    let (fdRtcp, process) := process.createFd answer.rtcp
    let puller : Puller := { puller with fdRtcp := fdRtcp }
    if puller.fdRtcp ≤ 0 then (-1, { puller with fdRtp := -1 }, process.close puller.fdRtp)
    else
      (0, { puller with pPsData := true, pRawData := true, bThreadWorking := true },
        { process with
          buffers := process.buffers + 2
          threads := process.threads + if answer.thread then 1 else 0 })

/-- `releaseStreamPuller`; it waits for the thread to end. -/
def releaseStreamPuller (puller : Puller) (process : Process) : Puller × Process :=
  let process := if puller.bThreadWorking then { process with threads := process.threads - 1 }
    else process
  let process := if puller.fdRtp > 0 then process.close puller.fdRtp else process
  let process := if puller.fdRtcp > 0 then process.close puller.fdRtcp else process
  let process := if puller.pPsData then { process with buffers := process.buffers - 1 } else process
  let process := if puller.pRawData then { process with buffers := process.buffers - 1 } else process
  ({ puller with
      fdRtp := if puller.fdRtp > 0 then -1 else puller.fdRtp
      fdRtcp := if puller.fdRtcp > 0 then -1 else puller.fdRtcp
      bThreadWorking := false
      pPsData := false
      pRawData := false }, process)

/-- The tries of `GB28181MediaGate_CreateStreamPuller`: whether one of them succeeds. -/
def tries (answers : Nat → Try) : Nat → Puller → Process → Bool × Puller × Process
  | 0, puller, process => (false, puller, process)
  | left + 1, puller, process =>
    let (ret, puller, process) := process.initStreamPuller (answers 0) puller
    if ret ≠ 0 then
      let (puller, process) := process.releaseStreamPuller puller
      tries (fun iTry => answers (iTry + 1)) left puller process
    else (true, puller, process)

theorem known_insert (process : Process) (cid : Int) (puller : Puller) :
    ∀ entry ∈ (process.mapGB28181StreamInstance.insert cid process.objects.length).entries,
      entry.2 < (process.objects ++ [puller]).length := by
  intro entry member
  rw [List.length_append, List.length_singleton]
  rcases OrderedMap.mem_of_mem_insert member with rfl | before
  · exact Nat.lt_succ_self _
  · exact Nat.lt_succ_of_lt (process.known entry before)

/-- `GB28181MediaGate_CreateStreamPuller` as far as it holds something; `initInvite` is what
`SipUA_InitInviteWidthBody` returns. The destructor gives nothing back. -/
def createStreamPuller (answers : Nat → Try) (initInvite : Int) (process : Process) :
    Option HMG × Process :=
  let (opened, puller, process) := process.tries answers 3 .new
  if opened = false then (none, process)
  else if initInvite ≤ 0 then (none, process)
  else
    (some process.objects.length, { process with
      objects := process.objects ++ [{ puller with cid := initInvite }]
      mapGB28181StreamInstance :=
        process.mapGB28181StreamInstance.insert initInvite process.objects.length
      known := process.known_insert initInvite _ })

end Process

/-- Both ports are open; descriptor 0 is taken for none. -/
def Try.opens (answer : Try) : Bool := 0 < answer.rtp && 0 < answer.rtcp

def Try.leak (answer : Try) : List Int :=
  if answer.rtp = 0 ∨ (0 < answer.rtp ∧ answer.rtcp = 0) then [0] else []

def firstOpen (answers : Nat → Try) : Nat → Option Try
  | 0 => none
  | left + 1 =>
    if (answers 0).opens then some (answers 0)
    else firstOpen (fun iTry => answers (iTry + 1)) left

/-- What the tries before the first that succeeds leave open. -/
def leaked (answers : Nat → Try) : Nat → List Int
  | 0 => []
  | left + 1 =>
    if (answers 0).opens then []
    else leaked (fun iTry => answers (iTry + 1)) left ++ (answers 0).leak

/-- A puller that holds nothing it could give back. -/
structure Puller.Idle (puller : Puller) : Prop where
  fdRtp : puller.fdRtp ≤ 0
  fdRtcp : puller.fdRtcp ≤ 0
  bThreadWorking : puller.bThreadWorking = false
  pPsData : puller.pPsData = false
  pRawData : puller.pRawData = false

variable {answer : Try} {answers : Nat → Try} {puller : Puller} {process : Process}
  {initInvite : Int} {left : Nat}

theorem Puller.idle_new : Puller.new.Idle := ⟨by decide, by decide, rfl, rfl, rfl⟩

theorem releaseStreamPuller_idle (idle : puller.Idle) :
    process.releaseStreamPuller puller = (puller, process) := by
  obtain ⟨fdRtp, fdRtcp, bThreadWorking, pPsData, pRawData, cid⟩ := puller
  obtain ⟨rtp, rtcp, working, psData, rawData⟩ := idle
  dsimp only at rtp rtcp working psData rawData
  simp [Process.releaseStreamPuller, working, psData, rawData, not_lt.mpr rtp, not_lt.mpr rtcp]

theorem createFd_open {fd : Int} (open' : 0 ≤ fd) :
    process.createFd fd = (fd, { process with sockets := fd :: process.sockets }) :=
  if_neg (not_lt.mpr open')

theorem createFd_closed {fd : Int} (closed : fd < 0) : process.createFd fd = (-1, process) :=
  if_pos closed

/-- A try that fails leaves an idle puller, and a socket with descriptor 0 open. -/
theorem initStreamPuller_fails (idle : puller.Idle) (failed : answer.opens = false) :
    ∃ after : Puller, after.Idle ∧ process.initStreamPuller answer puller =
      (-1, after, { process with sockets := answer.leak ++ process.sockets }) := by
  obtain ⟨-, rtcpIdle, working, psData, rawData⟩ := idle
  have negative : (-1 : Int) ≤ 0 := by decide
  unfold Process.initStreamPuller
  rcases lt_trichotomy answer.rtp 0 with closed | zero | rtp
  · have none : answer.leak = [] := if_neg (by omega)
    rw [createFd_closed closed, none]
    exact ⟨{ puller with fdRtp := -1 }, ⟨negative, rtcpIdle, working, psData, rawData⟩,
      if_pos negative⟩
  · have one : answer.leak = [0] := if_pos (.inl zero)
    rw [createFd_open zero.ge, one, zero]
    exact ⟨{ puller with fdRtp := 0 }, ⟨le_refl _, rtcpIdle, working, psData, rawData⟩,
      if_pos (le_refl (0 : Int))⟩
  · have rtcp : answer.rtcp ≤ 0 := by
      by_contra some
      have both : answer.opens = true := by
        rw [Try.opens, decide_eq_true rtp, decide_eq_true (not_le.mp some)]
        rfl
      rw [failed] at both
      contradiction
    rw [createFd_open rtp.le]
    dsimp only
    rw [if_neg (not_le.mpr rtp)]
    rcases rtcp.lt_or_eq with closed | zero
    · have none : answer.leak = [] := if_neg (by omega)
      rw [createFd_closed closed, none]
      refine ⟨{ puller with fdRtp := -1, fdRtcp := -1 },
        ⟨negative, negative, working, psData, rawData⟩, (if_pos negative).trans ?_⟩
      simp only [Process.close, List.erase_cons_head, List.nil_append]
    · have one : answer.leak = [0] := if_pos (.inr ⟨rtp, zero⟩)
      rw [createFd_open zero.ge, one, zero]
      refine ⟨{ puller with fdRtp := -1, fdRtcp := 0 },
        ⟨negative, le_refl _, working, psData, rawData⟩, (if_pos (le_refl (0 : Int))).trans ?_⟩
      have apart : ¬ (0 == answer.rtp) = true := by simpa using rtp.ne
      simp only [Process.close, List.erase_cons_tail apart, List.erase_cons_head,
        List.cons_append, List.nil_append]

theorem initStreamPuller_opens (opened : answer.opens = true) :
    process.initStreamPuller answer puller =
      (0, ⟨answer.rtp, answer.rtcp, true, true, true, puller.cid⟩, { process with
        sockets := answer.rtcp :: answer.rtp :: process.sockets
        buffers := process.buffers + 2
        threads := process.threads + if answer.thread then 1 else 0 }) := by
  rw [Try.opens, Bool.and_eq_true, decide_eq_true_iff, decide_eq_true_iff] at opened
  obtain ⟨rtp, rtcp⟩ := opened
  unfold Process.initStreamPuller
  rw [createFd_open rtp.le]
  dsimp only
  rw [if_neg (not_le.mpr rtp), createFd_open rtcp.le]
  exact if_neg (not_le.mpr rtcp)

theorem leaked_failed (failed : (answers 0).opens = false) :
    leaked answers (left + 1) =
      leaked (fun iTry => answers (iTry + 1)) left ++ (answers 0).leak := by
  rw [leaked, failed]
  exact if_neg Bool.false_ne_true

theorem firstOpen_failed (failed : (answers 0).opens = false) :
    firstOpen answers (left + 1) = firstOpen (fun iTry => answers (iTry + 1)) left := by
  rw [firstOpen, failed]
  exact if_neg Bool.false_ne_true

theorem tries_none (idle : puller.Idle) (closed : firstOpen answers left = none) :
    ∃ after, process.tries answers left puller =
      (false, after, { process with sockets := leaked answers left ++ process.sockets }) := by
  induction left generalizing answers puller process with
  | zero => exact ⟨puller, rfl⟩
  | succ left ih =>
    cases opens : (answers 0).opens with
    | true =>
      rw [firstOpen, if_pos opens] at closed
      contradiction
    | false =>
      rw [firstOpen_failed opens] at closed
      obtain ⟨after, afterIdle, failed⟩ := @initStreamPuller_fails _ _ process idle opens
      obtain ⟨last, later⟩ := @ih _ after
        { process with sockets := (answers 0).leak ++ process.sockets } afterIdle closed
      have retry : (-1 : Int) ≠ 0 := by decide
      refine ⟨last, ?_⟩
      rw [Process.tries, failed]
      dsimp only
      rw [if_pos retry, releaseStreamPuller_idle afterIdle]
      dsimp only
      rw [later, leaked_failed opens, List.append_assoc]

/-- The first try that succeeds leaves a puller at work. -/
theorem tries_some (idle : puller.Idle) (opened : firstOpen answers left = some answer) :
    ∃ cid, process.tries answers left puller =
      (true, ⟨answer.rtp, answer.rtcp, true, true, true, cid⟩, { process with
        sockets := answer.rtcp :: answer.rtp :: (leaked answers left ++ process.sockets)
        buffers := process.buffers + 2
        threads := process.threads + if answer.thread then 1 else 0 }) := by
  induction left generalizing answers puller process with
  | zero => contradiction
  | succ left ih =>
    cases opens : (answers 0).opens with
    | true =>
      rw [firstOpen, if_pos opens] at opened
      cases opened
      have done : ¬ (0 : Int) ≠ 0 := by decide
      rw [Process.tries, initStreamPuller_opens opens, leaked, if_pos opens]
      exact ⟨_, if_neg done⟩
    | false =>
      rw [firstOpen_failed opens] at opened
      obtain ⟨after, afterIdle, failed⟩ := @initStreamPuller_fails _ _ process idle opens
      obtain ⟨cid, later⟩ := @ih _ after
        { process with sockets := (answers 0).leak ++ process.sockets } afterIdle opened
      have retry : (-1 : Int) ≠ 0 := by decide
      refine ⟨cid, ?_⟩
      rw [Process.tries, failed]
      dsimp only
      rw [if_pos retry, releaseStreamPuller_idle afterIdle]
      dsimp only
      rw [later, leaked_failed opens, List.append_assoc]

/-- Nothing where it returns no handle; with a handle one puller at work, with its thread and its
two sockets, that stands in the map under the id of the INVITE. -/
def CreatesCleanly (initInvite : Int) (before : Process) (result : Option HMG × Process) : Prop :=
  match result with
  | (none, after) =>
    after.sockets.Perm before.sockets ∧ after.threads = before.threads ∧
      after.buffers = before.buffers ∧ after.objects = before.objects ∧
      after.mapGB28181StreamInstance = before.mapGB28181StreamInstance
  | (some hPuller, after) =>
    after.threads = before.threads + 1 ∧
      after.mapGB28181StreamInstance.find initInvite = some hPuller ∧
      (∀ other, other ≠ initInvite → after.mapGB28181StreamInstance.find other =
        before.mapGB28181StreamInstance.find other) ∧
      ∃ puller : Puller, after.objects = before.objects ++ [puller] ∧
        before.objects.length = hPuller ∧ puller.bThreadWorking = true ∧
        puller.cid = initInvite ∧ [puller.fdRtp, puller.fdRtcp].Subperm after.sockets

theorem creation_closed (closed : firstOpen answers 3 = none) :
    process.createStreamPuller answers initInvite =
      (none, { process with sockets := leaked answers 3 ++ process.sockets }) := by
  obtain ⟨after, failed⟩ := @tries_none answers .new process 3 Puller.idle_new closed
  rw [Process.createStreamPuller, failed]
  rfl

theorem creation_uninvited (opened : firstOpen answers 3 = some answer)
    (failed : initInvite ≤ 0) :
    process.createStreamPuller answers initInvite =
      (none, { process with
        sockets := answer.rtcp :: answer.rtp :: (leaked answers 3 ++ process.sockets)
        buffers := process.buffers + 2
        threads := process.threads + if answer.thread then 1 else 0 }) := by
  obtain ⟨cid, done⟩ := @tries_some answer answers .new process 3 Puller.idle_new opened
  rw [Process.createStreamPuller, done]
  exact (if_neg (Bool.noConfusion ·)).trans (if_pos failed)

theorem creation_invited (opened : firstOpen answers 3 = some answer) (invited : 0 < initInvite) :
    process.createStreamPuller answers initInvite =
      (some process.objects.length, { process with
        sockets := answer.rtcp :: answer.rtp :: (leaked answers 3 ++ process.sockets)
        buffers := process.buffers + 2
        threads := process.threads + if answer.thread then 1 else 0
        objects := process.objects ++ [⟨answer.rtp, answer.rtcp, true, true, true, initInvite⟩]
        mapGB28181StreamInstance :=
          process.mapGB28181StreamInstance.insert initInvite process.objects.length
        known := process.known_insert initInvite _ }) := by
  obtain ⟨cid, done⟩ := @tries_some answer answers .new process 3 Puller.idle_new opened
  rw [Process.createStreamPuller, done]
  exact (if_neg (Bool.noConfusion ·)).trans (if_neg (not_le.mpr invited))

/-- The new handle stands under the id where the id was free. -/
theorem registered_iff : (process.mapGB28181StreamInstance.insert initInvite
      process.objects.length).find initInvite = some process.objects.length ↔
    process.mapGB28181StreamInstance.find initInvite = none := by
  cases before : process.mapGB28181StreamInstance.find initInvite with
  | none =>
    rw [OrderedMap.find_insert before, if_pos rfl]
    exact iff_of_true rfl rfl
  | some hInst =>
    have there : (process.mapGB28181StreamInstance.find initInvite).isSome := by
      rw [before]
      rfl
    rw [OrderedMap.insert_there there, before]
    refine iff_of_false ?_ (Option.some_ne_none _)
    intro same
    have below := process.known _ (OrderedMap.mem_of_find before)
    exact absurd (Option.some.inj same) below.ne

/-- A creation is clean where no port could be opened and no descriptor was 0, or where the
INVITE got an id that was free and the thread has started. -/
theorem puller_creation_iff (answers : Nat → Try) (initInvite : Int) (process : Process) :
    CreatesCleanly initInvite process (process.createStreamPuller answers initInvite) ↔
      match firstOpen answers 3 with
      | none => leaked answers 3 = []
      | some answer => 0 < initInvite ∧ answer.thread = true ∧
        process.mapGB28181StreamInstance.find initInvite = none := by
  cases opened : firstOpen answers 3 with
  | none =>
    rw [creation_closed opened]
    constructor
    · rintro ⟨sockets, -⟩
      have length := sockets.length_eq
      rw [List.length_append] at length
      exact List.eq_nil_of_length_eq_zero (by omega)
    · intro none
      refine ⟨?_, rfl, rfl, rfl, rfl⟩
      rw [none, List.nil_append]
  | some answer =>
    by_cases invited : 0 < initInvite
    · rw [creation_invited opened invited]
      constructor
      · rintro ⟨threads, registered, -, -⟩
        refine ⟨invited, ?_, registered_iff.mp registered⟩
        by_contra stopped
        dsimp only at threads
        rw [if_neg stopped] at threads
        omega
      · rintro ⟨-, thread, free⟩
        refine ⟨?_, registered_iff.mpr free, fun other apart => ?_, _, rfl, rfl, rfl, rfl, ?_⟩
        · dsimp only
          rw [if_pos thread]
        · dsimp only
          rw [OrderedMap.find_insert free, if_neg apart]
        · have first : [answer.rtcp, answer.rtp].Subperm
              ([answer.rtcp, answer.rtp] ++ (leaked answers 3 ++ process.sockets)) :=
            (List.prefix_append _ _).sublist.subperm
          exact (List.Perm.swap answer.rtcp answer.rtp []).subperm.trans first
    · rw [creation_uninvited opened (not_lt.mp invited)]
      refine iff_of_false ?_ fun clean => invited clean.1
      rintro ⟨-, -, buffers, -⟩
      exact absurd buffers (Nat.ne_of_gt (Nat.lt_add_of_pos_right (Nat.succ_pos _)))

/-- The tries of the gate end with a port in the same cases. -/
theorem isSome_pullerTries (ports : Ports) :
    (ports.pullerTries (fun iTry => (answers iTry).opens) left).1.isSome =
      (firstOpen answers left).isSome := by
  induction left generalizing answers ports with
  | zero => rfl
  | succ left ih =>
    rw [Ports.pullerTries, firstOpen]
    split
    · rfl
    · exact ih _

theorem isSome_createStreamPuller (gate : Gate) (request : PullRequest) :
    (process.createStreamPuller answers initInvite).1.isSome =
      (gate.createStreamPuller request (fun iTry => (answers iTry).opens) initInvite).1.isSome := by
  have same := @isSome_pullerTries answers 3 gate.ports
  cases opened : firstOpen answers 3 with
  | none =>
    rw [opened, Option.isSome_none, Option.isSome_eq_false_iff, Option.isNone_iff_eq_none] at same
    rw [creation_closed opened, createStreamPuller_none same]
  | some answer =>
    rw [opened] at same
    obtain ⟨both, ports⟩ := Option.isSome_iff_exists.mp same
    by_cases invited : 0 < initInvite
    · rw [creation_invited opened invited, createStreamPuller_some ports invited]
      rfl
    · rw [creation_uninvited opened (not_lt.mp invited),
        createStreamPuller_refused ports (not_lt.mp invited)]

def idleProcess : Process := ⟨[], 0, 0, [], .empty, fun _ member => absurd member List.not_mem_nil⟩

/-- The thread runs on with its two sockets, and no handle leads to them. -/
theorem refused_creation_leaks :
    let result := idleProcess.createStreamPuller (fun _ => ⟨5, 6, true⟩) (-1)
    result.1 = none ∧ result.2.threads = 1 ∧ result.2.sockets = [6, 5] ∧ result.2.buffers = 2 ∧
      ¬ CreatesCleanly (-1) idleProcess result := by
  have opened : firstOpen (fun _ => ⟨5, 6, true⟩) 3 = some ⟨5, 6, true⟩ := rfl
  rw [creation_uninvited opened (by decide)]
  refine ⟨rfl, rfl, rfl, rfl, ?_⟩
  rintro ⟨-, threads, -⟩
  exact absurd threads (by decide)

end Gb28181.MediaGate
