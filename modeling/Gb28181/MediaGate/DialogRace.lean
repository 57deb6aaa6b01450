import Gb28181.MediaGate.Instances

/-! The thread that creates a stream puller and the event thread that hears the answer to its
INVITE: the steps of the two in any order. -/

namespace Gb28181.MediaGate

open Gb28181.Lib Gb28181.SipUA

/-- A puller that is created, and the 200 OK to its INVITE. -/
structure Dialing where
  request : PullRequest
  opens : Nat → Bool
  /-- What `SipUA_InitInviteWidthBody` returns: the id of the call. -/
  initInvite : Int
  /-- The id of the dialog, as the 200 OK has it. -/
  did : Int
  outcome : Outcome

/-- Where `GB28181MediaGate_CreateStreamPuller` is, and its local variables. -/
inductive Caller where
  | opening
  | inviting (hPuller : HMG) (mediaPort proxyPort : Nat)
  | settingCID (hPuller : HMG)
  | inserting (hPuller : HMG)
  | returned (result : Option HMG)
  deriving DecidableEq

/-- The handle of the object, while there is one. -/
def Caller.hPuller : Caller → Option HMG
  | .opening => none
  | .inviting hPuller _ _ | .settingCID hPuller | .inserting hPuller => some hPuller
  | .returned result => result

def Caller.invited : Caller → Bool
  | .settingCID _ | .inserting _ | .returned (some _) => true
  | .opening | .inviting _ _ _ | .returned none => false

def Caller.inserted : Caller → Bool
  | .returned (some _) => true
  | .opening | .inviting _ _ _ | .settingCID _ | .inserting _ | .returned none => false

/-- Where the event thread is in its branch for the 200 OK, and its `pInst`. -/
inductive Answer where
  | waiting
  | found (pInst : Option HMG)
  | acking (pInst : Option HMG)
  | finished (pInst : Option HMG)
  deriving DecidableEq

/-- What the map gave the event thread, once it has asked. -/
def Answer.pInst : Answer → Option (Option HMG)
  | .waiting => none
  | .found pInst | .acking pInst | .finished pInst => some pInst

/-- The gate, and where its two threads are. -/
structure Race where
  gate : Gate
  caller : Caller
  answer : Answer

inductive Thread where
  | caller | event
  deriving DecidableEq

namespace Race

def start (gate : Gate) : Race := ⟨gate, .opening, .waiting⟩

variable (dialing : Dialing)

/-- One step of `GB28181MediaGate_CreateStreamPuller`. -/
def stepCaller (race : Race) : Race :=
  match race.caller with
  | .opening =>
    let (opened, ports) := race.gate.ports.pullerTries dialing.opens 3
    let gate := { race.gate with ports := ports }
    match opened with
    | none => { race with gate := gate, caller := .returned none }
    | some (mediaPort, proxyPort) =>
      let pPuller := Cell.newPuller dialing.request mediaPort 0
      { race with
        gate := gate.setCells (gate.cells ++ [pPuller])
        caller := .inviting gate.cells.length mediaPort proxyPort }
  | .inviting hPuller mediaPort proxyPort =>
    let gate := race.gate.send (race.gate.pullerInvite dialing.request mediaPort proxyPort)
    let cid := dialing.initInvite
    if cid ≤ 0 then
      { race with gate := gate.useCell hPuller Cell.delete, caller := .returned none }
    else { race with gate := gate, caller := .settingCID hPuller }
  | .settingCID hPuller =>
    { race with
      gate := race.gate.useCell hPuller
        (Cell.use fun object => { object with cid := dialing.initInvite })
      caller := .inserting hPuller }
  | .inserting hPuller =>
    { race with
      gate := { race.gate with
        mapGB28181StreamInstance :=
          race.gate.mapGB28181StreamInstance.insert dialing.initInvite hPuller }
      caller := .returned (some hPuller) }
  | .returned _ => race

/-- One step of the event thread: the 200 OK may come as soon as the INVITE is out. -/
def stepEvent (race : Race) : Race :=
  match race.answer with
  | .waiting =>
    if race.caller.invited then
      { race with answer := .found (race.gate.getStreamInstance dialing.initInvite) }
    else race
  | .found pInst =>
    let gate :=
      match pInst with
      | some pInst => race.gate.useCell pInst
        (Cell.use fun object => { object with did := dialing.did })
      | none => race.gate
    { race with gate := gate, answer := .acking pInst }
  | .acking pInst =>
    { race with
      gate := race.gate.sipUASendAck dialing.outcome dialing.did
      answer := .finished pInst }
  | .finished _ => race

def next (race : Race) : Thread → Race
  | .caller => race.stepCaller dialing
  | .event => race.stepEvent dialing

def Finished (race : Race) : Prop :=
  (∃ result, race.caller = .returned result) ∧ ∃ pInst, race.answer = .finished pInst

/-- The puller has the id of its dialog, and to delete it hangs that dialog up. -/
def KeepsDialog (race : Race) : Prop :=
  ∃ hPuller pPuller, race.caller = .returned (some hPuller) ∧
    race.gate.cells[hPuller]? = some pPuller ∧ pPuller.object.did = dialing.did ∧
    (race.gate.deleteStreamPuller hPuller).sent =
      race.gate.sent ++ [.terminateCall dialing.initInvite dialing.did]

/-- The event thread asks the map for a call only behind the insertion of its puller. -/
def Timely (race : Race) (thread : Thread) : Prop :=
  thread = .event → race.caller.invited = true → race.answer = .waiting →
    race.caller.inserted = true

instance (race : Race) (thread : Thread) : Decidable (race.Timely thread) :=
  inferInstanceAs (Decidable (_ → _ → _ → _))

end Race

variable {dialing : Dialing} {gate now : Gate} {race : Race} {answer : Answer} {event : Event}
  {hPuller mediaPort proxyPort : Nat} {pInst : Option HMG} {thread : Thread}
  {schedule : List Thread}

theorem stepCaller_closed (closed : (now.ports.pullerTries dialing.opens 3).1 = none) :
    Race.stepCaller dialing ⟨now, .opening, answer⟩ =
      ⟨{ now with ports := (now.ports.pullerTries dialing.opens 3).2 }, .returned none, answer⟩ := by
  unfold Race.stepCaller
  dsimp only
  rw [closed]

theorem stepCaller_opened
    (opened : (now.ports.pullerTries dialing.opens 3).1 = some (mediaPort, proxyPort)) :
    Race.stepCaller dialing ⟨now, .opening, answer⟩ =
      ⟨{ now with
          ports := (now.ports.pullerTries dialing.opens 3).2
          cells := now.cells ++ [.newPuller dialing.request mediaPort 0] },
        .inviting now.cells.length mediaPort proxyPort, answer⟩ := by
  unfold Race.stepCaller
  dsimp only
  rw [opened]
  rfl

theorem stepCaller_refused (refused : dialing.initInvite ≤ 0) :
    Race.stepCaller dialing ⟨now, .inviting hPuller mediaPort proxyPort, answer⟩ =
      ⟨(now.send (now.pullerInvite dialing.request mediaPort proxyPort)).useCell hPuller Cell.delete,
        .returned none, answer⟩ :=
  if_pos refused

theorem stepCaller_invited (invited : 0 < dialing.initInvite) :
    Race.stepCaller dialing ⟨now, .inviting hPuller mediaPort proxyPort, answer⟩ =
      ⟨now.send (now.pullerInvite dialing.request mediaPort proxyPort), .settingCID hPuller, answer⟩ :=
  if_neg (not_le.mpr invited)

theorem answer_stepCaller : (race.stepCaller dialing).answer = race.answer := by
  obtain ⟨now, caller, answer⟩ := race
  cases caller with
  | opening =>
    cases opened : (now.ports.pullerTries dialing.opens 3).1 with
    | none => rw [stepCaller_closed opened]
    | some both => rw [stepCaller_opened opened]
  | inviting hPuller mediaPort proxyPort =>
    by_cases invited : 0 < dialing.initInvite
    · rw [stepCaller_invited invited]
    · rw [stepCaller_refused (not_lt.mp invited)]
  | settingCID | inserting | returned => rfl

theorem stepEvent_waiting (waiting : race.answer = .waiting) :
    race.stepEvent dialing =
      if race.caller.invited then
        { race with answer := .found (race.gate.getStreamInstance dialing.initInvite) }
      else race := by
  rw [Race.stepEvent, waiting]

theorem race_createStreamPuller :
    (List.replicate 4 Thread.caller).foldl (Race.next dialing) (.start gate) =
      ⟨(gate.createStreamPuller dialing.request dialing.opens dialing.initInvite).2,
        .returned (gate.createStreamPuller dialing.request dialing.opens dialing.initInvite).1,
        .waiting⟩ := by
  simp only [List.replicate, List.foldl_cons, List.foldl_nil, Race.next, Race.start]
  cases opened : (gate.ports.pullerTries dialing.opens 3).1 with
  | none =>
    rw [createStreamPuller_none opened, stepCaller_closed opened]
    rfl
  | some both =>
    rw [stepCaller_opened opened]
    by_cases invited : 0 < dialing.initInvite
    · rw [createStreamPuller_some opened invited, stepCaller_invited invited]
      simp only [Race.stepCaller, Gate.useCell, Gate.setCells, Gate.send, modify_last]
      rfl
    · rw [createStreamPuller_refused opened (not_lt.mp invited), stepCaller_refused (not_lt.mp invited)]
      simp only [Race.stepCaller, Gate.useCell, Gate.setCells, Gate.send, modify_last]
      rfl

theorem race_handleCallAnswer200OK (waiting : race.answer = .waiting)
    (invited : race.caller.invited = true) (cid : event.cid = dialing.initInvite)
    (did : event.did = dialing.did) :
    (List.replicate 3 Thread.event).foldl (Race.next dialing) race =
      { race with
        gate := race.gate.handleCallAnswer200OK dialing.outcome event
        answer := .finished (race.gate.getStreamInstance dialing.initInvite) } := by
  simp only [List.replicate, List.foldl_cons, List.foldl_nil, Race.next]
  rw [stepEvent_waiting waiting, if_pos invited, Gate.handleCallAnswer200OK, cid, did]
  cases race.gate.getStreamInstance dialing.initInvite with
  | none => rfl
  | some pInst => rfl

/-- The id of the call, as the puller has it. -/
def Caller.cid (dialing : Dialing) : Caller → Int
  | .inserting _ | .returned _ => dialing.initInvite
  | .opening | .inviting _ _ _ | .settingCID _ => 0

/-- The event thread has set the id of the dialog in the object of the handle. -/
def Answer.hasSet (hPuller : HMG) : Answer → Bool
  | .acking pInst | .finished pInst => pInst = some hPuller
  | .waiting | .found _ => false

/-- A race from a gate on: the map before and behind the insertion, and the puller, which is
the next object of the gate. -/
structure Race.Sound (dialing : Dialing) (gate : Gate) (race : Race) : Prop where
  opening : race.caller = .opening → race.gate.cells.length = gate.cells.length
  uninvited : race.caller.invited = false → race.answer = .waiting
  map : race.gate.mapGB28181StreamInstance =
    if race.caller.inserted then
      gate.mapGB28181StreamInstance.insert dialing.initInvite gate.cells.length
    else gate.mapGB28181StreamInstance
  puller : ∀ hPuller, race.caller.hPuller = some hPuller → hPuller = gate.cells.length ∧
    ∃ pPuller, race.gate.cells[hPuller]? = some pPuller ∧ pPuller.object.bAutoRelease = false ∧
      pPuller.object.cid = race.caller.cid dialing ∧
      pPuller.object.did = if race.answer.hasSet hPuller then dialing.did else 0

namespace Race.Sound

theorem start : (Race.start gate).Sound dialing gate :=
  ⟨fun _ => rfl, fun _ => rfl, rfl, nofun⟩

theorem stepCaller (sound : race.Sound dialing gate) :
    (race.stepCaller dialing).Sound dialing gate := by
  obtain ⟨now, caller, answer⟩ := race
  obtain ⟨opening, uninvited, map, puller⟩ := sound
  cases caller with
  | opening =>
    obtain rfl : answer = .waiting := uninvited rfl
    cases opened : (now.ports.pullerTries dialing.opens 3).1 with
    | none =>
      rw [stepCaller_closed opened]
      exact ⟨nofun, fun _ => rfl, map, nofun⟩
    | some both =>
      rw [stepCaller_opened opened]
      refine ⟨nofun, fun _ => rfl, map, ?_⟩
      rintro hPuller ⟨⟩
      exact ⟨opening rfl, _, List.getElem?_concat_length, rfl, rfl, rfl⟩
  | inviting hPuller mediaPort proxyPort =>
    obtain rfl : answer = .waiting := uninvited rfl
    by_cases invited : 0 < dialing.initInvite
    · rw [stepCaller_invited invited]
      exact ⟨nofun, fun _ => rfl, map, puller⟩
    · rw [stepCaller_refused (not_lt.mp invited)]
      exact ⟨nofun, fun _ => rfl, map, nofun⟩
  | settingCID hPuller =>
    refine ⟨nofun, nofun, map, ?_⟩
    rintro _ ⟨⟩
    obtain ⟨same, pPuller, found, auto, -, did⟩ := puller hPuller rfl
    refine ⟨same, pPuller.use (fun object => { object with cid := dialing.initInvite }), ?_, auto,
      rfl, did⟩
    show (now.cells.modify hPuller _)[hPuller]? = _
    rw [List.getElem?_modify_eq, found]
    rfl
  | inserting hPuller =>
    obtain ⟨same, pPuller, found, auto, cid, did⟩ := puller hPuller rfl
    refine ⟨nofun, nofun, ?_, ?_⟩
    · show now.mapGB28181StreamInstance.insert dialing.initInvite hPuller = _
      rw [same, show now.mapGB28181StreamInstance = _ from map]
      rfl
    · rintro _ ⟨⟩
      exact ⟨same, pPuller, found, auto, cid, did⟩
  | returned result => exact ⟨opening, uninvited, map, puller⟩

theorem stepEvent (sound : race.Sound dialing gate) :
    (race.stepEvent dialing).Sound dialing gate := by
  obtain ⟨now, caller, answer⟩ := race
  obtain ⟨opening, uninvited, map, puller⟩ := sound
  cases answer with
  | waiting =>
    unfold Race.stepEvent
    dsimp only
    split
    case isTrue invited =>
      exact ⟨opening, fun quiet => absurd (invited.symm.trans quiet) nofun, map, puller⟩
    case isFalse => exact ⟨opening, uninvited, map, puller⟩
  | found pInst =>
    have silent : caller.invited = false → Answer.acking pInst = .waiting :=
      fun quiet => nomatch uninvited quiet
    cases pInst with
    | none => exact ⟨opening, silent, map, puller⟩
    | some pInst =>
      refine ⟨fun first => ?_, silent, map, ?_⟩
      · exact (List.length_modify _ _ _).trans (opening first)
      · intro hPuller there
        obtain ⟨same, pPuller, found, auto, cid, did⟩ := puller hPuller there
        refine ⟨same, ?_⟩
        show ∃ pPuller, (now.cells.modify pInst _)[hPuller]? = some pPuller ∧ _
        by_cases mapped : pInst = hPuller
        · rw [mapped, List.getElem?_modify_eq, found]
          exact ⟨_, rfl, auto, cid, (if_pos (decide_eq_true rfl)).symm⟩
        · rw [List.getElem?_modify_ne _ _ mapped, found]
          have unset : ¬ (Answer.acking (some pInst)).hasSet hPuller = true := by
            simpa [Answer.hasSet] using mapped
          exact ⟨pPuller, rfl, auto, cid, (did.trans (if_neg nofun)).trans (if_neg unset).symm⟩
  | acking pInst =>
    have kept : ∀ acked : Gate, acked.cells = now.cells →
        acked.mapGB28181StreamInstance = now.mapGB28181StreamInstance →
        Race.Sound dialing gate ⟨acked, caller, .finished pInst⟩ := by
      intro acked cells same
      refine ⟨fun first => ?_, fun quiet => ?_, same.trans map, fun hPuller there => ?_⟩
      · exact (congrArg List.length cells).trans (opening first)
      · exact nomatch uninvited quiet
      · obtain ⟨same, pPuller, found, rest⟩ := puller hPuller there
        exact ⟨same, pPuller, (congrArg (·[hPuller]?) cells).trans found, rest⟩
    show Race.Sound dialing gate ⟨now.sipUASendAck dialing.outcome dialing.did, caller, _⟩
    unfold Gate.sipUASendAck
    split
    · exact kept _ rfl rfl
    · exact kept _ rfl rfl
  | finished pInst => exact ⟨opening, uninvited, map, puller⟩

theorem next (sound : race.Sound dialing gate) (thread : Thread) :
    (race.next dialing thread).Sound dialing gate := by
  cases thread with
  | caller => exact sound.stepCaller
  | event => exact sound.stepEvent

theorem run (sound : race.Sound dialing gate) (schedule : List Thread) :
    (schedule.foldl (Race.next dialing) race).Sound dialing gate := by
  induction schedule generalizing race with
  | nil => exact sound
  | cons thread schedule ih => exact ih (sound.next thread)

/-- A puller that is mapped under a new id is what the map has there. -/
theorem mapped_iff {used : List Int} (known : Known used gate) (sound : race.Sound dialing gate) :
    race.gate.getStreamInstance dialing.initInvite = some gate.cells.length ↔
      gate.mapGB28181StreamInstance.find dialing.initInvite = none ∧ race.caller.inserted = true := by
  have old : gate.mapGB28181StreamInstance.find dialing.initInvite ≠ some gate.cells.length :=
    fun found => absurd (known.keys _ _ found).2 (lt_irrefl _)
  rw [Gate.getStreamInstance, sound.map]
  cases inserted : race.caller.inserted with
  | false => exact iff_of_false old (fun right => nomatch right.2)
  | true =>
    rw [if_pos rfl]
    cases found : gate.mapGB28181StreamInstance.find dialing.initInvite with
    | none =>
      rw [OrderedMap.find_insert found]
      exact iff_of_true (if_pos rfl) ⟨rfl, rfl⟩
    | some hInst =>
      rw [OrderedMap.insert_there (Option.isSome_iff_exists.mpr ⟨hInst, found⟩)]
      exact iff_of_false old (fun right => nomatch right.1)

/-- Where both threads are done the puller has its dialog exactly if the event thread found
it, or the dialog has the id 0, which every object has at first. -/
theorem keepsDialog_of_found (sound : race.Sound dialing gate) {result : Option HMG}
    (returned : race.caller = .returned result) (finished : race.answer = .finished pInst) :
    race.KeepsDialog dialing ↔ dialing.did = 0 ∨ pInst = some gate.cells.length := by
  obtain ⟨now, caller, answer⟩ := race
  obtain rfl : caller = _ := returned
  obtain rfl : answer = _ := finished
  cases result with
  | none => exact nomatch sound.uninvited rfl
  | some hPuller =>
    obtain ⟨rfl, pPuller, found, auto, cid, did⟩ := sound.puller hPuller rfl
    have sent : (now.deleteStreamPuller gate.cells.length).sent =
        now.sent ++ [.terminateCall dialing.initInvite pPuller.object.did] := by
      unfold Gate.deleteStreamPuller
      rw [show now.cells[gate.cells.length]? = some pPuller from found]
      dsimp only
      rw [auto, if_neg nofun, sent_eraseStreamInstance, cid]
      rfl
    have set : (Answer.finished pInst).hasSet gate.cells.length = true ↔
        pInst = some gate.cells.length := decide_eq_true_iff
    constructor
    · rintro ⟨_, kept, ⟨⟩, there, right, -⟩
      rw [show pPuller = kept from Option.some.inj (found.symm.trans there), right] at did
      by_cases mapped : pInst = some gate.cells.length
      · exact .inr mapped
      · exact .inl (did.trans (if_neg (mt set.mp mapped)))
    · intro holds
      have right : pPuller.object.did = dialing.did := by
        rw [did]
        split
        case isTrue => rfl
        case isFalse unset =>
          exact (holds.resolve_right (mt set.mpr unset)).symm
      exact ⟨_, pPuller, rfl, found, right, right ▸ sent⟩

end Race.Sound

theorem pInst_next (asked : race.answer.pInst = some pInst) :
    (race.next dialing thread).answer.pInst = some pInst := by
  cases thread with
  | caller =>
    rw [Race.next, answer_stepCaller]
    exact asked
  | event =>
    obtain ⟨now, caller, answer⟩ := race
    cases answer with
    | waiting => exact nomatch asked
    | found | acking | finished => exact asked

/-- Where the map was asked already nothing more is to be timely. -/
theorem everyStep_of_asked (asked : race.answer.pInst = some pInst) :
    (schedule.foldl (Race.next dialing) race).answer.pInst = some pInst ∧
      EveryStep (Race.next dialing) Race.Timely race schedule := by
  induction schedule generalizing race with
  | nil => exact ⟨asked, trivial⟩
  | cons thread schedule ih =>
    obtain ⟨kept, timely⟩ := ih (@pInst_next dialing _ _ thread asked)
    refine ⟨kept, fun _ _ waiting => ?_, timely⟩
    rw [waiting] at asked
    exact nomatch asked

/-- The event thread finds the puller in exactly the timely runs of a new call. -/
theorem found_iff {used : List Int} (known : Known used gate) (sound : race.Sound dialing gate)
    (waiting : race.answer = .waiting)
    (ends : (schedule.foldl (Race.next dialing) race).answer.pInst = some pInst) :
    pInst = some gate.cells.length ↔
      gate.mapGB28181StreamInstance.find dialing.initInvite = none ∧
        EveryStep (Race.next dialing) Race.Timely race schedule := by
  induction schedule generalizing race with
  | nil =>
    rw [List.foldl_nil, waiting] at ends
    exact nomatch ends
  | cons thread schedule ih =>
    have later := @ih (race.next dialing thread) (sound.next thread)
    rw [List.foldl_cons] at ends
    cases thread with
    | caller =>
      rw [later (answer_stepCaller.trans waiting) ends]
      exact and_congr_right (fun _ => ⟨fun timely => ⟨nofun, timely⟩, And.right⟩)
    | event =>
      have step := @stepEvent_waiting dialing _ waiting
      cases invited : race.caller.invited with
      | false =>
        rw [invited, if_neg nofun] at step
        rw [Race.next, step] at later ends
        rw [later waiting ends, EveryStep, Race.next, step]
        refine and_congr_right (fun _ => ⟨fun timely => ⟨fun _ out => ?_, timely⟩, And.right⟩)
        exact absurd (invited.symm.trans out) nofun
      | true =>
        rw [invited, if_pos rfl] at step
        obtain ⟨kept, timely⟩ := @everyStep_of_asked dialing (race.next dialing .event) _ schedule
          (congrArg (·.answer.pInst) step)
        obtain rfl : _ = pInst := Option.some.inj (kept.symm.trans ends)
        rw [sound.mapped_iff known]
        exact and_congr_right (fun _ => ⟨fun inserted => ⟨fun _ _ _ => inserted, timely⟩,
          fun all => all.1 rfl invited waiting⟩)

/-- Whatever order the two threads take their steps in, the puller keeps its dialog exactly if
its call id is new to the map and the event thread asks the map behind the insertion, or the
dialog has the id 0. -/
theorem keepsDialog_iff (arguments : InitArguments) (inputs : List Input) (dialing : Dialing)
    (schedule : List Thread)
    (finished : (schedule.foldl (Race.next dialing)
      (.start (inputs.foldl Gate.next (init arguments)))).Finished) :
    (schedule.foldl (Race.next dialing)
        (.start (inputs.foldl Gate.next (init arguments)))).KeepsDialog dialing ↔
      dialing.did = 0 ∨
        (inputs.foldl Gate.next (init arguments)).mapGB28181StreamInstance.find
          dialing.initInvite = none ∧
        EveryStep (Race.next dialing) Race.Timely
          (.start (inputs.foldl Gate.next (init arguments))) schedule := by
  obtain ⟨⟨result, returned⟩, pInst, answered⟩ := finished
  have sound := (@Race.Sound.start dialing (inputs.foldl Gate.next (init arguments))).run schedule
  rw [sound.keepsDialog_of_found returned answered, found_iff (Known.foldl arguments inputs)
    Race.Sound.start rfl (congrArg Answer.pInst answered)]

def sampleDialing : Dialing := ⟨livePull, fun _ => true, 7, 3, willing⟩

def callerFirst : List Thread := List.replicate 4 .caller ++ List.replicate 3 .event

theorem keepsDialog_callerFirst :
    (callerFirst.foldl (Race.next sampleDialing) (.start (init proxyArguments))).KeepsDialog
      sampleDialing :=
  (keepsDialog_iff proxyArguments [] sampleDialing callerFirst
    ⟨⟨some 0, by decide +kernel⟩, some 0, by decide +kernel⟩).mpr (.inr ⟨rfl, by decide +kernel⟩)

/-- The 200 OK comes before `CreateStreamPuller` has even set the id of the call. -/
def answerFirst : List Thread := [.caller, .caller, .event, .event, .event, .caller, .caller]

theorem dialog_lost : ¬ ∀ (arguments : InitArguments) (inputs : List Input) (dialing : Dialing)
    (schedule : List Thread), 0 < dialing.initInvite → 0 < dialing.did →
    dialing.initInvite ∉ inputs.filterMap Input.brings →
    (schedule.foldl (Race.next dialing)
      (.start (inputs.foldl Gate.next (init arguments)))).Finished →
    (schedule.foldl (Race.next dialing)
      (.start (inputs.foldl Gate.next (init arguments)))).KeepsDialog dialing := by
  intro keeps
  obtain ⟨hPuller, pPuller, returned, found, did, -⟩ := keeps proxyArguments [] sampleDialing
    answerFirst (by decide) (by decide) (by decide)
    ⟨⟨some 0, by decide +kernel⟩, none, by decide +kernel⟩
  have ends : (answerFirst.foldl (Race.next sampleDialing)
      (.start (init proxyArguments))).caller = .returned (some 0) := by decide +kernel
  have stale : ((answerFirst.foldl (Race.next sampleDialing)
      (.start (init proxyArguments))).gate.cells[0]?).map (·.object.did) = some 0 := by
    decide +kernel
  obtain rfl : hPuller = 0 := by simpa using returned.symm.trans ends
  rw [List.foldl_nil] at found
  rw [found, Option.map_some, did] at stale
  exact absurd (Option.some.inj stale) (by decide)

end Gb28181.MediaGate
