import Gb28181.Lib.Runs
import Gb28181.SipUA.Sdp

namespace Gb28181.SipServer

open Gb28181.Lib Gb28181.SipUA

/-- What a client reads of `g_configSipServer`. -/
structure ClientConfig where
  strLocalSipId : Text
  strSipRegion : Text
  strSipDomain : Text
  strSipAddr : Text
  iSipPort : Int
  iExpires : Int
  strServerId : Text
  strServerIP : Text
  iServerPort : Int

/-- What a client hands to the SIP stack. -/
inductive ClientSent where
  | register (fromuser proxy contact : Text) (expires : Int) (v3Head : Text) (body : Option Text)
  | options (src dest v3Head body : Text)
  deriving DecidableEq

/-- Where a thread is in its loop: before its request, or asleep behind it. -/
inductive Phase where
  | requesting | sleeping
  deriving DecidableEq

structure Client where
  bRegisterSuccess : Bool
  registerThreads : List Phase
  heartBeatThreads : List Phase
  sent : List ClientSent
  deriving DecidableEq

/-- `g_bHeartBeatThreadWorking`, which nothing changes. -/
def bHeartBeatThreadWorking : Bool := true

def sipAddress (pszId pszHost : Text) (iPort : Int) : Text :=
  "sip:".toList ++ pszId ++ "@".toList ++ pszHost ++ ":".toList ++ decimal iPort

def sipUARegisterUnauthorV3 (config : ClientConfig) (body : Option Text) (client : Client) : Client :=
  { client with sent := client.sent ++ [.register
      (sipAddress config.strLocalSipId config.strSipAddr config.iSipPort)
      (sipAddress config.strServerId config.strServerIP config.iServerPort)
      (sipAddress config.strLocalSipId config.strSipRegion config.iSipPort)
      config.iExpires ";MSG_TYPE=MSG_VTDU_LOGIN_REQ".toList body] }

def sipUAInitOPTIONS (config : ClientConfig) (body : Text) (client : Client) : Client :=
  { client with sent := client.sent ++ [.options
      (sipAddress config.strLocalSipId config.strSipAddr config.iSipPort)
      (sipAddress config.strServerId config.strServerIP config.iServerPort)
      ";MSG_TYPE=MSG_VTDU_HEART".toList body] }

/-- `StartSipServer` in the mode of a client. -/
def Client.start (config : ClientConfig) : Client :=
  sipUARegisterUnauthorV3 config none ⟨false, [], [], []⟩

/-- The body of the REGISTER that answers a 401. -/
def loginRequest (config : ClientConfig) : Text :=
  "<?xml version=\"1.0\" encoding=\"UTF-8\"?>\r\n<Message Version=\"1.0.2\">\r\n<IE_HEADER>\r\n<MessageType>MSG_VTDU_LOGIN_REQ</MessageType>\r\n<Reserved />\r\n</IE_HEADER>\r\n<IE_SERVER_REGISTER_INFO>\r\n<ServerType>VTDU</ServerType>\r\n<ServerID>".toList ++
    config.strLocalSipId ++ "</ServerID>\r\n<DomainID>".toList ++ config.strSipDomain ++
    "</DomainID>\r\n<ServerIP>".toList ++ config.strSipAddr ++
    "</ServerIP>\r\n<Version>3.1.1.13</Version>\r\n</IE_SERVER_REGISTER_INFO>\r\n<IE_VTDU_PARAM>\r\n<maxAudioInAmount>200</maxAudioInAmount>\r\n<maxVideoInAmount>200</maxVideoInAmount>\r\n<maxAudioOutAmount>200</maxAudioOutAmount>\r\n<maxVideoOutAmount>200</maxVideoOutAmount>\r\n<xDomRcvIP>".toList ++
    config.strSipAddr ++
    "</xDomRcvIP>\r\n</IE_VTDU_PARAM>\r\n<IE_IO_OPTION>\r\n<IP_NUM>1</IP_NUM>\r\n<IP_RECORD>\r\n<IP>".toList ++
    config.strSipAddr ++
    "</IP>\r\n<IN_BW>100000</IN_BW >\r\n<OUT_BW>100000</OUT_BW >\r\n</IP_RECORD>\r\n</IE_IO_OPTION>\r\n<IE_DOMAIN_LIST>\r\n<DomNUM>1</DomNUM>\r\n<Domain>\r\n<DomainID>".toList ++
    config.strSipDomain ++ "</DomainID>\r\n</Domain>\r\n</IE_DOMAIN_LIST>\r\n</Message>\r\n".toList

def keepaliveLoad : Text :=
  "<?xml version=\"1.0\" encoding=\"UTF-8\"?>\r\n<Message Version=\"1.0.2\">\r\n<IE_HEADER/>\r\n<VTDU_LOAD>\r\n<inStrmSize>0</inStrmSize>\r\n<oStrmSize>0</oStrmSize>\r\n<VODCount>0</VODCount>\r\n</VTDU_LOAD>\r\n</Message>\r\n".toList

def sipClientHandleRegisterSuccess (client : Client) : Client :=
  { client with
    bRegisterSuccess := true
    heartBeatThreads := client.heartBeatThreads ++ [.requesting] }

/-- `SipUA_GetRegisterStatus`, of the answer to a REGISTER; nothing where there is none, which the
function reads all the same. -/
def sipUAGetRegisterStatus (response : Option Int) : Option Int := response

/-- Nothing is left of a client that reads an answer that is not there. -/
def sipClientHandleRegisterFailed (config : ClientConfig) (response : Option Int)
    (client : Client) : Option Client :=
  (sipUAGetRegisterStatus response).map fun nStatus =>
    if nStatus = 401 then sipUARegisterUnauthorV3 config (some (loginRequest config)) client
    else { client with registerThreads := client.registerThreads ++ [.requesting] }

/-- One move of a `threadRegister`: it sends its REGISTER, or it wakes up and reads the flag. -/
def threadRegister (config : ClientConfig) (index : Nat) (client : Client) : Client :=
  match client.registerThreads[index]? with
  | some .requesting =>
    sipUARegisterUnauthorV3 config none
      { client with registerThreads := client.registerThreads.set index .sleeping }
  | some .sleeping =>
    if client.bRegisterSuccess then
      { client with registerThreads := client.registerThreads.eraseIdx index }
    else { client with registerThreads := client.registerThreads.set index .requesting }
  | none => client

/-- One move of a `threadHeartBeat`. -/
def threadHeartBeat (config : ClientConfig) (index : Nat) (client : Client) : Client :=
  match client.heartBeatThreads[index]? with
  | some .requesting =>
    sipUAInitOPTIONS config keepaliveLoad
      { client with heartBeatThreads := client.heartBeatThreads.set index .sleeping }
  | some .sleeping =>
    if bHeartBeatThreadWorking then
      { client with heartBeatThreads := client.heartBeatThreads.set index .requesting }
    else { client with heartBeatThreads := client.heartBeatThreads.eraseIdx index }
  | none => client

/-- The outcomes of REGISTERs the stack delivers, and the moves of the threads. A REGISTER that
nobody answers fails without a response. -/
inductive ClientInput where
  | registerSuccess
  | registerFailure (response : Option Int)
  | threadRegister (index : Nat)
  | threadHeartBeat (index : Nat)
  deriving DecidableEq

def Client.next (config : ClientConfig) (client : Client) : ClientInput → Option Client
  | .registerSuccess => some (sipClientHandleRegisterSuccess client)
  | .registerFailure response => sipClientHandleRegisterFailed config response client
  | .threadRegister index => some (SipServer.threadRegister config index client)
  | .threadHeartBeat index => some (SipServer.threadHeartBeat config index client)

/-- Whether the client is registered after an input; a 401 only asks it to try again. -/
def ClientInput.registers (registered : Bool) : ClientInput → Bool
  | .registerSuccess => true
  | .registerFailure response => if response = some 401 then registered else false
  | .threadRegister _ | .threadHeartBeat _ => registered

/-- The client, and whether it is registered. -/
structure Registrant where
  client : Client
  registered : Bool
  deriving DecidableEq

def Registrant.start (config : ClientConfig) : Registrant := ⟨.start config, false⟩

def Registrant.next (config : ClientConfig) (registrant : Registrant) (input : ClientInput) :
    Option Registrant :=
  (registrant.client.next config input).map fun client =>
    ⟨client, input.registers registrant.registered⟩

/-- The process of a client, which may be gone. -/
def nextProcess (config : ClientConfig) (process : Option Registrant) (input : ClientInput) :
    Option Registrant :=
  process.bind fun registrant => registrant.next config input

/-- One thread of each kind at most; while the client is registered a `threadRegister` only
sleeps. -/
structure Registrant.Single (registrant : Registrant) : Prop where
  heartBeat : registrant.client.heartBeatThreads.length ≤ 1
  register : registrant.client.registerThreads.length ≤ 1
  asleep : registrant.registered = true → .requesting ∉ registrant.client.registerThreads

/-- No thread too many runs; where the process is gone there is none. -/
def RunsSingle (process : Option Registrant) : Prop :=
  ∀ registrant ∈ process, registrant.Single

/-- The first success comes while no `threadRegister` is about to send, and a failure that is
answered, while none runs. -/
def Registrant.Allows (registrant : Registrant) : ClientInput → Prop
  | .registerSuccess => registrant.client.bRegisterSuccess = false ∧
    .requesting ∉ registrant.client.registerThreads
  | .registerFailure response =>
    response = none ∨ response = some 401 ∨ registrant.client.registerThreads = []
  | .threadRegister _ | .threadHeartBeat _ => True

/-- Whoever is there to take the input allows it. -/
def Allowed (process : Option Registrant) (input : ClientInput) : Prop :=
  ∀ registrant ∈ process, registrant.Allows input

/-- The flag is set once the first heartbeat thread runs, and those run for ever. -/
structure Registrant.Sound (registrant : Registrant) : Prop where
  flag : registrant.client.bRegisterSuccess = false ↔ registrant.client.heartBeatThreads = []
  registered : registrant.registered = true → registrant.client.bRegisterSuccess = true

variable {config : ClientConfig} {registrant : Registrant} {client : Client} {input : ClientInput}
  {index : Nat}

theorem threadHeartBeat_spec :
    (threadHeartBeat config index client).heartBeatThreads.length = client.heartBeatThreads.length ∧
    (threadHeartBeat config index client).registerThreads = client.registerThreads ∧
    (threadHeartBeat config index client).bRegisterSuccess = client.bRegisterSuccess := by
  unfold threadHeartBeat
  cases client.heartBeatThreads[index]? with
  | none => exact ⟨rfl, rfl, rfl⟩
  | some phase =>
    cases phase with
    | requesting => exact ⟨List.length_set, rfl, rfl⟩
    | sleeping => exact ⟨List.length_set, rfl, rfl⟩

theorem threadRegister_spec :
    (threadRegister config index client).heartBeatThreads = client.heartBeatThreads ∧
    (threadRegister config index client).bRegisterSuccess = client.bRegisterSuccess ∧
    (threadRegister config index client).registerThreads.length ≤ client.registerThreads.length ∧
    (client.bRegisterSuccess = true → .requesting ∉ client.registerThreads →
      .requesting ∉ (threadRegister config index client).registerThreads) := by
  unfold threadRegister
  cases client.registerThreads[index]? with
  | none => exact ⟨rfl, rfl, le_rfl, fun _ none => none⟩
  | some phase =>
    cases phase with
    | requesting =>
      refine ⟨rfl, rfl, List.length_set.le, ?_⟩
      intro _ none member
      rcases List.mem_or_eq_of_mem_set member with old | new
      · exact none old
      · exact nomatch new
    | sleeping =>
      cases flag : client.bRegisterSuccess with
      | true =>
        refine ⟨rfl, rfl, List.length_eraseIdx_le .., ?_⟩
        intro _ none member
        exact none (List.mem_of_mem_eraseIdx member)
      | false => exact ⟨rfl, rfl, List.length_set.le, nofun⟩

theorem mem_next {after : Registrant} : after ∈ registrant.next config input ↔
    ∃ client, registrant.client.next config input = some client ∧
      (⟨client, input.registers registrant.registered⟩ : Registrant) = after := Option.map_eq_some_iff

theorem next_registerFailure (nStatus : Int) : client.next config (.registerFailure (some nStatus)) =
    some (if nStatus = 401 then sipUARegisterUnauthorV3 config (some (loginRequest config)) client
      else { client with registerThreads := client.registerThreads ++ [.requesting] }) := rfl

theorem Registrant.Sound.next {after : Registrant} (sound : registrant.Sound)
    (there : after ∈ registrant.next config input) : after.Sound := by
  obtain ⟨client, moved, rfl⟩ := mem_next.mp there
  cases input with
  | registerSuccess =>
    cases moved
    constructor
    · simp [sipClientHandleRegisterSuccess]
    · exact fun _ => rfl
  | registerFailure response =>
    cases response with
    | none => cases moved
    | some nStatus =>
      rw [next_registerFailure] at moved
      cases moved
      unfold ClientInput.registers
      simp only [Option.some.injEq]
      split
      · exact ⟨sound.flag, sound.registered⟩
      · exact ⟨sound.flag, nofun⟩
  | threadRegister index =>
    cases moved
    obtain ⟨heartBeat, flag, -, -⟩ := @threadRegister_spec config registrant.client index
    constructor
    · simp only [heartBeat, flag]
      exact sound.flag
    · simp only [flag]
      exact sound.registered
  | threadHeartBeat index =>
    cases moved
    obtain ⟨heartBeat, -, flag⟩ := @threadHeartBeat_spec config registrant.client index
    constructor
    · simp only [flag, ← List.length_eq_zero_iff, heartBeat]
      rw [List.length_eq_zero_iff]
      exact sound.flag
    · simp only [flag]
      exact sound.registered

theorem Registrant.Single.next_iff (single : registrant.Single) (sound : registrant.Sound) :
    RunsSingle (registrant.next config input) ↔ registrant.Allows input := by
  have moved (client : Client) (same : registrant.client.next config input = some client) :
      RunsSingle (registrant.next config input) ↔
        (⟨client, input.registers registrant.registered⟩ : Registrant).Single := by
    unfold RunsSingle Registrant.next
    rw [same]
    simp
  cases input with
  | registerSuccess =>
    rw [moved _ rfl]
    constructor
    · intro after
      have one := after.heartBeat
      simp only [sipClientHandleRegisterSuccess, List.length_append,
        List.length_cons, List.length_nil] at one
      exact ⟨sound.flag.mpr (List.length_eq_zero_iff.mp (by omega)), after.asleep rfl⟩
    · rintro ⟨flag, asleep⟩
      refine ⟨?_, single.register, fun _ => asleep⟩
      simp [sipClientHandleRegisterSuccess, sound.flag.mp flag]
  | registerFailure response =>
    cases response with
    | none => exact iff_of_true nofun (.inl rfl)
    | some nStatus =>
      rw [moved _ (next_registerFailure nStatus)]
      unfold ClientInput.registers Registrant.Allows
      by_cases challenge : nStatus = 401
      · simp only [challenge, if_true]
        exact iff_of_true ⟨single.heartBeat, single.register, single.asleep⟩ (.inr (.inl trivial))
      · simp only [Option.some.injEq, challenge, if_false, false_or, reduceCtorEq]
        constructor
        · intro after
          have one := after.register
          simp only [List.length_append, List.length_cons, List.length_nil] at one
          exact List.length_eq_zero_iff.mp (by omega)
        · intro none
          exact ⟨single.heartBeat, by simp [none], nofun⟩
  | threadRegister index =>
    rw [moved _ rfl]
    obtain ⟨heartBeat, -, fewer, asleep⟩ := @threadRegister_spec config registrant.client index
    refine iff_of_true ⟨?_, fewer.trans single.register, ?_⟩ trivial
    · exact heartBeat ▸ single.heartBeat
    · intro registered
      exact asleep (sound.registered registered) (single.asleep registered)
  | threadHeartBeat index =>
    rw [moved _ rfl]
    obtain ⟨heartBeat, register, -⟩ := @threadHeartBeat_spec config registrant.client index
    refine iff_of_true ⟨heartBeat.trans_le single.heartBeat, ?_, ?_⟩ trivial
    · exact register ▸ single.register
    · intro registered
      exact register ▸ single.asleep registered

/-- There are never two threads of a kind, and none registers a registered client, in
exactly the runs in which every outcome comes when it is allowed. -/
theorem threads_single_iff (config : ClientConfig) (inputs : List ClientInput) :
    Throughout (nextProcess config) RunsSingle (some (.start config)) inputs ↔
      EveryStep (nextProcess config) Allowed (some (.start config)) inputs := by
  apply @throughout_iff_everyStep _ _ _ _ (fun process => ∀ registrant ∈ process, registrant.Sound)
  · rintro registrant ⟨⟩
    exact ⟨by simp [Registrant.start, Client.start, sipUARegisterUnauthorV3], nofun⟩
  · rintro registrant ⟨⟩
    refine ⟨?_, ?_, nofun⟩ <;> simp [Registrant.start, Client.start, sipUARegisterUnauthorV3]
  · intro process input _ sound _ _ after there
    obtain ⟨registrant, rfl, moved⟩ := Option.bind_eq_some_iff.mp there
    exact (sound registrant rfl).next moved
  · intro process input _ sound single
    cases process with
    | none => exact iff_of_true nofun nofun
    | some registrant =>
      have step := @Registrant.Single.next_iff config registrant input (single registrant rfl)
        (sound registrant rfl)
      simpa [nextProcess, Allowed] using step

/-- The process of a client is gone after a REGISTER that nobody answers, and only then. -/
theorem process_gone_iff (config : ClientConfig) (registrant : Registrant)
    (inputs : List ClientInput) : inputs.foldl (nextProcess config) (some registrant) = none ↔
      .registerFailure none ∈ inputs := by
  have gone (inputs : List ClientInput) : inputs.foldl (nextProcess config) none = none := by
    induction inputs with
    | nil => rfl
    | cons input inputs ih => exact ih
  induction inputs generalizing registrant with
  | nil => exact iff_of_false nofun List.not_mem_nil
  | cons input inputs ih =>
    rw [List.foldl_cons, List.mem_cons]
    cases input with
    | registerSuccess => exact (ih _).trans (by simp)
    | registerFailure response =>
      cases response with
      | none => exact iff_of_true (gone inputs) (.inl rfl)
      | some nStatus => exact (ih _).trans (by simp)
    | threadRegister index => exact (ih _).trans (by simp)
    | threadHeartBeat index => exact (ih _).trans (by simp)

theorem heartBeatThreads_length {process : Registrant} (inputs : List ClientInput)
    (there : inputs.foldl (nextProcess config) (some registrant) = some process) :
    process.client.heartBeatThreads.length =
      registrant.client.heartBeatThreads.length + inputs.count .registerSuccess := by
  induction inputs generalizing registrant with
  | nil =>
    cases there
    rfl
  | cons input inputs ih =>
    rw [List.foldl_cons] at there
    cases input with
    | registerSuccess =>
      rw [ih there, List.count_cons_self]
      simp only [sipClientHandleRegisterSuccess, List.length_append, List.length_cons,
        List.length_nil]
      omega
    | registerFailure response =>
      have answered : response ≠ none := by
        rintro rfl
        have gone := (process_gone_iff config registrant (.registerFailure none :: inputs)).mpr
          List.mem_cons_self
        rw [List.foldl_cons, there] at gone
        cases gone
      obtain ⟨nStatus, rfl⟩ := Option.ne_none_iff_exists'.mp answered
      have other : ClientInput.registerFailure (some nStatus) ≠ .registerSuccess := nofun
      rw [ih there, List.count_cons_of_ne other]
      dsimp only
      split <;> rfl
    | threadRegister index =>
      have other : ClientInput.threadRegister index ≠ .registerSuccess := nofun
      rw [ih there, List.count_cons_of_ne other, threadRegister_spec.1]
    | threadHeartBeat index =>
      have other : ClientInput.threadHeartBeat index ≠ .registerSuccess := nofun
      rw [ih there, List.count_cons_of_ne other, threadHeartBeat_spec.1]

def sampleClient : ClientConfig :=
  ⟨"34020000001320000001".toList, "3402000000".toList, "340200".toList, "192.168.4.117".toList,
    5061, 60, "34020000002000000001".toList, "192.168.4.110".toList, 5060⟩

/-- The answer to the first automatic refresh starts a second heartbeat thread. -/
theorem refresh_starts_second : ¬ ∀ inputs,
    Throughout (nextProcess sampleClient) RunsSingle (some (.start sampleClient)) inputs := by
  intro single
  have last := (single [.registerFailure (some 401), .registerSuccess, .threadHeartBeat 0,
    .registerSuccess]).last
  have two := (last _ rfl).heartBeat
  exact absurd two (by decide)

end Gb28181.SipServer
