import Gb28181.Lib.Registry
import Gb28181.Lib.Traces
import Gb28181.Osip2.Matching
import Gb28181.Osip2.Origins

/-! `osip.c` with the way of a message through `udp.c`: the transactions of the stack, which of
them a message is given to, and when one is created for it. -/

namespace Gb28181.Osip2

open Gb28181.Lib Gb28181.Osip

variable {Header : Type}

/-- A transaction of the stack, with the events that wait for it. -/
structure Entry (Header : Type) where
  transactionid : Nat
  tr : Transaction Header
  transactionff : List (Event Header)

/-- An `osip_t`. Its four lists are one, in the order of creation, where a transaction is in the
list of its type. -/
structure Stack (Header : Type) where
  transactionid : Nat
  transactions : List (Entry Header)

variable (lib : MatchLib Header)

/-- `__osip_find_transaction`, for a message that came in. -/
def osipFindTransaction (stack : Stack Header) (sip : OsipMessage Header) : Option Nat :=
  match listOfMessage lib sip with
  | none => none
  | some type =>
    (stack.transactions.find? fun entry =>
      entry.tr.ctxType = type && matchingMessage lib entry.tr.toOrigin sip).map
        Entry.transactionid

/-- `osip_transaction_add_event`. -/
def Stack.addEvent (stack : Stack Header) (transactionid : Nat) (evt : Event Header) :
    Stack Header :=
  { stack with
    transactions := stack.transactions.map fun entry =>
      if entry.transactionid = transactionid then
        { entry with transactionff := entry.transactionff ++ [evt] }
      else entry }

/-- `osip_remove_transaction`. -/
def Stack.removeTransaction (stack : Stack Header) (transactionid : Nat) : Stack Header :=
  { stack with
    transactions := stack.transactions.filter fun entry => entry.transactionid ≠ transactionid }

/-- `osip_transaction_init`, with its first event. -/
def Stack.create (stack : Stack Header) (ctxType : FsmType) (evt : Event Header)
    (request : OsipMessage Header) (now : Int) : Stack Header × Option Nat :=
  match osipTransactionInit lib.toStackLib ctxType request now with
  | none => (stack, none)
  | some tr =>
    (⟨stack.transactionid + 1, stack.transactions ++ [⟨stack.transactionid, tr, [evt]⟩]⟩,
      some stack.transactionid)

/-- The first lines of `eXosip_process_newrequest`. An ACK and a late response do not create
transactions. -/
def Stack.processNewrequest (stack : Stack Header) (sip : Message Header) (now : Int) :
    Stack Header × Option Nat :=
  if msgIsMethod "INVITE" sip.sip then stack.create lib .ist (.incoming sip) sip.sip now
  else if msgIsMethod "ACK" sip.sip then (stack, none)
  else if msgIsRequest sip.sip then stack.create lib .nist (.incoming sip) sip.sip now
  else (stack, none)

/-- `_eXosip_handle_incoming_message`, behind the parser: the stack, and the transaction that
the message was given to. -/
def Stack.handleIncomingMessage (stack : Stack Header) (sip : Message Header) (now : Int) :
    Stack Header × Option Nat :=
  if msgIsRequest sip.sip ∧ (sip.sip.sipMethod = none ∨ sip.sip.reqUri = none) then (stack, none)
  else
    match osipFindTransaction lib stack sip.sip with
    | some transactionid => (stack.addEvent transactionid (.incoming sip), some transactionid)
    | none => stack.processNewrequest lib sip now

/-- One event of the queue is executed. A transaction that tells its end leaves the stack. -/
def Stack.execute (stack : Stack Header) (transactionid : Nat) (answers : Answers) :
    Stack Header × List (Effect Header) :=
  match stack.transactions.find? (·.transactionid = transactionid) with
  | none => (stack, [])
  | some entry =>
    match entry.transactionff with
    | [] => (stack, [])
    | evt :: transactionff =>
      let result := osipTransactionExecute lib.toStackLib entry.tr evt answers
      if result.2.any Effect.isKill then (stack.removeTransaction transactionid, result.2)
      else
        ({ stack with
          transactions := stack.transactions.map fun other =>
            if other.transactionid = transactionid then ⟨transactionid, result.1, transactionff⟩
            else other }, result.2)

/-- What happens to a stack: a message comes in, the application begins a transaction with a
request, gives one an event or removes one, and an event is executed. -/
inductive StackInput (Header : Type) where
  | arrives (sip : Message Header) (now : Int)
  | begins (ctxType : FsmType) (sip : Message Header) (now : Int)
  | adds (transactionid : Nat) (evt : Event Header)
  | executes (transactionid : Nat) (answers : Answers)
  | removes (transactionid : Nat)

def Stack.step (stack : Stack Header) : StackInput Header → Stack Header
  | .arrives sip now => (stack.handleIncomingMessage lib sip now).1
  | .begins ctxType sip now => (stack.create lib ctxType (.outgoing sip) sip.sip now).1
  | .adds transactionid evt => stack.addEvent transactionid evt
  | .executes transactionid answers => (stack.execute lib transactionid answers).1
  | .removes transactionid => stack.removeTransaction transactionid

def Stack.run (stack : Stack Header) (inputs : List (StackInput Header)) : Stack Header :=
  inputs.foldl (Stack.step lib) stack

def Stack.empty : Stack Header := ⟨1, []⟩

def Entry.row (entry : Entry Header) : Nat × Origin Header :=
  (entry.transactionid, entry.tr.toOrigin)

def Stack.rows (stack : Stack Header) : List (Nat × Origin Header) :=
  stack.transactions.map Entry.row

variable {lib : MatchLib Header} {stack : Stack Header} {sip : Message Header} {now : Int}
  {transactionid : Nat} {ctxType : FsmType} {evt : Event Header} {answers : Answers}

theorem rows_addEvent : (stack.addEvent transactionid evt).rows = stack.rows := by
  unfold Stack.rows Stack.addEvent
  rw [List.map_map]
  refine List.map_congr_left fun entry _ => ?_
  dsimp only [Function.comp_apply]
  split <;> rfl

theorem rows_removeTransaction :
    ((stack.removeTransaction transactionid).rows).Sublist stack.rows :=
  List.filter_sublist.map Entry.row

/-- What a step leaves of the rows. -/
structure Follows (before after : Stack Header) : Prop where
  grown : Grown before.transactionid before.rows after.rows
  numbered : Numbered after.transactionid after.rows
  later : before.transactionid ≤ after.transactionid

theorem follows_same {after : Stack Header} (numbered : Numbered stack.transactionid stack.rows)
    (same : after.rows = stack.rows) (next : after.transactionid = stack.transactionid) :
    Follows stack after :=
  ⟨same ▸ Grown.refl _, by rw [same, next]; exact numbered, Nat.le_of_eq next.symm⟩

theorem follows_create (numbered : Numbered stack.transactionid stack.rows) :
    Follows stack (stack.create lib ctxType evt request now).1 := by
  unfold Stack.create
  split
  · exact follows_same numbered rfl rfl
  · rename_i tr _
    have rows : Stack.rows ⟨stack.transactionid + 1,
        stack.transactions ++ [⟨stack.transactionid, tr, [evt]⟩]⟩ =
          stack.rows ++ [(stack.transactionid, tr.toOrigin)] := by
      unfold Stack.rows
      rw [List.map_append]
      rfl
    refine ⟨?_, ?_, Nat.le_succ _⟩
    · rw [rows]
      exact Grown.concat tr.toOrigin
    · rw [rows]
      exact numbered.concat tr.toOrigin

theorem follows_handle (numbered : Numbered stack.transactionid stack.rows) :
    Follows stack (stack.handleIncomingMessage lib sip now).1 := by
  unfold Stack.handleIncomingMessage Stack.processNewrequest
  split
  · exact follows_same numbered rfl rfl
  · split
    · exact follows_same numbered rows_addEvent rfl
    · split
      · exact follows_create numbered
      · split
        · exact follows_same numbered rfl rfl
        · split
          · exact follows_create numbered
          · exact follows_same numbered rfl rfl

theorem follows_remove (numbered : Numbered stack.transactionid stack.rows) :
    Follows stack (stack.removeTransaction transactionid) :=
  ⟨.sublist rows_removeTransaction, numbered.sublist rows_removeTransaction, Nat.le_refl _⟩

theorem follows_execute (numbered : Numbered stack.transactionid stack.rows) :
    Follows stack (stack.execute lib transactionid answers).1 := by
  unfold Stack.execute
  split
  · exact follows_same numbered rfl rfl
  · rename_i entry found
    split
    · exact follows_same numbered rfl rfl
    · rename_i evt rest _
      dsimp only
      split
      · exact follows_remove numbered
      · refine follows_same numbered ?_ rfl
        have same := List.find?_some found
        rw [decide_eq_true_eq] at same
        unfold Stack.rows
        dsimp only
        rw [List.map_map]
        refine List.map_congr_left fun other member => ?_
        dsimp only [Function.comp_apply]
        split
        · rename_i its
          have row : entry.row = other.row := by
            have once := numbered.nodup
            unfold Stack.rows at once
            rw [List.map_map] at once
            exact congrArg Entry.row (List.inj_on_of_nodup_map once
              (List.mem_of_find?_eq_some found) member (same.trans its.symm))
          rw [← row]
          exact Prod.ext same.symm (execute_stays evt answers).origin
        · rfl

theorem follows_step (numbered : Numbered stack.transactionid stack.rows)
    (input : StackInput Header) : Follows stack (stack.step lib input) := by
  cases input with
  | arrives sip now => exact follows_handle numbered
  | begins ctxType sip now => exact follows_create numbered
  | adds transactionid evt => exact follows_same numbered rows_addEvent rfl
  | executes transactionid answers => exact follows_execute numbered
  | removes transactionid => exact follows_remove numbered

theorem follows_run (numbered : Numbered stack.transactionid stack.rows)
    (inputs : List (StackInput Header)) : Follows stack (stack.run lib inputs) := by
  induction inputs generalizing stack with
  | nil => exact follows_same numbered rfl rfl
  | cons input inputs ih =>
    have step := @follows_step _ lib stack numbered input
    have rest := ih step.numbered
    exact ⟨step.grown.trans rest.grown step.later, rest.numbered, step.later.trans rest.later⟩

variable {sip again : Message Header} {content : OsipMessage Header} {later : Int}
  {inputs : List (StackInput Header)}

/-- Whether a message belongs to the transaction of a row. -/
def wantedRow (lib : MatchLib Header) (type : FsmType) (content : OsipMessage Header)
    (row : Nat × Origin Header) : Bool :=
  row.2.ctxType = type && matchingMessage lib row.2 content

theorem osipFindTransaction_eq_some {type : FsmType} (list : listOfMessage lib content = some type) :
    osipFindTransaction lib stack content =
      (stack.rows.find? (wantedRow lib type content)).map Prod.fst := by
  unfold osipFindTransaction Stack.rows
  rw [list, List.find?_map, Option.map_map]
  rfl

theorem find_stays (numbered : Numbered stack.transactionid stack.rows)
    (found : osipFindTransaction lib stack content = some transactionid)
    (live : transactionid ∈ (stack.run lib inputs).rows.map Prod.fst) :
    osipFindTransaction lib (stack.run lib inputs) content = some transactionid := by
  cases list : listOfMessage lib content with
  | none =>
    unfold osipFindTransaction at found
    rw [list] at found
    cases found
  | some type =>
    rw [osipFindTransaction_eq_some list] at found ⊢
    obtain ⟨row, first, same⟩ := Option.map_eq_some_iff.mp found
    rw [find?_of_grown numbered (follows_run numbered inputs).grown first (same ▸ live)]
    exact congrArg some same

theorem find_live (found : osipFindTransaction lib stack content = some transactionid) :
    transactionid ∈ stack.rows.map Prod.fst := by
  unfold osipFindTransaction at found
  split at found
  · cases found
  · obtain ⟨entry, first, same⟩ := Option.map_eq_some_iff.mp found
    rw [← same]
    exact List.mem_map_of_mem (List.mem_map_of_mem (List.mem_of_find?_eq_some first))

theorem find_created (alike : CopiesAlike lib) (complete : Complete lib content)
    (serves : ctxType = .ist ∨ ctxType = .nist) (list : listOfMessage lib content = some ctxType)
    (missing : osipFindTransaction lib stack content = none)
    (created : (stack.create lib ctxType evt content now).2 = some transactionid) :
    osipFindTransaction lib (stack.create lib ctxType evt content now).1 content =
      some transactionid := by
  unfold Stack.create at created ⊢
  split at created
  · cases created
  · rename_i tr init
    rw [← Option.some.inj created, osipFindTransaction_eq_some list]
    rw [osipFindTransaction_eq_some list, Option.map_eq_none_iff] at missing
    have createdFor := osipTransactionInit_createdFor init
    have fits : wantedRow lib ctxType content (stack.transactionid, tr.toOrigin) = true := by
      unfold wantedRow matchingMessage
      rw [if_pos complete.isRequest, matchingRequest_created alike complete serves createdFor,
        createdFor.ctxType, Bool.and_true, decide_eq_true_eq]
    have rows : Stack.rows ⟨stack.transactionid + 1,
        stack.transactions ++ [⟨stack.transactionid, tr, [evt]⟩]⟩ =
          stack.rows ++ [(stack.transactionid, tr.toOrigin)] := by
      unfold Stack.rows
      rw [List.map_append]
      rfl
    rw [rows, find?_concat missing fits]
    rfl

/-- What a message was given to is what it is found for. -/
theorem find_handled (alike : CopiesAlike lib)
    (given : (stack.handleIncomingMessage lib sip now).2 = some transactionid)
    (complete : osipFindTransaction lib stack sip.sip = none → Complete lib sip.sip)
    (numbered : Numbered stack.transactionid stack.rows) :
    osipFindTransaction lib (stack.handleIncomingMessage lib sip now).1 sip.sip =
      some transactionid := by
  unfold Stack.handleIncomingMessage at given ⊢
  split at given
  · cases given
  · rename_i accepted
    rw [if_neg accepted]
    cases found : osipFindTransaction lib stack sip.sip with
    | some other =>
      rw [found] at given
      rw [← Option.some.inj given]
      have stays := @find_stays _ lib stack other sip.sip [.adds other (.incoming sip)] numbered
        found
      apply stays
      have rows : (stack.run lib [.adds other (.incoming sip)]).rows = stack.rows := rows_addEvent
      rw [rows]
      exact find_live found
    | none =>
      rw [found] at given
      dsimp only at given ⊢
      have complete := complete found
      have list := listOfMessage_complete complete
      unfold Stack.processNewrequest at given ⊢
      by_cases invite : msgIsMethod "INVITE" sip.sip = true
      · rw [if_pos invite] at given list ⊢
        exact find_created alike complete (.inl rfl) list found given
      · rw [if_neg invite, if_neg (Bool.eq_false_iff.mp complete.notAck),
          if_pos complete.isRequest] at given ⊢
        rw [if_neg invite] at list
        exact find_created alike complete (.inr rfl) list found given

theorem numbered_empty : Numbered 1 (Stack.rows (Stack.empty : Stack Header)) :=
  ⟨List.nodup_nil, fun _ member => absurd member List.not_mem_nil⟩

/-- A message that comes again, after whatever else has happened to the stack, is given to the
transaction that it was given to at first, as long as that one is there, and no transaction is
created for it. If it was the first one that time, it has to be complete: by its method in the
CSeq, its tags and its branch it is found again. -/
theorem retransmission_given (alike : CopiesAlike lib) {before : List (StackInput Header)}
    (given : ((Stack.empty.run lib before).handleIncomingMessage lib sip now).2 =
      some transactionid)
    (complete : osipFindTransaction lib (Stack.empty.run lib before) sip.sip = none →
      Complete lib sip.sip)
    (inputs : List (StackInput Header))
    (live : transactionid ∈ ((((Stack.empty.run lib before).handleIncomingMessage lib sip
      now).1.run lib inputs).rows.map Prod.fst)) (same : again.sip = sip.sip) :
    let last := ((Stack.empty.run lib before).handleIncomingMessage lib sip now).1.run lib inputs
    (last.handleIncomingMessage lib again later).2 = some transactionid ∧
      (last.handleIncomingMessage lib again later).1.rows = last.rows := by
  intro last
  have numbered := (@follows_run _ lib Stack.empty numbered_empty before).numbered
  have handled := @follows_handle _ lib (Stack.empty.run lib before) sip now numbered
  have found : osipFindTransaction lib last sip.sip = some transactionid :=
    find_stays handled.numbered (find_handled alike given complete numbered) live
  have accepted : ¬ (msgIsRequest again.sip ∧
      (again.sip.sipMethod = none ∨ again.sip.reqUri = none)) := by
    rw [same]
    intro rejected
    unfold Stack.handleIncomingMessage at given
    rw [if_pos rejected] at given
    cases given
  unfold Stack.handleIncomingMessage
  rw [if_neg accepted, same, found]
  exact ⟨rfl, rows_addEvent⟩

theorem retransmission_given_options :
    ((((Stack.empty.run textMatchLib []).handleIncomingMessage textMatchLib
      ⟨1, optionsRequest⟩ 0).1.run textMatchLib [.executes 1 ⟨0, 0, 0⟩]).handleIncomingMessage
        textMatchLib ⟨2, optionsRequest⟩ 9).2 = some 1 :=
  (@retransmission_given _ textMatchLib 0 1 ⟨1, optionsRequest⟩ ⟨2, optionsRequest⟩ 9
    textMatchLib_copiesAlike [] rfl (fun _ => optionsRequest_complete) [.executes 1 ⟨0, 0, 0⟩]
    (List.mem_singleton.mpr rfl) rfl).1

end Gb28181.Osip2
