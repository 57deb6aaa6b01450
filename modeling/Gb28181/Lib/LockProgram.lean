import Mathlib.Data.Set.Basic
import Mathlib.Data.Set.Insert
import Mathlib.Data.Set.Lattice
import Mathlib.Logic.Relation
import Mathlib.Order.CompletePartialOrder
import Mathlib.Tactic.Common

/-! Threads that share a state under mutexes: programs made of atomic steps, their
interleavings, and the invariants that the free mutexes vouch for. -/

namespace Gb28181.Lib

universe u

/-- A program of one thread. A step reads the state, changes it and goes on with what
it read. -/
inductive Prog (Lock State Value : Type) : Type
  | done (value : Value)
  | acquire (lock : Lock) (next : Prog Lock State Value)
  | release (lock : Lock) (next : Prog Lock State Value)
  | step (update : State → State) (next : State → Prog Lock State Value)

namespace Prog

variable {Lock State Value Result : Type}

def bind : Prog Lock State Value → (Value → Prog Lock State Result) → Prog Lock State Result
  | done value, next => next value
  | acquire lock rest, next => acquire lock (rest.bind next)
  | release lock rest, next => release lock (rest.bind next)
  | step update rest, next => step update (fun state => (rest state).bind next)

instance : Monad (Prog Lock State) where
  pure := done
  bind := bind

def lock (name : Lock) : Prog Lock State Unit := acquire name (done ())

def unlock (name : Lock) : Prog Lock State Unit := release name (done ())

def read (look : State → Value) : Prog Lock State Value := step id (fun state => done (look state))

def write (update : State → State) : Prog Lock State Unit := step update (fun _ => done ())

/-- What a look at the state before the change gives. -/
def readWrite (look : State → Value) (update : State → State) : Prog Lock State Value :=
  step update (fun state => done (look state))

/-- The program run to its end with no other thread at work. -/
def run : Prog Lock State Value → State → Value × State
  | done value, state => (value, state)
  | acquire _ next, state => next.run state
  | release _ next, state => next.run state
  | step update next, state => (next state).run (update state)

variable {state : State} {value : Value} {name : Lock} {program : Prog Lock State Value}
  {next : Value → Prog Lock State Result}

@[simp] theorem pure_eq : (pure value : Prog Lock State Value) = done value := rfl

@[simp] theorem done_bind : (done value : Prog Lock State Value) >>= next = next value := rfl

@[simp] theorem run_done : (done value : Prog Lock State Value).run state = (value, state) := rfl

@[simp] theorem run_lock : (lock name : Prog Lock State Unit).run state = ((), state) := rfl

@[simp] theorem run_unlock : (unlock name : Prog Lock State Unit).run state = ((), state) := rfl

@[simp] theorem run_read (look : State → Value) :
    (read look : Prog Lock State Value).run state = (look state, state) := rfl

@[simp] theorem run_write (update : State → State) :
    (write update : Prog Lock State Unit).run state = ((), update state) := rfl

@[simp] theorem run_readWrite (look : State → Value) (update : State → State) :
    (readWrite look update : Prog Lock State Value).run state = (look state, update state) := rfl

@[simp] theorem run_bind : (program >>= next).run state =
    (next (program.run state).1).run (program.run state).2 := by
  change (program.bind next).run state = _
  induction program generalizing state with
  | done value => rfl
  | acquire lock rest ih => exact ih
  | release lock rest ih => exact ih
  | step update rest ih => exact ih state

/-- However the state changes in between, every lock is taken while it is free and given back,
and none is held at the end. -/
def Balanced : Prog Lock State Value → Set Lock → Prop
  | done _, held => held = ∅
  | acquire name next, held => name ∉ held ∧ next.Balanced (insert name held)
  | release name next, held => name ∈ held ∧ next.Balanced (held \ {name})
  | step _ next, held => ∀ state, (next state).Balanced held

section Balance

variable {held : Set Lock} {next : Unit → Prog Lock State Result}

@[simp] theorem balanced_done : (done value : Prog Lock State Value).Balanced held ↔ held = ∅ :=
  Iff.rfl

@[simp] theorem balanced_lock : (lock name >>= next).Balanced held ↔
    name ∉ held ∧ (next ()).Balanced (insert name held) := Iff.rfl

@[simp] theorem balanced_unlock : (unlock name >>= next).Balanced held ↔
    name ∈ held ∧ (next ()).Balanced (held \ {name}) := Iff.rfl

@[simp] theorem balanced_read {look : State → Value} {next : Value → Prog Lock State Result} :
    (read look >>= next).Balanced held ↔ ∀ state, (next (look state)).Balanced held := Iff.rfl

@[simp] theorem balanced_write {update : State → State} :
    (write update >>= next).Balanced held ↔ ∀ _ : State, (next ()).Balanced held := Iff.rfl

end Balance

end Prog

section Threads

variable {Lock State Thread : Type}

/-- What the mutexes protect and what each thread may do to the state while it holds
some of them. -/
structure Discipline (Lock State Thread : Type) where
  invariant : Lock → State → Prop
  guarantee : Thread → Set Lock → State → State → Prop
  keeps : ∀ thread held name before after, guarantee thread held before after →
    name ∉ held → invariant name before → invariant name after

/-- What the other threads may do while one thread holds some locks. -/
def Discipline.Rely (discipline : Discipline Lock State Thread) (thread : Thread)
    (held : Set Lock) : State → State → Prop :=
  Relation.ReflTransGen (fun before after =>
    ∃ other, other ≠ thread ∧ ∃ theirs, Disjoint held theirs ∧
      discipline.guarantee other theirs before after)

/-- From a state and with locks held, every step of the program keeps the thread's
guarantee whatever the other threads do in between, every lock is given back with its
invariant, and the program ends as the postcondition says. -/
def Discipline.Safe (discipline : Discipline Lock State Thread) (thread : Thread)
    {Value : Type} (post : Value → Set Lock → State → Prop) :
    Prog Lock State Value → Set Lock → State → Prop
  | .done value, held, state =>
    ∀ later, discipline.Rely thread held state later → post value held later
  | .acquire name next, held, state => name ∉ held ∧
    ∀ later, discipline.Rely thread held state later → discipline.invariant name later →
      discipline.Safe thread post next (insert name held) later
  | .release name next, held, state => name ∈ held ∧
    ∀ later, discipline.Rely thread held state later → discipline.invariant name later ∧
      discipline.Safe thread post next (held \ {name}) later
  | .step update next, held, state =>
    ∀ later, discipline.Rely thread held state later →
      discipline.guarantee thread held later (update later) ∧
        discipline.Safe thread post (next later) held (update later)

variable {discipline : Discipline Lock State Thread} {thread : Thread} {held : Set Lock}
  {state later : State} {Value Result : Type} {program : Prog Lock State Value}
  {post : Value → Set Lock → State → Prop}

theorem Discipline.Rely.refl : discipline.Rely thread held state state := Relation.ReflTransGen.refl

theorem Discipline.Rely.trans {middle : State} (first : discipline.Rely thread held state middle)
    (second : discipline.Rely thread held middle later) : discipline.Rely thread held state later :=
  Relation.ReflTransGen.trans first second

/-- A relation that covers every step of the others covers what they do together. -/
theorem Discipline.Rely.covered {relation : State → State → Prop}
    (reflexive : ∀ state, relation state state)
    (transitive : ∀ first second third, relation first second → relation second third →
      relation first third)
    (others : ∀ other theirs before after, other ≠ thread → Disjoint held theirs →
      discipline.guarantee other theirs before after → relation before after)
    (rely : discipline.Rely thread held state later) : relation state later := by
  induction rely with
  | refl => exact reflexive state
  | tail _ one ih =>
    obtain ⟨other, different, theirs, disjoint, allowed⟩ := one
    exact transitive _ _ _ ih (others other theirs _ _ different disjoint allowed)

theorem Discipline.Safe.of_rely (safe : discipline.Safe thread post program held state)
    (rely : discipline.Rely thread held state later) :
    discipline.Safe thread post program held later := by
  cases program with
  | done value => exact fun last further => safe last (rely.trans further)
  | acquire name next => exact ⟨safe.1, fun last further => safe.2 last (rely.trans further)⟩
  | release name next => exact ⟨safe.1, fun last further => safe.2 last (rely.trans further)⟩
  | step update next => exact fun last further => safe last (rely.trans further)

theorem Discipline.Safe.bind {next : Value → Prog Lock State Result}
    {last : Result → Set Lock → State → Prop}
    (safe : discipline.Safe thread
      (fun value held state => discipline.Safe thread last (next value) held state)
      program held state) :
    discipline.Safe thread last (program >>= next) held state := by
  change discipline.Safe thread last (program.bind next) held state
  induction program generalizing held state with
  | done value => exact safe state Discipline.Rely.refl
  | acquire name rest ih =>
    exact ⟨safe.1, fun later rely holds => ih (safe.2 later rely holds)⟩
  | release name rest ih =>
    exact ⟨safe.1, fun later rely => ⟨(safe.2 later rely).1, ih (safe.2 later rely).2⟩⟩
  | step update rest ih =>
    exact fun later rely => ⟨(safe later rely).1, ih later (safe later rely).2⟩

theorem Discipline.Safe.weaken {weaker : Value → Set Lock → State → Prop}
    (safe : discipline.Safe thread post program held state)
    (weaken : ∀ value held state, post value held state → weaker value held state) :
    discipline.Safe thread weaker program held state := by
  induction program generalizing held state with
  | done value => exact fun later rely => weaken _ _ _ (safe later rely)
  | acquire name rest ih =>
    exact ⟨safe.1, fun later rely holds => ih (safe.2 later rely holds)⟩
  | release name rest ih =>
    exact ⟨safe.1, fun later rely => ⟨(safe.2 later rely).1, ih (safe.2 later rely).2⟩⟩
  | step update rest ih =>
    exact fun later rely => ⟨(safe later rely).1, ih later (safe later rely).2⟩

/-- The state, the owners of the mutexes and what each thread still has to do. -/
structure Threads (Lock State Thread : Type) where
  state : State
  owner : Lock → Option Thread
  program : Thread → Prog Lock State Unit

variable [DecidableEq Lock] [DecidableEq Thread]

/-- One step of one thread. An idle thread takes up one of its jobs; a thread that asks
for a mutex someone owns has no step. -/
inductive Threads.Step (jobs : Thread → Prog Lock State Unit → Prop) :
    Threads Lock State Thread → Threads Lock State Thread → Prop
  | start {threads thread job} (idle : threads.program thread = .done ())
      (offered : jobs thread job) :
      Step jobs threads { threads with program := Function.update threads.program thread job }
  | acquire {threads thread name next} (asks : threads.program thread = .acquire name next)
      (free : threads.owner name = none) :
      Step jobs threads ⟨threads.state, Function.update threads.owner name (some thread),
        Function.update threads.program thread next⟩
  | release {threads thread name next} (gives : threads.program thread = .release name next) :
      Step jobs threads ⟨threads.state, Function.update threads.owner name none,
        Function.update threads.program thread next⟩
  | step {threads thread update next} (does : threads.program thread = .step update next) :
      Step jobs threads ⟨update threads.state, threads.owner,
        Function.update threads.program thread (next threads.state)⟩

/-- Whatever the threads can reach from a start in which all are idle and all mutexes
are free, in any order of their steps. -/
inductive Threads.Reachable (jobs : Thread → Prog Lock State Unit → Prop) (start : State) :
    Threads Lock State Thread → Prop
  | start : Reachable jobs start ⟨start, fun _ => none, fun _ => .done ()⟩
  | next {before after} : Reachable jobs start before → Threads.Step jobs before after →
      Reachable jobs start after

def Threads.owned (threads : Threads Lock State Thread) (thread : Thread) : Set Lock :=
  {name | threads.owner name = some thread}

/-- A job is done with no lock held. -/
abbrev Discipline.Job (discipline : Discipline Lock State Thread) (thread : Thread) :=
  discipline.Safe thread (fun (_ : Unit) held _ => held = ∅)

/-- The invariants of the free mutexes hold and every thread is safe from here. -/
def Discipline.Sound (discipline : Discipline Lock State Thread)
    (threads : Threads Lock State Thread) : Prop :=
  (∀ name, threads.owner name = none → discipline.invariant name threads.state) ∧
    ∀ thread, discipline.Job thread (threads.program thread) (threads.owned thread) threads.state

variable {threads after : Threads Lock State Thread} {jobs : Thread → Prog Lock State Unit → Prop}

omit [DecidableEq Lock] [DecidableEq Thread] in
theorem Threads.disjoint_owned {other : Thread} (different : thread ≠ other) :
    Disjoint (threads.owned other) (threads.owned thread) := by
  refine Set.disjoint_left.mpr ?_
  intro name theirs mine
  exact different (Option.some.inj (mine.symm.trans theirs))

omit [DecidableEq Lock] in
/-- One thread goes on to a program that is safe with what it owns then; the others own
what they did and see a step they rely on. -/
private theorem sound_of_moved {owner : Lock → Option Thread} {program : Prog Lock State Unit}
    (sound : discipline.Sound threads)
    (free : ∀ name, owner name = none → discipline.invariant name state)
    (others : ∀ other, other ≠ thread → {name | owner name = some other} = threads.owned other)
    (allowed : threads.state = state ∨
      discipline.guarantee thread (threads.owned thread) threads.state state)
    (safe : discipline.Job thread program {name | owner name = some thread} state) :
    discipline.Sound ⟨state, owner, Function.update threads.program thread program⟩ := by
  refine ⟨free, ?_⟩
  intro one
  by_cases same : one = thread
  · subst same
    simpa [Threads.owned] using safe
  · have before := sound.2 one
    have moved : discipline.Rely one (threads.owned one) threads.state state := by
      rcases allowed with rfl | allowed
      · exact Discipline.Rely.refl
      · exact Relation.ReflTransGen.single
          ⟨thread, Ne.symm same, _, Threads.disjoint_owned (Ne.symm same), allowed⟩
    simpa [Threads.owned, Function.update_of_ne same, others one same] using before.of_rely moved

theorem Discipline.Sound.step
    (safe : ∀ thread job state, jobs thread job → discipline.Job thread job ∅ state)
    (sound : discipline.Sound threads) (step : Threads.Step jobs threads after) :
    discipline.Sound after := by
  cases step with
  | @start thread job idle offered =>
    have ended := sound.2 thread
    rw [idle] at ended
    have nothing : threads.owned thread = ∅ := ended _ Discipline.Rely.refl
    refine sound_of_moved sound sound.1 (fun _ _ => rfl) (.inl rfl) ?_
    exact (congrArg (fun held => discipline.Job thread job held threads.state) nothing).mpr
      (safe thread job threads.state offered)
  | @acquire thread name next asks free =>
    have mine := sound.2 thread
    rw [asks] at mine
    refine sound_of_moved sound ?_ ?_ (.inl rfl) ?_
    · intro lock unowned
      refine sound.1 lock ?_
      by_cases same : lock = name
      · exact same ▸ free
      · rwa [Function.update_of_ne same] at unowned
    · intro other different
      ext lock
      by_cases same : lock = name
      · subst same
        simp [Threads.owned, free, Ne.symm different]
      · simp [Threads.owned, Function.update_of_ne same]
    · have owned : {lock | Function.update threads.owner name (some thread) lock = some thread} =
          insert name (threads.owned thread) := by
        ext lock
        by_cases same : lock = name
        · simp [same]
        · simp [Threads.owned, same]
      rw [owned]
      exact mine.2 _ Discipline.Rely.refl (sound.1 name free)
  | @release thread name next gives =>
    have mine := sound.2 thread
    rw [gives] at mine
    obtain ⟨holds, rest⟩ := mine.2 _ Discipline.Rely.refl
    refine sound_of_moved sound ?_ ?_ (.inl rfl) ?_
    · intro lock unowned
      by_cases same : lock = name
      · exact same ▸ holds
      · exact sound.1 lock (by rwa [Function.update_of_ne same] at unowned)
    · intro other different
      ext lock
      by_cases same : lock = name
      · subst same
        have owner : threads.owner lock = some thread := mine.1
        simp [Threads.owned, owner, Ne.symm different]
      · simp [Threads.owned, Function.update_of_ne same]
    · have owned : {lock | Function.update threads.owner name none lock = some thread} =
          threads.owned thread \ {name} := by
        ext lock
        by_cases same : lock = name
        · simp [same]
        · simp [Threads.owned, same]
      rw [owned]
      exact rest
  | @step thread update next does =>
    have mine := sound.2 thread
    rw [does] at mine
    obtain ⟨allowed, rest⟩ := mine _ Discipline.Rely.refl
    refine sound_of_moved sound ?_ (fun _ _ => rfl) (.inr allowed) rest
    intro lock unowned
    refine discipline.keeps thread _ lock _ _ allowed ?_ (sound.1 lock unowned)
    intro owned
    simp [Threads.owned, unowned] at owned

theorem Discipline.sound_of_reachable {start : State}
    (initially : ∀ name, discipline.invariant name start)
    (safe : ∀ thread job state, jobs thread job → discipline.Job thread job ∅ state)
    (reachable : Threads.Reachable jobs start threads) : discipline.Sound threads := by
  induction reachable with
  | start =>
    refine ⟨fun name _ => initially name, ?_⟩
    intro thread later _
    simp [Threads.owned]
  | next _ step ih => exact ih.step safe step

/-- A free mutex vouches for its invariant in everything the threads can reach. -/
theorem Discipline.invariant_of_reachable {start : State}
    (initially : ∀ name, discipline.invariant name start)
    (safe : ∀ thread job state, jobs thread job → discipline.Job thread job ∅ state)
    (reachable : Threads.Reachable jobs start threads) (name : Lock)
    (free : threads.owner name = none) : discipline.invariant name threads.state :=
  (Discipline.sound_of_reachable initially safe reachable).1 name free

/-- One thread's program to its end while the others are idle. -/
private theorem reachable_run_program {start : State} {owner : Lock → Option Thread}
    {program : Prog Lock State Unit} (initially : ∀ name, discipline.invariant name start)
    (safe : ∀ thread job state, jobs thread job → discipline.Job thread job ∅ state)
    (alone : ∀ name, owner name = none ∨ owner name = some thread)
    (reachable : Threads.Reachable jobs start
      ⟨state, owner, Function.update (fun _ => .done ()) thread program⟩) :
    Threads.Reachable jobs start ⟨(program.run state).2, fun _ => none, fun _ => .done ()⟩ := by
  have mine := (Discipline.sound_of_reachable initially safe reachable).2 thread
  simp only [Function.update_self] at mine
  have current (program : Prog Lock State Unit) :
      Function.update (fun _ => Prog.done ()) thread program thread = program :=
    Function.update_self ..
  induction program generalizing state owner with
  | done value =>
    have nothing : {name | owner name = some thread} = ∅ := mine _ Discipline.Rely.refl
    have free : owner = fun _ => none := by
      funext name
      rcases alone name with free | owned
      · exact free
      · exact absurd (nothing ▸ owned : name ∈ (∅ : Set Lock)) id
    rw [free, Function.update_eq_self_iff.mpr rfl] at reachable
    exact reachable
  | acquire name next ih =>
    have free : owner name = none := (alone name).resolve_right mine.1
    have moved := reachable.next (.acquire (current _) free)
    rw [Function.update_idem] at moved
    refine ih ?_ moved ?_
    · intro other
      by_cases same : other = name
      · simp [same]
      · simpa [Function.update_of_ne same] using alone other
    · simpa using (Discipline.sound_of_reachable initially safe moved).2 thread
  | release name next ih =>
    have moved := reachable.next (.release (current _))
    rw [Function.update_idem] at moved
    refine ih ?_ moved ?_
    · intro other
      by_cases same : other = name
      · simp [same]
      · simpa [Function.update_of_ne same] using alone other
    · simpa using (Discipline.sound_of_reachable initially safe moved).2 thread
  | step update next ih =>
    have moved := reachable.next (.step (current _))
    rw [Function.update_idem] at moved
    refine ih state alone moved ?_
    simpa using (Discipline.sound_of_reachable initially safe moved).2 thread

theorem Threads.Reachable.run {start : State} {job : Prog Lock State Unit}
    (initially : ∀ name, discipline.invariant name start)
    (safe : ∀ thread job state, jobs thread job → discipline.Job thread job ∅ state)
    (reachable : Threads.Reachable jobs start ⟨state, fun _ => none, fun _ => .done ()⟩)
    (offered : jobs thread job) :
    Threads.Reachable jobs start ⟨(job.run state).2, fun _ => none, fun _ => .done ()⟩ :=
  reachable_run_program initially safe (fun _ => .inl rfl)
    (reachable.next (.start rfl offered))

end Threads

end Gb28181.Lib
