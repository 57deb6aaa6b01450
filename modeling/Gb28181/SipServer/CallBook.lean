import Mathlib.Data.Multiset.Bind
import Mathlib.Algebra.Order.Group.Multiset

/-! What the server is for, without its data: a book of the INVITEs that wait, of the calls,
and of what was answered or hung up. -/

namespace Gb28181.SipServer

/-- The ids the SIP stack gives an incoming INVITE. -/
structure Invite where
  tid : Int
  cid : Int
  deriving DecidableEq

/-- An INVITE that was forwarded, and the call id of its other leg. -/
structure Call where
  caller : Invite
  calleeCid : Int
  deriving DecidableEq

structure Book where
  waiting : Multiset Invite
  calls : Multiset Call
  refused : Multiset Int
  hungUp : Multiset Int

def Call.legs (call : Call) : Multiset Int := {call.caller.cid, call.calleeCid}

/-- What one input does to the book. -/
inductive Deed where
  | nothing
  /-- A new INVITE is refused, lost without an answer, kept waiting or connected. -/
  | refuse (invite : Invite)
  | lose (invite : Invite)
  | keep (invite : Invite)
  | connect (call : Call)
  /-- The same for one that has waited. -/
  | resume (call : Call)
  | refuseWaiting (invite : Invite)
  | loseWaiting (invite : Invite)
  /-- The callee declined. -/
  | reject (call : Call)
  /-- The caller is refused but the call stays. -/
  | misanswer (call : Call)
  /-- Calls are hung up on both legs, and waiting INVITEs are lost. -/
  | sweep (gone : Multiset Call) (lost : Multiset Invite)

def Deed.Does : Deed → Book → Book → Prop
  | .nothing, before, after => after = before
  | .refuse invite, before, after =>
    after = { before with refused := invite.tid ::ₘ before.refused }
  | .lose _, before, after => after = before
  | .keep invite, before, after => after = { before with waiting := invite ::ₘ before.waiting }
  | .connect call, before, after => after = { before with calls := call ::ₘ before.calls }
  | .resume call, before, after => ∃ rest, before.waiting = call.caller ::ₘ rest ∧
    after = { before with waiting := rest, calls := call ::ₘ before.calls }
  | .refuseWaiting invite, before, after => ∃ rest, before.waiting = invite ::ₘ rest ∧
    after = { before with waiting := rest, refused := invite.tid ::ₘ before.refused }
  | .loseWaiting invite, before, after => ∃ rest, before.waiting = invite ::ₘ rest ∧
    after = { before with waiting := rest }
  | .reject call, before, after => ∃ rest, before.calls = call ::ₘ rest ∧
    after = { before with calls := rest, refused := call.caller.tid ::ₘ before.refused }
  | .misanswer call, before, after => call ∈ before.calls ∧
    after = { before with refused := call.caller.tid ::ₘ before.refused }
  | .sweep gone lost, before, after => ∃ calls waiting, before.calls = gone + calls ∧
    before.waiting = lost + waiting ∧ after = { before with
      calls := calls, waiting := waiting, hungUp := before.hungUp + gone.bind Call.legs }

def Deed.arrives : Deed → Option Invite
  | .refuse invite | .lose invite | .keep invite => some invite
  | .connect call => some call.caller
  | _ => none

def Deed.callee : Deed → Option Int
  | .connect call | .resume call => some call.calleeCid
  | _ => none

/-- The deeds that leave an INVITE without an answer, or answered and still tracked. -/
def Deed.Faulty : Deed → Prop
  | .lose _ | .loseWaiting _ | .misanswer _ => True
  | .sweep _ lost => lost ≠ 0
  | _ => False

structure Issued where
  invites : List Invite
  callees : List Int

structure Issued.Fresh (issued : Issued) : Prop where
  tids : (issued.invites.map Invite.tid).Nodup
  cids : (issued.invites.map Invite.cid ++ issued.callees).Nodup

def Issued.FreshCids (issued : Issued) : Prop :=
  (issued.invites.map Invite.cid ++ issued.callees).Nodup

instance (issued : Issued) : Decidable issued.FreshCids := inferInstanceAs (Decidable (List.Nodup _))

variable {issued later : Issued} {before after : Book} {deed : Deed} {invite other : Invite}
  {call : Call} {cid : Int}

theorem Issued.Fresh.eq_of_tid (fresh : issued.Fresh) (one : invite ∈ issued.invites)
    (two : other ∈ issued.invites) (same : invite.tid = other.tid) : invite = other :=
  List.inj_on_of_nodup_map fresh.tids one two same

theorem Issued.FreshCids.eq_of_cid (fresh : issued.FreshCids) (one : invite ∈ issued.invites)
    (two : other ∈ issued.invites) (same : invite.cid = other.cid) : invite = other :=
  List.inj_on_of_nodup_map (List.nodup_append.mp fresh).1 one two same

theorem Issued.FreshCids.ne_callee (fresh : issued.FreshCids) (one : invite ∈ issued.invites)
    (two : cid ∈ issued.callees) : invite.cid ≠ cid :=
  (List.nodup_append.mp fresh).2.2 _ (List.mem_map_of_mem one) _ two

theorem Issued.Fresh.freshCids (fresh : issued.Fresh) : issued.FreshCids := fresh.cids

theorem Issued.Fresh.eq_of_cid (fresh : issued.Fresh) (one : invite ∈ issued.invites)
    (two : other ∈ issued.invites) (same : invite.cid = other.cid) : invite = other :=
  fresh.freshCids.eq_of_cid one two same

theorem Issued.Fresh.ne_callee (fresh : issued.Fresh) (one : invite ∈ issued.invites)
    (two : cid ∈ issued.callees) : invite.cid ≠ cid :=
  fresh.freshCids.ne_callee one two

/-- What is in the book was issued, and nothing is in it twice. -/
structure Book.Sound (issued : Issued) (book : Book) : Prop where
  waiting : ∀ invite ∈ book.waiting, invite ∈ issued.invites
  callers : ∀ call ∈ book.calls, call.caller ∈ issued.invites
  callees : ∀ call ∈ book.calls, call.calleeCid ∈ issued.callees
  once : (book.waiting + book.calls.map Call.caller).Nodup
  calleesOnce : (book.calls.map Call.calleeCid).Nodup

/-- What a deed brings in is new, and belongs to what was issued then. -/
structure Deed.Brings (deed : Deed) (issued later : Issued) : Prop where
  invites : issued.invites ⊆ later.invites
  callees : issued.callees ⊆ later.callees
  arrives : ∀ invite, deed.arrives = some invite →
    invite ∈ later.invites ∧ invite ∉ issued.invites
  callee : ∀ cid, deed.callee = some cid → cid ∈ later.callees ∧ cid ∉ issued.callees

private theorem sound_of_le (sound : before.Sound issued)
    (invites : issued.invites ⊆ later.invites) (callees : issued.callees ⊆ later.callees)
    (waiting : after.waiting ≤ before.waiting) (calls : after.calls ≤ before.calls) :
    after.Sound later where
  waiting invite member := invites (sound.waiting invite (Multiset.mem_of_le waiting member))
  callers call member := invites (sound.callers call (Multiset.mem_of_le calls member))
  callees call member := callees (sound.callees call (Multiset.mem_of_le calls member))
  once := Multiset.nodup_of_le (add_le_add waiting (Multiset.map_le_map calls)) sound.once
  calleesOnce := Multiset.nodup_of_le (Multiset.map_le_map calls) sound.calleesOnce

/-- A call is added whose caller is neither waiting nor in a call. -/
private theorem sound_of_connected (sound : before.Sound issued)
    (brings : deed.Brings issued later) (callee : deed.callee = some call.calleeCid)
    (waiting : after.waiting ≤ before.waiting) (calls : after.calls = call ::ₘ before.calls)
    (caller : call.caller ∈ later.invites) (idle : call.caller ∉ after.waiting)
    (unconnected : call.caller ∉ before.calls.map Call.caller) : after.Sound later := by
  obtain ⟨issuedCallee, newCallee⟩ := brings.callee _ callee
  refine ⟨?_, ?_, ?_, ?_, ?_⟩
  · intro invite member
    exact brings.invites (sound.waiting invite (Multiset.mem_of_le waiting member))
  · rw [calls]
    intro one member
    rcases Multiset.mem_cons.mp member with rfl | old
    · exact caller
    · exact brings.invites (sound.callers one old)
  · rw [calls]
    intro one member
    rcases Multiset.mem_cons.mp member with rfl | old
    · exact issuedCallee
    · exact brings.callees (sound.callees one old)
  · rw [calls, Multiset.map_cons, Multiset.add_cons]
    refine Multiset.nodup_cons.mpr ⟨?_, ?_⟩
    · intro member
      rcases Multiset.mem_add.mp member with inWaiting | inCalls
      · exact idle inWaiting
      · exact unconnected inCalls
    · exact Multiset.nodup_of_le (add_le_add waiting le_rfl) sound.once
  · rw [calls, Multiset.map_cons]
    refine Multiset.nodup_cons.mpr ⟨?_, sound.calleesOnce⟩
    intro member
    obtain ⟨one, old, same⟩ := Multiset.mem_map.mp member
    exact newCallee (same ▸ sound.callees one old)

theorem Deed.Does.sound (does : deed.Does before after) (sound : before.Sound issued)
    (brings : deed.Brings issued later) : after.Sound later := by
  cases deed with
  | nothing =>
    subst does
    exact sound_of_le sound brings.invites brings.callees le_rfl le_rfl
  | refuse invite =>
    subst does
    exact sound_of_le sound brings.invites brings.callees le_rfl le_rfl
  | lose invite =>
    subst does
    exact sound_of_le sound brings.invites brings.callees le_rfl le_rfl
  | keep invite =>
    subst does
    obtain ⟨here, new⟩ := brings.arrives invite rfl
    have callers : invite ∉ before.calls.map Call.caller := by
      intro member
      obtain ⟨call, inCalls, same⟩ := Multiset.mem_map.mp member
      exact new (same ▸ sound.callers call inCalls)
    refine ⟨?_, ?_, ?_, ?_, sound.calleesOnce⟩
    · intro one member
      rcases Multiset.mem_cons.mp member with rfl | old
      · exact here
      · exact brings.invites (sound.waiting one old)
    · exact fun call member => brings.invites (sound.callers call member)
    · exact fun call member => brings.callees (sound.callees call member)
    · rw [Multiset.cons_add]
      refine Multiset.nodup_cons.mpr ⟨?_, sound.once⟩
      intro member
      rcases Multiset.mem_add.mp member with inWaiting | inCalls
      · exact new (sound.waiting invite inWaiting)
      · exact callers inCalls
  | connect call =>
    subst does
    obtain ⟨here, new⟩ := brings.arrives call.caller rfl
    refine sound_of_connected sound brings rfl le_rfl rfl here ?_ ?_
    · exact fun member => new (sound.waiting _ member)
    · intro member
      obtain ⟨one, inCalls, same⟩ := Multiset.mem_map.mp member
      exact new (same ▸ sound.callers one inCalls)
  | resume call =>
    obtain ⟨rest, waited, rfl⟩ := does
    have once := sound.once
    rw [waited, Multiset.cons_add, Multiset.nodup_cons] at once
    have there := sound.waiting call.caller (waited ▸ Multiset.mem_cons_self ..)
    refine sound_of_connected sound brings rfl ?_ rfl (brings.invites there) ?_ ?_
    · exact waited ▸ Multiset.le_cons_self ..
    · exact fun member => once.1 (Multiset.mem_add.mpr (.inl member))
    · exact fun member => once.1 (Multiset.mem_add.mpr (.inr member))
  | refuseWaiting invite =>
    obtain ⟨rest, waited, rfl⟩ := does
    exact sound_of_le sound brings.invites brings.callees (waited ▸ Multiset.le_cons_self ..) le_rfl
  | loseWaiting invite =>
    obtain ⟨rest, waited, rfl⟩ := does
    exact sound_of_le sound brings.invites brings.callees (waited ▸ Multiset.le_cons_self ..) le_rfl
  | reject call =>
    obtain ⟨rest, called, rfl⟩ := does
    exact sound_of_le sound brings.invites brings.callees le_rfl (called ▸ Multiset.le_cons_self ..)
  | misanswer call =>
    obtain ⟨-, rfl⟩ := does
    exact sound_of_le sound brings.invites brings.callees le_rfl le_rfl
  | sweep gone lost =>
    obtain ⟨calls, waiting, called, waited, rfl⟩ := does
    exact sound_of_le sound brings.invites brings.callees (waited ▸ Multiset.le_add_left ..)
      (called ▸ Multiset.le_add_left ..)

/-- The INVITE waits or is the caller of a call. -/
def Book.Tracked (book : Book) (invite : Invite) : Prop :=
  invite ∈ book.waiting ∨ invite ∈ book.calls.map Call.caller

/-- The INVITE was refused, or its call was hung up. -/
def Book.Closed (book : Book) (invite : Invite) : Prop :=
  invite.tid ∈ book.refused ∨ invite.cid ∈ book.hungUp

/-- An INVITE is closed as soon as it is not tracked, and not before. -/
structure Book.Accounts (issued : Issued) (book : Book) : Prop where
  settled : ∀ invite ∈ issued.invites, book.Closed invite ↔ ¬ book.Tracked invite
  refused : ∀ tid ∈ book.refused, ∃ invite ∈ issued.invites, invite.tid = tid
  hungUp : ∀ cid ∈ book.hungUp,
    (∃ invite ∈ issued.invites, invite.cid = cid) ∨ cid ∈ issued.callees

private theorem not_tracked_of_new (sound : before.Sound issued) (new : invite ∉ issued.invites) :
    ¬ before.Tracked invite := by
  rintro (waits | calls)
  · exact new (sound.waiting invite waits)
  · obtain ⟨call, inCalls, rfl⟩ := Multiset.mem_map.mp calls
    exact new (sound.callers call inCalls)

private theorem not_closed_of_new (accounts : before.Accounts issued)
    (brings : deed.Brings issued later) (fresh : later.Fresh) (here : invite ∈ later.invites)
    (new : invite ∉ issued.invites) : ¬ before.Closed invite := by
  rintro (refused | hungUp)
  · obtain ⟨old, there, same⟩ := accounts.refused _ refused
    exact new (fresh.eq_of_tid (brings.invites there) here same ▸ there)
  · rcases accounts.hungUp _ hungUp with ⟨old, there, same⟩ | callee
    · exact new (fresh.eq_of_cid (brings.invites there) here same ▸ there)
    · exact fresh.ne_callee here (brings.callees callee) rfl

/-- What was refused and hung up before is still of INVITEs that were issued. -/
private theorem refused_later (accounts : before.Accounts issued)
    (invites : issued.invites ⊆ later.invites) :
    ∀ tid ∈ before.refused, ∃ one ∈ later.invites, one.tid = tid := by
  intro tid member
  obtain ⟨one, there, same⟩ := accounts.refused tid member
  exact ⟨one, invites there, same⟩

private theorem hungUp_later (accounts : before.Accounts issued)
    (invites : issued.invites ⊆ later.invites) (callees : issued.callees ⊆ later.callees) :
    ∀ cid ∈ before.hungUp, (∃ one ∈ later.invites, one.cid = cid) ∨ cid ∈ later.callees := by
  intro cid member
  rcases accounts.hungUp cid member with ⟨one, there, same⟩ | callee
  · exact .inl ⟨one, invites there, same⟩
  · exact .inr (callees callee)

/-- One INVITE is refused and not tracked any more; the others are as they were. -/
private theorem accounts_of_refused (accounts : before.Accounts issued)
    (brings : deed.Brings issued later) (fresh : later.Fresh)
    (here : invite ∈ later.invites)
    (exact : ∀ one ∈ later.invites, one ≠ invite → one ∈ issued.invites)
    (refused : after.refused = invite.tid ::ₘ before.refused) (hungUp : after.hungUp = before.hungUp)
    (untracked : ¬ after.Tracked invite)
    (others : ∀ one, one ≠ invite → (after.Tracked one ↔ before.Tracked one)) :
    after.Accounts later := by
  refine ⟨?_, ?_, ?_⟩
  · intro one member
    by_cases same : one = invite
    · subst same
      exact ⟨fun _ => untracked, fun _ => .inl (refused ▸ Multiset.mem_cons_self ..)⟩
    · rw [others one same, ← accounts.settled one (exact one member same)]
      have apart : one.tid ≠ invite.tid := fun equal => same (fresh.eq_of_tid member here equal)
      simp [Book.Closed, refused, hungUp, apart]
  · rw [refused]
    intro tid member
    rcases Multiset.mem_cons.mp member with rfl | old
    · exact ⟨invite, here, rfl⟩
    · exact refused_later accounts brings.invites tid old
  · rw [hungUp]
    exact hungUp_later accounts brings.invites brings.callees

/-- Nothing is refused or hung up; an INVITE is tracked as before, or is new and tracked. -/
private theorem accounts_of_tracked (accounts : before.Accounts issued)
    (brings : deed.Brings issued later) (fresh : later.Fresh)
    (refused : after.refused = before.refused) (hungUp : after.hungUp = before.hungUp)
    (old : ∀ one ∈ issued.invites, after.Tracked one ↔ before.Tracked one)
    (new : ∀ one ∈ later.invites, one ∉ issued.invites → after.Tracked one) :
    after.Accounts later := by
  have closed : ∀ one, after.Closed one ↔ before.Closed one := by
    intro one
    simp [Book.Closed, refused, hungUp]
  refine ⟨?_, ?_, ?_⟩
  · intro one member
    rw [closed]
    by_cases there : one ∈ issued.invites
    · rw [old one there]
      exact accounts.settled one there
    · have unclosed := not_closed_of_new accounts brings fresh member there
      simp [unclosed, new one member there]
  · rw [refused]
    exact refused_later accounts brings.invites
  · rw [hungUp]
    exact hungUp_later accounts brings.invites brings.callees

/-- Calls are hung up on both legs: their callers are closed and no longer tracked. -/
private theorem accounts_of_swept {gone calls : Multiset Call} (accounts : before.Accounts issued)
    (sound : before.Sound issued) (fresh : later.Fresh)
    (invites : issued.invites ⊆ later.invites) (callees : issued.callees ⊆ later.callees)
    (exact : later.invites ⊆ issued.invites) (called : before.calls = gone + calls) :
    ({ before with calls := calls, hungUp := before.hungUp + gone.bind Call.legs } :
      Book).Accounts later := by
  have once := sound.once
  rw [called, Multiset.map_add] at once
  have inGone : ∀ call ∈ gone, call ∈ before.calls := by
    intro call member
    rw [called]
    exact Multiset.mem_add.mpr (.inl member)
  refine ⟨?_, ?_, ?_⟩
  · intro one member
    have there := exact member
    have settled := accounts.settled one there
    by_cases caller : one ∈ gone.map Call.caller
    · have untracked : ¬ (one ∈ before.waiting ∨ one ∈ calls.map Call.caller) := by
        rintro (waits | stays)
        · exact Multiset.disjoint_left.mp (Multiset.nodup_add.mp once).2.2 waits
            (Multiset.mem_add.mpr (.inl caller))
        · have callers := (Multiset.nodup_add.mp once).2.1
          exact Multiset.disjoint_left.mp (Multiset.nodup_add.mp callers).2.2 caller stays
      refine ⟨fun _ => untracked, fun _ => .inr ?_⟩
      obtain ⟨call, inCalls, rfl⟩ := Multiset.mem_map.mp caller
      exact Multiset.mem_add.mpr (.inr (Multiset.mem_bind.mpr ⟨call, inCalls, by simp [Call.legs]⟩))
    · have apart : one.cid ∉ gone.bind Call.legs := by
        intro inLegs
        obtain ⟨call, inCalls, leg⟩ := Multiset.mem_bind.mp inLegs
        have there' := inGone call inCalls
        simp only [Call.legs, Multiset.insert_eq_cons, Multiset.mem_cons,
          Multiset.mem_singleton] at leg
        rcases leg with same | same
        · have equal := fresh.eq_of_cid member (invites (sound.callers call there')) same
          exact caller (equal ▸ Multiset.mem_map_of_mem _ inCalls)
        · exact fresh.ne_callee member (callees (sound.callees call there')) same
      simp only [Book.Closed, Book.Tracked, called, Multiset.map_add, Multiset.mem_add, caller,
        false_or] at settled ⊢
      simp only [apart, or_false]
      exact settled
  · exact fun tid member => refused_later accounts invites tid member
  · intro cid member
    rcases Multiset.mem_add.mp member with old | inLegs
    · exact hungUp_later accounts invites callees cid old
    · obtain ⟨call, inCalls, leg⟩ := Multiset.mem_bind.mp inLegs
      have there := inGone call inCalls
      simp only [Call.legs, Multiset.insert_eq_cons, Multiset.mem_cons,
        Multiset.mem_singleton] at leg
      rcases leg with rfl | rfl
      · exact .inl ⟨call.caller, invites (sound.callers call there), rfl⟩
      · exact .inr (callees (sound.callees call there))

/-- A deed that is not faulty keeps every INVITE accounted for. -/
theorem Deed.Does.accounts (does : deed.Does before after) (accounts : before.Accounts issued)
    (sound : before.Sound issued) (brings : deed.Brings issued later) (fresh : later.Fresh)
    (exact : ∀ one ∈ later.invites, one ∈ issued.invites ∨ deed.arrives = some one)
    (faultless : ¬ deed.Faulty) : after.Accounts later := by
  cases deed with
  | nothing =>
    subst does
    refine accounts_of_tracked accounts brings fresh rfl rfl (fun _ _ => Iff.rfl) ?_
    intro one member new
    exact absurd (exact one member) (by simp [new, Deed.arrives])
  | refuse invite =>
    subst does
    obtain ⟨here, new⟩ := brings.arrives invite rfl
    refine accounts_of_refused accounts brings fresh here ?_ rfl rfl
      (fun tracked => not_tracked_of_new sound new tracked) (fun _ _ => Iff.rfl)
    intro one member other
    rcases exact one member with old | arrives
    · exact old
    · exact absurd (Option.some.inj arrives).symm other
  | lose invite => exact absurd trivial faultless
  | keep invite =>
    subst does
    obtain ⟨here, new⟩ := brings.arrives invite rfl
    refine accounts_of_tracked accounts brings fresh rfl rfl ?_ ?_
    · intro one there
      have other : one ≠ invite := fun same => new (same ▸ there)
      simp [Book.Tracked, other]
    · intro one member unknown
      rcases exact one member with old | arrives
      · exact absurd old unknown
      · cases arrives
        simp [Book.Tracked]
  | connect call =>
    subst does
    obtain ⟨here, new⟩ := brings.arrives call.caller rfl
    refine accounts_of_tracked accounts brings fresh rfl rfl ?_ ?_
    · intro one there
      have other : one ≠ call.caller := fun same => new (same ▸ there)
      simp only [Book.Tracked, Multiset.map_cons, Multiset.mem_cons, other, false_or]
    · intro one member unknown
      rcases exact one member with old | arrives
      · exact absurd old unknown
      · cases arrives
        simp [Book.Tracked]
  | resume call =>
    obtain ⟨rest, waited, rfl⟩ := does
    refine accounts_of_tracked accounts brings fresh rfl rfl ?_ ?_
    · intro one there
      simp only [Book.Tracked, waited, Multiset.map_cons, Multiset.mem_cons]
      tauto
    · intro one member new
      exact absurd (exact one member) (by simp [new, Deed.arrives])
  | refuseWaiting invite =>
    obtain ⟨rest, waited, rfl⟩ := does
    have once := sound.once
    rw [waited, Multiset.cons_add, Multiset.nodup_cons] at once
    have there := sound.waiting invite (waited ▸ Multiset.mem_cons_self ..)
    refine accounts_of_refused accounts brings fresh (brings.invites there) ?_ rfl rfl ?_ ?_
    · intro one member _
      exact (exact one member).resolve_right (by simp [Deed.arrives])
    · exact fun tracked => once.1 (Multiset.mem_add.mpr tracked)
    · intro one other
      simp [Book.Tracked, waited, other]
  | loseWaiting invite => exact absurd trivial faultless
  | reject call =>
    obtain ⟨rest, called, rfl⟩ := does
    have once := sound.once
    rw [called, Multiset.map_cons, Multiset.add_cons, Multiset.nodup_cons] at once
    have there := sound.callers call (called ▸ Multiset.mem_cons_self ..)
    refine accounts_of_refused accounts brings fresh (brings.invites there) ?_ rfl rfl ?_ ?_
    · intro one member _
      exact (exact one member).resolve_right (by simp [Deed.arrives])
    · exact fun tracked => once.1 (Multiset.mem_add.mpr tracked)
    · intro one other
      simp only [Book.Tracked, called, Multiset.map_cons, Multiset.mem_cons, other, false_or]
  | misanswer call => exact absurd trivial faultless
  | sweep gone lost =>
    obtain ⟨calls, waiting, called, waited, rfl⟩ := does
    have none : lost = 0 := not_not.mp faultless
    subst none
    rw [zero_add] at waited
    subst waited
    refine accounts_of_swept accounts sound fresh brings.invites brings.callees ?_ called
    intro one member
    exact (exact one member).resolve_right (by simp [Deed.arrives])

/-- No call has the call id on a leg. -/
def Book.Rid (book : Book) (cid : Int) : Prop := ∀ call ∈ book.calls, cid ∉ call.legs

theorem Call.mem_legs : cid ∈ call.legs ↔ cid = call.caller.cid ∨ cid = call.calleeCid := by
  simp [Call.legs]

theorem Book.Sound.legs_nodup (sound : before.Sound issued) (fresh : issued.FreshCids) :
    (before.calls.bind Call.legs).Nodup := by
  have split : before.calls.bind Call.legs =
      (before.calls.map Call.caller).map Invite.cid + before.calls.map Call.calleeCid := by
    have legs : Call.legs = fun call => {call.caller.cid} + {call.calleeCid} := rfl
    rw [legs, Multiset.bind_add, Multiset.bind_singleton, Multiset.bind_singleton,
      Multiset.map_map]
    rfl
  rw [split, Multiset.nodup_add]
  refine ⟨?_, sound.calleesOnce, ?_⟩
  · apply Multiset.Nodup.map_on _ (Multiset.nodup_add.mp sound.once).2.1
    intro one member other member' same
    obtain ⟨call, called, rfl⟩ := Multiset.mem_map.mp member
    obtain ⟨call', called', rfl⟩ := Multiset.mem_map.mp member'
    exact fresh.eq_of_cid (sound.callers call called) (sound.callers call' called') same
  · apply Multiset.disjoint_left.mpr
    intro cid caller callee
    rw [Multiset.map_map] at caller
    obtain ⟨call, called, rfl⟩ := Multiset.mem_map.mp caller
    obtain ⟨call', called', same⟩ := Multiset.mem_map.mp callee
    exact fresh.ne_callee (sound.callers call called) (sound.callees call' called') same.symm

/-- A call that is removed takes the call ids of its legs with it. -/
theorem Book.Sound.rid_of_removed {rest : Multiset Call} (sound : before.Sound issued)
    (fresh : issued.Fresh) (called : before.calls = call ::ₘ rest) (leg : cid ∈ call.legs)
    (calls : after.calls = rest) : after.Rid cid := by
  have once := sound.legs_nodup fresh.freshCids
  rw [called, Multiset.cons_bind, Multiset.nodup_add] at once
  intro one member legs
  rw [calls] at member
  exact Multiset.disjoint_left.mp once.2.2 leg (Multiset.mem_bind.mpr ⟨one, member, legs⟩)

/-- A call id that is gone does not come back with the INVITEs and ids a deed deals with. -/
theorem Deed.Does.rid (does : deed.Does before after) (rid : before.Rid cid)
    (arrives : ∀ invite, deed.arrives = some invite → invite.cid ≠ cid)
    (callee : deed.callee ≠ some cid)
    (resumed : ∀ call, deed = .resume call → call.caller.cid ≠ cid) : after.Rid cid := by
  have fewer : after.calls ≤ before.calls → after.Rid cid :=
    fun calls call member => rid call (Multiset.mem_of_le calls member)
  have added : ∀ call : Call, after.calls = call ::ₘ before.calls → call.caller.cid ≠ cid →
      call.calleeCid ≠ cid → after.Rid cid := by
    intro call calls caller callee one member
    rw [calls] at member
    rcases Multiset.mem_cons.mp member with rfl | old
    · exact fun leg => (Call.mem_legs.mp leg).elim (fun same => caller same.symm)
        (fun same => callee same.symm)
    · exact rid one old
  cases deed with
  | nothing | refuse invite | lose invite | keep invite =>
    subst does
    exact fewer le_rfl
  | connect call =>
    subst does
    exact added call rfl (arrives _ rfl) (fun same => callee (congrArg some same))
  | resume call =>
    obtain ⟨rest, -, rfl⟩ := does
    exact added call rfl (resumed call rfl) (fun same => callee (congrArg some same))
  | refuseWaiting invite =>
    obtain ⟨rest, -, rfl⟩ := does
    exact fewer le_rfl
  | loseWaiting invite =>
    obtain ⟨rest, -, rfl⟩ := does
    exact fewer le_rfl
  | reject call =>
    obtain ⟨rest, called, rfl⟩ := does
    exact fewer (called ▸ Multiset.le_cons_self ..)
  | misanswer call =>
    obtain ⟨-, rfl⟩ := does
    exact fewer le_rfl
  | sweep gone lost =>
    obtain ⟨calls, waiting, called, -, rfl⟩ := does
    exact fewer (called ▸ Multiset.le_add_left ..)

end Gb28181.SipServer
