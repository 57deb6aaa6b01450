import Mathlib.Algebra.Order.Group.Multiset
import Mathlib.Data.Multiset.Basic

/-! Blocks of memory that are taken, used and given back, and whether what is done to them goes
well: no block is used or given back that is not held, and none is forgotten. -/

namespace Gb28181.Lib

universe u

inductive Deed (Block : Type u) where
  | take (block : Block)
  | touch (block : Block)
  | drop (block : Block)
  | fault
  deriving DecidableEq

variable {Block : Type u} [DecidableEq Block]

/-- What is held after the deeds, where none of them goes wrong. -/
def ledger : Multiset Block → List (Deed Block) → Option (Multiset Block)
  | held, [] => some held
  | held, .take block :: deeds => ledger (block ::ₘ held) deeds
  | held, .touch block :: deeds => if block ∈ held then ledger held deeds else none
  | held, .drop block :: deeds => if block ∈ held then ledger (held.erase block) deeds else none
  | _, .fault :: _ => none

variable {held kept later rest : Multiset Block} {block : Block}
  {deeds earlier after : List (Deed Block)}

theorem ledger_append :
    ledger held (earlier ++ after) = (ledger held earlier).bind (ledger · after) := by
  induction earlier generalizing held with
  | nil => rfl
  | cons deed earlier ih =>
    cases deed with
    | take block => exact ih
    | touch block =>
      simp only [List.cons_append, ledger]
      split
      · exact ih
      · rfl
    | drop block =>
      simp only [List.cons_append, ledger]
      split
      · exact ih
      · rfl
    | fault => rfl

theorem ledger_trans (first : ledger held earlier = some kept)
    (second : ledger kept after = some later) : ledger held (earlier ++ after) = some later := by
  rw [ledger_append, first]
  exact second

theorem ledger_take : ledger held [.take block] = some (block ::ₘ held) := rfl

theorem ledger_drop : ledger (block ::ₘ held) [.drop block] = some held := by
  rw [ledger, if_pos (Multiset.mem_cons_self block held), Multiset.erase_cons_head, ledger]

/-- Only blocks that are held are used. -/
def Touches (held : Multiset Block) (deed : Deed Block) : Prop :=
  ∃ block ∈ held, deed = .touch block

theorem ledger_touches (touches : ∀ deed ∈ deeds, Touches held deed) :
    ledger held deeds = some held := by
  induction deeds with
  | nil => rfl
  | cons deed deeds ih =>
    obtain ⟨⟨block, here, same⟩, others⟩ := List.forall_mem_cons.mp touches
    rw [same, ledger, if_pos here]
    exact ih others

end Gb28181.Lib
