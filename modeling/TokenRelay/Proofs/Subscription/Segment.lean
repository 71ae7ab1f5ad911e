import TokenRelay.Proofs.Subscription.Name
import TokenRelay.Proofs.Token.Id
import TokenRelay.Token.ChainData

/-!
# What stands in the names of subscriptions

The pools and events of this service can stand as segments of a name, in whatever spelling
a pool is given, and so can the base; no pool is spelled like the base.
-/

namespace TokenRelay

namespace Pool

theorem delimiter_notMem_of_denotes {digits : List Char} {number : Nat}
    (denotes : Numeral.Denotes digits number) : SubscriptionName.delimiter ∉ digits := by
  intro member
  exact absurd (denotes.allDigits _ member) (by decide)

/-- A spelling of a pool can stand as the pool segment of a name. -/
theorem Spelled.isSegment {chars : List Char} {pool : Pool} (spelled : Spelled chars pool) :
    SubscriptionName.IsSegment chars := by
  cases spelled with
  | fungible denotes _ =>
      refine ⟨List.cons_ne_nil _ _, ?_⟩
      rw [List.mem_cons, not_or]
      exact ⟨by decide, delimiter_notMem_of_denotes denotes⟩
  | nonFungible denotes _ =>
      refine ⟨List.cons_ne_nil _ _, ?_⟩
      rw [List.mem_cons, not_or]
      exact ⟨by decide, delimiter_notMem_of_denotes denotes⟩

/-- No pool is spelled like the base subscription. -/
theorem Spelled.ne_base {text : String} {pool : Pool} (spelled : Spelled text.toList pool) :
    text ≠ SubscriptionName.basePool := by
  rintro rfl
  have base : SubscriptionName.basePool.toList = ['b', 'a', 's', 'e'] := by decide
  rw [base] at spelled
  cases spelled

end Pool

namespace PoolEvent

theorem isSegment_name (kind : PoolEvent) : SubscriptionName.IsSegment kind.name.toList := by
  cases kind <;> exact ⟨by decide, by decide⟩

@[simp]
theorem mem_all (event : PoolEvent) : event ∈ all := by
  cases event <;> decide

/-- No event is named like the base subscription. -/
theorem name_ne_basePool (event : PoolEvent) : event.name ≠ SubscriptionName.basePool := by
  cases event <;> decide

end PoolEvent

namespace SubscriptionName

theorem isSegment_basePool : IsSegment basePool.toList :=
  ⟨by decide, by decide⟩

end SubscriptionName

end TokenRelay
