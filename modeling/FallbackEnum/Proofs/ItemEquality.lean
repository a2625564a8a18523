import FallbackEnum.Proofs.Places
import FallbackEnum.Source

/-!
# Comparing items

Equality of items is decidable, and with it whether an item reads back from its printed form as
it was. So this can be checked by evaluation for each item that there is.
-/

namespace FallbackEnum

namespace Item

instance (item other : Item) : Decidable (item.Alike other) :=
  inferInstanceAs (Decidable (item.unplaced = other.unplaced))

/-- The printed form of the item reads back as the item, up to places and spellings. -/
def ReadsBack (item : Item) : Prop := ∃ again, item.reread? = some again ∧ again.Alike item

instance (item : Item) : Decidable item.ReadsBack :=
  decidable_of_iff (item.reread?.any fun again => again.Alike item) (by
    rw [Option.any_eq_true]
    simp only [decide_eq_true_eq, ReadsBack])

end Item

end FallbackEnum
