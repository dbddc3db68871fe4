import Mathlib.Tactic.Ring
import CoreApi.Credit.Wallet

/-!
# The statement of a wallet

The totals, the balance and the entries of a wallet come from three case
distinctions over the type of a row. Row by row they say the same, so they agree
wherever the statement is cut off.
-/

namespace CoreApi.Credit.PrismaWalletQueryRepository

variable {fold : Fold}

/-- The totals account for the balance. -/
def Fold.Accounted (fold : Fold) : Prop :=
  fold.balance = fold.totalGranted + fold.totalRefunded - fold.totalSpent

theorem Fold.Accounted.row (accounted : fold.Accounted) (row : CreditEventRow) :
    (fold.row row).Accounted := by
  rcases row with ⟨_, _, _, eventType, version, ⟨amount, reason, reservationId⟩, createdAt⟩
  simp only [Fold.Accounted] at accounted
  simp only [Fold.Accounted, Fold.row, CreditEventMapper.decodePayload]
  split <;> cases reservationId <;> simp only [Fold.close, accounted] <;> ring

theorem Fold.Accounted.rows (accounted : fold.Accounted) (rows : List CreditEventRow) :
    (rows.foldl Fold.row fold).Accounted := by
  induction rows generalizing fold with
  | nil => exact accounted
  | cons row rest ih => exact ih (accounted.row row)

end CoreApi.Credit.PrismaWalletQueryRepository
