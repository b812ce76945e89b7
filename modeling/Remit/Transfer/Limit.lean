import Remit.Decimal.Sum
import Remit.Transfer.Basic

/-!
# Transfer ceilings

Two ceilings for transfers to third parties. A beneficiary account may have a limit for each single
transfer (`exceedsBeneficiaryLimit`). A source account may have a cap on what leaves it in one day
(`exceedsDailyLimit`): the cap counts only once something was transferred that day; then an amount
is too much if the cap is reached already, or if the total would go above it.
-/

namespace Remit

/-- Whether an amount is above a positive limit; a missing limit, or one that is not positive, is no
limit. -/
def exceedsBeneficiaryLimit (amount : Decimal) : Option Int → Except Decimal.Signal Bool
  | none => .ok false
  | some limit => if limit ≤ 0 then .ok false else Decimal.lt? (.ofInt limit) amount

/-- Whether an amount is too much for a positive cap, of which a positive amount was used up
before. -/
def exceedsCap (amount consumed : Decimal) (cap : Int) : Except Decimal.Signal Bool := do
  if ← Decimal.le? (.ofInt cap) consumed then return true
  Decimal.lt? (.ofInt cap) (← consumed.sum amount)

/-- Whether the daily ceiling rejects an amount after `consumed` was transferred that day. -/
def exceedsDailyLimit (amount : Decimal) (consumed : Option Decimal) (settings : LimitSettings) :
    Except Decimal.Signal Bool := do
  if !settings.enabled then return false
  match settings.cap, consumed with
  | some cap, some consumed =>
    if cap ≤ 0 then return false
    if ← consumed.le? .zero then return false
    exceedsCap amount consumed cap
  | _, _ => return false

end Remit
