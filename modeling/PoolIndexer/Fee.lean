import PoolIndexer.Price
import PoolIndexer.Text.Quoted

/-!
The tax on withdrawals: native assets that a withdrawal refunds are taxed up to a cap, token
contracts are exempt.
-/
namespace PoolIndexer

structure FeeParams where
  taxRate : Decimal
  /-- The greatest tax on one asset, in its smallest unit. -/
  taxCap : Int
  deriving DecidableEq, Repr

namespace FeeParams

/-- Parameters from a rate as text. -/
def ofText (rate : String) (taxCap : Int) : Except String FeeParams :=
  match Decimal.parse? rate with
  | some taxRate => .ok { taxRate, taxCap }
  | none => .error ("Invalid tax rate " ++ Quoted.encode rate)

/-- The tax on a refund: what exceeds `refund / (1 + rate)`, and at most the cap. -/
def tax (params : FeeParams) (refund : Decimal) : Except ArithmeticError Decimal := do
  let untaxed ← refund.div ((Decimal.ofInt 1).add params.taxRate)
  let fee := refund.sub untaxed
  let cap := Decimal.ofInt params.taxCap
  return if cap.lt fee then cap else fee

/-- The fee in USDT units of withdrawing a share from a pool. -/
def withdrawalFee (params : FeeParams) (book : PriceBook) (pool : Pool) (share : Int) :
    Except ArithmeticError Int := do
  if pool.totalShare = 0 then return 0
  let ratio ← (Decimal.ofInt share).div (.ofInt pool.totalShare)
  let fees ← (pool.assets.filter (·.info.isNative)).mapM fun asset => do
    return (← params.tax ((Decimal.ofInt asset.amount).mul ratio)).mul
      (book.exactPrice asset.info.denom)
  return (Decimal.sum fees).round

end FeeParams

namespace LiquidityChange

/-- The part of a pool that a withdrawal redeems, made of its own refunds; an asset that is not the
pair's is left out. -/
def redeemed (op : LiquidityChange) (pair : Pair) : Pool :=
  let refunds := [(op.firstDenom, op.firstAmount), (op.secondDenom, op.secondAmount)]
  ⟨refunds.filterMap fun (denom, amount) =>
    (pair.assetInfos.find? (·.denom == denom)).map (⟨·, amount⟩), 1⟩

/-- The operation with its fee: a withdrawal is taxed as the full redemption of what it refunds,
where its pair is known. -/
def taxed (params : FeeParams) (book : PriceBook) (pairs : List Pair) (op : LiquidityChange) :
    Except ArithmeticError LiquidityChange :=
  match op.kind with
  | .provide => .ok op
  | .withdraw =>
    match findByAddress pairs op.pairAddress with
    | some pair => do return { op with fee := ← params.withdrawalFee book (op.redeemed pair) 1 }
    | none => .ok { op with fee := 0 }

end LiquidityChange
end PoolIndexer
