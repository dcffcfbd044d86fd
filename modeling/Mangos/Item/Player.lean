import Mangos.Item.Holding

/-!
# A player as owner of items and money

The part of `Player` that selling, trading and depositing read, with the checks that decide
whether an item may leave its owner.
-/

namespace Mangos

def maxMoneyAmount : Nat := 9999999999

/-- The accounts of the characters (`GetPlayerAccountIdByGUID`), zero where there is no such
character. -/
structure Accounts where
  accountOf : Nat → Nat
  accountOf_zero : accountOf 0 = 0

def Accounts.oneEach : Accounts := ⟨fun guid => guid, rfl⟩

structure Player where
  guid : Nat
  account : Nat
  inventory : Inventory
  money : Nat
  lootGuid : Nat := 0
  inCombat : Bool := false
  inProgressArena : Bool := false
  logingOut : Bool := false

def int64 (x : Int) : Int := Int.bmod x (2 ^ 64)

theorem int64_eq {x : Int} (hlo : -2 ^ 63 ≤ x) (hhi : x < 2 ^ 63) : int64 x = x := by
  refine Int.bmod_eq_of_le_mul_two ?_ ?_ <;> omega

def modifyMoney (money : Nat) (d : Int) : Nat :=
  if d < 0 then if (-d).toNat < money then (money + d).toNat else 0
  else if (money : Int) < (maxMoneyAmount - d) % 2 ^ 64 then (money + d).toNat
  else maxMoneyAmount

theorem modifyMoney_neg {money amount : Nat} (h : amount ≤ money) (hmax : money ≤ maxMoneyAmount) :
    modifyMoney money (-(amount : Int)) = money - amount := by
  unfold modifyMoney
  unfold maxMoneyAmount at *
  split <;> split <;> omega

theorem modifyMoney_pay {money amount : Nat} (hpos : 0 < amount) (h : amount ≤ money) :
    modifyMoney money (-(amount : Int)) = money - amount := by
  unfold modifyMoney
  rw [if_pos (by omega)]
  split <;> omega

theorem modifyMoney_add {money amount : Nat} (h : amount ≤ maxMoneyAmount) :
    modifyMoney money amount = min (money + amount) maxMoneyAmount := by
  unfold modifyMoney
  rw [if_neg (by omega), Int.emod_eq_of_lt (by omega) (by unfold maxMoneyAmount at *; omega)]
  split <;> omega

namespace Player

def setMoney (pl : Player) (value : Nat) : Player := { pl with money := value }

@[simp] theorem setMoney_money (pl : Player) (value : Nat) : (pl.setMoney value).money = value := rfl

def isBindedNotWith (accounts : Accounts) (pl : Player) (it : Item) : Bool :=
  if it.ownerGuid = pl.guid then false
  else if it.bopTradeable && it.allowedLooterGuids.contains pl.guid then false
  else if it.hasGeneratedLoot then true
  else if !it.binded then false
  else if !it.isBoundAccountWide then true
  else accounts.accountOf it.ownerGuid ≠ pl.account

def canUnequipItem (pl : Player) (pos : ItemPos) (swap : Bool) : InventoryResult :=
  if !pos.isEquipmentPos && !pos.isBagPos then .ok
  else match pl.inventory.getItemByPos pos with
    | none => .ok
    | some it =>
      if it.hasTemporaryLoot then .alreadyLooted
      else if !it.proto.canChangeEquipStateInCombat && pl.inCombat then .notInCombat
      else if !it.proto.canChangeEquipStateInCombat && pl.inProgressArena then
        .notDuringArenaMatch
      else if pl.logingOut then .youAreStunned
      else if !swap && it.isBag && !pl.inventory.bagIsEmpty pos then .canOnlyDoWithEmptyBags
      else .ok

/-- `Item::CanBeTraded` for the item `it` at `pos` in the inventory of its owner. -/
def canBeTraded (owner : Player) (pos : ItemPos) (it : Item) (mail trade : Bool) : Bool :=
  if (!mail || !it.isBoundAccountWide) && (it.binded && (!it.bopTradeable || !trade)) then false
  else if it.isBag && (pos.isBagPos || !owner.inventory.bagIsEmpty pos) then false
  else if owner.canUnequipItem pos false ≠ .ok then false
  else if owner.lootGuid = it.guid then false
  else if it.hasGeneratedLoot then false
  else !it.boundByEnchant

theorem canBeTraded_bagIsEmpty {owner : Player} {pos : ItemPos} {it : Item} {mail trade : Bool}
    (hit : owner.inventory.getItemByPos pos = some it)
    (h : owner.canBeTraded pos it mail trade) : owner.inventory.bagIsEmpty pos := by
  by_cases hbag : it.isBag
  · unfold canBeTraded at h
    simp only [hbag, Bool.true_and] at h
    by_contra hfull
    simp [hfull] at h
  · exact Inventory.bagIsEmpty_of_not_isBag hit (by simpa using hbag)

end Player

end Mangos
