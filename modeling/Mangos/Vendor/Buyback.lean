import Mangos.Item.Stored

/-!
# Selling to a vendor and buying back

What is sold goes to one of the buyback slots of the player, which are the last of `m_items`.
-/

namespace Mangos

open Framework

inductive SellResult
  | cantFindItem | cantSellItem | cantFindVendor
  deriving DecidableEq

inductive BuyResult
  | cantFindItem | notEnoughMoney
  deriving DecidableEq

/-- What the client is told; a request that is carried out is answered by updates only. -/
inductive VendorReply
  | sellError (msg : SellResult)
  | buyError (msg : BuyResult)
  | equipError (msg : InventoryResult)
  deriving DecidableEq

/-- The fields `PLAYER_FIELD_VENDORBUYBACK_SLOT_1`, `PLAYER_FIELD_BUYBACK_PRICE_1` and
`PLAYER_FIELD_BUYBACK_TIMESTAMP_1` of one slot. -/
structure BuybackField where
  guid : Nat := 0
  price : Nat := 0
  timestamp : Nat := 0
  deriving DecidableEq

/-- The part of a player that the vendor changes. `items` is `m_items` at the buyback slots and
`fields` counts them from zero. -/
structure Customer where
  player : Player
  nextItemGuid : Nat
  items : Nat → Option Item
  fields : Nat → BuybackField
  currentBuybackSlot : Nat
  logintime : Nat

/-- `canInteract` is whether the vendor is found, `now` what `time` returns. -/
structure SellItem where
  canInteract : Bool := true
  itemGuid : Nat
  count : Nat
  now : Nat

structure BuybackItem where
  canInteract : Bool := true
  slot : Nat

inductive VendorRequest
  | sell (req : SellItem)
  | buyback (req : BuybackItem)

def buybackSlots : List Nat := List.range' buybackSlotStart (buybackSlotEnd - buybackSlotStart)

namespace Customer

variable (c : Customer)

def setItem (slot : Nat) (it : Option Item) : Customer :=
  { c with items := Function.update c.items slot it }

def setField (eslot : Nat) (field : BuybackField) : Customer :=
  { c with fields := Function.update c.fields eslot field }

def setPlayer (pl : Player) : Customer := { c with player := pl }

def setInventory (inv : Inventory) : Customer := { c with player.inventory := inv }

def getItemFromBuyBackSlot (slot : Nat) : Option Item :=
  if buybackSlotStart ≤ slot && slot < buybackSlotEnd then c.items slot else none

def removeItemFromBuyBackSlot (slot : Nat) : Customer :=
  if buybackSlotStart ≤ slot && slot < buybackSlotEnd then
    let removed := (c.setItem slot none).setField (slot - buybackSlotStart) {}
    if (removed.items removed.currentBuybackSlot).isSome then
      { removed with currentBuybackSlot := slot }
    else removed
  else c

def oldestSlot : List Nat → (oldestTime oldestSlot : Nat) → Nat
  | [], _, oldest => oldest
  | i :: slots, oldestTime, oldest =>
    match c.items i with
    | none => oldest
    | some _ =>
      let time := (c.fields (i - buybackSlotStart)).timestamp
      if time < oldestTime then oldestSlot slots time i else oldestSlot slots oldestTime oldest

/-- The slot `AddItemToBuyBackSlot` decides on. -/
def slotToFill : Nat :=
  match c.items c.currentBuybackSlot with
  | none => c.currentBuybackSlot
  | some _ => c.oldestSlot buybackSlots.tail (c.fields 0).timestamp buybackSlotStart

def fillSlot (slot : Nat) (it : Item) (now : Nat) : Customer :=
  (c.setItem slot (some it)).setField (slot - buybackSlotStart)
    { guid := it.guid
      price := it.proto.sellPrice * it.count % 2 ^ 32
      timestamp := (((now : Int) - c.logintime + 30 * 3600) % 2 ^ 32).toNat }

def moveToNext : Customer :=
  if c.currentBuybackSlot < buybackSlotEnd - 1 then
    { c with currentBuybackSlot := c.currentBuybackSlot + 1 }
  else c

def addItemToBuyBackSlot (it : Item) (now : Nat) : Customer :=
  ((c.removeItemFromBuyBackSlot c.slotToFill).fillSlot c.slotToFill it now).moveToNext

/-- The checks of `HandleSellItemOpcode`: what is sold, where it is and how many of it. -/
def checkSellItem (req : SellItem) : Except (Option VendorReply) (ItemPos × Item × Nat) :=
  if req.itemGuid = 0 then .error none
  else if !req.canInteract then .error (some (.sellError .cantFindVendor))
  else match c.player.inventory.getItemByGuid req.itemGuid with
    | none => .error (some (.sellError .cantFindItem))
    | some (pos, it) =>
      if c.player.guid ≠ it.ownerGuid then .error (some (.sellError .cantSellItem))
      else if it.isBag && !c.player.inventory.bagIsEmpty pos then
        .error (some (.sellError .cantSellItem))
      else if c.player.lootGuid = it.guid then .error (some (.sellError .cantSellItem))
      else if it.refundable then .error none
      else if it.count < req.count then .error (some (.sellError .cantSellItem))
      else if it.proto.sellPrice = 0 then .error (some (.sellError .cantSellItem))
      else .ok (pos, it, if req.count = 0 then it.count else req.count)

/-- The sold part of the stack at `pos` goes to a buyback slot. -/
def takeSold (tables : ItemTables) (pos : ItemPos) (it : Item) (count now : Nat) :
    Option Customer :=
  if count < it.count then
    (it.cloneItem tables c.nextItemGuid count c.player.guid).map fun newItem =>
      let inv := c.player.inventory.put pos (some { it with count := it.count - count })
      { c.setInventory inv with nextItemGuid := c.nextItemGuid + 1 }.addItemToBuyBackSlot newItem now
  else
    some ((c.setInventory (c.player.inventory.removeItem pos)).addItemToBuyBackSlot it now)

def modifyMoney (d : Int) : Customer :=
  c.setPlayer (c.player.setMoney (Mangos.modifyMoney c.player.money d))

/-- `WorldSession::HandleSellItemOpcode`; the product of two words is a word. -/
def handleSellItem (tables : ItemTables) (req : SellItem) : Customer × Option VendorReply :=
  match c.checkSellItem req with
  | .error reply => (c, reply)
  | .ok (pos, it, count) =>
    match c.takeSold tables pos it count req.now with
    | none => (c, some (.sellError .cantSellItem))
    | some sold => (sold.modifyMoney (it.proto.sellPrice * count % 2 ^ 32 : Nat), none)

/-- The checks of `HandleBuybackItem`: what is bought back, for how much and the places for it. -/
def checkBuybackItem (tables : ItemTables) (accounts : Accounts) (req : BuybackItem) :
    Except VendorReply (Item × Nat × List ItemPosCount) :=
  if !req.canInteract then .error (.sellError .cantFindVendor)
  else match c.getItemFromBuyBackSlot req.slot with
    | none => .error (.buyError .cantFindItem)
    | some it =>
      let price := (c.fields (req.slot - buybackSlotStart)).price
      if c.player.money < price then .error (.buyError .notEnoughMoney)
      else
        let answer := c.player.canStoreItemAnywhere tables accounts it []
        if answer.result = .ok then .ok (it, price, answer.dest)
        else .error (.equipError answer.result)

/-- `Player::StoreItem` of what comes back. -/
def storeItem (tables : ItemTables) (dest : List ItemPosCount) (it : Item) : Customer :=
  let stored := (⟨c.player.inventory, c.nextItemGuid⟩ : Stock).storeItem tables c.player.guid it dest
  { c.setInventory stored.inventory with nextItemGuid := stored.nextItemGuid }

def handleBuybackItem (tables : ItemTables) (accounts : Accounts) (req : BuybackItem) :
    Customer × Option VendorReply :=
  match c.checkBuybackItem tables accounts req with
  | .error reply => (c, some reply)
  | .ok (it, price, dest) =>
    (((c.modifyMoney (-(price : Int))).removeItemFromBuyBackSlot req.slot).storeItem tables dest it, none)

def step (tables : ItemTables) (accounts : Accounts) : VendorRequest → Customer
  | .sell req => (c.handleSellItem tables req).1
  | .buyback req => (c.handleBuybackItem tables accounts req).1

end Customer

end Mangos
