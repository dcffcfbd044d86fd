import Mangos.Guild.BankRights

/-!
# The items of a guild bank

A tab of the bank is a row of slots.
-/

namespace Mangos

open Framework

def guildBankMaxSlots : Nat := 98

structure BankPos where
  tab : Nat
  slot : Nat
  deriving DecidableEq, Repr

/-- A member at the bank of his guild, with the guid generator for items. -/
structure BankDesk where
  player : Player
  guild : Guild
  purchasedTabs : Nat
  slots : BankPos → Option Item
  nextItemGuid : Nat

/-- `Player::CanStoreItem` for the item `it`, at the place asked for. -/
def Player.canStoreItemAt (tables : ItemTables) (accounts : Accounts) (pl : Player)
    (place : ItemPos) (it : Item) (swap : Bool) : StoreAnswer :=
  pl.canStoreItem tables accounts
    { bag := place.bag, slot := place.slot, entry := it.entry, count := it.count, pItem := some it, swap } []

namespace BankDesk

variable (tables : ItemTables) (accounts : Accounts) (s : BankDesk)

def positions : List BankPos :=
  (List.range s.purchasedTabs).flatMap fun tab =>
    (List.range guildBankMaxSlots).map fun slot => ⟨tab, slot⟩

def getItem (pos : BankPos) : Option Item :=
  if s.purchasedTabs ≤ pos.tab || guildBankMaxSlots ≤ pos.slot then none else s.slots pos

def setSlot (pos : BankPos) (it : Option Item) : BankDesk :=
  { s with slots := Function.update s.slots pos it }

def setGuild (guild : Guild) : BankDesk := { s with guild }

def setInventory (inventory : Inventory) : BankDesk :=
  { s with player := { s.player with inventory } }

def drawGuid : BankDesk := { s with nextItemGuid := s.nextItemGuid + 1 }

def stock : Stock := ⟨s.player.inventory, s.nextItemGuid⟩

def setStock (stock : Stock) : BankDesk :=
  { s with
    player := { s.player with inventory := stock.inventory }
    nextItemGuid := stock.nextItemGuid }

/-- `Guild::_StoreItem`. What lies in the bank has no owner. -/
def storeAt (pos : BankPos) (it : Item) (count : Nat) (clone : Bool) : BankDesk :=
  match s.slots pos with
  | none =>
    if clone then
      match it.cloneItem tables s.nextItemGuid count 0 with
      | none => s
      | some copy => s.drawGuid.setSlot pos (some copy)
    else s.setSlot pos (some { it with count, ownerGuid := 0 })
  | some it2 => s.setSlot pos (some { it2 with count := it2.count + count })

def storeItem (s : BankDesk) (tab : Nat) (it : Item) : List (Piece Nat) → BankDesk
  | [] => s
  | [p] => s.storeAt tables ⟨tab, p.pos⟩ it p.count false
  | p :: p' :: dest =>
    storeItem (s.storeAt tables ⟨tab, p.pos⟩ it p.count true) tab it (p' :: dest)

def removeItem (pos : BankPos) : BankDesk := s.setSlot pos none

def itemAt (tab : Nat) (it : Item) (slot : Nat) : Option Item :=
  (s.slots ⟨tab, slot⟩).filter fun it2 => it2.guid ≠ it.guid

/-- `Guild::_CanStoreItem_InSpecificSlot`. -/
def canStoreInSpecificSlot (tab slot : Nat) (swap : Bool) (it : Item) (f : Filling Nat) :
    Except InventoryResult (Filling Nat) :=
  let push (space : Nat) := if f.dest.any (·.pos = slot) then f else f.push slot space
  match s.itemAt tab it slot, swap with
  | some it2, false =>
    if it2.entry ≠ it.entry then .error .itemCantStack
    else if it.proto.getMaxStackSize ≤ it2.count then .error .itemCantStack
    else .ok (push (it.proto.getMaxStackSize - it2.count))
  | _, _ => .ok (push it.proto.getMaxStackSize)

def room (tab : Nat) (it : Item) (merge : Bool) (slot : Nat) : Option Nat :=
  match s.itemAt tab it slot with
  | some it2 =>
    if merge && it2.entry = it.entry && it2.count < it.proto.getMaxStackSize then
      some (it.proto.getMaxStackSize - it2.count)
    else none
  | none => if merge then none else some it.proto.getMaxStackSize

/-- `Guild::_CanStoreItem_InTab`. -/
def canStoreInTab (tab : Nat) (merge : Bool) (it : Item) (skipSlot : Nat) (f : Filling Nat) :
    Filling Nat :=
  fill (s.room tab it merge) ((List.range guildBankMaxSlots).filter (· ≠ skipSlot)) f

/-- The part of `Guild::CanStoreItem` that searches the whole tab. -/
def searchTab (tab slot : Nat) (it : Item) (f : Filling Nat) :
    Except InventoryResult (List (Piece Nat)) :=
  let merged := if 1 < it.proto.getMaxStackSize then s.canStoreInTab tab true it slot f else f
  if 1 < it.proto.getMaxStackSize && merged.left = 0 then .ok merged.dest
  else
    let filled := s.canStoreInTab tab false it slot merged
    if filled.left = 0 then .ok filled.dest else .error .bankFull

def canStoreItem (pos : BankPos) (count : Nat) (it : Item) (swap : Bool) :
    Except InventoryResult (List (Piece Nat)) :=
  if it.count < count then .error .couldntSplitItems
  else if it.binded then .error .cantDropSoulbound
  else if pos.slot ≠ nullSlot then
    match s.canStoreInSpecificSlot pos.tab pos.slot swap it ⟨[], count⟩ with
    | .error res => .error res
    | .ok f => if f.left = 0 then .ok f.dest else s.searchTab pos.tab pos.slot it f
  else s.searchTab pos.tab pos.slot it ⟨[], count⟩

def hasRights (tab : Nat) (rights : BitVec 32) : Bool :=
  s.guild.isMemberHaveRights s.player.guid tab rights

def checkWithdraw (curTime tab : Nat) : BankDesk × Bool :=
  let (guild, remRight) := s.guild.getMemberSlotWithdrawRem curTime s.player.guid tab
  (s.setGuild guild, 0 < remRight)

/-- The checks of `Guild::SwapItems` for an item that goes from one tab into another. -/
def checkCrossTab (curTime tab tabDst : Nat) : BankDesk × Bool :=
  if tab = tabDst then (s, true)
  else if !s.hasRights tabDst guildBankRightDepositItem then (s, false)
  else s.checkWithdraw curTime tab

def memberItemWithdraw (curTime tab : Nat) : BankDesk :=
  s.setGuild (s.guild.memberItemWithdraw curTime tab s.player.guid).1

/-- The branch of `Guild::SwapItems` for a part of a stack. -/
def splitWithinBank (src dst : BankPos) (pItemSrc : Item) (splitedAmount : Nat) : BankDesk × Bool :=
  match s.canStoreItem dst splitedAmount pItemSrc false with
  | .error _ => (s, false)
  | .ok dest =>
    match pItemSrc.cloneItem tables s.nextItemGuid splitedAmount 0 with
    | none => (s, false)
    | some pNewItem =>
      let rest := { pItemSrc with count := pItemSrc.count - splitedAmount }
      ((s.drawGuid.setSlot src (some rest)).storeItem tables dst.tab pNewItem dest, true)

/-- The branch of `Guild::SwapItems` for an exchange. -/
def swapWithinBank (curTime : Nat) (src dst : BankPos) (pItemSrc : Item) : BankDesk × Bool :=
  match s.canStoreItem dst pItemSrc.count pItemSrc true with
  | .error _ => (s, false)
  | .ok gDest =>
    match s.getItem dst with
    | none => (s, false) -- not reached: a free slot would have taken the item
    | some pItemDst =>
      match s.canStoreItem src pItemDst.count pItemDst true with
      | .error _ => (s, false)
      | .ok gSrc =>
        let (s, allowed) := s.checkCrossTab curTime dst.tab src.tab
        if !allowed then (s, false)
        else
          ((((s.removeItem src).removeItem dst).storeItem tables src.tab pItemDst
            gSrc).storeItem tables dst.tab pItemSrc gDest, true)

/-- `Guild::SwapItems`, with the answer whether items were moved. -/
def swapItems (curTime : Nat) (src dst : BankPos) (splitedAmount : Nat) : BankDesk × Bool :=
  if src = dst then (s, false)
  else match s.getItem src with
    | none => (s, false)
    | some pItemSrc =>
      if pItemSrc.count < splitedAmount then (s, false)
      else
        let splitedAmount := if splitedAmount = pItemSrc.count then 0 else splitedAmount
        let (s, allowed) := s.checkCrossTab curTime src.tab dst.tab
        if !allowed then (s, false)
        else if splitedAmount ≠ 0 then s.splitWithinBank tables src dst pItemSrc splitedAmount
        else match s.canStoreItem dst pItemSrc.count pItemSrc false with
          | .ok gDest =>
            ((s.removeItem src).storeItem tables dst.tab pItemSrc gDest, true)
          | .error _ => s.swapWithinBank tables curTime src dst pItemSrc

def moveItemToInventory (dest : List ItemPosCount) (it : Item) : BankDesk :=
  s.setStock (s.stock.storeItem tables s.player.guid it dest)

def moveItemFromInventory (place : ItemPos) : BankDesk :=
  s.setInventory (s.player.inventory.removeItem place)

/-- The branch of `Guild::MoveFromBankToChar` for a part of a stack. -/
def splitToChar (curTime : Nat) (pos : BankPos) (place : ItemPos) (pItemBank : Item)
    (splitedAmount : Nat) : BankDesk × Bool :=
  match pItemBank.cloneItem tables s.nextItemGuid splitedAmount 0 with
  | none => (s, false)
  | some pNewItem =>
    let s := s.drawGuid
    let answer := s.player.canStoreItemAt tables accounts place pNewItem false
    if answer.result ≠ .ok then (s, false)
    else
      let (s, allowed) := s.checkWithdraw curTime pos.tab
      if !allowed then (s, false)
      else
        let rest := { pItemBank with count := pItemBank.count - splitedAmount }
        (((s.setSlot pos (some rest)).moveItemToInventory tables answer.dest
          pNewItem).memberItemWithdraw curTime pos.tab, true)

/-- The branch of `Guild::MoveFromBankToChar` for an exchange. -/
def swapToChar (curTime : Nat) (pos : BankPos) (place : ItemPos) (pItemBank : Item) :
    BankDesk × Bool :=
  let pItemChar := s.player.inventory.getItemByPos place
  if !s.hasRights pos.tab guildBankRightDepositItem then (s, false)
  else if pItemChar.any fun it => !s.player.canBeTraded place it false false then (s, false)
  else
    let answer := s.player.canStoreItemAt tables accounts place pItemBank true
    if answer.result ≠ .ok then (s, false)
    else match pItemChar with
      | none =>
        let (s, allowed) := s.checkWithdraw curTime pos.tab
        if !allowed then (s, false)
        else
          (((s.removeItem pos).moveItemToInventory tables answer.dest
            pItemBank).memberItemWithdraw curTime pos.tab, true)
      | some pItemChar =>
        match s.canStoreItem pos pItemChar.count pItemChar true with
        | .error _ => (s, false)
        | .ok gDest =>
          let (s, allowed) := s.checkWithdraw curTime pos.tab
          if !allowed then (s, false)
          else
            (((((s.removeItem pos).moveItemFromInventory place).storeItem tables pos.tab
              pItemChar gDest).moveItemToInventory tables answer.dest
              pItemBank).memberItemWithdraw curTime pos.tab, true)

def moveFromBankToChar (curTime : Nat) (pos : BankPos) (place : ItemPos) (splitedAmount : Nat) :
    BankDesk × Bool :=
  match s.getItem pos with
  | none => (s, false)
  | some pItemBank =>
    if pItemBank.count < splitedAmount then (s, false)
    else
      let splitedAmount := if splitedAmount = pItemBank.count then 0 else splitedAmount
      if splitedAmount ≠ 0 then
        s.splitToChar tables accounts curTime pos place pItemBank splitedAmount
      else
        let answer := s.player.canStoreItemAt tables accounts place pItemBank false
        if answer.result = .ok then
          let (s, allowed) := s.checkWithdraw curTime pos.tab
          if !allowed then (s, false)
          else
            (((s.removeItem pos).moveItemToInventory tables answer.dest
              pItemBank).memberItemWithdraw curTime pos.tab, true)
        else s.swapToChar tables accounts curTime pos place pItemBank

/-- The branch of `Guild::MoveFromCharToBank` for a part of a stack. -/
def splitToBank (place : ItemPos) (pos : BankPos) (pItemChar : Item) (splitedAmount : Nat) :
    BankDesk × Bool :=
  match s.canStoreItem pos splitedAmount pItemChar false with
  | .error _ => (s, false)
  | .ok dest =>
    match pItemChar.cloneItem tables s.nextItemGuid splitedAmount 0 with
    | none => (s, false)
    | some pNewItem =>
      let rest := { pItemChar with count := pItemChar.count - splitedAmount }
      ((s.drawGuid.setInventory (s.player.inventory.put place (some rest))).storeItem tables
        pos.tab pNewItem dest, true)

/-- The branch of `Guild::MoveFromCharToBank` for an exchange, which also takes an item for which there
is nothing in exchange. -/
def swapToBank (curTime : Nat) (place : ItemPos) (pos : BankPos) (pItemChar : Item) :
    BankDesk × Bool :=
  match s.getItem pos with
  | none =>
    match s.canStoreItem pos pItemChar.count pItemChar true with
    | .error _ => (s, false)
    | .ok gDest =>
      ((s.moveItemFromInventory place).storeItem tables pos.tab pItemChar gDest, true)
  | some pItemBank =>
    let answer := s.player.canStoreItemAt tables accounts place pItemBank true
    if answer.result ≠ .ok then (s, false)
    else match s.canStoreItem pos pItemChar.count pItemChar true with
      | .error _ => (s, false)
      | .ok gDest =>
        let (s, allowed) := s.checkWithdraw curTime pos.tab
        if !allowed then (s, false)
        else
          (((((s.moveItemFromInventory place).removeItem pos).storeItem tables pos.tab
            pItemChar gDest).moveItemToInventory tables answer.dest
            pItemBank).memberItemWithdraw curTime pos.tab, true)

def moveFromCharToBank (curTime : Nat) (place : ItemPos) (pos : BankPos) (splitedAmount : Nat) :
    BankDesk × Bool :=
  match s.player.inventory.getItemByPos place with
  | none => (s, false)
  | some pItemChar =>
    if !s.player.canBeTraded place pItemChar false false then (s, false)
    else if !s.hasRights pos.tab guildBankRightDepositItem then (s, false)
    else if pItemChar.count < splitedAmount then (s, false)
    else
      let splitedAmount := if splitedAmount = pItemChar.count then 0 else splitedAmount
      if splitedAmount ≠ 0 then s.splitToBank tables place pos pItemChar splitedAmount
      else match s.canStoreItem pos pItemChar.count pItemChar false with
        | .ok dest =>
          ((s.moveItemFromInventory place).storeItem tables pos.tab pItemChar dest, true)
        | .error _ => s.swapToBank tables accounts curTime place pos pItemChar

end BankDesk

/-- What `CMSG_GUILD_BANK_SWAP_ITEMS` asks for. -/
inductive BankSwapItems
  | bankToBank (dst src : BankPos) (splitedAmount : Nat)
  | autoStore (pos : BankPos)
  | withChar (pos : BankPos) (place : ItemPos) (toChar : Bool) (splitedAmount : Nat)
  deriving DecidableEq, Repr

namespace BankDesk

variable (tables : ItemTables) (accounts : Accounts) (s : BankDesk)

/-- The members who are online see the changed tabs, which renews the days that are over. -/
def display (online : Nat → Bool) (curTime : Nat) (tabs : List Nat) : BankDesk × Bool → BankDesk × Bool
  | (s, false) => (s, false)
  | (s, true) =>
    (s.setGuild (tabs.foldl (fun guild tab =>
      guild.displayGuildBankContentUpdate online curTime tab) s.guild), true)

/-- The cases of `WorldSession::HandleGuildBankSwapItems` for the bank and the inventory. -/
def handleWithChar (canInteract : Bool) (online : Nat → Bool) (curTime : Nat) (pos : BankPos)
    (place : ItemPos) (toChar : Bool) (splitedAmount : Nat) : BankDesk × Bool :=
  if (guildBankMaxSlots ≤ pos.slot && pos.slot ≠ 0xFF) || s.purchasedTabs ≤ pos.tab then (s, false)
  else if !canInteract then (s, false)
  else if !place.isInventoryPos && !(place.bag = nullBag && place.slot = nullSlot) then (s, false)
  else if toChar then
    display online curTime [pos.tab]
      (s.moveFromBankToChar tables accounts curTime pos place splitedAmount)
  else
    display online curTime [pos.tab]
      (s.moveFromCharToBank tables accounts curTime place pos splitedAmount)

/-- `WorldSession::HandleGuildBankSwapItems`, with the answer whether items were moved. `loaded` is
whether the player has a guild whose bank is loaded. -/
def handleGuildBankSwapItems (loaded canInteract : Bool) (online : Nat → Bool) (curTime : Nat)
    (req : BankSwapItems) : BankDesk × Bool :=
  if !loaded then (s, false)
  else match req with
    | .bankToBank dst src splitedAmount =>
      if guildBankMaxSlots ≤ dst.slot || dst = src || s.purchasedTabs ≤ src.tab ||
          s.purchasedTabs ≤ dst.tab then (s, false)
      else if !canInteract then (s, false)
      else
        display online curTime (if src.tab = dst.tab then [src.tab] else [src.tab, dst.tab])
          (s.swapItems tables curTime src dst splitedAmount)
    | .autoStore pos =>
      s.handleWithChar tables accounts canInteract online curTime pos ⟨nullBag, nullSlot⟩ true 0
    | .withChar pos place toChar splitedAmount =>
      s.handleWithChar tables accounts canInteract online curTime pos place toChar splitedAmount

end BankDesk

end Mangos
