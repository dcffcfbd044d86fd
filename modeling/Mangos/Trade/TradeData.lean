import Mangos.Item.CanStore

/-!
# Trade windows

What each of two trading players has put into the trade window.
-/

namespace Mangos

def tradeSlotCount : Nat := 7
def tradeSlotTradedCount : Nat := 6

abbrev TradeSlot := Fin tradeSlotCount

def tradeSlotNontraded : TradeSlot := ⟨6, by decide⟩

def tradedSlots : List TradeSlot :=
  (List.finRange tradeSlotTradedCount).map (Fin.castLE (by decide))

/-- `TradeData`. Zero stands for the empty guid and for no spell. -/
structure TradeData where
  accepted : Bool := false
  money : Nat := 0
  spell : Nat := 0
  spellCastItem : Nat := 0
  items : TradeSlot → Nat := fun _ => 0
  items_distinct : ∀ i j, items i = items j → items i ≠ 0 → i = j := by simp

def TradeData.acceptedMoney (money : Nat) : TradeData where
  accepted := true
  money := money

def TradeData.opened : TradeData where

/-- The windows of the two players, which are opened and closed together. -/
structure TradePair where
  my : TradeData
  his : TradeData

namespace TradeData

def hasItem (data : TradeData) (guid : Nat) : Bool :=
  (List.finRange tradeSlotCount).any fun slot => data.items slot = guid

theorem ne_of_hasItem_eq_false {data : TradeData} {guid : Nat} (h : data.hasItem guid = false)
    (slot : TradeSlot) : data.items slot ≠ guid := by
  intro heq
  have hnot := List.any_eq_false.mp h slot (List.mem_finRange slot)
  exact hnot (by simpa using heq)

/-- `TradeData::GetItem`, with the place of the item. -/
def getItem (data : TradeData) (pl : Player) (slot : TradeSlot) : Option (ItemPos × Item) :=
  if data.items slot = 0 then none else pl.inventory.getItemByGuid (data.items slot)

def offers (data : TradeData) (pl : Player) : List (Option (ItemPos × Item)) :=
  tradedSlots.map (data.getItem pl)

def getSpellCastItem (data : TradeData) (pl : Player) : Option (ItemPos × Item) :=
  if data.spellCastItem = 0 then none else pl.inventory.getItemByGuid data.spellCastItem

def setAccepted (data : TradeData) (state : Bool) : TradeData := { data with accepted := state }

/-- A slot of the window is cleared or gets an item that is in none. -/
def place (data : TradeData) (slot : TradeSlot) (guid : Nat)
    (hnew : guid = 0 ∨ data.hasItem guid = false) : TradeData where
  accepted := data.accepted
  money := data.money
  spell := data.spell
  spellCastItem := data.spellCastItem
  items := Function.update data.items slot guid
  items_distinct := by
    have hother : ∀ i, i ≠ slot → guid ≠ 0 → data.items i ≠ guid := by
      intro i _ hguid
      rcases hnew with hzero | hnot
      · exact absurd hzero hguid
      · exact ne_of_hasItem_eq_false hnot i
    intro i j hij hi
    by_cases hislot : i = slot <;> by_cases hjslot : j = slot
    · exact hislot.trans hjslot.symm
    · simp only [hislot, Function.update_self, Function.update_of_ne hjslot] at hij hi
      exact absurd hij.symm (hother j hjslot hi)
    · simp only [hjslot, Function.update_self, Function.update_of_ne hislot] at hij hi
      exact absurd hij (hother i hislot (hij ▸ hi))
    · simp only [Function.update_of_ne hislot, Function.update_of_ne hjslot] at hij hi
      exact data.items_distinct i j hij hi

end TradeData

namespace TradePair

def swap (pair : TradePair) : TradePair := ⟨pair.his, pair.my⟩

def setSpell (pair : TradePair) (spellId castItem : Nat) : TradePair :=
  if pair.my.spell = spellId ∧ pair.my.spellCastItem = castItem then pair
  else
    ⟨{ pair.my with spell := spellId, spellCastItem := castItem, accepted := false },
      pair.his.setAccepted false⟩

/-- `TradeData::SetItem`. An item put into the slot that is not traded ends the partner's spell on
it, and any change ends the player's own. -/
def setItem (pair : TradePair) (slot : TradeSlot) (guid : Nat)
    (hnew : guid = 0 ∨ pair.my.hasItem guid = false) : TradePair :=
  if pair.my.items slot = guid then pair
  else
    let placed : TradePair :=
      ⟨(pair.my.place slot guid hnew).setAccepted false, pair.his.setAccepted false⟩
    let unspelled := if slot = tradeSlotNontraded then (placed.swap.setSpell 0 0).swap else placed
    unspelled.setSpell 0 0

/-- `TradeData::SetMoney` for a player who has `owned` in all. -/
def setMoney (pair : TradePair) (owned money : Nat) : TradePair :=
  if pair.my.money = money ∨ owned < money then pair
  else ⟨{ pair.my with money, accepted := false }, pair.his.setAccepted false⟩

/-- `WorldSession::HandleSetTradeItemOpcode`; nothing is returned where the trade status
`TRADE_STATUS_TRADE_CANCELED` is sent. -/
def handleSetTradeItem (pair : TradePair) (pl : Player) (tradeSlot : Nat) (pos : ItemPos) :
    Option TradePair :=
  if h : tradeSlot < tradeSlotCount then
    match pl.inventory.getItemByPos pos with
    | none => none
    | some it =>
      if (⟨tradeSlot, h⟩ : TradeSlot) ≠ tradeSlotNontraded && !pl.canBeTraded pos it false true
      then none
      else if hnew : pair.my.hasItem it.guid = false then
        some (pair.setItem ⟨tradeSlot, h⟩ it.guid (.inr hnew))
      else none
  else none

/-- `WorldSession::HandleClearTradeItemOpcode`. -/
def handleClearTradeItem (pair : TradePair) (tradeSlot : Nat) : TradePair :=
  if h : tradeSlot < tradeSlotCount then pair.setItem ⟨tradeSlot, h⟩ 0 (.inl rfl) else pair

end TradePair

/-!
## Accepting a trade

Once both have accepted, the offered items are taken out of the inventories and handed over slot by slot.
-/

open Framework

/-- Two trading players, with the guid generator of the items. `stranded` are the items that the
log reports as taken back by nobody. -/
structure TradeState where
  player : Player
  trader : Player
  trade : Option TradePair
  nextItemGuid : Nat
  stranded : List Item

/-- How an accepted trade ends; where a player is to blame, `partner` says which one. A completed
trade prepares the spells named. -/
inductive TradeOutcome
  | noTrade
  | notEnoughGold (partner : Bool)
  | canceled
  | closeWindow
  | accepted
  | spellRefused (partner : Bool)
  | notFreeTradeSlots (partner : Bool)
  | completed (mySpell hisSpell : Nat)
  deriving DecidableEq, Repr

/-- The spell store and `Spell::CheckCast` of a caster, a spell and its cast item. -/
structure TradeSpells where
  known : Nat → Bool
  checkCast : Player → Nat → Option Item → Bool

/-- `setAcceptTradeMode`: the offered items are marked for `CanStoreItems`. -/
def markInTrade (pl : Player) (offers : List (Option (ItemPos × Item))) : Player :=
  { pl with
    inventory := offers.foldl (fun inv offer =>
      match offer with
      | some (pos, it) => inv.put pos (some { it with inTrade := true })
      | none => inv) pl.inventory }

/-- The offered items leave the inventory (`MoveItemFromInventory`). -/
def removeOffers (pl : Player) (offers : List (Option (ItemPos × Item))) : Player :=
  { pl with
    inventory := offers.foldl (fun inv offer =>
      match offer with
      | some (pos, _) => inv.removeItem pos
      | none => inv) pl.inventory }

def giftsOf (pl : Player) (offers : List (Option (ItemPos × Item))) : List (Option Item) :=
  offers.map (Option.map fun offer => { offer.2 with giftCreator := pl.guid })

namespace TradeState

variable (tables : ItemTables) (accounts : Accounts) (spells : TradeSpells) (s : TradeState)

/-- `MoveItemToInventory` for the player. -/
def toPlayer (it : Option Item) (dest : List ItemPosCount) : TradeState :=
  match it with
  | none => s
  | some it =>
    let stock := Stock.storeItem tables s.player.guid ⟨s.player.inventory, s.nextItemGuid⟩ it dest
    { s with
      player := { s.player with inventory := stock.inventory }
      nextItemGuid := stock.nextItemGuid }

/-- `MoveItemToInventory` for the trader. -/
def toTrader (it : Option Item) (dest : List ItemPosCount) : TradeState :=
  match it with
  | none => s
  | some it =>
    let stock := Stock.storeItem tables s.trader.guid ⟨s.trader.inventory, s.nextItemGuid⟩ it dest
    { s with
      trader := { s.trader with inventory := stock.inventory }
      nextItemGuid := stock.nextItemGuid }

def strand (it : Option Item) : TradeState := { s with stranded := s.stranded ++ it.toList }

/-- `CanStoreItem` for the item of a slot; an empty slot asks for nothing. -/
def canTake (pl : Player) (it : Option Item) (dest : List ItemPosCount) : StoreAnswer :=
  match it with
  | none => ⟨.ok, dest, 0⟩
  | some it => pl.canStoreItemAnywhere tables accounts it dest

/-- One turn of `moveItems`: the items of one slot change hands if both can be stored, else each
goes back. The vectors filled by the first two queries are used again there. -/
def moveItem (s : TradeState) (slot : Option Item × Option Item) : TradeState :=
  let traderAnswer := canTake tables accounts s.trader slot.1 []
  let playerAnswer := canTake tables accounts s.player slot.2 []
  if traderAnswer.result = .ok ∧ playerAnswer.result = .ok then
    (s.toTrader tables slot.1 traderAnswer.dest).toPlayer tables slot.2 playerAnswer.dest
  else
    let myAnswer := canTake tables accounts s.player slot.1 playerAnswer.dest
    let s := if myAnswer.result = .ok then s.toPlayer tables slot.1 myAnswer.dest
      else s.strand slot.1
    let hisAnswer := canTake tables accounts s.trader slot.2 traderAnswer.dest
    if hisAnswer.result = .ok then s.toTrader tables slot.2 hisAnswer.dest else s.strand slot.2

def moveItems (slots : List (Option Item × Option Item)) : TradeState :=
  slots.foldl (moveItem tables accounts) s

/-- The slots handed to `moveItems`. -/
def tradedItems (pair : TradePair) : List (Option Item × Option Item) :=
  (giftsOf s.player (pair.my.offers s.player)).zip (giftsOf s.trader (pair.his.offers s.trader))

def withoutOffers (pair : TradePair) : TradeState :=
  { s with
    player := removeOffers s.player (pair.my.offers s.player)
    trader := removeOffers s.trader (pair.his.offers s.trader) }

def payMoney (myMoney hisMoney : Nat) : TradeState :=
  { s with
    player := { s.player with
      money := modifyMoney (modifyMoney s.player.money (-(myMoney : Int))) hisMoney }
    trader := { s.trader with
      money := modifyMoney (modifyMoney s.trader.money (-(hisMoney : Int))) myMoney } }

def exchange (pair : TradePair) : TradeState :=
  { ((s.withoutOffers pair).moveItems tables accounts (s.tradedItems pair)).payMoney
      pair.my.money pair.his.money with trade := none }

def checkOffer (pair : TradePair) (slot : TradeSlot) : Option TradeOutcome :=
  match pair.my.getItem s.player slot with
  | some (pos, it) =>
    if !s.player.canBeTraded pos it false true then some .canceled
    else if s.trader.isBindedNotWith accounts it then some .closeWindow
    else checkPartner
  | none => checkPartner
where
  checkPartner : Option TradeOutcome :=
    match pair.his.getItem s.trader slot with
    | some (pos, it) => if !s.trader.canBeTraded pos it false true then some .canceled else none
    | none => none

/-- Whether the spell in the window `mine` of `caster` cannot be cast on what `partner` has put
into the slot that is not traded. -/
def refusesSpell (caster partner : Player) (mine his : TradeData) : Bool :=
  mine.spell ≠ 0 && (!spells.known mine.spell || (his.getItem partner tradeSlotNontraded).isNone ||
    (mine.spellCastItem ≠ 0 && (mine.getSpellCastItem caster).isNone) ||
    !spells.checkCast caster mine.spell ((mine.getSpellCastItem caster).map (·.2)))

/-- `WorldSession::HandleAcceptTradeOpcode`. The marks set for `CanStoreItems` are off again after
it. -/
def handleAcceptTrade : TradeState × TradeOutcome :=
  match s.trade with
  | none => (s, .noTrade)
  | some windows =>
    let pair : TradePair := ⟨windows.my.setAccepted true, windows.his⟩
    let close (pair : TradePair) (outcome : TradeOutcome) : TradeState × TradeOutcome :=
      ({ s with trade := some pair }, outcome)
    let takeBack : TradePair := ⟨pair.my.setAccepted false, pair.his.setAccepted false⟩
    if s.player.money < pair.my.money then
      close ⟨pair.my.setAccepted false, pair.his⟩ (.notEnoughGold false)
    else if s.trader.money < pair.his.money then
      close ⟨pair.my, pair.his.setAccepted false⟩ (.notEnoughGold true)
    else match tradedSlots.findSome? (s.checkOffer accounts pair) with
      | some outcome => close pair outcome
      | none =>
        if !pair.his.accepted then close pair .accepted
        else if refusesSpell spells s.player s.trader pair.my pair.his then
          close (pair.setSpell 0 0) (.spellRefused false)
        else if refusesSpell spells s.trader s.player pair.his pair.my then
          close (pair.swap.setSpell 0 0).swap (.spellRefused true)
        else
          let myOffers := pair.my.offers s.player
          let hisOffers := pair.his.offers s.trader
          let items := fun offers : List (Option (ItemPos × Item)) =>
            offers.map (Option.map (·.2))
          if (markInTrade s.player myOffers).canStoreItems accounts (items hisOffers) ≠ .ok then
            close takeBack (.notFreeTradeSlots false)
          else if (markInTrade s.trader hisOffers).canStoreItems accounts (items myOffers) ≠ .ok
          then close takeBack (.notFreeTradeSlots true)
          else (s.exchange tables accounts pair, .completed pair.my.spell pair.his.spell)

end TradeState

end Mangos
