import Mangos.Item.Player

/-!
# The auction house

The entries of the three `AuctionsMap`s, kept in one list in the order of their ids, and the items the
auction house holds in `mAitems`.
-/

namespace Mangos

inductive AuctionHouseType
  | alliance | horde | neutral
  deriving DecidableEq, Repr

/-- An auction house, with the map `GetAuctionsMap` picks for it. -/
structure AuctionHouseEntry where
  houseId : Nat
  houseType : AuctionHouseType
  deriving DecidableEq, Repr

structure AuctionEntry where
  id : Nat
  itemGuidLow : Nat
  itemTemplate : Nat
  itemCount : Nat
  itemRandomPropertyId : Int
  owner : Nat
  startbid : Nat
  bid : Nat
  buyout : Nat
  expireTime : Nat
  moneyDeliveryTime : Nat
  bidder : Nat
  deposit : Nat
  auctionHouse : AuctionHouseEntry
  deriving DecidableEq, Repr

inductive AuctionError
  | ok | inventory (reason : InventoryResult) | database | notEnoughMoney | higherBid
  | bidIncrement | bidOwn
  deriving DecidableEq, Repr

/-- The prices of the auction house: `GetAuctionDeposit`, `GetAuctionCut` and the duration
`AddAuction` scales by its rate. -/
structure AuctionRates where
  deposit : AuctionHouseEntry → (etime : Nat) → Item → Nat
  cut : AuctionHouseEntry → (bid : Nat) → Nat
  auctionTime : (etime : Nat) → Nat

structure AuctionHouseMgr where
  auctions : List AuctionEntry
  aitems : List Item
  nextAuctionId : Nat

def minAuctionTime : Nat := 12 * 3600

namespace AuctionHouseMgr

def getAItem (mgr : AuctionHouseMgr) (guidLow : Nat) : Option Item :=
  mgr.aitems.find? (·.guid = guidLow)

def removeAItem (mgr : AuctionHouseMgr) (guidLow : Nat) : AuctionHouseMgr :=
  { mgr with aitems := mgr.aitems.filter (·.guid ≠ guidLow) }

def auction? (mgr : AuctionHouseMgr) (id : Nat) : Option AuctionEntry :=
  mgr.auctions.find? (·.id = id)

/-- `AuctionHouseObject::GetAuction` in the map of `house`. -/
def getAuction (mgr : AuctionHouseMgr) (house : AuctionHouseEntry) (id : Nat) :
    Option AuctionEntry :=
  (mgr.auction? id).filter (·.auctionHouse.houseType = house.houseType)

def setAuction (mgr : AuctionHouseMgr) (a : AuctionEntry) : AuctionHouseMgr :=
  { mgr with auctions := mgr.auctions.map fun b => if b.id = a.id then a else b }

def removeAuction (mgr : AuctionHouseMgr) (id : Nat) : AuctionHouseMgr :=
  { mgr with auctions := mgr.auctions.filter (·.id ≠ id) }

/-- The entry `AuctionHouseObject::AddAuction` makes for `newItem`. -/
def newAuction (rates : AuctionRates) (mgr : AuctionHouseMgr) (house : AuctionHouseEntry)
    (newItem : Item) (etime bid buyout deposit owner now : Nat) : AuctionEntry where
  id := mgr.nextAuctionId
  itemGuidLow := newItem.guid
  itemTemplate := newItem.entry
  itemCount := newItem.count
  itemRandomPropertyId := newItem.randomPropertyId
  owner := owner
  startbid := bid
  bid := 0
  buyout := buyout
  expireTime := now + rates.auctionTime etime
  moneyDeliveryTime := 0
  bidder := 0
  deposit := deposit
  auctionHouse := house

def addAuction (rates : AuctionRates) (mgr : AuctionHouseMgr) (house : AuctionHouseEntry)
    (newItem : Item) (etime bid buyout deposit owner now : Nat) : AuctionHouseMgr where
  auctions := mgr.auctions ++ [newAuction rates mgr house newItem etime bid buyout deposit owner now]
  aitems := mgr.aitems ++ [newItem]
  nextAuctionId := mgr.nextAuctionId + 1

variable {mgr : AuctionHouseMgr}

theorem auction?_id {id : Nat} {a : AuctionEntry} (h : mgr.auction? id = some a) : a.id = id := by
  simpa using List.find?_some h

theorem getAuction_eq_some {house : AuctionHouseEntry} {id : Nat} {a : AuctionEntry}
    (h : mgr.getAuction house id = some a) : mgr.auction? id = some a := by
  unfold getAuction at h
  exact (Option.filter_eq_some_iff.mp h).1

private theorem find?_set (as : List AuctionEntry) (a : AuctionEntry) (id : Nat) :
    (as.map fun b => if b.id = a.id then a else b).find? (·.id = id) =
      (as.find? (·.id = id)).map fun b => if id = a.id then a else b := by
  induction as with
  | nil => rfl
  | cons b as ih =>
    rw [List.map_cons, List.find?_cons, List.find?_cons, ih]
    by_cases hb : b.id = a.id
    · by_cases hid : a.id = id
      · simp [hb, hid]
      · simp [hb, hid]
    · by_cases hid : b.id = id
      · have hne : id ≠ a.id := by omega
        simp [hid, hne]
      · simp [hb, hid]

theorem auction?_setAuction {a b : AuctionEntry} {id : Nat} (hid : a.id = id) (h : mgr.auction? id = some b) (j : Nat) :
    (mgr.setAuction a).auction? j = if j = id then some a else mgr.auction? j := by
  subst hid
  unfold auction? at h ⊢
  rw [setAuction, find?_set]
  by_cases hj : j = a.id
  · subst hj
    simp [h]
  · cases hfind : mgr.auctions.find? (·.id = j) <;> simp [hj]

theorem auction?_setAuction_setAuction {a b c : AuctionEntry} {id : Nat} (ha : a.id = id)
    (hb : b.id = id) (h : mgr.auction? id = some c) (j : Nat) :
    ((mgr.setAuction a).setAuction b).auction? j = if j = id then some b else mgr.auction? j := by
  have hfirst := auction?_setAuction ha h
  rw [auction?_setAuction hb ((hfirst id).trans (if_pos rfl))]
  by_cases hj : j = id
  · rw [if_pos hj, if_pos hj]
  · rw [if_neg hj, if_neg hj, hfirst, if_neg hj]

@[simp] theorem getAItem_setAuction (a : AuctionEntry) (guid : Nat) :
    (mgr.setAuction a).getAItem guid = mgr.getAItem guid := rfl

@[simp] theorem getAItem_removeAuction (id guid : Nat) : (mgr.removeAuction id).getAItem guid = mgr.getAItem guid := rfl

@[simp] theorem auction?_removeAItem (guid id : Nat) : (mgr.removeAItem guid).auction? id = mgr.auction? id := rfl

theorem auction?_removeAuction (id id' : Nat) :
    (mgr.removeAuction id').auction? id = if id = id' then none else mgr.auction? id := by
  unfold auction? removeAuction
  rw [List.find?_filter]
  by_cases hid : id = id'
  · subst hid
    simp only [if_true, List.find?_eq_none]
    intro b _
    by_cases hb : b.id = id <;> simp [hb]
  · simp only [hid, if_false]
    congr 1
    funext b
    by_cases hb : b.id = id <;> simp [hb, hid]

theorem auction?_addAuction (rates : AuctionRates) (house : AuctionHouseEntry) (newItem : Item)
    (etime bid buyout deposit owner now id : Nat) (hfresh : mgr.auction? mgr.nextAuctionId = none) :
    (mgr.addAuction rates house newItem etime bid buyout deposit owner now).auction? id =
      if id = mgr.nextAuctionId then
        some (newAuction rates mgr house newItem etime bid buyout deposit owner now)
      else mgr.auction? id := by
  unfold auction? at hfresh ⊢
  by_cases hid : id = mgr.nextAuctionId
  · subst hid
    simp [addAuction, newAuction, hfresh]
  · have hne : mgr.nextAuctionId ≠ id := Ne.symm hid
    simp [addAuction, newAuction, hid, hne]

theorem getAItem_eq_some {guid : Nat} {it : Item} (h : mgr.getAItem guid = some it) : it.guid = guid := by
  simpa using List.find?_some h

theorem getAItem_removeAItem (guid guid' : Nat) :
    (mgr.removeAItem guid').getAItem guid = if guid = guid' then none else mgr.getAItem guid := by
  unfold getAItem removeAItem
  rw [List.find?_filter]
  by_cases hguid : guid = guid'
  · subst hguid
    simp only [if_true, List.find?_eq_none]
    intro it _
    by_cases hit : it.guid = guid <;> simp [hit]
  · simp only [hguid, if_false]
    congr 1
    funext it
    by_cases hit : it.guid = guid <;> simp [hit, hguid]

theorem getAItem_addAuction (rates : AuctionRates) (house : AuctionHouseEntry) (newItem : Item)
    (etime bid buyout deposit owner now guid : Nat) (hfresh : mgr.getAItem newItem.guid = none) :
    (mgr.addAuction rates house newItem etime bid buyout deposit owner now).getAItem guid =
      if guid = newItem.guid then some newItem else mgr.getAItem guid := by
  unfold getAItem at hfresh ⊢
  by_cases hguid : guid = newItem.guid
  · subst hguid
    simp [addAuction, hfresh]
  · have hne : newItem.guid ≠ guid := Ne.symm hguid
    simp [addAuction, hguid, hne]

end AuctionHouseMgr

/-- How many items of entry `e` the listed auctions offer. -/
def auctionedCount (e : Nat) (auctions : List AuctionEntry) : Nat :=
  (auctions.map fun a => if a.itemTemplate = e then a.itemCount else 0).sum

@[simp] theorem auctionedCount_append (e : Nat) (as bs : List AuctionEntry) :
    auctionedCount e (as ++ bs) = auctionedCount e as + auctionedCount e bs := by
  simp [auctionedCount]

end Mangos
