import Mangos.Auction.House
import Mangos.Framework.Run

/-!
# Bids, cancellations and the update tick

The handlers that change posted auctions, the periodic `AuctionHouseObject::Update` and the mails they send.
-/

namespace Mangos

open Framework

inductive AuctionEffect
  | posted (entry : AuctionEntry)
  | bidRecorded (auction player oldBid newBid : Nat)
  | moneyTaken (auction player : Nat) (amount : Int)
  | outbiddedMail (auction player amount : Nat)
  | wonMail (auction player itemGuid : Nat)
  | itemDeleted (auction itemGuid : Nat)
  | successfulMail (auction owner amount : Nat)
  | expiredMail (auction owner itemGuid : Nat)
  | cancelledToBidderMail (auction player amount : Nat)
  | cutTaken (auction owner : Nat) (amount : Int)
  | canceledMail (auction owner itemGuid : Nat)
  deriving DecidableEq, Repr

def AuctionEffect.auction : AuctionEffect → Nat
  | posted entry => entry.id
  | bidRecorded auction _ _ _ => auction
  | moneyTaken auction _ _ => auction
  | outbiddedMail auction _ _ => auction
  | wonMail auction _ _ => auction
  | itemDeleted auction _ => auction
  | successfulMail auction _ _ => auction
  | expiredMail auction _ _ => auction
  | cancelledToBidderMail auction _ _ => auction
  | cutTaken auction _ _ => auction
  | canceledMail auction _ _ => auction

structure AuctionWorld where
  mgr : AuctionHouseMgr
  money : Nat → Nat
  online : Nat → Bool
  log : List AuctionEffect

def uint64 (x : Int) : Nat := (x % 2 ^ 64).toNat

def AuctionEntry.getAuctionOutBid (a : AuctionEntry) : Nat := max 1 (a.bid / 100 * 5)

def AuctionEntry.getAuctionCut (rates : AuctionRates) (a : AuctionEntry) : Nat :=
  rates.cut a.auctionHouse a.bid

/-- The bid `UpdateBid` writes: no more than the buyout. -/
def AuctionEntry.cappedBid (a : AuctionEntry) (newbid : Nat) : Nat :=
  if a.buyout ≠ 0 ∧ a.buyout < newbid then a.buyout else newbid

def AuctionEntry.withBid (a : AuctionEntry) (player newbid : Nat) : AuctionEntry :=
  { a with bidder := player, bid := newbid }

def AuctionEntry.withDelivery (a : AuctionEntry) (deliveryTime : Nat) : AuctionEntry :=
  { a with moneyDeliveryTime := deliveryTime }

namespace AuctionWorld

variable (rates : AuctionRates) (accounts : Accounts)

def emit (w : AuctionWorld) (effect : AuctionEffect) : AuctionWorld :=
  { w with log := w.log ++ [effect] }

/-- The test `player || accId` of the mail functions: the receiver is online or has an account. -/
def receiverExists (w : AuctionWorld) (player : Nat) : Bool :=
  w.online player || accounts.accountOf player ≠ 0

/-- `ModifyMoney` for a payment towards an auction; what left the purse is logged by `effect`. -/
def takeMoney (w : AuctionWorld) (player : Nat) (d : Int) (effect : Int → AuctionEffect) :
    AuctionWorld :=
  let after := modifyMoney (w.money player) d
  { w with
    money := Function.update w.money player after
    log := w.log ++ [effect (w.money player - after)] }

def sendAuctionOutbiddedMail (w : AuctionWorld) (a : AuctionEntry) : AuctionWorld :=
  if w.receiverExists accounts a.bidder then w.emit (.outbiddedMail a.id a.bidder a.bid) else w

def sendAuctionCancelledToBidderMail (w : AuctionWorld) (a : AuctionEntry) : AuctionWorld :=
  if w.receiverExists accounts a.bidder then
    w.emit (.cancelledToBidderMail a.id a.bidder a.bid)
  else w

/-- The item leaves the auction house: `RemoveAItem` and `itemGuidLow = 0`. -/
def releaseItem (w : AuctionWorld) (a : AuctionEntry) : AuctionWorld :=
  { w with mgr := (w.mgr.removeAItem a.itemGuidLow).setAuction { a with itemGuidLow := 0 } }

def sendAuctionWonMail (w : AuctionWorld) (a : AuctionEntry) : AuctionWorld :=
  match w.mgr.getAItem a.itemGuidLow with
  | none => w
  | some it =>
    (w.releaseItem a).emit <|
      if w.receiverExists accounts a.bidder then .wonMail a.id a.bidder it.guid
      else .itemDeleted a.id it.guid

def sendAuctionSuccessfulMail (w : AuctionWorld) (a : AuctionEntry) : AuctionWorld :=
  if w.receiverExists accounts a.owner then
    w.emit (.successfulMail a.id a.owner (uint64 (a.bid + a.deposit - a.getAuctionCut rates)))
  else w

def sendAuctionExpiredMail (w : AuctionWorld) (a : AuctionEntry) : AuctionWorld :=
  match w.mgr.getAItem a.itemGuidLow with
  | none => w
  | some it =>
    (w.releaseItem a).emit <|
      if w.receiverExists accounts a.owner then .expiredMail a.id a.owner it.guid
      else .itemDeleted a.id it.guid

def auctionBidWinning (w : AuctionWorld) (a : AuctionEntry) (now : Nat) : AuctionWorld :=
  let a := a.withDelivery (now + 3600)
  ({ w with mgr := w.mgr.setAuction a } : AuctionWorld).sendAuctionWonMail accounts a

/-- The payments of `UpdateBid`: a bidder raising their own bid pays the difference, another one
pays the bid and the bidder before gets theirs back. -/
def payBid (w : AuctionWorld) (a : AuctionEntry) (newbid newbidder : Nat) : AuctionWorld :=
  if newbidder = a.bidder then
    w.takeMoney newbidder (-int64 (newbid - a.bid)) (.moneyTaken a.id newbidder)
  else
    let w := w.takeMoney newbidder (-int64 newbid) (.moneyTaken a.id newbidder)
    if a.bidder ≠ 0 then w.sendAuctionOutbiddedMail accounts a else w

/-- `AuctionEntry::UpdateBid` for a bid of a player. -/
def updateBid (w : AuctionWorld) (a : AuctionEntry) (newbid newbidder now : Nat) :
    AuctionWorld :=
  let newbid := a.cappedBid newbid
  let w := w.payBid accounts a newbid newbidder
  let a' := a.withBid newbidder newbid
  let w := ({ w with mgr := w.mgr.setAuction a' } : AuctionWorld).emit
    (.bidRecorded a.id newbidder a.bid newbid)
  if newbid < a.buyout ∨ a.buyout = 0 then w else w.auctionBidWinning accounts a' now

/-- The checks of `HandleAuctionPlaceBid`: the auction to bid on, or the answer if there is
one. -/
def checkPlaceBid (w : AuctionWorld) (pl : Nat) (auctioneer : Option AuctionHouseEntry)
    (auctionId price : Nat) : Except (Option AuctionError) AuctionEntry :=
  if auctionId = 0 ∨ price = 0 then .error none
  else match auctioneer with
  | none => .error none
  | some house =>
    match w.mgr.getAuction house auctionId with
    | none => .error (some .bidOwn)
    | some a =>
      if a.owner = pl then .error (some .bidOwn)
      else if !w.online a.owner ∧ accounts.accountOf a.owner = accounts.accountOf pl then
        .error (some .bidOwn)
      else if price ≤ a.bid then .error (some .higherBid)
      else if (price < a.buyout ∨ a.buyout = 0) ∧ price < a.bid + a.getAuctionOutBid then
        .error (some .bidIncrement)
      else if w.money pl < price then .error none
      else if price < a.startbid then .error none
      else .ok a

def handleAuctionPlaceBid (w : AuctionWorld) (pl : Nat) (auctioneer : Option AuctionHouseEntry)
    (auctionId price now : Nat) : AuctionWorld × Option AuctionError :=
  match w.checkPlaceBid accounts pl auctioneer auctionId price with
  | .error answer => (w, answer)
  | .ok a => (w.updateBid accounts a price pl now, some .ok)

def returnItem (w : AuctionWorld) (a : AuctionEntry) (it : Item) : AuctionWorld :=
  ({ w with mgr := (w.mgr.removeAItem a.itemGuidLow).removeAuction a.id } : AuctionWorld).emit
    (.canceledMail a.id a.owner it.guid)

def handleAuctionRemoveItem (w : AuctionWorld) (pl : Nat)
    (auctioneer : Option AuctionHouseEntry) (auctionId : Nat) :
    AuctionWorld × Option AuctionError :=
  match auctioneer.bind (w.mgr.getAuction · auctionId) with
  | none => (w, if auctioneer.isNone then none else some .database)
  | some a =>
    if a.owner ≠ pl then (w, some .database)
    else match w.mgr.getAItem a.itemGuidLow with
    | none => (w, some (.inventory .itemNotFound))
    | some it =>
      if a.bid ≠ 0 then
        let auctionCut := a.getAuctionCut rates
        if w.money pl < auctionCut then (w, none)
        else
          let w := if a.bidder ≠ 0 then w.sendAuctionCancelledToBidderMail accounts a else w
          let w := w.takeMoney pl (-int64 auctionCut) (.cutTaken a.id pl)
          (w.returnItem a it, some .ok)
      else (w.returnItem a it, some .ok)

/-- One turn of the loop of `AuctionHouseObject::Update`. -/
def updateAuction (now : Nat) (w : AuctionWorld) (id : Nat) : AuctionWorld :=
  match w.mgr.auction? id with
  | none => w
  | some a =>
    if a.moneyDeliveryTime ≠ 0 then
      if a.moneyDeliveryTime < now then
        let w := w.sendAuctionSuccessfulMail rates accounts a
        { w with mgr := w.mgr.removeAuction a.id }
      else w
    else if a.expireTime < now then
      if a.bid ≠ 0 then w.auctionBidWinning accounts a now
      else
        let w := w.sendAuctionExpiredMail accounts a
        { w with mgr := w.mgr.removeAuction a.id }
    else w

def update (w : AuctionWorld) (house : AuctionHouseType) (now : Nat) : AuctionWorld :=
  let ids := (w.mgr.auctions.filter (·.auctionHouse.houseType = house)).map (·.id)
  run (updateAuction rates accounts now) w ids

/-- `AddAuction` as `HandleAuctionSellItem` calls it, for an item the auction house does not hold
yet (`AddAItem` asserts this) and a seller who can pay the deposit. -/
def sell (w : AuctionWorld) (pl : Nat) (house : AuctionHouseEntry) (newItem : Item)
    (etime bid buyout deposit now : Nat) : AuctionWorld :=
  if bid = 0 ∨ newItem.guid = 0 ∨ (w.mgr.getAItem newItem.guid).isSome ∨ w.money pl < deposit then w
  else
    ({ w with
        mgr := w.mgr.addAuction rates house newItem etime bid buyout deposit pl now
        money := Function.update w.money pl (modifyMoney (w.money pl) (-int64 deposit)) } :
      AuctionWorld).emit
      (.posted (w.mgr.newAuction rates house newItem etime bid buyout deposit pl now))

end AuctionWorld

inductive AuctionEvent
  | sell (pl : Nat) (house : AuctionHouseEntry) (newItem : Item)
      (etime bid buyout deposit now : Nat)
  | placeBid (pl : Nat) (auctioneer : Option AuctionHouseEntry) (auctionId price now : Nat)
  | removeItem (pl : Nat) (auctioneer : Option AuctionHouseEntry) (auctionId : Nat)
  | update (house : AuctionHouseType) (now : Nat)
  | login (pl : Nat)
  | logout (pl : Nat)
  | earnOrSpend (pl money : Nat)

/-- One event at the auction houses. Handlers run for players who are logged in; a character
with an account can log in, and a purse may change for other reasons. -/
def auctionStep (rates : AuctionRates) (accounts : Accounts) (w : AuctionWorld) :
    AuctionEvent → AuctionWorld
  | .sell pl house newItem etime bid buyout deposit now =>
    if w.online pl then w.sell rates pl house newItem etime bid buyout deposit now else w
  | .placeBid pl auctioneer auctionId price now =>
    if w.online pl then
      (w.handleAuctionPlaceBid accounts pl auctioneer auctionId price now).1
    else w
  | .removeItem pl auctioneer auctionId =>
    if w.online pl then (w.handleAuctionRemoveItem rates accounts pl auctioneer auctionId).1
    else w
  | .update house now => w.update rates accounts house now
  | .login pl =>
    if accounts.accountOf pl ≠ 0 then { w with online := Function.update w.online pl true }
    else w
  | .logout pl => { w with online := Function.update w.online pl false }
  | .earnOrSpend pl money =>
    { w with money := Function.update w.money pl (min money maxMoneyAmount) }

/-- Auction houses without auctions, and players with the given money. -/
def AuctionWorld.initial (money : Nat → Nat) : AuctionWorld where
  mgr := { auctions := [], aitems := [], nextAuctionId := 1 }
  money p := min (money p) maxMoneyAmount
  online _ := false
  log := []

/-- An accepted bid is on an auction that satisfies `Open`. -/
def BidsOn (accounts : Accounts) (Open : AuctionEntry → Prop) (w : AuctionWorld) :
    AuctionEvent → Prop
  | .placeBid pl auctioneer auctionId price _ =>
    ∀ a ∈ (w.checkPlaceBid accounts pl auctioneer auctionId price).toOption, Open a
  | _ => True

instance BidsOn.decidable (accounts : Accounts) (Open : AuctionEntry → Prop)
    [DecidablePred Open] (w : AuctionWorld) : ∀ e, Decidable (BidsOn accounts Open w e)
  | .placeBid pl auctioneer auctionId price _ =>
    inferInstanceAs <| Decidable <|
      ∀ a ∈ (w.checkPlaceBid accounts pl auctioneer auctionId price).toOption, Open a
  | .sell .. | .removeItem .. | .update .. | .login .. | .logout .. | .earnOrSpend .. =>
    instDecidableTrue

end Mangos
