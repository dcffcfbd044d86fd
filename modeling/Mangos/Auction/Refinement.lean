import Mangos.Auction.Bidding
import Mangos.Framework.Trace

/-!
# The life of one auction

What an auction is for, told without the server: it is posted, its bid rises while the bidders before are
paid back, and it ends by being won and settled, by expiring or by being cancelled.
-/

namespace Mangos

open Framework

inductive AuctionPhase
  | unposted
  | active (a : AuctionEntry)
  | won (a : AuctionEntry)
  | closed
  deriving DecidableEq

/-- The payments and the record of a bid of `newbid` by `player`. -/
def bidEffects (a : AuctionEntry) (player newbid : Nat) : List AuctionEffect :=
  if player = a.bidder then
    [.moneyTaken a.id player (newbid - a.bid), .bidRecorded a.id player a.bid newbid]
  else if a.bidder ≠ 0 then
    [.moneyTaken a.id player newbid, .outbiddedMail a.id a.bidder a.bid, .bidRecorded a.id player a.bid newbid]
  else [.moneyTaken a.id player newbid, .bidRecorded a.id player a.bid newbid]

def AuctionEntry.asWon (a : AuctionEntry) (deliveryTime : Nat) : AuctionEntry :=
  { a.withDelivery deliveryTime with itemGuidLow := 0 }

/-- One step in the life of an auction on which bids are placed while `Open` holds. A bid on a won auction changes who
is recorded for what, and sends no item. -/
inductive LifeStep (rates : AuctionRates) (Open : AuctionEntry → Prop) :
    AuctionPhase → List AuctionEffect → AuctionPhase → Prop
  | post (a : AuctionEntry) (hbid : a.bid = 0) (hbidder : a.bidder = 0) :
      LifeStep rates Open .unposted [.posted a] (.active a)
  | raise (a : AuctionEntry) (player newbid : Nat) (hopen : Open a) (hplayer : player ≠ 0)
      (hhigher : a.bid < newbid) (hstart : a.startbid ≤ newbid)
      (hbelow : newbid < a.buyout ∨ a.buyout = 0) :
      LifeStep rates Open (.active a) (bidEffects a player newbid)
        (.active (a.withBid player newbid))
  | buyout (a : AuctionEntry) (player deliveryTime : Nat) (hopen : Open a) (hplayer : player ≠ 0)
      (hhigher : a.bid < a.buyout) :
      LifeStep rates Open (.active a)
        (bidEffects a player a.buyout ++ [.wonMail a.id player a.itemGuidLow])
        (.won ((a.withBid player a.buyout).asWon deliveryTime))
  | raiseWon (a : AuctionEntry) (player newbid : Nat) (hwon : a.moneyDeliveryTime ≠ 0)
      (hopen : Open a) (hplayer : player ≠ 0) (hhigher : a.bid < newbid)
      (hstart : a.startbid ≤ newbid) :
      LifeStep rates Open (.won a) (bidEffects a player newbid) (.won (a.withBid player newbid))
  | buyoutWon (a : AuctionEntry) (player deliveryTime : Nat) (hwon : a.moneyDeliveryTime ≠ 0)
      (hopen : Open a) (hplayer : player ≠ 0) (hhigher : a.bid < a.buyout) :
      LifeStep rates Open (.won a) (bidEffects a player a.buyout)
        (.won ((a.withBid player a.buyout).withDelivery deliveryTime))
  | win (a : AuctionEntry) (deliveryTime : Nat) (hbid : a.bid ≠ 0) :
      LifeStep rates Open (.active a) [.wonMail a.id a.bidder a.itemGuidLow]
        (.won (a.asWon deliveryTime))
  | settle (a : AuctionEntry) :
      LifeStep rates Open (.won a)
        [.successfulMail a.id a.owner (uint64 (a.bid + a.deposit - a.getAuctionCut rates))] .closed
  | expire (a : AuctionEntry) (hbid : a.bid = 0) :
      LifeStep rates Open (.active a) [.expiredMail a.id a.owner a.itemGuidLow] .closed
  | cancelUnbid (a : AuctionEntry) (hbid : a.bid = 0) :
      LifeStep rates Open (.active a) [.canceledMail a.id a.owner a.itemGuidLow] .closed
  | cancel (a : AuctionEntry) (cut : Int) (hbid : a.bid ≠ 0) :
      LifeStep rates Open (.active a)
        [.cancelledToBidderMail a.id a.bidder a.bid, .cutTaken a.id a.owner cut,
          .canceledMail a.id a.owner a.itemGuidLow] .closed

def AuctionEffect.movesItem : AuctionEffect → Bool
  | wonMail .. | itemDeleted .. | expiredMail .. | canceledMail .. => true
  | _ => false

def itemMoves (log : List AuctionEffect) : List AuctionEffect := log.filter (·.movesItem)

@[simp] theorem itemMoves_append (log log' : List AuctionEffect) :
    itemMoves (log ++ log') = itemMoves log ++ itemMoves log' := List.filter_append ..

@[simp] theorem itemMoves_bidEffects (a : AuctionEntry) (player newbid : Nat) :
    itemMoves (bidEffects a player newbid) = [] := by
  unfold bidEffects
  split
  · rfl
  · split <;> rfl

/-- The item of an auction is still to be sent while the auction is active; a won auction has
sent the posted item to its bidder. -/
def ItemSent (log : List AuctionEffect) : AuctionPhase → Prop
  | .unposted => log = []
  | .active a => itemMoves log = [] ∧ ∃ a₀, .posted a₀ ∈ log ∧ a₀.id = a.id ∧ a₀.itemGuidLow = a.itemGuidLow
  | .won a => ∃ a₀, .posted a₀ ∈ log ∧ a₀.id = a.id ∧ itemMoves log = [.wonMail a.id a.bidder a₀.itemGuidLow]
  | .closed => (itemMoves log).length = 1

def NotWon (a : AuctionEntry) : Prop := a.moneyDeliveryTime = 0

instance : DecidablePred NotWon := fun _ => inferInstanceAs (Decidable (_ = _))

theorem LifeStep.itemSent {rates : AuctionRates} {log ms : List AuctionEffect}
    {p q : AuctionPhase} (hlog : ItemSent log p) (h : LifeStep rates NotWon p ms q) : ItemSent (log ++ ms) q := by
  cases h with
  | post _ => exact ⟨by simp [show log = [] from hlog, itemMoves, AuctionEffect.movesItem],
      _, by simp, rfl, rfl⟩
  | raise a player newbid =>
    obtain ⟨hmoves, a₀, hposted, hid, hguid⟩ := hlog
    exact ⟨by simp [hmoves], a₀, by simp [hposted], hid, hguid⟩
  | buyout a player =>
    obtain ⟨hmoves, a₀, hposted, hid, hguid⟩ := hlog
    refine ⟨a₀, by simp [hposted], hid, ?_⟩
    rw [itemMoves_append, itemMoves_append, hmoves, itemMoves_bidEffects, hguid]
    rfl
  | raiseWon a player newbid hwon hopen => exact absurd hopen hwon
  | buyoutWon a player deliveryTime hwon hopen => exact absurd hopen hwon
  | win a =>
    obtain ⟨hmoves, a₀, hposted, hid, hguid⟩ := hlog
    refine ⟨a₀, by simp [hposted], hid, ?_⟩
    rw [itemMoves_append, hmoves, hguid]
    rfl
  | settle a =>
    obtain ⟨a₀, -, -, hmoves⟩ := hlog
    change (itemMoves _).length = 1
    rw [itemMoves_append, hmoves]
    rfl
  | expire a =>
    change (itemMoves _).length = 1
    rw [itemMoves_append, hlog.1]
    rfl
  | cancelUnbid a =>
    change (itemMoves _).length = 1
    rw [itemMoves_append, hlog.1]
    rfl
  | cancel a =>
    change (itemMoves _).length = 1
    rw [itemMoves_append, hlog.1]
    rfl

theorem Trace.of_won {rates : AuctionRates} {a : AuctionEntry} {ls : List AuctionEffect}
    {q : AuctionPhase} (h : Trace (LifeStep rates NotWon) (.won a) ls q) : (q = .won a ∧ ls = []) ∨
      (q = .closed ∧ ∃ amount, ls = [.successfulMail a.id a.owner amount]) := by
  refine h.invariant (fun ls q => (q = .won a ∧ ls = []) ∨
      (q = .closed ∧ ∃ amount, ls = [.successfulMail a.id a.owner amount])) ?_ (.inl ⟨rfl, rfl⟩)
  rintro ls p ms q (⟨rfl, rfl⟩ | ⟨rfl, -⟩) hstep
  · cases hstep with
    | raiseWon _ _ _ hwon hopen => exact absurd hopen hwon
    | buyoutWon _ _ _ hwon hopen => exact absurd hopen hwon
    | settle => exact .inr ⟨rfl, _, rfl⟩
  · cases hstep

/-!
## The auction house follows the lives of its auctions

As long as no bid is accepted on an auction that was bought out, every event moves every auction
by steps of its life.
-/

/-- The phase of auction `id`. -/
def auctionPhase (id : Nat) (w : AuctionWorld) : AuctionPhase :=
  match w.mgr.auction? id with
  | some a => if a.moneyDeliveryTime = 0 then .active a else .won a
  | none => if id ≠ 0 ∧ id < w.mgr.nextAuctionId then .closed else .unposted

/-- What holds of an entry: people exist, an active auction has its item in store and is below its buyout, and a won
one has sent its item away. -/
structure EntryOk (accounts : Accounts) (w : AuctionWorld) (a : AuctionEntry) : Prop where
  owner : accounts.accountOf a.owner ≠ 0
  bidder : a.bidder ≠ 0 → accounts.accountOf a.bidder ≠ 0
  bid_iff : a.bid = 0 ↔ a.bidder = 0
  item : a.moneyDeliveryTime = 0 → a.itemGuidLow ≠ 0 ∧ (w.mgr.getAItem a.itemGuidLow).isSome
  sent : a.moneyDeliveryTime ≠ 0 → a.itemGuidLow = 0
  belowBuyout : a.moneyDeliveryTime = 0 → a.buyout = 0 ∨ a.bid < a.buyout

structure AuctionWF (accounts : Accounts) (w : AuctionWorld) : Prop where
  entry : ∀ id a, w.mgr.auction? id = some a → EntryOk accounts w a ∧ id ≠ 0 ∧ id < w.mgr.nextAuctionId
  next_pos : 0 < w.mgr.nextAuctionId
  items : ∀ id id' a a', w.mgr.auction? id = some a → w.mgr.auction? id' = some a' →
    a.itemGuidLow ≠ 0 → a.itemGuidLow = a'.itemGuidLow → id = id'
  noItem : w.mgr.getAItem 0 = none
  online : ∀ pl, w.online pl → accounts.accountOf pl ≠ 0
  money : ∀ pl, w.money pl ≤ maxMoneyAmount

theorem auctionWF_initial (accounts : Accounts) (money : Nat → Nat) : AuctionWF accounts (.initial money) where
  entry id a h := by simp [AuctionWorld.initial, AuctionHouseMgr.auction?] at h
  next_pos := Nat.one_pos
  items id id' a a' h := by simp [AuctionWorld.initial, AuctionHouseMgr.auction?] at h
  noItem := rfl
  online pl h := by simp [AuctionWorld.initial] at h
  money pl := min_le_right _ _

variable {rates : AuctionRates} {accounts : Accounts} {Open : AuctionEntry → Prop}
  {w w' : AuctionWorld} {id : Nat} {a b : AuctionEntry}

theorem auctionPhase_congr (hview : w'.mgr.auction? id = w.mgr.auction? id)
    (hnext : w'.mgr.nextAuctionId = w.mgr.nextAuctionId) : auctionPhase id w' = auctionPhase id w := by
  unfold auctionPhase
  rw [hview, hnext]

theorem auctionPhase_active (h : w.mgr.auction? id = some a) (hopen : a.moneyDeliveryTime = 0) :
    auctionPhase id w = .active a := by
  simp [auctionPhase, h, hopen]

theorem auctionPhase_won (h : w.mgr.auction? id = some a) (hwon : a.moneyDeliveryTime ≠ 0) :
    auctionPhase id w = .won a := by
  simp [auctionPhase, h, hwon]

theorem auctionPhase_closed (h : w.mgr.auction? id = none) (hid : id ≠ 0 ∧ id < w.mgr.nextAuctionId) :
    auctionPhase id w = .closed := by
  simp [auctionPhase, h, hid]

private theorem AuctionWF.replace (h : AuctionWF accounts w) (ha : w.mgr.auction? id = some a)
    {o : Option AuctionEntry} (hview : ∀ j, w'.mgr.auction? j = if j = id then o else w.mgr.auction? j)
    (hitems : ∀ g, w'.mgr.getAItem g = w.mgr.getAItem g ∨ (g = a.itemGuidLow ∧ w'.mgr.getAItem g = none))
    (hnext : w'.mgr.nextAuctionId = w.mgr.nextAuctionId) (honline : w'.online = w.online)
    (hmoney : ∀ pl, w'.money pl ≤ maxMoneyAmount) (hnew : ∀ a', o = some a' → EntryOk accounts w' a' ∧
      (a'.itemGuidLow = a.itemGuidLow ∨ a'.itemGuidLow = 0)) : AuctionWF accounts w' where
  entry j b hb := by
    rw [hview] at hb
    rw [hnext]
    split at hb
    next hj =>
      subst hj
      exact ⟨(hnew b hb).1, (h.entry _ _ ha).2⟩
    next hj =>
      obtain ⟨hok, hlt⟩ := h.entry j b hb
      refine ⟨{ hok with item := fun hopen => ?_ }, hlt⟩
      obtain ⟨hne, hsome⟩ := hok.item hopen
      rcases hitems b.itemGuidLow with hkept | ⟨heq, -⟩
      · exact ⟨hne, hkept ▸ hsome⟩
      · exact absurd (h.items j id b a hb ha hne heq) hj
  next_pos := hnext ▸ h.next_pos
  items j j' b b' hb hb' hne heq := by
    rw [hview] at hb hb'
    split at hb <;> split at hb'
    next hj hj' => exact hj.trans hj'.symm
    next hj hj' =>
      rcases (hnew b hb).2 with hguid | hguid
      · exact hj.trans (h.items id j' a b' ha hb' (hguid ▸ hne) (hguid.symm.trans heq))
      · exact absurd hguid hne
    next hj hj' =>
      rcases (hnew b' hb').2 with hguid | hguid
      · exact (h.items j id b a hb ha hne (heq.trans hguid)).trans hj'.symm
      · exact absurd (heq.trans hguid) hne
    next => exact h.items j j' b b' hb hb' hne heq
  noItem := by
    rcases hitems 0 with hkept | ⟨-, hgone⟩
    · exact hkept.trans h.noItem
    · exact hgone
  online pl hpl := h.online pl (by rwa [honline] at hpl)
  money := hmoney

private theorem takeMoney_eq {pl amount : Nat} (hle : amount ≤ w.money pl)
    (hmax : w.money pl ≤ maxMoneyAmount) (effect : Int → AuctionEffect) : w.takeMoney pl (-int64 amount) effect =
      { w with
        money := Function.update w.money pl (w.money pl - amount)
        log := w.log ++ [effect amount] } := by
  have hsmall : int64 (amount : Int) = amount := by
    unfold maxMoneyAmount at hmax
    exact int64_eq (by omega) (by omega)
  have hpaid : ((w.money pl : Int) - (w.money pl - amount : Nat)) = amount := by omega
  simp only [AuctionWorld.takeMoney, hsmall, modifyMoney_neg hle hmax, hpaid]

private theorem update_money_le (h : ∀ p, w.money p ≤ maxMoneyAmount) (pl amount : Nat) (p : Nat) :
    Function.update w.money pl (w.money pl - amount) p ≤ maxMoneyAmount := by
  by_cases hp : p = pl
  · subst hp
    simpa using (Nat.sub_le _ _).trans (h p)
  · simpa [hp] using h p

private theorem payBid_spec (h : AuctionWF accounts w) {newbid player : Nat}
    (hbidder : a.bidder ≠ 0 → accounts.accountOf a.bidder ≠ 0) (hle : newbid ≤ w.money player)
    (hhigher : a.bid ≤ newbid) : ∃ money log, (∀ p, money p ≤ maxMoneyAmount) ∧
      w.payBid accounts a newbid player = { w with money, log } ∧
      log ++ [.bidRecorded a.id player a.bid newbid] = w.log ++ bidEffects a player newbid := by
  have hmax := h.money player
  unfold AuctionWorld.payBid bidEffects
  by_cases hown : player = a.bidder
  · have hdiff : ((newbid : Int) - a.bid) = ((newbid - a.bid : Nat) : Int) := by omega
    rw [if_pos hown, if_pos hown, hdiff, takeMoney_eq (by omega) hmax]
    exact ⟨_, _, update_money_le h.money _ _, rfl, by simp⟩
  · rw [if_neg hown, if_neg hown, takeMoney_eq hle hmax]
    by_cases hfirst : a.bidder = 0
    · simp only [hfirst, ne_eq, not_true_eq_false, if_false]
      exact ⟨_, _, update_money_le h.money _ _, rfl, by simp⟩
    · have hexists := hbidder hfirst
      simp only [hfirst, ne_eq, not_false_eq_true, if_true, AuctionWorld.sendAuctionOutbiddedMail,
        AuctionWorld.receiverExists, hexists, decide_true, Bool.or_true, AuctionWorld.emit]
      exact ⟨_, _, update_money_le h.money _ _, rfl, by simp⟩

private theorem auctionBidWinning_spec (ha : w.mgr.auction? a.id = some b)
    (hitem : (w.mgr.getAItem a.itemGuidLow).isSome)
    (hbidder : accounts.accountOf a.bidder ≠ 0) (now : Nat) : ∃ mgr, w.auctionBidWinning accounts a now =
        { w with mgr, log := w.log ++ [.wonMail a.id a.bidder a.itemGuidLow] } ∧ (∀ j, mgr.auction? j =
        if j = a.id then some (a.asWon (now + 3600)) else w.mgr.auction? j) ∧
      (∀ g, mgr.getAItem g = if g = a.itemGuidLow then none else w.mgr.getAItem g) ∧
      mgr.nextAuctionId = w.mgr.nextAuctionId := by
  obtain ⟨it, hit⟩ := Option.isSome_iff_exists.mp hitem
  have hguid := AuctionHouseMgr.getAItem_eq_some hit
  have hit' : w.mgr.getAItem (a.withDelivery (now + 3600)).itemGuidLow = some it := hit
  have hexists : accounts.accountOf (a.withDelivery (now + 3600)).bidder ≠ 0 := hbidder
  simp only [AuctionWorld.auctionBidWinning, AuctionWorld.sendAuctionWonMail,
    AuctionHouseMgr.getAItem_setAuction, hit', AuctionWorld.releaseItem, AuctionWorld.emit,
    AuctionWorld.receiverExists, hexists, ne_eq, not_false_eq_true, decide_true, Bool.or_true, if_true, hguid]
  refine ⟨_, rfl, fun j => ?_, fun g => @AuctionHouseMgr.getAItem_removeAItem w.mgr g a.itemGuidLow, rfl⟩
  exact @AuctionHouseMgr.auction?_setAuction_setAuction w.mgr (a.withDelivery (now + 3600))
    (a.asWon (now + 3600)) b a.id rfl rfl ha j

private theorem kept_or_gone {mgr mgr' : AuctionHouseMgr} {guid : Nat}
    (h : ∀ g, mgr'.getAItem g = if g = guid then none else mgr.getAItem g) (g : Nat) :
    mgr'.getAItem g = mgr.getAItem g ∨ (g = guid ∧ mgr'.getAItem g = none) := by
  by_cases hg : g = guid
  · exact .inr ⟨hg, (h g).trans (if_pos hg)⟩
  · exact .inl ((h g).trans (if_neg hg))

/-- The outcome of an event that touches one auction: the invariant still holds and the event is
part of that auction's life. -/
private def LifeMove (rates : AuctionRates) (accounts : Accounts) (Open : AuctionEntry → Prop)
    (w w' : AuctionWorld) : Prop :=
  AuctionWF accounts w' ∧ Refines (LifeStep rates Open) auctionPhase AuctionWorld.log AuctionEffect.auction w w'

private theorem lifeMove_refl (h : AuctionWF accounts w) : LifeMove rates accounts Open w w :=
  ⟨h, Refines.refl w⟩

private theorem bidEffects_auction (a : AuctionEntry) (player newbid : Nat) :
    ∀ l ∈ bidEffects a player newbid, l.auction = a.id := by
  intro l hl
  unfold bidEffects at hl
  split at hl
  · simp only [List.mem_cons, List.not_mem_nil, or_false] at hl
    rcases hl with rfl | rfl <;> rfl
  · split at hl
    · simp only [List.mem_cons, List.not_mem_nil, or_false] at hl
      rcases hl with rfl | rfl | rfl <;> rfl
    · simp only [List.mem_cons, List.not_mem_nil, or_false] at hl
      rcases hl with rfl | rfl <;> rfl

private theorem lifeMove_of_step (ls : List AuctionEffect) (h : AuctionWF accounts w)
    (ha : w.mgr.auction? id = some a) {o : Option AuctionEntry}
    (hview : ∀ j, w'.mgr.auction? j = if j = id then o else w.mgr.auction? j)
    (hitems : ∀ g, w'.mgr.getAItem g = w.mgr.getAItem g ∨ (g = a.itemGuidLow ∧ w'.mgr.getAItem g = none))
    (hnext : w'.mgr.nextAuctionId = w.mgr.nextAuctionId) (honline : w'.online = w.online)
    (hmoney : ∀ pl, w'.money pl ≤ maxMoneyAmount) (hnew : ∀ a', o = some a' → EntryOk accounts w' a' ∧
      (a'.itemGuidLow = a.itemGuidLow ∨ a'.itemGuidLow = 0))
    (hlog : w'.log = w.log ++ ls) (howner : ∀ l ∈ ls, l.auction = id)
    (hlife : LifeStep rates Open (auctionPhase id w) ls (auctionPhase id w')) : LifeMove rates accounts Open w w' := by
  refine ⟨h.replace ha hview hitems hnext honline hmoney hnew, Refines.single hlog howner hlife fun j hj => ?_⟩
  exact auctionPhase_congr ((hview j).trans (if_neg hj)) hnext

private theorem lifeMove_winning (w' : AuctionWorld) (b : AuctionEntry) (ls : List AuctionEffect)
    (h : AuctionWF accounts w) (ha : w.mgr.auction? id = some a) (hactive : a.moneyDeliveryTime = 0) (hb : b.id = id)
    (hview : ∀ j, w'.mgr.auction? j = if j = id then some b else w.mgr.auction? j)
    (hitems : ∀ g, w'.mgr.getAItem g = w.mgr.getAItem g)
    (hnext : w'.mgr.nextAuctionId = w.mgr.nextAuctionId) (honline : w'.online = w.online)
    (hmoney : ∀ pl, w'.money pl ≤ maxMoneyAmount) (hguid : b.itemGuidLow = a.itemGuidLow)
    (howner : accounts.accountOf b.owner ≠ 0) (hbidder : accounts.accountOf b.bidder ≠ 0)
    (hbid : b.bid ≠ 0) (hlog : w'.log = w.log ++ ls) (hls : ∀ l ∈ ls, l.auction = id) (now : Nat)
    (hlife : LifeStep rates Open (.active a) (ls ++ [.wonMail b.id b.bidder b.itemGuidLow])
      (.won (b.asWon (now + 3600)))) : LifeMove rates accounts Open w (w'.auctionBidWinning accounts b now) := by
  subst hb
  have hitem : (w'.mgr.getAItem b.itemGuidLow).isSome := by
    rw [hitems, hguid]
    exact ((h.entry _ a ha).1.item hactive).2
  obtain ⟨mgr, hwon, hview', hitems', hnext'⟩ :=
    auctionBidWinning_spec ((hview b.id).trans (if_pos rfl)) hitem hbidder now
  have hview'' : ∀ j, mgr.auction? j =
      if j = b.id then some (b.asWon (now + 3600)) else w.mgr.auction? j := by
    intro j
    rw [hview' j]
    by_cases hj : j = b.id
    · rw [if_pos hj, if_pos hj]
    · rw [if_neg hj, if_neg hj, hview j, if_neg hj]
  have hne : b.bidder ≠ 0 := by
    intro hzero
    exact hbidder (hzero ▸ accounts.accountOf_zero)
  rw [hwon]
  refine lifeMove_of_step (ls ++ [.wonMail b.id b.bidder b.itemGuidLow]) h ha hview'' ?_
    (hnext'.trans hnext) honline hmoney ?_ ?_ ?_ ?_
  · intro g
    rcases kept_or_gone hitems' g with hkept | ⟨heq, hgone⟩
    · exact .inl (hkept.trans (hitems g))
    · exact .inr ⟨heq.trans hguid, hgone⟩
  · rintro a' ⟨⟩
    refine ⟨⟨howner, fun _ => hbidder, ?_, ?_, fun _ => rfl, ?_⟩, .inr rfl⟩
    · change b.bid = 0 ↔ b.bidder = 0
      exact ⟨fun hz => absurd hz hbid, fun hz => absurd hz hne⟩
    · intro hzero
      exact absurd hzero (Nat.succ_ne_zero _)
    · intro hzero
      exact absurd hzero (Nat.succ_ne_zero _)
  · rw [hlog, List.append_assoc]
  · intro l hl
    rcases List.mem_append.mp hl with hl | hl
    · exact hls l hl
    · rw [List.mem_singleton.mp hl]
      rfl
  · rw [auctionPhase_active ha hactive, auctionPhase_won (a := b.asWon (now + 3600)) ((hview'' b.id).trans (if_pos rfl))
        (Nat.succ_ne_zero _)]
    exact hlife

private theorem auctionBidWinning_again (hnoItem : w.mgr.getAItem 0 = none)
    (hsent : a.itemGuidLow = 0) (now : Nat) : w.auctionBidWinning accounts a now =
      { w with mgr := w.mgr.setAuction (a.withDelivery (now + 3600)) } := by
  have hnone : w.mgr.getAItem (a.withDelivery (now + 3600)).itemGuidLow = none :=
    hsent ▸ hnoItem
  simp only [AuctionWorld.auctionBidWinning, AuctionWorld.sendAuctionWonMail,
    AuctionHouseMgr.getAItem_setAuction, hnone]

private theorem cappedBid_cases (a : AuctionEntry) (price : Nat) :
    (a.cappedBid price = price ∧ (price < a.buyout ∨ a.buyout = 0)) ∨
      (a.cappedBid price = a.buyout ∧ a.buyout ≠ 0 ∧ a.buyout ≤ price) := by
  unfold AuctionEntry.cappedBid
  split
  · exact .inr ⟨rfl, by omega, by omega⟩
  next hfree =>
    by_cases heq : price = a.buyout
    · by_cases hzero : a.buyout = 0
      · exact .inl ⟨rfl, .inr hzero⟩
      · exact .inr ⟨heq, hzero, heq.ge⟩
    · exact .inl ⟨rfl, by omega⟩

private theorem lifeMove_updateBid (h : AuctionWF accounts w) (ha : w.mgr.auction? id = some a)
    (hopen : Open a) (hbelow : a.buyout = 0 ∨ a.bid < a.buyout) {price player : Nat}
    (hplayer : accounts.accountOf player ≠ 0) (hhigher : a.bid < price)
    (hstart : a.startbid ≤ price) (hmoney : price ≤ w.money player) (now : Nat) :
    LifeMove rates accounts Open w (w.updateBid accounts a price player now) := by
  have hid := AuctionHouseMgr.auction?_id ha
  subst hid
  have hok := (h.entry _ a ha).1
  have hne : player ≠ 0 := by
    rintro rfl
    exact hplayer accounts.accountOf_zero
  have hset : ∀ b : AuctionEntry, b.id = a.id → ∀ j, (w.mgr.setAuction b).auction? j =
      if j = a.id then some b else w.mgr.auction? j :=
    fun b hb => AuctionHouseMgr.auction?_setAuction hb ha
  rcases cappedBid_cases a price with ⟨hcap, hfree⟩ | ⟨hcap, hbuyout, hreached⟩
  · obtain ⟨money, log, hmax, hpay, hlog⟩ := payBid_spec h hok.bidder hmoney hhigher.le
    simp only [AuctionWorld.updateBid, hcap, hpay, AuctionWorld.emit, hfree, if_true]
    refine lifeMove_of_step _ h ha (hset (a.withBid player price) rfl) (fun _ => .inl rfl) rfl rfl
      hmax ?_ hlog (bidEffects_auction a player price) ?_
    · rintro a' ⟨⟩
      refine ⟨⟨hok.owner, fun _ => hplayer, ?_, hok.item, hok.sent, fun _ => ?_⟩, .inl rfl⟩
      · change price = 0 ↔ player = 0
        omega
      · change a.buyout = 0 ∨ price < a.buyout
        omega
    · by_cases hactive : a.moneyDeliveryTime = 0
      · rw [auctionPhase_active ha hactive, auctionPhase_active (a := a.withBid player price)
          ((hset (a.withBid player price) rfl a.id).trans (if_pos rfl)) hactive]
        exact .raise a player price hopen hne hhigher hstart hfree
      · rw [auctionPhase_won ha hactive, auctionPhase_won (a := a.withBid player price)
          ((hset (a.withBid player price) rfl a.id).trans (if_pos rfl)) hactive]
        exact .raiseWon a player price hactive hopen hne hhigher hstart
  · have hhigher' : a.bid < a.buyout := hbelow.resolve_left hbuyout
    have hnotBelow : ¬ (a.buyout < a.buyout ∨ a.buyout = 0) := by omega
    obtain ⟨money, log, hmax, hpay, hlog⟩ := payBid_spec h hok.bidder (hreached.trans hmoney)
      hhigher'.le
    simp only [AuctionWorld.updateBid, hcap, hpay, AuctionWorld.emit, hnotBelow, if_false]
    by_cases hactive : a.moneyDeliveryTime = 0
    · exact lifeMove_winning
        { w with
          money
          mgr := w.mgr.setAuction (a.withBid player a.buyout)
          log := log ++ [.bidRecorded a.id player a.bid a.buyout] }
        (a.withBid player a.buyout) (bidEffects a player a.buyout)
        h ha hactive rfl (hset (a.withBid player a.buyout) rfl) (fun _ => rfl) rfl rfl hmax rfl
        hok.owner hplayer (Nat.ne_zero_of_lt hhigher') hlog (bidEffects_auction a player a.buyout) now
        (.buyout a player (now + 3600) hopen hne hhigher')
    · rw [auctionBidWinning_again (a := a.withBid player a.buyout)
        (w := { w with
          money
          mgr := w.mgr.setAuction (a.withBid player a.buyout)
          log := log ++ [.bidRecorded a.id player a.bid a.buyout] })
        h.noItem (hok.sent hactive)]
      have hview := AuctionHouseMgr.auction?_setAuction_setAuction (a := a.withBid player a.buyout)
        (b := (a.withBid player a.buyout).withDelivery (now + 3600)) rfl rfl ha
      refine lifeMove_of_step _ h ha hview (fun _ => .inl rfl) rfl rfl hmax ?_ hlog
        (bidEffects_auction a player a.buyout) ?_
      · rintro a' ⟨⟩
        refine ⟨⟨hok.owner, fun _ => hplayer, ?_, fun hz => absurd hz (Nat.succ_ne_zero _),
          fun _ => hok.sent hactive, fun hz => absurd hz (Nat.succ_ne_zero _)⟩, .inl rfl⟩
        change a.buyout = 0 ↔ player = 0
        omega
      · rw [auctionPhase_won ha hactive, auctionPhase_won
          (a := (a.withBid player a.buyout).withDelivery (now + 3600))
          ((hview a.id).trans (if_pos rfl)) (Nat.succ_ne_zero _)]
        exact .buyoutWon a player (now + 3600) hactive hopen hne hhigher'

private theorem lifeMove_removed (ls : List AuctionEffect) (h : AuctionWF accounts w)
    (ha : w.mgr.auction? id = some a) (hview : ∀ j, w'.mgr.auction? j = if j = id then none else w.mgr.auction? j)
    (hitems : ∀ g, w'.mgr.getAItem g = w.mgr.getAItem g ∨ (g = a.itemGuidLow ∧ w'.mgr.getAItem g = none))
    (hnext : w'.mgr.nextAuctionId = w.mgr.nextAuctionId) (honline : w'.online = w.online)
    (hmoney : ∀ pl, w'.money pl ≤ maxMoneyAmount) (hlog : w'.log = w.log ++ ls)
    (howner : ∀ l ∈ ls, l.auction = id) (hlife : LifeStep rates Open (auctionPhase id w) ls .closed) :
    LifeMove rates accounts Open w w' := by
  refine lifeMove_of_step _ h ha hview hitems hnext honline hmoney (by simp) hlog howner ?_
  rw [auctionPhase_closed ((hview id).trans (if_pos rfl)) (hnext ▸ (h.entry _ a ha).2)]
  exact hlife

private theorem lifeMove_updateAuction (h : AuctionWF accounts w) (now id : Nat) :
    LifeMove rates accounts Open w (w.updateAuction rates accounts now id) := by
  unfold AuctionWorld.updateAuction
  split
  · exact lifeMove_refl h
  next a ha =>
    have hid := AuctionHouseMgr.auction?_id ha
    subst hid
    have hok := (h.entry _ a ha).1
    by_cases hactive : a.moneyDeliveryTime = 0
    · rw [if_neg (not_not.mpr hactive)]
      obtain ⟨hne, hsome⟩ := hok.item hactive
      obtain ⟨it, hit⟩ := Option.isSome_iff_exists.mp hsome
      have hguid := AuctionHouseMgr.getAItem_eq_some hit
      by_cases hexpired : a.expireTime < now
      · rw [if_pos hexpired]
        by_cases hbid : a.bid = 0
        · -- nobody bid, so the item goes back to its owner
          rw [if_neg (not_not.mpr hbid)]
          simp only [AuctionWorld.sendAuctionExpiredMail, hit, AuctionWorld.releaseItem,
            AuctionWorld.emit, AuctionWorld.receiverExists, hok.owner, ne_eq, not_false_eq_true,
            decide_true, Bool.or_true, if_true, hguid]
          refine lifeMove_removed _ h ha (fun j => ?_)
            (kept_or_gone (AuctionHouseMgr.getAItem_removeAItem · a.itemGuidLow)) rfl rfl h.money
            rfl (by simp [AuctionEffect.auction]) ?_
          · have hset := @AuctionHouseMgr.auction?_setAuction _ { a with itemGuidLow := 0 } a a.id
              rfl ((AuctionHouseMgr.auction?_removeAItem a.itemGuidLow a.id).trans ha) j
            rw [AuctionHouseMgr.auction?_removeAuction]
            by_cases hj : j = a.id
            · rw [if_pos hj, if_pos hj]
            · rw [if_neg hj, if_neg hj]
              exact hset.trans (if_neg hj)
          · rw [auctionPhase_active ha hactive]
            exact .expire a hbid
        · rw [if_pos hbid]
          have hbidder : a.bidder ≠ 0 := fun hz => hbid (hok.bid_iff.mpr hz)
          refine lifeMove_winning w a [] h ha hactive rfl (fun j => ?_)
            (fun _ => rfl) rfl rfl h.money rfl hok.owner (hok.bidder hbidder) hbid (by simp)
            (by simp) now (.win a (now + 3600) hbid)
          by_cases hj : j = a.id
          · rw [if_pos hj, hj, ha]
          · rw [if_neg hj]
      · rw [if_neg hexpired]
        exact lifeMove_refl h
    · rw [if_pos hactive]
      by_cases hdelivery : a.moneyDeliveryTime < now
      · rw [if_pos hdelivery]
        simp only [AuctionWorld.sendAuctionSuccessfulMail, AuctionWorld.receiverExists, hok.owner,
          ne_eq, not_false_eq_true, decide_true, Bool.or_true, if_true, AuctionWorld.emit]
        refine lifeMove_removed _ h ha (AuctionHouseMgr.auction?_removeAuction · a.id)
          (fun _ => .inl rfl) rfl rfl h.money rfl (by simp [AuctionEffect.auction]) ?_
        rw [auctionPhase_won ha hactive]
        exact .settle a
      · rw [if_neg hdelivery]
        exact lifeMove_refl h

private theorem lifeMove_removeItem (h : AuctionWF accounts w) (pl : Nat)
    (auctioneer : Option AuctionHouseEntry) (auctionId : Nat) : LifeMove rates accounts Open w
      (w.handleAuctionRemoveItem rates accounts pl auctioneer auctionId).1 := by
  unfold AuctionWorld.handleAuctionRemoveItem
  split
  · exact lifeMove_refl h
  next a hget =>
    obtain ⟨house, -, hget⟩ := Option.bind_eq_some_iff.mp hget
    have ha := AuctionHouseMgr.getAuction_eq_some hget
    have hid := AuctionHouseMgr.auction?_id ha
    subst hid
    have hok := (h.entry _ a ha).1
    by_cases hown : a.owner = pl
    swap
    · rw [if_pos hown]
      exact lifeMove_refl h
    subst hown
    rw [if_neg (not_not.mpr rfl)]
    split
    · exact lifeMove_refl h
    next it hit =>
      have hguid := AuctionHouseMgr.getAItem_eq_some hit
      -- an auction whose item is in store has not been won
      have hactive : a.moneyDeliveryTime = 0 := by
        by_contra hwon
        rw [hok.sent hwon, h.noItem] at hit
        cases hit
      have hview : ∀ j, ((w.mgr.removeAItem a.itemGuidLow).removeAuction a.id).auction? j =
          if j = a.id then none else w.mgr.auction? j :=
        fun j => @AuctionHouseMgr.auction?_removeAuction (w.mgr.removeAItem _) j a.id
      have hitems := @kept_or_gone w.mgr
        ((w.mgr.removeAItem a.itemGuidLow).removeAuction a.id) a.itemGuidLow
        (AuctionHouseMgr.getAItem_removeAItem · a.itemGuidLow)
      by_cases hbid : a.bid = 0
      · rw [if_neg (not_not.mpr hbid)]
        refine lifeMove_removed _ h ha hview hitems rfl rfl h.money rfl
          (by simp [AuctionEffect.auction]) ?_
        rw [auctionPhase_active ha hactive, hguid]
        exact .cancelUnbid a hbid
      · rw [if_pos hbid]
        dsimp only
        split
        · exact lifeMove_refl h
        next hafford =>
          have hbidder : a.bidder ≠ 0 := fun hz => hbid (hok.bid_iff.mpr hz)
          simp only [hbidder, AuctionWorld.sendAuctionCancelledToBidderMail,
            AuctionWorld.receiverExists, hok.bidder hbidder, ne_eq, not_false_eq_true, decide_true,
            Bool.or_true, if_true, AuctionWorld.emit]
          rw [takeMoney_eq
            (w := { w with log := w.log ++ [.cancelledToBidderMail a.id a.bidder a.bid] })
            (by simpa using hafford) (h.money a.owner)]
          refine lifeMove_removed [.cancelledToBidderMail a.id a.bidder a.bid,
              .cutTaken a.id a.owner (a.getAuctionCut rates), .canceledMail a.id a.owner a.itemGuidLow]
            h ha hview hitems rfl rfl (update_money_le h.money _ _) ?_
            (by simp [AuctionEffect.auction]) ?_
          · simp [AuctionWorld.returnItem, AuctionWorld.emit, hguid]
          · rw [auctionPhase_active ha hactive]
            exact .cancel a _ hbid

private theorem lifeMove_sell (h : AuctionWF accounts w) {pl : Nat} (hpl : w.online pl)
    (house : AuctionHouseEntry) (newItem : Item) (etime bid buyout deposit now : Nat) :
    LifeMove rates accounts Open w (w.sell rates pl house newItem etime bid buyout deposit now) := by
  unfold AuctionWorld.sell
  split
  · exact lifeMove_refl h
  next hguard =>
    simp only [not_or, Bool.not_eq_true, Option.isSome_eq_false_iff, Option.isNone_iff_eq_none, not_lt] at hguard
    obtain ⟨-, hguid, hnoItem, hafford⟩ := hguard
    have hfresh : w.mgr.auction? w.mgr.nextAuctionId = none := by
      cases hfind : w.mgr.auction? w.mgr.nextAuctionId with
      | none => rfl
      | some b => exact absurd (h.entry _ b hfind).2.2 (lt_irrefl _)
    have hview := fun id => AuctionHouseMgr.auction?_addAuction rates house newItem etime bid
      buyout deposit pl now id hfresh
    have hitems := fun guid => AuctionHouseMgr.getAItem_addAuction rates house newItem etime bid
      buyout deposit pl now guid hnoItem
    have hmoney : ∀ p, Function.update w.money pl (modifyMoney (w.money pl) (-int64 deposit)) p ≤
        maxMoneyAmount := by
      have hmax := h.money pl
      have hsmall : int64 (deposit : Int) = deposit := by
        unfold maxMoneyAmount at hmax
        exact int64_eq (by omega) (by omega)
      rw [hsmall, modifyMoney_neg hafford hmax]
      exact update_money_le h.money pl deposit
    refine ⟨⟨fun id b hb => ?_, Nat.succ_pos _, fun id id' b b' hb hb' hne heq => ?_, ?_,
      h.online, hmoney⟩, ?_⟩
    · obtain hb := (hview id).symm.trans hb
      split at hb
      next hid =>
        cases hb
        refine ⟨⟨h.online pl hpl, fun hz => absurd rfl hz, Iff.rfl, fun _ => ⟨hguid, ?_⟩,
          fun hz => absurd rfl hz, fun _ => Nat.eq_zero_or_pos buyout⟩,
          hid ▸ ⟨Nat.ne_of_gt h.next_pos, Nat.lt_succ_self _⟩⟩
        exact ((hitems newItem.guid).trans (if_pos rfl)) ▸ rfl
      next hid =>
        obtain ⟨hok, hzero, hlt⟩ := h.entry id b hb
        refine ⟨{ hok with item := fun hactive => ⟨(hok.item hactive).1, ?_⟩ },
          hzero, hlt.trans (Nat.lt_succ_self _)⟩
        have hsome := (hok.item hactive).2
        have hother : b.itemGuidLow ≠ newItem.guid := by
          intro heq
          rw [heq, hnoItem] at hsome
          cases hsome
        exact ((hitems b.itemGuidLow).trans (if_neg hother)) ▸ hsome
    · -- the new item was not in store, so no other auction offers it
      have hclash : ∀ {j c}, w.mgr.auction? j = some c → c.itemGuidLow = newItem.guid →
          c.itemGuidLow ≠ 0 → False := by
        intro j c hc hcguid hcne
        have hok := (h.entry j c hc).1
        have hactive : c.moneyDeliveryTime = 0 := by
          by_contra hwon
          exact hcne (hok.sent hwon)
        have hsome := (hok.item hactive).2
        rw [hcguid, hnoItem] at hsome
        cases hsome
      have hb := (hview id).symm.trans hb
      have hb' := (hview id').symm.trans hb'
      split at hb <;> split at hb'
      next hid hid' => exact hid.trans hid'.symm
      next =>
        cases hb
        exact (hclash hb' heq.symm (heq ▸ hne)).elim
      next =>
        cases hb'
        exact (hclash hb heq hne).elim
      next => exact h.items id id' b b' hb hb' hne heq
    · exact (hitems 0).trans ((if_neg (Ne.symm hguid)).trans h.noItem)
    · refine Refines.single (i := w.mgr.nextAuctionId) rfl (by simp [AuctionEffect.auction,
        AuctionHouseMgr.newAuction]) ?_ fun j hj => ?_
      · have hbefore : auctionPhase w.mgr.nextAuctionId w = .unposted := by
          simp [auctionPhase, hfresh]
        rw [hbefore, auctionPhase_active ((hview _).trans (if_pos rfl)) rfl]
        exact .post _ rfl rfl
      · have hsame := (hview j).trans (if_neg hj)
        have hnext : (j ≠ 0 ∧ j < w.mgr.nextAuctionId + 1) ↔ (j ≠ 0 ∧ j < w.mgr.nextAuctionId) := by omega
        simp only [auctionPhase, AuctionWorld.emit] at hsame ⊢
        rw [hsame]
        simp only [AuctionHouseMgr.addAuction, hnext]

private theorem checkPlaceBid_ok {pl : Nat} {auctioneer : Option AuctionHouseEntry}
    {auctionId price : Nat} (h : w.checkPlaceBid accounts pl auctioneer auctionId price = .ok a) :
    w.mgr.auction? auctionId = some a ∧ a.bid < price ∧ price ≤ w.money pl ∧ a.startbid ≤ price := by
  unfold AuctionWorld.checkPlaceBid at h
  split at h
  · cases h
  split at h
  · cases h
  split at h
  · cases h
  next b hget =>
    split at h
    · cases h
    split at h
    · cases h
    split at h
    · cases h
    next hhigher =>
    split at h
    · cases h
    split at h
    · cases h
    next hafford =>
    split at h
    · cases h
    next hstart =>
    cases h
    exact ⟨AuctionHouseMgr.getAuction_eq_some hget, by omega, by omega, by omega⟩

def LeavesRoom (Open : AuctionEntry → Prop) : Prop :=
  ∀ a, Open a → a.moneyDeliveryTime = 0 ∨ a.buyout = 0 ∨ a.bid < a.buyout

private theorem lifeMove_placeBid (hroom : LeavesRoom Open) (h : AuctionWF accounts w) {pl : Nat}
    (hpl : w.online pl) {auctioneer : Option AuctionHouseEntry} {auctionId price now : Nat}
    (hok : BidsOn accounts Open w (.placeBid pl auctioneer auctionId price now)) : LifeMove rates accounts Open w
      (w.handleAuctionPlaceBid accounts pl auctioneer auctionId price now).1 := by
  unfold AuctionWorld.handleAuctionPlaceBid
  split
  · exact lifeMove_refl h
  next a hcheck =>
    obtain ⟨ha, hhigher, hafford, hstart⟩ := checkPlaceBid_ok hcheck
    have hopen : Open a := hok a (by simp [hcheck, Except.toOption])
    have hbelow : a.buyout = 0 ∨ a.bid < a.buyout := by
      rcases hroom a hopen with hactive | hbelow
      · exact (h.entry _ a ha).1.belowBuyout hactive
      · exact hbelow
    exact lifeMove_updateBid h ha hopen hbelow (h.online pl hpl) hhigher hstart hafford now

private theorem lifeMove_update (h : AuctionWF accounts w) (house : AuctionHouseType)
    (now : Nat) : LifeMove rates accounts Open w (w.update rates accounts house now) := by
  have hturn : ∀ s id, True → AuctionWF accounts s →
      LifeMove rates accounts Open s (s.updateAuction rates accounts now id) :=
    fun s id _ hs => lifeMove_updateAuction hs now id
  have htrivial : ∀ ids, Guarded (AuctionWorld.updateAuction rates accounts now)
      (fun _ _ => True) w ids :=
    guarded_of_forall (fun _ _ => trivial) w
  exact ⟨run_invariant (fun s id ht hs => (hturn s id ht hs).1) (htrivial _) h,
    Refines.run (fun s id ht hs => (hturn s id ht hs).1) (fun s id ht hs => (hturn s id ht hs).2)
      (htrivial _) h⟩

private theorem lifeMove_silent (h : AuctionWF accounts w) (hmgr : w'.mgr = w.mgr)
    (hlog : w'.log = w.log) (honline : ∀ pl, w'.online pl → accounts.accountOf pl ≠ 0)
    (hmoney : ∀ pl, w'.money pl ≤ maxMoneyAmount) : LifeMove rates accounts Open w w' := by
  refine ⟨⟨?_, by simpa [hmgr] using h.next_pos, by simpa [hmgr] using h.items,
      by simpa [hmgr] using h.noItem, honline, hmoney⟩,
    Refines.silent hlog fun id => auctionPhase_congr (by rw [hmgr]) (by rw [hmgr])⟩
  intro id b hb
  rw [hmgr] at hb ⊢
  obtain ⟨hok, hlt⟩ := h.entry id b hb
  exact ⟨{ hok with item := by simpa [hmgr] using hok.item }, hlt⟩

theorem auctionStep_refines (hroom : LeavesRoom Open) (h : AuctionWF accounts w) (e : AuctionEvent)
    (hok : BidsOn accounts Open w e) : AuctionWF accounts (auctionStep rates accounts w e) ∧
      Refines (LifeStep rates Open) auctionPhase AuctionWorld.log AuctionEffect.auction w
        (auctionStep rates accounts w e) := by
  cases e with
  | sell pl house newItem etime bid buyout deposit now =>
    simp only [auctionStep]
    split
    next hpl => exact lifeMove_sell h hpl house newItem etime bid buyout deposit now
    next => exact lifeMove_refl h
  | placeBid pl auctioneer auctionId price now =>
    simp only [auctionStep]
    split
    next hpl => exact lifeMove_placeBid hroom h hpl hok
    next => exact lifeMove_refl h
  | removeItem pl auctioneer auctionId =>
    simp only [auctionStep]
    split
    · exact lifeMove_removeItem h pl auctioneer auctionId
    · exact lifeMove_refl h
  | update house now => exact lifeMove_update h house now
  | login pl =>
    simp only [auctionStep]
    split
    next hpl =>
      refine lifeMove_silent h rfl rfl (fun p hp => ?_) h.money
      by_cases heq : p = pl
      · exact heq ▸ hpl
      · exact h.online p (by simpa [heq] using hp)
    next => exact lifeMove_refl h
  | logout pl =>
    refine lifeMove_silent h rfl rfl (fun p hp => ?_) h.money
    by_cases heq : p = pl
    · simp [auctionStep, heq] at hp
    · exact h.online p (by simpa [auctionStep, heq] using hp)
  | earnOrSpend pl money =>
    refine lifeMove_silent h rfl rfl h.online fun p => ?_
    by_cases heq : p = pl
    · simp [auctionStep, heq]
    · simpa [auctionStep, heq] using h.money p

theorem auctionRun_refines (hroom : LeavesRoom Open) (h : AuctionWF accounts w) {es : List AuctionEvent}
    (hok : Guarded (auctionStep rates accounts) (BidsOn accounts Open) w es) :
    AuctionWF accounts (run (auctionStep rates accounts) w es) ∧
      Refines (LifeStep rates Open) auctionPhase AuctionWorld.log AuctionEffect.auction w
        (run (auctionStep rates accounts) w es) := by
  have hinv : ∀ s e, BidsOn accounts Open s e → AuctionWF accounts s →
      AuctionWF accounts (auctionStep rates accounts s e) :=
    fun s e hok hs => (auctionStep_refines hroom hs e hok).1
  exact ⟨run_invariant hinv hok h, Refines.run hinv (fun s e hok hs => (auctionStep_refines hroom hs e hok).2) hok h⟩

end Mangos
