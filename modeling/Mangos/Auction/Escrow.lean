import Mangos.Auction.Final

/-!
# The escrow of an auction balances

What the auction house holds for an auction is what it took from bidders less what it paid back to outbid
ones.
-/

namespace Mangos

open Framework

def AuctionEffect.escrow : AuctionEffect → Int
  | moneyTaken _ _ amount => amount
  | outbiddedMail _ _ amount => -amount
  | _ => 0

def escrow (log : List AuctionEffect) : Int := (log.map (·.escrow)).sum

def postings (log : List AuctionEffect) : List AuctionEntry :=
  log.filterMap fun
    | .posted entry => some entry
    | _ => none

def recordedBids (log : List AuctionEffect) : List (Nat × Nat × Nat) :=
  log.filterMap fun
    | .bidRecorded _ player oldBid newBid => some (player, oldBid, newBid)
    | _ => none

def proceeds (log : List AuctionEffect) : List (Nat × Nat) :=
  log.filterMap fun
    | .successfulMail _ owner amount => some (owner, amount)
    | _ => none

def cancelRefunds (log : List AuctionEffect) : List (Nat × Nat) :=
  log.filterMap fun
    | .cancelledToBidderMail _ player amount => some (player, amount)
    | _ => none

@[simp] theorem escrow_append (log log' : List AuctionEffect) : escrow (log ++ log') = escrow log + escrow log' := by
  simp [escrow]

@[simp] theorem postings_append (log log' : List AuctionEffect) :
    postings (log ++ log') = postings log ++ postings log' := List.filterMap_append

@[simp] theorem recordedBids_append (log log' : List AuctionEffect) :
    recordedBids (log ++ log') = recordedBids log ++ recordedBids log' := List.filterMap_append

@[simp] theorem proceeds_append (log log' : List AuctionEffect) :
    proceeds (log ++ log') = proceeds log ++ proceeds log' := List.filterMap_append

@[simp] theorem cancelRefunds_append (log log' : List AuctionEffect) :
    cancelRefunds (log ++ log') = cancelRefunds log ++ cancelRefunds log' :=
  List.filterMap_append

/-- The escrow of the auction posted as `a₀` while its entry is `a`: it holds the current bid of
the current bidder, and nothing has been paid out. -/
structure EscrowOpen (log : List AuctionEffect) (a₀ a : AuctionEntry) : Prop where
  posted : postings log = [a₀]
  same : a.owner = a₀.owner ∧ a.startbid = a₀.startbid ∧ a.deposit = a₀.deposit ∧ a.auctionHouse = a₀.auctionHouse
  balance : escrow log = a.bid
  unpaid : proceeds log = [] ∧ cancelRefunds log = []
  bidder : a.bid ≠ 0 → ∃ oldBid, (recordedBids log).getLast? = some (a.bidder, oldBid, a.bid)
  unbid : a.bidder = 0 → a.bid = 0

/-- The escrow of the auction posted as `a₀` after it ended holding `bid`: the seller was paid
once, or the bid went back to its bidder once, or there was no bid. -/
inductive EscrowClosed (rates : AuctionRates) (log : List AuctionEffect) (a₀ : AuctionEntry)
    (bid : Nat) : Prop
  | settled (hpaid : proceeds log = [(a₀.owner, uint64 (bid + a₀.deposit - rates.cut a₀.auctionHouse bid))])
      (hrefund : cancelRefunds log = [])
  | cancelled (player oldBid : Nat) (hpaid : proceeds log = [])
      (hlast : (recordedBids log).getLast? = some (player, oldBid, bid))
      (hrefund : cancelRefunds log = [(player, bid)])
  | unbid (hbid : bid = 0) (hpaid : proceeds log = []) (hrefund : cancelRefunds log = [])

/-- The escrow of an auction in each phase of its life. -/
def EscrowBalances (rates : AuctionRates) (log : List AuctionEffect) : AuctionPhase → Prop
  | .unposted => log = []
  | .active a | .won a => ∃ a₀, EscrowOpen log a₀ a
  | .closed => ∃ a₀ bid, postings log = [a₀] ∧ escrow log = (bid : Nat) ∧ EscrowClosed rates log a₀ bid

/-- Every recorded bid is at least the start bid and higher than the bid it replaces. -/
def BidsRise (log : List AuctionEffect) : Prop :=
  ∀ player oldBid newBid, (player, oldBid, newBid) ∈ recordedBids log →
    ∃ a₀, postings log = [a₀] ∧ a₀.startbid ≤ newBid ∧ oldBid < newBid

/-- The buyout price, if there is one, is no less than the start bid and has not been bid. -/
def BuyoutAhead (a : AuctionEntry) : Prop :=
  a.buyout = 0 ∨ (a.startbid ≤ a.buyout ∧ a.bid < a.buyout)

instance : DecidablePred BuyoutAhead := fun _ => inferInstanceAs (Decidable (_ ∨ _))

variable {rates : AuctionRates} {accounts : Accounts} {log ms : List AuctionEffect}
  {a a₀ : AuctionEntry} {player newbid : Nat}

private theorem escrow_bidEffects (h : a.bidder = 0 → a.bid = 0) :
    escrow (bidEffects a player newbid) = newbid - a.bid := by
  unfold bidEffects
  split
  · simp [escrow, AuctionEffect.escrow]
  · split
    · simp [escrow, AuctionEffect.escrow]
      omega
    next hfirst =>
      have hbid := h (not_not.mp hfirst)
      simp [escrow, AuctionEffect.escrow, hbid]

private theorem bidEffects_records (a : AuctionEntry) (player newbid : Nat) :
    postings (bidEffects a player newbid) = [] ∧ proceeds (bidEffects a player newbid) = [] ∧
      cancelRefunds (bidEffects a player newbid) = [] ∧
      recordedBids (bidEffects a player newbid) = [(player, a.bid, newbid)] := by
  unfold bidEffects
  split
  · exact ⟨rfl, rfl, rfl, rfl⟩
  · split
    · exact ⟨rfl, rfl, rfl, rfl⟩
    · exact ⟨rfl, rfl, rfl, rfl⟩

private theorem EscrowOpen.bid (newbid : Nat) (ms : List AuctionEffect) (h : EscrowOpen log a₀ a) (hplayer : player ≠ 0)
    (hpaid : proceeds ms = []) (hrefund : cancelRefunds ms = []) (hposted : postings ms = [])
    (hbids : recordedBids ms = []) (hescrow : escrow ms = 0) (b : AuctionEntry)
    (hb : b.owner = a.owner ∧ b.startbid = a.startbid ∧ b.deposit = a.deposit ∧
      b.auctionHouse = a.auctionHouse) (hbid : b.bid = newbid) (hbidder : b.bidder = player) :
    EscrowOpen (log ++ bidEffects a player newbid ++ ms) a₀ b := by
  obtain ⟨hnoPost, hnoPay, hnoRefund, hrecord⟩ := bidEffects_records a player newbid
  refine ⟨?_, ?_, ?_, ?_, fun _ => ⟨a.bid, ?_⟩, fun hzero => ?_⟩
  · simp [hnoPost, hposted, h.posted]
  · simpa [hb] using h.same
  · simp only [escrow_append, escrow_bidEffects h.unbid, hescrow, h.balance, hbid]
    omega
  · simp [hnoPay, hnoRefund, hpaid, hrefund, h.unpaid]
  · simp [hrecord, hbids, hbid, hbidder]
  · exact absurd (hbidder.symm.trans hzero) hplayer

theorem LifeStep.escrowBalances {Open : AuctionEntry → Prop} {p q : AuctionPhase}
    (hlog : EscrowBalances rates log p) (h : LifeStep rates Open p ms q) : EscrowBalances rates (log ++ ms) q := by
  cases h with
  | post a hbid hbidder =>
    cases hlog
    exact ⟨a, rfl, ⟨rfl, rfl, rfl, rfl⟩, by simp [escrow, AuctionEffect.escrow, hbid],
      ⟨rfl, rfl⟩, fun hne => absurd hbid hne, fun _ => hbid⟩
  | raise a player newbid hopen hplayer =>
    obtain ⟨a₀, h⟩ := hlog
    refine ⟨a₀, ?_⟩
    simpa using h.bid newbid [] hplayer rfl rfl rfl rfl rfl (a.withBid player newbid)
      ⟨rfl, rfl, rfl, rfl⟩ rfl rfl
  | buyout a player deliveryTime hopen hplayer =>
    obtain ⟨a₀, h⟩ := hlog
    refine ⟨a₀, ?_⟩
    simpa using h.bid a.buyout [.wonMail a.id player a.itemGuidLow] hplayer
      rfl rfl rfl rfl rfl ((a.withBid player a.buyout).asWon deliveryTime)
      ⟨rfl, rfl, rfl, rfl⟩ rfl rfl
  | raiseWon a player newbid hwon hopen hplayer =>
    obtain ⟨a₀, h⟩ := hlog
    refine ⟨a₀, ?_⟩
    simpa using h.bid newbid [] hplayer rfl rfl rfl rfl rfl
      (a.withBid player newbid) ⟨rfl, rfl, rfl, rfl⟩ rfl rfl
  | buyoutWon a player deliveryTime hwon hopen hplayer =>
    obtain ⟨a₀, h⟩ := hlog
    refine ⟨a₀, ?_⟩
    simpa using h.bid a.buyout [] hplayer rfl rfl rfl rfl rfl
      ((a.withBid player a.buyout).withDelivery deliveryTime)
      ⟨rfl, rfl, rfl, rfl⟩ rfl rfl
  | win a deliveryTime =>
    obtain ⟨a₀, hposted, hsame, hbalance, ⟨hpaid, hrefund⟩, hbidder, hunbid⟩ := hlog
    refine ⟨a₀, by simpa [postings] using hposted, hsame, ?_, ?_, ?_, hunbid⟩
    · simpa [escrow, AuctionEffect.escrow, AuctionEntry.asWon, AuctionEntry.withDelivery]
        using hbalance
    · exact ⟨by simpa [proceeds] using hpaid, by simpa [cancelRefunds] using hrefund⟩
    · simpa [recordedBids, AuctionEntry.asWon, AuctionEntry.withDelivery] using hbidder
  | settle a =>
    obtain ⟨a₀, hposted, hsame, hbalance, ⟨hpaid, hrefund⟩, -, -⟩ := hlog
    refine ⟨a₀, a.bid, by simpa [postings] using hposted, ?_, .settled ?_ ?_⟩
    · simpa [escrow, AuctionEffect.escrow] using hbalance
    · rw [proceeds_append, hpaid, ← hsame.1, ← hsame.2.2.1, ← hsame.2.2.2]
      rfl
    · simpa [cancelRefunds] using hrefund
  | expire a hbid =>
    obtain ⟨a₀, hposted, -, hbalance, ⟨hpaid, hrefund⟩, -, -⟩ := hlog
    refine ⟨a₀, a.bid, by simpa [postings] using hposted, ?_, .unbid hbid ?_ ?_⟩
    · simpa [escrow, AuctionEffect.escrow] using hbalance
    · simpa [proceeds] using hpaid
    · simpa [cancelRefunds] using hrefund
  | cancelUnbid a hbid =>
    obtain ⟨a₀, hposted, -, hbalance, ⟨hpaid, hrefund⟩, -, -⟩ := hlog
    refine ⟨a₀, a.bid, by simpa [postings] using hposted, ?_, .unbid hbid ?_ ?_⟩
    · simpa [escrow, AuctionEffect.escrow] using hbalance
    · simpa [proceeds] using hpaid
    · simpa [cancelRefunds] using hrefund
  | cancel a cut hbid =>
    obtain ⟨a₀, hposted, -, hbalance, ⟨hpaid, hrefund⟩, hbidder, -⟩ := hlog
    obtain ⟨oldBid, hlast⟩ := hbidder hbid
    refine ⟨a₀, a.bid, by simpa [postings] using hposted, ?_, .cancelled a.bidder oldBid ?_ ?_ ?_⟩
    · simpa [escrow, AuctionEffect.escrow] using hbalance
    · simpa [proceeds] using hpaid
    · simpa [recordedBids] using hlast
    · rw [cancelRefunds_append, hrefund]
      rfl

private theorem postings_of_active {p : AuctionPhase} (h : EscrowBalances rates log p)
    (hp : p ≠ .unposted) : ∃ a₀, postings log = [a₀] := by
  cases p with
  | unposted => exact absurd rfl hp
  | active a => exact ⟨_, h.choose_spec.posted⟩
  | won a => exact ⟨_, h.choose_spec.posted⟩
  | closed =>
    obtain ⟨a₀, -, hposted, -⟩ := h
    exact ⟨a₀, hposted⟩

private theorem LifeStep.recordedBids_rise {p q : AuctionPhase} (h : LifeStep rates BuyoutAhead p ms q) {oldBid : Nat}
    (hmem : (player, oldBid, newbid) ∈ recordedBids ms) :
    ∃ a, (p = .active a ∨ p = .won a) ∧ a.startbid ≤ newbid ∧ oldBid < newbid := by
  cases h with
  | raise a player newbid hopen hplayer hhigher hstart =>
    rw [(bidEffects_records a player newbid).2.2.2] at hmem
    cases List.mem_singleton.mp hmem
    exact ⟨a, .inl rfl, hstart, hhigher⟩
  | raiseWon a player newbid hwon hopen hplayer hhigher hstart =>
    rw [(bidEffects_records a player newbid).2.2.2] at hmem
    cases List.mem_singleton.mp hmem
    exact ⟨a, .inr rfl, hstart, hhigher⟩
  | buyoutWon a player deliveryTime hwon hopen hplayer hhigher =>
    rw [(bidEffects_records a player a.buyout).2.2.2] at hmem
    cases List.mem_singleton.mp hmem
    exact ⟨a, .inr rfl, (hopen.resolve_left (Nat.ne_zero_of_lt hhigher)).1, hhigher⟩
  | buyout a player deliveryTime hopen hplayer hhigher =>
    rw [recordedBids_append, (bidEffects_records a player a.buyout).2.2.2] at hmem
    cases List.mem_singleton.mp hmem
    exact ⟨a, .inl rfl, (hopen.resolve_left (Nat.ne_zero_of_lt hhigher)).1, hhigher⟩
  | _ => simp [recordedBids] at hmem

theorem LifeStep.bidsRise {p q : AuctionPhase} (hlog : EscrowBalances rates log p ∧ BidsRise log)
    (h : LifeStep rates BuyoutAhead p ms q) : EscrowBalances rates (log ++ ms) q ∧ BidsRise (log ++ ms) := by
  obtain ⟨hbalances, hrise⟩ := hlog
  have hbalances' := h.escrowBalances hbalances
  refine ⟨hbalances', fun player oldBid newBid hmem => ?_⟩
  have hq : q ≠ .unposted := by
    rintro rfl
    cases h
  obtain ⟨a₀, hposted⟩ := postings_of_active hbalances' hq
  refine ⟨a₀, hposted, ?_⟩
  rw [recordedBids_append] at hmem
  rcases List.mem_append.mp hmem with hbefore | hnow
  · obtain ⟨a₁, hposted₁, hbid⟩ := hrise player oldBid newBid hbefore
    rw [postings_append, hposted₁] at hposted
    cases (List.cons.inj hposted).1
    exact hbid
  · obtain ⟨a, hp, hstart, hhigher⟩ := h.recordedBids_rise hnow
    obtain ⟨a₁, hopen⟩ : ∃ a₁, EscrowOpen log a₁ a := by
      rcases hp with rfl | rfl <;> exact hbalances
    rw [postings_append, hopen.posted] at hposted
    cases (List.cons.inj hposted).1
    exact ⟨hopen.same.2.1 ▸ hstart, hhigher⟩

/-- In a run that accepts no bid on an auction bought out or posted with a buyout below its start bid, the escrow of
every auction balances and its bids rise. -/
theorem auctionEscrow_balances (rates : AuctionRates) (accounts : Accounts) (money : Nat → Nat)
    (es : List AuctionEvent) (hok : Guarded (auctionStep rates accounts) (BidsOn accounts BuyoutAhead)
      (.initial money) es) (id : Nat) :
    EscrowBalances rates ((run (auctionStep rates accounts) (.initial money) es).auctionLog id)
      (auctionPhase id (run (auctionStep rates accounts) (.initial money) es)) ∧
    BidsRise ((run (auctionStep rates accounts) (.initial money) es).auctionLog id) :=
  (auctionLog_trace rates accounts (fun _ hopen => .inr (hopen.imp_right And.right)) hok
    id).invariant
    (fun log p => EscrowBalances rates log p ∧ BidsRise log)
    (fun _ _ _ _ hlog hstep => hstep.bidsRise hlog)
    ⟨rfl, fun _ _ _ hmem => by simp [recordedBids] at hmem⟩

/-! Player 1 posts 5 cloth for 50 or more with the given buyout, and player 2 bids 60. -/

private def bidOnCloth (buyout : Nat) : List AuctionEvent :=
  [.login 1, .login 2, .sell 1 clothHouse fiveCloth minAuctionTime 50 buyout 10 0,
    .placeBid 2 (some clothHouse) 1 60 60]

theorem auctionEscrow_balances_bid : EscrowBalances plainRates
      ((run (auctionStep plainRates oneAccountEach) (.initial fun _ => 1000)
        (bidOnCloth 0)).auctionLog 1) (auctionPhase 1
        (run (auctionStep plainRates oneAccountEach) (.initial fun _ => 1000) (bidOnCloth 0))) ∧
    BidsRise ((run (auctionStep plainRates oneAccountEach) (.initial fun _ => 1000)
      (bidOnCloth 0)).auctionLog 1) :=
  auctionEscrow_balances plainRates oneAccountEach (fun _ => 1000) (bidOnCloth 0)
    (by decide +kernel) 1

theorem auctionEscrow_underbid : ¬ ∀ (rates : AuctionRates) (accounts : Accounts) (money : Nat → Nat)
      (es : List AuctionEvent) (id : Nat),
      EscrowBalances rates ((run (auctionStep rates accounts) (.initial money) es).auctionLog id)
        (auctionPhase id (run (auctionStep rates accounts) (.initial money) es)) ∧
      BidsRise ((run (auctionStep rates accounts) (.initial money) es).auctionLog id) := by
  intro h
  obtain ⟨a₀, hposted, hstart, -⟩ :=
    (h plainRates oneAccountEach (fun _ => 1000) (bidOnCloth 20) 1).2 2 0 20 (by decide +kernel)
  have hstartbid : (postings ((run (auctionStep plainRates oneAccountEach)
      (.initial fun _ => 1000) (bidOnCloth 20)).auctionLog 1)).map (·.startbid) = [50] := by
    decide +kernel
  rw [hposted] at hstartbid
  simp only [List.map_cons, List.map_nil, List.cons.injEq, and_true] at hstartbid
  omega

end Mangos
