import Mangos.Auction.Refinement

/-!
# A won auction is final

A won auction stays in the map until its money is delivered, and the bid handler can still find it there.
-/

namespace Mangos

open Framework

variable (rates : AuctionRates) (accounts : Accounts)

/-- The part of the log that is about auction `id`. -/
def AuctionWorld.auctionLog (w : AuctionWorld) (id : Nat) : List AuctionEffect :=
  w.log.filter (·.auction = id)

/-- From `w`, where `a` is the won auction `id`, to `w'`: bidder and bid stay while it is there, nothing is paid,
refunded or cancelled for it but the delivery of the money, and its item is mailed once, to the bidder it was won
with. -/
def FinalSince (id : Nat) (a : AuctionEntry) (w w' : AuctionWorld) : Prop :=
  (w'.mgr.auction? id = some a ∨ w'.mgr.auction? id = none) ∧ (w'.auctionLog id = w.auctionLog id ∨
    ∃ amount, w'.auctionLog id = w.auctionLog id ++ [.successfulMail id a.owner amount]) ∧
  ∃ a₀, .posted a₀ ∈ w.auctionLog id ∧ itemMoves (w'.auctionLog id) = [.wonMail id a.bidder a₀.itemGuidLow]

theorem auctionLog_trace {Open : AuctionEntry → Prop} (hroom : LeavesRoom Open)
    {money : Nat → Nat} {es : List AuctionEvent}
    (hok : Guarded (auctionStep rates accounts) (BidsOn accounts Open) (.initial money) es) (id : Nat) :
    Trace (LifeStep rates Open) .unposted ((run (auctionStep rates accounts) (.initial money) es).auctionLog id)
      (auctionPhase id (run (auctionStep rates accounts) (.initial money) es)) := by
  obtain ⟨-, tail, hlog, htrace⟩ := auctionRun_refines hroom (auctionWF_initial accounts money) hok
  have hlog' : (run (auctionStep rates accounts) (.initial money) es).log = tail := hlog
  have hunposted : auctionPhase id (.initial money) = .unposted := by
    have hnext : ¬ (id ≠ 0 ∧ id < 1) := by omega
    simp only [auctionPhase, AuctionWorld.initial, AuctionHouseMgr.auction?, List.find?_nil, hnext, if_false]
  rw [AuctionWorld.auctionLog, hlog', ← hunposted]
  exact htrace id

private theorem auctionPhase_eq_closed {w : AuctionWorld} {id : Nat}
    (h : auctionPhase id w = .closed) : w.mgr.auction? id = none := by
  unfold auctionPhase at h
  split at h
  · split at h <;> cases h
  next hnone => exact hnone

private theorem auctionPhase_eq_won {w : AuctionWorld} {id : Nat} {a : AuctionEntry}
    (h : auctionPhase id w = .won a) : w.mgr.auction? id = some a := by
  unfold auctionPhase at h
  split at h
  next hsome =>
    split at h
    · cases h
    · cases h
      exact hsome
  · split at h <;> cases h

/-- In a run whose bids are all accepted on auctions still to be won, a won auction is final. -/
theorem wonAuction_final (money : Nat → Nat) (es fs : List AuctionEvent)
    (hok : Guarded (auctionStep rates accounts) (BidsOn accounts NotWon) (.initial money) (es ++ fs))
    (id : Nat) (a : AuctionEntry) (ha : (run (auctionStep rates accounts) (.initial money) es).mgr.auction? id = some a)
    (hwon : a.moneyDeliveryTime ≠ 0) : FinalSince id a (run (auctionStep rates accounts) (.initial money) es)
      (run (auctionStep rates accounts) (.initial money) (es ++ fs)) := by
  have hroom : LeavesRoom NotWon := fun _ hopen => .inl hopen
  obtain ⟨hes, hfs⟩ := (guarded_append _ _ _ _ _).mp hok
  have hid : a.id = id := AuctionHouseMgr.auction?_id ha
  have hphase := auctionPhase_won ha hwon
  have hsent : ItemSent ((run (auctionStep rates accounts) (.initial money) es).auctionLog id)
      (.won a) := by
    rw [← hphase]
    exact (auctionLog_trace rates accounts hroom hes id).invariant ItemSent
      (fun _ _ _ _ h hstep => hstep.itemSent h) rfl
  obtain ⟨a₀, hposted, -, hmoves⟩ := hsent
  obtain ⟨hwf, -⟩ := auctionRun_refines hroom (auctionWF_initial accounts money) hes
  obtain ⟨-, tail, hlog, htrace⟩ := auctionRun_refines hroom hwf hfs
  have hsince := htrace id
  rw [hphase] at hsince
  rw [run_append]
  have hlog' : (run (auctionStep rates accounts)
      (run (auctionStep rates accounts) (.initial money) es) fs).auctionLog id =
      (run (auctionStep rates accounts) (.initial money) es).auctionLog id ++ tail.filter (·.auction = id) := by
    rw [AuctionWorld.auctionLog, hlog, List.filter_append]
    rfl
  rw [hid] at hmoves
  rcases Trace.of_won hsince with ⟨hend, htail⟩ | ⟨hend, amount, htail⟩
  · rw [htail, List.append_nil] at hlog'
    refine ⟨.inl (auctionPhase_eq_won hend), .inl hlog', a₀, hposted, ?_⟩
    rw [hlog', hmoves]
  · rw [htail, hid] at hlog'
    refine ⟨.inr (auctionPhase_eq_closed hend), .inr ⟨amount, hlog'⟩, a₀, hposted, ?_⟩
    rw [hlog', itemMoves_append, hmoves]
    rfl

/-! Player 1 posts 5 cloth, player 2 buys them out, and player 3 bids while the money is still
under way. -/

def clothHouse : AuctionHouseEntry := ⟨1, .alliance⟩

def plainRates : AuctionRates where
  deposit _ _ _ := 10
  cut _ bid := bid / 20
  auctionTime etime := etime

def oneAccountEach : Accounts := .oneEach

def fiveCloth : Item where
  guid := 101
  proto := .clothLike 2589
  count := 5
  ownerGuid := 0

private def boughtOut : List AuctionEvent :=
  [.login 1, .login 2, .login 3, .sell 1 clothHouse fiveCloth minAuctionTime 50 100 10 0,
    .placeBid 2 (some clothHouse) 1 100 60]

private def soldCloth : AuctionEntry where
  id := 1
  itemGuidLow := 0
  itemTemplate := 2589
  itemCount := 5
  itemRandomPropertyId := 0
  owner := 1
  startbid := 50
  bid := 100
  buyout := 100
  expireTime := minAuctionTime
  moneyDeliveryTime := 3660
  bidder := 2
  deposit := 10
  auctionHouse := clothHouse

theorem wonAuction_final_settled : FinalSince 1 soldCloth
      (run (auctionStep plainRates oneAccountEach) (.initial fun _ => 1000) boughtOut)
      (run (auctionStep plainRates oneAccountEach) (.initial fun _ => 1000)
        (boughtOut ++ [.update .alliance 4000])) :=
  wonAuction_final plainRates oneAccountEach (fun _ => 1000) boughtOut [.update .alliance 4000]
    (by decide +kernel) 1 soldCloth (by decide +kernel) (by decide)

theorem wonAuction_rebid : ¬ ∀ (rates : AuctionRates) (accounts : Accounts) (money : Nat → Nat)
      (es fs : List AuctionEvent) (id : Nat) (a : AuctionEntry),
      (run (auctionStep rates accounts) (.initial money) es).mgr.auction? id = some a →
      a.moneyDeliveryTime ≠ 0 → FinalSince id a (run (auctionStep rates accounts) (.initial money) es)
        (run (auctionStep rates accounts) (.initial money) (es ++ fs)) := by
  intro h
  have hfinal := (h plainRates oneAccountEach (fun _ => 1000) boughtOut
    [.placeBid 3 (some clothHouse) 1 150 120] 1 soldCloth (by decide +kernel) (by decide)).1
  exact absurd hfinal (by decide +kernel)

end Mangos
