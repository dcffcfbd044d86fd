import Mangos.Auction.House
import Mangos.Framework.Run

/-!
# Posting auctions

`HandleAuctionSellItem` posts one auction for each line of the request.
-/

namespace Mangos

open Framework

/-- The part of the server `HandleAuctionSellItem` works on. `results` are the
`SMSG_AUCTION_COMMAND_RESULT`s sent so far. -/
structure SellState where
  seller : Player
  mgr : AuctionHouseMgr
  nextItemGuid : Nat
  results : List AuctionError

/-- What stays the same over the lines of a request. -/
structure SellOffer where
  house : AuctionHouseEntry
  bid : Nat
  buyout : Nat
  etime : Nat
  now : Nat

structure SellLine where
  guid : Nat
  stackSize : Nat
  deriving DecidableEq, Repr

structure SellRequest where
  auctioneer : Option AuctionHouseEntry
  lines : List SellLine
  bid : Nat
  buyout : Nat
  etime : Nat

variable (tables : ItemTables) (rates : AuctionRates) (offer : SellOffer)

def SellLine.clampedSize (line : SellLine) (proto : ItemPrototype) : Nat :=
  min (if line.stackSize = 0 then 1 else line.stackSize) proto.getMaxStackSize

theorem SellLine.clampedSize_pos (line : SellLine) (proto : ItemPrototype) : 0 < line.clampedSize proto := by
  have hmax := proto.getMaxStackSize_pos
  unfold clampedSize
  split <;> omega

/-- The checks on one line: the position and the item named, the deposit and the stack size
after clamping, or the answer sent when the line is skipped. -/
def checkSellLine (s : SellState) (line : SellLine) :
    Except (Option AuctionError) (ItemPos × Item × Nat × Nat) :=
  if line.guid = 0 then .error none
  else if (s.mgr.getAItem line.guid).isSome then .error (some (.inventory .itemNotFound))
  else match s.seller.inventory.getItemByGuid line.guid with
    | none => .error (some (.inventory .itemNotFound))
    | some (pos, it) =>
      if ¬ s.seller.canBeTraded pos it false false then
        .error (some (.inventory .cannotTradeThat))
      else if it.proto.hasFlag itemFlagConjured || it.duration ≠ 0 then
        .error (some (.inventory .cannotTradeThat))
      else
        let deposit := rates.deposit offer.house offer.etime it
        if s.seller.money < deposit then .error (some .notEnoughMoney)
        else
          let stackSize := line.clampedSize it.proto
          if s.seller.inventory.hasItemCount it.entry stackSize false then
            .ok (pos, it, deposit, stackSize)
          else .error none

/-- One turn of the loop of `HandleAuctionSellItem`. -/
def sellLine (s : SellState) (line : SellLine) : SellState :=
  match checkSellLine rates offer s line with
  | .error answer => { s with results := s.results ++ answer.toList }
  | .ok (pos, it, deposit, stackSize) =>
    match it.cloneItem tables s.nextItemGuid stackSize 0 with
    | none => s
    | some newItem =>
      { seller :=
          { s.seller with
            inventory := s.seller.inventory.destroyItemCount pos it stackSize
            money := modifyMoney s.seller.money (-int64 deposit) }
        mgr := s.mgr.addAuction rates offer.house newItem offer.etime offer.bid offer.buyout
          deposit s.seller.guid offer.now
        nextItemGuid := s.nextItemGuid + 1
        results := s.results ++ [.ok] }

def SellRequest.offer? (req : SellRequest) (now : Nat) : Option SellOffer :=
  let etime := req.etime * 60 % 2 ^ 32
  if maxBagSize * 5 < req.lines.length then none
  else if req.bid = 0 || req.etime = 0 then none
  else match req.auctioneer with
    | none => none
    | some house =>
      if etime = 1 * minAuctionTime || etime = 2 * minAuctionTime || etime = 4 * minAuctionTime
      then some { house, bid := req.bid, buyout := req.buyout, etime, now }
      else none

def handleAuctionSellItem (s : SellState) (req : SellRequest) (now : Nat) : SellState :=
  match req.offer? now with
  | none => s
  | some offer => run (sellLine tables rates offer) s req.lines

/-- The auctions `after` has beyond those of `before`. -/
def createdAuctions (before after : SellState) : List AuctionEntry :=
  after.mgr.auctions.drop before.mgr.auctions.length

/-- A line that is sold asks for no more than the stack it names holds. -/
def WithinStack (s : SellState) (line : SellLine) : Prop :=
  match checkSellLine rates offer s line with
  | .error _ => True
  | .ok (_, it, _, stackSize) => stackSize ≤ it.count

instance (s : SellState) (line : SellLine) : Decidable (WithinStack rates offer s line) := by
  unfold WithinStack
  split <;> infer_instance

def SellState.ownedCount (e : Nat) (s : SellState) : Nat :=
  s.seller.inventory.itemCount e + auctionedCount e s.mgr.auctions

private theorem itemCount_destroyItemCount {inv : Inventory} {pos : ItemPos} {it : Item}
    (hit : inv.getItemByPos pos = some it) (hempty : inv.bagIsEmpty pos) (n e : Nat) :
    (inv.destroyItemCount pos it n).itemCount e + (if it.entry = e then min n it.count else 0) =
      inv.itemCount e := by
  unfold Inventory.destroyItemCount
  split
  next hle =>
    have h := congrArg (fun m => (m.map (Item.weight e)).sum)
      (Inventory.items_destroyItem hit hempty)
    simp only [Multiset.map_add, Multiset.map_singleton, Multiset.sum_add,
      Multiset.sum_singleton, ← Inventory.itemCount_eq_sum] at h
    simpa only [Item.weight, min_eq_right hle] using h
  next hlt =>
    have hput := @Inventory.items_put_same inv pos it { it with count := it.count - n } hit rfl
    have h := congrArg (fun m => (m.map (Item.weight e)).sum) hput
    simp only [Multiset.map_add, Multiset.map_singleton, Multiset.sum_add,
      Multiset.sum_singleton, ← Inventory.itemCount_eq_sum, Item.weight_count] at h
    by_cases he : it.entry = e
    · simp only [Item.weight, he, if_true] at h ⊢
      omega
    · simpa [Item.weight, he] using h

private theorem checkSellLine_ok {s : SellState} {line : SellLine} {pos : ItemPos} {it : Item}
    {deposit n : Nat} (h : checkSellLine rates offer s line = .ok (pos, it, deposit, n)) :
    s.seller.inventory.getItemByPos pos = some it ∧ s.seller.canBeTraded pos it false false ∧
      0 < n ∧ n ≤ it.proto.getMaxStackSize := by
  unfold checkSellLine at h
  split at h
  · cases h
  split at h
  · cases h
  split at h
  · cases h
  next found hfound =>
    split at h
    · cases h
    next htrade =>
    split at h
    · cases h
    dsimp only at h
    split at h
    · cases h
    split at h
    · cases h
      exact ⟨(Inventory.getItemByGuid_eq_some hfound).1, by simpa using htrade,
        line.clampedSize_pos _, min_le_right _ _⟩
    · cases h

private theorem sellLine_ownedCount {s : SellState} {line : SellLine} {pos : ItemPos} {it : Item}
    {deposit n : Nat} (h : checkSellLine rates offer s line = .ok (pos, it, deposit, n))
    (e : Nat) : (sellLine tables rates offer s line).ownedCount e =
      s.ownedCount e + if it.entry = e then n - it.count else 0 := by
  obtain ⟨hit, htrade, hpos, hmax⟩ := checkSellLine_ok rates offer h
  have hempty := Player.canBeTraded_bagIsEmpty hit htrade
  obtain ⟨newItem, hclone⟩ :
      ∃ newItem, it.cloneItem tables s.nextItemGuid n 0 = some newItem := by
    have hn : ¬ n < 1 := by omega
    simp [Item.cloneItem, hn]
  obtain ⟨-, -, hproto, hcount⟩ := Item.cloneItem_eq_some hclone
  have htaken := itemCount_destroyItemCount hit hempty n e
  have hentry : newItem.entry = it.entry := by simp [Item.entry, hproto]
  have hsize : newItem.count = n := by rw [hcount, min_eq_left hmax]
  unfold sellLine
  simp only [h, hclone, SellState.ownedCount, AuctionHouseMgr.addAuction, auctionedCount_append]
  simp only [auctionedCount, AuctionHouseMgr.newAuction, List.map_cons, List.map_nil,
    List.sum_cons, List.sum_nil, hentry, hsize]
  by_cases he : it.entry = e
  · simp only [he, if_true, Nat.add_zero] at htaken ⊢
    omega
  · simp only [he, if_false, Nat.add_zero] at htaken ⊢
    omega

private theorem sellLine_skipped {s : SellState} {line : SellLine} {answer : Option AuctionError}
    (h : checkSellLine rates offer s line = .error answer) (e : Nat) :
    (sellLine tables rates offer s line).ownedCount e = s.ownedCount e := by
  simp only [sellLine, h, SellState.ownedCount]

private theorem sellLine_ownedCount_le (s : SellState) (line : SellLine) (e : Nat) :
    s.ownedCount e ≤ (sellLine tables rates offer s line).ownedCount e := by
  cases h : checkSellLine rates offer s line with
  | error answer => rw [sellLine_skipped tables rates offer h]
  | ok sold =>
    obtain ⟨pos, it, deposit, n⟩ := sold
    rw [sellLine_ownedCount tables rates offer h]
    exact Nat.le_add_right _ _

private theorem sellLine_keeps_iff (s : SellState) (line : SellLine) :
    (∀ e, (sellLine tables rates offer s line).ownedCount e = s.ownedCount e) ↔ WithinStack rates offer s line := by
  cases h : checkSellLine rates offer s line with
  | error answer => simp [WithinStack, h, sellLine_skipped tables rates offer h]
  | ok sold =>
    obtain ⟨pos, it, deposit, n⟩ := sold
    simp only [WithinStack, h, sellLine_ownedCount tables rates offer h]
    constructor
    · intro hkeep
      have hsold := hkeep it.entry
      simp only [if_true] at hsold
      omega
    · intro hle e
      split <;> omega

private theorem run_sellLine_auctions (s : SellState) (lines : List SellLine) :
    s.mgr.auctions <+: (run (sellLine tables rates offer) s lines).mgr.auctions := by
  induction lines generalizing s with
  | nil => exact List.prefix_refl _
  | cons line lines ih =>
    refine List.IsPrefix.trans ?_ (ih _)
    unfold sellLine
    split
    · exact List.prefix_refl _
    · split
      · exact List.prefix_refl _
      · exact List.prefix_append _ _

/-- Selling conserves every entry exactly when each line that is sold asks for no more than
the stack it names holds at its turn. -/
theorem handleAuctionSellItem_conserves_iff (s : SellState) (req : SellRequest) (now : Nat) :
    (∀ e, (handleAuctionSellItem tables rates s req now).seller.inventory.itemCount e +
        auctionedCount e (createdAuctions s (handleAuctionSellItem tables rates s req now)) =
      s.seller.inventory.itemCount e) ↔ ∀ offer, req.offer? now = some offer →
      Guarded (sellLine tables rates offer) (WithinStack rates offer) s req.lines := by
  cases hoffer : req.offer? now with
  | none => simp [handleAuctionSellItem, hoffer, createdAuctions, auctionedCount]
  | some offer =>
    have hkeeps := run_keeps_iff (sellLine_ownedCount_le tables rates offer)
      (sellLine_keeps_iff tables rates offer) s req.lines
    obtain ⟨created, hcreated⟩ := run_sellLine_auctions tables rates offer s req.lines
    simp only [handleAuctionSellItem, hoffer, Option.some.injEq, forall_eq', ← hkeeps,
      createdAuctions, SellState.ownedCount, ← hcreated, List.drop_left, auctionedCount_append]
    refine forall_congr' fun e => ?_
    omega

/-! A seller with stacks of 1 and 19 cloth names the single one and asks for a stack of 20. -/

private def cloth : ItemPrototype := .clothLike 2589

private def clothSeller : SellState where
  seller :=
    { guid := 7, account := 1, money := 100
      inventory := ⟨fun pos =>
        if pos = ⟨inventorySlotBag0, 23⟩ then
          some { guid := 101, proto := cloth, count := 1, ownerGuid := 7 }
        else if pos = ⟨inventorySlotBag0, 24⟩ then
          some { guid := 102, proto := cloth, count := 19, ownerGuid := 7 }
        else none⟩ }
  mgr := { auctions := [], aitems := [], nextAuctionId := 1 }
  nextItemGuid := 103
  results := []

private def clothRates : AuctionRates where
  deposit _ _ _ := 10
  cut _ bid := bid / 20
  auctionTime etime := etime

private def clothRequest : SellRequest where
  auctioneer := some ⟨1, .alliance⟩
  lines := [⟨101, 20⟩]
  bid := 50
  buyout := 0
  etime := 720

theorem handleAuctionSellItem_duplicates : ¬ ∀ e,
      (handleAuctionSellItem (.ofPrototypes [cloth]) clothRates clothSeller clothRequest
          0).seller.inventory.itemCount e + auctionedCount e (createdAuctions clothSeller
          (handleAuctionSellItem (.ofPrototypes [cloth]) clothRates clothSeller clothRequest 0)) =
      clothSeller.seller.inventory.itemCount e := by
  intro h
  exact absurd (h 2589) (by decide +kernel)

end Mangos
