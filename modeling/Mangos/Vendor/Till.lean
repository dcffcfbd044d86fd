import Mangos.Framework.Run
import Mangos.Vendor.Buyback

/-!
# What a session with a vendor leaves unchanged

The items of the inventory and of the buyback slots are counted together, and the till keeps what the sale
paid for the stack in each slot.
-/

namespace Mangos

open Framework

theorem mem_buybackSlots {slot : Nat} : slot ∈ buybackSlots ↔ buybackSlotStart ≤ slot ∧ slot < buybackSlotEnd := by
  rw [buybackSlots, List.mem_range'_1]
  unfold buybackSlotStart buybackSlotEnd
  omega

theorem nodup_buybackSlots : buybackSlots.Nodup := List.nodup_range'

namespace Customer

variable {tables : ItemTables} {accounts : Accounts} {c : Customer}

def heldBack (c : Customer) : Multiset Item := contents buybackSlots c.items

/-- How many items of an entry the inventory and the buyback slots hold. -/
def totalCount (c : Customer) (e : Nat) : Nat :=
  c.player.inventory.itemCount e + tally (Item.weight e) buybackSlots c.items

def stock (c : Customer) : Stock := ⟨c.player.inventory, c.nextItemGuid⟩

/-- A customer as the server keeps them: no item twice, stacks within their limits. -/
structure Sound (tables : ItemTables) (c : Customer) : Prop where
  fresh : c.stock.GuidsFresh (c.heldBack.map (·.guid))
  fits : ∀ it ∈ c.player.inventory.items + c.heldBack, it.Fits tables
  slot : c.currentBuybackSlot ∈ buybackSlots
  money : c.player.money ≤ maxMoneyAmount

theorem totalCount_eq (c : Customer) (e : Nat) : c.totalCount e =
    c.player.inventory.itemCount e + (c.heldBack.map (Item.weight e)).sum := rfl

@[simp] theorem modifyMoney_money (c : Customer) (d : Int) :
    (c.modifyMoney d).player.money = Mangos.modifyMoney c.player.money d := rfl

theorem oldestSlot_mem {slots : List Nat} {time oldest : Nat} (hslots : slots ⊆ buybackSlots)
    (holdest : oldest ∈ buybackSlots) : c.oldestSlot slots time oldest ∈ buybackSlots := by
  induction slots generalizing time oldest with
  | nil => exact holdest
  | cons i slots ih =>
    obtain ⟨hi, hrest⟩ := List.cons_subset.mp hslots
    rw [oldestSlot]
    cases c.items i with
    | none => exact holdest
    | some _ =>
      dsimp only
      split
      · exact ih hrest hi
      · exact ih hrest holdest

theorem slotToFill_mem (hslot : c.currentBuybackSlot ∈ buybackSlots) : c.slotToFill ∈ buybackSlots := by
  unfold slotToFill
  cases c.items c.currentBuybackSlot with
  | none => exact hslot
  | some _ => exact oldestSlot_mem (List.tail_subset _) (by decide)

theorem removeItemFromBuyBackSlot_eq {slot : Nat} (hslot : slot ∈ buybackSlots) :
    ∃ current, (current = c.currentBuybackSlot ∨ current = slot) ∧ c.removeItemFromBuyBackSlot slot =
        { (c.setItem slot none).setField (slot - buybackSlotStart) {} with
          currentBuybackSlot := current } := by
  have hrange := mem_buybackSlots.mp hslot
  unfold removeItemFromBuyBackSlot
  rw [if_pos (by simpa using hrange)]
  dsimp only
  split
  · exact ⟨slot, .inr rfl, rfl⟩
  · exact ⟨c.currentBuybackSlot, .inl rfl, rfl⟩

def buybackPrice (c : Customer) (slot : Nat) : Nat := (c.fields (slot - buybackSlotStart)).price

/-- What `AddItemToBuyBackSlot` changes. -/
structure Added (c c' : Customer) (it : Item) : Prop where
  player : c'.player = c.player
  nextItemGuid : c'.nextItemGuid = c.nextItemGuid
  items : c'.items = Function.update c.items c.slotToFill (some it)
  price : c'.buybackPrice c.slotToFill = it.proto.sellPrice * it.count % 2 ^ 32
  prices : ∀ slot ∈ buybackSlots, slot ≠ c.slotToFill → c'.buybackPrice slot = c.buybackPrice slot
  slot : c'.currentBuybackSlot ∈ buybackSlots

private theorem moveToNext_eq (hslot : c.currentBuybackSlot ∈ buybackSlots) :
    ∃ current ∈ buybackSlots, c.moveToNext = { c with currentBuybackSlot := current } := by
  have hrange := mem_buybackSlots.mp hslot
  unfold moveToNext
  split
  next hlast => exact ⟨c.currentBuybackSlot + 1, mem_buybackSlots.mpr (by omega), rfl⟩
  next => exact ⟨c.currentBuybackSlot, hslot, rfl⟩

theorem addItemToBuyBackSlot_eq (hslot : c.currentBuybackSlot ∈ buybackSlots) (it : Item)
    (now : Nat) : ∃ current ∈ buybackSlots, c.addItemToBuyBackSlot it now =
      { c.fillSlot c.slotToFill it now with currentBuybackSlot := current } := by
  have hfill := slotToFill_mem hslot
  obtain ⟨current, hcurrent, hremoved⟩ := @removeItemFromBuyBackSlot_eq c _ hfill
  have hmem : current ∈ buybackSlots := by
    rcases hcurrent with rfl | rfl
    · exact hslot
    · exact hfill
  obtain ⟨next, hnext, hmoved⟩ :=
    @moveToNext_eq ((c.removeItemFromBuyBackSlot c.slotToFill).fillSlot c.slotToFill it now) (by
      rw [hremoved]
      exact hmem)
  refine ⟨next, hnext, ?_⟩
  rw [addItemToBuyBackSlot, hmoved, hremoved]
  simp [fillSlot, setItem, setField]

theorem added_addItemToBuyBackSlot (hslot : c.currentBuybackSlot ∈ buybackSlots) (it : Item)
    (now : Nat) : c.Added (c.addItemToBuyBackSlot it now) it := by
  obtain ⟨next, hnext, heq⟩ := addItemToBuyBackSlot_eq hslot it now
  rw [heq]
  refine ⟨rfl, rfl, rfl, ?_, fun slot hmem hne => ?_, hnext⟩
  · simp [buybackPrice, fillSlot, setField]
  · have hother : slot - buybackSlotStart ≠ c.slotToFill - buybackSlotStart := by
      have hrange := mem_buybackSlots.mp hmem
      have hrange' := mem_buybackSlots.mp (slotToFill_mem hslot)
      omega
    simp [buybackPrice, fillSlot, setField, setItem, Function.update_of_ne hother]

theorem Added.heldBack {c' : Customer} {it : Item} (h : c.Added c' it) (hslot : c.currentBuybackSlot ∈ buybackSlots) :
    c'.heldBack + held (c.items c.slotToFill) = c.heldBack + {it} := by
  rw [Customer.heldBack, h.items, Customer.heldBack, ← held_some]
  exact contents_update nodup_buybackSlots (slotToFill_mem hslot) _ _

/-- What is left of the inventory, and the stack that was taken out of it. -/
structure Taken (tables : ItemTables) (c : Customer) (sold : Item) (count : Nat) (inv : Inventory)
    (next : Nat) (it : Item) : Prop where
  proto : it.proto = sold.proto
  count : it.count = count
  fits : it.Fits tables
  counts : ∀ e, inv.itemCount e + Item.weight e it = c.player.inventory.itemCount e
  fresh : (⟨inv, next⟩ : Stock).GuidsFresh (it.guid ::ₘ c.heldBack.map (·.guid))
  itemsFit : ∀ it ∈ inv.items, it.Fits tables

theorem checkSellItem_ok {req : SellItem} {pos : ItemPos} {it : Item} {count : Nat}
    (h : c.checkSellItem req = .ok (pos, it, count)) :
    c.player.inventory.getItemByPos pos = some it ∧ c.player.inventory.bagIsEmpty pos ∧
      count ≤ it.count ∧ (count = 0 → it.count = 0) ∧ 0 < it.proto.sellPrice := by
  unfold checkSellItem at h
  split at h
  · cases h
  split at h
  · cases h
  split at h
  · cases h
  next hfound =>
    split at h
    · cases h
    split at h
    · cases h
    next hbag =>
      split at h
      · cases h
      split at h
      · cases h
      split at h
      · cases h
      next hcount =>
        split at h
        · cases h
        next hprice =>
          cases h
          have hshown := (Inventory.getItemByGuid_eq_some hfound).1
          refine ⟨hshown, ?_, ?_, ?_, Nat.pos_of_ne_zero hprice⟩
          · by_cases hisBag : it.isBag
            · simpa [hisBag] using hbag
            · exact Inventory.bagIsEmpty_of_not_isBag hshown (by simpa using hisBag)
          · split <;> omega
          · split <;> omega

private theorem sum_eq_of_items {inv inv' : Inventory} {m m' : Multiset Item}
    (h : inv'.items + m = inv.items + m') (e : Nat) : inv'.itemCount e + (m.map (Item.weight e)).sum =
      inv.itemCount e + (m'.map (Item.weight e)).sum := by
  have hsum := congrArg (fun items => (items.map (Item.weight e)).sum) h
  simpa only [Multiset.map_add, Multiset.sum_add, ← Inventory.itemCount_eq_sum] using hsum

private theorem taken_whole (h : c.Sound tables) {pos : ItemPos} {it : Item}
    (hit : c.player.inventory.getItemByPos pos = some it) (hempty : c.player.inventory.bagIsEmpty pos) :
    c.Taken tables it it.count (c.player.inventory.removeItem pos) c.nextItemGuid it := by
  have hremove : c.player.inventory.removeItem pos = c.player.inventory.put pos none := by
    simp [Inventory.removeItem, hit]
  have hitems := Inventory.items_put_none hit hempty
  rw [← hremove] at hitems
  have hguids : it.guid ::ₘ (c.player.inventory.removeItem pos).items.map (·.guid) =
      c.player.inventory.items.map (·.guid) := by
    rw [← hitems, Multiset.map_add, Multiset.map_singleton, Multiset.add_comm, Multiset.singleton_add]
  have hfresh := h.fresh
  refine ⟨rfl, rfl, ?_, fun e => ?_, ⟨?_, ?_⟩, fun other hother => ?_⟩
  · exact h.fits it (Multiset.mem_add.mpr (.inl (Inventory.mem_items.mpr ⟨pos, hit⟩)))
  · have hsum := @sum_eq_of_items c.player.inventory (c.player.inventory.removeItem pos) {it} 0
      (by rw [add_zero]; exact hitems) e
    simpa using hsum
  · have hnodup := hfresh.nodup
    rw [stock, ← hguids, Multiset.cons_add] at hnodup
    rw [Multiset.add_cons]
    exact hnodup
  · intro g hg
    refine hfresh.lt g ?_
    rw [stock, ← hguids, Multiset.cons_add]
    rw [Multiset.add_cons] at hg
    exact hg
  · refine h.fits other (Multiset.mem_add.mpr (.inl ?_))
    rw [← hitems]
    exact Multiset.mem_add.mpr (.inl hother)

private theorem taken_part (h : c.Sound tables) {pos : ItemPos} {it newItem : Item} {count : Nat}
    (hit : c.player.inventory.getItemByPos pos = some it) (hlt : count < it.count)
    (hclone : it.cloneItem tables c.nextItemGuid count c.player.guid = some newItem) :
    c.Taken tables it count (c.player.inventory.put pos (some { it with count := it.count - count }))
      (c.nextItemGuid + 1) newItem := by
  obtain ⟨hpos, hguid, hproto, hcount⟩ := Item.cloneItem_eq_some hclone
  have hfits := h.fits it (Multiset.mem_add.mpr (.inl (Inventory.mem_items.mpr ⟨pos, hit⟩)))
  have hsize : newItem.count = count := by
    rw [hcount]
    exact min_eq_left (hlt.le.trans hfits.le)
  have hitems := @Inventory.items_put_same c.player.inventory pos it
    { it with count := it.count - count } hit rfl
  have hguids : (c.player.inventory.put pos
      (some { it with count := it.count - count })).items.map (·.guid) =
        c.player.inventory.items.map (·.guid) := by
    have hmap := congrArg (Multiset.map Item.guid) hitems
    rw [Multiset.map_add, Multiset.map_add, Multiset.map_singleton, Multiset.map_singleton] at hmap
    exact add_right_cancel hmap
  have hfresh := h.fresh
  refine ⟨hproto, hsize, ?_, fun e => ?_, ⟨?_, ?_⟩, fun other hother => ?_⟩
  · exact hfits.transfer hproto (by omega) (by have := hfits.le; omega)
  · have hsum := sum_eq_of_items hitems e
    have hentry : newItem.entry = it.entry := congrArg ItemPrototype.itemId hproto
    simp only [Multiset.map_singleton, Multiset.sum_singleton, Item.weight_count] at hsum
    unfold Item.weight at hsum ⊢
    rw [hentry, hsize]
    by_cases he : it.entry = e
    · simp only [he, if_true] at hsum ⊢
      omega
    · simp only [he, if_false] at hsum ⊢
      omega
  · rw [Multiset.add_cons, Multiset.nodup_cons, hguids]
    refine ⟨fun hmem => ?_, hfresh.nodup⟩
    have hlt := hfresh.lt _ hmem
    rw [hguid] at hlt
    exact absurd hlt (lt_irrefl _)
  · intro g hg
    rw [Multiset.add_cons, Multiset.mem_cons, hguids, hguid] at hg
    rcases hg with rfl | hg
    · exact Nat.lt_succ_self _
    · exact (hfresh.lt g hg).trans (Nat.lt_succ_self _)
  · have hmem : other ∈ c.player.inventory.items + {{ it with count := it.count - count }} := by
      rw [← hitems]
      exact Multiset.mem_add.mpr (.inl hother)
    rcases Multiset.mem_add.mp hmem with hold | hnew
    · exact h.fits other (Multiset.mem_add.mpr (.inl hold))
    · rw [Multiset.mem_singleton.mp hnew]
      have hle := hfits.le
      exact hfits.transfer rfl (Nat.sub_pos_of_lt hlt) ((Nat.sub_le _ _).trans hle)

def withStock (c : Customer) (inv : Inventory) (next : Nat) : Customer :=
  { c.setInventory inv with nextItemGuid := next }

theorem takeSold_taken (h : c.Sound tables) {req : SellItem} {pos : ItemPos} {it : Item}
    {count : Nat} (hcheck : c.checkSellItem req = .ok (pos, it, count)) :
    ∃ inv next sold, c.Taken tables it count inv next sold ∧ c.takeSold tables pos it count req.now =
        some ((c.withStock inv next).addItemToBuyBackSlot sold req.now) := by
  obtain ⟨hit, hempty, hle, hnone, -⟩ := checkSellItem_ok hcheck
  have hfits := h.fits it (Multiset.mem_add.mpr (.inl (Inventory.mem_items.mpr ⟨pos, hit⟩)))
  have hpos : 0 < count := by
    have hsome := hfits.pos
    omega
  unfold takeSold
  by_cases hlt : count < it.count
  · rw [if_pos hlt]
    obtain ⟨newItem, hclone⟩ :
        ∃ newItem, it.cloneItem tables c.nextItemGuid count c.player.guid = some newItem := by
      simp [Item.cloneItem, Nat.not_lt.mpr hpos]
    exact ⟨_, _, newItem, taken_part h hit hlt hclone, by rw [hclone]; rfl⟩
  · rw [if_neg hlt]
    obtain rfl : count = it.count := by omega
    exact ⟨_, _, it, taken_whole h hit hempty, rfl⟩

private theorem held_weight (e : Nat) (v : Option Item) :
    ((held v).map (Item.weight e)).sum = v.elim 0 (Item.weight e) := by
  cases v <;> simp

private theorem Taken.sound {sold it : Item} {count : Nat} {inv : Inventory} {next : Nat}
    {c' : Customer} (h : c.Sound tables) (htaken : c.Taken tables sold count inv next it)
    (hadded : (c.withStock inv next).Added c' it) : c'.Sound tables := by
  have hheld : c'.heldBack + held (c.items c.slotToFill) = c.heldBack + {it} := hadded.heldBack h.slot
  have hle : c'.heldBack ≤ it ::ₘ c.heldBack := by
    rw [← Multiset.singleton_add, Multiset.add_comm, ← hheld]
    exact Multiset.le_add_right _ _
  have hinv : c'.player.inventory = inv := by
    rw [hadded.player]
    rfl
  have hguids : inv.items.map (·.guid) + c'.heldBack.map (·.guid) ≤
      inv.items.map (·.guid) + it.guid ::ₘ c.heldBack.map (·.guid) := by
    rw [← Multiset.map_cons (fun it : Item => it.guid)]
    exact Multiset.add_le_add_left (Multiset.map_le_map hle)
  have hstock : c'.stock = ⟨inv, next⟩ := by
    rw [stock, hinv, hadded.nextItemGuid]
    rfl
  refine ⟨⟨?_, fun g hg => ?_⟩, fun other hother => ?_, hadded.slot, ?_⟩
  · rw [hstock]
    exact Multiset.nodup_of_le hguids htaken.fresh.nodup
  · rw [hstock] at hg ⊢
    exact htaken.fresh.lt g (Multiset.mem_of_le hguids hg)
  · rw [hinv] at hother
    rcases Multiset.mem_add.mp hother with hinside | hback
    · exact htaken.itemsFit other hinside
    · rcases Multiset.mem_cons.mp (Multiset.mem_of_le hle hback) with rfl | hold
      · exact htaken.fits
      · exact h.fits other (Multiset.mem_add.mpr (.inr hold))
  · rw [hadded.player]
    exact h.money

private theorem Taken.counts_added {sold it : Item} {count : Nat} {inv : Inventory} {next : Nat}
    {c' : Customer} (h : c.Sound tables) (htaken : c.Taken tables sold count inv next it)
    (hadded : (c.withStock inv next).Added c' it) (e : Nat) :
    c'.totalCount e + (c.items c.slotToFill).elim 0 (Item.weight e) = c.totalCount e := by
  have hheld : c'.heldBack + held (c.items c.slotToFill) = c.heldBack + {it} := hadded.heldBack h.slot
  have hsum : (c'.heldBack.map (Item.weight e)).sum + (c.items c.slotToFill).elim 0 (Item.weight e) =
      (c.heldBack.map (Item.weight e)).sum + Item.weight e it := by
    rw [← held_weight, ← Multiset.sum_add, ← Multiset.map_add, hheld, Multiset.map_add,
      Multiset.sum_add, Multiset.map_singleton, Multiset.sum_singleton]
  have htotal := htaken.counts e
  have hinv : c'.player.inventory = inv := by
    rw [hadded.player]
    rfl
  rw [totalCount_eq, totalCount_eq, hinv]
  omega

/-- What a sale does. -/
structure Sold (tables : ItemTables) (c c' : Customer) (it : Item) (count : Nat) : Prop where
  sound : c'.Sound tables
  counts : ∀ e, c'.totalCount e + (c.items c.slotToFill).elim 0 (Item.weight e) = c.totalCount e
  price : c'.buybackPrice c.slotToFill = it.proto.sellPrice * count % 2 ^ 32
  others : ∀ slot ∈ buybackSlots, slot ≠ c.slotToFill →
    c'.items slot = c.items slot ∧ c'.buybackPrice slot = c.buybackPrice slot
  money : c'.player.money = Mangos.modifyMoney c.player.money (it.proto.sellPrice * count % 2 ^ 32 : Nat)

theorem sold_handleSellItem (h : c.Sound tables) {req : SellItem} {pos : ItemPos} {it : Item}
    {count : Nat} (hcheck : c.checkSellItem req = .ok (pos, it, count)) :
    c.Sold tables (c.handleSellItem tables req).1 it count := by
  obtain ⟨inv, next, sold, htaken, htake⟩ := takeSold_taken h hcheck
  have hslot : (c.withStock inv next).currentBuybackSlot ∈ buybackSlots := h.slot
  have hadded := added_addItemToBuyBackSlot hslot sold req.now
  unfold handleSellItem
  rw [hcheck]
  dsimp only
  rw [htake]
  dsimp only
  generalize (c.withStock inv next).addItemToBuyBackSlot sold req.now = c' at hadded ⊢
  have hsound := htaken.sound h hadded
  have hcounts := htaken.counts_added h hadded
  have hpaid : it.proto.sellPrice * count % 2 ^ 32 ≤ maxMoneyAmount := by
    have hword := Nat.mod_lt (it.proto.sellPrice * count) (show 0 < 2 ^ 32 by decide)
    unfold maxMoneyAmount
    omega
  have hmoney : c'.player.money = c.player.money := by
    rw [hadded.player]
    rfl
  refine ⟨⟨hsound.fresh, hsound.fits, hsound.slot, ?_⟩, hcounts, ?_,
    fun slot hmem hne => ⟨?_, hadded.prices slot hmem hne⟩, ?_⟩
  · exact (modifyMoney_add hpaid).trans_le (Nat.min_le_right _ _)
  · rw [← htaken.proto, ← htaken.count]
    exact hadded.price
  · change c'.items slot = c.items slot
    rw [hadded.items]
    exact Function.update_of_ne hne _ _
  · rw [modifyMoney_money, hmoney]

theorem checkBuybackItem_ok {req : BuybackItem} {it : Item} {price : Nat} {dest : List ItemPosCount}
    (h : c.checkBuybackItem tables accounts req = .ok (it, price, dest)) :
    req.slot ∈ buybackSlots ∧ c.items req.slot = some it ∧ price = c.buybackPrice req.slot ∧
      price ≤ c.player.money ∧ (c.player.canStoreItemAnywhere tables accounts it []).result = .ok ∧
      dest = (c.player.canStoreItemAnywhere tables accounts it []).dest := by
  unfold checkBuybackItem at h
  split at h
  · cases h
  split at h
  · cases h
  next hitem =>
    dsimp only at h
    split at h
    · cases h
    next hmoney =>
      split at h
      next hok =>
        cases h
        unfold getItemFromBuyBackSlot at hitem
        split at hitem
        next hrange =>
          exact ⟨mem_buybackSlots.mpr (by simpa using hrange), hitem, rfl, by omega, hok, rfl⟩
        next => cases hitem
      next => cases h

/-- What buying back does. -/
structure BoughtBack (tables : ItemTables) (c c' : Customer) (slot price : Nat) : Prop where
  sound : c'.Sound tables
  counts : ∀ e, c'.totalCount e = c.totalCount e
  emptied : c'.items slot = none
  others : ∀ slot' ∈ buybackSlots, slot' ≠ slot →
    c'.items slot' = c.items slot' ∧ c'.buybackPrice slot' = c.buybackPrice slot'
  money : c'.player.money + price = c.player.money

private theorem admits_back (h : c.Sound tables) {slot : Nat} {it : Item}
    (hslot : slot ∈ buybackSlots) (hitem : c.items slot = some it)
    (hok : (c.player.canStoreItemAnywhere tables accounts it []).result = .ok) :
    let dest := (c.player.canStoreItemAnywhere tables accounts it []).dest
    (dest.map (·.pos)).Nodup ∧ (∀ p ∈ dest, 0 < p.count ∧ c.player.inventory.Admits it.proto p.pos p.count) ∧
      placed dest = it.count := by
  have hmem : it ∈ c.heldBack := mem_contents.mpr ⟨slot, hslot, hitem⟩
  have hfits := h.fits it (Multiset.mem_add.mpr (.inr hmem))
  obtain ⟨proto, hproto, hfeasible⟩ :=
    @Player.canStoreItem_feasible tables accounts c.player
      { entry := it.entry, count := it.count, pItem := some it } rfl hfits.pos hok
  obtain rfl : proto = it.proto := by
    have hknown := hfits.known
    rw [hproto] at hknown
    exact Option.some.inj hknown
  have hout : ∀ other ∈ c.player.inventory.items,
      (some it : Option Item).any (fun it => decide (it.guid = other.guid)) = false := by
    intro other hother
    have hdisjoint := (Multiset.nodup_add.mp h.fresh.nodup).2.2
    have hne := Multiset.disjoint_left.mp hdisjoint (Multiset.mem_map_of_mem (·.guid) hother)
    simp only [Option.any_some, decide_eq_false_iff_not]
    intro heq
    exact hne (heq ▸ Multiset.mem_map_of_mem (·.guid) hmem)
  refine ⟨hfeasible.distinct, fun p hp => ?_, hfeasible.total⟩
  obtain ⟨hpos, hadmits⟩ := hfeasible.admitted p hp
  exact ⟨hpos, hadmits.toInventory hout⟩

theorem boughtBack_handleBuybackItem (h : c.Sound tables) {req : BuybackItem} {it : Item}
    {price : Nat} {dest : List ItemPosCount} (hcheck : c.checkBuybackItem tables accounts req = .ok (it, price, dest)) :
    c.BoughtBack tables (c.handleBuybackItem tables accounts req).1 req.slot price := by
  obtain ⟨hslot, hitem, rfl, hmoney, hok, rfl⟩ := checkBuybackItem_ok hcheck
  obtain ⟨hdistinct, hadmits, hplaced⟩ := admits_back h hslot hitem hok
  have hmem : it ∈ c.heldBack := mem_contents.mpr ⟨req.slot, hslot, hitem⟩
  have hfits := h.fits it (Multiset.mem_add.mpr (.inr hmem))
  obtain ⟨current, hcurrent, hremoved⟩ :=
    @removeItemFromBuyBackSlot_eq (c.modifyMoney (-(c.buybackPrice req.slot : Int))) _ hslot
  have hheld : contents buybackSlots (Function.update c.items req.slot none) + {it} = c.heldBack := by
    have hupdate := contents_update nodup_buybackSlots hslot c.items none
    rw [hitem, held_some, held_none, add_zero] at hupdate
    exact hupdate
  have hpaid : Mangos.modifyMoney c.player.money (-(c.buybackPrice req.slot : Int)) =
      c.player.money - c.buybackPrice req.slot := modifyMoney_neg hmoney h.money
  unfold handleBuybackItem
  rw [hcheck]
  dsimp only
  rw [hremoved]
  generalize (c.player.canStoreItemAnywhere tables accounts it []).dest = dest at *
  have hinside : ∀ other ∈ (c.stock.storeItem tables c.player.guid it dest).inventory.items,
      other.Fits tables :=
    Stock.fits_storeItem hdistinct
      (fun other hother => h.fits other (Multiset.mem_add.mpr (.inl hother))) hfits.known hadmits
  have hfresh : c.stock.GuidsFresh
      (it.guid ::ₘ (contents buybackSlots (Function.update c.items req.slot none)).map (·.guid)) := by
    rw [← Multiset.map_cons (fun it : Item => it.guid), ← Multiset.singleton_add, Multiset.add_comm, hheld]
    exact h.fresh
  have hstored : (c.stock.storeItem tables c.player.guid it dest).GuidsFresh
      ((contents buybackSlots (Function.update c.items req.slot none)).map (·.guid)) :=
    hfresh.storeItem fun p hp => ⟨(hadmits p hp).1, (hadmits p hp).2.1⟩
  refine ⟨⟨hstored, fun other hother => ?_, ?_, ?_⟩, fun e => ?_, Function.update_self _ _ _,
    fun slot' hmem' hne => ⟨Function.update_of_ne hne _ _, ?_⟩, ?_⟩
  · rcases Multiset.mem_add.mp hother with hold | hback
    · exact hinside other hold
    · refine h.fits other (Multiset.mem_add.mpr (.inr ?_))
      rw [← hheld]
      exact Multiset.mem_add.mpr (.inl hback)
  · change current ∈ buybackSlots
    rcases hcurrent with rfl | rfl
    · exact h.slot
    · exact hslot
  · change Mangos.modifyMoney c.player.money _ ≤ _
    rw [hpaid]
    exact (Nat.sub_le _ _).trans h.money
  · have hcount : (c.stock.storeItem tables c.player.guid it dest).inventory.itemCount e =
        c.player.inventory.itemCount e + if it.entry = e then placed dest else 0 :=
      Stock.itemCount_storeItem hdistinct hadmits e
    have hsum : ((contents buybackSlots (Function.update c.items req.slot none)).map
        (Item.weight e)).sum + Item.weight e it = (c.heldBack.map (Item.weight e)).sum := by
      rw [← hheld, Multiset.map_add, Multiset.sum_add, Multiset.map_singleton, Multiset.sum_singleton]
    rw [hplaced] at hcount
    change (c.stock.storeItem tables c.player.guid it dest).inventory.itemCount e +
      ((contents buybackSlots (Function.update c.items req.slot none)).map (Item.weight e)).sum =
        c.player.inventory.itemCount e + (c.heldBack.map (Item.weight e)).sum
    rw [hcount, ← hsum, Item.weight]
    omega
  · have hother : slot' - buybackSlotStart ≠ req.slot - buybackSlotStart := by
      have hrange := mem_buybackSlots.mp hslot
      have hrange' := mem_buybackSlots.mp hmem'
      omega
    exact congrArg BuybackField.price (Function.update_of_ne hother _ _)
  · change Mangos.modifyMoney c.player.money _ + _ = _
    rw [hpaid]
    omega

def carriesOut (c : Customer) (tables : ItemTables) (accounts : Accounts) : VendorRequest → Bool
  | .sell req => match c.checkSellItem req with
      | .ok _ => true
      | .error _ => false
  | .buyback req => match c.checkBuybackItem tables accounts req with
      | .ok _ => true
      | .error _ => false

def evicted (c : Customer) : VendorRequest → Option Item
  | .sell req => match c.checkSellItem req with
      | .ok _ => c.items c.slotToFill
      | .error _ => none
  | .buyback _ => none

/-- What a sale pays is short enough for a word, and for the balance. -/
def PaidInFull (c : Customer) : VendorRequest → Prop
  | .sell req => match c.checkSellItem req with
      | .ok (_, it, count) => it.proto.sellPrice * count < 2 ^ 32 ∧
          c.player.money + it.proto.sellPrice * count ≤ maxMoneyAmount
      | .error _ => True
  | .buyback _ => True

instance (c : Customer) (req : VendorRequest) : Decidable (c.PaidInFull req) := by
  unfold PaidInFull
  split
  · split <;> infer_instance
  · infer_instance

end Customer

/-- A customer, and what the sale of the stack in each buyback slot paid. -/
structure Till where
  customer : Customer
  paid : Nat → Nat

namespace Till

variable (tables : ItemTables) (accounts : Accounts)

/-- A request is handled, and what a sale adds to the balance is noted for the slot it fills. -/
def step (t : Till) (req : VendorRequest) : Till :=
  let customer := t.customer.step tables accounts req
  match req with
  | .sell _ =>
    if t.customer.carriesOut tables accounts req then
      ⟨customer, Function.update t.paid t.customer.slotToFill
        (customer.player.money - t.customer.player.money)⟩
    else ⟨customer, t.paid⟩
  | .buyback _ => ⟨customer, t.paid⟩

/-- The prices in the fields are those that were paid. -/
structure Booked (t : Till) : Prop where
  sound : t.customer.Sound tables
  paid : ∀ slot ∈ buybackSlots, (t.customer.items slot).isSome → t.customer.buybackPrice slot = t.paid slot

/-- Nothing is lost or gained at a request: not a stack but for the one driven out, and no money. -/
structure Exact (t : Till) (req : VendorRequest) : Prop where
  refused : t.customer.carriesOut tables accounts req = false → (t.step tables accounts req).customer = t.customer
  counts : ∀ e, (t.step tables accounts req).customer.totalCount e +
    (t.customer.evicted req).elim 0 (Item.weight e) = t.customer.totalCount e
  sale : ∀ sell pos it count, req = .sell sell → t.customer.checkSellItem sell = .ok (pos, it, count) →
    (t.step tables accounts req).customer.player.money = t.customer.player.money + it.proto.sellPrice * count
  buyback : ∀ back, req = .buyback back → t.customer.carriesOut tables accounts req →
    (t.step tables accounts req).customer.player.money + t.paid back.slot = t.customer.player.money

variable {tables accounts} {t : Till}

private theorem pays_iff {money product : Nat} : modifyMoney money (product % 2 ^ 32 : Nat) = money + product ↔
      product < 2 ^ 32 ∧ money + product ≤ maxMoneyAmount := by
  have hword := Nat.mod_lt product (show 0 < 2 ^ 32 by decide)
  rw [modifyMoney_add (show product % 2 ^ 32 ≤ maxMoneyAmount by unfold maxMoneyAmount; omega)]
  constructor
  · intro hexact
    have hle := Nat.min_le_left (money + product % 2 ^ 32) maxMoneyAmount
    have hmax := Nat.min_le_right (money + product % 2 ^ 32) maxMoneyAmount
    have hmod := Nat.mod_le product (2 ^ 32)
    omega
  · rintro ⟨hproduct, hroom⟩
    rw [Nat.mod_eq_of_lt hproduct]
    exact Nat.min_eq_left hroom

private theorem step_sell_ok {sell : SellItem} {pos : ItemPos} {it : Item} {count : Nat}
    (hcheck : t.customer.checkSellItem sell = .ok (pos, it, count)) : t.step tables accounts (.sell sell) =
      ⟨(t.customer.handleSellItem tables sell).1, Function.update t.paid t.customer.slotToFill
        ((t.customer.handleSellItem tables sell).1.player.money - t.customer.player.money)⟩ := by
  simp only [step, Customer.step, Customer.carriesOut, hcheck, if_true]

private theorem step_sell_error {sell : SellItem} {reply : Option VendorReply}
    (hcheck : t.customer.checkSellItem sell = .error reply) : t.step tables accounts (.sell sell) = t := by
  simp [step, Customer.step, Customer.carriesOut, Customer.handleSellItem, hcheck]

private theorem step_buyback_error {back : BuybackItem} {reply : VendorReply}
    (hcheck : t.customer.checkBuybackItem tables accounts back = .error reply) :
    t.step tables accounts (.buyback back) = t := by
  simp [step, Customer.step, Customer.handleBuybackItem, hcheck]

private theorem exact_refused {req : VendorRequest} (hstep : t.step tables accounts req = t)
    (hno : t.customer.carriesOut tables accounts req = false) (hevicted : t.customer.evicted req = none)
    (hsale : ∀ sell pos it count, req = .sell sell →
      t.customer.checkSellItem sell ≠ .ok (pos, it, count)) : t.Exact tables accounts req := by
  refine ⟨fun _ => congrArg customer hstep, fun e => ?_, ?_, ?_⟩
  · rw [hstep, hevicted]
    rfl
  · intro sell pos it count hreq hcheck
    exact absurd hcheck (hsale sell pos it count hreq)
  · intro back _ hyes
    rw [hno] at hyes
    cases hyes

private theorem exact_sell_iff (h : t.Booked tables) (sell : SellItem) :
    t.Exact tables accounts (.sell sell) ↔ t.customer.PaidInFull (.sell sell) := by
  cases hcheck : t.customer.checkSellItem sell with
  | error reply =>
    have hexact : t.Exact tables accounts (.sell sell) := by
      refine exact_refused (step_sell_error hcheck) ?_ ?_ ?_
      · simp only [Customer.carriesOut, hcheck]
      · simp only [Customer.evicted, hcheck]
      · rintro _ pos it count ⟨⟩ hok
        rw [hcheck] at hok
        cases hok
    simp only [hexact, Customer.PaidInFull, hcheck]
  | ok sold =>
    obtain ⟨pos, it, count⟩ := sold
    have hsold := Customer.sold_handleSellItem h.sound hcheck
    have hpays := @pays_iff t.customer.player.money (it.proto.sellPrice * count)
    rw [← hsold.money] at hpays
    have hfull : t.customer.PaidInFull (.sell sell) ↔ it.proto.sellPrice * count < 2 ^ 32 ∧
          t.customer.player.money + it.proto.sellPrice * count ≤ maxMoneyAmount := by
      simp only [Customer.PaidInFull, hcheck]
    rw [hfull, ← hpays]
    constructor
    · intro hexact
      have hsale := hexact.sale sell pos it count rfl hcheck
      rw [step_sell_ok hcheck] at hsale
      exact hsale
    · intro hmoney
      refine ⟨fun hno => ?_, fun e => ?_, ?_, ?_⟩
      · simp only [Customer.carriesOut, hcheck] at hno
        cases hno
      · have hcounts := hsold.counts e
        rw [step_sell_ok hcheck]
        simp only [Customer.evicted, hcheck]
        exact hcounts
      · rintro _ pos' it' count' ⟨⟩ hok
        rw [hcheck] at hok
        cases hok
        rw [step_sell_ok hcheck]
        exact hmoney
      · rintro back ⟨⟩

private theorem exact_buyback (h : t.Booked tables) (back : BuybackItem) : t.Exact tables accounts (.buyback back) := by
  cases hcheck : t.customer.checkBuybackItem tables accounts back with
  | error reply =>
    refine exact_refused (step_buyback_error hcheck) ?_ rfl ?_
    · simp only [Customer.carriesOut, hcheck]
    · rintro sell pos it count ⟨⟩
  | ok bought =>
    obtain ⟨it, price, dest⟩ := bought
    obtain ⟨hslot, hitem, hprice, -⟩ := Customer.checkBuybackItem_ok hcheck
    have hback := Customer.boughtBack_handleBuybackItem h.sound hcheck
    have hpaid := h.paid back.slot hslot (by rw [hitem]; rfl)
    refine ⟨fun hno => ?_, fun e => hback.counts e, ?_, ?_⟩
    · simp only [Customer.carriesOut, hcheck] at hno
      cases hno
    · rintro sell pos it' count ⟨⟩
    · rintro _ ⟨⟩ _
      rw [← hpaid, ← hprice]
      exact hback.money

theorem exact_iff (h : t.Booked tables) (req : VendorRequest) :
    t.Exact tables accounts req ↔ t.customer.PaidInFull req := by
  cases req with
  | sell sell => exact exact_sell_iff h sell
  | buyback back =>
    constructor
    · intro _
      trivial
    · intro _
      exact exact_buyback h back

theorem booked_step (h : t.Booked tables) {req : VendorRequest} (hpaid : t.customer.PaidInFull req) :
    (t.step tables accounts req).Booked tables := by
  cases req with
  | sell sell =>
    cases hcheck : t.customer.checkSellItem sell with
    | error reply =>
      rw [step_sell_error hcheck]
      exact h
    | ok sold =>
      obtain ⟨pos, it, count⟩ := sold
      have hsold := Customer.sold_handleSellItem h.sound hcheck
      have hexact := ((@exact_iff tables accounts t h _).mpr hpaid).sale sell pos it count rfl
        hcheck
      rw [step_sell_ok hcheck] at hexact ⊢
      refine ⟨hsold.sound, fun slot hmem hsome => ?_⟩
      dsimp only at hexact hsome ⊢
      by_cases hfilled : slot = t.customer.slotToFill
      · subst hfilled
        simp only [Customer.PaidInFull, hcheck] at hpaid
        rw [Function.update_self, hsold.price, Nat.mod_eq_of_lt hpaid.1, hexact, Nat.add_sub_cancel_left]
      · obtain ⟨hitems, hprices⟩ := hsold.others slot hmem hfilled
        rw [hitems] at hsome
        rw [Function.update_of_ne hfilled, hprices]
        exact h.paid slot hmem hsome
  | buyback back =>
    cases hcheck : t.customer.checkBuybackItem tables accounts back with
    | error reply =>
      rw [step_buyback_error hcheck]
      exact h
    | ok bought =>
      obtain ⟨it, price, dest⟩ := bought
      have hback := Customer.boughtBack_handleBuybackItem h.sound hcheck
      refine ⟨hback.sound, fun slot hmem hsome => ?_⟩
      by_cases hemptied : slot = back.slot
      · subst hemptied
        change ((t.customer.handleBuybackItem tables accounts back).1.items back.slot).isSome at hsome
        rw [hback.emptied] at hsome
        cases hsome
      · obtain ⟨hitems, hprices⟩ := hback.others slot hmem hemptied
        exact hprices.trans (h.paid slot hmem (hitems ▸ hsome))

/-- In a session nothing is lost or gained exactly when every sale is paid in full. -/
theorem vendor_exact_iff (h : t.Booked tables) (reqs : List VendorRequest) :
    Guarded (step tables accounts) (Exact tables accounts) t reqs ↔
      Guarded (step tables accounts) (fun t req => t.customer.PaidInFull req) t reqs := by
  constructor
  · intro hexact
    refine @guarded_of_invariant _ _ _ _ _ (Booked tables) ?_ ?_ _ _ hexact h
    · intro t req hreq hbooked
      exact booked_step hbooked ((exact_iff hbooked req).mp hreq)
    · intro t req hreq hbooked
      exact (exact_iff hbooked req).mp hreq
  · intro hpaid
    refine @guarded_of_invariant _ _ _ _ _ (Booked tables) ?_ ?_ _ _ hpaid h
    · intro t req hreq hbooked
      exact booked_step hbooked hreq
    · intro t req hreq hbooked
      exact (exact_iff hbooked req).mpr hreq

/-! Two hundred pieces of silk that a vendor pays 3000 gold each for. -/

private def silk : ItemPrototype :=
  { ItemPrototype.inBulk 4306 with sellPrice := 30000000 }

private def silkStack : Item := { guid := 101, proto := silk, count := 200, ownerGuid := 7 }

private def silkTill : Till where
  customer :=
    { player :=
        { guid := 7, account := 1, money := 0
          inventory := ⟨fun pos =>
            if pos = ⟨inventorySlotBag0, 23⟩ then some silkStack else none⟩ }
      nextItemGuid := 102
      items := fun _ => none
      fields := fun _ => {}
      currentBuybackSlot := buybackSlotStart
      logintime := 0 }
  paid := fun _ => 0

private theorem silkTill_booked : silkTill.Booked (.ofPrototypes [silk]) where
  sound :=
    { fresh := ⟨by decide +kernel, by decide +kernel⟩
      fits := by decide +kernel
      slot := by decide
      money := by decide }
  paid slot _ hsome := by cases hsome

theorem vendor_exact_silk :
    Guarded (step (.ofPrototypes [silk]) .oneEach) (Exact (.ofPrototypes [silk]) .oneEach) silkTill
      [.sell ⟨true, 101, 3, 60⟩, .buyback ⟨true, buybackSlotStart⟩] :=
  (vendor_exact_iff silkTill_booked _).mpr (by decide +kernel)

/-- All of it together brings as much as the price leaves in a word. -/
theorem sale_not_exact_silk : silkTill.Booked (.ofPrototypes [silk]) ∧
    ¬ Guarded (step (.ofPrototypes [silk]) .oneEach) (Exact (.ofPrototypes [silk]) .oneEach) silkTill
      [.sell ⟨true, 101, 200, 60⟩] := by
  refine ⟨silkTill_booked, fun hexact => ?_⟩
  have hsale := hexact.1.sale ⟨true, 101, 200, 60⟩ ⟨inventorySlotBag0, 23⟩ silkStack 200 rfl (by rfl)
  exact absurd hsale (by decide +kernel)

end Till

end Mangos
