import Mangos.Guild.BankStored

/-!
# Moves at the bank keep the items

Whatever a request moves, the items of the player and of the bank together stay what they are, each object
lies in one place, and the stacks stay within their limits.
-/

namespace Mangos

open Framework

namespace BankDesk

/-- Nothing is lost and nothing is made. -/
structure Conserves (tables : ItemTables) (s s' : BankDesk) : Prop where
  sound : s'.Sound tables 0
  counts : ∀ e, s'.itemCount e = s.itemCount e

variable {tables : ItemTables} {accounts : Accounts} {s : BankDesk} {pos src dst : BankPos}
  {it : Item} {pending : Multiset Nat}

theorem Sound.guid_ne (h : s.Sound tables pending) {q : BankPos} {a b : Item}
    (hpos : pos ∈ s.positions) (hq : q ∈ s.positions) (ha : s.slots pos = some a)
    (hb : s.slots q = some b) (hne : pos ≠ q) : a.guid ≠ b.guid := by
  intro hguid
  have hnodup := (Multiset.nodup_add.mp (Multiset.nodup_add.mp h.fresh.nodup).1).2.1
  exact hne (contents_key_unique hnodup hpos hq ha hb hguid)

theorem Sound.guid_ne_inventory (h : s.Sound tables pending) {a b : Item}
    (ha : a ∈ s.player.inventory.items) (hpos : pos ∈ s.positions) (hb : s.slots pos = some b) : b.guid ≠ a.guid := by
  intro hguid
  have hdisjoint := (Multiset.nodup_add.mp (Multiset.nodup_add.mp h.fresh.nodup).1).2.2
  have hleft : a.guid ∈ s.player.inventory.items.map (·.guid) := Multiset.mem_map_of_mem _ ha
  have hright : b.guid ∈ s.bankItems.map (·.guid) :=
    Multiset.mem_map_of_mem _ (mem_bankItems hpos hb)
  exact Multiset.disjoint_left.mp hdisjoint hleft (hguid ▸ hright)

theorem Sound.removeItem (h : s.Sound tables pending) (hpos : pos ∈ s.positions)
    (hit : s.slots pos = some it) : (s.removeItem pos).Sound tables (it.guid ::ₘ pending) ∧
      ∀ e, (s.removeItem pos).itemCount e + Item.weight e it = s.itemCount e := by
  refine ⟨h.setSlot hpos (fun _ hnone => by cases hnone) ?_, fun e => ?_⟩
  · rw [hit, held_none, held_some, Multiset.map_zero, Multiset.map_singleton, zero_add, Multiset.singleton_add]
  · have hcount := itemCount_setSlot hpos none e
    rw [hit] at hcount
    exact hcount

theorem Sound.splitSlot (h : s.Sound tables pending) (hpos : pos ∈ s.positions)
    (hit : s.slots pos = some it) {n : Nat} (hn : n < it.count) :
    (s.drawGuid.setSlot pos (some { it with count := it.count - n })).Sound tables
        (s.nextItemGuid ::ₘ pending) ∧
      ∀ e, (s.drawGuid.setSlot pos (some { it with count := it.count - n })).itemCount e +
        (if it.entry = e then n else 0) = s.itemCount e := by
  have hfits := h.bankFits it (mem_bankItems hpos hit)
  have hrest : ({ it with count := it.count - n } : Item).Fits tables :=
    hfits.transfer rfl (Nat.sub_pos_of_lt hn) ((Nat.sub_le _ _).trans hfits.le)
  have hpos' : pos ∈ s.drawGuid.positions := hpos
  have hit' : s.drawGuid.slots pos = some it := hit
  refine ⟨h.drawGuid.setSlot hpos' ?_ ?_, fun e => ?_⟩
  · rintro _ ⟨⟩
    exact hrest
  · rw [hit', held_some, held_some, Multiset.map_singleton, Multiset.map_singleton]
  · have hcount := itemCount_setSlot hpos' (some { it with count := it.count - n }) e
    have hsame : s.drawGuid.itemCount e = s.itemCount e := rfl
    have hafter : Item.weight e { it with count := it.count - n } =
        if it.entry = e then it.count - n else 0 := Item.weight_count e _ it
    rw [hit', Option.elim_some, Option.elim_some, hafter, Item.weight, hsame] at hcount
    split at hcount
    next he =>
      rw [if_pos he]
      omega
    next he =>
      rw [if_neg he]
      omega

theorem guids_setInventory (inv : Inventory) :
    (s.setInventory inv).guids = inv.items.map (·.guid) + s.bankItems.map (·.guid) := rfl

theorem itemCount_setInventory (inv : Inventory) (e : Nat) : (s.setInventory inv).itemCount e =
      inv.itemCount e + tally (Item.weight e) s.positions s.slots := rfl

theorem Sound.moveItemFromInventory {place : ItemPos} (h : s.Sound tables pending)
    (hit : s.player.inventory.getItemByPos place = some it) (hempty : s.player.inventory.bagIsEmpty place) :
    (s.moveItemFromInventory place).Sound tables (it.guid ::ₘ pending) ∧
      ∀ e, (s.moveItemFromInventory place).itemCount e + Item.weight e it = s.itemCount e := by
  have hremoved : s.moveItemFromInventory place = s.setInventory (s.player.inventory.put place none) := by
    simp [BankDesk.moveItemFromInventory, Inventory.removeItem, hit]
  have hitems := Inventory.items_put_none hit hempty
  rw [hremoved]
  refine ⟨⟨?_, ?_, h.bankFits, ?_⟩, fun e => ?_⟩
  · refine h.fresh.congr ?_
    rw [guids_setInventory, guids, ← hitems, Multiset.map_add, Multiset.map_singleton,
      Multiset.add_cons, ← Multiset.singleton_add]
    abel
  · intro it2 hit2
    refine h.inventoryFits it2 ?_
    rw [← hitems]
    exact Multiset.mem_add.mpr (.inl hit2)
  · intro bag pBag hlo hhi hworn
    have hview := Inventory.getItemByPos_put_none hit hempty
    have hworn' : Function.update s.player.inventory.getItemByPos place none
        ⟨inventorySlotBag0, bag⟩ = some pBag := by
      rw [← hview]
      exact hworn
    by_cases hplace : (⟨inventorySlotBag0, bag⟩ : ItemPos) = place
    · rw [hplace, Function.update_self] at hworn'
      cases hworn'
    · rw [Function.update_of_ne hplace] at hworn'
      exact h.wearsBags bag pBag hlo hhi hworn'
  · have hsum := congrArg (fun m => (m.map (Item.weight e)).sum) hitems
    simp only [Multiset.map_add, Multiset.sum_add, Multiset.map_singleton, Multiset.sum_singleton] at hsum
    rw [itemCount_setInventory, itemCount, Inventory.itemCount_eq_sum, Inventory.itemCount_eq_sum]
    omega

theorem Sound.splitInventory {place : ItemPos} (h : s.Sound tables pending)
    (hit : s.player.inventory.getItemByPos place = some it) {n : Nat} (hn : n < it.count) :
    let rest := { it with count := it.count - n }
    (s.drawGuid.setInventory (s.player.inventory.put place (some rest))).Sound tables
        (s.nextItemGuid ::ₘ pending) ∧
      ∀ e, (s.drawGuid.setInventory (s.player.inventory.put place (some rest))).itemCount e +
        (if it.entry = e then n else 0) = s.itemCount e := by
  intro rest
  have hfits := h.inventoryFits it (Inventory.mem_items.mpr ⟨place, hit⟩)
  have hrest : rest.Fits tables :=
    hfits.transfer rfl (Nat.sub_pos_of_lt hn) ((Nat.sub_le _ _).trans hfits.le)
  have hitems := @Inventory.items_put_same _ _ _ rest hit rfl
  have hview := @Inventory.getItemByPos_put_same _ _ _ rest hit rfl
  refine ⟨⟨?_, ?_, h.bankFits, ?_⟩, fun e => ?_⟩
  · have hguids := congrArg (Multiset.map Item.guid) hitems
    have hsame : rest.guid = it.guid := rfl
    rw [Multiset.map_add, Multiset.map_add, Multiset.map_singleton, Multiset.map_singleton, hsame] at hguids
    refine h.drawGuid.fresh.congr ?_
    rw [guids_setInventory, add_right_cancel hguids]
    rfl
  · intro it2 hit2
    obtain ⟨q, hq⟩ := Inventory.mem_items.mp hit2
    have hq' : Function.update s.player.inventory.getItemByPos place (some rest) q = some it2 := by
      rw [← hview]
      exact hq
    by_cases hqplace : q = place
    · rw [hqplace, Function.update_self] at hq'
      cases hq'
      exact hrest
    · rw [Function.update_of_ne hqplace] at hq'
      exact h.inventoryFits it2 (Inventory.mem_items.mpr ⟨q, hq'⟩)
  · intro bag pBag hlo hhi hworn
    have hworn' : Function.update s.player.inventory.getItemByPos place (some rest)
        ⟨inventorySlotBag0, bag⟩ = some pBag := by
      rw [← hview]
      exact hworn
    by_cases hplace : (⟨inventorySlotBag0, bag⟩ : ItemPos) = place
    · rw [hplace, Function.update_self] at hworn'
      cases hworn'
      exact h.wearsBags bag it hlo hhi (hplace ▸ hit)
    · rw [Function.update_of_ne hplace] at hworn'
      exact h.wearsBags bag pBag hlo hhi hworn'
  · have hsum := congrArg (fun m => (m.map (Item.weight e)).sum) hitems
    have hweight : Item.weight e rest = if it.entry = e then it.count - n else 0 :=
      Item.weight_count e _ it
    simp only [Multiset.map_add, Multiset.sum_add, Multiset.map_singleton, Multiset.sum_singleton, hweight] at hsum
    have hsame : (s.drawGuid.setInventory (s.player.inventory.put place (some rest))).itemCount e =
        (s.player.inventory.put place (some rest)).itemCount e + tally (Item.weight e) s.positions s.slots := rfl
    rw [hsame, itemCount, Inventory.itemCount_eq_sum, Inventory.itemCount_eq_sum]
    by_cases he : it.entry = e
    · rw [if_pos he] at hsum ⊢
      rw [Item.weight, if_pos he] at hsum
      omega
    · rw [if_neg he] at hsum ⊢
      rw [Item.weight, if_neg he] at hsum
      omega

@[simp] theorem setSlot_player (v : Option Item) : (s.setSlot pos v).player = s.player := rfl
@[simp] theorem setSlot_guild (v : Option Item) : (s.setSlot pos v).guild = s.guild := rfl
@[simp] theorem setSlot_purchasedTabs (v : Option Item) : (s.setSlot pos v).purchasedTabs = s.purchasedTabs := rfl
@[simp] theorem removeItem_player : (s.removeItem pos).player = s.player := rfl
@[simp] theorem removeItem_guild : (s.removeItem pos).guild = s.guild := rfl
@[simp] theorem removeItem_purchasedTabs : (s.removeItem pos).purchasedTabs = s.purchasedTabs := rfl
@[simp] theorem drawGuid_player : s.drawGuid.player = s.player := rfl
@[simp] theorem drawGuid_guild : s.drawGuid.guild = s.guild := rfl
@[simp] theorem drawGuid_slots : s.drawGuid.slots = s.slots := rfl
@[simp] theorem drawGuid_purchasedTabs : s.drawGuid.purchasedTabs = s.purchasedTabs := rfl
@[simp] theorem setGuild_player (guild : Guild) : (s.setGuild guild).player = s.player := rfl
@[simp] theorem setGuild_slots (guild : Guild) : (s.setGuild guild).slots = s.slots := rfl
@[simp] theorem setGuild_purchasedTabs (guild : Guild) : (s.setGuild guild).purchasedTabs = s.purchasedTabs := rfl
@[simp] theorem moveItemFromInventory_slots {place : ItemPos} : (s.moveItemFromInventory place).slots = s.slots := rfl
@[simp] theorem moveItemFromInventory_purchasedTabs {place : ItemPos} :
    (s.moveItemFromInventory place).purchasedTabs = s.purchasedTabs := rfl
@[simp] theorem moveItemFromInventory_guild {place : ItemPos} : (s.moveItemFromInventory place).guild = s.guild := rfl

theorem Sound.setGuild (h : s.Sound tables pending) (guild : Guild) : (s.setGuild guild).Sound tables pending :=
  ⟨h.fresh, h.inventoryFits, h.bankFits, h.wearsBags⟩

theorem Conserves.setGuild {s' : BankDesk} (h : Conserves tables s s') (guild : Guild) :
    Conserves tables s (s'.setGuild guild) :=
  ⟨h.sound.setGuild guild, h.counts⟩

theorem Conserves.of_setGuild {s' : BankDesk} {guild : Guild}
    (h : Conserves tables (s.setGuild guild) s') : Conserves tables s s' := ⟨h.sound, h.counts⟩

theorem itemAt_of_ne {tab slot : Nat} (h : ∀ it2, s.slots ⟨tab, slot⟩ = some it2 → it2.guid ≠ it.guid) :
    s.itemAt tab it slot = s.slots ⟨tab, slot⟩ := by
  unfold itemAt
  cases hat : s.slots ⟨tab, slot⟩ with
  | none => rfl
  | some it2 => simp [h it2 hat]

theorem itemAt_self {tab slot : Nat} (h : s.slots ⟨tab, slot⟩ = some it) : s.itemAt tab it slot = none := by
  simp [itemAt, h]

theorem SeesRoom.admits {s' : BankDesk} {tab slot n : Nat} (h : s.SeesRoom tab it slot n)
    (hsame : s.itemAt tab it slot = s'.slots ⟨tab, slot⟩) : s'.Admits tab it.proto slot n := by
  refine ⟨h.1, ?_⟩
  rw [← hsame]
  exact h.2

private theorem count_le_placed {κ : Type} {dest : List (Piece κ)} {p : Piece κ} (hp : p ∈ dest) :
    p.count ≤ placed dest := by
  induction dest with
  | nil => cases hp
  | cons q dest ih =>
    rw [placed_cons]
    rcases List.mem_cons.mp hp with rfl | hp
    · exact Nat.le_add_right _ _
    · exact (ih hp).trans (Nat.le_add_left _ _)

theorem Conserves.storeItem {s₁ : BankDesk} {tab n : Nat} {dest : List (Piece Nat)}
    {seen it : Item} (hplaced : s.Placement tab seen n dest) (hseen : it.proto = seen.proto)
    (hknown : tables.prototype it.entry = some it.proto) (htab : tab < s₁.purchasedTabs)
    (hroom : ∀ slot m, m ≤ n → s.SeesRoom tab seen slot m → s₁.Admits tab seen.proto slot m)
    (hsound : s₁.Sound tables (it.guid ::ₘ 0))
    (hcounts : ∀ e, s₁.itemCount e + (if it.entry = e then n else 0) = s.itemCount e) :
    Conserves tables s (s₁.storeItem tables tab it dest) := by
  have hadmits : ∀ p ∈ dest, 0 < p.count ∧ s₁.Admits tab it.proto p.pos p.count := by
    intro p hp
    obtain ⟨hn, hsees⟩ := hplaced.seen p hp
    have hle := count_le_placed hp
    rw [hplaced.total] at hle
    rw [hseen]
    exact ⟨hn, hroom p.pos p.count hle hsees⟩
  obtain ⟨hstored, hcount⟩ := storeItem_sound hknown htab hplaced.distinct hadmits hsound
  refine ⟨hstored, fun e => ?_⟩
  rw [hcount e, hplaced.total]
  exact hcounts e

/-- An accepted placement in the inventory: different places that admit what is put there, and all of
the count. -/
structure InventoryPlacement (inv : Inventory) (proto : ItemPrototype) (n : Nat)
    (dest : List ItemPosCount) : Prop where
  distinct : (dest.map (·.pos)).Nodup
  admitted : ∀ p ∈ dest, 0 < p.count ∧ inv.Admits proto p.pos p.count
  total : placed dest = n

theorem Conserves.moveItemToInventory {s₁ : BankDesk} {n : Nat} {dest : List ItemPosCount}
    (hplaced : InventoryPlacement s₁.player.inventory it.proto n dest)
    (hknown : tables.prototype it.entry = some it.proto) (hsound : s₁.Sound tables (it.guid ::ₘ 0))
    (hcounts : ∀ e, s₁.itemCount e + (if it.entry = e then n else 0) = s.itemCount e) :
    Conserves tables s (s₁.moveItemToInventory tables dest it) := by
  obtain ⟨hstored, hcount⟩ := moveItemToInventory_sound hknown hplaced.distinct hplaced.admitted hsound
  refine ⟨hstored, fun e => ?_⟩
  rw [hcount e, hplaced.total]
  exact hcounts e

theorem inventoryPlacement_of_answer {pl : Player} {place : ItemPos} {swap : Bool}
    (hfits : it.Fits tables) (hout : ∀ it2 ∈ pl.inventory.items, it.guid ≠ it2.guid)
    (hworn : ∀ bag pBag, inventorySlotBagStart ≤ bag → bag < inventorySlotBagEnd →
      pl.inventory.getItemByPos ⟨inventorySlotBag0, bag⟩ = some pBag → pBag.isBag)
    (hplace : place.bag ≠ nullBag → place.isInventoryPos)
    (hfree : swap = false ∨ pl.inventory.getItemByPos place = none)
    (hok : (pl.canStoreItemAt tables accounts place it swap).result = .ok) :
    InventoryPlacement pl.inventory it.proto it.count (pl.canStoreItemAt tables accounts place it swap).dest := by
  let q : StoreQuery :=
    { bag := place.bag, slot := place.slot, entry := it.entry, count := it.count, pItem := some it, swap }
  have hout' : ∀ it2 ∈ pl.inventory.items, q.pItem.any (·.guid = it2.guid) = false := by
    intro it2 hit2
    simpa [q] using hout it2 hit2
  have hclear : q.PlaceClear pl.inventory := by
    refine ⟨hworn, hplace, hfree.imp id fun hnone => ?_⟩
    show q.itemAt pl.inventory place = none
    rw [StoreQuery.itemAt, hnone]
    rfl
  obtain ⟨proto, hproto, hfeasible⟩ := Player.canStoreItem_feasible_at hclear hfits.pos hok
  have hsame : proto = it.proto := Option.some.inj (hproto.symm.trans hfits.known)
  subst hsame
  refine ⟨hfeasible.distinct, fun p hp => ?_, hfeasible.total⟩
  obtain ⟨hn, hroom⟩ := hfeasible.admitted p hp
  exact ⟨hn, hroom.toInventory hout'⟩

theorem Sound.guid_notMem (h : s.Sound tables (it.guid ::ₘ pending)) :
    ∀ it2 ∈ s.player.inventory.items, it.guid ≠ it2.guid := by
  intro it2 hit2 heq
  have hnodup := h.fresh.nodup
  rw [Multiset.add_cons] at hnodup
  refine (Multiset.nodup_cons.mp hnodup).1 ?_
  refine Multiset.mem_add.mpr (.inl (Multiset.mem_add.mpr (.inl ?_)))
  rw [heq]
  exact Multiset.mem_map_of_mem _ hit2

/-- What a completed request does to the bank and the inventory. `leaves` are the tabs that an item is
taken out of. -/
inductive Moved (tables : ItemTables) (s : BankDesk) : (leaves : List Nat) → BankDesk → Prop
  | merge {src dst : BankPos} {it : Item} {dest : List (Piece Nat)} (hsrc : src ∈ s.positions)
      (hit : s.slots src = some it) (htab : dst.tab < s.purchasedTabs)
      (hplaced : s.Placement dst.tab it it.count dest) :
      Moved tables s (if src.tab = dst.tab then [] else [src.tab])
        ((s.removeItem src).storeItem tables dst.tab it dest)
  | split {src dst : BankPos} {it pNewItem : Item} {n : Nat} {dest : List (Piece Nat)}
      (hsrc : src ∈ s.positions) (hit : s.slots src = some it) (htab : dst.tab < s.purchasedTabs)
      (hlt : n < it.count) (hcopy : it.cloneItem tables s.nextItemGuid n 0 = some pNewItem)
      (hplaced : s.Placement dst.tab it n dest) :
      Moved tables s (if src.tab = dst.tab then [] else [src.tab])
        ((s.drawGuid.setSlot src (some { it with count := it.count - n })).storeItem tables dst.tab
          pNewItem dest)
  | exchange {src dst : BankPos} {a b : Item} (hsrc : src ∈ s.positions) (hdst : dst ∈ s.positions)
      (hne : src ≠ dst) (ha : s.slots src = some a) (hb : s.slots dst = some b) :
      Moved tables s (if src.tab = dst.tab then [] else [src.tab, dst.tab])
        ((((s.removeItem src).removeItem dst).storeItem tables src.tab b
          [⟨src.slot, b.count⟩]).storeItem tables dst.tab a [⟨dst.slot, a.count⟩])
  | take {pos : BankPos} {it : Item} {dest : List ItemPosCount} (hpos : pos ∈ s.positions)
      (hit : s.slots pos = some it)
      (hplaced : InventoryPlacement s.player.inventory it.proto it.count dest) :
      Moved tables s [pos.tab] ((s.removeItem pos).moveItemToInventory tables dest it)
  | takePart {pos : BankPos} {it pNewItem : Item} {n : Nat} {dest : List ItemPosCount}
      (hpos : pos ∈ s.positions) (hit : s.slots pos = some it) (hlt : n < it.count)
      (hcopy : it.cloneItem tables s.nextItemGuid n 0 = some pNewItem)
      (hplaced : InventoryPlacement s.player.inventory it.proto n dest) :
      Moved tables s [pos.tab]
        ((s.drawGuid.setSlot pos (some { it with count := it.count - n })).moveItemToInventory tables
          dest pNewItem)
  | exchangeWithChar {pos : BankPos} {place : ItemPos} {it c : Item} (hpos : pos ∈ s.positions)
      (hit : s.slots pos = some it) (hplace : place.isInventoryPos)
      (hc : s.player.inventory.getItemByPos place = some c)
      (hempty : s.player.inventory.bagIsEmpty place) :
      Moved tables s [pos.tab]
        ((((s.removeItem pos).moveItemFromInventory place).storeItem tables pos.tab c
          [⟨pos.slot, c.count⟩]).moveItemToInventory tables [⟨place, it.count⟩] it)
  | give {place : ItemPos} {tab : Nat} {it : Item} {dest : List (Piece Nat)}
      (hit : s.player.inventory.getItemByPos place = some it)
      (hempty : s.player.inventory.bagIsEmpty place) (htab : tab < s.purchasedTabs)
      (hplaced : s.Placement tab it it.count dest) :
      Moved tables s [] ((s.moveItemFromInventory place).storeItem tables tab it dest)
  | givePart {place : ItemPos} {tab : Nat} {it pNewItem : Item} {n : Nat} {dest : List (Piece Nat)}
      (hit : s.player.inventory.getItemByPos place = some it) (htab : tab < s.purchasedTabs)
      (hlt : n < it.count) (hcopy : it.cloneItem tables s.nextItemGuid n 0 = some pNewItem)
      (hplaced : s.Placement tab it n dest) :
      Moved tables s []
        ((s.drawGuid.setInventory (s.player.inventory.put place
          (some { it with count := it.count - n }))).storeItem tables tab pNewItem dest)

private theorem merge_conserves {dest : List (Piece Nat)} (h : s.Sound tables 0)
    (hsrc : src ∈ s.positions) (hit : s.slots src = some it) (htab : dst.tab < s.purchasedTabs)
    (hplaced : s.Placement dst.tab it it.count dest) :
    Conserves tables s ((s.removeItem src).storeItem tables dst.tab it dest) := by
  have hfits := h.bankFits it (mem_bankItems hsrc hit)
  obtain ⟨hsound, hcounts⟩ := h.removeItem hsrc hit
  refine .storeItem hplaced rfl hfits.known htab (fun slot m _ hsees => hsees.admits ?_) hsound hcounts
  by_cases hslot : (⟨dst.tab, slot⟩ : BankPos) = src
  · have hgone : (s.removeItem src).slots ⟨dst.tab, slot⟩ = none := by
      rw [hslot]
      exact setSlot_slots_self none
    rw [hgone]
    exact itemAt_self (hslot ▸ hit)
  · have hkept : (s.removeItem src).slots ⟨dst.tab, slot⟩ = s.slots ⟨dst.tab, slot⟩ :=
      setSlot_slots_of_ne hslot none
    rw [hkept]
    refine itemAt_of_ne fun it2 hit2 => ?_
    have hpos : (⟨dst.tab, slot⟩ : BankPos) ∈ s.positions := mem_positions.mpr ⟨htab, hsees.1⟩
    exact h.guid_ne hpos hsrc hit2 hit hslot

private theorem cloneItem_known {pNewItem : Item} {guid n ownerGuid : Nat} (hfits : it.Fits tables)
    (hcopy : it.cloneItem tables guid n ownerGuid = some pNewItem) :
    pNewItem.guid = guid ∧ pNewItem.proto = it.proto ∧ pNewItem.entry = it.entry ∧
      tables.prototype pNewItem.entry = some pNewItem.proto := by
  obtain ⟨-, hguid, hproto, -⟩ := Item.cloneItem_eq_some hcopy
  have hentry : pNewItem.entry = it.entry := congrArg ItemPrototype.itemId hproto
  refine ⟨hguid, hproto, hentry, ?_⟩
  rw [hentry, hproto]
  exact hfits.known

private theorem split_conserves {pNewItem : Item} {n : Nat} {dest : List (Piece Nat)}
    (h : s.Sound tables 0) (hsrc : src ∈ s.positions) (hit : s.slots src = some it)
    (htab : dst.tab < s.purchasedTabs) (hlt : n < it.count)
    (hcopy : it.cloneItem tables s.nextItemGuid n 0 = some pNewItem) (hplaced : s.Placement dst.tab it n dest) :
    Conserves tables s ((s.drawGuid.setSlot src (some { it with count := it.count - n })).storeItem
      tables dst.tab pNewItem dest) := by
  have hfits := h.bankFits it (mem_bankItems hsrc hit)
  obtain ⟨hguid, hproto, hentry, hknown⟩ := cloneItem_known hfits hcopy
  obtain ⟨hsound, hcounts⟩ := h.splitSlot hsrc hit hlt
  rw [← hguid] at hsound
  rw [← hentry] at hcounts
  refine .storeItem hplaced hproto hknown htab (fun slot m hm hsees => ?_) hsound hcounts
  by_cases hslot : (⟨dst.tab, slot⟩ : BankPos) = src
  · -- what is left of the stack takes part of itself back
    refine ⟨hsees.1, ?_⟩
    rw [hslot, setSlot_slots_self]
    refine ⟨rfl, ?_⟩
    have hle := hfits.le
    show it.count - n + m ≤ it.proto.getMaxStackSize
    omega
  · refine hsees.admits ?_
    rw [setSlot_slots_of_ne hslot]
    refine itemAt_of_ne fun it2 hit2 => ?_
    have hpos : (⟨dst.tab, slot⟩ : BankPos) ∈ s.positions := mem_positions.mpr ⟨htab, hsees.1⟩
    exact h.guid_ne hpos hsrc hit2 hit hslot

private theorem exchange_conserves {a b : Item} (h : s.Sound tables 0) (hsrc : src ∈ s.positions)
    (hdst : dst ∈ s.positions) (hne : src ≠ dst) (ha : s.slots src = some a) (hb : s.slots dst = some b) :
    Conserves tables s ((((s.removeItem src).removeItem dst).storeItem tables src.tab b
      [⟨src.slot, b.count⟩]).storeItem tables dst.tab a [⟨dst.slot, a.count⟩]) := by
  have hfitsA := h.bankFits a (mem_bankItems hsrc ha)
  have hfitsB := h.bankFits b (mem_bankItems hdst hb)
  obtain ⟨hsound₁, hcounts₁⟩ := h.removeItem hsrc ha
  have hdst₁ : dst ∈ (s.removeItem src).positions := hdst
  have hb₁ : (s.removeItem src).slots dst = some b :=
    (setSlot_slots_of_ne (Ne.symm hne) none).trans hb
  obtain ⟨hsound₂, hcounts₂⟩ := hsound₁.removeItem hdst₁ hb₁
  obtain ⟨hsrcTab, hsrcSlot⟩ := mem_positions.mp hsrc
  obtain ⟨hdstTab, hdstSlot⟩ := mem_positions.mp hdst
  have hfreeSrc : ((s.removeItem src).removeItem dst).slots ⟨src.tab, src.slot⟩ = none := by
    refine (setSlot_slots_of_ne hne none).trans ?_
    exact setSlot_slots_self none
  have hadmitsB : ((s.removeItem src).removeItem dst).Admits src.tab b.proto src.slot b.count := by
    refine ⟨hsrcSlot, ?_⟩
    rw [hfreeSrc]
    exact hfitsB.le
  obtain ⟨hsound₃, hcounts₃⟩ := @storeItem_sound tables
    ((s.removeItem src).removeItem dst) b (a.guid ::ₘ 0) src.tab [⟨src.slot, b.count⟩]
    hfitsB.known hsrcTab (List.nodup_singleton _)
    (by simpa using ⟨hfitsB.pos, hadmitsB⟩) hsound₂
  have hfreeDst : (((s.removeItem src).removeItem dst).storeItem tables src.tab b
      [⟨src.slot, b.count⟩]).slots ⟨dst.tab, dst.slot⟩ = none := by
    refine (storeAt_slots_of_ne (Ne.symm hne) b.count false).trans ?_
    exact setSlot_slots_self none
  have hadmitsA : (((s.removeItem src).removeItem dst).storeItem tables src.tab b
      [⟨src.slot, b.count⟩]).Admits dst.tab a.proto dst.slot a.count := by
    refine ⟨hdstSlot, ?_⟩
    rw [hfreeDst]
    exact hfitsA.le
  obtain ⟨hsound₄, hcounts₄⟩ := @storeItem_sound tables
    (((s.removeItem src).removeItem dst).storeItem tables src.tab b [⟨src.slot, b.count⟩]) a 0
    dst.tab [⟨dst.slot, a.count⟩] hfitsA.known (by simpa using hdstTab) (List.nodup_singleton _)
    (by simpa using ⟨hfitsA.pos, hadmitsA⟩) hsound₃
  refine ⟨hsound₄, fun e => ?_⟩
  have h₁ := hcounts₁ e
  have h₂ := hcounts₂ e
  have h₃ := hcounts₃ e
  have h₄ := hcounts₄ e
  simp only [placed_cons, placed_nil, Nat.add_zero] at h₃ h₄
  simp only [Item.weight] at h₁ h₂
  omega

private theorem take_conserves {dest : List ItemPosCount} (h : s.Sound tables 0)
    (hpos : pos ∈ s.positions) (hit : s.slots pos = some it)
    (hplaced : InventoryPlacement s.player.inventory it.proto it.count dest) :
    Conserves tables s ((s.removeItem pos).moveItemToInventory tables dest it) := by
  have hfits := h.bankFits it (mem_bankItems hpos hit)
  obtain ⟨hsound, hcounts⟩ := h.removeItem hpos hit
  exact .moveItemToInventory hplaced hfits.known hsound hcounts

private theorem takePart_conserves {pNewItem : Item} {n : Nat} {dest : List ItemPosCount}
    (h : s.Sound tables 0) (hpos : pos ∈ s.positions) (hit : s.slots pos = some it)
    (hlt : n < it.count) (hcopy : it.cloneItem tables s.nextItemGuid n 0 = some pNewItem)
    (hplaced : InventoryPlacement s.player.inventory it.proto n dest) : Conserves tables s ((s.drawGuid.setSlot pos
      (some { it with count := it.count - n })).moveItemToInventory tables dest pNewItem) := by
  have hfits := h.bankFits it (mem_bankItems hpos hit)
  obtain ⟨hguid, hproto, hentry, hknown⟩ := cloneItem_known hfits hcopy
  obtain ⟨hsound, hcounts⟩ := h.splitSlot hpos hit hlt
  rw [← hguid] at hsound
  rw [← hentry] at hcounts
  rw [← hproto] at hplaced
  exact .moveItemToInventory hplaced hknown hsound hcounts

private theorem exchangeWithChar_conserves {place : ItemPos} {c : Item} (h : s.Sound tables 0)
    (hpos : pos ∈ s.positions) (hit : s.slots pos = some it) (hplace : place.isInventoryPos)
    (hc : s.player.inventory.getItemByPos place = some c) (hempty : s.player.inventory.bagIsEmpty place) :
    Conserves tables s ((((s.removeItem pos).moveItemFromInventory place).storeItem tables pos.tab c
      [⟨pos.slot, c.count⟩]).moveItemToInventory tables [⟨place, it.count⟩] it) := by
  have hfits := h.bankFits it (mem_bankItems hpos hit)
  have hfitsC := h.inventoryFits c (Inventory.mem_items.mpr ⟨place, hc⟩)
  obtain ⟨hcarried, -, -⟩ := Inventory.isCarriedPlace_of_item hplace hc
  obtain ⟨hsound₁, hcounts₁⟩ := h.removeItem hpos hit
  have hc₁ : (s.removeItem pos).player.inventory.getItemByPos place = some c := hc
  obtain ⟨hsound₂, hcounts₂⟩ := hsound₁.moveItemFromInventory hc₁ hempty
  obtain ⟨htab, hslot⟩ := mem_positions.mp hpos
  let s₂ := (s.removeItem pos).moveItemFromInventory place
  have hadmitsC : s₂.Admits pos.tab c.proto pos.slot c.count := by
    refine ⟨hslot, ?_⟩
    have hfree : s₂.slots ⟨pos.tab, pos.slot⟩ = none := setSlot_slots_self none
    rw [hfree]
    exact hfitsC.le
  obtain ⟨hsound₃, hcounts₃⟩ := @storeItem_sound tables s₂ c (it.guid ::ₘ 0) pos.tab
    [⟨pos.slot, c.count⟩] hfitsC.known htab (List.nodup_singleton _)
    (by simpa using ⟨hfitsC.pos, hadmitsC⟩) hsound₂
  let s₃ := s₂.storeItem tables pos.tab c [⟨pos.slot, c.count⟩]
  have hadmits : s₃.player.inventory.Admits it.proto place it.count := by
    have hinventory : s₃.player.inventory = s.player.inventory.put place none := by
      have hplayer : s₃.player = s₂.player := storeItem_player tables s₂ pos.tab c _
      rw [hplayer]
      show s.player.inventory.removeItem place = _
      simp [Inventory.removeItem, hc]
    rw [hinventory]
    have hview := Inventory.getItemByPos_put hcarried.1 hcarried.2.1 none
    refine ⟨⟨?_, hcarried.2.1, hplace⟩, ?_⟩
    · rw [Inventory.hasPos_put hcarried.2.1]
      exact hcarried.1
    · rw [hview, Function.update_self]
      exact hfits.le
  obtain ⟨hsound₄, hcounts₄⟩ := @moveItemToInventory_sound tables s₃ it 0 [⟨place, it.count⟩]
    hfits.known (List.nodup_singleton _) (by simpa using ⟨hfits.pos, hadmits⟩) hsound₃
  refine ⟨hsound₄, fun e => ?_⟩
  have h₁ := hcounts₁ e
  have h₂ : s₂.itemCount e + Item.weight e c = (s.removeItem pos).itemCount e := hcounts₂ e
  have h₃ : s₃.itemCount e = s₂.itemCount e + Item.weight e c := hcounts₃ e
  have h₄ : (s₃.moveItemToInventory tables [⟨place, it.count⟩] it).itemCount e =
      s₃.itemCount e + Item.weight e it := hcounts₄ e
  exact h₄.trans (by omega)

private theorem give_conserves {place : ItemPos} {tab : Nat} {dest : List (Piece Nat)}
    (h : s.Sound tables 0) (hit : s.player.inventory.getItemByPos place = some it)
    (hempty : s.player.inventory.bagIsEmpty place) (htab : tab < s.purchasedTabs)
    (hplaced : s.Placement tab it it.count dest) :
    Conserves tables s ((s.moveItemFromInventory place).storeItem tables tab it dest) := by
  have hmem := Inventory.mem_items.mpr ⟨place, hit⟩
  have hfits := h.inventoryFits it hmem
  obtain ⟨hsound, hcounts⟩ := h.moveItemFromInventory hit hempty
  refine .storeItem hplaced rfl hfits.known htab (fun slot m _ hsees => hsees.admits ?_) hsound hcounts
  refine itemAt_of_ne fun it2 hit2 => ?_
  have hpos : (⟨tab, slot⟩ : BankPos) ∈ s.positions := mem_positions.mpr ⟨htab, hsees.1⟩
  exact h.guid_ne_inventory hmem hpos hit2

private theorem givePart_conserves {place : ItemPos} {tab n : Nat} {pNewItem : Item}
    {dest : List (Piece Nat)} (h : s.Sound tables 0)
    (hit : s.player.inventory.getItemByPos place = some it) (htab : tab < s.purchasedTabs)
    (hlt : n < it.count) (hcopy : it.cloneItem tables s.nextItemGuid n 0 = some pNewItem)
    (hplaced : s.Placement tab it n dest) : Conserves tables s ((s.drawGuid.setInventory (s.player.inventory.put place
      (some { it with count := it.count - n }))).storeItem tables tab pNewItem dest) := by
  have hmem := Inventory.mem_items.mpr ⟨place, hit⟩
  have hfits := h.inventoryFits it hmem
  obtain ⟨hguid, hproto, hentry, hknown⟩ := cloneItem_known hfits hcopy
  obtain ⟨hsound, hcounts⟩ := h.splitInventory hit hlt
  rw [← hguid] at hsound
  rw [← hentry] at hcounts
  refine .storeItem hplaced hproto hknown htab (fun slot m _ hsees => hsees.admits ?_) hsound hcounts
  refine itemAt_of_ne fun it2 hit2 => ?_
  have hpos : (⟨tab, slot⟩ : BankPos) ∈ s.positions := mem_positions.mpr ⟨htab, hsees.1⟩
  exact h.guid_ne_inventory hmem hpos hit2

theorem Moved.conserves {leaves : List Nat} {s' : BankDesk} (hmoved : Moved tables s leaves s')
    (h : s.Sound tables 0) : Conserves tables s s' := by
  cases hmoved with
  | merge hsrc hit htab hplaced => exact merge_conserves h hsrc hit htab hplaced
  | split hsrc hit htab hlt hcopy hplaced => exact split_conserves h hsrc hit htab hlt hcopy hplaced
  | exchange hsrc hdst hne ha hb => exact exchange_conserves h hsrc hdst hne ha hb
  | take hpos hit hplaced => exact take_conserves h hpos hit hplaced
  | takePart hpos hit hlt hcopy hplaced => exact takePart_conserves h hpos hit hlt hcopy hplaced
  | exchangeWithChar hpos hit hplace hc hempty =>
    exact exchangeWithChar_conserves h hpos hit hplace hc hempty
  | give hit hempty htab hplaced => exact give_conserves h hit hempty htab hplaced
  | givePart hit htab hlt hcopy hplaced => exact givePart_conserves h hit htab hlt hcopy hplaced

end BankDesk

end Mangos
