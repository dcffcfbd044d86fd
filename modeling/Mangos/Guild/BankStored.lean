import Mangos.Guild.BankItems
import Mangos.Item.Stored

/-!
# What storing in a bank tab adds

The items at the bank are those of the inventory and those in the slots of the purchased tabs.
-/

namespace Mangos

open Framework

namespace BankDesk

def bankItems (s : BankDesk) : Multiset Item := contents s.positions s.slots

/-- How many items of entry `e` the player has and the bank. -/
def itemCount (s : BankDesk) (e : Nat) : Nat :=
  s.player.inventory.itemCount e + tally (Item.weight e) s.positions s.slots

def guids (s : BankDesk) : Multiset Nat :=
  s.player.inventory.items.map (·.guid) + s.bankItems.map (·.guid)

/-- Every object lies in one place, every stack is within its limits, and what is worn as a bag is one.
`pending` are the guids of objects that are on their way. -/
structure Sound (tables : ItemTables) (s : BankDesk) (pending : Multiset Nat) : Prop where
  fresh : Fresh s.nextItemGuid (s.guids + pending)
  inventoryFits : ∀ it ∈ s.player.inventory.items, it.Fits tables
  bankFits : ∀ it ∈ s.bankItems, it.Fits tables
  wearsBags : ∀ bag pBag, inventorySlotBagStart ≤ bag → bag < inventorySlotBagEnd →
    s.player.inventory.getItemByPos ⟨inventorySlotBag0, bag⟩ = some pBag → pBag.isBag

variable {tables : ItemTables} {s : BankDesk} {pos : BankPos} {it : Item} {pending : Multiset Nat}

@[simp] theorem mem_positions : pos ∈ s.positions ↔ pos.tab < s.purchasedTabs ∧ pos.slot < guildBankMaxSlots := by
  cases pos with
  | mk tab slot =>
    simp only [positions, List.mem_flatMap, List.mem_map, List.mem_range, BankPos.mk.injEq]
    constructor
    · rintro ⟨tab, htab, slot, hslot, rfl, rfl⟩
      exact ⟨htab, hslot⟩
    · rintro ⟨htab, hslot⟩
      exact ⟨tab, htab, slot, hslot, rfl, rfl⟩

theorem positions_nodup (s : BankDesk) : s.positions.Nodup := by
  refine List.nodup_flatMap.mpr ⟨fun tab _ => ?_, ?_⟩
  · refine List.Nodup.map (fun a b hab => ?_) List.nodup_range
    simpa using hab
  · refine List.Pairwise.imp ?_ (List.nodup_range (n := s.purchasedTabs))
    intro a b hab pos ha hb
    obtain ⟨slot, -, rfl⟩ := List.mem_map.mp ha
    obtain ⟨slot', -, heq⟩ := List.mem_map.mp hb
    exact hab (congrArg BankPos.tab heq).symm

theorem getItem_eq_some (h : s.getItem pos = some it) : pos ∈ s.positions ∧ s.slots pos = some it := by
  unfold getItem at h
  split at h
  · cases h
  next hpos =>
    simp only [Bool.or_eq_true, decide_eq_true_eq, not_or, not_le] at hpos
    exact ⟨mem_positions.mpr hpos, h⟩

theorem mem_bankItems (hpos : pos ∈ s.positions) (h : s.slots pos = some it) : it ∈ s.bankItems :=
  mem_contents.mpr ⟨pos, hpos, h⟩

theorem setSlot_slots_self (v : Option Item) : (s.setSlot pos v).slots pos = v := by
  simp [setSlot]

theorem setSlot_slots_of_ne {q : BankPos} (hq : q ≠ pos) (v : Option Item) : (s.setSlot pos v).slots q = s.slots q := by
  simp [setSlot, hq]

theorem bankItems_setSlot (hpos : pos ∈ s.positions) (v : Option Item) :
    (s.setSlot pos v).bankItems + held (s.slots pos) = s.bankItems + held v :=
  contents_update s.positions_nodup hpos s.slots v

theorem itemCount_setSlot (hpos : pos ∈ s.positions) (v : Option Item) (e : Nat) :
    (s.setSlot pos v).itemCount e + (s.slots pos).elim 0 (Item.weight e) =
      s.itemCount e + v.elim 0 (Item.weight e) := by
  have hupdate := tally_update s.positions_nodup hpos (Item.weight e) s.slots v
  have hafter : (s.setSlot pos v).itemCount e = s.player.inventory.itemCount e +
      tally (Item.weight e) s.positions (Function.update s.slots pos v) := rfl
  rw [hafter, itemCount]
  omega

theorem guids_setSlot (hpos : pos ∈ s.positions) (v : Option Item) :
    (s.setSlot pos v).guids + (held (s.slots pos)).map (·.guid) = s.guids + (held v).map (·.guid) := by
  have hitems := congrArg (Multiset.map Item.guid) (bankItems_setSlot hpos v)
  rw [Multiset.map_add, Multiset.map_add] at hitems
  have hafter : (s.setSlot pos v).guids = s.player.inventory.items.map (·.guid) +
      (s.setSlot pos v).bankItems.map (·.guid) := rfl
  rw [hafter, guids, add_assoc, hitems, add_assoc]

theorem mem_bankItems_setSlot {v : Option Item}
    (h : it ∈ (s.setSlot pos v).bankItems) : v = some it ∨ it ∈ s.bankItems := by
  obtain ⟨q, hq, hit⟩ := mem_contents.mp h
  by_cases hqpos : q = pos
  · rw [hqpos, setSlot_slots_self] at hit
    exact .inl hit
  · rw [setSlot_slots_of_ne hqpos] at hit
    exact .inr (mem_bankItems hq hit)

theorem Sound.setSlot {pending' : Multiset Nat} (h : s.Sound tables pending)
    (hpos : pos ∈ s.positions) {v : Option Item} (hv : ∀ it ∈ v, it.Fits tables)
    (hguids : (held v).map (·.guid) + pending' = (held (s.slots pos)).map (·.guid) + pending) :
    (s.setSlot pos v).Sound tables pending' := by
  have hheld := guids_setSlot hpos v
  have hsame : (s.setSlot pos v).guids + pending' = s.guids + pending := by
    have hcancel : (s.setSlot pos v).guids + pending' + (held (s.slots pos)).map (·.guid) =
        s.guids + pending + (held (s.slots pos)).map (·.guid) := by
      rw [add_right_comm, hheld, add_assoc, hguids, add_assoc, add_comm ((held (s.slots pos)).map _)]
    exact add_right_cancel hcancel
  constructor
  · exact h.fresh.congr hsame
  · exact h.inventoryFits
  · intro it hit
    rcases mem_bankItems_setSlot hit with hnew | hold
    · exact hv it hnew
    · exact h.bankFits it hold
  · exact h.wearsBags

theorem Sound.drop {g : Nat} (h : s.Sound tables (g ::ₘ pending)) : s.Sound tables pending := by
  have hfresh := h.fresh
  rw [Multiset.add_cons] at hfresh
  exact ⟨hfresh.drop, h.inventoryFits, h.bankFits, h.wearsBags⟩

theorem Sound.drawGuid (h : s.Sound tables pending) : s.drawGuid.Sound tables (s.nextItemGuid ::ₘ pending) := by
  have hfresh := h.fresh.draw
  rw [← Multiset.add_cons] at hfresh
  exact ⟨hfresh, h.inventoryFits, h.bankFits, h.wearsBags⟩

@[simp] theorem storeAt_player (tables : ItemTables) (s : BankDesk) (pos : BankPos) (it : Item)
    (count : Nat) (clone : Bool) : (s.storeAt tables pos it count clone).player = s.player := by
  unfold storeAt
  split
  · split
    · split <;> rfl
    · rfl
  · rfl

@[simp] theorem storeAt_guild (tables : ItemTables) (s : BankDesk) (pos : BankPos) (it : Item)
    (count : Nat) (clone : Bool) : (s.storeAt tables pos it count clone).guild = s.guild := by
  unfold storeAt
  split
  · split
    · split <;> rfl
    · rfl
  · rfl

@[simp] theorem storeAt_purchasedTabs (tables : ItemTables) (s : BankDesk) (pos : BankPos)
    (it : Item) (count : Nat) (clone : Bool) :
    (s.storeAt tables pos it count clone).purchasedTabs = s.purchasedTabs := by
  unfold storeAt
  split
  · split
    · split <;> rfl
    · rfl
  · rfl

theorem storeAt_slots_of_ne {q : BankPos} (hq : q ≠ pos) (count : Nat) (clone : Bool) :
    (s.storeAt tables pos it count clone).slots q = s.slots q := by
  unfold storeAt
  split
  · split
    · split
      · rfl
      · exact setSlot_slots_of_ne hq _
    · exact setSlot_slots_of_ne hq _
  · exact setSlot_slots_of_ne hq _

/-- A slot of the tab can take `n` of the template. -/
def Admits (s : BankDesk) (tab : Nat) (proto : ItemPrototype) (slot n : Nat) : Prop :=
  slot < guildBankMaxSlots ∧ match s.slots ⟨tab, slot⟩ with
    | none => n ≤ proto.getMaxStackSize
    | some it => it.entry = proto.itemId ∧ it.count + n ≤ proto.getMaxStackSize

theorem storeAt_sound {tab slot n : Nat} {clone : Bool} (hknown : tables.prototype it.entry = some it.proto)
    (htab : tab < s.purchasedTabs) (hn : 0 < n) (hadmits : s.Admits tab it.proto slot n)
    (h : s.Sound tables (it.guid ::ₘ pending)) : (s.storeAt tables ⟨tab, slot⟩ it n clone).Sound tables
        (if clone then it.guid ::ₘ pending else pending) ∧
      ∀ e, (s.storeAt tables ⟨tab, slot⟩ it n clone).itemCount e = s.itemCount e + if it.entry = e then n else 0 := by
  obtain ⟨hslot, hroom⟩ := hadmits
  have hpos : (⟨tab, slot⟩ : BankPos) ∈ s.positions := mem_positions.mpr ⟨htab, hslot⟩
  unfold storeAt
  cases hat : s.slots ⟨tab, slot⟩ with
  | some it2 =>
    simp only [hat] at hroom
    have hit2 := h.bankFits it2 (mem_bankItems hpos hat)
    have hproto : it2.proto = it.proto := by
      have hknown2 := hit2.known
      have hentry : it2.entry = it.entry := hroom.1
      rw [hentry, hknown] at hknown2
      exact (Option.some.inj hknown2).symm
    have hgrown : ({ it2 with count := it2.count + n } : Item).Fits tables := by
      refine hit2.transfer rfl (Nat.lt_of_lt_of_le hn (Nat.le_add_left n it2.count)) ?_
      rw [hproto]
      exact hroom.2
    have hsound : (s.setSlot ⟨tab, slot⟩ (some { it2 with count := it2.count + n })).Sound tables
        (it.guid ::ₘ pending) := by
      refine h.setSlot hpos ?_ ?_
      · rintro _ ⟨⟩
        exact hgrown
      · rw [hat]
        rfl
    refine ⟨?_, fun e => ?_⟩
    · cases clone with
      | true => exact hsound
      | false => exact hsound.drop
    · have hcount := itemCount_setSlot hpos (some { it2 with count := it2.count + n }) e
      have hentry : it2.entry = it.entry := hroom.1
      have hafter : Item.weight e { it2 with count := it2.count + n } =
          if it.entry = e then it2.count + n else 0 := by
        rw [Item.weight_count, hentry]
      rw [hat, Option.elim_some, Option.elim_some, hafter, Item.weight, hentry] at hcount
      by_cases he : it.entry = e
      · simp only [he, if_true] at hcount ⊢
        omega
      · simp only [he, if_false] at hcount ⊢
        omega
  | none =>
    simp only [hat] at hroom
    cases clone with
    | false =>
      have hstored : ({ it with count := n, ownerGuid := 0 } : Item).Fits tables :=
        ⟨hknown, hn, hroom⟩
      refine ⟨?_, fun e => ?_⟩
      · refine h.setSlot hpos ?_ ?_
        · rintro _ ⟨⟩
          exact hstored
        · rw [hat]
          simp
      · have hcount := itemCount_setSlot hpos (some { it with count := n, ownerGuid := 0 }) e
        rw [hat] at hcount
        exact hcount
    | true =>
      cases hcopy : it.cloneItem tables s.nextItemGuid n 0 with
      | none => simp [Item.cloneItem, Nat.ne_of_gt hn] at hcopy
      | some copy =>
        obtain ⟨-, hguid, hproto, hcount⟩ := Item.cloneItem_eq_some hcopy
        have hn' : copy.count = n := by omega
        have hentry : copy.entry = it.entry := congrArg ItemPrototype.itemId hproto
        have hstored : copy.Fits tables := by
          refine ⟨?_, by omega, ?_⟩
          · rw [hentry, hproto]
            exact hknown
          · rw [hproto, hn']
            exact hroom
        have hat' : s.drawGuid.slots ⟨tab, slot⟩ = none := hat
        have hpos' : (⟨tab, slot⟩ : BankPos) ∈ s.drawGuid.positions := hpos
        refine ⟨?_, fun e => ?_⟩
        · refine h.drawGuid.setSlot hpos' ?_ ?_
          · rintro _ ⟨⟩
            exact hstored
          · rw [hat', held_some, held_none, Multiset.map_singleton, Multiset.map_zero, hguid,
              Multiset.singleton_add, zero_add]
            rfl
        · have hset := itemCount_setSlot hpos' (some copy) e
          have hsame : s.drawGuid.itemCount e = s.itemCount e := rfl
          rw [hat', Option.elim_none, Option.elim_some, hsame, Item.weight, hentry, hn'] at hset
          exact hset

theorem admits_storeAt {tab slot n : Nat} {clone : Bool} {slot' m : Nat} {proto : ItemPrototype}
    (hne : slot' ≠ slot) (h : s.Admits tab proto slot' m) :
    (s.storeAt tables ⟨tab, slot⟩ it n clone).Admits tab proto slot' m := by
  refine ⟨h.1, ?_⟩
  rw [storeAt_slots_of_ne (by simpa using hne)]
  exact h.2

@[simp] theorem storeItem_player (tables : ItemTables) (s : BankDesk) (tab : Nat) (it : Item)
    (dest : List (Piece Nat)) : (s.storeItem tables tab it dest).player = s.player := by
  induction dest generalizing s with
  | nil => rfl
  | cons p dest ih =>
    cases dest with
    | nil => simp [storeItem]
    | cons p' dest => rw [storeItem, ih, storeAt_player]

@[simp] theorem storeItem_guild (tables : ItemTables) (s : BankDesk) (tab : Nat) (it : Item)
    (dest : List (Piece Nat)) : (s.storeItem tables tab it dest).guild = s.guild := by
  induction dest generalizing s with
  | nil => rfl
  | cons p dest ih =>
    cases dest with
    | nil => simp [storeItem]
    | cons p' dest => rw [storeItem, ih, storeAt_guild]

@[simp] theorem storeItem_purchasedTabs (tables : ItemTables) (s : BankDesk) (tab : Nat)
    (it : Item) (dest : List (Piece Nat)) : (s.storeItem tables tab it dest).purchasedTabs = s.purchasedTabs := by
  induction dest generalizing s with
  | nil => rfl
  | cons p dest ih =>
    cases dest with
    | nil => simp [storeItem]
    | cons p' dest => rw [storeItem, ih, storeAt_purchasedTabs]

theorem storeItem_slots_of_ne {tab : Nat} {q : BankPos} (hq : q.tab ≠ tab)
    (dest : List (Piece Nat)) : (s.storeItem tables tab it dest).slots q = s.slots q := by
  have hne : ∀ slot, q ≠ ⟨tab, slot⟩ := by
    rintro slot rfl
    exact hq rfl
  induction dest generalizing s with
  | nil => rfl
  | cons p dest ih =>
    cases dest with
    | nil => exact storeAt_slots_of_ne (hne p.pos) p.count false
    | cons p' dest => rw [storeItem, ih, storeAt_slots_of_ne (hne p.pos)]

theorem storeItem_sound {tab : Nat} {dest : List (Piece Nat)}
    (hknown : tables.prototype it.entry = some it.proto) (htab : tab < s.purchasedTabs)
    (hnodup : (dest.map (·.pos)).Nodup) (hadmits : ∀ p ∈ dest, 0 < p.count ∧ s.Admits tab it.proto p.pos p.count)
    (h : s.Sound tables (it.guid ::ₘ pending)) : (s.storeItem tables tab it dest).Sound tables pending ∧
      ∀ e, (s.storeItem tables tab it dest).itemCount e = s.itemCount e + if it.entry = e then placed dest else 0 := by
  induction dest generalizing s with
  | nil => exact ⟨h.drop, fun e => by simp [storeItem]⟩
  | cons p dest ih =>
    obtain ⟨hn, hfirst⟩ := hadmits p List.mem_cons_self
    cases dest with
    | nil =>
      obtain ⟨hsound, hcount⟩ := @storeAt_sound tables s it pending tab p.pos p.count false
        hknown htab hn hfirst h
      refine ⟨hsound, fun e => ?_⟩
      rw [placed_cons, placed_nil, Nat.add_zero]
      exact hcount e
    | cons p' dest =>
      obtain ⟨hsound, hcount⟩ := @storeAt_sound tables s it pending tab p.pos p.count true
        hknown htab hn hfirst h
      rw [List.map_cons, List.nodup_cons] at hnodup
      obtain ⟨hrest, hrestCount⟩ := @ih (s.storeAt tables ⟨tab, p.pos⟩ it p.count true)
        (by simpa using htab) hnodup.2 (fun r hr => by
          obtain ⟨hm, hadm⟩ := hadmits r (List.mem_cons_of_mem p hr)
          refine ⟨hm, admits_storeAt ?_ hadm⟩
          intro heq
          exact hnodup.1 (heq ▸ List.mem_map_of_mem (f := (·.pos)) hr)) hsound
      refine ⟨hrest, fun e => ?_⟩
      have hfirstCount := hcount e
      have hrestCount' := hrestCount e
      rw [storeItem, placed_cons p]
      by_cases he : it.entry = e
      · simp only [he, if_true] at hfirstCount hrestCount' ⊢
        omega
      · simp only [he, if_false] at hfirstCount hrestCount' ⊢
        omega

theorem moveItemToInventory_sound {dest : List ItemPosCount}
    (hknown : tables.prototype it.entry = some it.proto) (hnodup : (dest.map (·.pos)).Nodup)
    (hadmits : ∀ p ∈ dest, 0 < p.count ∧ s.player.inventory.Admits it.proto p.pos p.count)
    (h : s.Sound tables (it.guid ::ₘ pending)) : (s.moveItemToInventory tables dest it).Sound tables pending ∧
      ∀ e, (s.moveItemToInventory tables dest it).itemCount e =
        s.itemCount e + if it.entry = e then placed dest else 0 := by
  have hcarried : ∀ p ∈ dest, 0 < p.count ∧ s.stock.inventory.IsCarriedPlace p.pos :=
    fun p hp => ⟨(hadmits p hp).1, (hadmits p hp).2.1⟩
  have hothers : s.stock.GuidsFresh (it.guid ::ₘ (s.bankItems.map (·.guid) + pending)) := by
    have hsame : s.player.inventory.items.map (·.guid) +
        (it.guid ::ₘ (s.bankItems.map (·.guid) + pending)) = s.guids + (it.guid ::ₘ pending) := by
      rw [guids, add_assoc, Multiset.add_cons (it.guid) (s.bankItems.map _)]
    constructor
    · exact (h.fresh.congr hsame).nodup
    · exact (h.fresh.congr hsame).lt
  have hfresh := @Stock.GuidsFresh.storeItem tables s.player.guid s.stock it _ dest hothers hcarried
  refine ⟨⟨?_, ?_, h.bankFits, ?_⟩, fun e => ?_⟩
  · have hsame : (s.moveItemToInventory tables dest it).guids + pending =
        (s.stock.storeItem tables s.player.guid it dest).inventory.items.map (·.guid) +
          (s.bankItems.map (·.guid) + pending) := by
      rw [← add_assoc]
      rfl
    exact Fresh.congr ⟨hfresh.nodup, hfresh.lt⟩ hsame
  · exact Stock.fits_storeItem hnodup h.inventoryFits hknown hadmits
  · intro bag pBag hlo hhi hworn
    have hbagPos : (⟨inventorySlotBag0, bag⟩ : ItemPos).isBagPos = true := by
      simp [ItemPos.isBagPos, ItemPos.isBagSlot, hlo, hhi]
    have hkept := @Stock.getItemByPos_storeItem tables s.player.guid s.stock it dest _ hbagPos hcarried
    exact h.wearsBags bag pBag hlo hhi (hkept.symm.trans hworn)
  · have hcount := @Stock.itemCount_storeItem tables s.player.guid s.stock it dest hnodup hadmits e
    have hafter : (s.moveItemToInventory tables dest it).itemCount e =
        (s.stock.storeItem tables s.player.guid it dest).inventory.itemCount e +
          tally (Item.weight e) s.positions s.slots := rfl
    have hbefore : s.itemCount e =
        s.stock.inventory.itemCount e + tally (Item.weight e) s.positions s.slots := rfl
    rw [hafter, hbefore, hcount]
    omega

/-- A slot has room for `n`, not counting the item that is being moved. -/
def SeesRoom (s : BankDesk) (tab : Nat) (it : Item) (slot n : Nat) : Prop :=
  slot < guildBankMaxSlots ∧ match s.itemAt tab it slot with
    | none => n ≤ it.proto.getMaxStackSize
    | some it2 => it2.entry = it.entry ∧ it2.count + n ≤ it.proto.getMaxStackSize

private theorem seesRoom_of_room {tab slot space : Nat} {merge : Bool}
    (hslot : slot < guildBankMaxSlots) (h : s.room tab it merge slot = some space) :
    0 < space ∧ ∀ n, 0 < n → n ≤ space → s.SeesRoom tab it slot n := by
  have hmax := it.proto.getMaxStackSize_pos
  unfold room at h
  unfold SeesRoom
  cases hat : s.itemAt tab it slot with
  | none =>
    simp only [hat] at h
    split at h
    · cases h
    · cases h
      exact ⟨hmax, fun n _ hn => ⟨hslot, hn⟩⟩
  | some it2 =>
    simp only [hat] at h
    split at h
    next hmerge =>
      simp only [Bool.and_eq_true, decide_eq_true_eq] at hmerge
      cases h
      exact ⟨by omega, fun n _ hn => ⟨hslot, hmerge.1.2, by omega⟩⟩
    next => cases h

private theorem canStoreInTab_sound {tab skipSlot total : Nat} {merge : Bool} {f : Filling Nat}
    (hf : f.Sound (s.SeesRoom tab it) [] total) (hleft : 0 < f.left) :
    (s.canStoreInTab tab merge it skipSlot f).Sound (s.SeesRoom tab it) [] total := by
  refine hf.fill hleft fun slot hslot space hroom => ?_
  have hlt : slot < guildBankMaxSlots := List.mem_range.mp (List.mem_of_mem_filter hslot)
  exact seesRoom_of_room hlt hroom

/-- An accepted placement in a tab: different slots with room, and all of the count. -/
structure Placement (s : BankDesk) (tab : Nat) (it : Item) (count : Nat) (dest : List (Piece Nat)) :
    Prop where
  distinct : (dest.map (·.pos)).Nodup
  seen : ∀ p ∈ dest, 0 < p.count ∧ s.SeesRoom tab it p.pos p.count
  total : placed dest = count

private theorem placement_of_sound {tab count : Nat} {f : Filling Nat}
    (hf : f.Sound (s.SeesRoom tab it) [] count) (hleft : f.left = 0) : s.Placement tab it count f.dest := by
  have htotal := hf.total
  rw [hleft, addedTo_nil] at htotal
  exact ⟨hf.distinct, by simpa using hf.admitted, htotal⟩

private theorem searchTab_sound {tab slot count : Nat} {f : Filling Nat} {dest : List (Piece Nat)}
    (hf : f.Sound (s.SeesRoom tab it) [] count) (hleft : 0 < f.left)
    (h : s.searchTab tab slot it f = .ok dest) : s.Placement tab it count dest := by
  unfold searchTab at h
  dsimp only at h
  by_cases hstack : 1 < it.proto.getMaxStackSize
  · have hmerged := @canStoreInTab_sound s it tab slot count true f hf hleft
    simp only [hstack, if_true, decide_true, Bool.true_and, decide_eq_true_eq] at h
    split at h
    next hdone =>
      cases h
      exact placement_of_sound hmerged hdone
    next hmore =>
      have hfilled := @canStoreInTab_sound s it tab slot count false _ hmerged
        (Nat.pos_of_ne_zero hmore)
      split at h
      next hdone =>
        cases h
        exact placement_of_sound hfilled hdone
      next => cases h
  · have hfilled := @canStoreInTab_sound s it tab slot count false f hf hleft
    simp only [hstack, if_false, decide_false, Bool.false_and, Bool.false_eq_true] at h
    split at h
    next hdone =>
      cases h
      exact placement_of_sound hfilled hdone
    next => cases h

private theorem canStoreInSpecificSlot_sound {tab slot count : Nat} {f : Filling Nat}
    (hslot : slot < guildBankMaxSlots) (hcount : 0 < count)
    (h : s.canStoreInSpecificSlot tab slot false it ⟨[], count⟩ = .ok f) : f.Sound (s.SeesRoom tab it) [] count := by
  have hmax := it.proto.getMaxStackSize_pos
  have hstart : Filling.Sound (s.SeesRoom tab it) [] count ⟨[], count⟩ :=
    Filling.Sound.refl _ (by simp) count
  unfold canStoreInSpecificSlot at h
  dsimp only at h
  cases hat : s.itemAt tab it slot with
  | some it2 =>
    simp only [hat, List.any_nil, Bool.false_eq_true, if_false] at h
    split at h
    · cases h
    next hentry =>
      split at h
      · cases h
      next hfull =>
        cases h
        refine hstart.push hcount rfl (by omega) fun n _ hn => ⟨hslot, ?_⟩
        rw [hat]
        exact ⟨not_not.mp hentry, by omega⟩
  | none =>
    simp only [hat, List.any_nil, Bool.false_eq_true, if_false] at h
    cases h
    refine hstart.push hcount rfl hmax fun n _ hn => ⟨hslot, ?_⟩
    rw [hat]
    exact hn

theorem canStoreItem_ok {count : Nat} {dest : List (Piece Nat)}
    (hslot : pos.slot < guildBankMaxSlots ∨ pos.slot = nullSlot) (hcount : 0 < count)
    (h : s.canStoreItem pos count it false = .ok dest) : s.Placement pos.tab it count dest := by
  unfold canStoreItem at h
  split at h
  · cases h
  split at h
  · cases h
  split at h
  next hnamed =>
    cases hspecific : s.canStoreInSpecificSlot pos.tab pos.slot false it ⟨[], count⟩ with
    | error res =>
      simp only [hspecific] at h
      cases h
    | ok f =>
      have hsound := canStoreInSpecificSlot_sound (hslot.resolve_right hnamed) hcount hspecific
      simp only [hspecific] at h
      split at h
      next hdone =>
        cases h
        exact placement_of_sound hsound hdone
      next hmore => exact searchTab_sound hsound (Nat.pos_of_ne_zero hmore) h
  next =>
    have hstart : Filling.Sound (s.SeesRoom pos.tab it) [] count ⟨[], count⟩ :=
      Filling.Sound.refl _ (by simp) count
    exact searchTab_sound hstart hcount h

theorem canStoreItem_swap {count : Nat} {dest : List (Piece Nat)} (hslot : pos.slot ≠ nullSlot)
    (hmax : count ≤ it.proto.getMaxStackSize)
    (h : s.canStoreItem pos count it true = .ok dest) : dest = [⟨pos.slot, count⟩] := by
  have hpush : s.canStoreInSpecificSlot pos.tab pos.slot true it ⟨[], count⟩ =
      .ok ⟨[⟨pos.slot, count⟩], 0⟩ := by
    have hone : (⟨[], count⟩ : Filling Nat).push pos.slot it.proto.getMaxStackSize =
        ⟨[⟨pos.slot, count⟩], 0⟩ := by
      simp [Filling.push, Nat.min_eq_right hmax]
    unfold canStoreInSpecificSlot
    cases s.itemAt pos.tab it pos.slot <;> simp [hone]
  unfold canStoreItem at h
  split at h
  · cases h
  split at h
  · cases h
  rw [hpush] at h
  cases h
  rfl

end BankDesk

end Mangos
