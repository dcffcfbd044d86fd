import Mangos.Item.Found
import Mangos.Item.SwapItem

/-!
# Taking an item and placing it again

An item that is taken out of its slot and placed where a check found room is held as before, and so are all
others.
-/

namespace Mangos

open Framework

namespace Belongings

variable {tables : ItemTables} {next : Nat} {air : List Nat} {opened : List Item} {b : Belongings}
  {key : SlotKey} {obj : ItemObject} {pos : ItemPos}

theorem Arranged.inside_eq_none (h : b.Arranged tables next air opened) (hobj : b.slots key = some obj)
    (hkey : ∀ slot, key = .own slot → ItemPos.isBagSlot slot = false)
    (hopened : ∀ bag ∈ opened, bag.guid ≠ obj.item.guid) (k : Nat) : b.slots (.inside obj.item.guid k) = none := by
  cases hin : b.slots (.inside obj.item.guid k) with
  | none => rfl
  | some other =>
    rcases h.shown _ k other hin with ⟨slot, bag, hslot, hbag, hguid, -⟩ | ⟨bag, hbag, hguid, -⟩
    · have hsame := h.distinct _ _ bag obj hbag hobj hguid
      rw [hkey slot hsame.symm] at hslot
      cases hslot
    · exact absurd hguid (hopened bag hbag)

theorem isBagPos_of_own {slot : Nat} (hkey : b.keyOf pos = some (.own slot)) :
    pos.isBagPos = ItemPos.isBagSlot slot := by
  rw [(keyOf_own.mp hkey).1]
  simp [ItemPos.isBagPos]

theorem isBagSlot_of_not_isBagPos (hkey : b.keyOf pos = some key) (hpos : pos.isBagPos = false) :
    ∀ slot, key = .own slot → ItemPos.isBagSlot slot = false := by
  rintro slot rfl
  rw [← isBagPos_of_own hkey]
  exact hpos

end Belongings

namespace Bearer

variable {tables : ItemTables} {accounts : Accounts} {rules : WearRules} {air : List Nat}
  {opened : List Item} {s s' : Bearer} {key : SlotKey} {obj : ItemObject} {pos : ItemPos} {it : Item}

/-- The same amounts are held, and the objects are in their places. -/
structure SameHeld (tables : ItemTables) (s s' : Bearer) : Prop where
  arranged : s'.Arranged tables [] []
  next_le : s.nextItemGuid ≤ s'.nextItemGuid
  held : ∀ n e, s'.nextItemGuid ≤ n → s'.belongings.held n e = s.belongings.held n e
  mailed : s'.mailed = s.mailed

theorem SameHeld.refl (h : s.Arranged tables [] []) : SameHeld tables s s :=
  ⟨h, le_rfl, fun _ _ _ => rfl, rfl⟩

theorem SameHeld.trans {s'' : Bearer} (h : SameHeld tables s s') (h' : SameHeld tables s' s'') :
    SameHeld tables s s'' where
  arranged := h'.arranged
  next_le := h.next_le.trans h'.next_le
  held n e hn := (h'.held n e hn).trans (h.held n e (h'.next_le.trans hn))
  mailed := h'.mailed.trans h.mailed

theorem held_removeItem (h : s.Arranged tables air opened) (hkey : s.belongings.keyOf pos = some key)
    (hobj : s.belongings.slots key = some obj) {n : Nat} (hn : s.nextItemGuid ≤ n) (e : Nat) :
    (s.removeItem pos).belongings.held n e + Item.weight e obj.item = s.belongings.held n e := by
  have hput := Belongings.held_put (b := s.belongings) (h.mem_keysBelow hn hkey) none e
  rw [hobj] at hput
  rw [removeItem, (h.removeItem_eq hkey hobj).1]
  exact hput

theorem arranged_removeItem (h : s.Arranged tables air opened)
    (hkey : s.belongings.keyOf pos = some key) (hobj : s.belongings.slots key = some obj) :
    (s.removeItem pos).Arranged tables (obj.item.guid :: air) (obj.item :: opened) := by
  have htake := h.take hobj
  rw [← (h.removeItem_eq hkey hobj).1] at htake
  exact htake

theorem inside_removeItem (hkey : s.belongings.keyOf pos = some key) {g k : Nat}
    (h : s.belongings.slots (.inside g k) = none) : (s.removeItem pos).belongings.slots (.inside g k) = none := by
  rw [removeItem, Belongings.removeItem, hkey]
  simp only [Belongings.slots_put]
  split
  · rfl
  · exact h

theorem sameHeld_storeItem (h : s.Arranged tables [] [])
    (hkey : s.belongings.keyOf pos = some key) (hobj : s.belongings.slots key = some obj)
    (hempty : ∀ k, s.belongings.slots (.inside obj.item.guid k) = none) {dest : List ItemPosCount}
    (hfound : s.Found obj.item dest) : SameHeld tables s ((s.removeItem pos).storeItem tables obj.item dest) := by
  have hfits := h.fits key obj hobj
  have htaken := arranged_removeItem h hkey hobj
  have hclosed := htaken.close_empty fun k => inside_removeItem hkey (hempty k)
  have htakes : ∀ p ∈ dest, 0 < p.count ∧
      (s.removeItem pos).belongings.Takes obj.item.proto p.pos p.count := by
    intro p hp
    obtain ⟨hpos, htakes⟩ := hfound.takes p hp
    refine ⟨hpos, ?_⟩
    obtain ⟨hput, hwithout⟩ := h.removeItem_eq hkey hobj
    rwa [removeItem, hput, hwithout]
  have hgains := gains_storeItem hclosed hfits (hfound.ne_nil hfits) hfound.distinct htakes
  refine ⟨hgains.arranged, hgains.next_le, fun n e hn => ?_, hgains.mailed⟩
  have hremoved := held_removeItem h hkey hobj (hgains.next_le.trans hn) e
  rw [hgains.held n e hn, hfound.total]
  exact hremoved

private theorem isBag_of_mem_slots {proto : ItemPrototype} {slots : List Nat} {slot : Nat}
    (hslots : s.getSlotsForInventoryType rules proto = some slots) (hmem : slot ∈ slots)
    (hbag : ItemPos.isBagSlot slot) : proto.inventoryType = invTypeBag := by
  rw [Inventory.isBagSlot_iff] at hbag
  unfold getSlotsForInventoryType at hslots
  unfold invTypeBag
  grind

theorem canEquipItem_ok {slot eslot : Nat} {swap : Bool} (hslot : slot ≠ nullSlot)
    (hok : s.canEquipItem tables accounts rules slot it swap = .ok eslot) :
    eslot = slot ∧ (swap = true ∨ s.worn ⟨inventorySlotBag0, slot⟩ = none) ∧ (ItemPos.isBagSlot slot → it.isBag) := by
  unfold canEquipItem at hok
  split at hok
  · cases hok
  cases hfind : s.findEquipSlot rules it.proto slot swap with
  | none =>
    rw [hfind] at hok
    cases hok
  | some found =>
    have heslot : found = eslot := by
      simp only [hfind] at hok
      split at hok
      · exact Except.ok.inj hok
      · cases hok
    subst heslot
    unfold findEquipSlot at hfind
    split at hfind
    · cases hfind
    next slots hslots =>
      simp only [hslot, ne_eq, not_false_eq_true, if_true] at hfind
      split at hfind
      next hgood =>
        obtain rfl := Option.some.inj hfind
        simp only [Bool.and_eq_true, Bool.or_eq_true, List.contains_eq_mem, decide_eq_true_eq,
          Option.isNone_iff_eq_none] at hgood
        refine ⟨rfl, hgood.1, fun hbag => ?_⟩
        exact decide_eq_true (isBag_of_mem_slots hslots hgood.2 hbag)
      · cases hfind

theorem place_free (hkey : s.belongings.keyOf pos = some key) (hfree : s.belongings.slots key = none)
    {found : PlaceFound} (hfound : found = .stored [⟨pos, it.count⟩] ∨
      (found = .equipped pos.slot ∧ pos.bag = inventorySlotBag0)) :
    ∃ obj, s.place tables it found = { s with belongings := s.belongings.put key (some obj) } ∧
      obj.key = key ∧ obj.item.guid = it.guid ∧ obj.item.proto = it.proto ∧ obj.item.count = it.count := by
  have hat : s.belongings.getItemByPos pos = none := by
    rw [Belongings.getItemByPos, hkey, Option.bind_some, hfree]
  rcases hfound with rfl | ⟨rfl, hown⟩
  · obtain ⟨obj, owner, heq, hin, hitem⟩ :=
      Belongings.storeFree_eq hkey s.guid (boundAt { it with count := it.count } pos)
    refine ⟨obj, ?_, hin, by rw [hitem]; rfl, by rw [hitem]; rfl, by rw [hitem]; rfl⟩
    simp only [place, storeItem, storeAt, hat, Bool.false_eq_true, if_false, heq]
  · obtain ⟨bag, slot⟩ := pos
    obtain rfl : bag = inventorySlotBag0 := hown
    have hslot : key = .own slot := by
      have hlt : slot < bankSlotBagEnd := by
        by_contra hge
        simp [Belongings.keyOf, hge] at hkey
      exact (Option.some.inj ((Belongings.keyOf_own.mpr ⟨rfl, hlt⟩).symm.trans hkey)).symm
    subst hslot
    let binds := it.proto.bonding = .bindWhenEquipped || it.proto.bonding = .bindWhenPickedUp ||
      it.proto.bonding = .bindQuestItem
    refine ⟨⟨{ it with ownerGuid := s.guid, binded := it.binded || binds }, none, slot⟩, ?_,
      rfl, rfl, rfl, rfl⟩
    simp only [place, equipItem, hat, Belongings.storeOwn, binds]

theorem gains_place_free {g : Nat} (h : s.Arranged tables (g :: air) opened) (hfits : it.Fits tables)
    (hguid : it.guid = g) (hkey : s.belongings.keyOf pos = some key)
    (hfree : s.belongings.slots key = none) (hbag : pos.isBagPos → it.isBag) {found : PlaceFound}
    (hfound : found = .stored [⟨pos, it.count⟩] ∨ (found = .equipped pos.slot ∧ pos.bag = inventorySlotBag0)) :
    Gains tables air opened s (s.place tables it found) it.entry it.count ∧
      ∃ obj, (s.place tables it found).belongings = s.belongings.put key (some obj) ∧
        obj.item.guid = it.guid ∧ obj.item.getBagSize = it.getBagSize := by
  obtain ⟨obj, heq, hin, hobjGuid, hproto, hcount⟩ := @place_free tables _ _ _ _ hkey hfree _ hfound
  have hobj : obj.item.Fits tables :=
    hfits.transfer hproto (hcount ▸ hfits.pos) (hcount ▸ hfits.le)
  rw [heq]
  refine ⟨⟨?_, le_rfl, fun n e hn => ?_, rfl⟩, obj, rfl, hobjGuid, Belongings.getBagSize_congr hproto⟩
  · refine h.drop_at hkey hfree hin (hobjGuid.trans hguid) hobj fun slot hslot hbagSlot => ?_
    rw [hslot] at hkey
    rw [Item.isBag, hproto]
    exact hbag (by rw [Belongings.isBagPos_of_own hkey]; exact hbagSlot)
  · have hput := Belongings.held_put (b := s.belongings) (h.mem_keysBelow hn hkey) (some obj) e
    rw [hfree] at hput
    simp only [Option.elim_none, Option.elim_some] at hput
    have hweight : Item.weight e obj.item = if it.entry = e then it.count else 0 := by
      rw [Item.weight, Item.entry, hproto, hcount]
      rfl
    rw [hweight] at hput
    exact hput

end Bearer

end Mangos
