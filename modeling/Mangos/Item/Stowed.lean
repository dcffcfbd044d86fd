import Mangos.Item.Arranged

/-!
# What the slots hold in all

The amount of an entry over all slots, bags that are not worn included.
-/

namespace Mangos

open Framework

namespace Belongings

variable {tables : ItemTables} {next : Nat} {air : List Nat} {opened : List Item} {b : Belongings}
  {key : SlotKey} {obj : ItemObject} {pos : ItemPos} {n : Nat}

/-- All slots of the player and of the bags with guids below `n`. -/
def keysBelow (n : Nat) : List SlotKey :=
  (List.range bankSlotBagEnd).map .own ++ (List.range n).flatMap fun g => (List.range maxBagSize).map (.inside g)

/-- How many items of entry `e` the slots hold. -/
def held (b : Belongings) (n e : Nat) : Nat :=
  tally (fun obj => Item.weight e obj.item) (keysBelow n) b.slots

theorem mem_keysBelow_own {slot : Nat} : .own slot ∈ keysBelow n ↔ slot < bankSlotBagEnd := by
  simp [keysBelow]

theorem mem_keysBelow_inside {g k : Nat} : .inside g k ∈ keysBelow n ↔ g < n ∧ k < maxBagSize := by
  simp [keysBelow]

theorem keysBelow_nodup (n : Nat) : (keysBelow n).Nodup := by
  rw [keysBelow, List.nodup_append]
  refine ⟨List.nodup_range.map fun _ _ h => SlotKey.own.inj h, ?_, ?_⟩
  · rw [List.nodup_flatMap]
    refine ⟨fun g _ => List.nodup_range.map fun _ _ h => (SlotKey.inside.inj h).2, ?_⟩
    refine List.Pairwise.imp ?_ List.pairwise_lt_range
    intro g g' hlt key hkey hkey'
    simp only [List.mem_map] at hkey hkey'
    obtain ⟨k, -, rfl⟩ := hkey
    obtain ⟨k', -, heq⟩ := hkey'
    have hguid := (SlotKey.inside.inj heq).1
    omega
  · intro key hkey key' hkey' heq
    obtain ⟨slot, -, rfl⟩ := List.mem_map.mp hkey
    obtain ⟨g, -, hin⟩ := List.mem_flatMap.mp hkey'
    obtain ⟨k, -, hk⟩ := List.mem_map.mp hin
    rw [← heq] at hk
    cases hk

theorem held_put (hkey : key ∈ keysBelow n) (v : Option ItemObject) (e : Nat) :
    (b.put key v).held n e + (b.slots key).elim 0 (fun obj => Item.weight e obj.item) =
      b.held n e + v.elim 0 fun obj => Item.weight e obj.item :=
  tally_update (keysBelow_nodup n) hkey _ b.slots v

theorem getBagSize_le (it : Item) : it.getBagSize ≤ maxBagSize := by
  unfold Item.getBagSize
  split
  · exact it.proto.containerSlots_le
  · exact Nat.zero_le _

theorem Arranged.mem_keysBelow (h : b.Arranged tables next air opened) (hle : next ≤ n)
    (hkey : b.keyOf pos = some key) : key ∈ keysBelow n := by
  cases key with
  | own slot => exact mem_keysBelow_own.mpr (keyOf_own.mp hkey).2
  | inside g k =>
    obtain ⟨-, -, bag, hbag, hguid, hlt⟩ := keyOf_inside.mp hkey
    have hg := h.guid_lt _ bag hbag
    exact mem_keysBelow_inside.mpr ⟨by omega, hlt.trans_le (getBagSize_le bag.item)⟩

theorem hasPos_inventory : b.inventory.hasPos pos = (b.keyOf pos).isSome := by
  obtain ⟨bag, slot⟩ := pos
  unfold Inventory.hasPos keyOf
  by_cases hown : bag = inventorySlotBag0
  · simp only [hown, if_true]
    by_cases hlt : slot < bankSlotBagEnd <;> simp [hlt]
  · simp only [hown, if_false]
    by_cases hslot : ItemPos.isBagSlot bag
    · have hlt := isBagSlot_lt hslot
      have hbag : b.inventory.slots ⟨inventorySlotBag0, bag⟩ = (b.slots (.own bag)).map (·.item) := by
        have hkey : b.keyOf ⟨inventorySlotBag0, bag⟩ = some (.own bag) :=
          keyOf_own.mpr ⟨rfl, hlt⟩
        simp only [inventory, getItemByPos, hkey, Option.bind_some]
      rw [hbag]
      cases hworn : b.slots (.own bag) with
      | none => simp [hslot]
      | some obj =>
        by_cases hbagItem : obj.item.isBag
        · by_cases hsize : slot < obj.item.proto.containerSlots <;>
            simp [hslot, Item.getBagSize, hbagItem, hsize]
        · simp [hslot, Item.getBagSize, hbagItem]
    · simp [hslot]

theorem getItemByPos_inventory : b.inventory.getItemByPos pos = (b.getItemByPos pos).map (·.item) := by
  unfold Inventory.getItemByPos
  rw [hasPos_inventory]
  cases hkey : b.keyOf pos with
  | none => simp [getItemByPos, hkey]
  | some key => simp [inventory]

theorem getItemByPos_eq_some : b.getItemByPos pos = some obj ↔ ∃ key, b.keyOf pos = some key ∧ b.slots key = some obj :=
  Option.bind_eq_some_iff

theorem Arranged.keyOf_of_slots (h : b.Arranged tables next air []) (hobj : b.slots key = some obj) :
    ∃ pos, b.keyOf pos = some key := by
  cases key with
  | own slot => exact ⟨⟨inventorySlotBag0, slot⟩, keyOf_own.mpr ⟨rfl, h.own_lt slot obj hobj⟩⟩
  | inside g k =>
    rcases h.shown g k obj hobj with hworn | ⟨bag, hbag, -⟩
    · exact hworn.keyOf
    · cases hbag

theorem Arranged.itemCount_eq (h : b.Arranged tables next air []) (hle : next ≤ n) (e : Nat) :
    b.inventory.itemCount e = b.held n e := by
  have hshown : contents itemPositions b.inventory.getItemByPos =
      (contents (itemPositions.filterMap b.keyOf) b.slots).map (·.item) := by
    have hcongr : contents itemPositions b.inventory.getItemByPos =
        contents itemPositions fun pos => ((b.keyOf pos).bind b.slots).map (·.item) :=
      contents_congr fun pos _ => getItemByPos_inventory
    rw [hcongr, contents_map (fun obj : ItemObject => obj.item), contents_bind]
  have hnodup : (itemPositions.filterMap b.keyOf).Nodup := by
    refine List.Nodup.filterMap ?_ itemPositions_nodup
    intro pos pos' key hpos hpos'
    exact h.keyOf_inj hpos hpos'
  have hsame : contents (itemPositions.filterMap b.keyOf) b.slots = contents (keysBelow n) b.slots := by
    refine contents_eq_of_same hnodup (keysBelow_nodup n) fun key obj hobj => ?_
    obtain ⟨pos, hpos⟩ := h.keyOf_of_slots hobj
    have hmem : pos ∈ itemPositions := by
      have hthere : b.inventory.hasPos pos := by
        rw [hasPos_inventory, hpos]
        rfl
      exact Inventory.hasPos_mem hthere
    exact ⟨fun _ => h.mem_keysBelow hle hpos, fun _ => List.mem_filterMap.mpr ⟨pos, hmem, hpos⟩⟩
  unfold Inventory.itemCount held tally
  rw [hshown, hsame, Multiset.map_map]
  rfl

end Belongings

/-!
## Storing keeps items in their places

An item in the air that is stored at places with room for it comes to lie there or grows the stacks
that do; all of it is held afterwards and nothing else changes.
-/

namespace Belongings

variable {tables : ItemTables} {next : Nat} {air : List Nat} {opened : List Item} {b : Belongings}
  {key : SlotKey} {obj : ItemObject} {pos : ItemPos} {it : Item} {n count : Nat}

def Takes (b : Belongings) (proto : ItemPrototype) (pos : ItemPos) (count : Nat) : Prop :=
  ∃ key, b.keyOf pos = some key ∧ match b.slots key with
    | none => count ≤ proto.getMaxStackSize ∧
        ∀ slot, key = .own slot → ItemPos.isBagSlot slot → proto.inventoryType = invTypeBag
    | some obj => obj.item.entry = proto.itemId ∧ obj.item.count + count ≤ proto.getMaxStackSize

theorem storeFree_eq (hkey : b.keyOf pos = some key) (ownerGuid : Nat) (it : Item) :
    ∃ obj owner, b.storeFree ownerGuid pos it = b.put key (some obj) ∧ obj.key = key ∧
      obj.item = { it with ownerGuid := owner } := by
  cases key with
  | own slot =>
    obtain ⟨rfl, -⟩ := keyOf_own.mp hkey
    exact ⟨⟨{ it with ownerGuid }, none, slot⟩, ownerGuid, rfl, rfl, rfl⟩
  | inside g k =>
    obtain ⟨hslot, hworn, bag, hbag, hguid, -⟩ := keyOf_inside.mp hkey
    have hat : b.getItemByPos ⟨inventorySlotBag0, pos.bag⟩ = some bag :=
      getItemByPos_eq_some.mpr ⟨_, keyOf_own.mpr ⟨rfl, isBagSlot_lt hworn⟩, hbag⟩
    refine ⟨⟨{ it with ownerGuid := bag.item.ownerGuid }, some g, k⟩, bag.item.ownerGuid, ?_, rfl, rfl⟩
    unfold storeFree
    rw [if_neg (isBagSlot_ne hworn), hat]
    simp only [storeInBag, hguid, hslot]

theorem modifyItem_eq (hkey : b.keyOf pos = some key) (hobj : b.slots key = some obj)
    (f : Item → Item) : b.modifyItem pos f = b.put key (some { obj with item := f obj.item }) := by
  simp only [modifyItem, hkey, hobj, Option.map_some]

theorem Arranged.drop_at {g : Nat} (h : b.Arranged tables next (g :: air) opened)
    (hkey : b.keyOf pos = some key) (hfree : b.slots key = none) (hin : obj.key = key)
    (hguid : obj.item.guid = g) (hfits : obj.item.Fits tables)
    (hbag : ∀ slot, key = .own slot → ItemPos.isBagSlot slot → obj.item.isBag) :
    (b.put key (some obj)).Arranged tables next air opened := by
  refine h.drop hfree hin hguid hfits (fun slot heq => ⟨?_, hbag slot heq⟩) fun g' k heq => ?_
  · rw [heq] at hkey
    exact (keyOf_own.mp hkey).2
  · rw [heq] at hkey
    exact .inl (wornSlot_of_keyOf hkey)

end Belongings

namespace Bearer

variable {tables : ItemTables} {air : List Nat} {opened : List Item} {s : Bearer}
  {key : SlotKey} {pos : ItemPos} {it : Item} {count : Nat}

/-- All that holds of the items of a player at rest. -/
abbrev Arranged (tables : ItemTables) (air : List Nat) (opened : List Item) (s : Bearer) : Prop :=
  s.belongings.Arranged tables s.nextItemGuid air opened

/-- So many items of an entry came into the slots, and the objects are in their places. -/
structure Gains (tables : ItemTables) (air : List Nat) (opened : List Item) (s s' : Bearer)
    (entry amount : Nat) : Prop where
  arranged : s'.Arranged tables air opened
  next_le : s.nextItemGuid ≤ s'.nextItemGuid
  held : ∀ n e, s'.nextItemGuid ≤ n → s'.belongings.held n e = s.belongings.held n e + if entry = e then amount else 0
  mailed : s'.mailed = s.mailed

private theorem gains_grown (h : s.Arranged tables air opened) (hfits : it.Fits tables)
    {obj : ItemObject} (hkey : s.belongings.keyOf pos = some key)
    (hobj : s.belongings.slots key = some obj) (hentry : obj.item.entry = it.entry)
    (hroom : obj.item.count + count ≤ it.proto.getMaxStackSize) : Gains tables air opened s
      { s with belongings := s.belongings.modifyItem pos (·.grownAt pos count) } it.entry count := by
  have hold := h.fits key obj hobj
  have hproto := hfits.proto_eq hold hentry
  have hgrown : (obj.item.grownAt pos count).Fits tables := by
    refine hold.transfer rfl ?_ ?_
    · exact hold.pos.trans_le (Nat.le_add_right _ _)
    · rw [hproto]
      exact hroom
  rw [Belongings.modifyItem_eq hkey hobj]
  refine ⟨h.change hobj rfl rfl hgrown, le_rfl, fun n e hn => ?_, rfl⟩
  have hput := Belongings.held_put (b := s.belongings) (h.mem_keysBelow hn hkey)
    (some { obj with item := obj.item.grownAt pos count }) e
  rw [hobj] at hput
  simp only [Option.elim_some] at hput
  have hweight : Item.weight e (obj.item.grownAt pos count) =
      Item.weight e obj.item + if it.entry = e then count else 0 := by
    rw [← hentry]
    by_cases he : obj.item.entry = e
    · simp only [Item.weight, if_pos he]
      exact if_pos he
    · simp only [Item.weight, if_neg he]
      exact if_neg he
  rw [hweight] at hput
  dsimp only at hput ⊢
  omega

private theorem gains_dropped {g next : Nat}
    (h : s.belongings.Arranged tables next (g :: air) opened) (hle : s.nextItemGuid ≤ next)
    (hfits : it.Fits tables) (hguid : it.guid = g) (hkey : s.belongings.keyOf pos = some key)
    (hfree : s.belongings.slots key = none) (hbag : ∀ slot, key = .own slot → ItemPos.isBagSlot slot → it.isBag) :
    Gains tables air opened s { s with
        belongings := s.belongings.storeFree s.guid pos (boundAt it pos)
        nextItemGuid := next } it.entry it.count := by
  obtain ⟨obj, owner, heq, hin, hitem⟩ :=
    Belongings.storeFree_eq hkey s.guid (boundAt it pos)
  have hobj : obj.item.Fits tables := by
    rw [hitem]
    exact hfits.transfer rfl hfits.pos hfits.le
  rw [heq]
  refine ⟨h.drop_at hkey hfree hin ?_ hobj fun slot hslot hbagSlot => ?_, hle, fun n e hn => ?_, rfl⟩
  · rw [hitem]
    exact hguid
  · rw [hitem]
    exact hbag slot hslot hbagSlot
  · have hput := Belongings.held_put (b := s.belongings) (h.mem_keysBelow hn hkey) (some obj) e
    rw [hfree] at hput
    simp only [Option.elim_none, Option.elim_some] at hput
    have hweight : Item.weight e obj.item = if it.entry = e then it.count else 0 := by
      rw [hitem]
      rfl
    rw [hweight] at hput
    exact hput

theorem gains_storeAt_clone (h : s.Arranged tables (it.guid :: air) opened) (hfits : it.Fits tables)
    (htakes : s.belongings.Takes it.proto pos count) (hcount : 0 < count) :
    Gains tables (it.guid :: air) opened s (s.storeAt tables pos it count true) it.entry count := by
  obtain ⟨key, hkey, hroom⟩ := htakes
  have hat : s.belongings.getItemByPos pos = s.belongings.slots key := by
    rw [Belongings.getItemByPos, hkey, Option.bind_some]
  unfold storeAt
  rw [hat]
  cases hslot : s.belongings.slots key with
  | some obj =>
    rw [hslot] at hroom
    exact gains_grown h hfits hkey hslot hroom.1 hroom.2
  | none =>
    rw [hslot] at hroom
    simp only [if_true]
    cases hcopy : it.cloneItem tables s.nextItemGuid count s.guid with
    | none => simp [Item.cloneItem, Nat.ne_of_gt hcount] at hcopy
    | some copy =>
      obtain ⟨-, hguid, hproto, hn⟩ := Item.cloneItem_eq_some hcopy
      have hamount : copy.count = count := by omega
      have hentry : copy.entry = it.entry := congrArg ItemPrototype.itemId hproto
      have hcopyFits : copy.Fits tables :=
        hfits.transfer hproto (by omega) (by omega)
      have hgains := gains_dropped h.draw (Nat.le_succ _) hcopyFits hguid hkey hslot
        fun slot hown hbagSlot => by
          rw [Item.isBag, hproto]
          exact decide_eq_true (hroom.2 slot hown hbagSlot)
      rwa [hentry, hamount] at hgains

theorem gains_storeAt (h : s.Arranged tables (it.guid :: air) opened) (hfits : it.Fits tables)
    (htakes : s.belongings.Takes it.proto pos count) (hcount : 0 < count) :
    Gains tables air opened s (s.storeAt tables pos it count false) it.entry count := by
  obtain ⟨key, hkey, hroom⟩ := htakes
  have hat : s.belongings.getItemByPos pos = s.belongings.slots key := by
    rw [Belongings.getItemByPos, hkey, Option.bind_some]
  unfold storeAt
  rw [hat]
  cases hslot : s.belongings.slots key with
  | some obj =>
    rw [hslot] at hroom
    exact gains_grown h.forget hfits hkey hslot hroom.1 hroom.2
  | none =>
    rw [hslot] at hroom
    have hpart : Item.Fits tables { it with count } := hfits.transfer rfl hcount hroom.1
    exact gains_dropped h le_rfl hpart rfl hkey hslot fun slot hown hbagSlot =>
      decide_eq_true (hroom.2 slot hown hbagSlot)

theorem takes_storeAt {pos' : ItemPos} {m : Nat} {clone : Bool}
    (h : s.Arranged tables air opened) (htakes : s.belongings.Takes it.proto pos count)
    (hne : pos' ≠ pos) (htakes' : s.belongings.Takes it.proto pos' m) :
    (s.storeAt tables pos it count clone).belongings.Takes it.proto pos' m := by
  obtain ⟨key, hkey, -⟩ := htakes
  obtain ⟨key', hkey', hroom'⟩ := htakes'
  have hkeys : key' ≠ key := by
    rintro rfl
    exact hne (h.keyOf_inj hkey' hkey)
  have hput : ∀ v : Option ItemObject, (∀ obj, s.belongings.slots key = some obj →
      ∃ obj', v = some obj' ∧ obj'.item.guid = obj.item.guid ∧ obj'.item.proto = obj.item.proto) →
      (s.belongings.put key v).Takes it.proto pos' m := by
    intro v hv
    refine ⟨key', ?_, by rwa [Belongings.slots_put_of_ne hkeys]⟩
    refine Belongings.keyOf_congr (fun bag hbag => ?_) hkey'
    by_cases heq : SlotKey.own pos'.bag = key
    · obtain ⟨obj', rfl, hguid, hproto⟩ := hv bag (heq ▸ hbag)
      refine ⟨obj', by rw [heq, Belongings.slots_put_self], hguid, ?_⟩
      exact Belongings.getBagSize_congr hproto
    · exact ⟨bag, by rwa [Belongings.slots_put_of_ne heq], rfl, rfl⟩
  have hfree : ∀ it', s.belongings.slots key = none →
      (s.belongings.storeFree s.guid pos it').Takes it.proto pos' m := by
    intro it' hnone
    obtain ⟨obj, -, heq, -⟩ := Belongings.storeFree_eq hkey s.guid it'
    rw [heq]
    exact hput _ fun obj' hobj' => by rw [hnone] at hobj'; cases hobj'
  have hat : s.belongings.getItemByPos pos = s.belongings.slots key := by
    rw [Belongings.getItemByPos, hkey, Option.bind_some]
  unfold storeAt
  rw [hat]
  cases hslot : s.belongings.slots key with
  | some obj =>
    dsimp only
    rw [Belongings.modifyItem_eq hkey hslot]
    refine hput _ fun obj' hobj' => ?_
    rw [hslot] at hobj'
    obtain rfl := Option.some.inj hobj'
    exact ⟨_, rfl, rfl, rfl⟩
  | none =>
    cases clone with
    | false => exact hfree _ hslot
    | true =>
      simp only [if_true]
      cases it.cloneItem tables s.nextItemGuid count s.guid with
      | none => exact ⟨key', hkey', hroom'⟩
      | some copy => exact hfree _ hslot

theorem gains_storeItem {dest : List ItemPosCount} (h : s.Arranged tables (it.guid :: air) opened)
    (hfits : it.Fits tables) (hne : dest ≠ []) (hdistinct : (dest.map (·.pos)).Nodup)
    (htakes : ∀ p ∈ dest, 0 < p.count ∧ s.belongings.Takes it.proto p.pos p.count) :
    Gains tables air opened s (s.storeItem tables it dest) it.entry (placed dest) := by
  induction dest generalizing s with
  | nil => exact absurd rfl hne
  | cons p dest ih =>
    obtain ⟨hcount, hfirst⟩ := htakes p List.mem_cons_self
    cases dest with
    | nil =>
      have hgains := gains_storeAt h hfits hfirst hcount
      simpa [storeItem] using hgains
    | cons p' dest =>
      have hgains := gains_storeAt_clone h hfits hfirst hcount
      rw [List.map_cons, List.nodup_cons] at hdistinct
      have hrest := ih hgains.arranged (List.cons_ne_nil _ _) hdistinct.2 fun r hr => by
        obtain ⟨hm, hroom⟩ := htakes r (List.mem_cons_of_mem p hr)
        refine ⟨hm, takes_storeAt h hfirst (fun heq => hdistinct.1 ?_) hroom⟩
        exact heq ▸ List.mem_map_of_mem (f := (·.pos)) hr
      rw [storeItem]
      refine ⟨hrest.arranged, hgains.next_le.trans hrest.next_le, fun n e hn => ?_,
        hrest.mailed.trans hgains.mailed⟩
      rw [hrest.held n e hn, hgains.held n e (hrest.next_le.trans hn), placed_cons p]
      by_cases he : it.entry = e
      · simp only [if_pos he]
        omega
      · simp only [if_neg he]

end Bearer

end Mangos
