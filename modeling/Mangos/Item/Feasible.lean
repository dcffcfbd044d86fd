import Mangos.Item.Places

/-!
# The places found are there

A placement that `_CanStoreItem` accepts for an item it may put anywhere lies in the backpack and
in worn bags, takes free slots and stacks of the same item with room, and holds exactly the count
asked for.
-/

namespace Mangos

open Framework

def Inventory.IsCarriedPlace (inv : Inventory) (pos : ItemPos) : Prop :=
  inv.hasPos pos ∧ pos.isBagPos = false ∧ pos.isInventoryPos

theorem Inventory.isCarriedPlace_of_item {inv : Inventory} {place : ItemPos} {it : Item}
    (hplace : place.isInventoryPos) (hit : inv.getItemByPos place = some it) :
    inv.IsCarriedPlace place ∧ place.bag ≠ nullBag ∧ place.slot ≠ nullSlot := by
  have hpos := (Inventory.getItemByPos_eq_some hit).1
  have hslot : place.slot ≠ nullSlot := by
    intro hnull
    have hmem := Inventory.hasPos_mem hpos
    simp only [itemPositions, List.mem_append, mem_slotsOf, mem_bagContentSlots, hnull, nullSlot,
      maxBagSize, bankSlotBagEnd] at hmem
    omega
  have hplace' := hplace
  simp only [ItemPos.isInventoryPos, hslot, decide_false, Bool.false_or, Bool.or_eq_true,
    Bool.and_eq_true, decide_eq_true_eq] at hplace'
  simp only [inventorySlotBag0, inventorySlotItemStart, inventorySlotItemEnd,
    inventorySlotBagStart, inventorySlotBagEnd] at hplace'
  refine ⟨⟨hpos, ?_, hplace⟩, ?_, hslot⟩
  · simp only [ItemPos.isBagPos, ItemPos.isBagSlot, Bool.and_eq_false_iff, Bool.or_eq_false_iff,
      decide_eq_false_iff_not]
    simp only [inventorySlotBag0, inventorySlotBagStart, inventorySlotBagEnd, bankSlotBagStart, bankSlotBagEnd]
    omega
  · unfold nullBag
    omega

namespace StoreQuery

variable (q : StoreQuery) (inv : Inventory) (proto : ItemPrototype)

/-- A place can take `n` items: a free slot up to a full stack, a stack of the same item up to
its room. -/
def Admits (pos : ItemPos) (n : Nat) : Prop :=
  inv.IsCarriedPlace pos ∧ match q.itemAt inv pos with
    | none => n ≤ proto.getMaxStackSize
    | some it => it.entry = proto.itemId ∧ it.count + n ≤ proto.getMaxStackSize

variable {q inv proto} {start : List ItemPosCount} {total : Nat} {f : Filling ItemPos}

/-- A search keeps the filling sound and never refuses with `EQUIP_ERR_OK`. -/
def StageSound (q : StoreQuery) (inv : Inventory) (proto : ItemPrototype)
    (stage : Filling ItemPos → StageResult) : Prop :=
  ∀ start total f, f.Sound (q.Admits inv proto) start total → 0 < f.left → match stage f with
    | .placed f' => f'.Sound (q.Admits inv proto) start total
    | .skipped => True
    | .refused res _ => res ≠ .ok

private theorem isCarriedPlace_backpack {pos : ItemPos}
    (hpos : pos ∈ slotsOf inventorySlotBag0 inventorySlotItemStart inventorySlotItemEnd) : inv.IsCarriedPlace pos := by
  obtain ⟨hbag, hlo, hhi⟩ := mem_slotsOf.mp hpos
  have hlo' : 23 ≤ pos.slot := hlo
  have hhi' : pos.slot < 39 := hhi
  refine ⟨?_, ?_, ?_⟩
  · simp only [Inventory.hasPos, hbag, if_true, decide_eq_true_eq]
    simp only [bankSlotBagEnd]
    omega
  · simp only [ItemPos.isBagPos, ItemPos.isBagSlot, hbag, decide_true, Bool.true_and,
      Bool.or_eq_false_iff, Bool.and_eq_false_iff, decide_eq_false_iff_not]
    simp only [inventorySlotBagStart, inventorySlotBagEnd, bankSlotBagStart, bankSlotBagEnd]
    omega
  · simp [ItemPos.isInventoryPos, hbag, hlo, hhi]

private theorem isCarriedPlace_bag {bag : Nat} {pBag : Item} {pos : ItemPos}
    (hworn : inv.getItemByPos ⟨inventorySlotBag0, bag⟩ = some pBag)
    (hbag : bag ∈ List.range' inventorySlotBagStart (inventorySlotBagEnd - inventorySlotBagStart))
    (hpos : pos ∈ slotsOf bag 0 pBag.getBagSize) : inv.IsCarriedPlace pos := by
  obtain ⟨hbyte, -, hslot⟩ := mem_slotsOf.mp hpos
  have hrange := List.mem_range'_1.mp hbag
  simp only [inventorySlotBagStart, inventorySlotBagEnd] at hrange
  have hne : bag ≠ inventorySlotBag0 := by
    unfold inventorySlotBag0
    omega
  have hisBag : pBag.isBag = true := by
    by_contra hno
    simp [Item.getBagSize, hno] at hslot
  refine ⟨?_, ?_, ?_⟩
  · have hslots := (Inventory.getItemByPos_eq_some hworn).2
    simp only [Item.getBagSize, hisBag, if_true] at hslot
    have hbagSlot : ItemPos.isBagSlot bag = true := by
      simp only [ItemPos.isBagSlot, Bool.or_eq_true, Bool.and_eq_true, decide_eq_true_eq]
      simp only [inventorySlotBagStart, inventorySlotBagEnd]
      omega
    simp [Inventory.hasPos, hne, hbyte, hslots, hisBag, hslot, hbagSlot]
  · simp [ItemPos.isBagPos, hbyte, hne]
  · simp only [ItemPos.isInventoryPos, Bool.or_eq_true, Bool.and_eq_true, decide_eq_true_eq]
    simp only [inventorySlotBagStart, inventorySlotBagEnd]
    omega

private theorem stageSound_of_keeps {stage : Filling ItemPos → StageResult}
    (h : q.Keeps inv proto inv.IsCarriedPlace stage) : StageSound q inv proto stage := h

theorem anywhereStages_sound : ∀ stage ∈ q.anywhereStages inv proto, StageSound q inv proto stage := by
  intro stage hstage
  refine stageSound_of_keeps (anywhereStages_keeps (fun pos hpos => isCarriedPlace_backpack hpos)
    (fun bag hbag pBag hworn _ _ pos hpos => ?_) stage hstage)
  exact isCarriedPlace_bag hworn hbag hpos

/-! A search that starts at a place asked for. -/

/-- The place asked for, if there is one, is in the backpack or in a worn bag, and unless the item
there is to be swapped it is merged with. -/
structure PlaceClear (q : StoreQuery) (inv : Inventory) : Prop where
  wearsBags : ∀ bag pBag, inventorySlotBagStart ≤ bag → bag < inventorySlotBagEnd →
    inv.getItemByPos ⟨inventorySlotBag0, bag⟩ = some pBag → pBag.isBag
  isInventoryPos : q.bag ≠ nullBag → ItemPos.isInventoryPos ⟨q.bag, q.slot⟩
  mergesOrFree : q.swap = false ∨ q.itemAt inv ⟨q.bag, q.slot⟩ = none

private theorem mem_bagRange {q : StoreQuery} (hpos : ItemPos.isInventoryPos ⟨q.bag, q.slot⟩)
    (hbag : q.bag ≠ inventorySlotBag0) :
    q.bag ∈ List.range' inventorySlotBagStart (inventorySlotBagEnd - inventorySlotBagStart) := by
  simp only [ItemPos.isInventoryPos, hbag, decide_false, Bool.false_and, Bool.false_or,
    Bool.and_eq_true, decide_eq_true_eq] at hpos
  rw [List.mem_range'_1]
  simp only [inventorySlotBagStart, inventorySlotBagEnd] at hpos ⊢
  omega

private theorem mem_backpack {q : StoreQuery} (hpos : ItemPos.isInventoryPos ⟨q.bag, q.slot⟩)
    (hbag : q.bag = inventorySlotBag0) (hslot : q.slot ≠ nullSlot) : (⟨q.bag, q.slot⟩ : ItemPos) ∈
      slotsOf inventorySlotBag0 inventorySlotItemStart inventorySlotItemEnd := by
  simp only [ItemPos.isInventoryPos, hbag, hslot, decide_true, decide_false, Bool.true_and,
    Bool.false_or, Bool.or_eq_true, Bool.and_eq_true, decide_eq_true_eq] at hpos
  rw [mem_slotsOf]
  simp only [inventorySlotBag0, inventorySlotBagStart, inventorySlotBagEnd,
    inventorySlotItemStart, inventorySlotItemEnd] at hpos hbag ⊢
  omega

private theorem inSpecificSlot_sound (hplace : q.PlaceClear inv) (hbag : q.bag ≠ nullBag)
    (hslot : q.slot ≠ nullSlot) : StageSound q inv proto (q.inSpecificSlot inv proto) := by
  have hinv := hplace.isInventoryPos hbag
  refine stageSound_of_keeps (inSpecificSlot_keeps hplace.mergesOrFree fun hthere => ?_)
  by_cases hback : q.bag = inventorySlotBag0
  · exact isCarriedPlace_backpack (mem_backpack hinv hback hslot)
  rcases hthere with hsome | hown | ⟨bag, hworn, hsize, -⟩
  · obtain ⟨it, hat⟩ := Option.isSome_iff_exists.mp hsome
    have hshown : inv.getItemByPos ⟨q.bag, q.slot⟩ = some it := by
      unfold itemAt at hat
      exact (Option.filter_eq_some_iff.mp hat).1
    exact ⟨(Inventory.getItemByPos_eq_some hshown).1, by simp [ItemPos.isBagPos, hback], hinv⟩
  · exact absurd hown.1 hback
  · have hrange := mem_bagRange hinv hback
    have hmem := List.mem_range'_1.mp hrange
    have hisBag : bag.isBag = true := hplace.wearsBags q.bag bag hmem.1 hmem.2 hworn
    refine isCarriedPlace_bag hworn hrange ?_
    rw [mem_slotsOf, Item.getBagSize, if_pos hisBag]
    exact ⟨rfl, Nat.zero_le _, hsize⟩

theorem namedStages_sound (hplace : q.PlaceClear inv) :
    ∀ stage ∈ q.namedStages inv proto, StageSound q inv proto stage := by
  intro stage hstage
  obtain ⟨hbag, ⟨hslot, rfl⟩ | ⟨-, merge, rfl⟩ | ⟨hback, merge, rfl⟩⟩ := mem_namedStages hstage
  · exact inSpecificSlot_sound hplace hbag hslot
  · exact stageSound_of_keeps
      (inInventorySlots_keeps merge fun pos hpos => isCarriedPlace_backpack hpos)
  · have hrange := mem_bagRange (hplace.isInventoryPos hbag) hback
    refine stageSound_of_keeps (inNamedBag_keeps fun nonSpecialized => ?_)
    exact inBag_keeps fun pBag hworn _ _ pos hpos => isCarriedPlace_bag hworn hrange hpos

end StoreQuery

/-- What a search anywhere adds to the places `start` found before. -/
structure StoreQuery.Extends (q : StoreQuery) (inv : Inventory) (proto : ItemPrototype)
    (start : List ItemPosCount) (answer : StoreAnswer) : Prop where
  kept : start <+: answer.dest
  distinct : (answer.dest.map (·.pos)).Nodup
  admitted : ∀ p ∈ addedTo start answer.dest, 0 < p.count ∧ q.Admits inv proto p.pos p.count
  total : answer.result = .ok → placed (addedTo start answer.dest) = q.count

theorem Player.canStoreItem_extends_of_sound {tables : ItemTables} {accounts : Accounts}
    {pl : Player} {q : StoreQuery} {proto : ItemPrototype} {start : List ItemPosCount}
    (hproto : tables.prototype q.entry = some proto) (hnamed : ∀ stage ∈ q.namedStages pl.inventory proto,
      StoreQuery.StageSound q pl.inventory proto stage) (hcount : 0 < q.count) (hstart : (start.map (·.pos)).Nodup) :
    q.Extends pl.inventory proto start (pl.canStoreItem tables accounts q start) := by
  have hstages : ∀ stage ∈ q.namedStages pl.inventory proto ++ q.anywhereStages pl.inventory proto,
      q.Keeps pl.inventory proto pl.inventory.IsCarriedPlace stage := by
    intro stage hstage
    rcases List.mem_append.mp hstage with hmem | hmem
    · exact hnamed stage hmem
    · exact StoreQuery.anywhereStages_sound stage hmem
  have hplaces := @Player.canStoreItem_places tables accounts pl q proto _ start hproto hstages
    hcount hstart
  exact ⟨hplaces.kept, hplaces.distinct, hplaces.admitted, hplaces.total⟩

theorem Player.canStoreItem_extends {tables : ItemTables} {accounts : Accounts} {pl : Player}
    {q : StoreQuery} {proto : ItemPrototype} {start : List ItemPosCount}
    (hproto : tables.prototype q.entry = some proto) (hanywhere : q.bag = nullBag)
    (hcount : 0 < q.count) (hstart : (start.map (·.pos)).Nodup) :
    q.Extends pl.inventory proto start (pl.canStoreItem tables accounts q start) := by
  have hnamed : q.namedStages pl.inventory proto = [] := by
    simp [StoreQuery.namedStages, hanywhere]
  refine Player.canStoreItem_extends_of_sound hproto (fun stage hstage => ?_) hcount hstart
  rw [hnamed] at hstage
  cases hstage

/-- An accepted placement of a new or moved item anywhere. -/
structure StoreQuery.Feasible (q : StoreQuery) (inv : Inventory) (proto : ItemPrototype)
    (dest : List ItemPosCount) : Prop where
  distinct : (dest.map (·.pos)).Nodup
  admitted : ∀ p ∈ dest, 0 < p.count ∧ q.Admits inv proto p.pos p.count
  total : placed dest = q.count

private theorem StoreQuery.Extends.feasible {q : StoreQuery} {inv : Inventory}
    {proto : ItemPrototype} {answer : StoreAnswer} (h : q.Extends inv proto [] answer)
    (hok : answer.result = .ok) : q.Feasible inv proto answer.dest := by
  constructor
  · exact h.distinct
  · simpa using h.admitted
  · simpa using h.total hok

private theorem Player.prototype_of_ok {tables : ItemTables} {accounts : Accounts} {pl : Player}
    {q : StoreQuery} {start : List ItemPosCount} (hok : (pl.canStoreItem tables accounts q start).result = .ok) :
    ∃ proto, tables.prototype q.entry = some proto := by
  cases hproto : tables.prototype q.entry with
  | some proto => exact ⟨proto, rfl⟩
  | none =>
    simp only [canStoreItem, hproto] at hok
    split at hok
    · cases hok
    · cases hok

theorem Player.canStoreItem_feasible {tables : ItemTables} {accounts : Accounts} {pl : Player}
    {q : StoreQuery} (hanywhere : q.bag = nullBag) (hcount : 0 < q.count)
    (hok : (pl.canStoreItem tables accounts q []).result = .ok) : ∃ proto, tables.prototype q.entry = some proto ∧
      q.Feasible pl.inventory proto (pl.canStoreItem tables accounts q []).dest := by
  obtain ⟨proto, hproto⟩ := Player.prototype_of_ok hok
  have hextends := @Player.canStoreItem_extends tables accounts pl q proto [] hproto hanywhere
    hcount List.nodup_nil
  exact ⟨proto, hproto, hextends.feasible hok⟩

theorem Player.canStoreItem_swap {tables : ItemTables} {accounts : Accounts} {pl : Player}
    {q : StoreQuery} {proto : ItemPrototype} (hbag : q.bag ≠ nullBag) (hslot : q.slot ≠ nullSlot)
    (hswap : q.swap = true) (hproto : tables.prototype q.entry = some proto)
    (hmax : q.count ≤ proto.getMaxStackSize) (hok : (pl.canStoreItem tables accounts q []).result = .ok) :
    (pl.canStoreItem tables accounts q []).dest = [⟨⟨q.bag, q.slot⟩, q.count⟩] :=
  Player.canStoreItem_whole hbag hslot (.inl hswap) hproto hmax hok

theorem Player.canStoreItem_feasible_at {tables : ItemTables} {accounts : Accounts} {pl : Player}
    {q : StoreQuery} (hplace : q.PlaceClear pl.inventory) (hcount : 0 < q.count)
    (hok : (pl.canStoreItem tables accounts q []).result = .ok) : ∃ proto, tables.prototype q.entry = some proto ∧
      q.Feasible pl.inventory proto (pl.canStoreItem tables accounts q []).dest := by
  obtain ⟨proto, hproto⟩ := Player.prototype_of_ok hok
  have hextends := @Player.canStoreItem_extends_of_sound tables accounts pl q proto [] hproto
    (StoreQuery.namedStages_sound hplace) hcount List.nodup_nil
  exact ⟨proto, hproto, hextends.feasible hok⟩

end Mangos
