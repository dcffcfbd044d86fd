import Mangos.Item.Equip
import Mangos.Item.Places
import Mangos.Item.Stowed

/-!
# The places found for an object are there

Where `CanStoreItem` or `CanBankItem` accepts an item, the places are there once the item is out of its
slot.
-/

namespace Mangos

open Framework

namespace Belongings

variable {tables : ItemTables} {next : Nat} {air : List Nat} {opened : List Item} {b : Belongings}
  {key : SlotKey} {obj : ItemObject} {pos : ItemPos} {it : Item}

def without (b : Belongings) (guid : Nat) : Belongings :=
  ⟨fun key => (b.slots key).filter fun obj => obj.item.guid ≠ guid⟩

theorem without_of_away {guid : Nat} (h : ∀ key obj, b.slots key = some obj → obj.item.guid ≠ guid) :
    b.without guid = b := by
  unfold without
  congr
  funext key
  cases hkey : b.slots key with
  | none => rfl
  | some obj => exact Option.filter_some_pos (decide_eq_true (h key obj hkey))

theorem Arranged.removeItem_eq (h : b.Arranged tables next air opened)
    (hkey : b.keyOf pos = some key) (hobj : b.slots key = some obj) :
    b.removeItem pos = b.put key none ∧ b.put key none = b.without obj.item.guid := by
  refine ⟨by rw [removeItem, hkey], ?_⟩
  unfold put without
  congr
  funext key'
  by_cases heq : key' = key
  · rw [heq, Function.update_self, hobj]
    simp [Option.filter]
  · rw [Function.update_of_ne heq]
    cases hkey' : b.slots key' with
    | none => rfl
    | some obj' =>
      have hne : obj'.item.guid ≠ obj.item.guid :=
        fun hguid => heq (h.distinct key' key obj' obj hkey' hobj hguid)
      rw [Option.filter_some, if_pos (decide_eq_true hne)]

theorem slots_without {guid : Nat} :
    (b.without guid).slots key = some obj ↔ b.slots key = some obj ∧ obj.item.guid ≠ guid := by
  simp [without, Option.filter_eq_some_iff]

def Stands (b : Belongings) (it : Item) (pos : ItemPos) : Prop :=
  ∃ key, (b.without it.guid).keyOf pos = some key ∧
    ∀ slot, key = .own slot → ItemPos.isBagSlot slot → (b.without it.guid).slots key = none → it.isBag

theorem keyOf_of_without {guid : Nat} (h : (b.without guid).keyOf pos = some key) : b.keyOf pos = some key :=
  keyOf_congr (fun bag hbag => ⟨bag, (slots_without.mp hbag).1, rfl, rfl⟩) h

theorem itemAt_inventory {q : StoreQuery} (hitem : q.pItem = some it) (hkey : b.keyOf pos = some key) :
    q.itemAt b.inventory pos = ((b.without it.guid).slots key).map (·.item) := by
  unfold StoreQuery.itemAt without
  rw [getItemByPos_inventory, getItemByPos, hkey, Option.bind_some]
  dsimp only
  cases hobj : b.slots key with
  | none => rfl
  | some obj =>
    by_cases hguid : obj.item.guid = it.guid
    · simp [hitem, hguid, Option.filter]
    · have hguid' : it.guid ≠ obj.item.guid := Ne.symm hguid
      simp [hitem, hguid, hguid', Option.filter]

theorem takes_of_takesAt {q : StoreQuery} {count : Nat} (hitem : q.pItem = some it)
    (hstands : b.Stands it pos) (htakes : q.TakesAt b.inventory it.proto pos count) :
    (b.without it.guid).Takes it.proto pos count := by
  obtain ⟨key, hkey, hbag⟩ := hstands
  refine ⟨key, hkey, ?_⟩
  rw [StoreQuery.TakesAt, itemAt_inventory hitem (keyOf_of_without hkey)] at htakes
  cases hslot : (b.without it.guid).slots key with
  | none =>
    rw [hslot] at htakes
    exact ⟨htakes, fun slot hown hbagSlot => of_decide_eq_true (hbag slot hown hbagSlot hslot)⟩
  | some obj =>
    rw [hslot] at htakes
    exact htakes

theorem stands_own {slot : Nat} (hlt : slot < bankSlotBagEnd)
    (hbag : ItemPos.isBagSlot slot → it.isBag) : b.Stands it ⟨inventorySlotBag0, slot⟩ := by
  refine ⟨.own slot, keyOf_own.mpr ⟨rfl, hlt⟩, fun slot' heq hslot _ => hbag ?_⟩
  rwa [SlotKey.own.inj heq]

theorem stands_inside {bag : ItemObject} (hslot : ItemPos.isBagSlot pos.bag)
    (hworn : b.slots (.own pos.bag) = some bag) (hother : bag.item.guid ≠ it.guid)
    (hlt : pos.slot < bag.item.getBagSize) : b.Stands it pos := by
  refine ⟨.inside bag.item.guid pos.slot, keyOf_inside.mpr ⟨rfl, hslot, bag, ?_, rfl, hlt⟩, ?_⟩
  · exact slots_without.mpr ⟨hworn, hother⟩
  · intro slot heq
    cases heq

theorem stands_slotsOf {first last : Nat} (hlast : last ≤ bankSlotBagEnd)
    (hclear : ∀ slot, first ≤ slot → slot < last → ItemPos.isBagSlot slot = false) :
    ∀ pos ∈ slotsOf inventorySlotBag0 first last, b.Stands it pos := by
  rintro ⟨bag, slot⟩ hpos
  obtain ⟨rfl, hlo, hhi⟩ := mem_slotsOf.mp hpos
  refine stands_own (hhi.trans_le hlast) fun hbag => ?_
  rw [hclear slot hlo hhi] at hbag
  cases hbag

theorem stands_bag {q : StoreQuery} {bag : Nat} {pBag : Item} (hitem : q.pItem = some it)
    (hslot : ItemPos.isBagSlot bag) (hworn : b.inventory.getItemByPos ⟨inventorySlotBag0, bag⟩ = some pBag)
    (hother : q.pItem.any (·.guid = pBag.guid) = false) : ∀ pos ∈ slotsOf bag 0 pBag.getBagSize, b.Stands it pos := by
  rintro pos hpos
  obtain ⟨rfl, -, hlt⟩ := mem_slotsOf.mp hpos
  rw [getItemByPos_inventory, Option.map_eq_some_iff] at hworn
  obtain ⟨obj, hobj, rfl⟩ := hworn
  obtain ⟨key, hkey, hslots⟩ := getItemByPos_eq_some.mp hobj
  have hown : b.keyOf ⟨inventorySlotBag0, pos.bag⟩ = some (.own pos.bag) :=
    keyOf_own.mpr ⟨rfl, isBagSlot_lt hslot⟩
  obtain rfl : key = .own pos.bag := Option.some.inj (hkey.symm.trans hown)
  refine stands_inside hslot hslots ?_ hlt
  simp only [hitem, Option.any_some, decide_eq_false_iff_not] at hother
  exact Ne.symm hother

theorem isBagSlot_of_kind (hkind : pos.isInventoryPos ∨ pos.isBankPos)
    (hbag : pos.bag ≠ inventorySlotBag0) : ItemPos.isBagSlot pos.bag := by
  simp only [ItemPos.isInventoryPos, ItemPos.isBankPos, hbag, decide_false, Bool.false_and,
    Bool.false_or, Bool.and_eq_true, decide_eq_true_eq] at hkind
  simp only [ItemPos.isBagSlot, Bool.or_eq_true, Bool.and_eq_true, decide_eq_true_eq]
  exact hkind

theorem slot_lt_of_kind (hkind : pos.isInventoryPos ∨ pos.isBankPos)
    (hbag : pos.bag = inventorySlotBag0) (hslot : pos.slot ≠ nullSlot) : pos.slot < bankSlotBagEnd := by
  simp only [ItemPos.isInventoryPos, ItemPos.isBankPos, hbag, hslot, decide_true, decide_false,
    Bool.true_and, Bool.false_or, Bool.or_eq_true, Bool.and_eq_true, decide_eq_true_eq] at hkind
  simp only [inventorySlotBag0, inventorySlotBagStart, inventorySlotBagEnd, inventorySlotItemStart,
    inventorySlotItemEnd, bankSlotItemStart, bankSlotItemEnd, bankSlotBagStart, bankSlotBagEnd] at hkind ⊢
  omega

theorem Arranged.stands_named {q : StoreQuery} {proto : ItemPrototype} (h : b.Arranged tables next air opened)
    (hkind : ItemPos.isInventoryPos ⟨q.bag, q.slot⟩ ∨ ItemPos.isBankPos ⟨q.bag, q.slot⟩)
    (hslot : q.slot ≠ nullSlot) (hbag : ItemPos.isBagPos ⟨q.bag, q.slot⟩ → it.isBag)
    (hself : ∀ bag, b.slots (.own q.bag) = some bag → bag.item.guid ≠ it.guid)
    (hthere : (q.itemAt b.inventory ⟨q.bag, q.slot⟩).isSome ∨ q.OwnSlot ∨
      ∃ bag, b.inventory.getItemByPos ⟨inventorySlotBag0, q.bag⟩ = some bag ∧
        q.slot < bag.proto.containerSlots ∧ itemCanGoIntoBag proto bag.proto) : b.Stands it ⟨q.bag, q.slot⟩ := by
  by_cases hown : q.bag = inventorySlotBag0
  · have hlt := slot_lt_of_kind hkind hown hslot
    rw [hown] at hbag ⊢
    refine stands_own hlt fun hbagSlot => hbag ?_
    simpa [ItemPos.isBagPos] using hbagSlot
  have hworn := isBagSlot_of_kind hkind hown
  rcases hthere with hsome | hbag0 | ⟨bag, hbagAt, hlt, -⟩
  · obtain ⟨other, hat⟩ := Option.isSome_iff_exists.mp hsome
    unfold StoreQuery.itemAt at hat
    have hshown := (Option.filter_eq_some_iff.mp hat).1
    rw [getItemByPos_inventory, Option.map_eq_some_iff] at hshown
    obtain ⟨obj, hobj, -⟩ := hshown
    obtain ⟨key, hkey, -⟩ := getItemByPos_eq_some.mp hobj
    cases key with
    | own slot => exact absurd (congrArg ItemPos.bag (keyOf_own.mp hkey).1) hown
    | inside g k =>
      obtain ⟨hk, -, bag, hbagObj, -, hlt⟩ := keyOf_inside.mp hkey
      exact stands_inside hworn hbagObj (hself bag hbagObj) (hk ▸ hlt)
  · exact absurd hbag0.1 hown
  · rw [getItemByPos_inventory, Option.map_eq_some_iff] at hbagAt
    obtain ⟨obj, hobj, rfl⟩ := hbagAt
    obtain ⟨key, hkey, hslots⟩ := getItemByPos_eq_some.mp hobj
    have hbagKey : b.keyOf ⟨inventorySlotBag0, q.bag⟩ = some (.own q.bag) :=
      keyOf_own.mpr ⟨rfl, isBagSlot_lt hworn⟩
    obtain rfl : key = .own q.bag := Option.some.inj (hkey.symm.trans hbagKey)
    refine stands_inside hworn hslots (hself obj hslots) ?_
    rw [Item.getBagSize, if_pos (h.bags q.bag obj hworn hslots)]
    exact hlt

theorem stands_backpack : ∀ pos ∈ slotsOf inventorySlotBag0 inventorySlotItemStart inventorySlotItemEnd,
      b.Stands it pos :=
  stands_slotsOf (by decide) fun slot hlo hhi => by
    simp only [inventorySlotItemStart, inventorySlotItemEnd] at hlo hhi
    rw [Bool.eq_false_iff, ne_eq, Inventory.isBagSlot_iff]
    omega

theorem stands_bank : ∀ pos ∈ slotsOf inventorySlotBag0 bankSlotItemStart bankSlotItemEnd, b.Stands it pos :=
  stands_slotsOf (by decide) fun slot hlo hhi => by
    simp only [bankSlotItemStart, bankSlotItemEnd] at hlo hhi
    rw [Bool.eq_false_iff, ne_eq, Inventory.isBagSlot_iff]
    omega

end Belongings

namespace Bearer

variable {tables : ItemTables} {accounts : Accounts} {rules : WearRules} {air : List Nat}
  {opened : List Item} {s : Bearer} {pos : ItemPos} {it : Item}

/-- Different places with room for all of an item once it is out of its slot. -/
structure Found (s : Bearer) (it : Item) (dest : List ItemPosCount) : Prop where
  distinct : (dest.map (·.pos)).Nodup
  takes : ∀ p ∈ dest, 0 < p.count ∧ (s.belongings.without it.guid).Takes it.proto p.pos p.count
  total : placed dest = it.count

theorem Found.ne_nil {dest : List ItemPosCount} (h : s.Found it dest) (hfits : it.Fits tables) : dest ≠ [] := by
  rintro rfl
  have htotal := h.total
  have hpos := hfits.pos
  simp only [placed_nil] at htotal
  omega

private theorem isBagSlot_range {bag : Nat}
    (h : bag ∈ List.range' inventorySlotBagStart (inventorySlotBagEnd - inventorySlotBagStart)) :
    ItemPos.isBagSlot bag := by
  have hrange := List.mem_range'_1.mp h
  simp only [inventorySlotBagStart, inventorySlotBagEnd] at hrange
  rw [Inventory.isBagSlot_iff]
  omega

private theorem isBagSlot_bankRange {bag : Nat}
    (h : bag ∈ List.range' bankSlotBagStart (bankSlotBagEnd - bankSlotBagStart)) : ItemPos.isBagSlot bag := by
  have hrange := List.mem_range'_1.mp h
  simp only [bankSlotBagStart, bankSlotBagEnd] at hrange
  rw [Inventory.isBagSlot_iff]
  omega

variable {q : StoreQuery} {proto : ItemPrototype}

private theorem inNamedBag_stands (hitem : q.pItem = some it)
    (hkind : ItemPos.isInventoryPos ⟨q.bag, q.slot⟩ ∨ ItemPos.isBankPos ⟨q.bag, q.slot⟩)
    (hown : q.bag ≠ inventorySlotBag0) (merge : Bool) : q.Keeps s.belongings.inventory proto (s.belongings.Stands it)
      (q.inNamedBag s.belongings.inventory proto merge) :=
  StoreQuery.inNamedBag_keeps fun _ => StoreQuery.inBag_keeps fun _ hworn hother _ =>
    Belongings.stands_bag hitem (Belongings.isBagSlot_of_kind hkind hown) hworn hother

private theorem namedStages_stand (h : s.Arranged tables air opened) (hitem : q.pItem = some it)
    (hswap : q.swap = false) (hkind : q.bag ≠ nullBag → ItemPos.isInventoryPos ⟨q.bag, q.slot⟩)
    (hself : ∀ bag, s.belongings.slots (.own q.bag) = some bag → bag.item.guid ≠ it.guid) :
    ∀ stage ∈ q.namedStages s.belongings.inventory proto,
      q.Keeps s.belongings.inventory proto (s.belongings.Stands it) stage := by
  intro stage hstage
  obtain ⟨hbag, ⟨hslot, rfl⟩ | ⟨-, merge, rfl⟩ | ⟨hown, merge, rfl⟩⟩ :=
    StoreQuery.mem_namedStages hstage
  · have hnoBag : ItemPos.isBagPos ⟨q.bag, q.slot⟩ → it.isBag := by
      intro hbagPos
      have hpos := hkind hbag
      simp only [ItemPos.isBagPos, ItemPos.isBagSlot, ItemPos.isInventoryPos, Bool.or_eq_true,
        Bool.and_eq_true, decide_eq_true_eq] at hbagPos hpos
      simp only [inventorySlotBag0, inventorySlotBagStart, inventorySlotBagEnd, bankSlotBagStart,
        bankSlotBagEnd, inventorySlotItemStart, inventorySlotItemEnd, nullSlot] at hbagPos hpos hslot
      omega
    exact StoreQuery.inSpecificSlot_keeps (.inl hswap) fun hthere =>
      h.stands_named (.inl (hkind hbag)) hslot hnoBag hself hthere
  · exact StoreQuery.inInventorySlots_keeps merge Belongings.stands_backpack
  · exact inNamedBag_stands hitem (.inl (hkind hbag)) hown merge

private theorem anywhereStages_stand (hitem : q.pItem = some it) :
    ∀ stage ∈ q.anywhereStages s.belongings.inventory proto,
      q.Keeps s.belongings.inventory proto (s.belongings.Stands it) stage :=
  StoreQuery.anywhereStages_keeps Belongings.stands_backpack fun _ hbag _ hworn hother _ =>
    Belongings.stands_bag hitem (isBagSlot_range hbag) hworn hother

private theorem Found.of_places {answer : StoreAnswer} (hitem : q.pItem = some it) (hcount : q.count = it.count)
    (h : q.Places s.belongings.inventory it.proto (s.belongings.Stands it) [] answer)
    (hok : answer.result = .ok) : s.Found it answer.dest := by
  refine ⟨h.distinct, fun p hp => ?_, ?_⟩
  · obtain ⟨hpos, hstands, htakes⟩ := h.admitted p (by simpa using hp)
    exact ⟨hpos, Belongings.takes_of_takesAt hitem hstands htakes⟩
  · rw [← hcount]
    simpa using h.total hok

theorem found_of_canStoreItem (h : s.Arranged tables air opened) (hfits : it.Fits tables)
    (hkind : pos.bag ≠ nullBag → pos.isInventoryPos)
    (hself : ∀ bag, s.belongings.slots (.own pos.bag) = some bag → bag.item.guid ≠ it.guid)
    (hok : (s.canStoreItem tables accounts pos it false).result = .ok) :
    s.Found it (s.canStoreItem tables accounts pos it false).dest := by
  let q : StoreQuery :=
    { bag := pos.bag, slot := pos.slot, entry := it.entry, count := it.count, pItem := some it
      bagIsEmpty := s.belongings.isEmpty it }
  have hstages : ∀ stage ∈ q.namedStages s.belongings.inventory it.proto ++
      q.anywhereStages s.belongings.inventory it.proto,
      q.Keeps s.belongings.inventory it.proto (s.belongings.Stands it) stage := by
    intro stage hstage
    rcases List.mem_append.mp hstage with hmem | hmem
    · exact namedStages_stand h rfl rfl hkind hself stage hmem
    · exact anywhereStages_stand rfl stage hmem
  exact Found.of_places rfl rfl (@Player.canStoreItem_places tables accounts s.player q it.proto _ []
    hfits.known hstages hfits.pos List.nodup_nil) hok

/-! The bank is searched in the same way. -/

private theorem mem_bankNamedStages {inv : Inventory} {stage : Filling ItemPos → StageResult}
    (hstage : stage ∈ q.bankNamedStages inv proto) :
    (q.slot ≠ nullSlot ∧ stage = q.inSpecificSlot inv proto) ∨ stage = q.checkBagEmpty ∨
      (∃ merge, stage = q.inBankSlots inv proto merge) ∨
      (q.bag ≠ inventorySlotBag0 ∧ ∃ merge, stage = q.inNamedBag inv proto merge) := by
  rw [StoreQuery.bankNamedStages, List.mem_append] at hstage
  rcases hstage with hspecific | hsearch
  · split at hspecific
    next hnamed => exact .inl ⟨hnamed.2, List.mem_singleton.mp hspecific⟩
    next => cases hspecific
  · split at hsearch
    next => cases hsearch
    next hbag =>
      rcases List.mem_cons.mp hsearch with hcheck | hsearch
      · exact .inr (.inl hcheck)
      have hall : ∃ merge, stage = if q.bag = inventorySlotBag0 then
          q.inBankSlots inv proto merge else q.inNamedBag inv proto merge := by
        split at hsearch
        · rcases List.mem_cons.mp hsearch with hfirst | hsecond
          · exact ⟨true, hfirst⟩
          · exact ⟨false, List.mem_singleton.mp hsecond⟩
        · exact ⟨false, List.mem_singleton.mp hsearch⟩
      obtain ⟨merge, hmerge⟩ := hall
      by_cases hown : q.bag = inventorySlotBag0
      · rw [if_pos hown] at hmerge
        exact .inr (.inr (.inl ⟨merge, hmerge⟩))
      · rw [if_neg hown] at hmerge
        exact .inr (.inr (.inr ⟨hown, merge, hmerge⟩))

private theorem mem_bankAnywhereStages {inv : Inventory} {stage : Filling ItemPos → StageResult}
    (hstage : stage ∈ q.bankAnywhereStages inv proto) : (∃ merge, stage = q.inBankSlots inv proto merge) ∨
      ∃ merge nonSpecialized, stage ∈ q.inBankBags inv proto merge nonSpecialized := by
  unfold StoreQuery.bankAnywhereStages at hstage
  by_cases hstack : proto.stackable ≠ 1 <;> by_cases hfamily : proto.bagFamily ≠ 0 <;>
    simp only [hstack, hfamily, if_false, List.mem_append, List.mem_cons,
      List.not_mem_nil, or_false, List.nil_append, List.cons_append] at hstage <;> grind

private theorem inBankSlots_stand (merge : Bool) : q.Keeps s.belongings.inventory proto (s.belongings.Stands it)
      (q.inBankSlots s.belongings.inventory proto merge) :=
  StoreQuery.fill_keeps fun pos hpos => Belongings.stands_bank pos (List.mem_of_mem_filter hpos)

private theorem bankStages_stand (h : s.Arranged tables air opened) (hitem : q.pItem = some it)
    (hswap : q.swap = false) (hkind : ItemPos.isBankPos ⟨q.bag, q.slot⟩)
    (hbag : ItemPos.isBagPos ⟨q.bag, q.slot⟩ → it.isBag)
    (hself : ∀ bag, s.belongings.slots (.own q.bag) = some bag → bag.item.guid ≠ it.guid) :
    ∀ stage ∈ q.bankNamedStages s.belongings.inventory proto ++ q.bankAnywhereStages s.belongings.inventory proto,
      q.Keeps s.belongings.inventory proto (s.belongings.Stands it) stage := by
  intro stage hstage
  rcases List.mem_append.mp hstage with hmem | hmem
  · rcases mem_bankNamedStages hmem with ⟨hslot, rfl⟩ | rfl | ⟨merge, rfl⟩ | ⟨hown, merge, rfl⟩
    · exact StoreQuery.inSpecificSlot_keeps (.inl hswap) fun hthere =>
        h.stands_named (.inr hkind) hslot hbag hself hthere
    · exact StoreQuery.checkBagEmpty_keeps
    · exact inBankSlots_stand merge
    · exact inNamedBag_stands hitem (.inr hkind) hown merge
  · rcases mem_bankAnywhereStages hmem with ⟨merge, rfl⟩ | ⟨merge, nonSpecialized, hmem⟩
    · exact inBankSlots_stand merge
    · obtain ⟨bag, hbagRange, rfl⟩ := List.mem_map.mp hmem
      exact (StoreQuery.inBag_keeps fun _ hworn hother _ =>
        Belongings.stands_bag hitem (isBagSlot_bankRange hbagRange) hworn hother).orSkip

/-- The query of `CanBankItem`. -/
def bankQuery (s : Bearer) (pos : ItemPos) (it : Item) (swap : Bool) : StoreQuery where
  bag := pos.bag
  slot := pos.slot
  entry := it.entry
  count := it.count
  pItem := some it
  bagIsEmpty := s.belongings.isEmpty it
  swap := swap

theorem canBankItem_ok {swap : Bool} (hok : (s.canBankItem accounts rules pos it swap).result = .ok) :
    s.bankSlotRefusal rules pos it = .ok ∧
      let q := s.bankQuery pos it swap
      s.canBankItem accounts rules pos it swap = runStages 0 (q.bankNamedStages s.belongings.inventory it.proto ++
          q.bankAnywhereStages s.belongings.inventory it.proto) ⟨[], it.count⟩ := by
  unfold canBankItem at hok ⊢
  simp only at hok ⊢
  split at hok
  · cases hok
  split at hok
  · cases hok
  split at hok
  · cases hok
  split at hok
  next hres => exact absurd hok hres
  split at hok
  next hres => exact absurd hok hres
  next hleft hloot hbound hsimilar hslot =>
    rw [if_neg hleft, if_neg hloot, if_neg hbound, if_neg hsimilar, if_neg hslot]
    refine ⟨not_not.mp hslot, ?_⟩
    split at hok
    · cases hok
    next hfull => exact if_neg hfull

theorem isBag_of_bankSlotRefusal (hkind : pos.isBankPos) (hbag : pos.isBagPos)
    (hok : s.bankSlotRefusal rules pos it = .ok) : it.isBag := by
  by_contra hno
  have hslot : ((pos.bag ≠ nullBag && pos.slot ≠ nullSlot) &&
      (bankSlotBagStart ≤ pos.slot && pos.slot < bankSlotBagEnd)) = true := by
    simp only [ItemPos.isBagPos, Bool.and_eq_true, decide_eq_true_eq, Inventory.isBagSlot_iff] at hbag
    obtain ⟨hown, hrange⟩ := hbag
    simp only [ItemPos.isBankPos, hown, decide_true, Bool.true_and, Bool.or_eq_true,
      Bool.and_eq_true, decide_eq_true_eq] at hkind
    simp only [inventorySlotBag0, bankSlotItemStart, bankSlotItemEnd, bankSlotBagStart, bankSlotBagEnd] at hkind
    simp only [Bool.and_eq_true, decide_eq_true_eq, hown]
    simp only [inventorySlotBag0, nullBag, nullSlot, bankSlotBagStart, bankSlotBagEnd]
    omega
  unfold bankSlotRefusal at hok
  rw [if_pos hslot, if_pos (by simpa using hno)] at hok
  cases hok

theorem found_of_canBankItem (h : s.Arranged tables air opened) (hfits : it.Fits tables) (hkind : pos.isBankPos)
    (hself : ∀ bag, s.belongings.slots (.own pos.bag) = some bag → bag.item.guid ≠ it.guid)
    (hok : (s.canBankItem accounts rules pos it false).result = .ok) :
    s.Found it (s.canBankItem accounts rules pos it false).dest := by
  obtain ⟨hslot, hrun⟩ := canBankItem_ok hok
  rw [hrun] at hok ⊢
  have hnil : (([] : List ItemPosCount).map (·.pos)).Nodup := List.nodup_nil
  have hbegin := Filling.Sound.refl
    (fun p n => s.belongings.Stands it p ∧
      (s.bankQuery pos it false).TakesAt s.belongings.inventory it.proto p n) hnil it.count
  obtain ⟨left, hsound, hall, -⟩ := @StoreQuery.runStages_keeps (s.bankQuery pos it false)
    s.belongings.inventory it.proto (s.belongings.Stands it) [] _ _ 0 _
    (bankStages_stand h rfl rfl hkind (fun hbag => isBag_of_bankSlotRefusal hkind hbag hslot) hself)
    hbegin hfits.pos
  obtain ⟨hnone, -⟩ := hall hok
  have htotal := hsound.total
  rw [hnone, Nat.add_zero] at htotal
  refine ⟨hsound.distinct, fun p hp => ?_, by simpa using htotal⟩
  obtain ⟨hpos, hstands, htakes⟩ := hsound.admitted p (by simpa using hp)
  exact ⟨hpos, Belongings.takes_of_takesAt rfl hstands htakes⟩

/-! A free place, or one to be swapped. -/

def Clear (s : Bearer) (it : Item) (pos : ItemPos) : Prop :=
  ∀ obj, s.belongings.getItemByPos pos = some obj → obj.item.guid = it.guid

private theorem itemAt_of_clear {q : StoreQuery} (hitem : q.pItem = some it)
    (h : s.Clear it pos) : q.itemAt s.belongings.inventory pos = none := by
  unfold StoreQuery.itemAt
  rw [Belongings.getItemByPos_inventory]
  cases hat : s.belongings.getItemByPos pos with
  | none => rfl
  | some obj => simp [hitem, h obj hat, Option.filter]

theorem canStoreItem_whole {swap : Bool} (hfits : it.Fits tables) (hbag : pos.bag ≠ nullBag)
    (hslot : pos.slot ≠ nullSlot) (hfree : swap = true ∨ s.Clear it pos)
    (hok : (s.canStoreItem tables accounts pos it swap).result = .ok) :
    (s.canStoreItem tables accounts pos it swap).dest = [⟨pos, it.count⟩] := by
  unfold canStoreItem at hok ⊢
  exact Player.canStoreItem_whole hbag hslot (hfree.imp id fun h => itemAt_of_clear rfl h) hfits.known
    hfits.le hok

theorem canBankItem_whole {swap : Bool} (hfits : it.Fits tables) (hbag : pos.bag ≠ nullBag)
    (hslot : pos.slot ≠ nullSlot) (hfree : swap = true ∨ s.Clear it pos)
    (hok : (s.canBankItem accounts rules pos it swap).result = .ok) :
    (s.canBankItem accounts rules pos it swap).dest = [⟨pos, it.count⟩] := by
  obtain ⟨-, hrun⟩ := canBankItem_ok hok
  let q := s.bankQuery pos it swap
  have hstages : ∃ stages, q.bankNamedStages s.belongings.inventory it.proto ++
      q.bankAnywhereStages s.belongings.inventory it.proto =
        q.inSpecificSlot s.belongings.inventory it.proto :: stages := by
    simp [q, bankQuery, StoreQuery.bankNamedStages, hbag, hslot]
  obtain ⟨stages, hcons⟩ := hstages
  dsimp only at hrun
  rw [hcons] at hrun
  rw [hrun] at hok ⊢
  exact StoreQuery.runStages_whole (q := q) (hfree.imp id fun h => itemAt_of_clear rfl h) hfits.le rfl
    hok

/-! A stack asked for by name. -/

private theorem itemAt_of_other {q : StoreQuery} (hitem : q.pItem = some it) {obj : ItemObject}
    (hat : s.belongings.getItemByPos pos = some obj) (hother : obj.item.guid ≠ it.guid) :
    q.itemAt s.belongings.inventory pos = some obj.item := by
  unfold StoreQuery.itemAt
  rw [Belongings.getItemByPos_inventory, hat]
  simp [hitem, Ne.symm hother, Option.filter]

theorem canStoreItem_merges {obj : ItemObject} (hfits : it.Fits tables) (hbag : pos.bag ≠ nullBag)
    (hslot : pos.slot ≠ nullSlot) (hat : s.belongings.getItemByPos pos = some obj)
    (hother : obj.item.guid ≠ it.guid) (hok : (s.canStoreItem tables accounts pos it false).result = .ok) :
    obj.item.canBeMergedPartlyWith it.proto = .ok := by
  unfold canStoreItem at hok
  exact Player.canStoreItem_merges hbag hslot rfl (itemAt_of_other rfl hat hother) hfits.known hok

theorem canBankItem_merges {obj : ItemObject} (hbag : pos.bag ≠ nullBag) (hslot : pos.slot ≠ nullSlot)
    (hat : s.belongings.getItemByPos pos = some obj) (hother : obj.item.guid ≠ it.guid)
    (hok : (s.canBankItem accounts rules pos it false).result = .ok) :
    obj.item.canBeMergedPartlyWith it.proto = .ok := by
  obtain ⟨-, hrun⟩ := canBankItem_ok hok
  let q := s.bankQuery pos it false
  have hstages : ∃ stages, q.bankNamedStages s.belongings.inventory it.proto ++
      q.bankAnywhereStages s.belongings.inventory it.proto =
        q.inSpecificSlot s.belongings.inventory it.proto :: stages := by
    simp [q, bankQuery, StoreQuery.bankNamedStages, hbag, hslot]
  obtain ⟨stages, hcons⟩ := hstages
  dsimp only at hrun
  rw [hrun, hcons] at hok
  exact StoreQuery.runStages_merges (q := q) rfl (itemAt_of_other rfl hat hother) hok

end Bearer

end Mangos
