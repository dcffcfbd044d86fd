import Mangos.Item.Belongings

/-!
# Items in their places

What holds of the objects a player carries: each says where it is, no two are one item, every stack is
within its limit, and only bags that are worn have anything in them.
-/

namespace Mangos

open Framework

namespace Belongings

variable {tables : ItemTables} {next : Nat} {air : List Nat} {opened : List Item} {b : Belongings}
  {key : SlotKey} {obj : ItemObject} {pos : ItemPos}

/-- The bag with the guid `g` is worn and has the slot `k`. -/
def WornSlot (b : Belongings) (g k : Nat) : Prop :=
  ∃ slot bag, ItemPos.isBagSlot slot ∧ b.slots (.own slot) = some bag ∧ bag.item.guid = g ∧ k < bag.item.getBagSize

/-- The objects are in their places, besides the items with the guids `air`, which are in no slot.
The bags `opened` may hold something although they are not worn. -/
structure Arranged (tables : ItemTables) (next : Nat) (air : List Nat) (opened : List Item)
    (b : Belongings) : Prop where
  in_place : ∀ key obj, b.slots key = some obj → obj.key = key
  distinct : ∀ key key' obj obj', b.slots key = some obj → b.slots key' = some obj' →
    obj.item.guid = obj'.item.guid → key = key'
  guid_lt : ∀ key obj, b.slots key = some obj → obj.item.guid < next
  fits : ∀ key obj, b.slots key = some obj → obj.item.Fits tables
  own_lt : ∀ slot obj, b.slots (.own slot) = some obj → slot < bankSlotBagEnd
  bags : ∀ slot obj, ItemPos.isBagSlot slot → b.slots (.own slot) = some obj → obj.item.isBag
  shown : ∀ g k obj, b.slots (.inside g k) = some obj →
    b.WornSlot g k ∨ ∃ bag ∈ opened, bag.guid = g ∧ k < bag.getBagSize
  air_away : ∀ g ∈ air, ∀ key obj, b.slots key = some obj → obj.item.guid ≠ g
  air_nodup : air.Nodup
  air_lt : ∀ g ∈ air, g < next

theorem isBagSlot_lt {slot : Nat} (h : ItemPos.isBagSlot slot) : slot < bankSlotBagEnd := by
  simp only [ItemPos.isBagSlot, Bool.or_eq_true, Bool.and_eq_true, decide_eq_true_eq] at h
  simp only [inventorySlotBagStart, inventorySlotBagEnd, bankSlotBagStart, bankSlotBagEnd] at h ⊢
  omega

theorem isBagSlot_ne {slot : Nat} (h : ItemPos.isBagSlot slot) : slot ≠ inventorySlotBag0 := by
  have hlt := isBagSlot_lt h
  simp only [bankSlotBagEnd, inventorySlotBag0] at hlt ⊢
  omega

theorem keyOf_own {slot : Nat} :
    b.keyOf pos = some (.own slot) ↔ pos = ⟨inventorySlotBag0, slot⟩ ∧ slot < bankSlotBagEnd := by
  obtain ⟨bag, slot'⟩ := pos
  unfold keyOf
  by_cases hown : bag = inventorySlotBag0
  · simp only [hown, if_true]
    by_cases hlt : slot' < bankSlotBagEnd
    · simp only [hlt, if_true, Option.some.injEq, SlotKey.own.injEq, ItemPos.mk.injEq, true_and]
      exact ⟨fun h => ⟨h, h ▸ hlt⟩, fun h => h.1⟩
    · simp only [hlt, if_false, reduceCtorEq, ItemPos.mk.injEq, true_and, false_iff]
      rintro ⟨rfl, hslot⟩
      exact hlt hslot
  · simp only [hown, if_false, ItemPos.mk.injEq, false_and, iff_false]
    split
    · split
      · split <;> simp
      · simp
    · simp

theorem keyOf_inside {g k : Nat} : b.keyOf pos = some (.inside g k) ↔ pos.slot = k ∧ ItemPos.isBagSlot pos.bag ∧
      ∃ bag, b.slots (.own pos.bag) = some bag ∧ bag.item.guid = g ∧ k < bag.item.getBagSize := by
  unfold keyOf
  by_cases hown : pos.bag = inventorySlotBag0
  · have hslot : ItemPos.isBagSlot pos.bag = false := by
      rw [hown]
      decide
    simp only [hown, if_true]
    rw [hown] at hslot
    simp [hslot]
  · simp only [hown, if_false]
    by_cases hslot : ItemPos.isBagSlot pos.bag
    · simp only [hslot, if_true, true_and]
      cases hbag : b.slots (.own pos.bag) with
      | none => simp
      | some bag =>
        by_cases hlt : pos.slot < bag.item.getBagSize
        · simp only [hlt, if_true, Option.some.injEq, SlotKey.inside.injEq, exists_eq_left']
          grind
        · simp only [hlt, if_false, reduceCtorEq, Option.some.injEq, exists_eq_left', false_iff]
          grind
    · simp [hslot]

theorem WornSlot.keyOf {g k : Nat} (h : b.WornSlot g k) : ∃ pos, b.keyOf pos = some (.inside g k) := by
  obtain ⟨slot, bag, hslot, hbag, hguid, hlt⟩ := h
  exact ⟨⟨slot, k⟩, keyOf_inside.mpr ⟨rfl, hslot, bag, hbag, hguid, hlt⟩⟩

theorem wornSlot_of_keyOf {g k : Nat} (h : b.keyOf pos = some (.inside g k)) : b.WornSlot g k := by
  obtain ⟨-, hslot, bag, hbag, hguid, hlt⟩ := keyOf_inside.mp h
  exact ⟨pos.bag, bag, hslot, hbag, hguid, hlt⟩

theorem Arranged.keyOf_inj (h : b.Arranged tables next air opened) {pos pos' : ItemPos}
    (hpos : b.keyOf pos = some key) (hpos' : b.keyOf pos' = some key) : pos = pos' := by
  cases key with
  | own slot => exact (keyOf_own.mp hpos).1.trans (keyOf_own.mp hpos').1.symm
  | inside g k =>
    obtain ⟨hslot, -, bag, hbag, hguid, -⟩ := keyOf_inside.mp hpos
    obtain ⟨hslot', -, bag', hbag', hguid', -⟩ := keyOf_inside.mp hpos'
    have hkey := h.distinct _ _ bag bag' hbag hbag' (hguid.trans hguid'.symm)
    obtain ⟨bagByte, slot⟩ := pos
    obtain ⟨bagByte', slot'⟩ := pos'
    simp only [SlotKey.own.injEq] at hkey hslot hslot'
    rw [hkey, hslot, hslot']

theorem slots_put (b : Belongings) (key key' : SlotKey) (v : Option ItemObject) :
    (b.put key v).slots key' = if key' = key then v else b.slots key' := by
  simp only [put, Function.update_apply]

@[simp] theorem slots_put_self (b : Belongings) (key : SlotKey) (v : Option ItemObject) :
    (b.put key v).slots key = v := by simp [slots_put]

theorem slots_put_of_ne {key key' : SlotKey} (h : key' ≠ key) (v : Option ItemObject) :
    (b.put key v).slots key' = b.slots key' := by simp [slots_put, h]

theorem keyOf_congr {b' : Belongings}
    (h : ∀ bag, b.slots (.own pos.bag) = some bag → ∃ bag', b'.slots (.own pos.bag) = some bag' ∧
      bag'.item.guid = bag.item.guid ∧ bag'.item.getBagSize = bag.item.getBagSize)
    (hpos : b.keyOf pos = some key) : b'.keyOf pos = some key := by
  cases key with
  | own slot => exact keyOf_own.mpr (keyOf_own.mp hpos)
  | inside g k =>
    obtain ⟨hslot, hworn, bag, hbag, hguid, hlt⟩ := keyOf_inside.mp hpos
    obtain ⟨bag', hbag', hguid', hsize'⟩ := h bag hbag
    exact keyOf_inside.mpr ⟨hslot, hworn, bag', hbag', hguid'.trans hguid, hsize' ▸ hlt⟩

theorem getBagSize_congr {it it' : Item} (h : it.proto = it'.proto) : it.getBagSize = it'.getBagSize := by
  unfold Item.getBagSize Item.isBag
  rw [h]

namespace Arranged

theorem mono (h : b.Arranged tables next air opened) {next' : Nat} (hle : next ≤ next') :
    b.Arranged tables next' air opened :=
  { h with
    guid_lt := fun key obj hobj => (h.guid_lt key obj hobj).trans_le hle
    air_lt := fun g hg => (h.air_lt g hg).trans_le hle }

theorem draw (h : b.Arranged tables next air opened) : b.Arranged tables (next + 1) (next :: air) opened :=
  { h.mono (Nat.le_succ next) with
    air_away := by
      intro g hg key obj hobj
      rcases List.mem_cons.mp hg with rfl | hold
      · exact Nat.ne_of_lt (h.guid_lt key obj hobj)
      · exact h.air_away g hold key obj hobj
    air_nodup := List.nodup_cons.mpr ⟨fun hmem => lt_irrefl _ (h.air_lt next hmem), h.air_nodup⟩
    air_lt := by
      intro g hg
      rcases List.mem_cons.mp hg with rfl | hold
      · exact Nat.lt_succ_self g
      · exact Nat.lt_succ_of_lt (h.air_lt g hold) }

theorem forget {g : Nat} (h : b.Arranged tables next (g :: air) opened) : b.Arranged tables next air opened :=
  { h with
    air_away := fun g' hg' => h.air_away g' (List.mem_cons_of_mem g hg')
    air_nodup := (List.nodup_cons.mp h.air_nodup).2
    air_lt := fun g' hg' => h.air_lt g' (List.mem_cons_of_mem g hg') }

theorem open_mono {opened' : List Item} (h : b.Arranged tables next air opened)
    (hsub : opened ⊆ opened') : b.Arranged tables next air opened' :=
  { h with
    shown := by
      intro g k obj hobj
      rcases h.shown g k obj hobj with hworn | ⟨bag, hbag, hin⟩
      · exact .inl hworn
      · exact .inr ⟨bag, hsub hbag, hin⟩ }

theorem close_empty {bag : Item} (h : b.Arranged tables next air (bag :: opened))
    (hempty : ∀ k, b.slots (.inside bag.guid k) = none) : b.Arranged tables next air opened :=
  { h with
    shown := by
      intro g k obj hobj
      rcases h.shown g k obj hobj with hworn | ⟨bag', hbag', hguid, hlt⟩
      · exact .inl hworn
      · rcases List.mem_cons.mp hbag' with rfl | hold
        · rw [← hguid, hempty k] at hobj
          cases hobj
        · exact .inr ⟨bag', hold, hguid, hlt⟩ }

theorem close_worn {bag : Item} (h : b.Arranged tables next air (bag :: opened)) {slot : Nat}
    (hslot : ItemPos.isBagSlot slot) (hworn : b.slots (.own slot) = some obj)
    (hguid : obj.item.guid = bag.guid) (hsize : obj.item.getBagSize = bag.getBagSize) :
    b.Arranged tables next air opened :=
  { h with
    shown := by
      intro g k obj' hobj'
      rcases h.shown g k obj' hobj' with hworn' | ⟨bag', hbag', hguid', hlt⟩
      · exact .inl hworn'
      · rcases List.mem_cons.mp hbag' with rfl | hold
        · exact .inl ⟨slot, obj, hslot, hworn, hguid.trans hguid', hsize ▸ hlt⟩
        · exact .inr ⟨bag', hold, hguid', hlt⟩ }

theorem take (h : b.Arranged tables next air opened) (hobj : b.slots key = some obj) :
    (b.put key none).Arranged tables next (obj.item.guid :: air) (obj.item :: opened) := by
  have hold : ∀ key' obj', (b.put key none).slots key' = some obj' →
      key' ≠ key ∧ b.slots key' = some obj' := by
    intro key' obj' hobj'
    by_cases heq : key' = key
    · simp [heq] at hobj'
    · exact ⟨heq, by rwa [slots_put_of_ne heq] at hobj'⟩
  constructor
  · exact fun key' obj' h' => h.in_place key' obj' (hold key' obj' h').2
  · exact fun k k' o o' ho ho' => h.distinct k k' o o' (hold k o ho).2 (hold k' o' ho').2
  · exact fun key' obj' h' => h.guid_lt key' obj' (hold key' obj' h').2
  · exact fun key' obj' h' => h.fits key' obj' (hold key' obj' h').2
  · exact fun slot obj' h' => h.own_lt slot obj' (hold _ obj' h').2
  · exact fun slot obj' hslot h' => h.bags slot obj' hslot (hold _ obj' h').2
  · intro g k obj' h'
    rcases h.shown g k obj' (hold _ obj' h').2 with ⟨slot, bag, hslot, hbag, hguid, hlt⟩ | ⟨bag, hbag, hin⟩
    · by_cases heq : SlotKey.own slot = key
      · rw [heq, hobj] at hbag
        obtain rfl := Option.some.inj hbag
        exact .inr ⟨obj.item, List.mem_cons_self, hguid, hlt⟩
      · exact .inl ⟨slot, bag, hslot, by rw [slots_put_of_ne heq]; exact hbag, hguid, hlt⟩
    · exact .inr ⟨bag, List.mem_cons_of_mem _ hbag, hin⟩
  · intro g hg key' obj' h'
    obtain ⟨hne, hobj'⟩ := hold key' obj' h'
    rcases List.mem_cons.mp hg with rfl | hmem
    · exact fun heq => hne (h.distinct key' key obj' obj hobj' hobj heq)
    · exact h.air_away g hmem key' obj' hobj'
  · refine List.nodup_cons.mpr ⟨fun hmem => ?_, h.air_nodup⟩
    exact h.air_away _ hmem key obj hobj rfl
  · intro g hg
    rcases List.mem_cons.mp hg with rfl | hmem
    · exact h.guid_lt key obj hobj
    · exact h.air_lt g hmem

theorem drop {g : Nat} (h : b.Arranged tables next (g :: air) opened) (hfree : b.slots key = none)
    (hkey : obj.key = key) (hguid : obj.item.guid = g) (hfits : obj.item.Fits tables)
    (hown : ∀ slot, key = .own slot → slot < bankSlotBagEnd ∧ (ItemPos.isBagSlot slot → obj.item.isBag))
    (hinside : ∀ g' k, key = .inside g' k → b.WornSlot g' k ∨ ∃ bag ∈ opened, bag.guid = g' ∧ k < bag.getBagSize) :
    (b.put key (some obj)).Arranged tables next air opened := by
  have haway := h.air_away g List.mem_cons_self
  have hcases : ∀ key' obj', (b.put key (some obj)).slots key' = some obj' →
      (key' = key ∧ obj' = obj) ∨ (key' ≠ key ∧ b.slots key' = some obj') := by
    intro key' obj' hobj'
    by_cases heq : key' = key
    · rw [heq, slots_put_self] at hobj'
      exact .inl ⟨heq, (Option.some.inj hobj').symm⟩
    · exact .inr ⟨heq, by rwa [slots_put_of_ne heq] at hobj'⟩
  have hworn : ∀ g' k, b.WornSlot g' k → (b.put key (some obj)).WornSlot g' k := by
    rintro g' k ⟨slot, bag, hslot, hbag, hin⟩
    have hne : SlotKey.own slot ≠ key := by
      rintro heq
      rw [heq, hfree] at hbag
      cases hbag
    exact ⟨slot, bag, hslot, by rwa [slots_put_of_ne hne], hin⟩
  constructor
  · intro key' obj' hobj'
    rcases hcases key' obj' hobj' with ⟨rfl, rfl⟩ | ⟨-, hold⟩
    · exact hkey
    · exact h.in_place key' obj' hold
  · intro k k' o o' ho ho' heq
    rcases hcases k o ho with ⟨rfl, rfl⟩ | ⟨-, hold⟩ <;>
      rcases hcases k' o' ho' with ⟨rfl, rfl⟩ | ⟨-, hold'⟩
    · rfl
    · exact absurd (heq.symm.trans hguid) (haway k' o' hold')
    · exact absurd (heq.trans hguid) (haway k o hold)
    · exact h.distinct k k' o o' hold hold' heq
  · intro key' obj' hobj'
    rcases hcases key' obj' hobj' with ⟨-, rfl⟩ | ⟨-, hold⟩
    · rw [hguid]
      exact h.air_lt g List.mem_cons_self
    · exact h.guid_lt key' obj' hold
  · intro key' obj' hobj'
    rcases hcases key' obj' hobj' with ⟨-, rfl⟩ | ⟨-, hold⟩
    · exact hfits
    · exact h.fits key' obj' hold
  · intro slot obj' hobj'
    rcases hcases _ obj' hobj' with ⟨heq, -⟩ | ⟨-, hold⟩
    · exact (hown slot heq.symm).1
    · exact h.own_lt slot obj' hold
  · intro slot obj' hslot hobj'
    rcases hcases _ obj' hobj' with ⟨heq, rfl⟩ | ⟨-, hold⟩
    · exact (hown slot heq.symm).2 hslot
    · exact h.bags slot obj' hslot hold
  · intro g' k obj' hobj'
    rcases hcases _ obj' hobj' with ⟨heq, -⟩ | ⟨-, hold⟩
    · exact (hinside g' k heq.symm).imp (hworn g' k) id
    · exact (h.shown g' k obj' hold).imp (hworn g' k) id
  · intro g' hg' key' obj' hobj'
    rcases hcases key' obj' hobj' with ⟨-, rfl⟩ | ⟨-, hold⟩
    · rw [hguid]
      rintro rfl
      exact (List.nodup_cons.mp h.air_nodup).1 hg'
    · exact h.air_away g' (List.mem_cons_of_mem g hg') key' obj' hold
  · exact (List.nodup_cons.mp h.air_nodup).2
  · exact fun g' hg' => h.air_lt g' (List.mem_cons_of_mem g hg')

theorem change {it : Item} (h : b.Arranged tables next air opened) (hobj : b.slots key = some obj)
    (hguid : it.guid = obj.item.guid) (hproto : it.proto = obj.item.proto) (hfits : it.Fits tables) :
    (b.put key (some { obj with item := it })).Arranged tables next air opened := by
  have hcases : ∀ key' obj', (b.put key (some { obj with item := it })).slots key' = some obj' →
      ∃ old, b.slots key' = some old ∧ obj'.key = old.key ∧ obj'.item.guid = old.item.guid ∧
        obj'.item.proto = old.item.proto ∧ obj'.item.Fits tables := by
    intro key' obj' hobj'
    by_cases heq : key' = key
    · rw [heq, slots_put_self] at hobj'
      obtain rfl := Option.some.inj hobj'
      exact ⟨obj, heq ▸ hobj, rfl, hguid, hproto, hfits⟩
    · rw [slots_put_of_ne heq] at hobj'
      exact ⟨obj', hobj', rfl, rfl, rfl, h.fits key' obj' hobj'⟩
  have hworn : ∀ g k, b.WornSlot g k → (b.put key (some { obj with item := it })).WornSlot g k := by
    rintro g k ⟨slot, bag, hslot, hbag, hin, hlt⟩
    by_cases heq : SlotKey.own slot = key
    · rw [heq, hobj] at hbag
      obtain rfl := Option.some.inj hbag
      refine ⟨slot, { obj with item := it }, hslot, by rw [heq, slots_put_self], hguid.trans hin, ?_⟩
      rw [getBagSize_congr hproto]
      exact hlt
    · exact ⟨slot, bag, hslot, by rwa [slots_put_of_ne heq], hin, hlt⟩
  constructor
  · intro key' obj' hobj'
    obtain ⟨old, hold, hkey, -⟩ := hcases key' obj' hobj'
    exact hkey.trans (h.in_place key' old hold)
  · intro k k' o o' ho ho' heq
    obtain ⟨old, hold, -, hguid, -⟩ := hcases k o ho
    obtain ⟨old', hold', -, hguid', -⟩ := hcases k' o' ho'
    exact h.distinct k k' old old' hold hold' (hguid.symm.trans (heq.trans hguid'))
  · intro key' obj' hobj'
    obtain ⟨old, hold, -, hguid, -⟩ := hcases key' obj' hobj'
    exact hguid ▸ h.guid_lt key' old hold
  · intro key' obj' hobj'
    obtain ⟨-, -, -, -, -, hfits⟩ := hcases key' obj' hobj'
    exact hfits
  · intro slot obj' hobj'
    obtain ⟨old, hold, -⟩ := hcases _ obj' hobj'
    exact h.own_lt slot old hold
  · intro slot obj' hslot hobj'
    obtain ⟨old, hold, -, -, hproto, -⟩ := hcases _ obj' hobj'
    rw [Item.isBag, hproto]
    exact h.bags slot old hslot hold
  · intro g k obj' hobj'
    obtain ⟨old, hold, -⟩ := hcases _ obj' hobj'
    exact (h.shown g k old hold).imp (hworn g k) id
  · intro g hg key' obj' hobj'
    obtain ⟨old, hold, -, hguid, -⟩ := hcases key' obj' hobj'
    exact hguid ▸ h.air_away g hg key' old hold
  · exact h.air_nodup
  · exact h.air_lt

end Arranged

end Belongings

end Mangos
