import Mangos.Item.Placed

/-!
# Moving an item conserves what is held

What a check has found when it accepts an item, and from it that a move to a free position and the filling
of a stack leave the amounts and keep the objects in their places.
-/

namespace Mangos

open Framework

namespace Belongings

variable {tables : ItemTables} {next : Nat} {air : List Nat} {opened : List Item} {b : Belongings}
  {key : SlotKey} {obj : ItemObject} {pos : ItemPos}

theorem named_of_keyOf (h : b.keyOf pos = some key) : pos.bag ≠ nullBag ∧ pos.slot ≠ nullSlot := by
  cases key with
  | own slot =>
    obtain ⟨rfl, hlt⟩ := keyOf_own.mp h
    simp only [bankSlotBagEnd] at hlt
    simp only [inventorySlotBag0, nullBag, nullSlot]
    omega
  | inside g k =>
    obtain ⟨rfl, hworn, bag, -, -, hlt⟩ := keyOf_inside.mp h
    have hsize := hlt.trans_le (getBagSize_le bag.item)
    rw [Inventory.isBagSlot_iff] at hworn
    simp only [maxBagSize] at hsize
    simp only [nullBag, nullSlot]
    omega

theorem kind_of_keyOf (h : b.keyOf pos = some key) : pos.isInventoryPos ∨ pos.isBankPos ∨ pos.isEquipmentPos := by
  simp only [ItemPos.isInventoryPos, ItemPos.isBankPos, ItemPos.isEquipmentPos, Bool.or_eq_true,
    Bool.and_eq_true, decide_eq_true_eq]
  cases key with
  | own slot =>
    obtain ⟨rfl, hlt⟩ := keyOf_own.mp h
    simp only [bankSlotBagEnd] at hlt
    simp only [inventorySlotBag0, inventorySlotBagStart, inventorySlotBagEnd,
      inventorySlotItemStart, inventorySlotItemEnd, bankSlotItemStart, bankSlotItemEnd,
      bankSlotBagStart, bankSlotBagEnd, equipmentSlotEnd, nullSlot, true_and]
    omega
  | inside g k =>
    obtain ⟨-, hworn, -⟩ := keyOf_inside.mp h
    rw [Inventory.isBagSlot_iff] at hworn
    simp only [inventorySlotBag0, inventorySlotBagStart, inventorySlotBagEnd, bankSlotBagStart, bankSlotBagEnd]
    omega

theorem keyOf_put (hne : key ≠ .own pos.bag) (v : Option ItemObject) : (b.put key v).keyOf pos = b.keyOf pos := by
  unfold keyOf
  rw [slots_put_of_ne (Ne.symm hne)]

theorem Arranged.inside_eq_none_of_not_isBag (h : b.Arranged tables next air [])
    (hobj : b.slots key = some obj) (hbag : obj.item.isBag = false) (k : Nat) :
    b.slots (.inside obj.item.guid k) = none := by
  refine h.inside_eq_none hobj (fun slot heq => ?_) (fun bag hmem => by cases hmem) k
  rw [Bool.eq_false_iff]
  intro hslot
  rw [heq] at hobj
  rw [h.bags slot obj hslot hobj] at hbag
  cases hbag

end Belongings

namespace Bearer

variable {tables : ItemTables} {accounts : Accounts} {rules : WearRules} {air : List Nat}
  {opened : List Item} {s s' : Bearer} {key : SlotKey} {obj : ItemObject} {pos : ItemPos} {it : Item}

/-- What a check that accepts an item has found: places with room for it, the position itself where
that is free, or a worn slot. -/
inductive CanPlace (s : Bearer) (pos : ItemPos) (it : Item) (swap : Bool) : PlaceFound → Prop
  | stored {dest : List ItemPosCount}
      (found : swap = false → s.Found it dest)
      (whole : (s.belongings.keyOf pos).isSome → swap = true ∨ s.Clear it pos → dest = [⟨pos, it.count⟩])
      (merges : swap = false → ∀ obj, s.belongings.getItemByPos pos = some obj →
        obj.item.guid ≠ it.guid → obj.item.canBeMergedPartlyWith it.proto = .ok)
      (bag : pos.isBagPos → it.isBag) : CanPlace s pos it swap (.stored dest)
  | equipped (there : s.belongings.keyOf pos = some (.own pos.slot))
      (free : swap = true ∨ s.belongings.getItemByPos pos = none)
      (bag : pos.isBagPos → it.isBag) : CanPlace s pos it swap (.equipped pos.slot)

private theorem not_isBagPos_of_isInventoryPos (h : pos.isInventoryPos) : pos.isBagPos = false := by
  rw [Bool.eq_false_iff]
  intro hbag
  simp only [ItemPos.isInventoryPos, Bool.or_eq_true, Bool.and_eq_true, decide_eq_true_eq] at h
  simp only [ItemPos.isBagPos, Bool.and_eq_true, decide_eq_true_eq, Inventory.isBagSlot_iff] at hbag
  simp only [inventorySlotBag0, nullSlot, inventorySlotItemStart, inventorySlotItemEnd,
    inventorySlotBagStart, inventorySlotBagEnd] at h hbag
  omega

theorem canPlace_spec {swap : Bool} {found : PlaceFound} (h : s.Arranged tables air opened) (hfits : it.Fits tables)
    (hself : ∀ bag, s.belongings.slots (.own pos.bag) = some bag → bag.item.guid ≠ it.guid)
    (hok : s.canPlace tables accounts rules pos it swap = some (.ok found)) : s.CanPlace pos it swap found := by
  unfold canPlace at hok
  simp only at hok
  split at hok
  next hinv =>
    simp only [Option.some.injEq] at hok
    split at hok
    next hanswer =>
      obtain rfl := Except.ok.inj hok
      refine .stored (fun hswap => ?_) (fun hkey hfree => ?_) (fun hswap obj hat hother => ?_)
        fun hbag => ?_
      · subst hswap
        exact found_of_canStoreItem h hfits (fun _ => hinv) hself hanswer
      · obtain ⟨key, hkey⟩ := Option.isSome_iff_exists.mp hkey
        obtain ⟨hbag, hslot⟩ := Belongings.named_of_keyOf hkey
        exact canStoreItem_whole hfits hbag hslot hfree hanswer
      · subst hswap
        obtain ⟨key, hkey, -⟩ := Belongings.getItemByPos_eq_some.mp hat
        obtain ⟨hbag, hslot⟩ := Belongings.named_of_keyOf hkey
        exact canStoreItem_merges hfits hbag hslot hat hother hanswer
      · rw [not_isBagPos_of_isInventoryPos hinv] at hbag
        cases hbag
    next => cases hok
  split at hok
  next hbank =>
    simp only [Option.some.injEq] at hok
    split at hok
    next hanswer =>
      obtain rfl := Except.ok.inj hok
      refine .stored (fun hswap => ?_) (fun hkey hfree => ?_) (fun hswap obj hat hother => ?_)
        fun hbag => ?_
      · subst hswap
        exact found_of_canBankItem h hfits hbank hself hanswer
      · obtain ⟨key, hkey⟩ := Option.isSome_iff_exists.mp hkey
        obtain ⟨hbag, hslot⟩ := Belongings.named_of_keyOf hkey
        exact canBankItem_whole hfits hbag hslot hfree hanswer
      · subst hswap
        obtain ⟨key, hkey, -⟩ := Belongings.getItemByPos_eq_some.mp hat
        obtain ⟨hbag, hslot⟩ := Belongings.named_of_keyOf hkey
        exact canBankItem_merges hbag hslot hat hother hanswer
      · exact isBag_of_bankSlotRefusal hbank hbag (canBankItem_ok hanswer).1
    next => cases hok
  split at hok
  next hequip =>
    simp only [Option.some.injEq] at hok
    cases hanswer : s.canEquipItem tables accounts rules pos.slot it swap with
    | error res =>
      rw [hanswer] at hok
      cases hok
    | ok eslot =>
      rw [hanswer] at hok
      simp only [Except.map, Except.ok.injEq] at hok
      subst hok
      simp only [ItemPos.isEquipmentPos, Bool.and_eq_true, decide_eq_true_eq, Bool.or_eq_true]
        at hequip
      obtain ⟨hown, hslot⟩ := hequip
      simp only [equipmentSlotEnd, inventorySlotBagStart, inventorySlotBagEnd] at hslot
      have hnamed : pos.slot ≠ nullSlot := by
        simp only [nullSlot]
        omega
      have hthere : pos.slot < bankSlotBagEnd := by
        simp only [bankSlotBagEnd]
        omega
      obtain ⟨rfl, hfree, hbag⟩ := canEquipItem_ok hnamed hanswer
      have hkey : s.belongings.keyOf pos = some (.own pos.slot) :=
        Belongings.keyOf_own.mpr ⟨by rw [← hown], hthere⟩
      refine .equipped hkey (hfree.imp id fun hworn => ?_) fun hbagPos => hbag ?_
      · rw [worn, ← hown, Belongings.getItemByPos_inventory, Option.map_eq_none_iff] at hworn
        exact hworn
      · simp only [ItemPos.isBagPos, Bool.and_eq_true] at hbagPos
        exact hbagPos.2
  · cases hok

theorem bag_of_canPlace {swap : Bool} {answer : Except InventoryResult PlaceFound}
    (h : s.canPlace tables accounts rules pos it swap = some answer) :
    pos.bag = inventorySlotBag0 ∨ ItemPos.isBagSlot pos.bag := by
  by_cases hown : pos.bag = inventorySlotBag0
  · exact .inl hown
  refine .inr ?_
  unfold canPlace at h
  simp only at h
  split at h
  next hinv => exact Belongings.isBagSlot_of_kind (.inl hinv) hown
  split at h
  next hbank => exact Belongings.isBagSlot_of_kind (.inr hbank) hown
  split at h
  next hequip =>
    simp only [ItemPos.isEquipmentPos, hown, decide_false, Bool.false_and] at hequip
    cases hequip
  · cases h

def OffhandMailed (tables : ItemTables) (accounts : Accounts) (rules : WearRules) (s s' : Bearer) :
    Prop :=
  ∃ offItem, s.worn offhandPos = some offItem ∧ s.keepsOffhand rules offItem = false ∧
    (s.canStoreItem tables accounts ⟨nullBag, nullSlot⟩ offItem false).result ≠ .ok ∧
    s' = { s.removeItem offhandPos with mailed := s.mailed ++ [offItem] }

theorem keyOf_offhandPos (b : Belongings) : b.keyOf offhandPos = some (.own equipmentSlotOffhand) :=
  Belongings.keyOf_own.mpr ⟨rfl, by decide⟩

theorem offhand_object (h : s.Arranged tables [] []) (hworn : s.worn offhandPos = some it) :
    ∃ obj, s.belongings.slots (.own equipmentSlotOffhand) = some obj ∧ obj.item = it ∧
      ∀ k, s.belongings.slots (.inside obj.item.guid k) = none := by
  rw [worn, Belongings.getItemByPos_inventory, Option.map_eq_some_iff] at hworn
  obtain ⟨obj, hat, hitem⟩ := hworn
  rw [Belongings.getItemByPos, keyOf_offhandPos, Option.bind_some] at hat
  refine ⟨obj, hat, hitem, h.inside_eq_none hat (fun slot hslot => ?_) fun bag hbag => by cases hbag⟩
  rw [← SlotKey.own.inj hslot]
  decide

theorem autoUnequipOffhandIfNeed_cases (h : s.Arranged tables [] []) :
    SameHeld tables s (s.autoUnequipOffhandIfNeed tables accounts rules) ∨
      OffhandMailed tables accounts rules s (s.autoUnequipOffhandIfNeed tables accounts rules) := by
  unfold autoUnequipOffhandIfNeed
  cases hworn : s.worn offhandPos with
  | none => exact .inl (.refl h)
  | some offItem =>
    obtain ⟨obj, hobj, rfl, hempty⟩ := offhand_object h hworn
    dsimp only
    split
    · exact .inl (.refl h)
    next hkeeps =>
      split
      next hok =>
        refine .inl (sameHeld_storeItem h (keyOf_offhandPos _) hobj hempty ?_)
        refine found_of_canStoreItem h (h.fits _ obj hobj) (fun hno => absurd rfl hno) ?_ hok
        intro bag hbag heq
        have hkeys := h.distinct _ _ bag obj hbag hobj heq
        cases hkeys
      next hfull => exact .inr ⟨obj.item, hworn, by simpa using hkeeps, hfull, rfl⟩

/-- What comes of a request: the same is held, but for an off-hand that went by mail, or the items are
as they were. -/
inductive Moved (tables : ItemTables) (accounts : Accounts) (rules : WearRules) (s : Bearer) :
    Bearer × Option InventoryResult → Prop
  | kept {s' : Bearer} (same : SameHeld tables s s') : Moved tables accounts rules s (s', none)
  | mailed {t s' : Bearer} (same : SameHeld tables s t) (off : OffhandMailed tables accounts rules t s') :
      Moved tables accounts rules s (s', none)
  | refused {s' : Bearer} {res : InventoryResult} (arranged : s'.Arranged tables [] [])
      (same : s'.belongings = s.belongings) (mailed : s'.mailed = s.mailed) : Moved tables accounts rules s (s', some res)

theorem SameHeld.moved_check {t : Bearer} (h : SameHeld tables s t) :
    Moved tables accounts rules s (t.autoUnequipOffhandIfNeed tables accounts rules, none) := by
  rcases @autoUnequipOffhandIfNeed_cases tables accounts rules t h.arranged with hsame | hmailed
  · exact .kept (h.trans hsame)
  · exact .mailed h hmailed

theorem gains_place_closed {g : Nat} (h : s.Arranged tables (g :: air) (it :: opened))
    (hfits : it.Fits tables) (hguid : it.guid = g) (hkey : s.belongings.keyOf pos = some key)
    (hfree : s.belongings.slots key = none) (hbag : pos.isBagPos → it.isBag)
    (hempty : pos.isBagPos = false → ∀ k, s.belongings.slots (.inside it.guid k) = none)
    {found : PlaceFound} (hfound : found = .stored [⟨pos, it.count⟩] ∨
      (found = .equipped pos.slot ∧ pos.bag = inventorySlotBag0)) :
    Gains tables air opened s (s.place tables it found) it.entry it.count ∧
      ∃ obj, (s.place tables it found).belongings = s.belongings.put key (some obj) := by
  cases hworn : pos.isBagPos with
  | false =>
    have hclosed := h.close_empty (hempty hworn)
    obtain ⟨hgains, obj, hput, -⟩ := gains_place_free hclosed hfits hguid hkey hfree hbag hfound
    exact ⟨hgains, obj, hput⟩
  | true =>
    obtain ⟨hgains, obj, hput, hsame, hsize⟩ :=
      gains_place_free h hfits hguid hkey hfree hbag hfound
    simp only [ItemPos.isBagPos, Bool.and_eq_true, decide_eq_true_eq] at hworn
    have hown : s.belongings.keyOf pos = some (.own pos.slot) :=
      Belongings.keyOf_own.mpr ⟨by rw [← hworn.1], Belongings.isBagSlot_lt hworn.2⟩
    have hlies : (s.place tables it found).belongings.slots (.own pos.slot) = some obj := by
      rw [hput, Option.some.inj (hkey.symm.trans hown), Belongings.slots_put_self]
    have hclosed := hgains.arranged.close_worn hworn.2 hlies hsame hsize
    exact ⟨⟨hclosed, hgains.next_le, hgains.held, hgains.mailed⟩, obj, hput⟩

theorem sameHeld_place_free {dst : ItemPos} {key' : SlotKey} (h : s.Arranged tables [] [])
    (hkey : s.belongings.keyOf pos = some key) (hobj : s.belongings.slots key = some obj)
    (hdst : s.belongings.keyOf dst = some key') (hfree : s.belongings.slots key' = none)
    (hself : key ≠ .own dst.bag) (hbag : dst.isBagPos → obj.item.isBag)
    (hempty : dst.isBagPos = false → ∀ k, s.belongings.slots (.inside obj.item.guid k) = none)
    {found : PlaceFound} (hfound : found = .stored [⟨dst, obj.item.count⟩] ∨
      (found = .equipped dst.slot ∧ dst.bag = inventorySlotBag0)) :
    SameHeld tables s ((s.removeItem pos).place tables obj.item found) := by
  have hremoved : (s.removeItem pos).belongings = s.belongings.put key none :=
    (h.removeItem_eq hkey hobj).1
  have hdst' : (s.removeItem pos).belongings.keyOf dst = some key' := by
    rw [hremoved, Belongings.keyOf_put hself]
    exact hdst
  have hfree' : (s.removeItem pos).belongings.slots key' = none := by
    rw [hremoved, Belongings.slots_put]
    split
    · rfl
    · exact hfree
  obtain ⟨hgains, -⟩ := gains_place_closed (arranged_removeItem h hkey hobj) (h.fits key obj hobj) rfl
    hdst' hfree' hbag (fun hworn k => inside_removeItem hkey (hempty hworn k)) hfound
  refine ⟨hgains.arranged, hgains.next_le, fun n e hn => ?_, hgains.mailed⟩
  rw [hgains.held n e hn]
  exact held_removeItem h hkey hobj (hgains.next_le.trans hn) e

theorem inside_eq_none_of_canUnequipItem (h : s.Arranged tables [] [])
    (hkey : s.belongings.keyOf pos = some key) (hobj : s.belongings.slots key = some obj)
    (hbagPos : pos.isBagPos) (hok : s.player.canUnequipItem pos false = .ok) (k : Nat) :
    s.belongings.slots (.inside obj.item.guid k) = none := by
  have hpos := hbagPos
  simp only [ItemPos.isBagPos, Bool.and_eq_true, decide_eq_true_eq] at hbagPos
  have hown : s.belongings.keyOf pos = some (.own pos.slot) :=
    Belongings.keyOf_own.mpr ⟨by rw [← hbagPos.1], Belongings.isBagSlot_lt hbagPos.2⟩
  obtain rfl : key = .own pos.slot := Option.some.inj (hkey.symm.trans hown)
  have hisBag := h.bags pos.slot obj hbagPos.2 hobj
  have hat : s.player.inventory.getItemByPos pos = some obj.item := by
    change s.belongings.inventory.getItemByPos pos = _
    rw [Belongings.getItemByPos_inventory, Belongings.getItemByPos, hown, Option.bind_some, hobj]
    rfl
  have hempty : s.belongings.inventory.bagIsEmpty pos := by
    by_contra hfull
    have hfull' : s.player.inventory.bagIsEmpty pos = false := Bool.eq_false_iff.mpr hfull
    unfold Player.canUnequipItem at hok
    simp only [hat, hisBag, hfull', hpos] at hok
    grind
  cases hin : s.belongings.slots (.inside obj.item.guid k) with
  | none => rfl
  | some other =>
    have hworn : s.belongings.WornSlot obj.item.guid k := by
      rcases h.shown _ k other hin with hworn | ⟨bag, hbag, -⟩
      · exact hworn
      · cases hbag
    obtain ⟨slot, bag, -, hbag, hguid, hlt⟩ := hworn
    have hslots := h.distinct _ _ bag obj hbag hobj hguid
    rw [hslots, hobj] at hbag
    obtain rfl := Option.some.inj hbag
    have hshown : s.belongings.keyOf ⟨pos.slot, k⟩ = some (.inside obj.item.guid k) :=
      Belongings.keyOf_inside.mpr ⟨rfl, hbagPos.2, obj, hobj, rfl, hlt⟩
    unfold Inventory.bagIsEmpty at hempty
    rw [hpos, Bool.not_true, Bool.false_or, List.all_eq_true] at hempty
    have hmem : (⟨pos.slot, k⟩ : ItemPos) ∈ slotsOf pos.slot 0 maxBagSize :=
      mem_slotsOf.mpr ⟨rfl, Nat.zero_le k, hlt.trans_le (Belongings.getBagSize_le obj.item)⟩
    have hnone := hempty _ hmem
    rw [Belongings.getItemByPos_inventory, Belongings.getItemByPos, hshown, Option.bind_some, hin] at hnone
    cases hnone

theorem inside_eq_none_of_swapUnequipRefusal {other : ItemPos} {otherItem : Option Item}
    (h : s.Arranged tables [] []) (hkey : s.belongings.keyOf pos = some key) (hobj : s.belongings.slots key = some obj)
    (hok : s.swapUnequipRefusal pos other otherItem = .ok) (hother : other.isBagPos = false)
    (hitem : otherItem.any (fun it => it.isBag && s.belongings.isEmpty it) = false) (k : Nat) :
    s.belongings.slots (.inside obj.item.guid k) = none := by
  cases hbagPos : pos.isBagPos with
  | false =>
    exact h.inside_eq_none hobj (Belongings.isBagSlot_of_not_isBagPos hkey hbagPos)
      (fun bag hbag => by cases hbag) k
  | true =>
    unfold swapUnequipRefusal at hok
    rw [hbagPos, hother, hitem, Bool.or_true, if_pos rfl] at hok
    exact inside_eq_none_of_canUnequipItem h hkey hobj hbagPos hok k

theorem moveItem_moved {dst : ItemPos} (h : s.Arranged tables [] [])
    (hkey : s.belongings.keyOf pos = some key) (hobj : s.belongings.slots key = some obj)
    (hfree : s.belongings.getItemByPos dst = none)
    (hself : ItemPos.isBagSlot dst.bag → key ≠ .own dst.bag) (hempty : dst.isBagPos = false → ∀ k, s.belongings.slots (.inside obj.item.guid k) = none) :
    Moved tables accounts rules s (s.moveItem tables accounts rules pos dst obj.item) := by
  have hfits := h.fits key obj hobj
  unfold moveItem
  cases hplace : s.canPlace tables accounts rules dst obj.item false with
  | none => exact .kept (.refl h)
  | some answer =>
    cases answer with
    | error res => exact .refused h rfl rfl
    | ok found =>
      have hself : key ≠ .own dst.bag := by
        rcases bag_of_canPlace hplace with hown | hslot
        · rintro rfl
          have hlt := h.own_lt _ obj hobj
          simp [hown, inventorySlotBag0, bankSlotBagEnd] at hlt
        · exact hself hslot
      have hbag : ∀ bag, s.belongings.slots (.own dst.bag) = some bag → bag.item.guid ≠ obj.item.guid :=
        fun bag hslot heq => hself (h.distinct _ _ obj bag hobj hslot heq.symm)
      have hspec := canPlace_spec h hfits hbag hplace
      cases hspec with
      | @stored dest hfound hwhole hmerges hisBag =>
        cases hdst : dst.isBagPos with
        | false => exact .kept (sameHeld_storeItem h hkey hobj (hempty hdst) (hfound rfl))
        | true =>
          have hown : s.belongings.keyOf dst = some (.own dst.slot) := by
            simp only [ItemPos.isBagPos, Bool.and_eq_true, decide_eq_true_eq] at hdst
            exact Belongings.keyOf_own.mpr
              ⟨by rw [← hdst.1], Belongings.isBagSlot_lt hdst.2⟩
          have hclear : s.Clear obj.item dst := fun obj' hat => by
            rw [hfree] at hat
            cases hat
          rw [Belongings.getItemByPos, hown, Option.bind_some] at hfree
          have hdest := hwhole (by rw [hown]; rfl) (.inr hclear)
          have hplaced := sameHeld_place_free h hkey hobj hown hfree hself hisBag hempty
            (.inl (congrArg PlaceFound.stored hdest))
          exact .kept hplaced
      | equipped hthere hfreeSlot hisBag =>
        rw [Belongings.getItemByPos, hthere, Option.bind_some] at hfree
        have hown := (Belongings.keyOf_own.mp hthere).1
        exact (sameHeld_place_free h hkey hobj hthere hfree hself hisBag hempty
          (.inr ⟨rfl, congrArg ItemPos.bag hown⟩)).moved_check

theorem setCount_eq (hkey : s.belongings.keyOf pos = some key)
    (hobj : s.belongings.slots key = some obj) (count : Nat) : (s.setCount pos count).belongings =
      s.belongings.put key (some { obj with item := { obj.item with count } }) :=
  Belongings.modifyItem_eq hkey hobj fun it => { it with count }

theorem arranged_setCount {count : Nat} (h : s.Arranged tables air opened)
    (hkey : s.belongings.keyOf pos = some key) (hobj : s.belongings.slots key = some obj)
    (hpos : 0 < count) (hle : count ≤ obj.item.proto.getMaxStackSize) :
    (s.setCount pos count).Arranged tables air opened := by
  have hfits : Item.Fits tables { obj.item with count } :=
    (h.fits key obj hobj).transfer rfl hpos hle
  change (s.setCount pos count).belongings.Arranged tables s.nextItemGuid air opened
  rw [setCount_eq hkey hobj]
  exact h.change hobj rfl rfl hfits

theorem held_setCount {count n : Nat} (h : s.Arranged tables air opened)
    (hkey : s.belongings.keyOf pos = some key) (hobj : s.belongings.slots key = some obj)
    (hn : s.nextItemGuid ≤ n) (e : Nat) :
    (s.setCount pos count).belongings.held n e + (if obj.item.entry = e then obj.item.count else 0) =
      s.belongings.held n e + if obj.item.entry = e then count else 0 := by
  have hput := Belongings.held_put (b := s.belongings) (h.mem_keysBelow hn hkey)
    (some { obj with item := { obj.item with count } }) e
  rw [hobj] at hput
  rw [setCount_eq hkey hobj]
  exact hput

theorem keyOf_setCount {dst : ItemPos} {key' : SlotKey} (hkey : s.belongings.keyOf pos = some key)
    (hobj : s.belongings.slots key = some obj) (hdst : s.belongings.keyOf dst = some key') (n : Nat) :
    (s.setCount pos n).belongings.keyOf dst = some key' := by
  refine Belongings.keyOf_congr (fun bag hbag => ?_) hdst
  rw [setCount_eq hkey hobj]
  by_cases heq : SlotKey.own dst.bag = key
  · rw [heq, hobj] at hbag
    obtain rfl := Option.some.inj hbag
    refine ⟨{ obj with item := { obj.item with count := n } }, ?_, rfl, rfl⟩
    rw [heq, Belongings.slots_put_self]
  · exact ⟨bag, by rwa [Belongings.slots_put_of_ne heq], rfl, rfl⟩

theorem setCount_setCount (hkey : s.belongings.keyOf pos = some key)
    (hobj : s.belongings.slots key = some obj) (n : Nat) :
    ((s.setCount pos n).setCount pos obj.item.count).belongings = s.belongings := by
  have hslot : (s.setCount pos n).belongings.slots key =
      some { obj with item := { obj.item with count := n } } := by
    rw [setCount_eq hkey hobj, Belongings.slots_put_self]
  rw [setCount_eq (keyOf_setCount hkey hobj hkey n) hslot, setCount_eq hkey hobj]
  unfold Belongings.put
  rw [Function.update_idem]
  have hsame : Function.update s.belongings.slots key (some obj) = s.belongings.slots := by
    rw [← hobj, Function.update_eq_self]
  exact congrArg Belongings.mk hsame

theorem sameHeld_setCounts {dst : ItemPos} {key' : SlotKey} {obj' : ItemObject} {n n' : Nat}
    (h : s.Arranged tables [] []) (hkey : s.belongings.keyOf pos = some key)
    (hobj : s.belongings.slots key = some obj) (hdst : s.belongings.keyOf dst = some key')
    (hobj' : s.belongings.slots key' = some obj') (hne : key' ≠ key)
    (hentry : obj'.item.entry = obj.item.entry) (hn : 0 < n) (hle : n ≤ obj.item.proto.getMaxStackSize) (hn' : 0 < n')
    (hle' : n' ≤ obj'.item.proto.getMaxStackSize) (htotal : n + n' = obj.item.count + obj'.item.count) :
    SameHeld tables s ((s.setCount pos n).setCount dst n') := by
  have hfirst := arranged_setCount h hkey hobj hn hle
  have hdstFirst := keyOf_setCount hkey hobj hdst n
  have hobjFirst : (s.setCount pos n).belongings.slots key' = some obj' := by
    rw [setCount_eq hkey hobj, Belongings.slots_put_of_ne hne]
    exact hobj'
  refine ⟨arranged_setCount hfirst hdstFirst hobjFirst hn' hle', le_rfl, fun m e hm => ?_, rfl⟩
  have hheld : (s.setCount pos n).belongings.held m e + _ = _ := held_setCount h hkey hobj hm e
  have hheld' : ((s.setCount pos n).setCount dst n').belongings.held m e + _ = _ :=
    held_setCount hfirst hdstFirst hobjFirst hm e
  rw [hentry] at hheld'
  by_cases he : obj.item.entry = e
  · simp only [he, if_true] at hheld hheld'
    omega
  · simp only [he, if_false, Nat.add_zero] at hheld hheld'
    rw [hheld', hheld]

theorem mergeItems_moved {dst : ItemPos} {key' : SlotKey} {obj' : ItemObject}
    (h : s.Arranged tables [] []) (hkey : s.belongings.keyOf pos = some key)
    (hobj : s.belongings.slots key = some obj) (hdst : s.belongings.keyOf dst = some key')
    (hobj' : s.belongings.slots key' = some obj') (hne : key' ≠ key) (hself : key ≠ .own dst.bag)
    (hbag : obj.item.isBag = false) {r : Bearer × Option InventoryResult}
    (hr : s.mergeItems tables accounts rules pos dst obj.item obj'.item = some r) :
    Moved tables accounts rules s r := by
  have hfits := h.fits key obj hobj
  have hfits' := h.fits key' obj' hobj'
  have hat : s.belongings.getItemByPos dst = some obj' :=
    Belongings.getItemByPos_eq_some.mpr ⟨key', hdst, hobj'⟩
  have hother : obj'.item.guid ≠ obj.item.guid := fun heq => hne (h.distinct _ _ _ _ hobj' hobj heq)
  have hworn : ∀ bag, s.belongings.slots (.own dst.bag) = some bag → bag.item.guid ≠ obj.item.guid :=
    fun bag hslot heq => hself (h.distinct _ _ obj bag hobj hslot heq.symm)
  unfold mergeItems at hr
  cases hplace : s.canPlace tables accounts rules dst obj.item false with
  | none =>
    rw [hplace] at hr
    obtain rfl := Option.some.inj hr
    exact .kept (.refl h)
  | some answer =>
    simp only [hplace] at hr
    split at hr
    · obtain rfl := Option.some.inj hr
      exact .refused h rfl rfl
    cases answer with
    | error res => cases hr
    | ok found =>
      dsimp only at hr
      have hspec := canPlace_spec h hfits hworn hplace
      cases hspec with
      | equipped hthere hfree =>
        rcases hfree with hswap | hfree
        · cases hswap
        · rw [hat] at hfree
          cases hfree
      | stored hfound hwhole hmerges =>
        obtain ⟨hentry, -⟩ :=
          Item.entry_of_canBeMergedPartlyWith (hmerges rfl obj' hat hother)
        have hproto := hfits.proto_eq hfits' hentry
        have hpos := hfits.pos
        have hle := hfits.le
        have hpos' := hfits'.pos
        have hle' := hfits'.le
        rw [hproto] at hle' hr
        split at hr
        · obtain rfl := Option.some.inj hr
          exact .kept (sameHeld_storeItem h hkey hobj
            (h.inside_eq_none_of_not_isBag hobj hbag) (hfound rfl))
        next hover =>
          obtain rfl := Option.some.inj hr
          refine .kept (sameHeld_setCounts h hkey hobj hdst hobj' hne hentry ?_ ?_ ?_ ?_ ?_)
          · omega
          · omega
          · omega
          · rw [hproto]
          · omega

end Bearer

end Mangos
