import Mangos.Item.Inventory

/-!
# What an inventory holds

Every operation on the inventory comes down to writing one position.
-/

namespace Mangos

open Framework

@[simp] theorem mem_slotsOf {bag first last : Nat} {pos : ItemPos} :
    pos ∈ slotsOf bag first last ↔ pos.bag = bag ∧ first ≤ pos.slot ∧ pos.slot < last := by
  cases pos with
  | mk b s =>
    simp only [slotsOf, List.mem_map, List.mem_range'_1, ItemPos.mk.injEq]
    constructor
    · rintro ⟨slot, ⟨hlo, hhi⟩, rfl, rfl⟩
      omega
    · rintro ⟨rfl, hlo, hhi⟩
      exact ⟨s, by omega, rfl, rfl⟩

@[simp] theorem mem_bagContentSlots {first last : Nat} {pos : ItemPos} :
    pos ∈ bagContentSlots first last ↔ first ≤ pos.bag ∧ pos.bag < last ∧ pos.slot < maxBagSize := by
  simp only [bagContentSlots, List.mem_flatMap, List.mem_range'_1, mem_slotsOf]
  constructor
  · rintro ⟨bag, hbag, rfl, -, hslot⟩
    omega
  · rintro ⟨hlo, hhi, hslot⟩
    exact ⟨pos.bag, by omega, rfl, by omega, hslot⟩

theorem slotsOf_nodup (bag first last : Nat) : (slotsOf bag first last).Nodup := by
  refine List.Nodup.map ?_ List.nodup_range'
  intro a b hab
  simpa using hab

theorem bagContentSlots_nodup (first last : Nat) : (bagContentSlots first last).Nodup := by
  refine List.nodup_flatMap.mpr ⟨fun bag _ => slotsOf_nodup bag 0 maxBagSize, ?_⟩
  refine List.Pairwise.imp ?_ (List.nodup_range' (s := first) (n := last - first))
  intro b c hbc pos hb hc
  simp only [mem_slotsOf] at hb hc
  exact hbc (hb.1.symm.trans hc.1)

theorem itemPositions_nodup : itemPositions.Nodup := by
  simp only [itemPositions, List.nodup_append', slotsOf_nodup, bagContentSlots_nodup, true_and,
    List.disjoint_left, List.mem_append, mem_slotsOf, mem_bagContentSlots, inventorySlotBag0,
    inventorySlotBagStart, inventorySlotBagEnd, bankSlotBagStart, bankSlotBagEnd]
  constructor
  · intro pos hpos
    omega
  · intro pos hpos
    omega

namespace Inventory

variable {inv : Inventory} {pos : ItemPos}

theorem isBagSlot_iff {slot : Nat} : ItemPos.isBagSlot slot = true ↔
    (19 ≤ slot ∧ slot < 23) ∨ (67 ≤ slot ∧ slot < 74) := by
  simp only [ItemPos.isBagSlot, Bool.or_eq_true, Bool.and_eq_true, decide_eq_true_eq]
  simp only [inventorySlotBagStart, inventorySlotBagEnd, bankSlotBagStart, bankSlotBagEnd]

theorem hasPos_mem (h : inv.hasPos pos) : pos ∈ itemPositions := by
  simp only [itemPositions, List.mem_append, mem_slotsOf, mem_bagContentSlots]
  unfold hasPos at h
  split at h
  next hbag => exact .inl ⟨hbag, by simpa using h⟩
  next hbag =>
    simp only [Bool.and_eq_true, isBagSlot_iff, Option.any_eq_true] at h
    obtain ⟨hslot, bag, -, -, hlt⟩ := h
    have hle := bag.proto.containerSlots_le
    simp only [decide_eq_true_eq] at hlt
    simp only [inventorySlotBagStart, inventorySlotBagEnd, bankSlotBagStart, bankSlotBagEnd]
    omega

theorem getItemByPos_eq_some {it : Item} (h : inv.getItemByPos pos = some it) :
    inv.hasPos pos ∧ inv.slots pos = some it := by
  unfold getItemByPos at h
  split at h
  next hpos => exact ⟨hpos, h⟩
  next => cases h

theorem getItemByPos_mem {it : Item} (h : inv.getItemByPos pos = some it) : pos ∈ itemPositions :=
  hasPos_mem (getItemByPos_eq_some h).1

theorem mem_items {it : Item} : it ∈ inv.items ↔ ∃ pos, inv.getItemByPos pos = some it := by
  simp only [items, mem_contents]
  exact ⟨fun ⟨pos, _, h⟩ => ⟨pos, h⟩, fun ⟨pos, h⟩ => ⟨pos, getItemByPos_mem h, h⟩⟩

theorem itemCount_eq_sum (inv : Inventory) (e : Nat) : inv.itemCount e = (inv.items.map (Item.weight e)).sum := rfl

private theorem hasPos_congr {inv inv' : Inventory} {q : ItemPos} (h : q.isBagPos = false →
      (inv'.slots ⟨inventorySlotBag0, q.bag⟩).map (fun it => (it.isBag, it.proto.containerSlots)) =
      (inv.slots ⟨inventorySlotBag0, q.bag⟩).map (fun it => (it.isBag, it.proto.containerSlots))) :
    inv'.hasPos q = inv.hasPos q := by
  unfold hasPos
  split
  next => rfl
  next hq =>
    have hq' : q.isBagPos = false := by simp [ItemPos.isBagPos, hq]
    have hbag := h hq'
    cases hinv : inv.slots ⟨inventorySlotBag0, q.bag⟩ <;>
      cases hinv' : inv'.slots ⟨inventorySlotBag0, q.bag⟩ <;> simp_all

theorem put_slots_self (v : Option Item) : (inv.put pos v).slots pos = v := by
  simp [put]

theorem put_put (v v' : Option Item) : (inv.put pos v).put pos v' = inv.put pos v' := by
  simp [put]

theorem put_slots_of_ne {q : ItemPos} (h : q ≠ pos) (v : Option Item) : (inv.put pos v).slots q = inv.slots q := by
  simp [put, h]

theorem hasPos_put (hbag : pos.isBagPos = false) (v : Option Item) (q : ItemPos) :
    (inv.put pos v).hasPos q = inv.hasPos q := by
  by_cases hq : ItemPos.isBagSlot q.bag
  · refine hasPos_congr fun _ => ?_
    rw [put_slots_of_ne]
    rintro rfl
    simp [ItemPos.isBagPos, hq] at hbag
  · simp only [hasPos, Bool.not_eq_true] at hq ⊢
    simp only [hq, Bool.false_and]

theorem getItemByPos_put (hpos : inv.hasPos pos) (hbag : pos.isBagPos = false) (v : Option Item) :
    (inv.put pos v).getItemByPos = Function.update inv.getItemByPos pos v := by
  funext q
  by_cases hq : q = pos
  · subst hq
    simp [getItemByPos, hasPos_put hbag, hpos, put_slots_self]
  · simp [getItemByPos, hasPos_put hbag, put_slots_of_ne hq, hq]

theorem getItemByPos_put_same {it it' : Item} (h : inv.getItemByPos pos = some it)
    (hproto : it'.proto = it.proto) : (inv.put pos (some it')).getItemByPos =
      Function.update inv.getItemByPos pos (some it') := by
  obtain ⟨hpos, hslot⟩ := getItemByPos_eq_some h
  have hhas : ∀ q, (inv.put pos (some it')).hasPos q = inv.hasPos q := by
    intro q
    refine hasPos_congr fun _ => ?_
    by_cases hq : (⟨inventorySlotBag0, q.bag⟩ : ItemPos) = pos
    · rw [hq, put_slots_self, hslot]
      simp [Item.isBag, hproto]
    · rw [put_slots_of_ne hq]
  funext q
  by_cases hq : q = pos
  · subst hq
    simp [getItemByPos, hhas, hpos, put_slots_self]
  · simp [getItemByPos, hhas, put_slots_of_ne hq, hq]

private theorem hasPos_slot_lt {q : ItemPos} (h : inv.hasPos q) (hq : q.bag ≠ inventorySlotBag0) :
    q.slot < maxBagSize := by
  have hmem := hasPos_mem h
  simp only [itemPositions, List.mem_append, mem_slotsOf, mem_bagContentSlots] at hmem
  rcases hmem with hmem | hmem | hmem
  · exact absurd hmem.1 hq
  · exact hmem.2.2
  · exact hmem.2.2

theorem bagIsEmpty_of_not_isBag {it : Item} (h : inv.getItemByPos pos = some it)
    (hit : it.isBag = false) : inv.bagIsEmpty pos := by
  by_cases hbag : pos.isBagPos
  · have hself : (⟨inventorySlotBag0, pos.slot⟩ : ItemPos) = pos := by
      cases pos
      simp_all [ItemPos.isBagPos]
    have hne : pos.slot ≠ inventorySlotBag0 := by
      rintro heq
      simp [ItemPos.isBagPos, heq, inventorySlotBag0, isBagSlot_iff] at hbag
    have hnone : ∀ content ∈ slotsOf pos.slot 0 maxBagSize, inv.getItemByPos content = none := by
      intro content hcontent
      have hbyte := (mem_slotsOf.mp hcontent).1
      simp [getItemByPos, hasPos, hbyte, hne, hself, (getItemByPos_eq_some h).2, hit]
    simp only [bagIsEmpty, hbag, Bool.not_true, Bool.false_or, List.all_eq_true]
    intro content hcontent
    simp [hnone content hcontent]
  · simp [bagIsEmpty, hbag]

theorem getItemByPos_put_none {it : Item} (h : inv.getItemByPos pos = some it) (hempty : inv.bagIsEmpty pos) :
    (inv.put pos none).getItemByPos = Function.update inv.getItemByPos pos none := by
  have hpos := (getItemByPos_eq_some h).1
  by_cases hbag : pos.isBagPos
  · have hself : pos = ⟨inventorySlotBag0, pos.slot⟩ := by
      cases pos
      simp_all [ItemPos.isBagPos]
    have hworn : inv.bagIsEmpty pos = (slotsOf pos.slot 0 maxBagSize).all fun content =>
        (inv.getItemByPos content).isNone := by simp [bagIsEmpty, hbag]
    rw [hworn, List.all_eq_true] at hempty
    funext q
    by_cases hq : q = pos
    · subst hq
      simp [getItemByPos, put_slots_self]
    rw [Function.update_of_ne hq]
    by_cases hqbag : q.bag = inventorySlotBag0
    · simp [getItemByPos, hasPos, hqbag, put_slots_of_ne hq]
    by_cases hin : q.bag = pos.slot
    · -- a slot of the bag that went is no longer there, and nothing was in it
      have hgone : (inv.put pos none).hasPos q = false := by
        have hslot : (⟨inventorySlotBag0, q.bag⟩ : ItemPos) = pos := by rw [hin]; exact hself.symm
        simp [hasPos, hqbag, hslot, put_slots_self]
      have hnone : inv.getItemByPos q = none := by
        by_cases hhas : inv.hasPos q
        · have hlt := hasPos_slot_lt hhas hqbag
          simpa using hempty q (by simp [hin, hlt])
        · simp [getItemByPos, hhas]
      simp [getItemByPos, hgone] at hnone ⊢
      exact fun hhas => (hnone hhas).symm
    · have hne : (⟨inventorySlotBag0, q.bag⟩ : ItemPos) ≠ pos := by
        intro heq
        exact hin (by rw [← heq])
      have hhas : (inv.put pos none).hasPos q = inv.hasPos q :=
        hasPos_congr fun _ => by rw [put_slots_of_ne hne]
      simp only [getItemByPos, hhas, put_slots_of_ne hq]
  · exact getItemByPos_put hpos (by simpa using hbag) none

theorem bagIsEmpty_put_none {it : Item} (h : inv.getItemByPos pos = some it)
    (hempty : inv.bagIsEmpty pos) {q : ItemPos} (hq : inv.bagIsEmpty q) : (inv.put pos none).bagIsEmpty q := by
  simp only [bagIsEmpty, Bool.or_eq_true, List.all_eq_true, Option.isNone_iff_eq_none] at hq ⊢
  rw [getItemByPos_put_none h hempty]
  refine hq.imp_right fun hcontents content hcontent => ?_
  by_cases hpos : content = pos
  · rw [hpos, Function.update_self]
  · rw [Function.update_of_ne hpos]
    exact hcontents content hcontent

theorem items_put (hpos : inv.hasPos pos) (hbag : pos.isBagPos = false) (v : Option Item) :
    (inv.put pos v).items + held (inv.getItemByPos pos) = inv.items + held v := by
  simp only [items, getItemByPos_put hpos hbag]
  exact contents_update itemPositions_nodup (hasPos_mem hpos) _ _

theorem mem_items_put (hpos : inv.hasPos pos) (hbag : pos.isBagPos = false) {v : Option Item}
    {it : Item} (h : it ∈ (inv.put pos v).items) : v = some it ∨ it ∈ inv.items := by
  obtain ⟨q, hq⟩ := mem_items.mp h
  rw [getItemByPos_put hpos hbag] at hq
  by_cases hqpos : q = pos
  · rw [hqpos, Function.update_self] at hq
    exact .inl hq
  · rw [Function.update_of_ne hqpos] at hq
    exact .inr (mem_items.mpr ⟨q, hq⟩)

theorem items_put_same {it it' : Item} (h : inv.getItemByPos pos = some it)
    (hproto : it'.proto = it.proto) : (inv.put pos (some it')).items + {it} = inv.items + {it'} := by
  have hmem := getItemByPos_mem h
  have hex := contents_update itemPositions_nodup hmem inv.getItemByPos (some it')
  rw [h] at hex
  simpa only [items, getItemByPos_put_same h hproto, held_some] using hex

theorem items_put_none {it : Item} (h : inv.getItemByPos pos = some it)
    (hempty : inv.bagIsEmpty pos) : (inv.put pos none).items + {it} = inv.items := by
  have hmem := getItemByPos_mem h
  have hex := contents_update itemPositions_nodup hmem inv.getItemByPos none
  rw [h] at hex
  simpa only [items, getItemByPos_put_none h hempty, held_some, held_none, add_zero] using hex

theorem items_destroyItem {it : Item} (h : inv.getItemByPos pos = some it)
    (hempty : inv.bagIsEmpty pos) : (inv.destroyItem pos).items + {it} = inv.items := by
  have hdestroy : inv.destroyItem pos = inv.put pos none := by
    simp [destroyItem, removeItem, h, hempty]
  rw [hdestroy, items_put_none h hempty]

private theorem foldl_removeItem {inv : Inventory} (qs : List ItemPos)
    (hqs : ∀ q ∈ qs, q.isBagPos = false) : (qs.foldl removeItem inv).items ≤ inv.items ∧
      (∀ q, q ∉ qs → (qs.foldl removeItem inv).getItemByPos q = inv.getItemByPos q) ∧
      (∀ q ∈ qs, (qs.foldl removeItem inv).getItemByPos q = none) ∧
      ((∃ q ∈ qs, (inv.getItemByPos q).isSome) → (qs.foldl removeItem inv).items ≠ inv.items) := by
  induction qs generalizing inv with
  | nil => exact ⟨le_refl _, fun q _ => rfl, fun q hq => by simp at hq, fun ⟨q, hq, _⟩ => by simp at hq⟩
  | cons q qs ih =>
    obtain ⟨hle, hother, hgone, hstrict⟩ :=
      @ih (inv.removeItem q) fun r hr => hqs r (List.mem_cons_of_mem q hr)
    have hbag := hqs q List.mem_cons_self
    have hremoved : (inv.removeItem q).items + held (inv.getItemByPos q) = inv.items ∧
        (∀ r, r ≠ q → (inv.removeItem q).getItemByPos r = inv.getItemByPos r) ∧
        (inv.removeItem q).getItemByPos q = none := by
      unfold removeItem
      cases hit : inv.getItemByPos q with
      | none => simp [hit]
      | some it =>
        have hpos := (getItemByPos_eq_some hit).1
        have hitems := items_put hpos hbag none
        simp only [hit, held_none, add_zero] at hitems
        simp only [Option.isSome_some, if_true]
        refine ⟨hitems, fun r hr => ?_, ?_⟩
        · rw [getItemByPos_put hpos hbag, Function.update_of_ne hr]
        · rw [getItemByPos_put hpos hbag, Function.update_self]
    obtain ⟨hitems, hkeep, hnone⟩ := hremoved
    have hfirst : (inv.removeItem q).items ≤ inv.items := by
      rw [← hitems]
      exact Multiset.le_add_right _ _
    refine ⟨hle.trans hfirst, fun r hr => ?_, fun r hr => ?_, ?_⟩
    · rw [List.mem_cons, not_or] at hr
      exact (hother r hr.2).trans (hkeep r hr.1)
    · by_cases hrq : r ∈ qs
      · exact hgone r hrq
      · have heq : r = q := by simpa [hrq] using hr
        rw [List.foldl_cons, hother r hrq, heq]
        exact hnone
    · rintro ⟨r, hr, hsome⟩ heq
      have hcard := congrArg Multiset.card heq
      have hcard' := congrArg Multiset.card hitems
      have hcardle := Multiset.card_le_card hle
      simp only [Multiset.card_add, List.foldl_cons] at hcard hcard' hcardle
      by_cases hrq : r = q
      · subst hrq
        obtain ⟨it, hit⟩ := Option.isSome_iff_exists.mp hsome
        rw [hit, held_some, Multiset.card_singleton] at hcard'
        omega
      · have hrest : r ∈ qs := by simpa [hrq] using hr
        refine hstrict ⟨r, hrest, by rwa [hkeep r hrq]⟩ ?_
        exact Multiset.eq_of_le_of_card_le hle (by omega)

theorem destroyItem_items {it : Item} (h : inv.getItemByPos pos = some it) :
    (inv.destroyItem pos).items + {it} ≤ inv.items ∧
      ((inv.destroyItem pos).items + {it} = inv.items ↔ inv.bagIsEmpty pos) := by
  by_cases hempty : inv.bagIsEmpty pos
  · have hitems := items_destroyItem h hempty
    exact ⟨hitems.le, fun _ => hempty, fun _ => hitems⟩
  · have hisBag : it.isBag = true := by
      by_contra hno
      exact hempty (bagIsEmpty_of_not_isBag h (by simpa using hno))
    have hbagPos : pos.isBagPos = true := by
      by_contra hno
      exact hempty (by simp [bagIsEmpty, hno])
    obtain ⟨hbyte, hslot⟩ : pos.bag = inventorySlotBag0 ∧ ItemPos.isBagSlot pos.slot := by
      simpa [ItemPos.isBagPos] using hbagPos
    have hne : pos.slot ≠ inventorySlotBag0 := by
      intro heq
      rw [heq, isBagSlot_iff] at hslot
      simp [inventorySlotBag0] at hslot
    obtain ⟨hle, hother, hgone, hstrict⟩ :=
      @foldl_removeItem inv (slotsOf pos.slot 0 maxBagSize) fun q hq => by
        simp [ItemPos.isBagPos, (mem_slotsOf.mp hq).1, hne]
    have hkept : ((slotsOf pos.slot 0 maxBagSize).foldl removeItem inv).getItemByPos pos = some it := by
      rw [hother pos, h]
      intro hmem
      exact hne ((mem_slotsOf.mp hmem).1.symm.trans hbyte)
    have hemptied : ((slotsOf pos.slot 0 maxBagSize).foldl removeItem inv).bagIsEmpty pos := by
      simp only [bagIsEmpty, hbagPos, Bool.not_true, Bool.false_or, List.all_eq_true]
      intro q hq
      simp [hgone q hq]
    have hitems : (inv.destroyItem pos).items + {it} =
        ((slotsOf pos.slot 0 maxBagSize).foldl removeItem inv).items := by
      have hdestroy : inv.destroyItem pos =
          ((slotsOf pos.slot 0 maxBagSize).foldl removeItem inv).put pos none := by
        simp [destroyItem, h, hisBag, hempty, removeItem, hkept]
      rw [hdestroy, items_put_none hkept hemptied]
    rw [hitems]
    refine ⟨hle, fun heq => absurd heq (hstrict ?_), fun hyes => absurd hyes hempty⟩
    by_contra hnone
    refine hempty ?_
    simp only [bagIsEmpty, hbagPos, Bool.not_true, Bool.false_or, List.all_eq_true]
    intro q hq
    by_contra hsome
    exact hnone ⟨q, hq, by simpa [Option.isNone_iff_eq_none, Option.isSome_iff_ne_none] using hsome⟩

theorem getItemByGuid_eq_some {guid : Nat} {it : Item} (h : inv.getItemByGuid guid = some (pos, it)) :
    inv.getItemByPos pos = some it ∧ it.guid = guid := by
  obtain ⟨q, -, hq⟩ := List.exists_of_findSome?_eq_some h
  cases hitem : inv.getItemByPos q with
  | none => simp [hitem] at hq
  | some found =>
    simp only [hitem] at hq
    split at hq
    next hguid =>
      cases hq
      exact ⟨hitem, hguid⟩
    next => cases hq

end Inventory

end Mangos
