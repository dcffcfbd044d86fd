import Mangos.Vendor.Till

/-!
# What is driven out of the buyback slots

`AddItemToBuyBackSlot` takes the current slot when it is empty.
-/

namespace Mangos

open Framework

/-- The calls that change what the buyback slots hold. -/
inductive BuybackCall
  | addItemToBuyBackSlot (it : Item) (now : Nat)
  | removeItemFromBuyBackSlot (slot : Nat)

namespace Customer

variable {c : Customer}

/-- A player as the constructor leaves the buyback slots. -/
def constructed (c : Customer) : Customer :=
  { c with
    items := Function.const Nat none
    fields := Function.const Nat {}
    currentBuybackSlot := buybackSlotStart }

def call (c : Customer) : BuybackCall → Customer
  | .addItemToBuyBackSlot it now => c.addItemToBuyBackSlot it now
  | .removeItemFromBuyBackSlot slot => c.removeItemFromBuyBackSlot slot

def buybackTime (c : Customer) (slot : Nat) : Nat :=
  (c.fields (slot - buybackSlotStart)).timestamp

def AllOccupied (c : Customer) : Prop := ∀ slot ∈ buybackSlots, (c.items slot).isSome

instance (c : Customer) : Decidable c.AllOccupied := List.decidableBAll _ _

/-- What every player keeps: the current slot is one of the slots, and an empty slot has no time. -/
structure Dated (c : Customer) : Prop where
  slot : c.currentBuybackSlot ∈ buybackSlots
  empty : ∀ slot ∈ buybackSlots, c.items slot = none → c.buybackTime slot = 0

/-- Nothing is destroyed but the oldest stack of all, and this only for want of an empty slot. -/
def EvictsOnlyWhenFull (c : Customer) : BuybackCall → Prop
  | .addItemToBuyBackSlot it now =>
    ((c.getItemFromBuyBackSlot c.slotToFill).isSome → c.AllOccupied ∧
      ∀ slot ∈ buybackSlots, c.buybackTime c.slotToFill ≤ c.buybackTime slot) ∧
    ∀ slot ∈ buybackSlots, slot ≠ c.slotToFill → (c.addItemToBuyBackSlot it now).items slot = c.items slot
  | .removeItemFromBuyBackSlot _ => True

/-- An empty slot, if there is one, is the current one or the first. -/
def EmptyInSight (c : Customer) : BuybackCall → Prop
  | .addItemToBuyBackSlot _ _ =>
    c.items c.currentBuybackSlot = none ∨ c.items buybackSlotStart = none ∨ c.AllOccupied
  | .removeItemFromBuyBackSlot _ => True

theorem oldestSlot_zero (slots : List Nat) (oldest : Nat) : c.oldestSlot slots 0 oldest = oldest := by
  induction slots with
  | nil => rfl
  | cons i slots ih =>
    rw [oldestSlot]
    cases c.items i with
    | none => rfl
    | some _ =>
      dsimp only
      rw [if_neg (Nat.not_lt_zero _)]
      exact ih

theorem oldestSlot_isSome {slots : List Nat} {time oldest : Nat} (h : (c.items oldest).isSome) :
    (c.items (c.oldestSlot slots time oldest)).isSome := by
  induction slots generalizing time oldest with
  | nil => exact h
  | cons i slots ih =>
    rw [oldestSlot]
    cases hi : c.items i with
    | none => exact h
    | some it =>
      dsimp only
      split
      · exact ih (by simp [hi])
      · exact ih h

theorem oldestSlot_le {slots : List Nat} {oldest : Nat} (h : ∀ i ∈ slots, (c.items i).isSome) : ∀ i ∈ oldest :: slots,
      c.buybackTime (c.oldestSlot slots (c.buybackTime oldest) oldest) ≤ c.buybackTime i := by
  induction slots generalizing oldest with
  | nil => simp [oldestSlot]
  | cons i slots ih =>
    obtain ⟨hi, hrest⟩ := List.forall_mem_cons.mp h
    obtain ⟨it, hit⟩ := Option.isSome_iff_exists.mp hi
    rw [oldestSlot, hit]
    change ∀ j ∈ oldest :: i :: slots, c.buybackTime
      (if c.buybackTime i < c.buybackTime oldest then c.oldestSlot slots (c.buybackTime i) i
        else c.oldestSlot slots (c.buybackTime oldest) oldest) ≤ c.buybackTime j
    split
    next hlt =>
      obtain ⟨hle, hle'⟩ := List.forall_mem_cons.mp (@ih i hrest)
      simp only [List.forall_mem_cons]
      exact ⟨hle.trans hlt.le, hle, hle'⟩
    next hge =>
      obtain ⟨hle, hle'⟩ := List.forall_mem_cons.mp (@ih oldest hrest)
      simp only [List.forall_mem_cons]
      exact ⟨hle, hle.trans (Nat.le_of_not_lt hge), hle'⟩

theorem slotToFill_of_occupied (h : (c.items c.currentBuybackSlot).isSome) : c.slotToFill =
    c.oldestSlot buybackSlots.tail (c.buybackTime buybackSlotStart) buybackSlotStart := by
  obtain ⟨it, hit⟩ := Option.isSome_iff_exists.mp h
  rw [slotToFill, hit]
  rfl

theorem getItemFromBuyBackSlot_of_mem {slot : Nat} (h : slot ∈ buybackSlots) :
    c.getItemFromBuyBackSlot slot = c.items slot := by
  have hrange := mem_buybackSlots.mp h
  rw [getItemFromBuyBackSlot, if_pos (by simpa using hrange)]

theorem dated_constructed (c : Customer) : c.constructed.Dated :=
  ⟨by change buybackSlotStart ∈ buybackSlots; decide, fun _ _ _ => rfl⟩

private theorem eslot_ne {slot slot' : Nat} (hslot : slot ∈ buybackSlots)
    (hslot' : slot' ∈ buybackSlots) (hne : slot ≠ slot') : slot - buybackSlotStart ≠ slot' - buybackSlotStart := by
  have hrange := mem_buybackSlots.mp hslot
  have hrange' := mem_buybackSlots.mp hslot'
  omega

private theorem Dated.add (h : c.Dated) (it : Item) (now : Nat) : (c.addItemToBuyBackSlot it now).Dated := by
  obtain ⟨next, hnext, heq⟩ := addItemToBuyBackSlot_eq h.slot it now
  rw [heq]
  refine ⟨hnext, fun slot hmem hnone => ?_⟩
  change Function.update c.items c.slotToFill (some it) slot = none at hnone
  have hne : slot ≠ c.slotToFill := by
    intro hslot
    simp [hslot] at hnone
  rw [Function.update_of_ne hne] at hnone
  have hother := eslot_ne hmem (slotToFill_mem h.slot) hne
  have htime := h.empty slot hmem hnone
  simpa [buybackTime, fillSlot, setField, setItem, Function.update_of_ne hother] using htime

private theorem Dated.remove (h : c.Dated) (slot : Nat) : (c.removeItemFromBuyBackSlot slot).Dated := by
  by_cases hslot : slot ∈ buybackSlots
  · obtain ⟨current, hcurrent, heq⟩ := @removeItemFromBuyBackSlot_eq c _ hslot
    rw [heq]
    refine ⟨?_, fun other hmem hnone => ?_⟩
    · rcases hcurrent with rfl | rfl
      · exact h.slot
      · exact hslot
    · change Function.update c.items slot none other = none at hnone
      change (Function.update c.fields (slot - buybackSlotStart) {}
        (other - buybackSlotStart)).timestamp = 0
      by_cases hne : other = slot
      · simp [hne]
      · rw [Function.update_of_ne hne] at hnone
        rw [Function.update_of_ne (eslot_ne hmem hslot hne)]
        exact h.empty other hmem hnone
  · have hrange : ¬ (buybackSlotStart ≤ slot ∧ slot < buybackSlotEnd) :=
      fun hrange => hslot (mem_buybackSlots.mpr hrange)
    rw [removeItemFromBuyBackSlot, if_neg (by simpa using hrange)]
    exact h

theorem Dated.call (h : c.Dated) (e : BuybackCall) : (c.call e).Dated := by
  cases e with
  | addItemToBuyBackSlot it now => exact h.add it now
  | removeItemFromBuyBackSlot slot => exact h.remove slot

theorem evictsOnlyWhenFull_iff (h : c.Dated) (e : BuybackCall) : c.EvictsOnlyWhenFull e ↔ c.EmptyInSight e := by
  cases e with
  | removeItemFromBuyBackSlot slot => rfl
  | addItemToBuyBackSlot it now =>
    have hmem := slotToFill_mem h.slot
    have hkept : ∀ slot ∈ buybackSlots, slot ≠ c.slotToFill →
        (c.addItemToBuyBackSlot it now).items slot = c.items slot := by
      intro slot _ hne
      rw [(added_addItemToBuyBackSlot h.slot it now).items, Function.update_of_ne hne]
    simp only [EvictsOnlyWhenFull, getItemFromBuyBackSlot_of_mem hmem, and_iff_left hkept, EmptyInSight]
    cases hcurrent : c.items c.currentBuybackSlot with
    | none => simp [slotToFill, hcurrent]
    | some current =>
      rw [slotToFill_of_occupied (by simp [hcurrent])]
      simp only [reduceCtorEq, false_or]
      cases hstart : c.items buybackSlotStart with
      | none =>
        rw [h.empty _ (by decide) hstart, oldestSlot_zero]
        simp [hstart]
      | some first =>
        have hsome := @oldestSlot_isSome c buybackSlots.tail
          (c.buybackTime buybackSlotStart) buybackSlotStart (by simp [hstart])
        simp only [hsome, forall_const, reduceCtorEq, false_or, and_iff_left_iff_imp]
        exact fun hfull => oldestSlot_le fun i hi => hfull i (List.mem_of_mem_tail hi)

end Customer

/-- The buyback slots lose only the oldest of a full row in exactly those runs that never add to an occupied slot with
the first one occupied and an empty one behind it. -/
theorem buyback_evictsOnlyWhenFull_iff (c : Customer) (calls : List BuybackCall) :
    Guarded Customer.call Customer.EvictsOnlyWhenFull c.constructed calls ↔
      Guarded Customer.call Customer.EmptyInSight c.constructed calls :=
  guarded_iff_of_invariant (fun _ e h => h.call e)
    (fun _ e h => Customer.evictsOnlyWhenFull_iff h e) calls c.dated_constructed

private def linen : ItemPrototype :=
  { ItemPrototype.clothLike 2589 with sellPrice := 13 }

private def linenStack (guid : Nat) : Item :=
  { guid := guid, proto := linen, count := 20, ownerGuid := 7 }

private def linenSeller : Customer where
  player := { guid := 7, account := 1, money := 0, inventory := ⟨Function.const ItemPos none⟩ }
  nextItemGuid := 200
  items := Function.const Nat none
  fields := Function.const Nat {}
  currentBuybackSlot := buybackSlotStart
  logintime := 0

private def sellLinen (i : Nat) : BuybackCall := .addItemToBuyBackSlot (linenStack (100 + i)) i

/-- All twelve slots are filled, the third and the seventh are bought back. The next sale takes the third, and the one
after it destroys the first stack while the seventh slot is empty. -/
theorem linen_evicted_beside_empty : ¬ Guarded Customer.call Customer.EvictsOnlyWhenFull linenSeller.constructed
      ((List.range 12).map sellLinen ++ [.removeItemFromBuyBackSlot 76,
        .removeItemFromBuyBackSlot 80, sellLinen 12, sellLinen 13]) := by
  intro h
  have hrun := (guarded_append _ _ _ _ _).mp h
  have hlast := hrun.2.2.2.2.1.1 (by decide +kernel)
  exact absurd hlast.1 (by decide +kernel)

end Mangos
