import Mangos.Item.Player

/-!
# Destroying items by their entry

`DestroyItemCount` goes through the slots in a fixed order, and destroys stack after stack of an entry until
as many are gone as were asked for.
-/

namespace Mangos

open Framework

/-- What `DestroyItemCount` is asked for. -/
structure DestroyRequest where
  item : Nat
  count : Nat
  unequipCheck : Bool := false
  inBankAlso : Bool := false

/-- How far its loops are: the inventory, `remcount`, and whether the function has returned. -/
structure DestroyProgress where
  inventory : Inventory
  remcount : Nat
  returned : Bool

def DestroyRequest.wants (r : DestroyRequest) (it : Item) : Bool := it.entry = r.item && !it.inTrade

namespace Player

variable (pl : Player) (r : DestroyRequest)

def withInventory (inv : Inventory) : Player := { pl with inventory := inv }

/-- The turn of a loop for a slot; `checked` in the loop over what is equipped, if that is asked for. -/
def destroyTurn (checked : Bool) (s : DestroyProgress) (pos : ItemPos) : DestroyProgress :=
  if s.returned then s
  else
    match s.inventory.getItemByPos pos with
    | none => s
    | some it =>
      if r.wants it then
        if (it.count + s.remcount) % 2 ^ 32 ≤ r.count then
          if checked && (pl.withInventory s.inventory).canUnequipItem pos false ≠ .ok then s
          else
            let remcount := (s.remcount + it.count) % 2 ^ 32
            { inventory := s.inventory.destroyItem pos, remcount, returned := r.count ≤ remcount }
        else
          -- a part of a stack is taken without a check, wherever the stack is
          { s with
            inventory := s.inventory.put pos
              (some { it with count := (it.count + 2 ^ 32 - r.count + s.remcount) % 2 ^ 32 })
            returned := true }
      else s

def destroyLoop (checked : Bool) (slots : List ItemPos) (s : DestroyProgress) : DestroyProgress :=
  slots.foldl (pl.destroyTurn r checked) s

/-- `Player::DestroyItemCount` for an entry. -/
def destroyItemCount : Inventory :=
  let s : DestroyProgress := ⟨pl.inventory, 0, false⟩
  let s := pl.destroyLoop r false (slotsOf inventorySlotBag0 inventorySlotItemStart inventorySlotItemEnd) s
  let s := pl.destroyLoop r false (bagContentSlots inventorySlotBagStart inventorySlotBagEnd) s
  let s := pl.destroyLoop r r.unequipCheck (slotsOf inventorySlotBag0 0 inventorySlotBagEnd) s
  let s :=
    if r.inBankAlso then
      let s := pl.destroyLoop r false (slotsOf inventorySlotBag0 bankSlotItemStart bankSlotItemEnd) s
      pl.destroyLoop r false (bagContentSlots bankSlotBagStart bankSlotBagEnd) s
    else s
  s.inventory

end Player

def DestroyRequest.slots (r : DestroyRequest) : List ItemPos :=
  slotsOf inventorySlotBag0 inventorySlotItemStart inventorySlotItemEnd ++
    bagContentSlots inventorySlotBagStart inventorySlotBagEnd ++
    (slotsOf inventorySlotBag0 0 inventorySlotBagEnd ++ if r.inBankAlso then
        slotsOf inventorySlotBag0 bankSlotItemStart bankSlotItemEnd ++ bagContentSlots bankSlotBagStart bankSlotBagEnd
      else [])

def Inventory.cleared (inv : Inventory) (r : DestroyRequest) : Inventory :=
  ⟨fun pos => (inv.slots pos).filter fun it =>
    !(pos ∈ bagContentSlots inventorySlotBagStart inventorySlotBagEnd && r.wants it)⟩

namespace Player

variable (pl : Player) (r : DestroyRequest)

/-- The stack is looked for, and can be unequipped where that is checked. -/
def isEligible (pos : ItemPos) (it : Item) : Bool :=
  r.wants it && (!(r.unequipCheck && pos.isEquipmentPos) ||
    (pl.withInventory (pl.inventory.cleared r)).canUnequipItem pos false = .ok)

def eligibleAt (pos : ItemPos) : Nat :=
  (pl.inventory.getItemByPos pos).elim 0 fun it => if pl.isEligible r pos it then it.count else 0

def eligibleAmount (slots : List ItemPos) : Nat := (slots.map (pl.eligibleAt r)).sum

/-- As much of the entry is gone as was asked for, or all that may be destroyed, and nothing else has changed. -/
structure DestroysExactly (inv : Inventory) : Prop where
  total : inv.itemCount r.item + min r.count (pl.eligibleAmount r r.slots) = pl.inventory.itemCount r.item
  kept : ∀ pos it, pl.inventory.getItemByPos pos = some it → ¬ (pos ∈ r.slots ∧ pl.isEligible r pos it = true) →
    inv.getItemByPos pos = some it
  fresh : ∀ pos, pl.inventory.getItemByPos pos = none → inv.getItemByPos pos = none

def LooksOn (before : List ItemPos) : Prop :=
  (∀ pos ∈ before, ∀ it, pl.inventory.getItemByPos pos = some it → pl.isEligible r pos it = false) ∨
    pl.eligibleAmount r before < r.count

/-- A stack that is met: one that may be destroyed takes nothing else along, and the sum does not go over 32 bits; one
that must stay is not larger than what is still asked for. -/
def SoundAt (before : List ItemPos) (pos : ItemPos) : Prop :=
  ∀ it, pl.inventory.getItemByPos pos = some it → r.wants it = true → pl.LooksOn r before →
    if pl.isEligible r pos it then
      pl.eligibleAmount r before + it.count < 2 ^ 32 ∧
        (pl.eligibleAmount r before + it.count ≤ r.count → (pl.inventory.cleared r).bagIsEmpty pos = true)
    else
      r.count = 0 ∨ pl.eligibleAmount r before + it.count ≤ r.count ∨ 2 ^ 32 ≤ pl.eligibleAmount r before + it.count

def DestroysSoundly : Prop :=
  ∀ before pos after, r.slots = before ++ pos :: after → pl.SoundAt r before pos

def destroyAt (s : DestroyProgress) (pos : ItemPos) : DestroyProgress :=
  pl.destroyTurn r (r.unequipCheck && pos.isEquipmentPos) s pos

variable {pl r}

theorem destroyLoop_eq {checked : Bool} {slots : List ItemPos}
    (h : ∀ pos ∈ slots, (r.unequipCheck && pos.isEquipmentPos) = checked) (s : DestroyProgress) :
    pl.destroyLoop r checked slots s = slots.foldl (pl.destroyAt r) s := by
  apply List.foldl_ext
  intro s pos hpos
  rw [destroyAt, h pos hpos]

theorem isEquipmentPos_inside {pos : ItemPos} {first last : Nat} (hlast : last ≤ inventorySlotBag0)
    (h : pos ∈ bagContentSlots first last) : pos.isEquipmentPos = false := by
  have hbag := (mem_bagContentSlots.mp h).2.1
  have hne : pos.bag ≠ inventorySlotBag0 := by omega
  simp [ItemPos.isEquipmentPos, hne]

theorem isEquipmentPos_own {pos : ItemPos} {first last : Nat} (hfirst : inventorySlotBagEnd ≤ first)
    (h : pos ∈ slotsOf inventorySlotBag0 first last) : pos.isEquipmentPos = false := by
  have hslot := (mem_slotsOf.mp h).2.1
  have hnot : ¬ pos.slot < equipmentSlotEnd := by unfold inventorySlotBagEnd at hfirst; unfold equipmentSlotEnd; omega
  have hnot' : ¬ pos.slot < inventorySlotBagEnd := by omega
  simp [ItemPos.isEquipmentPos, hnot, hnot']

theorem isEquipmentPos_worn {pos : ItemPos} (h : pos ∈ slotsOf inventorySlotBag0 0 inventorySlotBagEnd) :
    pos.isEquipmentPos = true := by
  obtain ⟨hbag, -, hslot⟩ := mem_slotsOf.mp h
  simp only [ItemPos.isEquipmentPos, hbag, decide_true, Bool.true_and, Bool.or_eq_true, Bool.and_eq_true,
    decide_eq_true_eq]
  unfold equipmentSlotEnd inventorySlotBagStart
  omega

theorem destroyItemCount_eq : pl.destroyItemCount r = (r.slots.foldl (pl.destroyAt r) ⟨pl.inventory, 0, false⟩).inventory := by
  have hitems := @destroyLoop_eq pl r false (slotsOf inventorySlotBag0 inventorySlotItemStart inventorySlotItemEnd)
    fun pos hpos => by rw [isEquipmentPos_own (by decide) hpos, Bool.and_false]
  have hbags := @destroyLoop_eq pl r false (bagContentSlots inventorySlotBagStart inventorySlotBagEnd)
    fun pos hpos => by rw [isEquipmentPos_inside (by decide) hpos, Bool.and_false]
  have hworn := @destroyLoop_eq pl r r.unequipCheck (slotsOf inventorySlotBag0 0 inventorySlotBagEnd)
    fun pos hpos => by rw [isEquipmentPos_worn hpos, Bool.and_true]
  have hbank := @destroyLoop_eq pl r false (slotsOf inventorySlotBag0 bankSlotItemStart bankSlotItemEnd)
    fun pos hpos => by rw [isEquipmentPos_own (by decide) hpos, Bool.and_false]
  have hbankBags := @destroyLoop_eq pl r false (bagContentSlots bankSlotBagStart bankSlotBagEnd)
    fun pos hpos => by rw [isEquipmentPos_inside (by decide) hpos, Bool.and_false]
  rw [destroyItemCount, DestroyRequest.slots]
  simp only [hitems, hbags, hworn, hbank, hbankBags, List.foldl_append]
  cases r.inBankAlso <;> simp

theorem slots_nodup (r : DestroyRequest) : r.slots.Nodup := by
  have hmain : ∀ l : List ItemPos, l.Nodup →
      (∀ pos ∈ l, (pos.bag = 255 ∧ 39 ≤ pos.slot) ∨ 67 ≤ pos.bag ∧ pos.bag < 74) →
      (slotsOf inventorySlotBag0 inventorySlotItemStart inventorySlotItemEnd ++
        bagContentSlots inventorySlotBagStart inventorySlotBagEnd ++
        (slotsOf inventorySlotBag0 0 inventorySlotBagEnd ++ l)).Nodup := by
    intro l hl hfar
    simp only [List.nodup_append', slotsOf_nodup, bagContentSlots_nodup, hl, true_and, List.disjoint_left,
      List.mem_append, mem_slotsOf, mem_bagContentSlots, inventorySlotBag0, inventorySlotBagStart,
      inventorySlotBagEnd, inventorySlotItemStart, inventorySlotItemEnd]
    refine ⟨?_, ?_, ?_⟩
    · intro pos hpos
      omega
    · intro pos hpos hmem
      have hpos' := hfar pos hmem
      omega
    · intro pos hpos hmem
      rcases hmem with hmem | hmem
      · omega
      · have hpos' := hfar pos hmem
        omega
  rw [DestroyRequest.slots]
  cases r.inBankAlso with
  | false => exact hmain [] List.nodup_nil (by simp)
  | true =>
    refine hmain _ ?_ ?_
    · simp only [if_true, List.nodup_append', slotsOf_nodup, bagContentSlots_nodup, true_and, List.disjoint_left,
        mem_slotsOf, mem_bagContentSlots, inventorySlotBag0, bankSlotBagStart, bankSlotBagEnd]
      intro pos hpos
      omega
    · intro pos hpos
      simp only [if_true, List.mem_append, mem_slotsOf, mem_bagContentSlots, inventorySlotBag0, bankSlotItemStart,
        bankSlotItemEnd, bankSlotBagStart, bankSlotBagEnd] at hpos
      omega

theorem worn_of_bagPos {pos : ItemPos} (hmem : pos ∈ r.slots) (hbag : pos.isBagPos = true) :
    pos.bag = inventorySlotBag0 ∧ inventorySlotBagStart ≤ pos.slot ∧ pos.slot < inventorySlotBagEnd := by
  obtain ⟨hbyte, hslot⟩ : pos.bag = inventorySlotBag0 ∧ ItemPos.isBagSlot pos.slot := by
    simpa [ItemPos.isBagPos] using hbag
  rw [Inventory.isBagSlot_iff] at hslot
  refine ⟨hbyte, ?_⟩
  rw [DestroyRequest.slots] at hmem
  cases hbank : r.inBankAlso <;>
    simp only [hbank, if_true, if_false, Bool.false_eq_true, List.append_nil, List.mem_append, mem_slotsOf,
      mem_bagContentSlots, hbyte, inventorySlotBag0, inventorySlotItemStart, inventorySlotItemEnd,
      inventorySlotBagStart, inventorySlotBagEnd, bankSlotItemStart, bankSlotItemEnd, bankSlotBagStart,
      bankSlotBagEnd] at hmem ⊢ <;>
    omega

theorem content_mem_of_bagPos {before after : List ItemPos} {pos content : ItemPos}
    (h : r.slots = before ++ pos :: after) (hbag : pos.isBagPos = true)
    (hcontent : content ∈ slotsOf pos.slot 0 maxBagSize) :
    content ∈ before ∧ content ∈ bagContentSlots inventorySlotBagStart inventorySlotBagEnd := by
  obtain ⟨hbyte, hworn⟩ := @worn_of_bagPos r pos (by rw [h]; simp) hbag
  have hinside : content ∈ bagContentSlots inventorySlotBagStart inventorySlotBagEnd := by
    obtain ⟨hcbag, -, hcslot⟩ := mem_slotsOf.mp hcontent
    rw [mem_bagContentSlots, hcbag]
    exact ⟨hworn.1, hworn.2, hcslot⟩
  refine ⟨?_, hinside⟩
  have hnotFirst : pos ∉ slotsOf inventorySlotBag0 inventorySlotItemStart inventorySlotItemEnd ++
      bagContentSlots inventorySlotBagStart inventorySlotBagEnd := by
    simp only [List.mem_append, mem_slotsOf, mem_bagContentSlots, hbyte, inventorySlotBag0, inventorySlotItemStart,
      inventorySlotBagStart, inventorySlotBagEnd] at hworn ⊢
    omega
  have hprefix : slotsOf inventorySlotBag0 inventorySlotItemStart inventorySlotItemEnd ++
      bagContentSlots inventorySlotBagStart inventorySlotBagEnd <+: before := by
    rw [DestroyRequest.slots] at h
    rcases List.append_eq_append_iff.mp h with ⟨rest, hrest, -⟩ | ⟨rest, hrest, hpos⟩
    · exact ⟨rest, hrest.symm⟩
    · cases rest with
      | nil => exact ⟨[], by rw [hrest, List.append_nil, List.append_nil]⟩
      | cons first rest =>
        have heq : pos = first := (List.cons.inj hpos).1
        exact absurd (by rw [hrest, heq]; simp) hnotFirst
  exact hprefix.subset (List.mem_append_right _ hinside)

end Player

namespace Inventory

variable {inv : Inventory} {r : DestroyRequest}

theorem hasPos_cleared (pos : ItemPos) : (inv.cleared r).hasPos pos = inv.hasPos pos := by
  have hworn : (inv.cleared r).slots ⟨inventorySlotBag0, pos.bag⟩ = inv.slots ⟨inventorySlotBag0, pos.bag⟩ := by
    have hout : (⟨inventorySlotBag0, pos.bag⟩ : ItemPos) ∉ bagContentSlots inventorySlotBagStart inventorySlotBagEnd := by
      rw [mem_bagContentSlots]
      simp [inventorySlotBag0, inventorySlotBagEnd]
    simp only [cleared, hout, decide_false, Bool.false_and, Bool.not_false]
    cases inv.slots ⟨inventorySlotBag0, pos.bag⟩ <;> rfl
  rw [hasPos, hasPos, hworn]

theorem getItemByPos_cleared (pos : ItemPos) :
    (inv.cleared r).getItemByPos pos = (inv.getItemByPos pos).filter fun it =>
      !(pos ∈ bagContentSlots inventorySlotBagStart inventorySlotBagEnd && r.wants it) := by
  rw [getItemByPos, getItemByPos, hasPos_cleared]
  cases inv.hasPos pos <;> simp [cleared]

end Inventory

namespace Inventory

variable {inv : Inventory} {pos q : ItemPos} {it : Item}

theorem getItemByPos_of_put_none (h : (inv.put pos none).getItemByPos q = some it) : inv.getItemByPos q = some it := by
  obtain ⟨hhas, hslot⟩ := getItemByPos_eq_some h
  have hq : q ≠ pos := by
    rintro rfl
    rw [put_slots_self] at hslot
    cases hslot
  rw [put_slots_of_ne hq] at hslot
  have hhad : inv.hasPos q = true := by
    rw [hasPos] at hhas ⊢
    by_cases hown : q.bag = inventorySlotBag0
    · rwa [if_pos hown] at hhas ⊢
    · rw [if_neg hown] at hhas ⊢
      by_cases hbag : (⟨inventorySlotBag0, q.bag⟩ : ItemPos) = pos
      · rw [hbag, put_slots_self] at hhas
        simp at hhas
      · rwa [put_slots_of_ne hbag] at hhas
  rw [getItemByPos, if_pos hhad, hslot]

theorem getItemByPos_of_removeItem (h : (inv.removeItem pos).getItemByPos q = some it) :
    inv.getItemByPos q = some it := by
  rw [removeItem] at h
  split at h
  · exact getItemByPos_of_put_none h
  · exact h

theorem getItemByPos_of_foldl_removeItem {slots : List ItemPos}
    (h : (slots.foldl removeItem inv).getItemByPos q = some it) : inv.getItemByPos q = some it := by
  induction slots generalizing inv with
  | nil => exact h
  | cons slot slots ih => exact getItemByPos_of_removeItem (ih h)

theorem getItemByPos_of_destroyItem (h : (inv.destroyItem pos).getItemByPos q = some it) :
    inv.getItemByPos q = some it := by
  rw [destroyItem] at h
  cases hitem : inv.getItemByPos pos with
  | none => rwa [hitem] at h
  | some found =>
    simp only [hitem] at h
    have hrest := getItemByPos_of_removeItem h
    split at hrest
    · exact getItemByPos_of_foldl_removeItem hrest
    · exact hrest

theorem getItemByPos_removeItem_self (inv : Inventory) (pos : ItemPos) :
    (inv.removeItem pos).getItemByPos pos = none := by
  rw [removeItem]
  split
  · rw [getItemByPos, put_slots_self]
    split <;> rfl
  next hnone => simpa using hnone

theorem getItemByPos_destroyItem_self (inv : Inventory) (pos : ItemPos) :
    (inv.destroyItem pos).getItemByPos pos = none := by
  rw [destroyItem]
  cases hitem : inv.getItemByPos pos with
  | none => exact hitem
  | some it => exact getItemByPos_removeItem_self _ pos

theorem getItemByPos_destroyItem_inside (inv : Inventory) (hbag : pos.isBagPos = true) (hq : q.bag = pos.slot) :
    (inv.destroyItem pos).getItemByPos q = none := by
  obtain ⟨hbyte, hslot⟩ : pos.bag = inventorySlotBag0 ∧ ItemPos.isBagSlot pos.slot := by
    simpa [ItemPos.isBagPos] using hbag
  rw [isBagSlot_iff] at hslot
  have hgone := getItemByPos_destroyItem_self inv pos
  have hworn : pos = ⟨inventorySlotBag0, q.bag⟩ := by
    rw [hq, ← hbyte]
  have hown : (inv.destroyItem pos).hasPos pos = true := by
    rw [hasPos, if_pos hbyte, decide_eq_true_eq]
    unfold bankSlotBagEnd
    omega
  rw [getItemByPos, if_pos hown, hworn] at hgone
  have hnot : q.bag ≠ inventorySlotBag0 := by
    unfold inventorySlotBag0
    omega
  have hhas : (inv.destroyItem pos).hasPos q = false := by
    rw [hasPos, if_neg hnot, hworn, hgone]
    simp
  rw [getItemByPos, hhas]
  rfl

theorem itemCount_destroyItem_le (h : inv.getItemByPos pos = some it) (e : Nat) :
    (inv.destroyItem pos).itemCount e + it.weight e ≤ inv.itemCount e := by
  obtain ⟨rest, hrest⟩ := Multiset.le_iff_exists_add.mp (destroyItem_items h).1
  rw [itemCount_eq_sum, itemCount_eq_sum, hrest, Multiset.map_add, Multiset.map_add, Multiset.sum_add, Multiset.sum_add,
    Multiset.map_singleton, Multiset.sum_singleton]
  exact Nat.le_add_right _ _

end Inventory

namespace Player

theorem canUnequipItem_congr (pl : Player) {inv inv' : Inventory} {pos : ItemPos}
    (hitem : inv.getItemByPos pos = inv'.getItemByPos pos) (hempty : inv.bagIsEmpty pos = inv'.bagIsEmpty pos) :
    (pl.withInventory inv).canUnequipItem pos false = (pl.withInventory inv').canUnequipItem pos false := by
  rw [canUnequipItem, canUnequipItem]
  simp only [withInventory, hitem, hempty]
  cases inv'.getItemByPos pos <;> rfl

theorem bagIsEmpty_of_canUnequipItem {pl : Player} {pos : ItemPos} {it : Item}
    (hitem : pl.inventory.getItemByPos pos = some it) (hworn : pos.isEquipmentPos = true)
    (h : pl.canUnequipItem pos false = .ok) : pl.inventory.bagIsEmpty pos = true := by
  by_cases hbag : it.isBag = true
  · by_contra hfull
    rw [Bool.not_eq_true] at hfull
    simp only [canUnequipItem, hworn, hitem, hbag, hfull, Bool.not_true, Bool.false_and, Bool.false_eq_true, if_false,
      Bool.not_false, Bool.and_self, if_true] at h
    split_ifs at h
  · exact Inventory.bagIsEmpty_of_not_isBag hitem (by simpa using hbag)

variable {pl : Player} {r : DestroyRequest} {before after : List ItemPos} {pos : ItemPos} {it : Item}
  {s : DestroyProgress}

theorem isEligible_of_not_worn (hwants : r.wants it = true) (h : (r.unequipCheck && pos.isEquipmentPos) = false) :
    pl.isEligible r pos it = true := by
  rw [isEligible, hwants, h]
  rfl

theorem wants_of_isEligible (h : pl.isEligible r pos it = true) : r.wants it = true := by
  rw [isEligible, Bool.and_eq_true] at h
  exact h.1

theorem eligibleAmount_append (before after : List ItemPos) :
    pl.eligibleAmount r (before ++ after) = pl.eligibleAmount r before + pl.eligibleAmount r after := by
  rw [eligibleAmount, List.map_append, List.sum_append]
  rfl

theorem eligibleAmount_snoc (before : List ItemPos) (pos : ItemPos) :
    pl.eligibleAmount r (before ++ [pos]) = pl.eligibleAmount r before + pl.eligibleAt r pos := by
  rw [eligibleAmount_append, eligibleAmount, eligibleAmount, List.map_singleton, List.sum_singleton]

/-- The stacks that may be destroyed are gone from the slots looked at, and all else is as it was. -/
structure Taken (pl : Player) (r : DestroyRequest) (before : List ItemPos) (s : DestroyProgress) : Prop where
  shown : ∀ pos, s.inventory.getItemByPos pos =
    if pos ∈ before ∧ (pl.inventory.getItemByPos pos).any (pl.isEligible r pos) = true then none
    else pl.inventory.getItemByPos pos
  total : s.inventory.itemCount r.item + s.remcount = pl.inventory.itemCount r.item
  remcount : s.remcount = pl.eligibleAmount r before

/-- So far nothing has gone wrong, and the loops go on. -/
structure Walked (pl : Player) (r : DestroyRequest) (before : List ItemPos) (s : DestroyProgress) : Prop
    extends Taken pl r before s where
  looks : pl.LooksOn r before
  unreturned : s.returned = false

theorem eligibleAt_of_eligible (hitem : pl.inventory.getItemByPos pos = some it) (h : pl.isEligible r pos it = true) :
    pl.eligibleAt r pos = it.count := by
  rw [eligibleAt, hitem, Option.elim_some, if_pos h]

theorem eligibleAt_of_none (h : ∀ it, pl.inventory.getItemByPos pos = some it → pl.isEligible r pos it = false) :
    pl.eligibleAt r pos = 0 := by
  rw [eligibleAt]
  cases hitem : pl.inventory.getItemByPos pos with
  | none => rfl
  | some it => rw [Option.elim_some, if_neg (by simp [h it hitem])]

theorem Taken.exactly (h : Taken pl r before s) (hslots : r.slots = before ++ after)
    (hmin : min r.count (pl.eligibleAmount r r.slots) = s.remcount) : pl.DestroysExactly r s.inventory := by
  constructor
  · rw [hmin]
    exact h.total
  · intro pos it hitem hnot
    rw [h.shown, if_neg, hitem]
    rintro ⟨hmem, heligible⟩
    rw [hitem] at heligible
    exact hnot ⟨by rw [hslots]; exact List.mem_append_left after hmem, heligible⟩
  · intro pos hnone
    rw [h.shown, hnone]
    split <;> rfl

namespace Walked

variable (h : Walked pl r before s) (hslots : r.slots = before ++ pos :: after)

include h hslots

theorem shown_next : s.inventory.getItemByPos pos = pl.inventory.getItemByPos pos := by
  have hnodup := slots_nodup r
  rw [hslots, List.nodup_append'] at hnodup
  have hnot : pos ∉ before := fun hmem => List.disjoint_left.mp hnodup.2.2 hmem List.mem_cons_self
  rw [h.shown, if_neg fun hboth => hnot hboth.1]

theorem bagIsEmpty_next : s.inventory.bagIsEmpty pos = (pl.inventory.cleared r).bagIsEmpty pos := by
  rw [Inventory.bagIsEmpty, Inventory.bagIsEmpty]
  by_cases hbag : pos.isBagPos = true
  · have hsame : ∀ content ∈ slotsOf pos.slot 0 maxBagSize, (s.inventory.getItemByPos content).isNone =
        ((pl.inventory.cleared r).getItemByPos content).isNone := by
      intro content hcontent
      obtain ⟨hmem, hinside⟩ := content_mem_of_bagPos hslots hbag hcontent
      rw [h.shown, Inventory.getItemByPos_cleared]
      cases hitem : pl.inventory.getItemByPos content with
      | none => simp
      | some it =>
        have heligible : pl.isEligible r content it = r.wants it := by
          cases hwants : r.wants it with
          | false => rw [isEligible, hwants, Bool.false_and]
          | true =>
            exact isEligible_of_not_worn hwants (by rw [isEquipmentPos_inside (by decide) hinside, Bool.and_false])
        cases hwants : r.wants it <;> simp [hmem, hinside, heligible, hwants, Option.filter]
    congr 1
    rw [Bool.eq_iff_iff, List.all_eq_true, List.all_eq_true]
    constructor
    · exact fun hall content hcontent => hsame content hcontent ▸ hall content hcontent
    · exact fun hall content hcontent => (hsame content hcontent).symm ▸ hall content hcontent
  · simp [hbag]

theorem isEligible_next (hitem : pl.inventory.getItemByPos pos = some it) (hwants : r.wants it = true) :
    pl.isEligible r pos it = true ↔ ¬ ((r.unequipCheck && pos.isEquipmentPos) = true ∧
        (pl.withInventory s.inventory).canUnequipItem pos false ≠ .ok) := by
  cases hcheck : r.unequipCheck && pos.isEquipmentPos with
  | false => simp [isEligible_of_not_worn hwants hcheck]
  | true =>
    have hworn : pos.isEquipmentPos = true := (Bool.and_eq_true_iff.mp hcheck).2
    have hout : pos ∉ bagContentSlots inventorySlotBagStart inventorySlotBagEnd := fun hmem =>
      absurd (isEquipmentPos_inside (by decide) hmem) (by simp [hworn])
    have hsame : s.inventory.getItemByPos pos = (pl.inventory.cleared r).getItemByPos pos := by
      rw [h.shown_next hslots, Inventory.getItemByPos_cleared, hitem]
      simp only [hout, decide_false, Bool.false_and, Bool.not_false]
      rfl
    rw [isEligible, hwants, hcheck, canUnequipItem_congr pl hsame (h.bagIsEmpty_next hslots)]
    simp

theorem pass (hnone : ∀ it, pl.inventory.getItemByPos pos = some it → pl.isEligible r pos it = false) :
    Walked pl r (before ++ [pos]) s := by
  have hamount : pl.eligibleAmount r (before ++ [pos]) = pl.eligibleAmount r before := by
    rw [eligibleAmount_snoc, eligibleAt_of_none hnone, Nat.add_zero]
  refine ⟨⟨fun q => ?_, h.total, by rw [hamount, h.remcount]⟩, ?_, h.unreturned⟩
  · rw [h.shown]
    by_cases hq : q = pos
    · subst hq
      have hany : (pl.inventory.getItemByPos q).any (pl.isEligible r q) = false := by
        cases hitem : pl.inventory.getItemByPos q with
        | none => rfl
        | some it => exact hnone it hitem
      simp [hany]
    · simp [hq]
  · rcases h.looks with hall | hless
    · refine .inl fun q hq it hitem => ?_
      rcases List.mem_append.mp hq with hq | hq
      · exact hall q hq it hitem
      · obtain rfl := List.mem_singleton.mp hq
        exact hnone it hitem
    · exact .inr (by rwa [hamount])

theorem take (hitem : pl.inventory.getItemByPos pos = some it) (heligible : pl.isEligible r pos it = true)
    (hempty : (pl.inventory.cleared r).bagIsEmpty pos = true) (returned : Bool) :
    Taken pl r (before ++ [pos]) ⟨s.inventory.destroyItem pos, pl.eligibleAmount r before + it.count, returned⟩ := by
  have hnow : s.inventory.getItemByPos pos = some it := (h.shown_next hslots).trans hitem
  have hemptyNow : s.inventory.bagIsEmpty pos = true := (h.bagIsEmpty_next hslots).trans hempty
  have hdestroy : s.inventory.destroyItem pos = s.inventory.put pos none := by
    simp [Inventory.destroyItem, Inventory.removeItem, hnow, hemptyNow]
  constructor
  · intro q
    rw [hdestroy, Inventory.getItemByPos_put_none hnow hemptyNow]
    by_cases hq : q = pos
    · subst hq
      rw [Function.update_self, if_pos ⟨by simp, by rw [hitem]; exact heligible⟩]
    · rw [Function.update_of_ne hq, h.shown]
      simp [hq]
  · have hsum := congrArg (fun m => (m.map (Item.weight r.item)).sum) (Inventory.items_destroyItem hnow hemptyNow)
    simp only [Multiset.map_add, Multiset.map_singleton, Multiset.sum_add, Multiset.sum_singleton,
      ← Inventory.itemCount_eq_sum] at hsum
    have hentry : it.entry = r.item := by
      have hwants := wants_of_isEligible heligible
      simp only [DestroyRequest.wants, Bool.and_eq_true, decide_eq_true_eq] at hwants
      exact hwants.1
    have htotal := h.total
    rw [h.remcount] at htotal
    rw [Item.weight, if_pos hentry] at hsum
    dsimp only
    omega
  · rw [eligibleAmount_snoc, eligibleAt_of_eligible hitem heligible]

end Walked

/-- No number is over its bounds, whatever was destroyed. -/
structure Bounded (r : DestroyRequest) (s : DestroyProgress) : Prop where
  remcount : s.remcount ≤ r.count
  counts : ∀ pos it, s.inventory.getItemByPos pos = some it → it.count < 2 ^ 32

/-- Nothing has come up, and there is no more of the entry than before. -/
structure Less (r : DestroyRequest) (inv inv' : Inventory) : Prop where
  shown : ∀ pos, inv.getItemByPos pos = none → inv'.getItemByPos pos = none
  count : inv'.itemCount r.item ≤ inv.itemCount r.item

theorem Less.refl (r : DestroyRequest) (inv : Inventory) : Less r inv inv := ⟨fun _ h => h, Nat.le_refl _⟩

theorem Less.trans {inv inv' inv'' : Inventory} (h : Less r inv inv') (h' : Less r inv' inv'') : Less r inv inv'' :=
  ⟨fun pos hnone => h'.shown pos (h.shown pos hnone), h'.count.trans h.count⟩

theorem less_destroyItem (inv : Inventory) (pos : ItemPos) : Less r inv (inv.destroyItem pos) := by
  constructor
  · intro q hnone
    by_contra hsome
    obtain ⟨it, hit⟩ := Option.ne_none_iff_exists'.mp hsome
    rw [Inventory.getItemByPos_of_destroyItem hit] at hnone
    cases hnone
  · cases hitem : inv.getItemByPos pos with
    | none => simp [Inventory.destroyItem, hitem]
    | some it => exact le_trans (Nat.le_add_right _ _) (Inventory.itemCount_destroyItem_le hitem r.item)

theorem left_eq {c n rem : Nat} (hc : c < 2 ^ 32) (hrem : rem ≤ n) (hover : ¬ (c + rem) % 2 ^ 32 ≤ n) :
    n < c + rem ∧ c + rem < 2 ^ 32 ∧ (c + 2 ^ 32 - n + rem) % 2 ^ 32 = c + rem - n := by
  omega

theorem itemCount_put_same {inv : Inventory} {n : Nat} (hitem : inv.getItemByPos pos = some it)
    (hentry : it.entry = r.item) :
    (inv.put pos (some { it with count := n })).itemCount r.item + it.count = inv.itemCount r.item + n := by
  have hsum := congrArg (fun m => (m.map (Item.weight r.item)).sum)
    (@Inventory.items_put_same inv pos it { it with count := n } hitem rfl)
  simp only [Multiset.map_add, Multiset.map_singleton, Multiset.sum_add, Multiset.sum_singleton,
    ← Inventory.itemCount_eq_sum, Item.weight_count, if_pos hentry] at hsum
  rwa [Item.weight, if_pos hentry] at hsum

theorem entry_of_wants (h : r.wants it = true) : it.entry = r.item := by
  simp only [DestroyRequest.wants, Bool.and_eq_true, decide_eq_true_eq] at h
  exact h.1

theorem less_destroyAt (h : Bounded r s) (pos : ItemPos) :
    Less r s.inventory (pl.destroyAt r s pos).inventory ∧ Bounded r (pl.destroyAt r s pos) := by
  rw [destroyAt, destroyTurn]
  split
  · exact ⟨.refl r _, h⟩
  · cases hitem : s.inventory.getItemByPos pos with
    | none => exact ⟨.refl r _, h⟩
    | some it =>
      dsimp only
      split
      next hwants =>
        split
        next hfits =>
          split
          · exact ⟨.refl r _, h⟩
          · refine ⟨less_destroyItem s.inventory pos, ?_, ?_⟩
            · rwa [Nat.add_comm]
            · exact fun q found hfound => h.counts q found (Inventory.getItemByPos_of_destroyItem hfound)
        next hover =>
          obtain ⟨hless, hsum, hleft⟩ := left_eq (h.counts pos it hitem) h.remcount hover
          have hput := @Inventory.getItemByPos_put_same s.inventory pos it
            { it with count := (it.count + 2 ^ 32 - r.count + s.remcount) % 2 ^ 32 } hitem rfl
          refine ⟨⟨fun q hnone => ?_, ?_⟩, h.remcount, fun q found hfound => ?_⟩
          · have hq : q ≠ pos := by
              rintro rfl
              rw [hitem] at hnone
              cases hnone
            rw [hput, Function.update_of_ne hq, hnone]
          · have hcount := @itemCount_put_same r pos it s.inventory
              ((it.count + 2 ^ 32 - r.count + s.remcount) % 2 ^ 32) hitem (entry_of_wants hwants)
            have hrem := h.remcount
            dsimp only
            rw [hleft] at hcount ⊢
            omega
          · rw [hput] at hfound
            by_cases hq : q = pos
            · rw [hq, Function.update_self] at hfound
              rw [← Option.some.inj hfound]
              exact Nat.mod_lt _ (by decide)
            · rw [Function.update_of_ne hq] at hfound
              exact h.counts q found hfound
      next => exact ⟨.refl r _, h⟩

theorem less_foldl (h : Bounded r s) (slots : List ItemPos) :
    Less r s.inventory (slots.foldl (pl.destroyAt r) s).inventory := by
  induction slots generalizing s with
  | nil => exact .refl r _
  | cons pos slots ih =>
    obtain ⟨hless, hbounded⟩ := @less_destroyAt pl r s h pos
    exact hless.trans (ih hbounded)

theorem foldl_returned (h : s.returned = true) (slots : List ItemPos) : slots.foldl (pl.destroyAt r) s = s := by
  induction slots with
  | nil => rfl
  | cons pos slots ih => rw [List.foldl_cons, destroyAt, destroyTurn, if_pos h, ih]

theorem LooksOn.amount_eq_zero_or (h : pl.LooksOn r before) :
    pl.eligibleAmount r before = 0 ∨ pl.eligibleAmount r before < r.count := by
  refine h.imp_left fun hall => List.sum_eq_zero fun n hn => ?_
  obtain ⟨pos, hpos, rfl⟩ := List.mem_map.mp hn
  exact eligibleAt_of_none (hall pos hpos)

theorem LooksOn.amount_le (h : pl.LooksOn r before) : pl.eligibleAmount r before ≤ r.count := by
  have hcases := h.amount_eq_zero_or
  omega

theorem not_looksOn (hitem : pl.inventory.getItemByPos pos = some it) (heligible : pl.isEligible r pos it = true)
    (h : r.count ≤ pl.eligibleAmount r before + it.count) (behind : List ItemPos) :
    ¬ pl.LooksOn r (before ++ pos :: behind) := by
  rintro (hall | hless)
  · have hnot := hall pos (by simp) it hitem
    rw [heligible] at hnot
    cases hnot
  · rw [eligibleAmount_append, eligibleAmount, eligibleAmount, List.map_cons, List.sum_cons, ← eligibleAmount,
      eligibleAt_of_eligible hitem heligible] at hless
    omega

theorem amount_le_slots (hslots : r.slots = before ++ pos :: after) (hitem : pl.inventory.getItemByPos pos = some it)
    (heligible : pl.isEligible r pos it = true) :
    pl.eligibleAmount r before + it.count ≤ pl.eligibleAmount r r.slots := by
  rw [hslots, eligibleAmount_append, ← eligibleAt_of_eligible hitem heligible]
  refine Nat.add_le_add_left ?_ _
  rw [eligibleAmount, List.map_cons, List.sum_cons]
  exact Nat.le_add_right _ _

namespace Walked

variable (h : Walked pl r before s) (hslots : r.slots = before ++ pos :: after)

include h hslots

theorem shrink (hitem : pl.inventory.getItemByPos pos = some it) (heligible : pl.isEligible r pos it = true)
    (hover : r.count < pl.eligibleAmount r before + it.count) : pl.DestroysExactly r
      (s.inventory.put pos (some { it with count := it.count + pl.eligibleAmount r before - r.count })) := by
  have hnow : s.inventory.getItemByPos pos = some it := (h.shown_next hslots).trans hitem
  have hput := @Inventory.getItemByPos_put_same s.inventory pos it
    { it with count := it.count + pl.eligibleAmount r before - r.count } hnow rfl
  have hentry := entry_of_wants (wants_of_isEligible heligible)
  constructor
  · have hcount := @itemCount_put_same r pos it s.inventory (it.count + pl.eligibleAmount r before - r.count) hnow hentry
    have hall := amount_le_slots hslots hitem heligible
    have htotal := h.total
    have hle := h.looks.amount_le
    rw [h.remcount] at htotal
    rw [min_eq_left (by omega)]
    omega
  · intro q found hfound hnot
    have hq : q ≠ pos := by
      rintro rfl
      rw [hitem] at hfound
      cases hfound
      exact hnot ⟨by rw [hslots]; simp, heligible⟩
    rw [hput, Function.update_of_ne hq, h.shown, if_neg, hfound]
    rintro ⟨hmem, hany⟩
    rw [hfound] at hany
    exact hnot ⟨by rw [hslots]; exact List.mem_append_left _ hmem, hany⟩
  · intro q hnone
    have hq : q ≠ pos := by
      rintro rfl
      rw [hitem] at hnone
      cases hnone
    rw [hput, Function.update_of_ne hq, h.shown, hnone]
    split <;> rfl

theorem not_exactly_of_wrap (hitem : pl.inventory.getItemByPos pos = some it)
    (heligible : pl.isEligible r pos it = true) (hcount : r.count < 2 ^ 32)
    (hover : 2 ^ 32 ≤ pl.eligibleAmount r before + it.count) {inv : Inventory}
    (hless : Less r (s.inventory.destroyItem pos) inv) : ¬ pl.DestroysExactly r inv := by
  intro hexactly
  have hgone := Inventory.itemCount_destroyItem_le ((h.shown_next hslots).trans hitem) r.item
  rw [Item.weight, if_pos (entry_of_wants (wants_of_isEligible heligible))] at hgone
  have htotal := h.total
  have hafter := hexactly.total
  have hmin := min_le_left r.count (pl.eligibleAmount r r.slots)
  have hrest := hless.count
  rw [h.remcount] at htotal
  omega

theorem not_exactly_of_part (hitem : pl.inventory.getItemByPos pos = some it)
    (hnot : ¬ pl.isEligible r pos it = true) {n : Nat} (hn : n ≠ it.count) :
    ¬ pl.DestroysExactly r (s.inventory.put pos (some { it with count := n })) := by
  intro hexactly
  have hkept := hexactly.kept pos it hitem fun hboth => hnot hboth.2
  rw [@Inventory.getItemByPos_put_same s.inventory pos it { it with count := n }
    ((h.shown_next hslots).trans hitem) rfl, Function.update_self] at hkept
  exact hn (congrArg Item.count (Option.some.inj hkept))

end Walked

theorem not_exactly_of_bag (hslots : r.slots = before ++ pos :: after)
    (hfull : ¬ (pl.inventory.cleared r).bagIsEmpty pos = true) {inv inv' : Inventory}
    (hless : Less r (inv.destroyItem pos) inv') : ¬ pl.DestroysExactly r inv' := by
  intro hexactly
  have hbag : pos.isBagPos = true := by
    by_contra hno
    exact hfull (by simp [Inventory.bagIsEmpty, hno])
  obtain ⟨content, hcontent, hsome⟩ : ∃ content ∈ slotsOf pos.slot 0 maxBagSize,
      (pl.inventory.cleared r).getItemByPos content ≠ none := by
    rw [Inventory.bagIsEmpty, hbag, Bool.not_true, Bool.false_or, List.all_eq_true] at hfull
    push Not at hfull
    simpa using hfull
  obtain ⟨-, hinside⟩ := content_mem_of_bagPos hslots hbag hcontent
  rw [Inventory.getItemByPos_cleared] at hsome
  cases hfound : pl.inventory.getItemByPos content with
  | none =>
    rw [hfound] at hsome
    exact absurd rfl hsome
  | some found =>
    have hnot : pl.isEligible r content found = false := by
      rw [hfound] at hsome
      cases hwants : r.wants found with
      | false => rw [isEligible, hwants, Bool.false_and]
      | true => simp [hinside, hwants, Option.filter] at hsome
    have hkept := hexactly.kept content found hfound fun hboth => by simp [hnot] at hboth
    have hnone := hless.shown content
      (Inventory.getItemByPos_destroyItem_inside inv hbag (mem_slotsOf.mp hcontent).1)
    rw [hkept] at hnone
    cases hnone

theorem soundAt_of_zero (hzero : r.count = 0) (hcheck : r.unequipCheck = true)
    (hcounts : ∀ pos it, pl.inventory.getItemByPos pos = some it → it.count < 2 ^ 32)
    (hslots : r.slots = before ++ pos :: after) : pl.SoundAt r before pos := by
  intro it hitem _ hlooks
  have hamount := hlooks.amount_le
  split
  next heligible =>
    refine ⟨?_, fun _ => ?_⟩
    · have hlt := hcounts pos it hitem
      omega
    · by_cases hbag : pos.isBagPos = true
      · obtain ⟨hbyte, hlow, hhigh⟩ := @worn_of_bagPos r pos (by rw [hslots]; simp) hbag
        have hworn : pos.isEquipmentPos = true := by
          simp [ItemPos.isEquipmentPos, hbyte, hlow, hhigh]
        have hok : (pl.withInventory (pl.inventory.cleared r)).canUnequipItem pos false = .ok := by
          simpa [isEligible, hcheck, hworn, wants_of_isEligible heligible] using heligible
        have hout : pos ∉ bagContentSlots inventorySlotBagStart inventorySlotBagEnd := fun hmem =>
          absurd (isEquipmentPos_inside (by decide) hmem) (by simp [hworn])
        have hthere : (pl.inventory.cleared r).getItemByPos pos = some it := by
          rw [Inventory.getItemByPos_cleared, hitem]
          simp only [hout, decide_false, Bool.false_and, Bool.not_false]
          rfl
        exact @bagIsEmpty_of_canUnequipItem (pl.withInventory (pl.inventory.cleared r)) pos it hthere hworn hok
      · simp [Inventory.bagIsEmpty, hbag]
  next => exact .inl hzero

theorem destroyAt_wanted (hgoes : s.returned = false) (hitem : s.inventory.getItemByPos pos = some it)
    (hwants : r.wants it = true) : pl.destroyAt r s pos = if (it.count + s.remcount) % 2 ^ 32 ≤ r.count then
        if (r.unequipCheck && pos.isEquipmentPos) = true ∧
            (pl.withInventory s.inventory).canUnequipItem pos false ≠ .ok then s
        else ⟨s.inventory.destroyItem pos, (s.remcount + it.count) % 2 ^ 32,
          r.count ≤ (s.remcount + it.count) % 2 ^ 32⟩
      else ⟨s.inventory.put pos (some { it with count := (it.count + 2 ^ 32 - r.count + s.remcount) % 2 ^ 32 }),
        s.remcount, true⟩ := by
  rw [destroyAt, destroyTurn, if_neg (by simp [hgoes]), hitem]
  dsimp only
  rw [if_pos hwants]
  simp only [Bool.and_eq_true, decide_eq_true_eq]

theorem destroyAt_unwanted (h : ∀ it, s.inventory.getItemByPos pos = some it → r.wants it = false) :
    pl.destroyAt r s pos = s := by
  rw [destroyAt, destroyTurn]
  split
  · rfl
  · cases hitem : s.inventory.getItemByPos pos with
    | none => rfl
    | some it => simp [h it hitem]

theorem soundly_cons : (∀ mid p behind, pos :: after = mid ++ p :: behind → pl.SoundAt r (before ++ mid) p) ↔
    pl.SoundAt r before pos ∧ ∀ mid p behind, after = mid ++ p :: behind → pl.SoundAt r (before ++ [pos] ++ mid) p := by
  constructor
  · intro h
    refine ⟨by simpa using h [] pos after rfl, fun mid p behind heq => ?_⟩
    rw [List.append_assoc, List.singleton_append]
    exact h (pos :: mid) p behind (by rw [heq, List.cons_append])
  · rintro ⟨hhere, hrest⟩ mid p behind heq
    cases mid with
    | nil =>
      obtain ⟨rfl, -⟩ := List.cons.inj heq
      rwa [List.append_nil]
    | cons first mid =>
      obtain ⟨rfl, htail⟩ := List.cons.inj heq
      have h := hrest mid p behind htail
      rwa [List.append_assoc, List.singleton_append] at h

theorem soundly_behind (hitem : pl.inventory.getItemByPos pos = some it) (heligible : pl.isEligible r pos it = true)
    (henough : r.count ≤ pl.eligibleAmount r before + it.count) :
    ∀ mid p behind, after = mid ++ p :: behind → pl.SoundAt r (before ++ [pos] ++ mid) p := by
  intro mid p behind _ found _ _ hlooks
  rw [List.append_assoc, List.singleton_append] at hlooks
  exact absurd hlooks (not_looksOn hitem heligible henough mid)

theorem soundAt_iff (hitem : pl.inventory.getItemByPos pos = some it) (hwants : r.wants it = true)
    (hlooks : pl.LooksOn r before) : pl.SoundAt r before pos ↔ if pl.isEligible r pos it then
        pl.eligibleAmount r before + it.count < 2 ^ 32 ∧
          (pl.eligibleAmount r before + it.count ≤ r.count → (pl.inventory.cleared r).bagIsEmpty pos = true)
      else r.count = 0 ∨ pl.eligibleAmount r before + it.count ≤ r.count ∨
          2 ^ 32 ≤ pl.eligibleAmount r before + it.count := by
  constructor
  · exact fun h => h it hitem hwants hlooks
  · intro h found hfound _ _
    obtain rfl := Option.some.inj (hitem.symm.trans hfound)
    exact h

theorem Walked.bounded (h : Walked pl r before s)
    (hcounts : ∀ pos it, pl.inventory.getItemByPos pos = some it → it.count < 2 ^ 32) : Bounded r s := by
  refine ⟨h.remcount ▸ h.looks.amount_le, fun pos it hitem => ?_⟩
  rw [h.shown] at hitem
  split at hitem
  · cases hitem
  · exact hcounts pos it hitem

/-- How a turn ends: the loops go on, or all is done, or something has gone wrong for good. -/
inductive Turned (pl : Player) (r : DestroyRequest) (before : List ItemPos) (pos : ItemPos) (after : List ItemPos)
    (s : DestroyProgress) : Prop
  | on (hsound : pl.SoundAt r before pos) (h : Walked pl r (before ++ [pos]) s)
  | done (hsound : pl.SoundAt r before pos) (hreturned : s.returned = true)
      (hexactly : pl.DestroysExactly r s.inventory)
      (hrest : ∀ mid p behind, after = mid ++ p :: behind → pl.SoundAt r (before ++ [pos] ++ mid) p)
  | spoilt (hnot : ¬ pl.SoundAt r before pos)
      (hspoilt : ¬ pl.DestroysExactly r (after.foldl (pl.destroyAt r) s).inventory)

namespace Walked

variable (h : Walked pl r before s) (hslots : r.slots = before ++ pos :: after) (hcount : r.count < 2 ^ 32)
  (hcounts : ∀ pos it, pl.inventory.getItemByPos pos = some it → it.count < 2 ^ 32)

include h hslots

theorem turned_unwanted (hnone : ∀ it, pl.inventory.getItemByPos pos = some it → r.wants it = false) :
    Turned pl r before pos after (pl.destroyAt r s pos) := by
  have hnow : s.inventory.getItemByPos pos = pl.inventory.getItemByPos pos := h.shown_next hslots
  rw [destroyAt_unwanted fun it hitem => hnone it (hnow ▸ hitem)]
  refine .on (fun it hitem hwants => ?_) (h.pass hslots fun it hitem => ?_)
  · rw [hnone it hitem] at hwants
    cases hwants
  · rw [isEligible, hnone it hitem, Bool.false_and]

include hcount hcounts

theorem turned_eligible (hitem : pl.inventory.getItemByPos pos = some it) (heligible : pl.isEligible r pos it = true) :
    Turned pl r before pos after (pl.destroyAt r s pos) := by
  have hwants := wants_of_isEligible heligible
  have hturn := @destroyAt_wanted pl r pos it s h.unreturned ((h.shown_next hslots).trans hitem) hwants
  have hsound := soundAt_iff hitem hwants h.looks
  have hbehind : r.slots = (before ++ [pos]) ++ after := by rw [hslots, List.append_assoc, List.singleton_append]
  have hle := h.looks.amount_le
  have hsmall := hcounts pos it hitem
  have hrest : Less r (pl.destroyAt r s pos).inventory
      (after.foldl (pl.destroyAt r) (pl.destroyAt r s pos)).inventory :=
    less_foldl (less_destroyAt (h.bounded hcounts) pos).2 after
  rw [if_neg ((h.isEligible_next hslots hitem hwants).mp heligible), h.remcount, Nat.add_comm it.count] at hturn
  rw [if_pos heligible] at hsound
  by_cases hsum : pl.eligibleAmount r before + it.count < 2 ^ 32
  · rw [Nat.mod_eq_of_lt hsum] at hturn
    by_cases hfits : pl.eligibleAmount r before + it.count ≤ r.count
    · rw [if_pos hfits] at hturn
      rw [hturn] at hrest
      by_cases hempty : (pl.inventory.cleared r).bagIsEmpty pos = true
      · have hhere := hsound.mpr ⟨hsum, fun _ => hempty⟩
        have htaken := h.take hslots hitem heligible hempty
          (r.count ≤ pl.eligibleAmount r before + it.count : Bool)
        rw [hturn]
        by_cases hdone : r.count ≤ pl.eligibleAmount r before + it.count
        · have hall := amount_le_slots hslots hitem heligible
          exact .done hhere (decide_eq_true hdone) (htaken.exactly hbehind (by dsimp only; omega))
            (soundly_behind hitem heligible hdone)
        · refine .on hhere ⟨htaken, .inr ?_, decide_eq_false hdone⟩
          rw [eligibleAmount_snoc, eligibleAt_of_eligible hitem heligible]
          omega
      · rw [hturn]
        exact .spoilt (fun hboth => hempty ((hsound.mp hboth).2 hfits)) (not_exactly_of_bag hslots hempty hrest)
    · have hleft : (it.count + 2 ^ 32 - r.count + pl.eligibleAmount r before) % 2 ^ 32 =
          it.count + pl.eligibleAmount r before - r.count := by
        omega
      rw [if_neg hfits, hleft] at hturn
      rw [hturn]
      exact .done (hsound.mpr ⟨hsum, fun hless => absurd hless hfits⟩) rfl
        (h.shrink hslots hitem heligible (by omega)) (soundly_behind hitem heligible (by omega))
  · rw [if_pos (by omega)] at hturn
    rw [hturn] at hrest ⊢
    exact .spoilt (fun hboth => hsum (hsound.mp hboth).1)
      (h.not_exactly_of_wrap hslots hitem heligible hcount (by omega) hrest)

theorem turned_ineligible (hitem : pl.inventory.getItemByPos pos = some it) (hwants : r.wants it = true)
    (hnot : ¬ pl.isEligible r pos it = true) : Turned pl r before pos after (pl.destroyAt r s pos) := by
  have hnow := (h.shown_next hslots).trans hitem
  have hturn := @destroyAt_wanted pl r pos it s h.unreturned hnow hwants
  have hsound := soundAt_iff hitem hwants h.looks
  have hbehind : r.slots = (before ++ [pos]) ++ after := by rw [hslots, List.append_assoc, List.singleton_append]
  have hle := h.looks.amount_le
  have hsmall := hcounts pos it hitem
  have hchecked := not_not.mp (mt (h.isEligible_next hslots hitem hwants).mpr hnot)
  rw [if_pos hchecked, h.remcount, Nat.add_comm it.count] at hturn
  rw [if_neg hnot] at hsound
  by_cases hfits : (pl.eligibleAmount r before + it.count) % 2 ^ 32 ≤ r.count
  · rw [if_pos hfits] at hturn
    rw [hturn]
    refine .on (hsound.mpr ?_) (h.pass hslots fun found hfound => ?_)
    · omega
    · obtain rfl := Option.some.inj (hitem.symm.trans hfound)
      simpa using hnot
  · have hleft : (it.count + 2 ^ 32 - r.count + pl.eligibleAmount r before) % 2 ^ 32 =
        it.count + pl.eligibleAmount r before - r.count := by
      omega
    rw [if_neg hfits, hleft] at hturn
    rw [hturn]
    by_cases hzero : r.count = 0
    · have hsame : it.count + pl.eligibleAmount r before - r.count = it.count := by omega
      have hput : s.inventory.put pos (some it) = s.inventory := by
        rw [Inventory.put, ← (Inventory.getItemByPos_eq_some hnow).2, Function.update_eq_self]
      have hcheck : r.unequipCheck = true := (Bool.and_eq_true_iff.mp hchecked.1).1
      rw [hsame]
      refine .done (hsound.mpr (.inl hzero)) rfl ?_ fun mid p behind heq => ?_
      · change pl.DestroysExactly r (s.inventory.put pos (some it))
        rw [hput]
        exact h.exactly hslots (by rw [h.remcount]; omega)
      · have hplace : r.slots = before ++ [pos] ++ mid ++ p :: behind := by
          rw [hbehind, heq]
          exact (List.append_assoc _ _ _).symm
        exact soundAt_of_zero hzero hcheck hcounts hplace
    · refine .spoilt (fun hhere => ?_) ?_
      · have hcases := hsound.mp hhere
        omega
      · have hamount := h.looks.amount_eq_zero_or
        rw [foldl_returned rfl]
        exact h.not_exactly_of_part hslots hitem hnot (by omega)

end Walked

theorem exactly_iff (hcount : r.count < 2 ^ 32)
    (hcounts : ∀ pos it, pl.inventory.getItemByPos pos = some it → it.count < 2 ^ 32) (h : Walked pl r before s)
    (hslots : r.slots = before ++ after) : pl.DestroysExactly r (after.foldl (pl.destroyAt r) s).inventory ↔
      ∀ mid p behind, after = mid ++ p :: behind → pl.SoundAt r (before ++ mid) p := by
  induction after generalizing before s with
  | nil =>
    constructor
    · intro _ mid p behind heq
      simp at heq
    · intro _
      refine h.exactly hslots ?_
      rw [List.append_nil] at hslots
      rw [h.remcount, hslots, min_eq_right h.looks.amount_le]
  | cons pos after ih =>
    have hturned : Turned pl r before pos after (pl.destroyAt r s pos) := by
      by_cases hany : ∃ it, pl.inventory.getItemByPos pos = some it ∧ r.wants it = true
      · obtain ⟨it, hitem, hwants⟩ := hany
        by_cases heligible : pl.isEligible r pos it = true
        · exact h.turned_eligible hslots hcount hcounts hitem heligible
        · exact h.turned_ineligible hslots hcount hcounts hitem hwants heligible
      · push Not at hany
        exact h.turned_unwanted hslots fun it hitem => by simpa using hany it hitem
    rw [List.foldl_cons, soundly_cons]
    cases hturned with
    | on hsound hnext =>
      rw [ih hnext (by rw [hslots, List.append_assoc, List.singleton_append])]
      exact ⟨fun hrest => ⟨hsound, hrest⟩, fun hboth => hboth.2⟩
    | done hsound hreturned hexactly hrest =>
      rw [foldl_returned hreturned]
      exact ⟨fun _ => ⟨hsound, hrest⟩, fun _ => hexactly⟩
    | spoilt hnot hspoilt => exact ⟨fun hexactly => absurd hexactly hspoilt, fun hboth => absurd hboth.1 hnot⟩

end Player

/-- As much of the entry goes as was asked for, or all there is that may, and nothing else changes, if and only
if no stack is met that it goes wrong at. -/
theorem destroyItemCount_exact_iff (pl : Player) (r : DestroyRequest) (hcount : r.count < 2 ^ 32)
    (hcounts : ∀ pos it, pl.inventory.getItemByPos pos = some it → it.count < 2 ^ 32) :
    pl.DestroysExactly r (pl.destroyItemCount r) ↔ pl.DestroysSoundly r := by
  have hstart : pl.Walked r [] ⟨pl.inventory, 0, false⟩ := by
    refine ⟨⟨fun pos => ?_, rfl, rfl⟩, .inl (by simp), rfl⟩
    rw [if_neg fun hboth => absurd hboth.1 List.not_mem_nil]
  rw [Player.destroyItemCount_eq]
  exact Player.exactly_iff hcount hcounts hstart rfl

theorem Player.destroysSoundly_of_unchecked {pl : Player} {r : DestroyRequest} (hcheck : r.unequipCheck = false)
    (hplain : ∀ pos it, pl.inventory.getItemByPos pos = some it → r.wants it = true → it.isBag = false)
    (hsum : ∀ pos it, pl.inventory.getItemByPos pos = some it → r.count + it.count < 2 ^ 32) :
    pl.DestroysSoundly r := by
  intro before pos after _ it hitem hwants hlooks
  have hle := hlooks.amount_le
  have hsmall := hsum pos it hitem
  rw [if_pos (isEligible_of_not_worn hwants (by rw [hcheck, Bool.false_and]))]
  refine ⟨by omega, fun _ => ?_⟩
  by_cases hinside : pos ∈ bagContentSlots inventorySlotBagStart inventorySlotBagEnd
  · have hbag : pos.isBagPos = false := by
      have hbyte := (mem_bagContentSlots.mp hinside).2.1
      have hne : pos.bag ≠ inventorySlotBag0 := by
        unfold inventorySlotBagEnd at hbyte
        unfold inventorySlotBag0
        omega
      simp [ItemPos.isBagPos, hne]
    simp [Inventory.bagIsEmpty, hbag]
  · have hthere : (pl.inventory.cleared r).getItemByPos pos = some it := by
      rw [Inventory.getItemByPos_cleared, hitem]
      simp only [hinside, decide_false, Bool.false_and, Bool.not_false]
      rfl
    exact Inventory.bagIsEmpty_of_not_isBag hthere (hplain pos it hitem hwants)

/-! Seven of two stacks of cloth are destroyed: the first stack, and two of the second. -/

private def clothOwner : Player where
  guid := 7
  account := 1
  money := 0
  inventory := ⟨fun pos =>
    if pos = ⟨inventorySlotBag0, 23⟩ then some { guid := 101, proto := .clothLike 2589, count := 5, ownerGuid := 7 }
    else if pos = ⟨inventorySlotBag0, 24⟩ then
      some { guid := 102, proto := .clothLike 2589, count := 8, ownerGuid := 7 }
    else none⟩

theorem destroyItemCount_exact_cloth :
    clothOwner.DestroysExactly ⟨2589, 7, false, false⟩ (clothOwner.destroyItemCount ⟨2589, 7, false, false⟩) := by
  have hstack : ∀ pos it, clothOwner.inventory.getItemByPos pos = some it → it.isBag = false ∧ it.count ≤ 8 := by
    intro pos it hitem
    have hslot := (Inventory.getItemByPos_eq_some hitem).2
    simp only [clothOwner] at hslot
    split at hslot
    next =>
      cases hslot
      decide
    next =>
      split at hslot
      next =>
        cases hslot
        decide
      next => cases hslot
  refine (destroyItemCount_exact_iff clothOwner ⟨2589, 7, false, false⟩ (by decide) fun pos it hitem => ?_).mpr
    (Player.destroysSoundly_of_unchecked rfl (fun pos it hitem _ => (hstack pos it hitem).1) fun pos it hitem => ?_)
  · have hsmall := (hstack pos it hitem).2
    omega
  · have hsmall := (hstack pos it hitem).2
    dsimp only
    omega

/-! A player who logs out has a stack of throwing knives in hand. -/

private def knives : Item where
  guid := 103
  proto := { ItemPrototype.inBulk 2947 with itemClass := .weapon, inventoryType := 25 }
  count := 200
  ownerGuid := 7

private def rangedPos : ItemPos := ⟨inventorySlotBag0, 17⟩

private def knifeThrower : Player where
  guid := 7
  account := 1
  money := 0
  logingOut := true
  inventory := ⟨fun pos => if pos = rangedPos then some knives else none⟩

/-- The knives can not be unequipped, and yet one of them is destroyed. -/
theorem destroyItemCount_takes_worn : knifeThrower.canUnequipItem rangedPos false = .youAreStunned ∧
      knifeThrower.isEligible ⟨2947, 1, true, false⟩ rangedPos knives = false ∧
      (knifeThrower.destroyItemCount ⟨2947, 1, true, false⟩).getItemByPos rangedPos =
        some { knives with count := 199 } ∧ ¬ knifeThrower.DestroysExactly ⟨2947, 1, true, false⟩
        (knifeThrower.destroyItemCount ⟨2947, 1, true, false⟩) := by
  have hstays : knifeThrower.isEligible ⟨2947, 1, true, false⟩ rangedPos knives = false := by decide +kernel
  have hleft : (knifeThrower.destroyItemCount ⟨2947, 1, true, false⟩).getItemByPos rangedPos =
      some { knives with count := 199 } := by
    decide +kernel
  refine ⟨by decide +kernel, hstays, hleft, fun hexactly => ?_⟩
  have hkept := hexactly.kept rangedPos knives (by decide +kernel) fun hboth => by simp [hstays] at hboth
  rw [hleft] at hkept
  exact absurd hkept (by decide)

end Mangos
