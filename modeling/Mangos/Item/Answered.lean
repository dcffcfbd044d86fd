import Mangos.Item.Places

/-!
# What `_CanStoreItem` answers

For every place asked for, swapped or not: the places found are different ones and hold what is
put there, an acceptance places all of it, and a refusal reports what the places found do not hold.
-/

namespace Mangos

open Framework

namespace StoreQuery

variable {q : StoreQuery} {inv : Inventory} {proto : ItemPrototype} {start : List ItemPosCount}
  {total noSimilarCount : Nat} {stages : List (Filling ItemPos → StageResult)}

/-- A slot where a free place is looked for: one of the backpack, one of a worn bag that takes the
item, or the one of the character himself that was asked for. -/
def AcceptsAt (q : StoreQuery) (inv : Inventory) (proto : ItemPrototype) (pos : ItemPos) : Prop :=
  pos ∈ slotsOf inventorySlotBag0 inventorySlotItemStart inventorySlotItemEnd ∨
    (q.OwnSlot ∧ pos = ⟨q.bag, q.slot⟩) ∨ ∃ bag, inv.getItemByPos ⟨inventorySlotBag0, pos.bag⟩ = some bag ∧
      pos.slot < bag.proto.containerSlots ∧ itemCanGoIntoBag proto bag.proto

abbrev IsNamed (q : StoreQuery) : Prop := q.bag ≠ nullBag ∧ q.slot ≠ nullSlot

def seenAt (q : StoreQuery) (inv : Inventory) (pos : ItemPos) : Option Item :=
  if q.swap ∧ q.IsNamed ∧ pos = ⟨q.bag, q.slot⟩ then none else q.itemAt inv pos

/-- A piece of `n` fits at a position: a free slot accepts it, or a stack of the same item has room
for it. -/
def HoldsAt (q : StoreQuery) (inv : Inventory) (proto : ItemPrototype) (pos : ItemPos) (n : Nat) :
    Prop :=
  match q.seenAt inv pos with
  | none => q.AcceptsAt inv proto pos ∧ n ≤ proto.getMaxStackSize
  | some it => it.entry = proto.itemId ∧ it.count + n ≤ proto.getMaxStackSize

private def Tried (q : StoreQuery) (inv : Inventory) (proto : ItemPrototype) (pos : ItemPos) : Prop :=
  (q.itemAt inv pos).isSome ∨ q.AcceptsAt inv proto pos

private theorem holdsAt_of_tried {pos : ItemPos} {n : Nat}
    (hswap : ¬ (q.swap ∧ q.IsNamed ∧ pos = ⟨q.bag, q.slot⟩) ∨ q.itemAt inv pos = none)
    (h : q.Tried inv proto pos ∧ q.TakesAt inv proto pos n) : q.HoldsAt inv proto pos n := by
  have hseen : q.seenAt inv pos = q.itemAt inv pos := by
    unfold seenAt
    rcases hswap with hother | hnone
    · rw [if_neg hother]
    · rw [hnone, ite_self]
  obtain ⟨htried, htakes⟩ := h
  unfold HoldsAt
  unfold TakesAt at htakes
  rw [hseen]
  cases hat : q.itemAt inv pos with
  | none =>
    simp only [hat] at htakes
    rcases htried with hsome | haccepts
    · simp [hat] at hsome
    · exact ⟨haccepts, htakes⟩
  | some it =>
    simp only [hat] at htakes
    exact htakes

private theorem acceptsAt_bag {bag : Nat} {pBag : Item} {pos : ItemPos}
    (hworn : inv.getItemByPos ⟨inventorySlotBag0, bag⟩ = some pBag)
    (hfits : itemCanGoIntoBag proto pBag.proto) (hpos : pos ∈ slotsOf bag 0 pBag.getBagSize) :
    q.AcceptsAt inv proto pos := by
  obtain ⟨rfl, -, hslot⟩ := mem_slotsOf.mp hpos
  refine .inr (.inr ⟨pBag, hworn, ?_, hfits⟩)
  unfold Item.getBagSize at hslot
  split at hslot
  · exact hslot
  · exact absurd hslot (Nat.not_lt_zero _)

private theorem inBag_tries {bag : Nat} {merge nonSpecialized : Bool} {skipBag : Nat} :
    q.Keeps inv proto (q.Tried inv proto) (q.inBag inv proto bag merge nonSpecialized skipBag) :=
  inBag_keeps fun _ hworn _ hfits _ hpos => .inr (acceptsAt_bag hworn hfits hpos)

private theorem inInventorySlots_tries (merge : Bool) :
    q.Keeps inv proto (q.Tried inv proto) (q.inInventorySlots inv proto merge) :=
  inInventorySlots_keeps merge fun _ hpos => .inr (.inl hpos)

private theorem anywhereStages_try :
    ∀ stage ∈ q.anywhereStages inv proto, q.Keeps inv proto (q.Tried inv proto) stage :=
  anywhereStages_keeps (fun _ hpos => .inr (.inl hpos))
    fun _ _ _ hworn _ hfits _ hpos => .inr (acceptsAt_bag hworn hfits hpos)

private theorem inSpecificSlot_tries (hfree : q.swap = false ∨ q.itemAt inv ⟨q.bag, q.slot⟩ = none) :
    q.Keeps inv proto (q.Tried inv proto) (q.inSpecificSlot inv proto) := by
  refine inSpecificSlot_keeps hfree fun hthere => ?_
  rcases hthere with hsome | hown | ⟨bag, hworn, hsize, hfits⟩
  · exact .inl hsome
  · exact .inr (.inr (.inl ⟨hown, rfl⟩))
  · exact .inr (.inr (.inr ⟨bag, hworn, hsize, hfits⟩))

private theorem stages_eq : ∃ stages, q.namedStages inv proto ++ q.anywhereStages inv proto =
      (if q.IsNamed then [q.inSpecificSlot inv proto] else []) ++ stages ∧
      ∀ stage ∈ stages, q.Keeps inv proto (q.Tried inv proto) stage := by
  obtain ⟨stages, heq, hstages⟩ := @namedStages_eq q inv proto
  refine ⟨stages ++ q.anywhereStages inv proto, by rw [heq, List.append_assoc], ?_⟩
  intro stage hstage
  rcases List.mem_append.mp hstage with hmem | hmem
  · obtain ⟨-, ⟨-, merge, rfl⟩ | ⟨-, merge, rfl⟩⟩ := hstages stage hmem
    · exact inInventorySlots_tries merge
    · exact inNamedBag_keeps fun _ => inBag_tries
  · exact anywhereStages_try stage hmem

/-- How a search for `total` ends that began with the places `start`: `left` is what has no place. -/
private structure Ends (q : StoreQuery) (inv : Inventory) (proto : ItemPrototype)
    (start : List ItemPosCount) (total noSimilarCount : Nat) (answer : StoreAnswer) (left : Nat) :
    Prop where
  sound : Filling.Sound (q.HoldsAt inv proto) start total ⟨answer.dest, left⟩
  all : answer.result = .ok → left = 0 ∧ noSimilarCount = 0
  rest : total + noSimilarCount < 2 ^ 32 → answer.result ≠ .ok →
    answer.result ≠ .nonemptyBagOverOtherBag → answer.noSpaceCount = left + noSimilarCount

private theorem runStages_ends {f : Filling ItemPos}
    (hstages : ∀ stage ∈ stages, q.Keeps inv proto (q.Tried inv proto) stage)
    (hexplain : ∀ stage ∈ stages, Explains stage) (hf : f.Sound (q.HoldsAt inv proto) start total) (hleft : 0 < f.left)
    (hdone : ¬ (q.swap ∧ q.IsNamed) ∨ q.itemAt inv ⟨q.bag, q.slot⟩ = none ∨ ⟨q.bag, q.slot⟩ ∈ f.dest.map (·.pos)) :
    ∃ left, q.Ends inv proto start total noSimilarCount (runStages noSimilarCount stages f) left := by
  have hbegin := Filling.Sound.refl
    (fun pos n => q.Tried inv proto pos ∧ q.TakesAt inv proto pos n) hf.distinct f.left
  obtain ⟨left, hsound, hall, hreport⟩ := @StoreQuery.runStages_keeps q inv proto
    (q.Tried inv proto) f.dest f.left f noSimilarCount stages hstages hbegin hleft
  have hholds := hsound.imp fun p hp htakes => by
    refine holdsAt_of_tried ?_ htakes
    rcases hdone with hswap | hnone | hmem
    · exact .inl fun h => hswap ⟨h.1, h.2.1⟩
    · by_cases hpos : p.pos = ⟨q.bag, q.slot⟩
      · exact .inr (hpos ▸ hnone)
      · exact .inl fun h => hpos h.2.2
    · exact .inl fun h => hsound.notMem_start hp (h.2.2 ▸ hmem)
  have hle : f.left ≤ total := by
    have htotal := hf.total
    omega
  exact ⟨left, hf.trans hholds, hall, fun hwords => hreport hexplain (by omega)⟩

private theorem inSpecificSlot_swap (hswap : q.swap = true) (f : Filling ItemPos) :
    (∃ res, res ≠ .ok ∧ q.inSpecificSlot inv proto f = .refused res true) ∨
      q.AcceptsAt inv proto ⟨q.bag, q.slot⟩ ∧ q.inSpecificSlot inv proto f =
        if f.dest.any (·.pos = ⟨q.bag, q.slot⟩) then .placed f
        else .placed (f.push ⟨q.bag, q.slot⟩ proto.getMaxStackSize) := by
  unfold inSpecificSlot
  cases hat : q.itemAt inv ⟨q.bag, q.slot⟩
  all_goals
    simp only [hat, hswap]
    by_cases hback : q.bag = inventorySlotBag0
    · rw [if_pos hback]
      by_cases hbuyback : ((buybackSlotStart ≤ q.slot && q.slot < buybackSlotEnd) ||
          playerSlotEnd ≤ q.slot) = true
      · rw [if_pos hbuyback]
        exact .inl ⟨_, by decide, rfl⟩
      · rw [if_neg hbuyback]
        exact .inr ⟨.inr (.inl ⟨ownSlot_of_not_buyback hback hbuyback, rfl⟩), rfl⟩
    · rw [if_neg hback]
      cases hworn : inv.getItemByPos ⟨inventorySlotBag0, q.bag⟩ with
      | none => exact .inl ⟨_, by decide, rfl⟩
      | some bag =>
        dsimp only
        by_cases hsize : bag.proto.containerSlots ≤ q.slot
        · rw [if_pos hsize]
          exact .inl ⟨_, by decide, rfl⟩
        by_cases hfits : (!itemCanGoIntoBag proto bag.proto) = true
        · rw [if_neg hsize, if_pos hfits]
          exact .inl ⟨_, by decide, rfl⟩
        rw [if_neg hsize, if_neg hfits]
        exact .inr ⟨.inr (.inr ⟨bag, hworn, Nat.lt_of_not_le hsize, by simpa using hfits⟩), rfl⟩

private theorem runStages_ends_swap (hswap : q.swap = true) (hnamed : q.IsNamed)
    (hstages : ∀ stage ∈ stages, q.Keeps inv proto (q.Tried inv proto) stage)
    (hexplain : ∀ stage ∈ stages, Explains stage) (hstart : (start.map (·.pos)).Nodup)
    (htotal : 0 < total) : ∃ left, q.Ends inv proto start total noSimilarCount
      (runStages noSimilarCount (q.inSpecificSlot inv proto :: stages) ⟨start, total⟩) left := by
  have hbegin := Filling.Sound.refl (q.HoldsAt inv proto) hstart total
  have hdone : ∀ f : Filling ItemPos, f.Sound (q.HoldsAt inv proto) start total →
      ⟨q.bag, q.slot⟩ ∈ f.dest.map (·.pos) → q.inSpecificSlot inv proto ⟨start, total⟩ = .placed f →
      ∃ left, q.Ends inv proto start total noSimilarCount
        (runStages noSimilarCount (q.inSpecificSlot inv proto :: stages) ⟨start, total⟩) left := by
    intro f hf hmem hplaced
    rw [runStages, hplaced]
    dsimp only
    by_cases hnone : f.left = 0
    · rw [if_pos hnone]
      by_cases hsimilar : noSimilarCount = 0
      · rw [if_pos hsimilar]
        exact ⟨f.left, hf, fun _ => ⟨hnone, hsimilar⟩, fun _ hno => absurd rfl hno⟩
      · rw [if_neg hsimilar]
        refine ⟨f.left, hf, fun hok => ?_, fun _ _ _ => by rw [hnone, Nat.zero_add]⟩
        cases hok
    · rw [if_neg hnone]
      exact runStages_ends hstages hexplain hf (Nat.pos_of_ne_zero hnone) (.inr (.inr hmem))
  rcases @inSpecificSlot_swap q inv proto hswap ⟨start, total⟩ with
    ⟨res, hres, hrefused⟩ | ⟨haccepts, hplaced⟩
  · rw [runStages, hrefused]
    exact ⟨total, hbegin, fun hok => absurd hok hres, fun hwords _ _ => Nat.mod_eq_of_lt hwords⟩
  by_cases hthere : start.any (·.pos = ⟨q.bag, q.slot⟩)
  · rw [if_pos hthere] at hplaced
    refine hdone _ hbegin ?_ hplaced
    simpa using hthere
  · rw [if_neg hthere] at hplaced
    refine hdone _ (hbegin.push htotal (by simpa using hthere) proto.getMaxStackSize_pos ?_) ?_
      hplaced
    · intro n _ hn
      have hseen : q.seenAt inv ⟨q.bag, q.slot⟩ = none := if_pos ⟨hswap, hnamed, rfl⟩
      unfold HoldsAt
      rw [hseen]
      exact ⟨haccepts, hn⟩
    · simp [Filling.push]

private theorem ends (hstart : (start.map (·.pos)).Nodup) (htotal : 0 < total) :
    ∃ left, q.Ends inv proto start total noSimilarCount
      (runStages noSimilarCount (q.namedStages inv proto ++ q.anywhereStages inv proto) ⟨start, total⟩) left := by
  obtain ⟨stages, heq, hstages⟩ := @stages_eq q inv proto
  have hexplain := @stages_explain q inv proto
  have hbegin := Filling.Sound.refl (q.HoldsAt inv proto) hstart total
  rw [heq] at hexplain ⊢
  by_cases hnamed : q.IsNamed
  · rw [if_pos hnamed] at hexplain ⊢
    by_cases hfree : q.swap = false ∨ q.itemAt inv ⟨q.bag, q.slot⟩ = none
    · refine runStages_ends (fun stage hstage => ?_) hexplain hbegin htotal ?_
      · rcases List.mem_cons.mp hstage with rfl | hmem
        · exact inSpecificSlot_tries hfree
        · exact hstages stage hmem
      · rcases hfree with hswap | hnone
        · exact .inl fun h => by simp [hswap] at h
        · exact .inr (.inl hnone)
    · have hswap : q.swap = true := by
        by_contra hno
        exact hfree (.inl (by simpa using hno))
      exact runStages_ends_swap hswap hnamed hstages
        (fun stage hstage => hexplain stage (List.mem_cons_of_mem _ hstage)) hstart htotal
  · rw [if_neg hnamed] at hexplain ⊢
    exact runStages_ends hstages hexplain hbegin htotal (.inl fun h => hnamed h.2)

end StoreQuery

/-- No more of a kind of items is there than its unique limits allow. -/
structure Inventory.WithinLimits (inv : Inventory) (proto : ItemPrototype) (pItem : Option Item) :
    Prop where
  unique : 0 < proto.maxCount → inv.getItemCount proto.itemId true pItem ≤ proto.maxCount.toNat
  category : ∀ limitEntry, proto.limitEntry = some limitEntry → limitEntry.mode = .have →
    inv.getItemCountWithLimitCategory proto.itemLimitCategory pItem ≤ limitEntry.maxCount

private theorem Inventory.WithinLimits.similar_le {inv : Inventory} {proto : ItemPrototype}
    {pItem : Option Item} (h : inv.WithinLimits proto pItem) {count : Nat}
    (hcount : count < 2 ^ 32) : (inv.canTakeMoreSimilarItems proto count pItem).2 ≤ count := by
  have hle : ∀ held limit, held ≤ limit → (held + count) % 2 ^ 32 - limit ≤ count := by
    intro held limit hheld
    have hmod := Nat.mod_le (held + count) (2 ^ 32)
    omega
  unfold canTakeMoreSimilarItems
  dsimp only
  split
  next hunique => exact hle _ _ (h.unique hunique.1)
  split
  · exact Nat.zero_le _
  split
  · exact le_rfl
  next limitEntry hentry =>
    split
    next hover =>
      simp only [Bool.and_eq_true, decide_eq_true_eq] at hover
      exact hle _ _ (h.category limitEntry hentry hover.1)
    · exact Nat.zero_le _

/-- What a call of `_CanStoreItem` that began with the places `start` answers. -/
structure StoreQuery.Answered (q : StoreQuery) (tables : ItemTables) (inv : Inventory)
    (start : List ItemPosCount) (answer : StoreAnswer) : Prop where
  kept : start <+: answer.dest
  distinct : (answer.dest.map (·.pos)).Nodup
  admitted : ∀ p ∈ addedTo start answer.dest, 0 < p.count ∧
    ∃ proto, tables.prototype q.entry = some proto ∧ q.HoldsAt inv proto p.pos p.count
  total : answer.result = .ok → placed (addedTo start answer.dest) = q.count
  noSpace : answer.result ≠ .ok → answer.result ≠ .nonemptyBagOverOtherBag → q.count < 2 ^ 32 →
    (∀ proto, tables.prototype q.entry = some proto → inv.WithinLimits proto q.pItem) →
    answer.noSpaceCount + placed (addedTo start answer.dest) = q.count

private theorem StoreQuery.Answered.refused {q : StoreQuery} {tables : ItemTables} {inv : Inventory}
    {start : List ItemPosCount} (hstart : (start.map (·.pos)).Nodup) {res : InventoryResult}
    (hres : res ≠ .ok) : q.Answered tables inv start ⟨res, start, q.count⟩ :=
  ⟨List.prefix_rfl, hstart, by simp, fun hok => absurd hok hres, by simp⟩

/-- Whatever is asked of it, `_CanStoreItem` answers with places that hold what it puts there. -/
theorem Player.canStoreItem_answered (tables : ItemTables) (accounts : Accounts) (pl : Player)
    (q : StoreQuery) (start : List ItemPosCount) (hcount : 0 < q.count) (hstart : (start.map (·.pos)).Nodup) :
    q.Answered tables pl.inventory start (pl.canStoreItem tables accounts q start) := by
  cases hproto : tables.prototype q.entry with
  | none =>
    have hanswer : pl.canStoreItem tables accounts q start =
        ⟨if q.swap then .itemsCantBeSwapped else .itemNotFound, start, q.count⟩ := by
      simp only [canStoreItem, hproto]
    rw [hanswer]
    refine .refused hstart ?_
    split <;> decide
  | some proto =>
    rcases canStoreItem_cases hproto accounts start with ⟨res, hres, hanswer⟩ | ⟨hsimilar, hanswer⟩
    · rw [hanswer]
      exact .refused hstart hres
    rw [hanswer]
    have hleft := Inventory.uint32Sub_similar_pos hcount hsimilar
    obtain ⟨left, hends⟩ := @StoreQuery.ends q pl.inventory proto start _
      (pl.inventory.canTakeMoreSimilarItems proto q.count q.pItem).2 hstart hleft
    have htotal := hends.sound.total
    refine ⟨hends.sound.kept, hends.sound.distinct, fun p hp => ?_, fun hok => ?_, ?_⟩
    · obtain ⟨hpos, hholds⟩ := hends.sound.admitted p hp
      exact ⟨hpos, proto, hproto, hholds⟩
    · obtain ⟨hnone, hzero⟩ := hends.all hok
      rw [hnone, hzero, Nat.add_zero] at htotal
      simpa [uint32Sub, hzero] using htotal
    · intro hres hbag hwords hlimits
      have hle := (hlimits proto hproto).similar_le hwords
      have hsub : uint32Sub q.count
          (pl.inventory.canTakeMoreSimilarItems proto q.count q.pItem).2 =
            q.count - (pl.inventory.canTakeMoreSimilarItems proto q.count q.pItem).2 := if_pos hle
      have hrest := hends.rest (by omega) hres hbag
      dsimp only at htotal
      omega

/-! Five cloth are dragged onto a stack of ore. -/

private def dragged : Item :=
  { guid := 101, proto := .clothLike 2589, count := 5, ownerGuid := 7 }

private def dragger : Player where
  guid := 7
  account := 1
  money := 0
  inventory := ⟨fun pos =>
    if pos = ⟨inventorySlotBag0, 23⟩ then
      some { guid := 102, proto := .clothLike 2770, count := 8, ownerGuid := 7 }
    else if pos = ⟨inventorySlotBag0, 24⟩ then some dragged
    else none⟩

private def dragQuery : StoreQuery where
  bag := inventorySlotBag0
  slot := 23
  entry := 2589
  count := 5
  pItem := some dragged
  swap := true

private def dragTables : ItemTables := .ofPrototypes [.clothLike 2589, .clothLike 2770]

theorem Player.canStoreItem_answered_dragged : dragQuery.Answered dragTables dragger.inventory []
      (dragger.canStoreItem dragTables .oneEach dragQuery []) :=
  Player.canStoreItem_answered dragTables .oneEach dragger dragQuery [] (by decide) List.nodup_nil

/-- The place found is neither free nor one of a stack of cloth. -/
theorem Player.canStoreItem_dragged_onto : (dragger.canStoreItem dragTables .oneEach dragQuery []).result = .ok ∧
      ¬ ∀ p ∈ (dragger.canStoreItem dragTables .oneEach dragQuery []).dest,
        ∀ it, dragger.inventory.getItemByPos p.pos = some it → it.entry = dragQuery.entry := by
  have hanswer : dragger.canStoreItem dragTables .oneEach dragQuery [] =
      ⟨.ok, [⟨⟨inventorySlotBag0, 23⟩, 5⟩], 0⟩ := by
    decide +kernel
  rw [hanswer]
  refine ⟨rfl, fun h => ?_⟩
  have hentry := h ⟨⟨inventorySlotBag0, 23⟩, 5⟩ (by simp) _ rfl
  exact absurd hentry (by decide)

end Mangos
