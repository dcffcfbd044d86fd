import Mangos.Loot.World

/-!
# What taking loot leaves as it is

Loot items are taken and released, but they keep their name, their kind and their place.
-/

namespace Mangos

open Framework

/-- The same item later: what is looted stays so, and nothing blocks it again. -/
structure LootItem.Ages (item item' : LootItem) : Prop where
  uid : item'.uid = item.uid
  info : item'.info = item.info
  blocked : item'.isBlocked → item.isBlocked
  looted : item.isLooted → item'.isLooted

theorem LootItem.Ages.refl (item : LootItem) : item.Ages item := ⟨rfl, rfl, id, id⟩

theorem LootItem.Ages.trans {item item' item'' : LootItem} (h : item.Ages item')
    (h' : item'.Ages item'') : item.Ages item'' :=
  ⟨h'.uid.trans h.uid, h'.info.trans h.info, fun hb => h.blocked (h'.blocked hb),
    fun hl => h'.looted (h.looted hl)⟩

theorem LootItem.ages_taken (item : LootItem) : item.Ages { item with isLooted := true } :=
  ⟨rfl, rfl, id, fun _ => rfl⟩

theorem LootItem.ages_given (item : LootItem) :
    item.Ages { item with count := 0, isLooted := true } := ⟨rfl, rfl, id, fun _ => rfl⟩

theorem LootItem.ages_unblocked (item : LootItem) : item.Ages { item with isBlocked := false } :=
  ⟨rfl, rfl, nofun, id⟩

theorem LootItem.ages_underthreshold (item : LootItem) :
    item.Ages { item with isUnderthreshold := true } := ⟨rfl, rfl, id, id⟩

/-- The same items later, each in its place. -/
structure ItemsAge (items items' : List LootItem) : Prop where
  length : items'.length = items.length
  item : ∀ (i : Nat) (item' : LootItem), items'[i]? = some item' →
    ∃ item : LootItem, items[i]? = some item ∧ item.Ages item'

namespace ItemsAge

variable {items items' items'' : List LootItem}

theorem refl (items : List LootItem) : ItemsAge items items :=
  ⟨rfl, fun _ item h => ⟨item, h, .refl item⟩⟩

theorem of_eq (h : items' = items) : ItemsAge items items' := by
  rw [h]
  exact .refl items

theorem trans (h : ItemsAge items items') (h' : ItemsAge items' items'') : ItemsAge items items'' := by
  refine ⟨h'.length.trans h.length, fun i item'' hi => ?_⟩
  obtain ⟨item', hi', hages'⟩ := h'.item i item'' hi
  obtain ⟨item, hi, hages⟩ := h.item i item' hi'
  exact ⟨item, hi, hages.trans hages'⟩

theorem modify {f : LootItem → LootItem} (hf : ∀ item : LootItem, item.Ages (f item))
    (items : List LootItem) (i : Nat) : ItemsAge items (items.modify i f) := by
  refine ⟨List.length_modify f items i, fun j item' hj => ?_⟩
  rw [List.getElem?_modify] at hj
  obtain ⟨item, hitem, rfl⟩ := Option.map_eq_some_iff.mp hj
  refine ⟨item, hitem, ?_⟩
  split
  · exact hf item
  · exact .refl item

theorem map {f : LootItem → LootItem} (hf : ∀ item : LootItem, item.Ages (f item))
    (items : List LootItem) : ItemsAge items (items.map f) := by
  refine ⟨List.length_map f, fun j item' hj => ?_⟩
  rw [List.getElem?_map] at hj
  obtain ⟨item, hitem, rfl⟩ := Option.map_eq_some_iff.mp hj
  exact ⟨item, hitem, hf item⟩

theorem getElem? (h : ItemsAge items items') {i : Nat} {item : LootItem}
    (hi : items[i]? = some item) : ∃ item' : LootItem, items'[i]? = some item' ∧ item.Ages item' := by
  obtain ⟨hlt, -⟩ := List.getElem?_eq_some_iff.mp hi
  rw [← h.length] at hlt
  obtain ⟨item₀, hi₀, hages⟩ := h.item i _ (List.getElem?_eq_getElem hlt)
  rw [hi] at hi₀
  cases hi₀
  exact ⟨_, List.getElem?_eq_getElem hlt, hages⟩

theorem map_eq {β : Type*} {f : LootItem → β} (hf : ∀ item item' : LootItem,
    item.Ages item' → f item' = f item) (h : ItemsAge items items') : items'.map f = items.map f := by
  apply List.ext_getElem?
  intro i
  rw [List.getElem?_map, List.getElem?_map]
  cases hi : items[i]? with
  | none =>
    rw [List.getElem?_eq_none_iff, ← h.length, ← List.getElem?_eq_none_iff] at hi
    rw [hi]
  | some item =>
    obtain ⟨item', hi', hages⟩ := h.getElem? hi
    rw [hi', Option.map_some, Option.map_some, hf item item' hages]

theorem uids (h : ItemsAge items items') : items'.map (·.uid) = items.map (·.uid) :=
  h.map_eq fun _ _ hages => hages.uid

theorem infos (h : ItemsAge items items') : items'.map (·.info) = items.map (·.info) :=
  h.map_eq fun _ _ hages => hages.info

end ItemsAge

namespace Loot

def EntriesAge (loot loot' : Loot) : Prop :=
  ∀ kind, ∀ p' ∈ loot'.entries kind, ∀ q' ∈ p'.2,
    ∃ p ∈ loot.entries kind, ∃ q ∈ p.2, q.index = q'.index ∧ q.uid = q'.uid

structure Ages (loot loot' : Loot) : Prop where
  items : ItemsAge loot.items loot'.items
  questUids : loot'.questItems.map (·.uid) = loot.questItems.map (·.uid)
  entries : EntriesAge loot loot'
  nextUid : loot'.nextUid = loot.nextUid

theorem EntriesAge.of_eq {loot loot' : Loot} (h : loot'.entries = loot.entries) : EntriesAge loot loot' := by
  intro kind p' hp' q' hq'
  rw [h] at hp'
  exact ⟨p', hp', q', hq', rfl, rfl⟩

namespace Ages

variable {loot loot' loot'' : Loot}

theorem of_eq (hitems : loot'.items = loot.items) (hquest : loot'.questItems = loot.questItems)
    (hentries : loot'.entries = loot.entries) (hnext : loot'.nextUid = loot.nextUid) : Ages loot loot' :=
  ⟨.of_eq hitems, by rw [hquest], .of_eq hentries, hnext⟩

theorem refl (loot : Loot) : Ages loot loot := .of_eq rfl rfl rfl rfl

theorem trans (h : Ages loot loot') (h' : Ages loot' loot'') : Ages loot loot'' := by
  refine ⟨h.items.trans h'.items, h'.questUids.trans h.questUids, fun kind p'' hp'' q'' hq'' => ?_,
    h'.nextUid.trans h.nextUid⟩
  obtain ⟨p', hp', q', hq', hindex', huid'⟩ := h'.entries kind p'' hp'' q'' hq''
  obtain ⟨p, hp, q, hq, hindex, huid⟩ := h.entries kind p' hp' q' hq'
  exact ⟨p, hp, q, hq, hindex.trans hindex', huid.trans huid'⟩

theorem foldl {α : Type*} {f : Loot → α → Loot} (hf : ∀ loot a, Ages loot (f loot a)) (l : List α)
    (loot : Loot) : Ages loot (l.foldl f loot) := by
  induction l generalizing loot with
  | nil => exact .refl loot
  | cons a l ih => exact (hf loot a).trans (ih (f loot a))

end Ages

variable (loot : Loot)

theorem ages_countDown : loot.Ages loot.countDown := by
  rw [countDown]
  split <;> exact .of_eq rfl rfl rfl rfl

theorem ages_notify (found : Nat → Bool) : loot.Ages (loot.notify found) := .of_eq rfl rfl rfl rfl

theorem ages_storeNewItem (pl uid : Nat) (item : LootItem) : loot.Ages (loot.storeNewItem pl uid item) := by
  rw [storeNewItem]
  split <;> exact .of_eq rfl rfl rfl rfl

theorem ages_takeItem (index : Nat) : loot.Ages (loot.takeItem index) :=
  ⟨.modify LootItem.ages_taken loot.items index, rfl, .of_eq rfl, rfl⟩

theorem ages_takeQuestItem (index : Nat) : loot.Ages (loot.takeQuestItem index) :=
  ⟨.refl _, (ItemsAge.modify LootItem.ages_taken loot.questItems index).uids, .of_eq rfl, rfl⟩

theorem ages_unblock (itemSlot : Nat) : loot.Ages (loot.unblock itemSlot) :=
  ⟨.modify LootItem.ages_unblocked loot.items itemSlot, rfl, .of_eq rfl, rfl⟩

private theorem mem_modify_entry {ql : List QuestItem} {n : Nat} {q' : QuestItem}
    (h : q' ∈ ql.modify n fun entry => { entry with isLooted := true }) :
    ∃ q ∈ ql, q.index = q'.index ∧ q.uid = q'.uid := by
  obtain ⟨i, hi⟩ := List.getElem?_of_mem h
  rw [List.getElem?_modify] at hi
  obtain ⟨q, hq, rfl⟩ := Option.map_eq_some_iff.mp hi
  refine ⟨q, List.mem_of_getElem? hq, ?_⟩
  split <;> exact ⟨rfl, rfl⟩

theorem takeEntry_entries_self (pl : Nat) (kind : EntryKind) (n : Nat) : (loot.takeEntry pl kind n).entries kind =
      modifyKey pl (fun ql => ql.modify n fun entry => { entry with isLooted := true })
        (loot.entries kind) := Function.update_self ..

theorem takeEntry_entries_of_ne {kind kind' : EntryKind} (h : kind' ≠ kind) (pl n : Nat) :
    (loot.takeEntry pl kind n).entries kind' = loot.entries kind' := Function.update_of_ne h ..

theorem ages_takeEntry (pl : Nat) (kind : EntryKind) (n : Nat) : loot.Ages (loot.takeEntry pl kind n) := by
  refine ⟨.refl _, rfl, fun kind' p' hp' q' hq' => ?_, rfl⟩
  by_cases hkind : kind' = kind
  · subst hkind
    rw [takeEntry_entries_self] at hp'
    rcases mem_modifyKey hp' with hold | ⟨-, ql, hql, hp⟩
    · exact ⟨p', hold, q', hq', rfl, rfl⟩
    · rw [hp] at hq'
      obtain ⟨q, hq, hsame⟩ := mem_modify_entry hq'
      exact ⟨_, hql, q, hq, hsame⟩
  · rw [takeEntry_entries_of_ne loot hkind] at hp'
    exact ⟨p', hp', q', hq', rfl, rfl⟩

theorem ages_takeOwnEntry (pl : Nat) (entry : Option (EntryKind × Nat)) (found : Nat → Bool) :
    loot.Ages (loot.takeOwnEntry pl entry found) := by
  match entry with
  | some (.ffa, n) => exact loot.ages_takeEntry pl .ffa n
  | some (.quest, n) | some (.conditional, n) | some (.currency, n) =>
    exact (loot.ages_takeEntry pl _ n).trans (ages_notify _ found)
  | none => exact loot.ages_notify found

theorem ages_storeLootItem (pl lootSlot : Nat) (room : Bool) (found : Nat → Bool) :
    loot.Ages (loot.storeLootItem pl lootSlot room found) := by
  rw [storeLootItem]
  split
  next => exact .of_eq rfl rfl rfl rfl
  next => exact .refl loot
  next index item n _ =>
    split
    · exact .refl loot
    have hentry := (loot.ages_storeNewItem pl item.uid item).trans (ages_takeEntry _ pl .quest n)
    dsimp only
    refine Ages.trans ?_ (ages_countDown _)
    split
    · split
      · exact hentry
      · exact hentry.trans (ages_notify _ found)
    · refine Ages.trans ?_ (ages_takeQuestItem _ index)
      split
      · exact hentry
      · exact hentry.trans (ages_notify _ found)
  next index item entry _ =>
    have hstored := loot.ages_storeNewItem pl item.uid item
    split
    · exact .refl loot
    split
    next n _ => exact (ages_takeEntry _ pl .currency n).trans (ages_countDown _)
    split
    · exact .refl loot
    dsimp only
    refine Ages.trans ?_ (ages_countDown _)
    have htaken := hstored.trans (ages_takeOwnEntry _ pl entry found)
    split
    · exact htaken
    · exact htaken.trans (ages_takeItem _ index)

theorem ages_takeRolled (roll : Roll) (found : Nat → Bool) : loot.Ages (loot.takeRolled roll found) :=
  ((loot.ages_takeItem roll.itemSlot).trans (ages_notify _ found)).trans (ages_countDown _)

theorem ages_countTheRoll (luck : RollLuck) (roll : Roll) : loot.Ages (loot.countTheRoll luck roll) := by
  rw [countTheRoll]
  split
  · exact .refl loot
  split
  · split
    · exact .of_eq rfl rfl rfl rfl
    · exact loot.ages_unblock roll.itemSlot
  split
  · exact .refl loot
  next pl vote _ =>
    split
    · exact .refl loot
    split
    · exact .refl loot
    split
    · exact .of_eq rfl rfl rfl rfl
    next item _ =>
      split
      · have hlogged : loot.Ages (loot.logStored pl roll.uid item) := .of_eq rfl rfl rfl rfl
        exact hlogged.trans (ages_takeRolled _ roll luck.found)
      split
      · exact (loot.ages_storeNewItem pl roll.uid item).trans (ages_takeRolled _ roll luck.found)
      · exact loot.ages_unblock roll.itemSlot

theorem ages_handleLootMasterGive (pl slotid : Nat) (room : Bool) (found : Nat → Bool) :
    loot.Ages (loot.handleLootMasterGive pl slotid room found) := by
  rw [handleLootMasterGive]
  split
  · exact .refl loot
  split
  · exact .of_eq rfl rfl rfl rfl
  next item _ =>
    split
    · exact .refl loot
    split
    · exact .refl loot
    · refine Ages.trans ?_ (ages_countDown _)
      have hstored := loot.ages_storeNewItem pl item.uid item
      exact ⟨.modify LootItem.ages_given loot.items slotid, hstored.questUids, hstored.entries, hstored.nextUid⟩

theorem registerFor_rule {P : Loot → Prop} (allowed : LootItemInfo → Bool) (pl : Nat)
    (hcurrency : ∀ loot, P loot → P (loot.fillCurrencyLoot allowed pl))
    (hquest : ∀ loot, P loot → P (loot.fillQuestLoot allowed pl))
    (hffa : ∀ loot, P loot → P (loot.fillFFALoot allowed pl)) (hconditional : ∀ loot, P loot →
      P (loot.fillNonQuestNonFFANonCurrencyConditionalLoot allowed pl))
    (h : P loot) : P (loot.registerFor allowed pl) := by
  have hstep : ∀ (kind : EntryKind) (f : Loot → Loot), (∀ loot, P loot → P (f loot)) →
      ∀ loot, P loot → P (if (lookupKey pl (loot.entries kind)).isSome then loot else f loot) := by
    intro kind f hf loot hP
    split
    · exact hP
    · exact hf loot hP
  exact hstep .conditional _ hconditional _ (hstep .ffa _ hffa _ (hstep .quest _ hquest _
    (hstep .currency _ hcurrency _ h)))

variable (tables : LootTables) (fill : LootFill)

theorem fillFor_rule {P : Loot → Prop} (pl : Nat)
    (hregister : ∀ loot, P loot → P (loot.registerFor (fill.allowed pl) pl))
    (hstore : ∀ loot lootSlot room, P loot → P (loot.storeLootItem pl lootSlot room fill.found))
    (h : P loot) : P (LootWorld.fillFor tables fill loot pl) := by
  rw [LootWorld.fillFor, fillNotNormalLootFor]
  apply List.foldlRecOn
  · exact hregister loot h
  · intro loot' hP i _
    rw [storeAtOnce]
    split
    · split
      · exact hstore loot' i _ hP
      · exact hP
    · exact hP

theorem itemsAge_fillQuestLoot (allowed : LootItemInfo → Bool) (pl : Nat) :
    ItemsAge loot.items (loot.fillQuestLoot allowed pl).items := by
  rw [fillQuestLoot]
  split <;> exact .refl _

theorem itemsAge_fillConditional (allowed : LootItemInfo → Bool) (pl : Nat) : ItemsAge loot.items
      (loot.fillNonQuestNonFFANonCurrencyConditionalLoot allowed pl).items := by
  apply ItemsAge.map
  intro item
  split
  · exact ⟨rfl, rfl, id, id⟩
  · exact .refl item

theorem itemsAge_fillFor (pl : Nat) : ItemsAge loot.items (LootWorld.fillFor tables fill loot pl).items := by
  apply fillFor_rule (P := fun loot' => ItemsAge loot.items loot'.items)
  · intro loot' hages
    apply registerFor_rule (P := fun loot'' => ItemsAge loot.items loot''.items)
    · exact fun _ h => h
    · exact fun loot'' h => h.trans (loot''.itemsAge_fillQuestLoot _ pl)
    · exact fun _ h => h
    · exact fun loot'' h => h.trans (loot''.itemsAge_fillConditional _ pl)
    · exact hages
  · exact fun loot' slot room hages =>
      hages.trans (loot'.ages_storeLootItem pl slot room fill.found).items
  · exact .refl loot.items

theorem itemsAge_fillPlayers (pls : List Nat) :
    ItemsAge loot.items (pls.foldl (LootWorld.fillFor tables fill) loot).items := by
  induction pls generalizing loot with
  | nil => exact .refl loot.items
  | cons pl pls ih => exact (itemsAge_fillFor loot tables fill pl).trans (ih _)

end Loot

/-- The same roll with other votes. -/
structure Roll.Same (roll roll' : Roll) : Prop where
  uid : roll'.uid = roll.uid
  itemSlot : roll'.itemSlot = roll.itemSlot
  linked : roll'.linked = roll.linked

theorem Roll.recordVote_same (roll : Roll) (pl : Nat) (vote : RollVote) : roll.Same (roll.recordVote pl vote) := by
  cases vote <;> exact ⟨rfl, rfl, rfl⟩

theorem Roll.removeVote_same (roll : Roll) (guid : Nat) : roll.Same (roll.removeVote guid) := by
  rw [Roll.removeVote]
  split <;> exact ⟨rfl, rfl, rfl⟩

namespace LootWorld

variable {tables : LootTables} {w : LootWorld}

theorem startLootRoll_cases (setting : RollSetting) (lootMethod : LootMethod) (maxEnchantingSkill itemSlot : Nat) :
    w.startLootRoll tables setting lootMethod maxEnchantingSkill itemSlot = w ∨
    ∃ item roll, w.loot.items[itemSlot]? = some item ∧ roll.uid = item.uid ∧ roll.itemSlot = itemSlot ∧ roll.linked ∧
      (w.startLootRoll tables setting lootMethod maxEnchantingSkill itemSlot = { w with rolls := w.rolls ++ [roll] } ∨
        w.startLootRoll tables setting lootMethod maxEnchantingSkill itemSlot =
          { loot := w.loot.block itemSlot, rolls := w.rolls ++ [roll] }) := by
  rw [startLootRoll]
  split
  · exact .inl rfl
  next item hitem =>
    split
    · exact .inl rfl
    dsimp only
    split
    · exact .inl rfl
    · exact .inr ⟨item, _, hitem, rfl, rfl, rfl, .inl rfl⟩
    · exact .inr ⟨item, _, hitem, rfl, rfl, rfl, .inr rfl⟩

/-- A property that starting rolls and marking items as cheap keep. -/
structure KeptByRolling (P : LootWorld → Prop) : Prop where
  underthreshold : ∀ w itemSlot, P w → P (w.underthreshold itemSlot)
  roll : ∀ (w : LootWorld) item (roll : Roll), w.loot.items[roll.itemSlot]? = some item →
    roll.uid = item.uid → roll.linked → P w → P { w with rolls := w.rolls ++ [roll] }
  blockingRoll : ∀ (w : LootWorld) item (roll : Roll), w.loot.items[roll.itemSlot]? = some item →
    roll.uid = item.uid → roll.linked → P w → P { loot := w.loot.block roll.itemSlot, rolls := w.rolls ++ [roll] }

variable {P : LootWorld → Prop}

theorem KeptByRolling.rollForSlot (hP : KeptByRolling P) (setting : RollSetting)
    (lootMethod : LootMethod) (threshold maxEnchantingSkill : Nat) {w : LootWorld} (h : P w)
    (itemSlot : Nat) : P (w.rollForSlot tables setting lootMethod threshold maxEnchantingSkill itemSlot) := by
  rw [LootWorld.rollForSlot]
  split
  · exact h
  split
  · exact h
  split
  · exact h
  split
  · rcases startLootRoll_cases setting lootMethod maxEnchantingSkill itemSlot with
      hsame | ⟨item, roll, hitem, huid, rfl, hlinked, hrolls | hrolls⟩
    · rw [hsame]
      exact h
    · rw [hrolls]
      exact hP.roll w item roll hitem huid hlinked h
    · rw [hrolls]
      exact hP.blockingRoll w item roll hitem huid hlinked h
  · exact hP.underthreshold w itemSlot h

theorem KeptByRolling.masterLootSlot (hP : KeptByRolling P) (threshold : Nat) {w : LootWorld}
    (h : P w) (itemSlot : Nat) : P (w.masterLootSlot tables threshold itemSlot) := by
  rw [LootWorld.masterLootSlot]
  split
  · exact h
  split
  · exact h
  split
  · exact h
  split
  · exact hP.underthreshold w itemSlot h
  · exact h

theorem KeptByRolling.groupLoot (hP : KeptByRolling P) (setting : RollSetting)
    (lootMethod : LootMethod) (threshold maxEnchantingSkill : Nat) (h : P w) :
    P (w.groupLoot tables setting lootMethod threshold maxEnchantingSkill) := by
  cases lootMethod with
  | groupLoot | needBeforeGreed =>
    apply List.foldlRecOn
    · exact h
    · exact fun w hw itemSlot _ => hP.rollForSlot setting _ threshold maxEnchantingSkill hw itemSlot
  | masterLoot =>
    apply List.foldlRecOn
    · exact h
    · exact fun w hw itemSlot _ => hP.masterLootSlot threshold hw itemSlot
  | freeForAll | roundRobin => exact h

private theorem map_modify_eq {β : Type*} (f : LootItem → β) {g : LootItem → LootItem}
    (hg : ∀ item, f (g item) = f item) (items : List LootItem) (i : Nat) : (items.modify i g).map f = items.map f := by
  apply List.ext_getElem?
  intro j
  rw [List.getElem?_map, List.getElem?_map, List.getElem?_modify]
  cases items[j]? with
  | none => rfl
  | some item =>
    show some _ = some (f item)
    split
    · exact congrArg some (hg item)
    · rfl

theorem keptByRolling_map_items {β : Type*} (f : LootItem → β)
    (hblocked : ∀ item, f { item with isBlocked := true } = f item)
    (hunder : ∀ item, f { item with isUnderthreshold := true } = f item) (l : List β) :
    KeptByRolling fun w => w.loot.items.map f = l where
  underthreshold _ itemSlot h := (map_modify_eq f hunder _ itemSlot).trans h
  roll _ _ _ _ _ _ h := h
  blockingRoll _ _ roll _ _ _ h := (map_modify_eq f hblocked _ roll.itemSlot).trans h

theorem KeptByRolling.fillLoot (hP : KeptByRolling P) {fill : LootFill}
    (h : P (w.filled tables fill)) : P (w.fillLoot tables fill) := by
  rw [LootWorld.fillLoot]
  split
  · exact h
  · exact hP.groupLoot _ _ _ _ h

end LootWorld

end Mangos
