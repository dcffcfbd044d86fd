import Mangos.Loot.References

/-!
# Looking for quest drops

Whether a template drops anything for a quest is looked for along its references, but in the store that the
template is from.
-/

namespace Mangos

open Std Framework Relation

/-- The loops of `LootGroup::HasQuestDrop` and `LootGroup::HasQuestDropForPlayer`. -/
def LootGroup.hasDrop (found : LootStoreItem → Bool) (group : LootGroup) : Bool := group.all.any found

namespace LootTemplate

variable (store : LootStore) (found : LootStoreItem → Bool)

/-- The loop over the entries; a template is searched by `call`. -/
def searchEntries (call : Nat → LootTemplate → Option Bool) : List LootStoreItem → Option Bool
  | [] => some false
  | item :: items =>
    if item.mincountOrRef < 0 then
      match item.referenced store with
      | none => searchEntries call items
      | some u => (call item.group u).bind fun drop => if drop then some true else searchEntries call items
    else if found item then some true
    else searchEntries call items

/-- The search for an entry that is wanted, in as many nested calls as `fuel`. -/
def hasDrop : (fuel : Nat) → (groupId : Nat) → LootTemplate → Option Bool
  | 0, _, _ => none
  | fuel + 1, groupId, t =>
    if groupId ≠ 0 then some (t.groups[groupId - 1]?.any (·.hasDrop found))
    else (searchEntries store found (hasDrop fuel) t.entries).map fun drop =>
      drop || t.groups.any (·.hasDrop found)

def hasQuestDrop (fuel groupId : Nat) (t : LootTemplate) : Option Bool :=
  t.hasDrop store (·.needsQuest) fuel groupId

def hasQuestDropForPlayer (hasQuestForItem : Nat → Bool) (fuel groupId : Nat) (t : LootTemplate) : Option Bool :=
  t.hasDrop store (fun item => hasQuestForItem item.itemid) fuel groupId

end LootTemplate

namespace LootStore

variable (store : LootStore)

/-- `LootStore::HaveQuestLootFor`: the references are looked for in the store itself. -/
def haveQuestLootFor (fuel lootId : Nat) : Option Bool :=
  match store[lootId]? with
  | none => some false
  | some t => t.hasQuestDrop store fuel 0

def haveQuestLootForPlayer (hasQuestForItem : Nat → Bool) (fuel lootId : Nat) : Option Bool :=
  match store[lootId]? with
  | none => some false
  | some t => t.hasQuestDropForPlayer store hasQuestForItem fuel 0

end LootStore

/-- One turn of the loops over a template. -/
inductive LootWork
  | entry (item : LootStoreItem)
  | group (group : LootGroup)
  deriving DecidableEq

def LootTemplate.work (groupId : Nat) (t : LootTemplate) : List LootWork :=
  if groupId ≠ 0 then (t.groups[groupId - 1]?.map LootWork.group).toList
  else t.entries.map LootWork.entry ++ t.groups.map LootWork.group

namespace LootSources

variable (src : LootSources) (rate : Bool)

/-- What a turn leaves to do, and what it hands to `Loot::AddItem`, when these numbers are drawn. -/
def turn (drawn : ℚ) (pick : Nat) : LootWork → List LootWork × List LootStoreItem
  | .entry item =>
    if !item.roll src.rules rate drawn then ([], [])
    else if item.mincountOrRef < 0 ∧ !item.currency then
      match item.referenced src.reference with
      | none => ([], [])
      | some u =>
        if item.conditionId ≠ 0 ∧ !src.meets item.conditionId then ([], [])
        else ((List.replicate item.maxcount (u.work item.group)).flatten, [])
    else ([], [item])
  | .group group => ([], (group.roll drawn pick).toList)

/-- The entries that are handed to `Loot::AddItem` one after the other, with some numbers or other drawn. -/
inductive Outcome : List LootWork → List LootStoreItem → Prop
  | done : Outcome [] []
  | turn (w : LootWork) (rest : List LootWork) (items : List LootStoreItem) (drawn : ℚ) (pick : Nat)
      (hnonneg : 0 ≤ drawn) (hbelow : drawn < 100)
      (h : Outcome ((src.turn rate drawn pick w).1 ++ rest) items) :
      Outcome (w :: rest) ((src.turn rate drawn pick w).2 ++ items)

end LootSources

namespace LootTemplate

variable (store : LootStore) (found : LootStoreItem → Bool)

def searchTurn : LootWork → Bool × List LootWork
  | .entry item =>
    if item.mincountOrRef < 0 then (false, (item.referenced store).elim [] (·.work item.group))
    else (found item, [])
  | .group group => (group.hasDrop found, [])

/-- Turn after turn, the search comes to what is wanted. -/
inductive Finds : List LootWork → Prop
  | here (w : LootWork) (rest : List LootWork) (h : (searchTurn store found w).1 = true) : Finds (w :: rest)
  | next (w : LootWork) (rest : List LootWork) (hnot : (searchTurn store found w).1 = false)
      (h : Finds ((searchTurn store found w).2 ++ rest)) : Finds (w :: rest)

/-- What a turn of the search comes to; the calls below it are nested as deep as `fuel`. -/
def turnDrop (fuel : Nat) : LootWork → Option Bool
  | .entry item =>
    if item.mincountOrRef < 0 then (item.referenced store).elim (some false) (hasDrop store found fuel item.group)
    else some (found item)
  | .group group => some (group.hasDrop found)

def searchWork (fuel : Nat) : List LootWork → Option Bool
  | [] => some false
  | w :: rest => (turnDrop store found fuel w).bind fun drop => if drop then some true else searchWork fuel rest

variable {store : LootStore} {found : LootStoreItem → Bool} {ws ws' : List LootWork}

theorem searchWork_append (fuel : Nat) (ws ws' : List LootWork) :
    searchWork store found fuel (ws ++ ws') = (searchWork store found fuel ws).bind fun drop =>
        if drop then some true else searchWork store found fuel ws' := by
  induction ws with
  | nil => rfl
  | cons w ws ih =>
    rw [List.cons_append, searchWork, searchWork, ih]
    cases turnDrop store found fuel w with
    | none => rfl
    | some drop => cases drop <;> rfl

theorem searchWork_groups (fuel : Nat) (groups : List LootGroup) :
    searchWork store found fuel (groups.map .group) = some (groups.any (·.hasDrop found)) := by
  induction groups with
  | nil => rfl
  | cons group groups ih =>
    rw [List.map_cons, searchWork, ih, turnDrop, List.any_cons, Option.bind_some]
    cases group.hasDrop found <;> rfl

theorem searchWork_entries (fuel : Nat) (items : List LootStoreItem) :
    searchWork store found fuel (items.map .entry) = searchEntries store found (hasDrop store found fuel) items := by
  induction items with
  | nil => rfl
  | cons item items ih =>
    rw [List.map_cons, searchWork, ih, turnDrop, searchEntries]
    by_cases hneg : item.mincountOrRef < 0
    · rw [if_pos hneg, if_pos hneg]
      cases item.referenced store with
      | none => rfl
      | some u => rfl
    · rw [if_neg hneg, if_neg hneg, Option.bind_some]

theorem hasDrop_succ (fuel groupId : Nat) (t : LootTemplate) :
    hasDrop store found (fuel + 1) groupId t = searchWork store found fuel (t.work groupId) := by
  rw [hasDrop, work]
  by_cases hgroup : groupId ≠ 0
  · rw [if_pos hgroup, if_pos hgroup]
    cases t.groups[groupId - 1]? with
    | none => rfl
    | some group => exact (searchWork_groups fuel [group]).symm ▸ by simp
  · rw [if_neg hgroup, if_neg hgroup, searchWork_append, searchWork_entries, searchWork_groups]
    cases searchEntries store found (hasDrop store found fuel) t.entries with
    | none => rfl
    | some drop => cases drop <;> rfl

theorem turnDrop_succ (fuel : Nat) (w : LootWork) : turnDrop store found (fuel + 1) w =
      if (searchTurn store found w).1 then some true else searchWork store found fuel (searchTurn store found w).2 := by
  cases w with
  | entry item =>
    rw [turnDrop, searchTurn]
    by_cases hneg : item.mincountOrRef < 0
    · rw [if_pos hneg, if_pos hneg]
      cases item.referenced store with
      | none => rfl
      | some u => exact hasDrop_succ fuel item.group u
    · rw [if_neg hneg, if_neg hneg]
      cases found item <;> rfl
  | group group =>
    rw [turnDrop, searchTurn]
    cases group.hasDrop found <;> rfl

theorem turnDrop_mono {fuel fuel' : Nat} (hcall : ∀ groupId t drop, hasDrop store found fuel groupId t = some drop →
      hasDrop store found fuel' groupId t = some drop) {w : LootWork} {drop : Bool}
    (h : turnDrop store found fuel w = some drop) : turnDrop store found fuel' w = some drop := by
  cases w with
  | entry item =>
    rw [turnDrop] at h ⊢
    by_cases hneg : item.mincountOrRef < 0
    · rw [if_pos hneg] at h ⊢
      cases hfound : item.referenced store with
      | none => rwa [hfound] at h
      | some u =>
        simp only [hfound, Option.elim_some] at h ⊢
        exact hcall item.group u drop h
    · rwa [if_neg hneg] at h ⊢
  | group group => exact h

theorem searchWork_mono {fuel fuel' : Nat} (hcall : ∀ groupId t drop, hasDrop store found fuel groupId t = some drop →
      hasDrop store found fuel' groupId t = some drop) {drop : Bool}
    (h : searchWork store found fuel ws = some drop) : searchWork store found fuel' ws = some drop := by
  induction ws generalizing drop with
  | nil => exact h
  | cons w ws ih =>
    obtain ⟨first, hfirst, hrest⟩ := Option.bind_eq_some_iff.mp h
    refine Option.bind_eq_some_iff.mpr ⟨first, turnDrop_mono hcall hfirst, ?_⟩
    cases first with
    | true => exact hrest
    | false => exact ih hrest

theorem hasDrop_succ_of (fuel groupId : Nat) (t : LootTemplate) {drop : Bool}
    (h : hasDrop store found fuel groupId t = some drop) : hasDrop store found (fuel + 1) groupId t = some drop := by
  induction fuel generalizing groupId t drop with
  | zero => cases h
  | succ fuel ih =>
    rw [hasDrop_succ] at h ⊢
    exact searchWork_mono (fun groupId t _ => ih groupId t) h

theorem hasDrop_mono {fuel fuel' : Nat} (hle : fuel ≤ fuel') {groupId : Nat} {t : LootTemplate} {drop : Bool}
    (h : hasDrop store found fuel groupId t = some drop) : hasDrop store found fuel' groupId t = some drop := by
  induction hle with
  | refl => exact h
  | step _ ih => exact hasDrop_succ_of _ groupId t ih

theorem searchWork_succ {fuel : Nat} {drop : Bool} (h : searchWork store found fuel ws = some drop) :
    searchWork store found (fuel + 1) ws = some drop :=
  searchWork_mono (fun groupId t _ => hasDrop_succ_of fuel groupId t) h

theorem Finds.exists_searchWork (h : Finds store found ws) : ∃ fuel, searchWork store found fuel ws = some true := by
  induction h with
  | here w rest h =>
    refine ⟨1, ?_⟩
    rw [searchWork, turnDrop_succ, if_pos h]
    rfl
  | next w rest hnot _ ih =>
    obtain ⟨fuel, hfuel⟩ := ih
    refine ⟨fuel + 1, ?_⟩
    rw [searchWork_append] at hfuel
    obtain ⟨first, hfirst, hrest⟩ := Option.bind_eq_some_iff.mp hfuel
    rw [searchWork, turnDrop_succ, if_neg (by simp [hnot]), hfirst, Option.bind_some]
    cases first with
    | true => rfl
    | false => exact searchWork_succ hrest

theorem turnDrop_zero {w : LootWork} {drop : Bool} (h : turnDrop store found 0 w = some drop) :
    searchTurn store found w = (drop, []) := by
  cases w with
  | entry item =>
    rw [turnDrop] at h
    rw [searchTurn]
    by_cases hneg : item.mincountOrRef < 0
    · rw [if_pos hneg] at h ⊢
      cases hfound : item.referenced store with
      | none =>
        rw [hfound] at h
        rw [Option.some.inj h.symm, Option.elim_none]
      | some u =>
        rw [hfound] at h
        cases h
    · rw [if_neg hneg] at h ⊢
      rw [Option.some.inj h]
  | group group => rw [searchTurn, Option.some.inj h]

theorem finds_of_searchWork (fuel : Nat) {drop : Bool} (h : searchWork store found fuel ws = some drop)
    (hrest : drop = false → Finds store found ws') : Finds store found (ws ++ ws') := by
  induction fuel generalizing ws ws' drop with
  | zero =>
    induction ws generalizing drop with
    | nil => exact hrest (Option.some.inj h).symm
    | cons w ws ih =>
      obtain ⟨first, hfirst, hlater⟩ := Option.bind_eq_some_iff.mp h
      have hturn := turnDrop_zero hfirst
      cases first with
      | true => exact .here w (ws ++ ws') (by rw [hturn])
      | false =>
        refine .next w (ws ++ ws') (by rw [hturn]) ?_
        rw [hturn]
        exact ih hlater hrest
  | succ fuel ih =>
    induction ws generalizing drop with
    | nil => exact hrest (Option.some.inj h).symm
    | cons w ws ihw =>
      obtain ⟨first, hfirst, hlater⟩ := Option.bind_eq_some_iff.mp h
      rw [turnDrop_succ] at hfirst
      cases hhere : (searchTurn store found w).1 with
      | true => exact .here w (ws ++ ws') hhere
      | false =>
        rw [if_neg (by simp [hhere])] at hfirst
        refine .next w (ws ++ ws') hhere (ih hfirst fun hfalse => ?_)
        rw [hfalse] at hlater
        exact ihw hlater hrest

theorem exists_hasDrop_iff {groupId : Nat} {t : LootTemplate} :
    (∃ fuel, hasDrop store found fuel groupId t = some true) ↔ Finds store found (t.work groupId) := by
  constructor
  · rintro ⟨fuel, hfuel⟩
    cases fuel with
    | zero => cases hfuel
    | succ fuel =>
      rw [hasDrop_succ] at hfuel
      have hfinds := @finds_of_searchWork store found _ [] fuel true hfuel (by simp)
      rwa [List.append_nil] at hfinds
  · intro h
    obtain ⟨fuel, hfuel⟩ := h.exists_searchWork
    exact ⟨fuel + 1, by rw [hasDrop_succ, hfuel]⟩

end LootTemplate

/-- No quest is needed for a reference, and groups have none, as loading leaves them. -/
def LootWork.Loaded : LootWork → Prop
  | .entry item => item.mincountOrRef < 0 → item.needsQuest = false
  | .group g => ∀ item ∈ g.all, 0 < item.mincountOrRef

theorem LootTemplate.Loaded.work {t : LootTemplate} (ht : t.Loaded) (groupId : Nat) :
    ∀ w ∈ t.work groupId, w.Loaded := by
  intro w hw
  rw [LootTemplate.work] at hw
  split at hw
  next =>
    obtain ⟨group, hgroup, rfl⟩ := Option.map_eq_some_iff.mp (Option.mem_toList.mp hw)
    exact ht.groups group (List.mem_of_getElem? hgroup)
  next =>
    rcases List.mem_append.mp hw with hw | hw
    · obtain ⟨item, hmem, rfl⟩ := List.mem_map.mp hw
      exact ht.entries item hmem
    · obtain ⟨group, hmem, rfl⟩ := List.mem_map.mp hw
      exact ht.groups group hmem

theorem Loot.questItems_addItem (tables : LootTables) (loot : Loot) (drop : LootDrop) :
    (loot.addItem tables drop).questItems.map (·.info.itemid) =
      if drop.needsQuest ∧ (loot.questItems.map (·.info.itemid)).length < maxNrQuestItems then
        loot.questItems.map (·.info.itemid) ++ [drop.itemid] else loot.questItems.map (·.info.itemid) := by
  rw [Loot.addItem, List.length_map]
  by_cases hquest : drop.needsQuest = true
  · by_cases hroom : loot.questItems.length < maxNrQuestItems
    · rw [if_pos hquest, if_pos hroom, if_pos ⟨hquest, hroom⟩, List.map_append]
      rfl
    · rw [if_pos hquest, if_neg hroom, if_neg fun h => hroom h.2]
  · have hnone : ¬ (drop.needsQuest = true ∧ loot.questItems.length < maxNrQuestItems) := fun h => hquest h.1
    rw [if_neg hquest, if_neg hnone]
    split
    · dsimp only
      split <;> rfl
    · rfl

def LootProgress.held (s : LootProgress) : List Nat := s.loot.questItems.map (·.info.itemid)

/-- The quest items after the entries are handed to `Loot::AddItem`. -/
def LootStoreItem.holdAll (held : List Nat) (items : List LootStoreItem) : List Nat :=
  items.foldl (fun held item =>
    if item.needsQuest ∧ held.length < maxNrQuestItems then held ++ [item.itemid] else held) held

theorem LootStoreItem.holdAll_eq (held : List Nat) (items : List LootStoreItem) : holdAll held items =
      held ++ ((items.filter (·.needsQuest)).take (maxNrQuestItems - held.length)).map (·.itemid) := by
  induction items generalizing held with
  | nil => simp [holdAll]
  | cons item items ih =>
    rw [holdAll, List.foldl_cons, ← holdAll, ih]
    by_cases hquest : item.needsQuest = true
    · by_cases hroom : held.length < maxNrQuestItems
      · obtain ⟨n, hn⟩ : ∃ n, maxNrQuestItems - held.length = n + 1 := ⟨maxNrQuestItems - held.length - 1, by omega⟩
        have hn' : maxNrQuestItems - (held ++ [item.itemid]).length = n := by
          rw [List.length_append, List.length_singleton]
          omega
        rw [if_pos ⟨hquest, hroom⟩, List.filter_cons_of_pos hquest, hn, hn', List.take_succ_cons]
        simp
      · have hfull : maxNrQuestItems - held.length = 0 := by omega
        rw [if_neg fun h => hroom h.2, hfull, List.take_zero, List.take_zero]
    · rw [if_neg fun h => hquest h.1, List.filter_cons_of_neg hquest]

namespace LootContext

variable (ctx : LootContext) (rate : Bool)

/-- A turn of the loops in `LootTemplate::Process`; the calls below it are nested as deep as `fuel`. -/
def processWork (fuel : Nat) (s : LootProgress) : LootWork → Option LootProgress
  | .entry item => ctx.processEntry (ctx.process fuel rate) rate s item
  | .group group => ctx.processGroup (ctx.process fuel false 0) s group

/-- `Loot::AddItem` for one entry after the other. -/
def addItems (items : List LootStoreItem) (s : LootProgress) : LootProgress :=
  items.foldl (fun s item => ctx.addItem item s) s

def drawTurn (s : LootProgress) (w : LootWork) : List LootWork × List LootStoreItem :=
  ctx.turn rate (ctx.random.chance s.drawn) (ctx.random.pick s.drawn) w

variable {ctx : LootContext} {rate : Bool}

theorem held_addItem (item : LootStoreItem) (s : LootProgress) :
    (ctx.addItem item s).held = LootStoreItem.holdAll s.held [item] :=
  Loot.questItems_addItem ctx.rules.tables s.loot (item.drop (ctx.random.count s.drawn item))

theorem held_addItems (items : List LootStoreItem) (s : LootProgress) :
    (ctx.addItems items s).held = LootStoreItem.holdAll s.held items := by
  induction items generalizing s with
  | nil => rfl
  | cons item items ih =>
    rw [addItems, List.foldl_cons, ← addItems, ih, held_addItem, LootStoreItem.holdAll, LootStoreItem.holdAll,
      ← List.foldl_append]
    rfl

theorem drawn_addItems (items : List LootStoreItem) (s : LootProgress) :
    (ctx.addItems items s).drawn = s.drawn + items.length := by
  induction items generalizing s with
  | nil => rfl
  | cons item items ih =>
    rw [addItems, List.foldl_cons, ← addItems, ih, List.length_cons, addItem]
    dsimp only
    omega

theorem process_succ_eq (fuel groupId : Nat) (t : LootTemplate) (s : LootProgress) :
    ctx.process (fuel + 1) rate groupId t s = (t.work groupId).foldlM (ctx.processWork rate fuel) s := by
  rw [process, LootTemplate.work]
  by_cases hgroup : groupId ≠ 0
  · rw [if_pos hgroup, if_pos hgroup]
    cases t.groups[groupId - 1]? with
    | none => rfl
    | some group => simp [processWork]
  · rw [if_neg hgroup, if_neg hgroup]
    simp only [List.foldlM_append, List.foldlM_map]
    rfl

theorem repeatM_process_eq (fuel groupId : Nat) (t : LootTemplate) (n : Nat) (s : LootProgress) :
    repeatM (ctx.process (fuel + 1) rate groupId t) n s =
      (List.replicate n (t.work groupId)).flatten.foldlM (ctx.processWork rate fuel) s := by
  induction n generalizing s with
  | zero => rfl
  | succ n ih =>
    rw [Framework.repeatM, List.replicate_succ, List.flatten_cons, List.foldlM_append, process_succ_eq]
    exact congrArg _ (funext ih)

theorem processWork_succ {w : LootWork} (hw : w.Loaded) (fuel : Nat) (s : LootProgress) :
    ctx.processWork rate (fuel + 1) s w = (ctx.drawTurn rate s w).1.foldlM (ctx.processWork rate fuel)
        (ctx.addItems (ctx.drawTurn rate s w).2 { s with drawn := s.drawn + 1 }) := by
  cases w with
  | entry item =>
    rw [processWork, processEntry, drawTurn, LootSources.turn]
    by_cases hroll : (!item.roll ctx.rules rate (ctx.random.chance s.drawn)) = true
    · rw [if_pos hroll, if_pos hroll]
      rfl
    · rw [if_neg hroll, if_neg hroll]
      by_cases hneg : item.mincountOrRef < 0 ∧ (!item.currency) = true
      · rw [if_pos hneg, if_pos hneg]
        cases item.referenced ctx.reference with
        | none => rfl
        | some u =>
          dsimp only
          by_cases hcond : item.conditionId ≠ 0 ∧ (!ctx.meets item.conditionId) = true
          · rw [if_pos hcond, if_pos hcond]
            rfl
          · rw [if_neg hcond, if_neg hcond]
            exact repeatM_process_eq fuel item.group u item.maxcount _
      · rw [if_neg hneg, if_neg hneg]
        rfl
  | group group =>
    rw [processWork, processGroup_eq hw, drawTurn, LootSources.turn]
    cases group.roll (ctx.random.chance s.drawn) (ctx.random.pick s.drawn) <;> rfl

theorem processWork_zero {w : LootWork} (hw : w.Loaded) {s s' : LootProgress}
    (h : ctx.processWork rate 0 s w = some s') : (ctx.drawTurn rate s w).1 = [] ∧
      s' = ctx.addItems (ctx.drawTurn rate s w).2 { s with drawn := s.drawn + 1 } := by
  cases w with
  | entry item =>
    rw [processWork, processEntry] at h
    rw [drawTurn, LootSources.turn]
    by_cases hroll : (!item.roll ctx.rules rate (ctx.random.chance s.drawn)) = true
    · rw [if_pos hroll] at h ⊢
      exact ⟨rfl, (Option.some.inj h).symm⟩
    · rw [if_neg hroll] at h ⊢
      by_cases hneg : item.mincountOrRef < 0 ∧ (!item.currency) = true
      · rw [if_pos hneg] at h ⊢
        cases hfound : item.referenced ctx.reference with
        | none =>
          rw [hfound] at h
          exact ⟨rfl, (Option.some.inj h).symm⟩
        | some u =>
          simp only [hfound] at h ⊢
          by_cases hcond : item.conditionId ≠ 0 ∧ (!ctx.meets item.conditionId) = true
          · rw [if_pos hcond] at h ⊢
            exact ⟨rfl, (Option.some.inj h).symm⟩
          · rw [if_neg hcond] at h ⊢
            cases hcount : item.maxcount with
            | zero =>
              rw [hcount] at h
              exact ⟨rfl, (Option.some.inj h).symm⟩
            | succ n =>
              rw [hcount] at h
              cases h
      · rw [if_neg hneg] at h ⊢
        exact ⟨rfl, (Option.some.inj h).symm⟩
  | group group =>
    rw [processWork, processGroup_eq hw] at h
    rw [drawTurn, LootSources.turn]
    constructor
    · rfl
    · rw [← Option.some.inj h]
      cases group.roll (ctx.random.chance s.drawn) (ctx.random.pick s.drawn) <;> rfl

end LootContext

theorem LootStoreItem.holdAll_append (held : List Nat) (items items' : List LootStoreItem) :
    holdAll held (items ++ items') = holdAll (holdAll held items) items' :=
  List.foldl_append

namespace LootSources

variable {src : LootSources} {rate : Bool} {ws ws' : List LootWork} {items items' : List LootStoreItem}

theorem Outcome.append (h : src.Outcome rate ws items) (h' : src.Outcome rate ws' items') :
    src.Outcome rate (ws ++ ws') (items ++ items') := by
  induction h with
  | done => exact h'
  | turn w rest items drawn pick hnonneg hbelow _ ih =>
    rw [List.append_assoc] at ih ⊢
    exact .turn w (rest ++ ws') (items ++ items') drawn pick hnonneg hbelow ih

theorem loaded_turn (href : src.reference.Loaded) (drawn : ℚ) (pick : Nat) (w : LootWork) :
    ∀ w' ∈ (src.turn rate drawn pick w).1, w'.Loaded := by
  intro w' hw'
  cases w with
  | group group => cases hw'
  | entry item =>
    rw [turn] at hw'
    split at hw'
    next => cases hw'
    next =>
      split at hw'
      next =>
        cases hfound : item.referenced src.reference with
        | none =>
          rw [hfound] at hw'
          cases hw'
        | some u =>
          simp only [hfound] at hw'
          split at hw'
          next => cases hw'
          next =>
            obtain ⟨l, hl, hmem⟩ := List.mem_flatten.mp hw'
            obtain rfl := List.eq_of_mem_replicate hl
            exact (href _ u hfound).work item.group w' hmem
      next => cases hw'

end LootSources

namespace LootContext

variable {ctx : LootContext} {rate : Bool} {ws : List LootWork}

theorem exists_outcome (href : ctx.reference.Loaded) (fuel : Nat) (hws : ∀ w ∈ ws, w.Loaded)
    {s s' : LootProgress} (h : ws.foldlM (ctx.processWork rate fuel) s = some s') :
    ∃ items, ctx.Outcome rate ws items ∧ s'.held = LootStoreItem.holdAll s.held items := by
  induction fuel generalizing ws s s' with
  | zero =>
    induction ws generalizing s with
    | nil => exact ⟨[], .done, by rw [← Option.some.inj h]; rfl⟩
    | cons w ws ih =>
      rw [List.foldlM_cons] at h
      obtain ⟨m, hturn, hrest⟩ := Option.bind_eq_some_iff.mp h
      obtain ⟨hnone, rfl⟩ := processWork_zero (hws w List.mem_cons_self) hturn
      obtain ⟨items, hitems, hheld⟩ := ih (fun w' hw' => hws w' (List.mem_cons_of_mem w hw')) hrest
      refine ⟨(ctx.drawTurn rate s w).2 ++ items, ?_, ?_⟩
      · refine .turn w ws items _ _ (ctx.random.nonneg s.drawn) (ctx.random.below s.drawn) ?_
        rw [drawTurn] at hnone
        rwa [hnone]
      · rw [hheld, held_addItems, LootStoreItem.holdAll_append]
        rfl
  | succ fuel ihf =>
    induction ws generalizing s with
    | nil => exact ⟨[], .done, by rw [← Option.some.inj h]; rfl⟩
    | cons w ws ih =>
      rw [List.foldlM_cons] at h
      obtain ⟨m, hturn, hrest⟩ := Option.bind_eq_some_iff.mp h
      rw [processWork_succ (hws w List.mem_cons_self)] at hturn
      obtain ⟨first, hfirst, hm⟩ := ihf (LootSources.loaded_turn href _ _ w) hturn
      obtain ⟨items, hitems, hheld⟩ := ih (fun w' hw' => hws w' (List.mem_cons_of_mem w hw')) hrest
      refine ⟨(ctx.drawTurn rate s w).2 ++ (first ++ items), ?_, ?_⟩
      · exact .turn w ws (first ++ items) _ _ (ctx.random.nonneg s.drawn) (ctx.random.below s.drawn)
          (hfirst.append hitems)
      · rw [hheld, hm, held_addItems, LootStoreItem.holdAll_append, LootStoreItem.holdAll_append]
        rfl

theorem approx_processWork (fuel : Nat) (w : LootWork) :
    Approx (fun s => ctx.processWork rate fuel s w) (fun s => ctx.processWork rate (fuel + 1) s w) := by
  cases w with
  | entry item => exact approx_processEntry fun groupId u => approx_process_succ fuel rate groupId u
  | group group => exact approx_processGroup fun u => approx_process_succ fuel false 0 u

end LootContext

/-- From the draw `k` on the same is drawn. -/
structure LootRandom.Agrees (k : Nat) (random random' : LootRandom) : Prop where
  chance : ∀ i, k ≤ i → random'.chance i = random.chance i
  pick : ∀ i, k ≤ i → random'.pick i = random.pick i

/-- These numbers are drawn at `k`. -/
def LootRandom.drawAt (random : LootRandom) (k : Nat) (drawn : ℚ) (pick : Nat) (hnonneg : 0 ≤ drawn)
    (hbelow : drawn < 100) : LootRandom where
  chance i := if i = k then drawn else random.chance i
  pick i := if i = k then pick else random.pick i
  count := random.count
  nonneg i := by
    split
    · exact hnonneg
    · exact random.nonneg i
  below i := by
    split
    · exact hbelow
    · exact random.below i

theorem LootRandom.Agrees.of_drawAt {random random' : LootRandom} {k n : Nat} {drawn : ℚ} {pick : Nat}
    {hnonneg : 0 ≤ drawn} {hbelow : drawn < 100} (h : (random.drawAt k drawn pick hnonneg hbelow).Agrees k random')
    (hn : k < n) : random.Agrees n random' where
  chance i hi := (h.chance i (by omega)).trans (if_neg (by omega))
  pick i hi := (h.pick i (by omega)).trans (if_neg (by omega))

theorem LootSources.Outcome.exists_random {src : LootSources} (href : src.reference.Loaded) {rate : Bool}
    {ws : List LootWork} {items : List LootStoreItem} (h : src.Outcome rate ws items) (hws : ∀ w ∈ ws, w.Loaded)
    (k : Nat) : ∃ random : LootRandom, ∀ random', random.Agrees k random' → ∀ s : LootProgress, s.drawn = k →
      ∃ fuel s', ws.foldlM ((⟨src, random'⟩ : LootContext).processWork rate fuel) s = some s' ∧
        s'.held = LootStoreItem.holdAll s.held items := by
  induction h generalizing k with
  | done => exact ⟨.lowest, fun random' _ s _ => ⟨0, s, rfl, rfl⟩⟩
  | turn w rest items drawn pick hnonneg hbelow _ ih =>
    have hleft : ∀ w' ∈ (src.turn rate drawn pick w).1 ++ rest, w'.Loaded := by
      intro w' hw'
      rcases List.mem_append.mp hw' with hw' | hw'
      · exact loaded_turn href drawn pick w w' hw'
      · exact hws w' (List.mem_cons_of_mem w hw')
    obtain ⟨random, hrandom⟩ := ih hleft (k + 1 + (src.turn rate drawn pick w).2.length)
    refine ⟨random.drawAt k drawn pick hnonneg hbelow, fun random' hagrees s hs => ?_⟩
    let ctx : LootContext := ⟨src, random'⟩
    have hdraw : ctx.drawTurn rate s w = src.turn rate drawn pick w := by
      have hchance : random'.chance s.drawn = drawn :=
        (hagrees.chance s.drawn (by omega)).trans (if_pos hs)
      have hpick : random'.pick s.drawn = pick := (hagrees.pick s.drawn (by omega)).trans (if_pos hs)
      rw [LootContext.drawTurn, ← hchance, ← hpick]
    let started := ctx.addItems (src.turn rate drawn pick w).2 { s with drawn := s.drawn + 1 }
    have hstarted : started.drawn = k + 1 + (src.turn rate drawn pick w).2.length := by
      rw [LootContext.drawn_addItems, hs]
    obtain ⟨fuel, s', hrun, hheld⟩ := hrandom random' (hagrees.of_drawAt (by omega)) started hstarted
    rw [List.foldlM_append] at hrun
    obtain ⟨m, hfirst, hrest⟩ := Option.bind_eq_some_iff.mp hrun
    refine ⟨fuel + 1, s', ?_, ?_⟩
    · rw [List.foldlM_cons]
      refine Option.bind_eq_some_iff.mpr ⟨m, ?_, ?_⟩
      · rw [LootContext.processWork_succ (hws w List.mem_cons_self), hdraw]
        exact hfirst
      · exact approx_foldlM (fun w _ => LootContext.approx_processWork fuel w) m s' hrest
    · rw [hheld, LootContext.held_addItems, LootStoreItem.holdAll_append]
      rfl

namespace LootSources

variable (src : LootSources) (rate : Bool) (t : LootTemplate) (wanted : Nat → Bool)

def CanAdd : Prop :=
  ∃ (random : LootRandom) (fuel : Nat) (s s' : LootProgress), s.loot.questItems = [] ∧
    (⟨src, random⟩ : LootContext).process fuel rate 0 t s = some s' ∧
    ∃ x ∈ s'.loot.questItems, wanted x.info.itemid = true

def Yields : Prop :=
  ∃ items, src.Outcome rate (t.work 0) items ∧
    ∃ item ∈ (items.filter (·.needsQuest)).take maxNrQuestItems, wanted item.itemid = true

variable {src rate t wanted}

theorem canAdd_iff (href : src.reference.Loaded) (ht : t.Loaded) : src.CanAdd rate t wanted ↔ src.Yields rate t wanted := by
  have hheld : ∀ (s s' : LootProgress) (items : List LootStoreItem), s.loot.questItems = [] →
      s'.held = LootStoreItem.holdAll s.held items → ((∃ x ∈ s'.loot.questItems, wanted x.info.itemid = true) ↔
        ∃ item ∈ (items.filter (·.needsQuest)).take maxNrQuestItems, wanted item.itemid = true) := by
    intro s s' items hnone hs'
    have hstart : s.held = [] := by rw [LootProgress.held, hnone, List.map_nil]
    rw [LootStoreItem.holdAll_eq, hstart, List.nil_append, LootProgress.held, List.length_nil, Nat.sub_zero] at hs'
    have hmem : ∀ id, id ∈ s'.loot.questItems.map (·.info.itemid) ↔
        id ∈ ((items.filter (·.needsQuest)).take maxNrQuestItems).map (·.itemid) := fun id => by rw [hs']
    constructor
    · rintro ⟨x, hx, hwanted⟩
      obtain ⟨item, hitem, heq⟩ := List.mem_map.mp ((hmem _).mp (List.mem_map_of_mem hx))
      exact ⟨item, hitem, heq ▸ hwanted⟩
    · rintro ⟨item, hitem, hwanted⟩
      obtain ⟨x, hx, heq⟩ := List.mem_map.mp ((hmem _).mpr (List.mem_map_of_mem hitem))
      exact ⟨x, hx, heq ▸ hwanted⟩
  constructor
  · rintro ⟨random, fuel, s, s', hnone, hrun, hwanted⟩
    cases fuel with
    | zero => cases hrun
    | succ fuel =>
      rw [LootContext.process_succ_eq] at hrun
      obtain ⟨items, hitems, hs'⟩ := @LootContext.exists_outcome ⟨src, random⟩ rate _ href fuel (ht.work 0) s s' hrun
      exact ⟨items, hitems, (hheld s s' items hnone hs').mp hwanted⟩
  · rintro ⟨items, hitems, hwanted⟩
    obtain ⟨random, hrandom⟩ := hitems.exists_random href (ht.work 0) 0
    obtain ⟨fuel, s', hrun, hs'⟩ := hrandom random ⟨fun _ _ => rfl, fun _ _ => rfl⟩ ⟨Loot.start 0, 0⟩ rfl
    refine ⟨random, fuel + 1, ⟨Loot.start 0, 0⟩, s', rfl, ?_, (hheld _ s' items rfl hs').mpr hwanted⟩
    rw [LootContext.process_succ_eq]
    exact hrun

end LootSources

def LootTemplate.Searches (store : LootStore) (t u : LootTemplate) : Prop :=
  ∃ item ∈ t.entries, item.group = 0 ∧ item.mincountOrRef < 0 ∧ item.referenced store = some u

namespace LootTemplate

variable {store : LootStore} {found : LootStoreItem → Bool} {ws : List LootWork}

theorem exists_searchWork {fuel : Nat} (h : ∀ w ∈ ws, ∃ drop, turnDrop store found fuel w = some drop) :
    ∃ drop, searchWork store found fuel ws = some drop := by
  induction ws with
  | nil => exact ⟨false, rfl⟩
  | cons w ws ih =>
    obtain ⟨first, hfirst⟩ := h w List.mem_cons_self
    obtain ⟨drop, hdrop⟩ := ih fun w' hw' => h w' (List.mem_cons_of_mem w hw')
    rw [searchWork, hfirst, Option.bind_some]
    cases first with
    | true => exact ⟨true, rfl⟩
    | false => exact ⟨drop, hdrop⟩

theorem exists_hasDrop {t : LootTemplate} (hacc : Acc (fun u t => Searches store t u) t) :
    ∃ fuel drop, hasDrop store found fuel 0 t = some drop := by
  induction hacc with
  | intro t _ ih =>
    have heach : ∀ w ∈ t.work 0, ∃ fuel drop, turnDrop store found fuel w = some drop := by
      intro w hw
      cases w with
      | group group => exact ⟨0, _, rfl⟩
      | entry item =>
        have hmem : item ∈ t.entries := by simpa [work] using hw
        by_cases hneg : item.mincountOrRef < 0
        · cases hfound : item.referenced store with
          | none => exact ⟨0, false, by rw [turnDrop, if_pos hneg, hfound, Option.elim_none]⟩
          | some u =>
            have hcall : ∃ fuel drop, hasDrop store found fuel item.group u = some drop := by
              by_cases hgroup : item.group = 0
              · rw [hgroup]
                exact ih u ⟨item, hmem, hgroup, hneg, hfound⟩
              · exact ⟨1, _, by rw [hasDrop, if_pos hgroup]⟩
            obtain ⟨fuel, drop, hdrop⟩ := hcall
            exact ⟨fuel, drop, by rw [turnDrop, if_pos hneg, hfound, Option.elim_some, hdrop]⟩
        · exact ⟨0, found item, by rw [turnDrop, if_neg hneg]⟩
    have hmono : ∀ (w : LootWork) (fuel fuel' : Nat), fuel ≤ fuel' →
        (∃ drop, turnDrop store found fuel w = some drop) → ∃ drop, turnDrop store found fuel' w = some drop := by
      rintro w fuel fuel' hle ⟨drop, hdrop⟩
      exact ⟨drop, turnDrop_mono (fun groupId t _ => hasDrop_mono hle) hdrop⟩
    obtain ⟨fuel, hfuel⟩ := exists_common hmono heach
    obtain ⟨drop, hdrop⟩ := exists_searchWork hfuel
    exact ⟨fuel + 1, drop, by rw [hasDrop_succ, hdrop]⟩

theorem searchWork_repeated {fuel : Nat} (h : searchWork store found fuel ws = some false) (n : Nat) :
    searchWork store found fuel (List.replicate n ws).flatten = some false := by
  induction n with
  | zero => rfl
  | succ n ih => rw [List.replicate_succ, List.flatten_cons, searchWork_append, h, Option.bind_some, if_neg (by simp), ih]

end LootTemplate

namespace LootSources

variable {src : LootSources} {rate : Bool} {found : LootStoreItem → Bool} {ws : List LootWork}
  {items : List LootStoreItem}

theorem turn_of_none {fuel : Nat} {w : LootWork} (hw : w.Loaded)
    (h : LootTemplate.turnDrop src.reference found fuel w = some false) (drawn : ℚ) (pick : Nat) :
    LootTemplate.searchWork src.reference found fuel (src.turn rate drawn pick w).1 = some false ∧
      ∀ item ∈ (src.turn rate drawn pick w).2, item.needsQuest = true → found item = false := by
  cases w with
  | group group =>
    refine ⟨rfl, fun item hmem _ => ?_⟩
    have hnone : group.all.any found = false := Option.some.inj h
    have hall := List.any_eq_false.mp hnone item (LootGroup.mem_of_roll (Option.mem_toList.mp hmem))
    simpa using hall
  | entry item =>
    rw [LootTemplate.turnDrop] at h
    rw [turn]
    by_cases hroll : (!item.roll src.rules rate drawn) = true
    · rw [if_pos hroll]
      exact ⟨rfl, by simp⟩
    · rw [if_neg hroll]
      by_cases hneg : item.mincountOrRef < 0
      · rw [if_pos hneg] at h
        by_cases hcurrency : item.currency = true
        · rw [if_neg (by simp [hcurrency])]
          refine ⟨rfl, fun other hmem hquest => ?_⟩
          obtain rfl := List.mem_singleton.mp hmem
          exact absurd ((hw hneg).symm.trans hquest) (by simp)
        · rw [if_pos ⟨hneg, by simpa using hcurrency⟩]
          cases hfound : item.referenced src.reference with
          | none => exact ⟨rfl, by simp⟩
          | some u =>
            rw [hfound, Option.elim_some] at h
            dsimp only
            by_cases hcond : item.conditionId ≠ 0 ∧ (!src.meets item.conditionId) = true
            · rw [if_pos hcond]
              exact ⟨rfl, by simp⟩
            · rw [if_neg hcond]
              refine ⟨?_, by simp⟩
              cases fuel with
              | zero => cases h
              | succ fuel =>
                rw [LootTemplate.hasDrop_succ] at h
                exact LootTemplate.searchWork_repeated (LootTemplate.searchWork_succ h) item.maxcount
      · rw [if_neg hneg] at h
        rw [if_neg fun hboth => hneg hboth.1]
        refine ⟨rfl, fun other hmem _ => ?_⟩
        obtain rfl := List.mem_singleton.mp hmem
        exact Option.some.inj h

theorem Outcome.none_found (href : src.reference.Loaded) (h : src.Outcome rate ws items) (hws : ∀ w ∈ ws, w.Loaded)
    {fuel : Nat} (hsearch : LootTemplate.searchWork src.reference found fuel ws = some false) :
    ∀ item ∈ items, item.needsQuest = true → found item = false := by
  induction h with
  | done => simp
  | turn w rest items drawn pick _ _ _ ih =>
    obtain ⟨first, hfirst, hrest⟩ := Option.bind_eq_some_iff.mp hsearch
    cases first with
    | true => cases hrest
    | false =>
      obtain ⟨hleft, hhere⟩ := @turn_of_none src rate found fuel w (hws w List.mem_cons_self) hfirst drawn pick
      have hloaded : ∀ w' ∈ (src.turn rate drawn pick w).1 ++ rest, w'.Loaded := by
        intro w' hw'
        rcases List.mem_append.mp hw' with hw' | hw'
        · exact loaded_turn href drawn pick w w' hw'
        · exact hws w' (List.mem_cons_of_mem w hw')
      have hlater := ih hloaded (by rw [LootTemplate.searchWork_append, hleft]; exact hrest)
      intro item hmem
      rcases List.mem_append.mp hmem with hmem | hmem
      · exact hhere item hmem
      · exact hlater item hmem

theorem Yields.finds {t : LootTemplate} {wanted : Nat → Bool} (h : src.Yields rate t wanted)
    (href : src.reference.Loaded) (ht : t.Loaded) (hno : NoCircle (LootTemplate.Searches src.reference) t)
    (hfound : ∀ item, item.needsQuest = true → wanted item.itemid = true → found item = true) :
    LootTemplate.Finds src.reference found (t.work 0) := by
  have hfinite : {u | ReflTransGen (LootTemplate.Searches src.reference) t u}.Finite := by
    refine ((finite_values src.reference).insert t).subset fun u hu => ?_
    rcases ReflTransGen.cases_tail hu with heq | ⟨v, -, item, -, -, -, hreferenced⟩
    · exact .inl heq
    · exact .inr ⟨_, hreferenced⟩
  obtain ⟨fuel, drop, hdrop⟩ := @LootTemplate.exists_hasDrop src.reference found t (hno.acc hfinite)
  refine LootTemplate.exists_hasDrop_iff.mp ⟨fuel, ?_⟩
  cases drop with
  | true => exact hdrop
  | false =>
    obtain ⟨items, hitems, item, hmem, hwanted⟩ := h
    obtain ⟨hitem, hquest⟩ := List.mem_filter.mp (List.mem_of_mem_take hmem)
    cases fuel with
    | zero => cases hdrop
    | succ fuel =>
      rw [LootTemplate.hasDrop_succ] at hdrop
      have hnot := hitems.none_found href (ht.work 0) hdrop item hitem hquest
      exact absurd ((hfound item hquest hwanted).symm.trans hnot) (by simp)

end LootSources

def questClothRow (entry : Nat) : LootRow := clothRow entry (-100)

theorem questCloth_outcome (src : LootSources) (entry : Nat) :
    src.Outcome true [.entry (questClothRow entry).storeItem] [(questClothRow entry).storeItem] := by
  have hturn : src.turn true 0 0 (.entry (questClothRow entry).storeItem) = ([], [(questClothRow entry).storeItem]) := by
    have hroll : (questClothRow entry).storeItem.roll src.rules true 0 = true := by
      rw [LootStoreItem.roll]
      exact if_pos (by decide +kernel : (100 : ℚ) ≤ if (-100 : ℚ) < 0 then - -100 else -100)
    rw [LootSources.turn, hroll]
    rfl
  have h := LootSources.Outcome.turn (.entry (questClothRow entry).storeItem) [] [] 0 0 Rat.le_refl (by decide)
    (by rw [hturn]; exact (.done : src.Outcome true [] []))
  rwa [hturn] at h

end Mangos
