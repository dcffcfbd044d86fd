import Mangos.Bytes.Fields
import Mangos.Loot.Loot
import Mathlib.Data.List.Nodup

/-!
# The loot window

What a player sees of a loot, as it is sent to him: his quest items, then what is shared, then what is
his alone, each with the slot by which he asks for it.
-/

namespace Mangos

open Framework

namespace ByteBuffer

def appendNumbers (b : ByteBuffer) (numbers : List (IntWidth × Nat)) : ByteBuffer :=
  numbers.foldl (fun b n => b.appendNumber n.1 n.2) b

/-- `put` of a byte that is there. -/
def put (b : ByteBuffer) (pos : Nat) (value : UInt8) : ByteBuffer :=
  { b with storage := b.storage.set pos value }

def numberBytes (numbers : List (IntWidth × Nat)) : List UInt8 :=
  numbers.flatMap fun n => toBytesWide n.1.bytes n.2

theorem appendNumbers_eq (b : ByteBuffer) {numbers : List (IntWidth × Nat)} (hne : numbers ≠ []) :
    b.appendNumbers numbers = b.flushBits.appendBytes (numberBytes numbers) := by
  induction numbers generalizing b with
  | nil => exact absurd rfl hne
  | cons n numbers ih =>
    rw [appendNumbers, List.foldl_cons]
    change (b.appendNumber n.1 n.2).appendNumbers numbers = _
    by_cases hnil : numbers = []
    · subst hnil
      simp [appendNumbers, appendNumber, numberBytes]
    · have hflushed : (b.appendNumber n.1 n.2).flushBits = b.appendNumber n.1 n.2 :=
        flushBits_of_bitpos b.bitpos_flushBits
      rw [ih _ hnil, hflushed]
      simp [appendNumber, appendBytes, numberBytes]

end ByteBuffer

/-- `PermissionTypes`. -/
inductive LootPermission
  | all | group | master | owner | none
  deriving DecidableEq, Repr

/-- `LootSlotType` below its maximum. -/
inductive LootSlotType
  | normal | view | master | reqs | owner
  deriving DecidableEq, Repr

def LootSlotType.code : LootSlotType → Nat
  | .normal => 0
  | .view => 1
  | .master => 2
  | .reqs => 3
  | .owner => 4

/-- `LootItem::GetSlotTypeForSharedLoot`; there is none for an item that is not shown. -/
def LootItem.getSlotTypeForSharedLoot (item : LootItem) (permission : LootPermission)
    (allowedForPlayer conditionOk : Bool) : Option LootSlotType :=
  if item.info.currency || item.isLooted || item.info.freeforall ||
      (item.info.conditionId ≠ 0 && !conditionOk) || !allowedForPlayer then none
  else match permission with
    | .all => some .normal
    | .group => some (if item.isBlocked || item.isUnderthreshold then .normal else .view)
    | .master => some (if !item.isUnderthreshold then .master else .normal)
    | .owner => some .owner
    | .none => none

/-- What is only shown of an item: the display of its template, and the suffix and the property that
were drawn for it. -/
structure LootDisplay where
  displayInfoID : Nat → Nat
  randomSuffix : Nat → Nat
  randomPropertyId : Nat → Nat

/-- `operator<<` of a `LootItem`. -/
def LootItem.numbers (display : LootDisplay) (item : LootItem) : List (IntWidth × Nat) :=
  if item.info.currency then [(.w32, item.info.itemid), (.w32, item.count)]
  else [(.w32, item.info.itemid), (.w32, item.count), (.w32, display.displayInfoID item.info.itemid),
    (.w32, display.randomSuffix item.uid), (.w32, display.randomPropertyId item.uid)]

/-- An entry of the window: the item at `index` of the quest items or of the items. A currency has no
slot type. -/
structure ShownLoot where
  slot : Nat
  quest : Bool
  index : Nat
  item : LootItem
  slotType : Option LootSlotType
  deriving DecidableEq, Repr

namespace ShownLoot

def numbers (display : LootDisplay) (e : ShownLoot) : List (IntWidth × Nat) :=
  (.w8, e.slot) :: e.item.numbers display ++ e.slotType.toList.map fun t => (.w8, t.code)

def slotByte (e : ShownLoot) : UInt8 := .ofNat e.slot

end ShownLoot

/-- `LootView`; `allowedForPlayer` is what `AllowedForPlayer` says of the viewer. -/
structure LootView where
  loot : Loot
  viewer : Nat
  permission : LootPermission
  allowedForPlayer : LootItemInfo → Bool

namespace LootView

variable (lv : LootView)

def questItemsCount : Nat := (lv.loot.entriesOf .quest lv.viewer).length

def ownSlotType : LootSlotType := if lv.permission = .owner then .owner else .normal

def questShown : List ShownLoot :=
  (lv.loot.entriesOf .quest lv.viewer).zipIdx.filterMap fun p =>
    (lv.loot.questItems[p.1.index]?).bind fun item =>
      if !p.1.isLooted && !item.isLooted then
        some ⟨p.2, true, p.1.index, item, some lv.ownSlotType⟩
      else none

def itemEntry (index : Nat) (item : LootItem) (slotType : Option LootSlotType) : ShownLoot :=
  ⟨lv.questItemsCount + index, false, index, item, slotType⟩

def conditionalShown : List ShownLoot :=
  (lv.loot.entriesOf .conditional lv.viewer).filterMap fun ci =>
    (lv.loot.items[ci.index]?).bind fun item =>
      (item.getSlotTypeForSharedLoot lv.permission (lv.allowedForPlayer item.info)
        !ci.isLooted).map fun slotType => lv.itemEntry ci.index item (some slotType)

def sharedShown : List ShownLoot :=
  lv.loot.items.zipIdx.filterMap fun p =>
    (p.1.getSlotTypeForSharedLoot lv.permission (lv.allowedForPlayer p.1.info) false).map
      fun slotType => lv.itemEntry p.2 p.1 (some slotType)

def ownShown (kind : EntryKind) (slotType : Option LootSlotType) : List ShownLoot :=
  (lv.loot.entriesOf kind lv.viewer).filterMap fun e =>
    (lv.loot.items[e.index]?).bind fun item =>
      if !e.isLooted && !item.isLooted then some (lv.itemEntry e.index item slotType) else none

def itemsShown : List ShownLoot :=
  if lv.permission = .none then []
  else lv.questShown ++ lv.conditionalShown ++ lv.sharedShown ++ lv.ownShown .ffa lv.ownSlotType

def currenciesShown : List ShownLoot :=
  if lv.permission = .none then [] else lv.ownShown .currency none

def goldShown : Nat := if lv.permission = .none then 0 else lv.loot.gold

/-- `operator<<` of a `LootView`. The numbers of entries are put in when all are written. -/
def write (display : LootDisplay) (b : ByteBuffer) : ByteBuffer :=
  if lv.permission = .none then b.appendNumbers [(.w32, 0), (.w8, 0), (.w8, 0)]
  else
    let b := b.appendNumber .w32 lv.loot.gold
    let countPos := b.storage.length
    let b := b.appendNumber .w8 0
    let currencyCountPos := b.storage.length
    let b := b.appendNumber .w8 0
    let b := (lv.itemsShown ++ lv.currenciesShown).foldl
      (fun b e => b.appendNumbers (e.numbers display)) b
    (b.put countPos (.ofNat lv.itemsShown.length)).put currencyCountPos
      (.ofNat lv.currenciesShown.length)

def entryBytes (display : LootDisplay) : List UInt8 :=
  (lv.itemsShown ++ lv.currenciesShown).flatMap fun e => ByteBuffer.numberBytes (e.numbers display)

end LootView

/-!
## The slots of the loot window

The slots that are written in a loot window are those that `LootItemInSlot` reads, for every mixture of
quest items, shared items and items for one player.
-/

private theorem map_filterMap_sublist {α β γ : Type*} {f : α → Option β} {g : β → γ} {h : α → γ}
    (hf : ∀ a b, f a = some b → g b = h a) (l : List α) : List.Sublist ((l.filterMap f).map g) (l.map h) := by
  induction l with
  | nil => exact .slnil
  | cons a l ih =>
    cases ha : f a with
    | none =>
      rw [List.filterMap_cons_none ha, List.map_cons]
      exact ih.cons _
    | some b =>
      rw [List.filterMap_cons_some ha, List.map_cons, List.map_cons, hf a b ha]
      exact ih.cons_cons _

namespace Loot

/-- The entries of each list name quest items, or different items of the kind of the list, and there are
no more of both than a loot can hold. -/
structure Consistent (loot : Loot) : Prop where
  quest : ∀ p ∈ loot.entries .quest, ∀ q ∈ p.2, q.index < loot.questItems.length
  entry : ∀ kind, kind ≠ .quest → ∀ p ∈ loot.entries kind, ∀ q ∈ p.2,
    (loot.items.map (·.entryKind))[q.index]? = some (some kind)
  distinct : ∀ kind, kind ≠ .quest → ∀ p ∈ loot.entries kind, (p.2.map (·.index)).Nodup
  items : loot.items.length ≤ maxNrLootItems
  room : ∀ p ∈ loot.entries .quest, p.2.length + loot.items.length ≤ maxNrLootItems

theorem mem_entriesOf {loot : Loot} {kind : EntryKind} {pl : Nat} {q : QuestItem}
    (h : q ∈ loot.entriesOf kind pl) : (pl, loot.entriesOf kind pl) ∈ loot.entries kind := by
  rw [entriesOf] at h ⊢
  cases hlist : lookupKey pl (loot.entries kind) with
  | none =>
    rw [hlist] at h
    cases h
  | some ql => exact lookupKey_mem hlist

namespace Consistent

variable {loot : Loot} (h : loot.Consistent) (pl : Nat) {kind : EntryKind}
include h

theorem entryOf (hkind : kind ≠ .quest) {q : QuestItem} (hq : q ∈ loot.entriesOf kind pl) :
    ∃ item, loot.items[q.index]? = some item ∧ item.entryKind = some kind := by
  have hentry := h.entry kind hkind _ (mem_entriesOf hq) q hq
  rw [List.getElem?_map] at hentry
  exact Option.map_eq_some_iff.mp hentry

theorem distinctOf (hkind : kind ≠ .quest) : ((loot.entriesOf kind pl).map (·.index)).Nodup := by
  cases hlist : loot.entriesOf kind pl with
  | nil => exact List.nodup_nil
  | cons q ql =>
    have hq : q ∈ loot.entriesOf kind pl := by
      rw [hlist]
      exact List.mem_cons_self
    have hnodup := h.distinct kind hkind _ (mem_entriesOf hq)
    rw [hlist] at hnodup
    exact hnodup

theorem roomOf : (loot.entriesOf .quest pl).length + loot.items.length ≤ maxNrLootItems := by
  cases hlist : loot.entriesOf .quest pl with
  | nil =>
    rw [List.length_nil, Nat.zero_add]
    exact h.items
  | cons q ql =>
    have hq : q ∈ loot.entriesOf .quest pl := by
      rw [hlist]
      exact List.mem_cons_self
    have hroom := h.room _ (mem_entriesOf hq)
    rw [hlist] at hroom
    exact hroom

end Consistent

def SlotAnswer.Shows (e : ShownLoot) : SlotAnswer → Prop
  | .questItem index found _ => e.quest = true ∧ e.index = index ∧ e.item = found
  | .item index found _ => e.quest = false ∧ e.index = index ∧ e.item = found
  | .outOfRange | .nothing => False

end Loot

namespace LootView

variable {lv : LootView} {e : ShownLoot}

theorem mem_questShown (h : e ∈ lv.questShown) : ∃ q, q.isLooted = false ∧
    (lv.loot.entriesOf .quest lv.viewer)[e.slot]? = some q ∧
      lv.loot.questItems[q.index]? = some e.item ∧ e.quest = true ∧ e.index = q.index := by
  obtain ⟨p, hp, he⟩ := List.mem_filterMap.mp h
  obtain ⟨item, hitem, he⟩ := Option.bind_eq_some_iff.mp he
  split at he
  next hfree =>
    cases he
    simp only [Bool.and_eq_true, Bool.not_eq_true'] at hfree
    exact ⟨p.1, hfree.1, List.mem_zipIdx_iff_getElem?.mp hp, hitem, rfl, rfl⟩
  next => cases he

/-- An entry for an item that no player has taken and that the viewer has in `list`, if it is one for a
list. -/
structure IsItem (lv : LootView) (list : Option EntryKind) (e : ShownLoot) : Prop where
  slot : e.slot = lv.questItemsCount + e.index
  quest : e.quest = false
  item : lv.loot.items[e.index]? = some e.item
  untaken : e.item.isLooted = false
  kind : e.item.entryKind = list
  entry : ∀ k, list = some k → ∃ q ∈ lv.loot.entriesOf k lv.viewer, q.index = e.index ∧ q.isLooted = false

theorem shared_of_slotType {item : LootItem} {permission : LootPermission}
    {allowed conditionOk : Bool} {t : LootSlotType}
    (h : item.getSlotTypeForSharedLoot permission allowed conditionOk = some t) :
    item.info.currency = false ∧ item.isLooted = false ∧ item.info.freeforall = false ∧
      (item.info.conditionId ≠ 0 → conditionOk = true) := by
  unfold LootItem.getSlotTypeForSharedLoot at h
  split at h
  · cases h
  next hnot =>
    simp only [Bool.or_eq_true, not_or, Bool.and_eq_true, decide_eq_true_eq, Bool.not_eq_true,
      Bool.not_eq_true', not_and, Bool.not_eq_false] at hnot
    exact ⟨hnot.1.1.1.1, hnot.1.1.1.2, hnot.1.1.2, hnot.1.2⟩

theorem mem_conditionalShown (hloot : lv.loot.Consistent) (h : e ∈ lv.conditionalShown) :
    lv.IsItem (some .conditional) e := by
  obtain ⟨ci, hci, he⟩ := List.mem_filterMap.mp h
  obtain ⟨item, hitem, he⟩ := Option.bind_eq_some_iff.mp he
  obtain ⟨t, ht, rfl⟩ := Option.map_eq_some_iff.mp he
  obtain ⟨item', hitem', hkind⟩ := hloot.entryOf lv.viewer (by decide) hci
  obtain rfl := Option.some.inj (hitem.symm.trans hitem')
  obtain ⟨hcurrency, hlooted, hffa, hcondition⟩ := shared_of_slotType ht
  have hconditional : item.info.conditionId ≠ 0 := by
    intro hzero
    simp [LootItem.entryKind, hcurrency, hffa, hzero] at hkind
  have huntaken := hcondition hconditional
  refine ⟨rfl, rfl, hitem, hlooted, hkind, fun k hk => ?_⟩
  obtain rfl := Option.some.inj hk
  exact ⟨ci, hci, rfl, by simpa using huntaken⟩

theorem mem_sharedShown (h : e ∈ lv.sharedShown) : lv.IsItem none e := by
  obtain ⟨p, hp, he⟩ := List.mem_filterMap.mp h
  obtain ⟨t, ht, rfl⟩ := Option.map_eq_some_iff.mp he
  obtain ⟨hcurrency, hlooted, hffa, hcondition⟩ := shared_of_slotType ht
  have hplain : p.1.info.conditionId = 0 := by
    by_contra hne
    exact absurd (hcondition hne) Bool.false_ne_true
  refine ⟨rfl, rfl, List.mem_zipIdx_iff_getElem?.mp hp, hlooted, ?_, fun k hk => by cases hk⟩
  simp [itemEntry, LootItem.entryKind, hcurrency, hffa, hplain]

theorem mem_ownShown (hloot : lv.loot.Consistent) {kind : EntryKind} (hkind : kind ≠ .quest)
    {slotType : Option LootSlotType} (h : e ∈ lv.ownShown kind slotType) : lv.IsItem (some kind) e := by
  obtain ⟨q, hq, he⟩ := List.mem_filterMap.mp h
  obtain ⟨item, hitem, he⟩ := Option.bind_eq_some_iff.mp he
  obtain ⟨item', hitem', hkind'⟩ := hloot.entryOf lv.viewer hkind hq
  obtain rfl := Option.some.inj (hitem.symm.trans hitem')
  split at he
  next hfree =>
    cases he
    simp only [Bool.and_eq_true, Bool.not_eq_true'] at hfree
    refine ⟨rfl, rfl, hitem, hfree.2, hkind', fun k hk => ?_⟩
    obtain rfl := Option.some.inj hk
    exact ⟨q, hq, rfl, hfree.1⟩
  next => cases he

theorem IsItem.lt {kind : Option EntryKind} (h : lv.IsItem kind e) : e.index < lv.loot.items.length :=
  (List.getElem?_eq_some_iff.mp h.item).1

theorem IsItem.slot_ne {kind kind' : Option EntryKind} {e' : ShownLoot} (h : lv.IsItem kind e)
    (h' : lv.IsItem kind' e') (hne : kind ≠ kind') : e.slot ≠ e'.slot := by
  intro hslot
  rw [h.slot, h'.slot] at hslot
  have hindex : e.index = e'.index := Nat.add_left_cancel hslot
  have hitem := h.item
  rw [hindex, h'.item] at hitem
  apply hne
  rw [← h.kind, ← h'.kind, Option.some.inj hitem]

theorem questShown_lt (h : e ∈ lv.questShown) : e.slot < lv.questItemsCount := by
  obtain ⟨q, -, hslot, -⟩ := mem_questShown h
  exact (List.getElem?_eq_some_iff.mp hslot).1

theorem nodup_questShown : (lv.questShown.map (·.slot)).Nodup := by
  have hsub : List.Sublist (lv.questShown.map (·.slot))
      ((lv.loot.entriesOf .quest lv.viewer).zipIdx.map (·.2)) := by
    apply map_filterMap_sublist
    intro p e he
    obtain ⟨item, -, he⟩ := Option.bind_eq_some_iff.mp he
    split at he
    · cases he
      rfl
    · cases he
  refine List.Nodup.sublist hsub ?_
  rw [List.zipIdx_map_snd]
  exact List.nodup_range'

theorem nodup_shown {f : QuestItem → Option ShownLoot}
    (hf : ∀ q e, f q = some e → e.slot = lv.questItemsCount + q.index) {l : List QuestItem}
    (hl : (l.map (·.index)).Nodup) : ((l.filterMap f).map (·.slot)).Nodup := by
  refine List.Nodup.sublist (map_filterMap_sublist hf l) ?_
  have hmap : (l.map fun q => lv.questItemsCount + q.index) =
      (l.map (·.index)).map (lv.questItemsCount + ·) := by rw [List.map_map]; rfl
  rw [hmap]
  exact hl.map fun _ _ h => Nat.add_left_cancel h

theorem nodup_conditionalShown (hloot : lv.loot.Consistent) : (lv.conditionalShown.map (·.slot)).Nodup := by
  refine @nodup_shown lv _ ?_ _ (hloot.distinctOf lv.viewer (by decide))
  intro q e he
  obtain ⟨item, -, he⟩ := Option.bind_eq_some_iff.mp he
  obtain ⟨t, -, rfl⟩ := Option.map_eq_some_iff.mp he
  rfl

theorem nodup_ownShown (hloot : lv.loot.Consistent) {kind : EntryKind} (hkind : kind ≠ .quest)
    (slotType : Option LootSlotType) : ((lv.ownShown kind slotType).map (·.slot)).Nodup := by
  refine @nodup_shown lv _ ?_ _ (hloot.distinctOf lv.viewer hkind)
  intro q e he
  obtain ⟨item, -, he⟩ := Option.bind_eq_some_iff.mp he
  split at he
  · cases he
    rfl
  · cases he

theorem nodup_sharedShown : (lv.sharedShown.map (·.slot)).Nodup := by
  have hsub : List.Sublist (lv.sharedShown.map (·.slot))
      (lv.loot.items.zipIdx.map fun p => lv.questItemsCount + p.2) := by
    apply map_filterMap_sublist
    intro p e he
    obtain ⟨t, -, rfl⟩ := Option.map_eq_some_iff.mp he
    rfl
  refine List.Nodup.sublist hsub ?_
  have hmap : (lv.loot.items.zipIdx.map fun p => lv.questItemsCount + p.2) =
      (lv.loot.items.zipIdx.map (·.2)).map (lv.questItemsCount + ·) := by rw [List.map_map]; rfl
  rw [hmap, List.zipIdx_map_snd]
  exact List.Nodup.map (fun _ _ h => Nat.add_left_cancel h) List.nodup_range'

theorem nodup_slots (hloot : lv.loot.Consistent) : ((lv.itemsShown ++ lv.currenciesShown).map (·.slot)).Nodup := by
  rw [itemsShown, currenciesShown]
  split
  · exact List.nodup_nil
  have hquest : ∀ {kind : Option EntryKind} {l : List ShownLoot}, (∀ e ∈ l, lv.IsItem kind e) →
      ∀ a ∈ lv.questShown.map (·.slot), ∀ b ∈ l.map (·.slot), a ≠ b := by
    intro kind l hl a ha b hb hab
    obtain ⟨e, he, rfl⟩ := List.mem_map.mp ha
    obtain ⟨e', he', rfl⟩ := List.mem_map.mp hb
    have hlt := questShown_lt he
    rw [hab, (hl e' he').slot] at hlt
    omega
  have hkinds : ∀ {kind kind' : Option EntryKind} {l l' : List ShownLoot}, kind ≠ kind' →
      (∀ e ∈ l, lv.IsItem kind e) → (∀ e ∈ l', lv.IsItem kind' e) →
      ∀ a ∈ l.map (·.slot), ∀ b ∈ l'.map (·.slot), a ≠ b := by
    intro kind kind' l l' hne hl hl' a ha b hb
    obtain ⟨e, he, rfl⟩ := List.mem_map.mp ha
    obtain ⟨e', he', rfl⟩ := List.mem_map.mp hb
    exact (hl e he).slot_ne (hl' e' he') hne
  have hconditional : ∀ e ∈ lv.conditionalShown, lv.IsItem (some .conditional) e :=
    fun _ he => mem_conditionalShown hloot he
  have hshared : ∀ e ∈ lv.sharedShown, lv.IsItem none e := fun _ he => mem_sharedShown he
  have hffa : ∀ e ∈ lv.ownShown .ffa lv.ownSlotType, lv.IsItem (some .ffa) e :=
    fun _ he => mem_ownShown hloot (by decide) he
  have hcurrency : ∀ e ∈ lv.ownShown .currency none, lv.IsItem (some .currency) e :=
    fun _ he => mem_ownShown hloot (by decide) he
  simp only [List.map_append]
  refine List.nodup_append.mpr ⟨List.nodup_append.mpr ⟨List.nodup_append.mpr ⟨List.nodup_append.mpr
    ⟨nodup_questShown, nodup_conditionalShown hloot, hquest hconditional⟩, nodup_sharedShown, ?_⟩,
    nodup_ownShown hloot (by decide) _, ?_⟩, nodup_ownShown hloot (by decide) _, ?_⟩
  · intro a ha
    rcases List.mem_append.mp ha with ha | ha
    · exact hquest hshared a ha
    · exact hkinds (by decide) hconditional hshared a ha
  · intro a ha
    rcases List.mem_append.mp ha with ha | ha
    · rcases List.mem_append.mp ha with ha | ha
      · exact hquest hffa a ha
      · exact hkinds (by decide) hconditional hffa a ha
    · exact hkinds (by decide) hshared hffa a ha
  · intro a ha
    rcases List.mem_append.mp ha with ha | ha
    · rcases List.mem_append.mp ha with ha | ha
      · rcases List.mem_append.mp ha with ha | ha
        · exact hquest hcurrency a ha
        · exact hkinds (by decide) hconditional hcurrency a ha
      · exact hkinds (by decide) hshared hcurrency a ha
    · exact hkinds (by decide) hffa hcurrency a ha

theorem mem_shown (hloot : lv.loot.Consistent) (h : e ∈ lv.itemsShown ++ lv.currenciesShown) :
    e ∈ lv.questShown ∨ ∃ kind, kind ≠ some .quest ∧ lv.IsItem kind e := by
  rw [itemsShown, currenciesShown] at h
  split at h
  · cases h
  simp only [List.mem_append] at h
  rcases h with (((hquest | hconditional) | hshared) | hffa) | hcurrency
  · exact .inl hquest
  · exact .inr ⟨_, by decide, mem_conditionalShown hloot hconditional⟩
  · exact .inr ⟨_, by decide, mem_sharedShown hshared⟩
  · exact .inr ⟨_, by decide, mem_ownShown hloot (by decide) hffa⟩
  · exact .inr ⟨_, by decide, mem_ownShown hloot (by decide) hcurrency⟩

theorem slot_lt (hloot : lv.loot.Consistent) (h : e ∈ lv.itemsShown ++ lv.currenciesShown) :
    e.slot < maxNrLootItems := by
  have hroom := hloot.roomOf lv.viewer
  rcases mem_shown hloot h with hquest | ⟨kind, -, hitem⟩
  · have hlt := questShown_lt hquest
    rw [questItemsCount] at hlt
    omega
  · have hlt := hitem.lt
    rw [hitem.slot, questItemsCount]
    omega

theorem slotByte_toNat (hloot : lv.loot.Consistent) (h : e ∈ lv.itemsShown ++ lv.currenciesShown) :
    e.slotByte.toNat = e.slot := by
  have hlt := slot_lt hloot h
  rw [ShownLoot.slotByte, UInt8.toNat_ofNat']
  exact Nat.mod_eq_of_lt (hlt.trans (by decide))

theorem lootItemInSlot_quest (h : e ∈ lv.questShown) : (lv.loot.lootItemInSlot lv.viewer e.slot).Shows e := by
  obtain ⟨q, hfree, hentry, hitem, hquest, hindex⟩ := mem_questShown h
  simp only [Loot.lootItemInSlot, hentry, hitem, hfree, Bool.false_eq_true, if_false]
  exact ⟨hquest, hindex, rfl⟩

theorem IsItem.ownEntry (hloot : lv.loot.Consistent) {kind : Option EntryKind}
    (hkind : kind ≠ some .quest) (h : lv.IsItem kind e) :
    ∀ k n q, lv.loot.ownEntry lv.viewer e.index e.item = some (k, n, q) → q.isLooted = false := by
  intro k n q hown
  obtain ⟨k', hk', hfound⟩ := Option.bind_eq_some_iff.mp hown
  obtain ⟨p, hp, heq⟩ := Option.map_eq_some_iff.mp hfound
  cases heq
  rw [h.kind] at hk'
  obtain ⟨q, hq, hindex, hfree⟩ := h.entry k hk'
  have hmem : p.1 ∈ lv.loot.entriesOf k lv.viewer :=
    List.mem_of_getElem? (List.mem_zipIdx_iff_getElem?.mp (List.mem_of_find?_eq_some hp))
  have hindex' : p.1.index = e.index := by simpa using List.find?_some hp
  have hlist : k ≠ .quest := fun hquest => hkind (by rw [hk', hquest])
  have hnodup := hloot.distinctOf lv.viewer hlist
  have hsame : p.1 = q :=
    List.inj_on_of_nodup_map hnodup hmem hq (hindex'.trans hindex.symm)
  rw [hsame]
  exact hfree

theorem IsItem.lootItemInSlot (hloot : lv.loot.Consistent) {kind : Option EntryKind}
    (hkind : kind ≠ some .quest) (h : lv.IsItem kind e) : (lv.loot.lootItemInSlot lv.viewer e.slot).Shows e := by
  have hbehind : (lv.loot.entriesOf .quest lv.viewer)[e.slot]? = none := by
    rw [List.getElem?_eq_none_iff, h.slot]
    exact Nat.le_add_right _ _
  have hindex : e.slot - (lv.loot.entriesOf .quest lv.viewer).length = e.index := by
    rw [h.slot]
    exact Nat.add_sub_cancel_left _ _
  simp only [Loot.lootItemInSlot, hbehind, hindex, h.item]
  cases hown : lv.loot.ownEntry lv.viewer e.index e.item with
  | none =>
    simp only [h.untaken, Bool.false_eq_true, if_false]
    exact ⟨h.quest, rfl, rfl⟩
  | some p =>
    obtain ⟨k, n, q⟩ := p
    simp only [h.ownEntry hloot hkind k n q hown, Bool.false_eq_true, if_false]
    exact ⟨h.quest, rfl, rfl⟩

theorem foldl_appendNumbers (display : LootDisplay) (es : List ShownLoot) {b : ByteBuffer}
    (hflushed : b.flushBits = b) : es.foldl (fun b e => b.appendNumbers (e.numbers display)) b =
      b.appendBytes (es.flatMap fun e => ByteBuffer.numberBytes (e.numbers display)) := by
  induction es generalizing b with
  | nil => simp [ByteBuffer.appendBytes]
  | cons e es ih =>
    have hne : e.numbers display ≠ [] := List.cons_ne_nil _ _
    have hbits := b.bitpos_flushBits
    rw [hflushed] at hbits
    have hnext : ∀ bytes, (b.appendBytes bytes).flushBits = b.appendBytes bytes :=
      fun _ => ByteBuffer.flushBits_of_bitpos hbits
    rw [List.foldl_cons, b.appendNumbers_eq hne, hflushed, ih (hnext _)]
    simp [ByteBuffer.appendBytes]

theorem storage_write (display : LootDisplay) (b : ByteBuffer) :
    (lv.write display b).storage = b.flushBits.storage ++ toBytesWide 4 lv.goldShown ++
      [.ofNat lv.itemsShown.length, .ofNat lv.currenciesShown.length] ++ lv.entryBytes display := by
  rw [write, entryBytes]
  split
  next hnone =>
    rw [ByteBuffer.appendNumbers_eq _ (List.cons_ne_nil _ _)]
    simp [ByteBuffer.appendBytes, ByteBuffer.numberBytes, goldShown, itemsShown, currenciesShown,
      hnone, IntWidth.bytes, toBytesWide]
  next hsome =>
    have hflushed : ∀ bytes, (b.flushBits.appendBytes bytes).flushBits = b.flushBits.appendBytes bytes :=
      fun _ => ByteBuffer.flushBits_of_bitpos b.bitpos_flushBits
    have hnumber : ∀ bytes width value, (b.flushBits.appendBytes bytes).appendNumber width value =
        b.flushBits.appendBytes (bytes ++ toBytesWide width.bytes value) := by
      intro bytes width value
      rw [ByteBuffer.appendNumber, hflushed]
      simp [ByteBuffer.appendBytes]
    have hgold : b.appendNumber .w32 lv.loot.gold =
        b.flushBits.appendBytes (toBytesWide 4 lv.loot.gold) := rfl
    have hzero : toBytesWide IntWidth.w8.bytes 0 = [0] := rfl
    simp only [hgold, hnumber, hzero, foldl_appendNumbers display _ (hflushed _), goldShown, if_neg hsome]
    simp only [ByteBuffer.put, ByteBuffer.appendBytes]
    simp

end LootView

/-- The loot window of a consistent loot begins with the money and the numbers of items and currencies it shows. Their
slots differ, and each is read as the item shown there. -/
theorem lootView_agrees (lv : LootView) (hloot : lv.loot.Consistent) (display : LootDisplay)
    (b : ByteBuffer) : ((lv.write display b).storage = b.flushBits.storage ++ toBytesWide 4 lv.goldShown ++
        [.ofNat lv.itemsShown.length, .ofNat lv.currenciesShown.length] ++ lv.entryBytes display ∧
      lv.itemsShown.length < 256 ∧ lv.currenciesShown.length < 256) ∧
    ((lv.itemsShown ++ lv.currenciesShown).map (·.slotByte)).Nodup ∧ ∀ e ∈ lv.itemsShown ++ lv.currenciesShown,
      (lv.loot.lootItemInSlot lv.viewer e.slotByte.toNat).Shows e := by
  have hslots := LootView.nodup_slots hloot
  have hlength : (lv.itemsShown ++ lv.currenciesShown).length ≤ maxNrLootItems := by
    have hsub : (lv.itemsShown ++ lv.currenciesShown).map (·.slot) ⊆ List.range maxNrLootItems := by
      intro slot hslot
      obtain ⟨e, he, rfl⟩ := List.mem_map.mp hslot
      exact List.mem_range.mpr (LootView.slot_lt hloot he)
    have hle := (List.subperm_of_subset hslots hsub).length_le
    rwa [List.length_map, List.length_range] at hle
  rw [List.length_append, maxNrLootItems] at hlength
  refine ⟨⟨LootView.storage_write display b, by omega, by omega⟩, ?_, fun e he => ?_⟩
  · refine List.Nodup.of_map UInt8.toNat ?_
    rw [List.map_map]
    have hbytes : (lv.itemsShown ++ lv.currenciesShown).map (UInt8.toNat ∘ (·.slotByte)) =
        (lv.itemsShown ++ lv.currenciesShown).map (·.slot) :=
      List.map_congr_left fun e he => LootView.slotByte_toNat hloot he
    rw [hbytes]
    exact hslots
  · rw [LootView.slotByte_toNat hloot he]
    rcases LootView.mem_shown hloot he with hquest | ⟨kind, hkind, hitem⟩
    · exact LootView.lootItemInSlot_quest hquest
    · exact hitem.lootItemInSlot hloot hkind

private def mixedLoot : Loot :=
  let item (uid conditionId : Nat) (currency freeforall : Bool) : LootItem :=
    { uid, info := ⟨100 + uid, currency, freeforall, conditionId, false⟩, count := 1 }
  { Loot.start 7 with
    items := [item 0 0 false false, item 1 5 false false, item 2 0 false true, item 3 0 true false]
    questItems := [{ uid := 4, info := ⟨104, false, false, 0, true⟩, count := 1 }]
    entries := fun
      | .quest => [(1, [⟨0, false, 4⟩])]
      | .conditional => [(1, [⟨1, false, 1⟩])]
      | .ffa => [(1, [⟨2, false, 2⟩])]
      | .currency => [(1, [⟨3, false, 3⟩])] }

/-- All five are shown to player 1 in a group. -/
theorem lootView_agrees_mixed :
    let lv : LootView := ⟨mixedLoot, 1, .group, fun _ => true⟩
    ((lv.itemsShown ++ lv.currenciesShown).map (·.slotByte)) = [0, 2, 1, 3, 4] ∧
      ∀ e ∈ lv.itemsShown ++ lv.currenciesShown, (lv.loot.lootItemInSlot lv.viewer e.slotByte.toNat).Shows e := by
  have hloot : mixedLoot.Consistent := by
    refine ⟨by decide, fun kind hkind => ?_, fun kind hkind => ?_, by decide, by decide⟩
    · cases kind with
      | quest => exact absurd rfl hkind
      | ffa | conditional | currency => decide
    · cases kind with
      | quest => exact absurd rfl hkind
      | ffa | conditional | currency => decide
  exact ⟨by decide +kernel, (lootView_agrees ⟨mixedLoot, 1, .group, fun _ => true⟩ hloot
    ⟨id, id, id⟩ .empty).2.2⟩

end Mangos
