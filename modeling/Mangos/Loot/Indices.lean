import Mangos.Loot.Ages

/-!
# Indices into a loot

The lists of the players and the rolls keep indices of loot items.
-/

namespace Mangos

open Framework

def Denotes (items : List LootItem) (index uid : Nat) : Prop :=
  ∃ item, items[index]? = some item ∧ item.uid = uid

theorem denotes_iff {items : List LootItem} {index uid : Nat} :
    Denotes items index uid ↔ (items.map (·.uid))[index]? = some uid := by
  rw [List.getElem?_map, Option.map_eq_some_iff]
  rfl

theorem denotes_congr {items items' : List LootItem} (h : items'.map (·.uid) = items.map (·.uid)) {index uid : Nat} :
    Denotes items' index uid ↔ Denotes items index uid := by
  rw [denotes_iff, denotes_iff, h]

instance (items : List LootItem) (index uid : Nat) : Decidable (Denotes items index uid) :=
  decidable_of_iff _ denotes_iff.symm

namespace Loot

def vectorOf (loot : Loot) : EntryKind → List LootItem
  | .quest => loot.questItems
  | .ffa | .conditional | .currency => loot.items

def uids (loot : Loot) : List Nat :=
  loot.items.map (·.uid) ++ loot.questItems.map (·.uid)

/-- Names are not given twice. -/
structure UidsDistinct (loot : Loot) : Prop where
  nodup : loot.uids.Nodup
  lt : ∀ uid ∈ loot.uids, uid < loot.nextUid

def EntriesValid (loot : Loot) : Prop :=
  ∀ kind, ∀ p ∈ loot.entries kind, ∀ q ∈ p.2, Denotes (loot.vectorOf kind) q.index q.uid

/-- Items have names of their own, and the entries of all lists denote the items they were made
for. -/
structure Valid (loot : Loot) : Prop where
  distinct : loot.UidsDistinct
  entries : loot.EntriesValid

variable {loot loot' : Loot}

theorem UidsDistinct.congr (h : loot.UidsDistinct) (huids : loot'.uids = loot.uids)
    (hnext : loot'.nextUid = loot.nextUid) : loot'.UidsDistinct := by
  refine ⟨?_, ?_⟩
  · rw [huids]
    exact h.nodup
  · rw [huids, hnext]
    exact h.lt

theorem Ages.uids (h : loot.Ages loot') : loot'.uids = loot.uids := by
  rw [Loot.uids, Loot.uids, h.items.uids, h.questUids]

theorem Ages.vectorOf_uids (h : loot.Ages loot') (kind : EntryKind) :
    (loot'.vectorOf kind).map (·.uid) = (loot.vectorOf kind).map (·.uid) := by
  cases kind with
  | quest => exact h.questUids
  | ffa | conditional | currency => exact h.items.uids

theorem Valid.ages (h : loot.Valid) (hages : loot.Ages loot') : loot'.Valid := by
  refine ⟨h.distinct.congr hages.uids hages.nextUid, fun kind p' hp' q' hq' => ?_⟩
  obtain ⟨p, hp, q, hq, hindex, huid⟩ := hages.entries kind p' hp' q' hq'
  rw [denotes_congr (hages.vectorOf_uids kind), ← hindex, ← huid]
  exact h.entries kind p hp q hq

theorem uidsDistinct_addItem (tables : LootTables) (h : loot.UidsDistinct) (drop : LootDrop) :
    (loot.addItem tables drop).UidsDistinct := by
  have hfresh : loot.nextUid ∉ loot.uids := fun hmem => lt_irrefl _ (h.lt _ hmem)
  have hgrown : ∀ loot' : Loot, loot'.uids.Perm (loot.nextUid :: loot.uids) →
      loot'.nextUid = loot.nextUid + 1 → loot'.UidsDistinct := by
    intro loot' hperm hnext
    refine ⟨hperm.nodup_iff.mpr (List.nodup_cons.mpr ⟨hfresh, h.nodup⟩), fun uid huid => ?_⟩
    rw [hnext]
    rcases List.mem_cons.mp (hperm.mem_iff.mp huid) with rfl | hold
    · exact Nat.lt_succ_self _
    · exact Nat.lt_succ_of_lt (h.lt uid hold)
  rw [addItem]
  dsimp only
  split
  · split
    · apply hgrown
      · show (loot.items.map (·.uid) ++ (loot.questItems ++ [_]).map fun item : LootItem => item.uid).Perm _
        rw [List.map_append, ← List.append_assoc]
        exact List.perm_append_singleton _ _
      · rfl
    · exact h
  · split
    · have hitems : ∀ item : LootItem, item.uid = loot.nextUid →
          ((loot.items ++ [item]).map (·.uid) ++ loot.questItems.map (·.uid)).Perm
            (loot.nextUid :: loot.uids) := by
        intro item huid
        rw [List.map_append, List.append_assoc]
        show (loot.items.map (·.uid) ++ item.uid :: loot.questItems.map (·.uid)).Perm _
        rw [huid]
        exact List.perm_middle
      split
      · exact hgrown _ (hitems _ rfl) rfl
      · exact hgrown _ (hitems _ rfl) rfl
    · exact h

theorem uidsDistinct_addItems (tables : LootTables) (h : loot.UidsDistinct)
    (drops : List LootDrop) (pop : Shuffle LootItem) : (loot.addItems tables drops pop).UidsDistinct := by
  have hadded : (drops.foldl (addItem tables) loot).UidsDistinct := by
    induction drops generalizing loot with
    | nil => exact h
    | cons drop drops ih => exact ih (uidsDistinct_addItem tables h drop)
  have hperm : (loot.addItems tables drops pop).uids.Perm
      (drops.foldl (addItem tables) loot).uids :=
    ((pop.perm _).map _).append_right _
  exact ⟨hperm.nodup_iff.mpr hadded.nodup, fun uid huid => hadded.lt uid (hperm.mem_iff.mp huid)⟩

theorem entries_addItem (tables : LootTables) (loot : Loot) (drop : LootDrop) :
    (loot.addItem tables drop).entries = loot.entries := by
  rw [addItem]
  dsimp only
  split
  · split <;> rfl
  · split
    · split <;> rfl
    · rfl

theorem entries_addItems (tables : LootTables) (drops : List LootDrop) (pop : Shuffle LootItem) :
    (loot.addItems tables drops pop).entries = loot.entries := by
  show (drops.foldl (addItem tables) loot).entries = loot.entries
  induction drops generalizing loot with
  | nil => rfl
  | cons drop drops ih => exact ih.trans (entries_addItem tables loot drop)

theorem denotes_pickEntries (picks : LootItem → Bool) (items : List LootItem) {q : QuestItem}
    (hq : q ∈ pickEntries picks items) : Denotes items q.index q.uid := by
  obtain ⟨p, hp, rfl⟩ := List.mem_map.mp hq
  have hitem := List.mem_zipIdx_iff_getElem?.mp (List.mem_of_mem_filter hp)
  exact ⟨p.1, hitem, rfl⟩

theorem pickQuestItems_uids (allowed : LootItemInfo → Bool) (room i : Nat) (items : List LootItem) :
    (pickQuestItems allowed room i items).2.1.map (·.uid) = items.map (·.uid) := by
  induction items generalizing room i with
  | nil => rfl
  | cons item items ih =>
    rw [pickQuestItems]
    split
    · dsimp only
      split
      · rfl
      · exact congrArg (item.uid :: ·) (ih (room - 1) (i + 1))
    · exact congrArg (item.uid :: ·) (ih room (i + 1))

theorem denotes_pickQuestItems (allowed : LootItemInfo → Bool) (room i : Nat)
    (items : List LootItem) {q : QuestItem} (hq : q ∈ (pickQuestItems allowed room i items).1) :
    i ≤ q.index ∧ Denotes items (q.index - i) q.uid := by
  induction items generalizing room i with
  | nil => exact absurd hq List.not_mem_nil
  | cons item items ih =>
    have hlater : ∀ room, q ∈ (pickQuestItems allowed room (i + 1) items).1 →
        i ≤ q.index ∧ Denotes (item :: items) (q.index - i) q.uid := by
      intro room hmem
      obtain ⟨hle, found, hfound, huid⟩ := ih room (i + 1) hmem
      refine ⟨by omega, found, ?_, huid⟩
      have hpred : q.index - i = q.index - (i + 1) + 1 := by omega
      rw [hpred, List.getElem?_cons_succ]
      exact hfound
    have hhead : Denotes (item :: items) (i - i) item.uid := by
      rw [Nat.sub_self]
      exact ⟨item, rfl, rfl⟩
    rw [pickQuestItems] at hq
    split at hq
    · dsimp only at hq
      split at hq
      · rw [List.mem_singleton.mp hq]
        exact ⟨le_refl i, hhead⟩
      · rcases List.mem_cons.mp hq with rfl | hmem
        · exact ⟨le_refl i, hhead⟩
        · exact hlater _ hmem
    · exact hlater _ hq

theorem EntriesValid.register (h : loot.EntriesValid) (kind : EntryKind) (pl : Nat)
    {ql : List QuestItem} (hql : ∀ q ∈ ql, Denotes (loot.vectorOf kind) q.index q.uid) :
    (loot.register kind pl ql).EntriesValid := by
  intro kind' p hp q hq
  have hvector : (loot.register kind pl ql).vectorOf kind' = loot.vectorOf kind' := by
    cases kind' <;> rfl
  rw [hvector]
  by_cases hkind : kind' = kind
  · subst hkind
    have hentries : (loot.register kind' pl ql).entries kind' =
        (pl, ql) :: loot.entries kind' := Function.update_self ..
    rw [hentries] at hp
    rcases List.mem_cons.mp hp with rfl | hold
    · exact hql q hq
    · exact h kind' p hold q hq
  · have hentries : (loot.register kind pl ql).entries kind' = loot.entries kind' :=
      Function.update_of_ne hkind ..
    rw [hentries] at hp
    exact h kind' p hp q hq

theorem Valid.congr (h : loot.Valid) (hitems : loot'.items.map (·.uid) = loot.items.map (·.uid))
    (hquest : loot'.questItems.map (·.uid) = loot.questItems.map (·.uid))
    (hentries : loot'.entries = loot.entries) (hnext : loot'.nextUid = loot.nextUid) : loot'.Valid := by
  refine ⟨h.distinct.congr ?_ hnext, fun kind p hp q hq => ?_⟩
  · rw [Loot.uids, Loot.uids, hitems, hquest]
  · rw [hentries] at hp
    have hvector : (loot'.vectorOf kind).map (·.uid) = (loot.vectorOf kind).map (·.uid) := by
      cases kind with
      | quest => exact hquest
      | ffa | conditional | currency => exact hitems
    rw [denotes_congr hvector]
    exact h.entries kind p hp q hq

theorem Valid.register (h : loot.Valid) (kind : EntryKind) (pl n : Nat) {ql : List QuestItem}
    (hql : ∀ q ∈ ql, Denotes (loot.vectorOf kind) q.index q.uid) : ((loot.register kind pl ql).countUp n).Valid :=
  ⟨h.distinct.congr rfl rfl, h.entries.register kind pl hql⟩

theorem Valid.registerFor (h : loot.Valid) (allowed : LootItemInfo → Bool) (pl : Nat) :
    (loot.registerFor allowed pl).Valid := by
  apply registerFor_rule (P := Valid)
  · exact fun loot h => h.register .currency pl _ fun _ => denotes_pickEntries _ loot.items
  · intro loot h
    rw [fillQuestLoot]
    split
    · exact h
    · have huids := pickQuestItems_uids allowed (maxNrLootItems - loot.items.length) 0
        loot.questItems
      have hblocked : { loot with questItems := (pickQuestItems allowed
          (maxNrLootItems - loot.items.length) 0 loot.questItems).2.1 }.Valid :=
        h.congr rfl huids rfl rfl
      apply hblocked.register
      intro q hq
      exact (denotes_congr huids).mpr (denotes_pickQuestItems allowed _ 0 loot.questItems hq).2
  · exact fun loot h => h.register .ffa pl _ fun _ => denotes_pickEntries _ loot.items
  · intro loot h
    have huids := (loot.itemsAge_fillConditional allowed pl).uids
    have hcounted : { loot with
        items := (loot.fillNonQuestNonFFANonCurrencyConditionalLoot allowed pl).items }.Valid :=
      h.congr huids rfl rfl rfl
    apply hcounted.register
    intro q hq
    exact (denotes_congr huids).mpr (denotes_pickEntries _ loot.items hq)
  · exact h

theorem Valid.fillPlayers (h : loot.Valid) (tables : LootTables) (fill : LootFill)
    (pls : List Nat) : (pls.foldl (LootWorld.fillFor tables fill) loot).Valid := by
  induction pls generalizing loot with
  | nil => exact h
  | cons pl pls ih =>
    apply ih
    apply fillFor_rule (P := Valid)
    · exact fun loot hvalid => hvalid.registerFor _ pl
    · exact fun loot slot room hvalid => hvalid.ages (loot.ages_storeLootItem pl slot room _)
    · exact h

def listedIndices (loot : Loot) : List Nat :=
  [EntryKind.ffa, .conditional, .currency].flatMap fun kind =>
    (loot.entries kind).flatMap fun p => p.2.map (·.index)

end Loot

def UntakenUpTo (items : List LootItem) (index : Nat) : Prop :=
  ∀ item ∈ items.take (index + 1), item.isLooted = false

instance (items : List LootItem) (index : Nat) : Decidable (UntakenUpTo items index) :=
  inferInstanceAs (Decidable (∀ item ∈ _, _))

theorem getElem?_filter_of_take {α : Type*} {p : α → Bool} {l : List α} {i : Nat} {a : α}
    (h : ∀ a ∈ l.take (i + 1), p a) (ha : l[i]? = some a) : (l.filter p)[i]? = some a := by
  induction l generalizing i with
  | nil => cases ha
  | cons b l ih =>
    have hb : p b := h b (by rw [List.take_succ_cons]; exact List.mem_cons_self)
    rw [List.filter_cons_of_pos hb]
    cases i with
    | zero => exact ha
    | succ i =>
      apply ih
      · intro c hc
        apply h
        rw [List.take_succ_cons]
        exact List.mem_cons_of_mem b hc
      · exact ha

theorem Denotes.filter {items : List LootItem} {index uid : Nat} (h : Denotes items index uid)
    (huntaken : UntakenUpTo items index) : Denotes (items.filter fun item => !item.isLooted) index uid := by
  obtain ⟨item, hitem, huid⟩ := h
  refine ⟨item, getElem?_filter_of_take ?_ hitem, huid⟩
  intro item' hitem'
  rw [huntaken item' hitem']
  rfl

namespace LootWorld

/-- Items have names of their own, and all entries and rolls denote the items they were made
for. -/
structure IndicesValid (w : LootWorld) : Prop where
  loot : w.loot.Valid
  rolls : ∀ roll ∈ w.rolls, roll.linked → Denotes w.loot.items roll.itemSlot roll.uid

def ReleaseKeepsIndices (w : LootWorld) (kind : ReleaseKind) (pl : Nat) : Prop :=
  (w.released kind pl).loot.isLooted ∨ (w.released kind pl).loot.playersLooting ≠ [] ∨
    (∀ index ∈ (w.released kind pl).loot.listedIndices, UntakenUpTo (w.released kind pl).loot.items index) ∧
    ∀ roll ∈ (w.released kind pl).rolls, roll.linked → UntakenUpTo (w.released kind pl).loot.items roll.itemSlot

instance (w : LootWorld) (kind : ReleaseKind) (pl : Nat) :
    Decidable (w.ReleaseKeepsIndices kind pl) :=
  inferInstanceAs (Decidable (_ ∨ _ ∨ (∀ index ∈ _, _) ∧ ∀ roll ∈ _, _ → _))

variable {tables : LootTables} {w : LootWorld}

theorem IndicesValid.ages (h : w.IndicesValid) {loot' : Loot} (hages : w.loot.Ages loot') :
    { w with loot := loot' }.IndicesValid :=
  ⟨h.loot.ages hages, fun roll hroll hlinked =>
    (denotes_congr hages.items.uids).mpr (h.rolls roll hroll hlinked)⟩

theorem clearLoot_unlinked : ∀ roll ∈ w.clearLoot.rolls, ¬ roll.linked := by
  intro roll hroll
  obtain ⟨_, -, rfl⟩ := List.mem_map.mp hroll
  exact Bool.false_ne_true

theorem clearLoot_valid : w.clearLoot.loot.Valid :=
  ⟨⟨List.nodup_nil, fun _ h => absurd h List.not_mem_nil⟩, fun _ _ h => absurd h List.not_mem_nil⟩

theorem indicesValid_clearLoot : w.clearLoot.IndicesValid :=
  ⟨clearLoot_valid, fun roll hroll hlinked => absurd hlinked (clearLoot_unlinked roll hroll)⟩

theorem indicesValid_filled (fill : LootFill) : (w.filled tables fill).IndicesValid := by
  have hadded : (w.itemsAdded tables fill).loot.Valid := by
    refine ⟨Loot.uidsDistinct_addItems tables clearLoot_valid.distinct _ _, fun kind p hp => ?_⟩
    have hentries : (w.itemsAdded tables fill).loot.entries = w.clearLoot.loot.entries :=
      Loot.entries_addItems tables _ _
    rw [hentries] at hp
    exact absurd hp List.not_mem_nil
  have hfilled := hadded.fillPlayers tables fill fill.lookers.guids
  exact ⟨hfilled.congr rfl rfl rfl rfl, fun roll hroll hlinked => absurd hlinked (clearLoot_unlinked roll hroll)⟩

theorem keptByRolling_indicesValid : KeptByRolling IndicesValid where
  underthreshold w itemSlot h :=
    h.ages ⟨.modify LootItem.ages_underthreshold _ _, rfl, .of_eq rfl, rfl⟩
  roll w item roll hitem huid _ h := by
    refine ⟨h.loot, fun roll' hroll' hlinked => ?_⟩
    rcases List.mem_append.mp hroll' with hold | hnew
    · exact h.rolls roll' hold hlinked
    · rw [List.mem_singleton.mp hnew]
      exact ⟨item, hitem, huid.symm⟩
  blockingRoll w item roll hitem huid hlinked h := by
    have hblocked := (keptByRolling_map_items (·.uid) (fun _ => rfl) (fun _ => rfl) _).blockingRoll
      w item roll hitem huid hlinked rfl
    refine ⟨h.loot.congr hblocked rfl rfl rfl, fun roll' hroll' hlinked => ?_⟩
    apply (denotes_congr hblocked).mpr
    rcases List.mem_append.mp hroll' with hold | hnew
    · exact h.rolls roll' hold hlinked
    · rw [List.mem_singleton.mp hnew]
      exact ⟨item, hitem, huid.symm⟩

theorem IndicesValid.doLootRelease (h : w.IndicesValid) {kind : ReleaseKind} {pl : Nat}
    (hok : w.ReleaseKeepsIndices kind pl) : (w.doLootRelease kind pl).IndicesValid := by
  have hreleased : (w.released kind pl).IndicesValid := by
    rw [LootWorld.released]
    split
    · exact indicesValid_clearLoot.ages (.of_eq rfl rfl rfl rfl)
    · exact h.ages (.of_eq rfl rfl rfl rfl)
  rw [LootWorld.doLootRelease]
  split
  · exact hreleased
  next hlooted =>
    rw [Loot.fillVisualLootIfPossible]
    split
    · exact hreleased
    next hlooking =>
      obtain ⟨hlisted, hrolls⟩ := (hok.resolve_left hlooted).resolve_left hlooking
      refine ⟨⟨⟨?_, ?_⟩, ?_⟩, ?_⟩
      · exact hreleased.loot.distinct.nodup.sublist
          ((List.filter_sublist.map _).append_right _)
      · exact fun uid huid => hreleased.loot.distinct.lt uid
          (((List.filter_sublist.map _).append_right _).subset huid)
      · intro kind' p hp q hq
        have hdenotes := hreleased.loot.entries kind' p hp q hq
        have hlist : kind' ∈ [EntryKind.ffa, .conditional, .currency] →
            UntakenUpTo (w.released kind pl).loot.items q.index := by
          intro hkind
          apply hlisted
          exact List.mem_flatMap.mpr ⟨kind', hkind, List.mem_flatMap.mpr ⟨p, hp, List.mem_map_of_mem hq⟩⟩
        cases kind' with
        | quest => exact hdenotes
        | ffa | conditional | currency => exact hdenotes.filter (hlist (by simp))
      · exact fun roll hroll hlinked =>
          (hreleased.rolls roll hroll hlinked).filter (hrolls roll hroll hlinked)

end LootWorld

/-- No compaction moves or drops an item that is indexed. -/
def CompactsUnindexed (w : LootWorld) : LootEvent → Prop
  | .release kind pl => w.ReleaseKeepsIndices kind pl
  | _ => True

instance (w : LootWorld) : ∀ e, Decidable (CompactsUnindexed w e)
  | .release .. => inferInstanceAs (Decidable (LootWorld.ReleaseKeepsIndices ..))
  | .clear | .fill _ | .addLooter _ | .takeMoney _ | .autostore .. | .masterGive .. | .vote .. |
    .endRoll _ | .removeMember _ | .leaveMap _ | .disband => .isTrue trivial

namespace LootWorld

variable {tables : LootTables} {w : LootWorld}

theorem IndicesValid.countRollVote (h : w.IndicesValid) (pl itemSlot : Nat) (vote : RollVote)
    (canUse : Bool) (luck : RollLuck) : (w.countRollVote pl itemSlot vote canUse luck).IndicesValid := by
  rw [LootWorld.countRollVote]
  split
  · exact h
  split
  · exact h
  next roll hroll =>
    split
    · exact h
    split
    · exact h
    split
    · exact h
    dsimp only
    split
    · have hcounted := h.ages (w.loot.ages_countTheRoll luck (roll.recordVote pl vote))
      exact ⟨hcounted.loot, fun roll' hroll' =>
        hcounted.rolls roll' (List.mem_of_mem_eraseIdx hroll')⟩
    · refine ⟨h.loot, fun roll' hroll' hlinked => ?_⟩
      rcases List.mem_or_eq_of_mem_set hroll' with hold | rfl
      · exact h.rolls roll' hold hlinked
      · have hsame := roll.recordVote_same pl vote
        rw [hsame.linked] at hlinked
        rw [hsame.itemSlot, hsame.uid]
        exact h.rolls roll (List.mem_of_getElem? hroll) hlinked

theorem indicesValid_lootStep {e : LootEvent} (hok : CompactsUnindexed w e)
    (h : w.IndicesValid) : (lootStep tables w e).IndicesValid := by
  cases e with
  | clear => exact indicesValid_clearLoot
  | fill fill => exact keptByRolling_indicesValid.fillLoot (indicesValid_filled fill)
  | addLooter pl => exact h.ages (.of_eq rfl rfl rfl rfl)
  | release kind pl => exact h.doLootRelease hok
  | takeMoney found => exact h.ages (.of_eq rfl rfl rfl rfl)
  | autostore pl lootSlot room found => exact h.ages (w.loot.ages_storeLootItem _ _ _ _)
  | masterGive target slotid room found =>
    exact h.ages (w.loot.ages_handleLootMasterGive _ _ _ _)
  | vote pl itemSlot vote canUse luck => exact h.countRollVote pl itemSlot vote canUse luck
  | endRoll luck =>
    have hages := Loot.Ages.foldl (fun loot roll => loot.ages_countTheRoll (luck roll) roll)
      w.rolls w.loot
    exact ⟨(h.ages hages).loot, fun roll hroll => absurd hroll List.not_mem_nil⟩
  | removeMember guid =>
    refine ⟨h.loot, fun roll hroll hlinked => ?_⟩
    obtain ⟨roll₀, hroll₀, rfl⟩ := List.mem_map.mp hroll
    have hsame := roll₀.removeVote_same guid
    rw [hsame.linked] at hlinked
    rw [hsame.itemSlot, hsame.uid]
    exact h.rolls roll₀ hroll₀ hlinked
  | leaveMap => exact h
  | disband => exact ⟨h.loot, fun roll hroll => absurd hroll List.not_mem_nil⟩

end LootWorld

/-- In a run that compacts a loot only where no index is affected all indices stay valid. -/
theorem lootIndices_valid (tables : LootTables) (es : List LootEvent)
    (hok : Guarded (lootStep tables) CompactsUnindexed .start es) : (run (lootStep tables) .start es).IndicesValid := by
  apply run_invariant (fun _ _ => LootWorld.indicesValid_lootStep) hok
  exact ⟨⟨⟨List.nodup_nil, fun _ h => absurd h List.not_mem_nil⟩,
    fun _ _ h => absurd h List.not_mem_nil⟩, fun _ hroll => absurd hroll List.not_mem_nil⟩

private def twoCloths (members : GroupMembers) : LootEvent :=
  .fill <| .everybody [clothDrop, clothDrop] groupOfThree (some (.everybody members .groupLoot))

private def onePlayer : GroupMembers := ⟨[1], by decide, by decide⟩

theorem lootIndices_valid_lastTaken : (run (lootStep clothTables) .start
      [twoCloths groupOfThree, .addLooter 1, .release .keeps 1]).IndicesValid :=
  lootIndices_valid clothTables _ (by decide +kernel)

/-- The first of two items is taken, and the roll for the second one refers to nothing once the last
player has closed the loot. -/
theorem lootIndices_compacted : ¬ ∀ (tables : LootTables) (es : List LootEvent),
      (run (lootStep tables) .start es).IndicesValid := by
  intro h
  have hmoved : ∃ roll ∈ (run (lootStep clothTables) .start [twoCloths onePlayer, .addLooter 1,
      .autostore 1 0 true fun _ => true, .release .keeps 1]).rolls, roll.linked ∧
      ¬ Denotes (run (lootStep clothTables) .start [twoCloths onePlayer, .addLooter 1,
        .autostore 1 0 true fun _ => true, .release .keeps 1]).loot.items roll.itemSlot roll.uid := by
    decide +kernel
  obtain ⟨roll, hroll, hlinked, hnot⟩ := hmoved
  exact hnot ((h clothTables _).rolls roll hroll hlinked)

end Mangos
