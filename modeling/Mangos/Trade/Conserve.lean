import Mangos.Framework.Run
import Mangos.Item.Stored
import Mangos.Trade.TradeData
import Mathlib.Data.List.ReduceOption

/-!
# When a trade conserves items

Each turn of `moveItems` is followed by what it adds to the two inventories and by what it leaves with
nobody.
-/

namespace Mangos

open Framework

namespace TradeState

/-- How many items of entry `e` the two players hold. -/
def total (s : TradeState) (e : Nat) : Nat :=
  s.player.inventory.itemCount e + s.trader.inventory.itemCount e

/-- What may be asked of a completed trade: every entry is held as often as before, and each item
object lies in one slot of one of the players. -/
structure Conserved (s s' : TradeState) : Prop where
  counts : ∀ e, s'.total e = s.total e
  one_slot : ((s'.player.inventory.items + s'.trader.inventory.items).map (·.guid)).Nodup
  not_stranded : s'.stranded = s.stranded

/-- What holds of the items of two players between requests. -/
structure WF (tables : ItemTables) (s : TradeState) : Prop where
  guids : ((s.player.inventory.items + s.trader.inventory.items).map (·.guid)).Nodup
  guids_lt : ∀ it ∈ s.player.inventory.items + s.trader.inventory.items, it.guid < s.nextItemGuid
  counts : ∀ it ∈ s.player.inventory.items + s.trader.inventory.items, 0 < it.count
  prototypes : ∀ it ∈ s.player.inventory.items + s.trader.inventory.items, tables.prototype it.entry = some it.proto

section Conditions

variable (tables : ItemTables) (accounts : Accounts)

/-- The items of the slot can be stored on both sides, or each goes back to a player who takes it
while the partner's item for the same slot had found no place there. -/
def CleanMove (s : TradeState) (slot : Option Item × Option Item) : Prop :=
  let traderAnswer := canTake tables accounts s.trader slot.1 []
  let playerAnswer := canTake tables accounts s.player slot.2 []
  (traderAnswer.result = .ok ∧ playerAnswer.result = .ok) ∨ ((slot.1.isSome → playerAnswer.dest = [] ∧
        (canTake tables accounts s.player slot.1 playerAnswer.dest).result = .ok) ∧
      (slot.2.isSome → traderAnswer.dest = [] ∧
        (canTake tables accounts s.trader slot.2 traderAnswer.dest).result = .ok))

instance CleanMove.decidable (s : TradeState) (slot : Option Item × Option Item) :
    Decidable (CleanMove tables accounts s slot) :=
  inferInstanceAs (Decidable (_ ∨ _))

/-- Every slot of the open windows is clean when its turn comes. -/
def ExchangesCleanly (s : TradeState) : Prop :=
  ∀ windows, s.trade = some windows →
    Guarded (moveItem tables accounts) (CleanMove tables accounts) (s.withoutOffers windows)
      (s.tradedItems windows)

end Conditions

variable {tables : ItemTables} {accounts : Accounts} {s s' : TradeState}

private def amount (s : TradeState) (e : Nat) : Nat :=
  s.total e + (s.stranded.map (Item.weight e)).sum

/-- Between two states `items` were handed out; nothing was added besides them and none was
stranded exactly if `clean` holds. -/
private def Moved (s s' : TradeState) (items : List Item) (clean : Prop) : Prop :=
  ∃ (extra : Nat → Nat) (left : List Item), s'.stranded = s.stranded ++ left ∧
    (∀ e, s'.amount e = s.amount e + (items.map (Item.weight e)).sum + extra e) ∧
    ((∀ e, extra e = 0) ∧ left = [] ↔ clean)

private theorem Moved.refl (s : TradeState) : Moved s s [] True :=
  ⟨fun _ => 0, [], by simp, by simp, by simp⟩

private theorem Moved.trans {s₁ s₂ s₃ : TradeState} {items items' : List Item}
    {clean clean' : Prop} (h : Moved s₁ s₂ items clean) (h' : Moved s₂ s₃ items' clean') :
    Moved s₁ s₃ (items ++ items') (clean ∧ clean') := by
  obtain ⟨extra, left, hstranded, hamount, hclean⟩ := h
  obtain ⟨extra', left', hstranded', hamount', hclean'⟩ := h'
  refine ⟨fun e => extra e + extra' e, left ++ left', ?_, fun e => ?_, ?_⟩
  · rw [hstranded', hstranded, List.append_assoc]
  · have hfirst := hamount e
    have hthen := hamount' e
    rw [List.map_append, List.sum_append]
    dsimp only
    omega
  · rw [← hclean, ← hclean', List.append_eq_nil_iff]
    simp only [Nat.add_eq_zero_iff, forall_and]
    exact and_and_and_comm

private theorem Moved.congr {items : List Item} {clean clean' : Prop}
    (h : Moved s s' items clean) (hiff : clean ↔ clean') : Moved s s' items clean' := by
  rwa [← propext hiff]

/-- The guids of both players and of the items that are on their way. -/
private def guids (s : TradeState) (limbo : List Item) : Multiset Nat :=
  s.player.inventory.items.map (·.guid) + s.trader.inventory.items.map (·.guid) + ↑(limbo.map (·.guid))

/-- Items on their way are not held by anybody. -/
private structure Apart (tables : ItemTables) (s : TradeState) (limbo : List Item) : Prop where
  nodup : (s.guids limbo).Nodup
  lt : ∀ g ∈ s.guids limbo, g < s.nextItemGuid
  counts : ∀ it ∈ limbo, 0 < it.count
  prototypes : ∀ it ∈ limbo, tables.prototype it.entry = some it.proto

private def Places (pl : Player) (dest : List ItemPosCount) : Prop :=
  (dest.map (·.pos)).Nodup ∧ ∀ p ∈ dest, 0 < p.count ∧ pl.inventory.IsCarriedPlace p.pos

private theorem canTake_places {pl : Player} {it : Option Item} (hit : ∀ it' ∈ it, 0 < it'.count ∧
    tables.prototype it'.entry = some it'.proto) : Places pl (canTake tables accounts pl it []).dest := by
  cases it with
  | none => exact ⟨List.nodup_nil, by simp [canTake]⟩
  | some it =>
    obtain ⟨hcount, hproto⟩ := hit it rfl
    have hextends := @Player.canStoreItem_extends tables accounts pl
      { entry := it.entry, count := it.count, pItem := some it } it.proto [] hproto rfl hcount
      List.nodup_nil
    refine ⟨hextends.distinct, fun p hp => ?_⟩
    obtain ⟨hpos, hadmits⟩ := hextends.admitted p hp
    exact ⟨hpos, hadmits.1⟩

private theorem store_extends {pl : Player} {next : Nat} {it : Item} {start : List ItemPosCount}
    {others : Multiset Nat} (hcount : 0 < it.count) (hproto : tables.prototype it.entry = some it.proto)
    (hfresh : Stock.GuidsFresh ⟨pl.inventory, next⟩ (it.guid ::ₘ others)) (hstart : Places pl start)
    (hok : (canTake tables accounts pl (some it) start).result = .ok) :
    let stock := Stock.storeItem tables pl.guid ⟨pl.inventory, next⟩ it
      (canTake tables accounts pl (some it) start).dest
    stock.GuidsFresh others ∧ ∃ extra : Nat → Nat, (∀ e, stock.inventory.itemCount e =
        pl.inventory.itemCount e + Item.weight e it + extra e) ∧ ((∀ e, extra e = 0) ↔ start = []) := by
  have hextends := @Player.canStoreItem_extends tables accounts pl
    { entry := it.entry, count := it.count, pItem := some it } it.proto start hproto rfl hcount
    hstart.1
  have htotal := hextends.total hok
  have hout : ∀ it' ∈ pl.inventory.items, (some it).any (·.guid = it'.guid) = false := by
    intro it' hit'
    have hnodup := hfresh.nodup
    rw [Multiset.add_cons, Multiset.nodup_cons] at hnodup
    have hne : it.guid ≠ it'.guid := by
      intro heq
      refine hnodup.1 (Multiset.mem_add.mpr (.inl ?_))
      rw [heq]
      exact Multiset.mem_map_of_mem (·.guid) hit'
    simpa using hne
  have hadmits : ∀ p ∈ addedTo start (canTake tables accounts pl (some it) start).dest,
      0 < p.count ∧ pl.inventory.Admits it.proto p.pos p.count := by
    intro p hp
    obtain ⟨hpos, hadmits⟩ := hextends.admitted p hp
    exact ⟨hpos, hadmits.toInventory hout⟩
  have hkept : start <+: (canTake tables accounts pl (some it) start).dest := hextends.kept
  have hplaces : ∀ p ∈ (canTake tables accounts pl (some it) start).dest,
      0 < p.count ∧ pl.inventory.IsCarriedPlace p.pos := by
    intro p hp
    rw [← append_addedTo hkept] at hp
    rcases List.mem_append.mp hp with hold | hnew
    · exact hstart.2 p hold
    · obtain ⟨hpos, hadmits⟩ := hadmits p hnew
      exact ⟨hpos, hadmits.1⟩
  have hadded : placed (addedTo start (canTake tables accounts pl (some it) start).dest) = it.count := htotal
  obtain ⟨extra, hextra, hnone⟩ := @Stock.itemCount_storeItem_extends tables pl.guid
    ⟨pl.inventory, next⟩ it start _ hkept hextends.distinct hstart.2 hadmits (by omega)
  refine ⟨hfresh.storeItem hplaces, extra, fun e => ?_, hnone⟩
  rw [hextra e, hadded]
  rfl

private theorem guids_cons (s : TradeState) (it : Item) (rest : List Item) :
    s.guids (it :: rest) = it.guid ::ₘ s.guids rest := by
  simp only [guids, List.map_cons, ← Multiset.cons_coe, Multiset.add_cons]

private theorem toPlayer_moved {it : Option Item} {rest : List Item} {start : List ItemPosCount}
    (h : Apart tables s (it.toList ++ rest)) (hstart : Places s.player start)
    (hok : (canTake tables accounts s.player it start).result = .ok) :
    let s' := s.toPlayer tables it (canTake tables accounts s.player it start).dest
    Apart tables s' rest ∧ Moved s s' it.toList (it.isSome → start = []) := by
  cases it with
  | none => exact ⟨h, (Moved.refl s).congr (by simp)⟩
  | some it =>
    simp only [Option.toList_some, List.singleton_append] at h
    have hmem : it ∈ it :: rest := List.mem_cons_self
    have hothers : s.guids (it :: rest) = s.player.inventory.items.map (·.guid) +
        it.guid ::ₘ (s.trader.inventory.items.map (·.guid) + ↑(rest.map (·.guid))) := by
      rw [guids_cons, guids, Multiset.add_cons, add_assoc]
    have hfresh : Stock.GuidsFresh ⟨s.player.inventory, s.nextItemGuid⟩
        (it.guid ::ₘ (s.trader.inventory.items.map (·.guid) + ↑(rest.map (·.guid)))) :=
      ⟨hothers ▸ h.nodup, hothers ▸ h.lt⟩
    obtain ⟨hafter, extra, hextra, hnone⟩ :=
      store_extends (h.counts it hmem) (h.prototypes it hmem) hfresh hstart hok
    refine ⟨⟨?_, ?_, ?_, ?_⟩, extra, [], by simp [toPlayer], fun e => ?_, ?_⟩
    · rw [guids, add_assoc]
      exact hafter.nodup
    · rw [guids, add_assoc]
      exact hafter.lt
    · exact fun it' hit' => h.counts it' (List.mem_cons_of_mem it hit')
    · exact fun it' hit' => h.prototypes it' (List.mem_cons_of_mem it hit')
    · have hcount := hextra e
      simp only [amount, total, toPlayer, Option.toList_some, List.map_cons, List.map_nil, List.sum_cons, List.sum_nil]
      omega
    · simp [hnone]

private theorem toTrader_moved {it : Option Item} {rest : List Item} {start : List ItemPosCount}
    (h : Apart tables s (it.toList ++ rest)) (hstart : Places s.trader start)
    (hok : (canTake tables accounts s.trader it start).result = .ok) :
    let s' := s.toTrader tables it (canTake tables accounts s.trader it start).dest
    Apart tables s' rest ∧ Moved s s' it.toList (it.isSome → start = []) := by
  cases it with
  | none => exact ⟨h, (Moved.refl s).congr (by simp)⟩
  | some it =>
    simp only [Option.toList_some, List.singleton_append] at h
    have hmem : it ∈ it :: rest := List.mem_cons_self
    have hothers : s.guids (it :: rest) = s.trader.inventory.items.map (·.guid) +
        it.guid ::ₘ (s.player.inventory.items.map (·.guid) + ↑(rest.map (·.guid))) := by
      rw [guids_cons, guids, Multiset.add_cons, add_comm (s.player.inventory.items.map (·.guid)), add_assoc]
    have hfresh : Stock.GuidsFresh ⟨s.trader.inventory, s.nextItemGuid⟩
        (it.guid ::ₘ (s.player.inventory.items.map (·.guid) + ↑(rest.map (·.guid)))) :=
      ⟨hothers ▸ h.nodup, hothers ▸ h.lt⟩
    obtain ⟨hafter, extra, hextra, hnone⟩ :=
      store_extends (h.counts it hmem) (h.prototypes it hmem) hfresh hstart hok
    refine ⟨⟨?_, ?_, ?_, ?_⟩, extra, [], by simp [toTrader], fun e => ?_, ?_⟩
    · rw [guids, add_comm (Multiset.map _ _), add_assoc]
      exact hafter.nodup
    · rw [guids, add_comm (Multiset.map _ _), add_assoc]
      exact hafter.lt
    · exact fun it' hit' => h.counts it' (List.mem_cons_of_mem it hit')
    · exact fun it' hit' => h.prototypes it' (List.mem_cons_of_mem it hit')
    · have hcount := hextra e
      simp only [amount, total, toTrader, Option.toList_some, List.map_cons, List.map_nil, List.sum_cons, List.sum_nil]
      omega
    · simp [hnone]

private theorem strand_moved {it : Option Item} {rest : List Item} (h : Apart tables s (it.toList ++ rest)) :
    Apart tables (s.strand it) rest ∧ Moved s (s.strand it) it.toList (it = none) := by
  refine ⟨?_, fun _ => 0, it.toList, rfl, fun e => ?_, by simp⟩
  · cases it with
    | none => exact ⟨h.nodup, h.lt, h.counts, h.prototypes⟩
    | some it =>
      simp only [Option.toList_some, List.singleton_append] at h
      have hnodup := h.nodup
      have hlt := h.lt
      rw [guids_cons] at hnodup hlt
      exact ⟨(Multiset.nodup_cons.mp hnodup).2, fun g hg => hlt g (Multiset.mem_cons_of_mem hg),
        fun it' hit' => h.counts it' (List.mem_cons_of_mem it hit'),
        fun it' hit' => h.prototypes it' (List.mem_cons_of_mem it hit')⟩
  · simp only [amount, total, strand, List.map_append, List.sum_append]
    omega

private theorem backToPlayer_moved {it : Option Item} {rest : List Item}
    {start : List ItemPosCount} (h : Apart tables s (it.toList ++ rest)) (hstart : Places s.player start) :
    let answer := canTake tables accounts s.player it start
    let s' := if answer.result = .ok then s.toPlayer tables it answer.dest else s.strand it
    Apart tables s' rest ∧ Moved s s' it.toList (it.isSome → start = [] ∧ answer.result = .ok) := by
  dsimp only
  split
  next hok =>
    obtain ⟨hapart, hmoved⟩ := toPlayer_moved h hstart hok
    exact ⟨hapart, hmoved.congr (by simp [hok])⟩
  next hrefused =>
    obtain ⟨hapart, hmoved⟩ := strand_moved h
    exact ⟨hapart, hmoved.congr (by cases it <;> simp [hrefused])⟩

private theorem backToTrader_moved {it : Option Item} {rest : List Item}
    {start : List ItemPosCount} (h : Apart tables s (it.toList ++ rest)) (hstart : Places s.trader start) :
    let answer := canTake tables accounts s.trader it start
    let s' := if answer.result = .ok then s.toTrader tables it answer.dest else s.strand it
    Apart tables s' rest ∧ Moved s s' it.toList (it.isSome → start = [] ∧ answer.result = .ok) := by
  dsimp only
  split
  next hok =>
    obtain ⟨hapart, hmoved⟩ := toTrader_moved h hstart hok
    exact ⟨hapart, hmoved.congr (by simp [hok])⟩
  next hrefused =>
    obtain ⟨hapart, hmoved⟩ := strand_moved h
    exact ⟨hapart, hmoved.congr (by cases it <;> simp [hrefused])⟩

@[simp] private theorem toTrader_player (s : TradeState) (it : Option Item)
    (dest : List ItemPosCount) : (s.toTrader tables it dest).player = s.player := by
  cases it <;> rfl

@[simp] private theorem toPlayer_trader (s : TradeState) (it : Option Item)
    (dest : List ItemPosCount) : (s.toPlayer tables it dest).trader = s.trader := by
  cases it <;> rfl

private def slotItems (slot : Option Item × Option Item) : List Item :=
  slot.1.toList ++ slot.2.toList

private theorem moveItem_moved {slot : Option Item × Option Item} {rest : List Item}
    (h : Apart tables s (slotItems slot ++ rest)) : Apart tables (s.moveItem tables accounts slot) rest ∧
      Moved s (s.moveItem tables accounts slot) (slotItems slot) (CleanMove tables accounts s slot) := by
  obtain ⟨mine, his⟩ := slot
  simp only [slotItems, List.append_assoc] at h ⊢
  have hmine : ∀ it ∈ mine, 0 < it.count ∧ tables.prototype it.entry = some it.proto := by
    intro it hit
    have hmem : it ∈ mine.toList ++ (his.toList ++ rest) :=
      List.mem_append_left _ (Option.mem_toList.mpr hit)
    exact ⟨h.counts it hmem, h.prototypes it hmem⟩
  have hhis : ∀ it ∈ his, 0 < it.count ∧ tables.prototype it.entry = some it.proto := by
    intro it hit
    have hmem : it ∈ mine.toList ++ (his.toList ++ rest) :=
      List.mem_append_right _ (List.mem_append_left _ (Option.mem_toList.mpr hit))
    exact ⟨h.counts it hmem, h.prototypes it hmem⟩
  have hnone : ∀ pl : Player, Places pl [] := fun pl => ⟨List.nodup_nil, by simp⟩
  simp only [moveItem]
  split
  next hboth =>
    obtain ⟨hapart, hmoved⟩ := toTrader_moved h (hnone s.trader) hboth.1
    have hok : (canTake tables accounts (s.toTrader tables mine
        (canTake tables accounts s.trader mine []).dest).player his []).result = .ok := by
      rw [toTrader_player]
      exact hboth.2
    obtain ⟨hapart', hmoved'⟩ := toPlayer_moved hapart (hnone _) hok
    rw [toTrader_player] at hapart' hmoved'
    refine ⟨hapart', (hmoved.trans hmoved').congr ?_⟩
    simp [CleanMove, hboth]
  next hrefused =>
    obtain ⟨hapart, hmoved⟩ := @backToPlayer_moved tables accounts s mine (his.toList ++ rest) _ h
      (canTake_places hhis)
    generalize hback : (if (canTake tables accounts s.player mine
        (canTake tables accounts s.player his []).dest).result = .ok then
      s.toPlayer tables mine (canTake tables accounts s.player mine
        (canTake tables accounts s.player his []).dest).dest else s.strand mine) = s₁ at *
    have htrader : s₁.trader = s.trader := by
      rw [← hback]
      split
      · exact toPlayer_trader s mine _
      · rfl
    rw [← htrader]
    obtain ⟨hapart', hmoved'⟩ := @backToTrader_moved tables accounts s₁ his rest
      (canTake tables accounts s.trader mine []).dest hapart
      (htrader ▸ canTake_places hmine)
    rw [← htrader] at hapart' hmoved'
    refine ⟨hapart', (hmoved.trans hmoved').congr ?_⟩
    rw [htrader]
    simp only [CleanMove, hrefused, false_or]

private theorem moveItems_moved {slots : List (Option Item × Option Item)}
    (h : Apart tables s (slots.flatMap slotItems)) : Apart tables (s.moveItems tables accounts slots) [] ∧
      Moved s (s.moveItems tables accounts slots) (slots.flatMap slotItems)
        (Guarded (moveItem tables accounts) (CleanMove tables accounts) s slots) := by
  induction slots generalizing s with
  | nil => exact ⟨h, Moved.refl s⟩
  | cons slot slots ih =>
    rw [List.flatMap_cons] at h
    obtain ⟨hapart, hmoved⟩ := @moveItem_moved tables accounts s slot _ h
    obtain ⟨hapart', hmoved'⟩ := ih hapart
    exact ⟨hapart', hmoved.trans hmoved'⟩

private def offered (offers : List (Option (ItemPos × Item))) : List Item :=
  offers.reduceOption.map (·.2)

private theorem items_removeOffers {offers : List (Option (ItemPos × Item))} {pl : Player}
    (hheld : ∀ pos it, some (pos, it) ∈ offers → pl.inventory.getItemByPos pos = some it ∧ pl.inventory.bagIsEmpty pos)
    (hdistinct : (offers.reduceOption.map (·.1)).Nodup) :
    (removeOffers pl offers).inventory.items + ↑(offered offers) = pl.inventory.items := by
  induction offers generalizing pl with
  | nil => simp [removeOffers, offered, List.reduceOption_nil]
  | cons offer offers ih =>
    cases offer with
    | none =>
      rw [List.reduceOption_cons_of_none] at hdistinct
      exact ih (fun pos it hit => hheld pos it (List.mem_cons_of_mem none hit)) hdistinct
    | some offer =>
      obtain ⟨pos, it⟩ := offer
      obtain ⟨hit, hempty⟩ := hheld pos it List.mem_cons_self
      rw [List.reduceOption_cons_of_some, List.map_cons, List.nodup_cons] at hdistinct
      have hgone : pl.inventory.removeItem pos = pl.inventory.put pos none := by
        simp [Inventory.removeItem, hit]
      have hrest := @ih { pl with inventory := pl.inventory.put pos none } (by
        intro q it' hoffer
        obtain ⟨hit', hempty'⟩ := hheld q it' (List.mem_cons_of_mem _ hoffer)
        have hne : q ≠ pos := by
          intro heq
          refine hdistinct.1 (List.mem_map.mpr ⟨(q, it'), ?_, heq⟩)
          exact List.reduceOption_mem_iff.mpr hoffer
        refine ⟨?_, Inventory.bagIsEmpty_put_none hit hempty hempty'⟩
        rw [Inventory.getItemByPos_put_none hit hempty, Function.update_of_ne hne]
        exact hit') hdistinct.2
      have hremoved : removeOffers pl (some (pos, it) :: offers) =
          removeOffers { pl with inventory := pl.inventory.put pos none } offers := by
        simp only [removeOffers, List.foldl_cons, hgone]
      have hitems := Inventory.items_put_none hit hempty
      rw [hremoved, ← hitems, ← hrest, offered, List.reduceOption_cons_of_some, List.map_cons,
        ← Multiset.cons_coe, Multiset.add_cons, ← Multiset.singleton_add, add_comm]
      rfl

private theorem getItem_eq_some {data : TradeData} {pl : Player} {slot : TradeSlot}
    {pos : ItemPos} {it : Item} (h : data.getItem pl slot = some (pos, it)) :
    data.items slot ≠ 0 ∧ pl.inventory.getItemByPos pos = some it ∧ it.guid = data.items slot := by
  unfold TradeData.getItem at h
  split at h
  · cases h
  next hne => exact ⟨hne, Inventory.getItemByGuid_eq_some h⟩

private theorem offers_places (data : TradeData) (pl : Player) : (((data.offers pl).reduceOption).map (·.1)).Nodup := by
  have hslots : ∀ slots : List TradeSlot, slots.Nodup →
      (((slots.map (data.getItem pl)).reduceOption).map (·.1)).Nodup := by
    intro slots
    induction slots with
    | nil => exact fun _ => List.nodup_nil
    | cons slot slots ih =>
      intro hnodup
      obtain ⟨hslot, hnodup⟩ := List.nodup_cons.mp hnodup
      rw [List.map_cons]
      cases hitem : data.getItem pl slot with
      | none =>
        rw [List.reduceOption_cons_of_none]
        exact ih hnodup
      | some offer =>
        obtain ⟨pos, it⟩ := offer
        rw [List.reduceOption_cons_of_some, List.map_cons, List.nodup_cons]
        refine ⟨fun hmem => ?_, ih hnodup⟩
        obtain ⟨⟨q, it'⟩, hoffer, rfl⟩ := List.mem_map.mp hmem
        obtain ⟨slot', hslot', hitem'⟩ := List.mem_map.mp (List.reduceOption_mem_iff.mp hoffer)
        obtain ⟨hne, hit, hguid⟩ := getItem_eq_some hitem
        obtain ⟨-, hit', hguid'⟩ := getItem_eq_some hitem'
        rw [hit'] at hit
        cases hit
        have hsame := data.items_distinct slot slot' (hguid.symm.trans hguid') hne
        exact hslot (hsame ▸ hslot')
  exact hslots tradedSlots (by decide)

private theorem checkOffer_eq_some {pair : TradePair} {slot : TradeSlot} {outcome : TradeOutcome}
    (h : s.checkOffer accounts pair slot = some outcome) : outcome = .canceled ∨ outcome = .closeWindow := by
  unfold checkOffer checkOffer.checkPartner at h
  grind

private theorem checkOffer_eq_none {pair : TradePair} {slot : TradeSlot} (h : s.checkOffer accounts pair slot = none) :
    (∀ pos it, pair.my.getItem s.player slot = some (pos, it) → s.player.canBeTraded pos it false true) ∧
    ∀ pos it, pair.his.getItem s.trader slot = some (pos, it) → s.trader.canBeTraded pos it false true := by
  unfold checkOffer checkOffer.checkPartner at h
  grind

theorem handleAcceptTrade_completed {spells : TradeSpells} {mySpell hisSpell : Nat}
    (hdone : (s.handleAcceptTrade tables accounts spells).2 = .completed mySpell hisSpell) :
    ∃ windows, s.trade = some windows ∧
      (windows.my.money ≤ s.player.money ∧ windows.his.money ≤ s.trader.money) ∧ (∀ slot ∈ tradedSlots,
        s.checkOffer accounts ⟨windows.my.setAccepted true, windows.his⟩ slot = none) ∧
      (s.handleAcceptTrade tables accounts spells).1 =
        s.exchange tables accounts ⟨windows.my.setAccepted true, windows.his⟩ := by
  unfold handleAcceptTrade at hdone ⊢
  cases htrade : s.trade with
  | none => simp [htrade] at hdone
  | some windows =>
    simp only [htrade] at hdone ⊢
    refine ⟨windows, rfl, ?_⟩
    split at hdone
    · cases hdone
    next hmoney =>
    split at hdone
    · cases hdone
    next hmoney' =>
    refine ⟨⟨Nat.not_lt.mp hmoney, Nat.not_lt.mp hmoney'⟩, ?_⟩
    rw [if_neg hmoney, if_neg hmoney']
    cases hcheck : tradedSlots.findSome?
        (s.checkOffer accounts ⟨windows.my.setAccepted true, windows.his⟩) with
    | some outcome =>
      simp only [hcheck] at hdone
      obtain ⟨slot, -, hslot⟩ := List.exists_of_findSome?_eq_some hcheck
      rcases checkOffer_eq_some hslot with rfl | rfl
      · cases hdone
      · cases hdone
    | none =>
      simp only [hcheck] at hdone ⊢
      refine ⟨List.findSome?_eq_none_iff.mp hcheck, ?_⟩
      split at hdone
      · cases hdone
      next haccepted =>
      split at hdone
      · cases hdone
      next hspell =>
      split at hdone
      · cases hdone
      next hspell' =>
      split at hdone
      · cases hdone
      next hroom =>
      split at hdone
      · cases hdone
      next hroom' =>
      rw [if_neg haccepted, if_neg hspell, if_neg hspell', if_neg hroom, if_neg hroom']

private theorem slotItems_tradedItems (s : TradeState) (windows : TradePair) {β : Type*}
    (f : Item → β) (hf : ∀ it guid, f { it with giftCreator := guid } = f it) :
    (↑(((s.tradedItems windows).flatMap slotItems).map f) : Multiset β) =
      ↑((offered (windows.my.offers s.player)).map f) + ↑((offered (windows.his.offers s.trader)).map f) := by
  have hzip : ∀ mine his : List (Option (ItemPos × Item)), mine.length = his.length →
      (↑((((giftsOf s.player mine).zip (giftsOf s.trader his)).flatMap slotItems).map f) :
        Multiset β) = ↑((offered mine).map f) + ↑((offered his).map f) := by
    intro mine
    induction mine with
    | nil =>
      intro his hlength
      rw [List.length_eq_zero_iff.mp hlength.symm]
      rfl
    | cons offer mine ih =>
      intro his hlength
      cases his with
      | nil => cases hlength
      | cons offer' his =>
        have hrest := ih his (Nat.succ.inj hlength)
        have hsplit : (((giftsOf s.player (offer :: mine)).zip
            (giftsOf s.trader (offer' :: his))).flatMap slotItems).map f =
            ((offer.toList ++ offer'.toList).map fun o => f o.2) ++
              (((giftsOf s.player mine).zip (giftsOf s.trader his)).flatMap slotItems).map f := by
          cases offer <;> cases offer' <;> simp [giftsOf, slotItems, hf]
        have hoffered : ∀ (o : Option (ItemPos × Item)) os, (offered (o :: os)).map f =
            (o.toList.map fun o => f o.2) ++ (offered os).map f := by
          intro o os
          cases o with
          | none => simp [offered, List.reduceOption_cons_of_none]
          | some o => simp [offered, List.reduceOption_cons_of_some]
        rw [hsplit, hoffered, hoffered, List.map_append, ← Multiset.coe_add, hrest]
        simp only [← Multiset.coe_add]
        abel
  exact hzip _ _ (by simp [TradeData.offers])

private theorem withoutOffers_items {windows : TradePair} (hchecks : ∀ slot ∈ tradedSlots,
      s.checkOffer accounts ⟨windows.my.setAccepted true, windows.his⟩ slot = none) :
    (s.withoutOffers windows).player.inventory.items + ↑(offered (windows.my.offers s.player)) =
        s.player.inventory.items ∧
      (s.withoutOffers windows).trader.inventory.items + ↑(offered (windows.his.offers s.trader)) =
        s.trader.inventory.items := by
  constructor
  · refine items_removeOffers (fun pos it hoffer => ?_) (offers_places windows.my s.player)
    obtain ⟨slot, hslot, hitem⟩ := List.mem_map.mp hoffer
    have hit := (getItem_eq_some hitem).2.1
    have htraded := (checkOffer_eq_none (hchecks slot hslot)).1 pos it hitem
    exact ⟨hit, Player.canBeTraded_bagIsEmpty hit htraded⟩
  · refine items_removeOffers (fun pos it hoffer => ?_) (offers_places windows.his s.trader)
    obtain ⟨slot, hslot, hitem⟩ := List.mem_map.mp hoffer
    have hit := (getItem_eq_some hitem).2.1
    have htraded := (checkOffer_eq_none (hchecks slot hslot)).2 pos it hitem
    exact ⟨hit, Player.canBeTraded_bagIsEmpty hit htraded⟩

private theorem withoutOffers_apart {windows : TradePair} (h : s.WF tables)
    (hmy : (s.withoutOffers windows).player.inventory.items +
      ↑(offered (windows.my.offers s.player)) = s.player.inventory.items)
    (hhis : (s.withoutOffers windows).trader.inventory.items +
      ↑(offered (windows.his.offers s.trader)) = s.trader.inventory.items) :
    Apart tables (s.withoutOffers windows) ((s.tradedItems windows).flatMap slotItems) := by
  have hguids : (s.withoutOffers windows).guids ((s.tradedItems windows).flatMap slotItems) =
      (s.player.inventory.items + s.trader.inventory.items).map (·.guid) := by
    rw [guids, slotItems_tradedItems s windows _ fun _ _ => rfl, ← hmy, ← hhis]
    simp only [Multiset.map_add, Multiset.map_coe]
    abel
  have hsource : ∀ it ∈ (s.tradedItems windows).flatMap slotItems,
      ∃ it' ∈ s.player.inventory.items + s.trader.inventory.items, it'.count = it.count ∧ it'.proto = it.proto := by
    intro it hit
    have hmem : (it.count, it.proto) ∈ (↑(((s.tradedItems windows).flatMap slotItems).map
        fun it => (it.count, it.proto)) : Multiset (Nat × ItemPrototype)) :=
      Multiset.mem_coe.mpr (List.mem_map_of_mem hit)
    rw [slotItems_tradedItems s windows _ fun _ _ => rfl, Multiset.mem_add] at hmem
    rw [← hmy, ← hhis]
    rcases hmem with hmem | hmem
    · obtain ⟨it', hit', heq⟩ := List.mem_map.mp hmem
      obtain ⟨hcount, hproto⟩ := Prod.mk.inj heq
      refine ⟨it', ?_, hcount, hproto⟩
      simp only [Multiset.mem_add, Multiset.mem_coe]
      exact .inl (.inr hit')
    · obtain ⟨it', hit', heq⟩ := List.mem_map.mp hmem
      obtain ⟨hcount, hproto⟩ := Prod.mk.inj heq
      refine ⟨it', ?_, hcount, hproto⟩
      simp only [Multiset.mem_add, Multiset.mem_coe]
      exact .inr (.inr hit')
  refine ⟨hguids ▸ h.guids, ?_, fun it hit => ?_, fun it hit => ?_⟩
  · intro g hg
    rw [hguids] at hg
    obtain ⟨it, hit, rfl⟩ := Multiset.mem_map.mp hg
    exact h.guids_lt it hit
  · obtain ⟨it', hit', hcount, -⟩ := hsource it hit
    exact hcount ▸ h.counts it' hit'
  · obtain ⟨it', hit', -, hproto⟩ := hsource it hit
    have hknown := h.prototypes it' hit'
    simpa only [Item.entry, hproto] using hknown

/-- A completed trade conserves items exactly when every slot was clean at its turn. -/
theorem acceptTrade_conserves_iff (tables : ItemTables) (accounts : Accounts)
    (spells : TradeSpells) (s : TradeState) (h : s.WF tables) (mySpell hisSpell : Nat)
    (hdone : (s.handleAcceptTrade tables accounts spells).2 = .completed mySpell hisSpell) :
    Conserved s (s.handleAcceptTrade tables accounts spells).1 ↔ s.ExchangesCleanly tables accounts := by
  obtain ⟨windows, htrade, -, hchecks, hexchange⟩ := handleAcceptTrade_completed hdone
  obtain ⟨hmy, hhis⟩ := withoutOffers_items hchecks
  obtain ⟨hapart, extra, left, hstranded, hamount, hclean⟩ :=
    @moveItems_moved tables accounts _ _ (withoutOffers_apart h hmy hhis)
  have hbefore : ∀ e, (s.withoutOffers windows).total e +
      (((s.tradedItems windows).flatMap slotItems).map (Item.weight e)).sum = s.total e := by
    intro e
    have hlimbo := congrArg Multiset.sum
      (slotItems_tradedItems s windows (Item.weight e) fun _ _ => rfl)
    have hmySum := congrArg (fun m => (Multiset.map (Item.weight e) m).sum) hmy
    have hhisSum := congrArg (fun m => (Multiset.map (Item.weight e) m).sum) hhis
    simp only [Multiset.map_add, Multiset.sum_add, Multiset.map_coe, Multiset.sum_coe,
      ← Inventory.itemCount_eq_sum] at hlimbo hmySum hhisSum
    simp only [total]
    omega
  have hexact : s.ExchangesCleanly tables accounts ↔ Guarded (moveItem tables accounts)
      (CleanMove tables accounts) (s.withoutOffers windows) (s.tradedItems windows) := by
    simp only [ExchangesCleanly, htrade, Option.some.injEq, forall_eq']
  have hafter : ∀ e, (s.exchange tables accounts
      ⟨windows.my.setAccepted true, windows.his⟩).total e =
      ((s.withoutOffers windows).moveItems tables accounts (s.tradedItems windows)).total e :=
    fun _ => rfl
  rw [hexact, ← hclean, hexchange]
  constructor
  · intro hconserved
    have hnone : left = [] := by
      have hsame := hconserved.not_stranded
      change ((s.withoutOffers windows).moveItems tables accounts
        (s.tradedItems windows)).stranded = _ at hsame
      rw [hstranded] at hsame
      exact List.append_right_eq_self.mp hsame
    refine ⟨fun e => ?_, hnone⟩
    have hcount := hconserved.counts e
    have hgained := hamount e
    rw [amount, hstranded, hnone, List.append_nil, amount] at hgained
    rw [hafter] at hcount
    have hsum := hbefore e
    omega
  · rintro ⟨hextra, hnone⟩
    rw [hnone, List.append_nil] at hstranded
    refine ⟨fun e => ?_, ?_, hstranded⟩
    · have hgained := hamount e
      rw [amount, hstranded, amount, hextra e] at hgained
      rw [hafter]
      have hsum := hbefore e
      omega
    · have hnodup := hapart.nodup
      rw [guids, List.map_nil, Multiset.coe_nil, add_zero, ← Multiset.map_add] at hnodup
      exact hnodup

end TradeState

/-! Player 1 offers two charms to player 2, who has one already and may not have more than two. -/

private def charm : ItemPrototype :=
  { ItemPrototype.trinket 4500 with maxCount := 2 }

private def token : ItemPrototype := .trinket 4600

private def oneOf (proto : ItemPrototype) (guid slot ownerGuid : Nat) : ItemPos × Item :=
  (⟨inventorySlotBag0, slot⟩, { guid, proto, count := 1, ownerGuid })

private def holding (items : List (ItemPos × Item)) : Inventory := ⟨fun pos => items.lookup pos⟩

private def noWindow : TradeData := .acceptedMoney 0

private def twoCharms : TradeData where
  accepted := true
  items slot := if slot.val = 0 then 101 else if slot.val = 1 then 102 else 0
  items_distinct := by decide

private def tokenSecond : TradeData where
  accepted := true
  items slot := if slot.val = 1 then 104 else 0
  items_distinct := by decide

private def charmGiver : Player where
  guid := 1
  account := 1
  money := 0
  inventory := holding [oneOf charm 101 23 1, oneOf charm 102 24 1]

private def charmTaker : Player where
  guid := 2
  account := 2
  money := 0
  inventory := holding [oneOf charm 103 23 2, oneOf token 104 24 2]

private def charmTrade (his : TradeData) : TradeState where
  player := charmGiver
  trader := charmTaker
  trade := some ⟨twoCharms, his⟩
  nextItemGuid := 105
  stranded := []

private def charmTables : ItemTables := .ofPrototypes [charm, token]

private def charmAccounts : Accounts := .oneEach

private def noSpells : TradeSpells := ⟨fun _ => false, fun _ _ _ => false⟩

private theorem charmTrade_wf (his : TradeData) : (charmTrade his).WF charmTables where
  guids := by
    show ((charmGiver.inventory.items + charmTaker.inventory.items).map (·.guid)).Nodup
    decide +kernel
  guids_lt := by
    show ∀ it ∈ charmGiver.inventory.items + charmTaker.inventory.items, it.guid < 105
    decide +kernel
  counts := by
    show ∀ it ∈ charmGiver.inventory.items + charmTaker.inventory.items, 0 < it.count
    decide +kernel
  prototypes := by
    show ∀ it ∈ charmGiver.inventory.items + charmTaker.inventory.items, charmTables.prototype it.entry = some it.proto
    decide +kernel

/-- The second charm is given back to a player who gets nothing in that slot. -/
theorem acceptTrade_conserves_givenBack : TradeState.Conserved (charmTrade noWindow)
      ((charmTrade noWindow).handleAcceptTrade charmTables charmAccounts noSpells).1 := by
  refine (TradeState.acceptTrade_conserves_iff charmTables charmAccounts noSpells
    (charmTrade noWindow) (charmTrade_wf noWindow) 0 0 (by decide +kernel)).mpr ?_
  intro windows hwindows
  cases hwindows
  decide +kernel

private theorem fails_of_total {tables : ItemTables} {accounts : Accounts} {spells : TradeSpells}
    {s : TradeState} (hwf : s.WF tables)
    (hdone : (s.handleAcceptTrade tables accounts spells).2 = .completed 0 0) {e : Nat}
    (htotal : (s.handleAcceptTrade tables accounts spells).1.total e ≠ s.total e) :
    ¬ ∀ (tables : ItemTables) (accounts : Accounts) (spells : TradeSpells) (s : TradeState),
      s.WF tables → ∀ mySpell hisSpell, (s.handleAcceptTrade tables accounts spells).2 = .completed mySpell hisSpell →
        TradeState.Conserved s (s.handleAcceptTrade tables accounts spells).1 := by
  intro h
  exact htotal ((h tables accounts spells s hwf 0 0 hdone).counts e)

/-- A token offered for the second charm had found a place in the inventory of player 1: the charm
that is given back is put there as well as into a place of its own. -/
theorem acceptTrade_duplicates :
    ¬ ∀ (tables : ItemTables) (accounts : Accounts) (spells : TradeSpells) (s : TradeState),
      s.WF tables → ∀ mySpell hisSpell, (s.handleAcceptTrade tables accounts spells).2 = .completed mySpell hisSpell →
        TradeState.Conserved s (s.handleAcceptTrade tables accounts spells).1 := by
  have hdone : ((charmTrade tokenSecond).handleAcceptTrade charmTables charmAccounts
      noSpells).2 = .completed 0 0 := by decide +kernel
  have hfour : ((charmTrade tokenSecond).handleAcceptTrade charmTables charmAccounts
      noSpells).1.total 4500 = 4 := by decide +kernel
  have hthree : (charmTrade tokenSecond).total 4500 = 3 := by decide +kernel
  exact fails_of_total (charmTrade_wf tokenSecond) hdone (by rw [hfour, hthree]; decide)

end Mangos
