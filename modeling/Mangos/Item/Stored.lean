import Mangos.Item.Feasible

/-!
# What storing adds

Storing at a carried place always adds something.
-/

namespace Mangos

open Framework

/-- A place of the inventory as it is can take `n` items of the template `proto`. -/
def Inventory.Admits (inv : Inventory) (proto : ItemPrototype) (pos : ItemPos) (n : Nat) : Prop :=
  inv.IsCarriedPlace pos ∧ match inv.getItemByPos pos with
    | none => n ≤ proto.getMaxStackSize
    | some it => it.entry = proto.itemId ∧ it.count + n ≤ proto.getMaxStackSize

theorem StoreQuery.Admits.toInventory {q : StoreQuery} {inv : Inventory} {proto : ItemPrototype}
    {pos : ItemPos} {n : Nat} (h : q.Admits inv proto pos n)
    (hout : ∀ it ∈ inv.items, q.pItem.any (·.guid = it.guid) = false) : inv.Admits proto pos n := by
  refine ⟨h.1, ?_⟩
  have hroom := h.2
  have hat : q.itemAt inv pos = inv.getItemByPos pos := by
    unfold itemAt
    cases hit : inv.getItemByPos pos with
    | none => rfl
    | some it =>
      have hnot := hout it (Inventory.mem_items.mpr ⟨pos, hit⟩)
      simp [hnot]
  rwa [hat] at hroom

namespace Stock

variable {tables : ItemTables} {ownerGuid : Nat} {s : Stock} {pos : ItemPos} {it : Item}

private theorem takesItems_of_hasPos {inv : Inventory} (h : inv.hasPos pos) : inv.takesItems pos := by
  by_cases hbag : pos.bag = inventorySlotBag0
  · simp [Inventory.takesItems, hbag]
  · simp only [Inventory.hasPos, hbag, if_false, Bool.and_eq_true, Option.any_eq_true] at h
    obtain ⟨hslot, bag, hworn, -⟩ := h
    have hpos : inv.hasPos ⟨inventorySlotBag0, pos.bag⟩ := by
      simp only [Inventory.hasPos, if_true, decide_eq_true_eq]
      simp only [ItemPos.isBagSlot, Bool.or_eq_true, Bool.and_eq_true, decide_eq_true_eq] at hslot
      simp only [inventorySlotBagStart, inventorySlotBagEnd, bankSlotBagStart, bankSlotBagEnd] at hslot ⊢
      omega
    simp [Inventory.takesItems, Inventory.getItemByPos, hpos, hworn]

private theorem weight_storedAt (e : Nat) (it : Item) (ownerGuid : Nat) (pos : ItemPos) :
    Item.weight e (it.storedAt ownerGuid pos) = Item.weight e it := rfl

private theorem weight_grownAt (e n : Nat) (it : Item) (pos : ItemPos) :
    Item.weight e (it.grownAt pos n) = Item.weight e it + if it.entry = e then n else 0 := by
  by_cases he : it.entry = e
  · simp only [Item.weight, if_pos he]
    exact if_pos he
  · simp only [Item.weight, if_neg he]
    exact if_neg he

def guidAt (s : Stock) (pos : ItemPos) (it : Item) (clone : Bool) : Nat :=
  match s.inventory.getItemByPos pos with
  | some it2 => it2.guid
  | none => if clone then s.nextItemGuid else it.guid

private theorem storeAt_grows (tables : ItemTables) (ownerGuid : Nat) {n : Nat}
    (hplace : s.inventory.IsCarriedPlace pos) (hn : 0 < n) (clone : Bool) :
    ∃ stored : Item, (s.storeAt tables ownerGuid pos it n clone).inventory =
        s.inventory.put pos (some stored) ∧ stored.guid = s.guidAt pos it clone ∧ ∃ e₀ added, 0 < added ∧
        (∀ e, Item.weight e stored = (s.inventory.getItemByPos pos).elim 0 (Item.weight e) +
          if e₀ = e then added else 0) ∧ (s.inventory.Admits it.proto pos n → e₀ = it.entry ∧ added = n) := by
  have htakes := takesItems_of_hasPos hplace.1
  unfold storeAt guidAt
  cases hat : s.inventory.getItemByPos pos with
  | some it2 =>
    refine ⟨it2.grownAt pos n, rfl, rfl, it2.entry, n, hn, fun e => weight_grownAt e n it2 pos, ?_⟩
    rintro ⟨-, hroom⟩
    rw [hat] at hroom
    exact ⟨hroom.1, rfl⟩
  | none =>
    cases clone with
    | false =>
      refine ⟨Item.storedAt { it with count := n } ownerGuid pos, ?_, rfl, it.entry, n, hn,
        fun e => ?_, fun _ => ⟨rfl, rfl⟩⟩
      · simp [storeAtFree, htakes]
      · rw [weight_storedAt, Item.weight_count]
        simp
    | true =>
      cases hcopy : it.cloneItem tables s.nextItemGuid n ownerGuid with
      | none => simp [Item.cloneItem, Nat.ne_of_gt hn] at hcopy
      | some copy =>
        obtain ⟨-, hguid, hproto, hcount⟩ := Item.cloneItem_eq_some hcopy
        have hentry : copy.entry = it.entry := congrArg ItemPrototype.itemId hproto
        have hmax := it.proto.getMaxStackSize_pos
        refine ⟨copy.storedAt ownerGuid pos, ?_, hguid, it.entry, copy.count, by omega, fun e => ?_, ?_⟩
        · simp [storeAtFree, htakes]
        · rw [weight_storedAt, Item.weight, hentry]
          simp
        · rintro ⟨-, hroom⟩
          simp only [hat] at hroom
          exact ⟨rfl, by omega⟩

theorem storeAt_put (tables : ItemTables) (ownerGuid : Nat) {n : Nat}
    (hadmits : s.inventory.Admits it.proto pos n) (hn : 0 < n) (clone : Bool) :
    ∃ stored : Item, (s.storeAt tables ownerGuid pos it n clone).inventory =
        s.inventory.put pos (some stored) ∧ stored.guid = s.guidAt pos it clone ∧ ∀ e, Item.weight e stored =
        (s.inventory.getItemByPos pos).elim 0 (Item.weight e) + if it.entry = e then n else 0 := by
  obtain ⟨stored, hput, hguid, e₀, added, -, hweight, hexact⟩ :=
    storeAt_grows tables ownerGuid hadmits.1 hn clone
  obtain ⟨rfl, rfl⟩ := hexact hadmits
  exact ⟨stored, hput, hguid, hweight⟩

private theorem nextItemGuid_storeAtFree (s : Stock) (pos : ItemPos) (it : Item) :
    (s.storeAtFree ownerGuid pos it).nextItemGuid = s.nextItemGuid := by
  unfold storeAtFree
  split
  · rfl
  · rfl

theorem nextItemGuid_storeAt (n : Nat) (clone : Bool) :
    s.nextItemGuid ≤ (s.storeAt tables ownerGuid pos it n clone).nextItemGuid := by
  unfold storeAt
  split
  · exact Nat.le_refl _
  split
  · split
    · exact Nat.le_refl _
    · rw [nextItemGuid_storeAtFree]
      exact Nat.le_succ _
  · rw [nextItemGuid_storeAtFree]

private theorem nextItemGuid_clone {n : Nat} (hat : s.inventory.getItemByPos pos = none) (hn : 0 < n) :
    (s.storeAt tables ownerGuid pos it n true).nextItemGuid = s.nextItemGuid + 1 := by
  simp only [storeAt, hat, if_true]
  cases hcopy : it.cloneItem tables s.nextItemGuid n ownerGuid with
  | none => simp [Item.cloneItem, Nat.ne_of_gt hn] at hcopy
  | some copy =>
    dsimp only
    rw [nextItemGuid_storeAtFree]

private theorem itemCount_storeAt_grows {n : Nat} (hplace : s.inventory.IsCarriedPlace pos)
    (hn : 0 < n) (clone : Bool) : ∃ e₀ added, 0 < added ∧
      (∀ e, (s.storeAt tables ownerGuid pos it n clone).inventory.itemCount e =
        s.inventory.itemCount e + if e₀ = e then added else 0) ∧
      (s.inventory.Admits it.proto pos n → e₀ = it.entry ∧ added = n) := by
  obtain ⟨stored, hput, -, e₀, added, hadded, hweight, hexact⟩ :=
    storeAt_grows tables ownerGuid hplace hn clone
  refine ⟨e₀, added, hadded, fun e => ?_, hexact⟩
  have hupdate := tally_update itemPositions_nodup (Inventory.hasPos_mem hplace.1) (Item.weight e)
    s.inventory.getItemByPos (some stored)
  have hstored := hweight e
  simp only [Option.elim_some] at hupdate
  rw [hput, Inventory.itemCount, Inventory.getItemByPos_put hplace.1 hplace.2.1, Inventory.itemCount]
  omega

theorem itemCount_storeAt {n : Nat} (hadmits : s.inventory.Admits it.proto pos n) (hn : 0 < n)
    (clone : Bool) (e : Nat) : (s.storeAt tables ownerGuid pos it n clone).inventory.itemCount e =
      s.inventory.itemCount e + if it.entry = e then n else 0 := by
  obtain ⟨e₀, added, -, hcount, hexact⟩ := itemCount_storeAt_grows hadmits.1 hn clone
  obtain ⟨rfl, rfl⟩ := hexact hadmits
  exact hcount e

private theorem isCarriedPlace_storeAt {n : Nat} {q : ItemPos}
    (hplace : s.inventory.IsCarriedPlace pos) (hn : 0 < n) (clone : Bool) (h : s.inventory.IsCarriedPlace q) :
    (s.storeAt tables ownerGuid pos it n clone).inventory.IsCarriedPlace q := by
  obtain ⟨stored, hput, -⟩ := @storeAt_grows s pos it tables ownerGuid n hplace hn clone
  obtain ⟨hqpos, hqbag, hqplace⟩ := h
  rw [hput]
  refine ⟨?_, hqbag, hqplace⟩
  rw [Inventory.hasPos_put hplace.2.1]
  exact hqpos

theorem admits_storeAt {proto : ItemPrototype} {n m : Nat} {q : ItemPos}
    (hplace : s.inventory.IsCarriedPlace pos) (hn : 0 < n) (clone : Bool) (hq : q ≠ pos)
    (h : s.inventory.Admits proto q m) : (s.storeAt tables ownerGuid pos it n clone).inventory.Admits proto q m := by
  obtain ⟨stored, hput, -⟩ := @storeAt_grows s pos it tables ownerGuid n hplace hn clone
  refine ⟨isCarriedPlace_storeAt hplace hn clone h.1, ?_⟩
  rw [hput, Inventory.getItemByPos_put hplace.1 hplace.2.1, Function.update_of_ne hq]
  exact h.2

theorem itemCount_storeItem {dest : List ItemPosCount} (hnodup : (dest.map (·.pos)).Nodup)
    (hadmits : ∀ p ∈ dest, 0 < p.count ∧ s.inventory.Admits it.proto p.pos p.count) (e : Nat) :
    (s.storeItem tables ownerGuid it dest).inventory.itemCount e =
      s.inventory.itemCount e + if it.entry = e then placed dest else 0 := by
  induction dest generalizing s with
  | nil => simp [storeItem]
  | cons p dest ih =>
    obtain ⟨hn, hfirst⟩ := hadmits p List.mem_cons_self
    cases dest with
    | nil =>
      rw [storeItem, itemCount_storeAt hfirst hn]
      simp
    | cons p' dest =>
      rw [List.map_cons, List.nodup_cons] at hnodup
      rw [storeItem, ih hnodup.2, itemCount_storeAt hfirst hn]
      · rw [placed_cons p]
        by_cases he : it.entry = e
        · simp only [he, if_true]
          omega
        · simp only [he, if_false]
      · intro r hr
        obtain ⟨hm, hrest⟩ := hadmits r (List.mem_cons_of_mem p hr)
        refine ⟨hm, admits_storeAt hfirst.1 hn true ?_ hrest⟩
        intro heq
        exact hnodup.1 (heq ▸ List.mem_map_of_mem (f := (·.pos)) hr)

theorem fits_storeAt {n : Nat} (hfits : ∀ it2 ∈ s.inventory.items, it2.Fits tables)
    (hknown : tables.prototype it.entry = some it.proto)
    (hadmits : s.inventory.Admits it.proto pos n) (hn : 0 < n) (clone : Bool) :
    ∀ it2 ∈ (s.storeAt tables ownerGuid pos it n clone).inventory.items, it2.Fits tables := by
  obtain ⟨hpos, hbag, -⟩ := hadmits.1
  have htakes := takesItems_of_hasPos hpos
  have hroom := hadmits.2
  have hput : ∃ stored : Item, (s.storeAt tables ownerGuid pos it n clone).inventory =
      s.inventory.put pos (some stored) ∧ stored.Fits tables := by
    unfold storeAt
    cases hat : s.inventory.getItemByPos pos with
    | some it2 =>
      simp only [hat] at hroom
      have hit2 := hfits it2 (Inventory.mem_items.mpr ⟨pos, hat⟩)
      have hproto : it2.proto = it.proto := by
        have hknown2 := hit2.known
        have hentry : it2.entry = it.entry := hroom.1
        rw [hentry, hknown] at hknown2
        exact (Option.some.inj hknown2).symm
      refine ⟨it2.grownAt pos n, rfl, hit2.transfer rfl ?_ ?_⟩
      · exact Nat.lt_of_lt_of_le hn (Nat.le_add_left n it2.count)
      · rw [hproto]
        exact hroom.2
    | none =>
      simp only [hat] at hroom
      cases clone with
      | false =>
        refine ⟨Item.storedAt { it with count := n } ownerGuid pos, ?_, hknown, hn, hroom⟩
        simp [storeAtFree, htakes]
      | true =>
        cases hcopy : it.cloneItem tables s.nextItemGuid n ownerGuid with
        | none => simp [Item.cloneItem, Nat.ne_of_gt hn] at hcopy
        | some copy =>
          obtain ⟨-, -, hproto, hcount⟩ := Item.cloneItem_eq_some hcopy
          have hmax := it.proto.getMaxStackSize_pos
          refine ⟨copy.storedAt ownerGuid pos, by simp [storeAtFree, htakes], ?_⟩
          have hcopyKnown : tables.prototype copy.entry = some copy.proto := by
            rw [Item.entry, hproto]
            exact hknown
          refine ⟨hcopyKnown, ?_, ?_⟩
          · show 0 < copy.count
            omega
          · show copy.count ≤ copy.proto.getMaxStackSize
            rw [hproto]
            omega
  obtain ⟨stored, hput, hstored⟩ := hput
  intro it2 hit2
  rw [hput] at hit2
  rcases Inventory.mem_items_put hpos hbag hit2 with hnew | hold
  · rw [← Option.some.inj hnew]
    exact hstored
  · exact hfits it2 hold

theorem fits_storeItem {dest : List ItemPosCount} (hnodup : (dest.map (·.pos)).Nodup)
    (hfits : ∀ it2 ∈ s.inventory.items, it2.Fits tables) (hknown : tables.prototype it.entry = some it.proto)
    (hadmits : ∀ p ∈ dest, 0 < p.count ∧ s.inventory.Admits it.proto p.pos p.count) :
    ∀ it2 ∈ (s.storeItem tables ownerGuid it dest).inventory.items, it2.Fits tables := by
  induction dest generalizing s with
  | nil => exact hfits
  | cons p dest ih =>
    obtain ⟨hn, hfirst⟩ := hadmits p List.mem_cons_self
    cases dest with
    | nil => exact fits_storeAt hfits hknown hfirst hn false
    | cons p' dest =>
      rw [List.map_cons, List.nodup_cons] at hnodup
      refine ih hnodup.2 (fits_storeAt hfits hknown hfirst hn true) ?_
      intro r hr
      obtain ⟨hm, hrest⟩ := hadmits r (List.mem_cons_of_mem p hr)
      refine ⟨hm, admits_storeAt hfirst.1 hn true ?_ hrest⟩
      intro heq
      exact hnodup.1 (heq ▸ List.mem_map_of_mem (f := (·.pos)) hr)

theorem getItemByPos_storeItem {dest : List ItemPosCount} {q : ItemPos} (hq : q.isBagPos)
    (hdest : ∀ p ∈ dest, 0 < p.count ∧ s.inventory.IsCarriedPlace p.pos) :
    (s.storeItem tables ownerGuid it dest).inventory.getItemByPos q = s.inventory.getItemByPos q := by
  have hstep : ∀ (s : Stock) (p : ItemPosCount) (clone : Bool), 0 < p.count →
      s.inventory.IsCarriedPlace p.pos →
      (s.storeAt tables ownerGuid p.pos it p.count clone).inventory.getItemByPos q = s.inventory.getItemByPos q := by
    intro s p clone hn hplace
    obtain ⟨stored, hput, -⟩ := @storeAt_grows s p.pos it tables ownerGuid p.count hplace hn clone
    have hne : q ≠ p.pos := by
      rintro rfl
      rw [hplace.2.1] at hq
      cases hq
    rw [hput, Inventory.getItemByPos_put hplace.1 hplace.2.1, Function.update_of_ne hne]
  induction dest generalizing s with
  | nil => rfl
  | cons p dest ih =>
    obtain ⟨hn, hplace⟩ := hdest p List.mem_cons_self
    cases dest with
    | nil => exact hstep s p false hn hplace
    | cons p' dest =>
      rw [storeItem, ih, hstep s p true hn hplace]
      intro r hr
      obtain ⟨hm, hrest⟩ := hdest r (List.mem_cons_of_mem p hr)
      exact ⟨hm, isCarriedPlace_storeAt hplace hn true hrest⟩

/-! A destination vector may start with places that were found for another item. -/

variable (tables ownerGuid) in
def storeCopies (s : Stock) (it : Item) (dest : List ItemPosCount) : Stock :=
  dest.foldl (fun s p => s.storeAt tables ownerGuid p.pos it p.count true) s

theorem storeItem_append {added : List ItemPosCount} (hadded : added ≠ []) (start : List ItemPosCount) :
    s.storeItem tables ownerGuid it (start ++ added) =
      (s.storeCopies tables ownerGuid it start).storeItem tables ownerGuid it added := by
  induction start generalizing s with
  | nil => rfl
  | cons p start ih =>
    have hne : start ++ added ≠ [] := by simp [hadded]
    obtain ⟨p', rest, hrest⟩ := List.exists_cons_of_ne_nil hne
    have hstep : s.storeItem tables ownerGuid it (p :: (start ++ added)) =
        (s.storeAt tables ownerGuid p.pos it p.count true).storeItem tables ownerGuid it
          (start ++ added) := by
      rw [hrest]
      rfl
    rw [List.cons_append, hstep, ih]
    rfl

private theorem admits_storeCopies {proto : ItemPrototype} {start : List ItemPosCount} {m : Nat}
    {q : ItemPos} (hstart : ∀ p ∈ start, 0 < p.count ∧ s.inventory.IsCarriedPlace p.pos)
    (hq : q ∉ start.map (·.pos)) (h : s.inventory.Admits proto q m) :
    (s.storeCopies tables ownerGuid it start).inventory.Admits proto q m := by
  induction start generalizing s with
  | nil => exact h
  | cons p start ih =>
    obtain ⟨hn, hplace⟩ := hstart p List.mem_cons_self
    rw [List.map_cons, List.mem_cons, not_or] at hq
    refine ih (fun r hr => ?_) hq.2 (admits_storeAt hplace hn true hq.1 h)
    obtain ⟨hm, hrest⟩ := hstart r (List.mem_cons_of_mem p hr)
    exact ⟨hm, isCarriedPlace_storeAt hplace hn true hrest⟩

private theorem itemCount_storeCopies {start : List ItemPosCount}
    (hstart : ∀ p ∈ start, 0 < p.count ∧ s.inventory.IsCarriedPlace p.pos) : ∃ extra : Nat → Nat,
      (∀ e, (s.storeCopies tables ownerGuid it start).inventory.itemCount e =
        s.inventory.itemCount e + extra e) ∧ ((∀ e, extra e = 0) ↔ start = []) := by
  induction start generalizing s with
  | nil => exact ⟨fun _ => 0, fun e => rfl, by simp⟩
  | cons p start ih =>
    obtain ⟨hn, hplace⟩ := hstart p List.mem_cons_self
    obtain ⟨e₀, added, hadded, hcount, -⟩ :=
      @itemCount_storeAt_grows tables ownerGuid s p.pos it p.count hplace hn true
    have hrest : ∀ r ∈ start, 0 < r.count ∧
        (s.storeAt tables ownerGuid p.pos it p.count true).inventory.IsCarriedPlace r.pos := by
      intro r hr
      obtain ⟨hm, hrest⟩ := hstart r (List.mem_cons_of_mem p hr)
      exact ⟨hm, isCarriedPlace_storeAt hplace hn true hrest⟩
    obtain ⟨extra, hextra, -⟩ := ih hrest
    refine ⟨fun e => (if e₀ = e then added else 0) + extra e, fun e => ?_, ?_⟩
    · have hfirst := hcount e
      have hthen := hextra e
      simp only [storeCopies, List.foldl_cons] at hthen ⊢
      omega
    · simp only [List.cons_ne_nil, iff_false]
      intro hnone
      have hzero := hnone e₀
      simp only [if_true] at hzero
      omega

theorem itemCount_storeItem_extends {start dest : List ItemPosCount} (hkept : start <+: dest)
    (hdistinct : (dest.map (·.pos)).Nodup) (hstart : ∀ p ∈ start, 0 < p.count ∧ s.inventory.IsCarriedPlace p.pos)
    (hadmits : ∀ p ∈ addedTo start dest, 0 < p.count ∧ s.inventory.Admits it.proto p.pos p.count)
    (hadded : 0 < placed (addedTo start dest)) : ∃ extra : Nat → Nat,
      (∀ e, (s.storeItem tables ownerGuid it dest).inventory.itemCount e =
        s.inventory.itemCount e + (if it.entry = e then placed (addedTo start dest) else 0) + extra e) ∧
      ((∀ e, extra e = 0) ↔ start = []) := by
  obtain ⟨extra, hextra, hnone⟩ := @itemCount_storeCopies tables ownerGuid s it start hstart
  have hne : addedTo start dest ≠ [] := by
    intro hnil
    rw [hnil] at hadded
    exact absurd hadded (lt_irrefl 0)
  have hdest := append_addedTo hkept
  rw [← hdest, List.map_append, List.nodup_append] at hdistinct
  obtain ⟨-, hdistinct, hdisjoint⟩ := hdistinct
  refine ⟨extra, fun e => ?_, hnone⟩
  have hstored := @itemCount_storeItem tables ownerGuid
    (s.storeCopies tables ownerGuid it start) it (addedTo start dest) hdistinct (fun p hp => by
      obtain ⟨hn, hroom⟩ := hadmits p hp
      refine ⟨hn, admits_storeCopies hstart ?_ hroom⟩
      intro hmem
      exact hdisjoint _ hmem _ (List.mem_map_of_mem hp) rfl) e
  rw [← storeItem_append hne start, hdest] at hstored
  rw [hstored, hextra e]
  omega

/-- The guids held, and with them those of other items, stay different and below the next one. -/
structure GuidsFresh (s : Stock) (others : Multiset Nat) : Prop where
  nodup : (s.inventory.items.map (·.guid) + others).Nodup
  lt : ∀ g ∈ s.inventory.items.map (·.guid) + others, g < s.nextItemGuid

private theorem guids_storeAt {n : Nat} (hplace : s.inventory.IsCarriedPlace pos) (hn : 0 < n)
    (clone : Bool) : (s.storeAt tables ownerGuid pos it n clone).inventory.items.map (·.guid) =
        s.inventory.items.map (·.guid) ∨ (s.storeAt tables ownerGuid pos it n clone).inventory.items.map (·.guid) =
        (if clone then s.nextItemGuid else it.guid) ::ₘ s.inventory.items.map (·.guid) ∧
      (clone → (s.storeAt tables ownerGuid pos it n clone).nextItemGuid = s.nextItemGuid + 1) := by
  obtain ⟨stored, hput, hguid, -⟩ := @storeAt_grows s pos it tables ownerGuid n hplace hn clone
  have hitems := congrArg (Multiset.map Item.guid)
    (Inventory.items_put hplace.1 hplace.2.1 (some stored))
  rw [← hput, Multiset.map_add, Multiset.map_add, held_some, Multiset.map_singleton, hguid]
    at hitems
  unfold guidAt at hitems
  cases hat : s.inventory.getItemByPos pos with
  | some it2 =>
    rw [hat, held_some, Multiset.map_singleton] at hitems
    exact .inl (add_right_cancel hitems)
  | none =>
    rw [hat, held_none, Multiset.map_zero, add_zero] at hitems
    refine .inr ⟨?_, fun hclone => ?_⟩
    · rw [hitems, Multiset.add_comm, Multiset.singleton_add]
    · rw [hclone]
      exact nextItemGuid_clone hat hn

theorem GuidsFresh.storeItem {others : Multiset Nat} {dest : List ItemPosCount}
    (h : s.GuidsFresh (it.guid ::ₘ others)) (hdest : ∀ p ∈ dest, 0 < p.count ∧ s.inventory.IsCarriedPlace p.pos) :
    (s.storeItem tables ownerGuid it dest).GuidsFresh others := by
  induction dest generalizing s with
  | nil =>
    obtain ⟨hnodup, hlt⟩ := h
    rw [Multiset.add_cons] at hnodup hlt
    exact ⟨(Multiset.nodup_cons.mp hnodup).2, fun g hg => hlt g (Multiset.mem_cons_of_mem hg)⟩
  | cons p dest ih =>
    obtain ⟨hn, hplace⟩ := hdest p List.mem_cons_self
    obtain ⟨hnodup, hlt⟩ := h
    rw [Multiset.add_cons] at hnodup hlt
    cases dest with
    | nil =>
      have hnext := @nextItemGuid_storeAt tables ownerGuid s p.pos it p.count false
      rw [Stock.storeItem]
      rcases @guids_storeAt tables ownerGuid s p.pos it p.count hplace hn false with
        hsame | ⟨hnew, -⟩
      · constructor
        · rw [hsame]
          exact (Multiset.nodup_cons.mp hnodup).2
        · intro g hg
          rw [hsame] at hg
          exact (hlt g (Multiset.mem_cons_of_mem hg)).trans_le hnext
      · rw [if_neg Bool.false_ne_true] at hnew
        constructor
        · rw [hnew, Multiset.cons_add]
          exact hnodup
        · intro g hg
          rw [hnew, Multiset.cons_add] at hg
          exact (hlt g hg).trans_le hnext
    | cons p' dest =>
      have hnext := @nextItemGuid_storeAt tables ownerGuid s p.pos it p.count true
      rw [Stock.storeItem]
      refine ih ?_ fun r hr => ?_
      · rcases @guids_storeAt tables ownerGuid s p.pos it p.count hplace hn true with
          hsame | ⟨hnew, hsucc⟩
        · constructor
          · rw [hsame, Multiset.add_cons]
            exact hnodup
          · intro g hg
            rw [hsame, Multiset.add_cons] at hg
            exact (hlt g hg).trans_le hnext
        · rw [if_pos rfl] at hnew
          constructor
          · rw [hnew, Multiset.cons_add, Multiset.add_cons, Multiset.nodup_cons]
            exact ⟨fun hmem => absurd (hlt _ hmem) (lt_irrefl _), hnodup⟩
          · intro g hg
            rw [hnew, Multiset.cons_add, Multiset.add_cons, Multiset.mem_cons] at hg
            rw [hsucc rfl]
            rcases hg with rfl | hg
            · exact Nat.lt_succ_self _
            · exact (hlt g hg).trans (Nat.lt_succ_self _)
      · obtain ⟨hm, hrest⟩ := hdest r (List.mem_cons_of_mem p hr)
        exact ⟨hm, isCarriedPlace_storeAt hplace hn true hrest⟩

end Stock

end Mangos
