import Mangos.Item.Exchanged

/-!
# Moving items conserves them

Whatever `SwapItem` and `SplitItem` are asked for, the amounts of every entry are as before and every object
is where it says it is, but for an off-hand that has to go by mail.
-/

namespace Mangos

open Framework

namespace Bearer

variable {tables : ItemTables} {accounts : Accounts} {rules : WearRules} {s : Bearer}
  {src dst : ItemPos}

private theorem swapRefusal_ok {dstItem : Option Item} {srcItem : Item}
    (h : s.swapRefusal src dst dstItem srcItem = .ok) :
    s.swapUnequipRefusal src dst dstItem = .ok ∧ ¬ (src.isBagPos ∧ src.slot = dst.bag) ∧
      ¬ (dst.isBagPos ∧ dst.slot = src.bag) ∧ (dstItem.isSome → s.swapUnequipRefusal dst src (some srcItem) = .ok) := by
  unfold swapRefusal at h
  split at h
  · cases h
  split at h
  next hno => exact absurd h hno
  next hsrc =>
    split at h
    · cases h
    next hself =>
      split at h
      · cases h
      next hself' =>
        simp only [Bool.and_eq_true, decide_eq_true_eq] at hself hself'
        refine ⟨not_not.mp hsrc, hself, hself', fun hsome => ?_⟩
        rw [if_pos hsome] at h
        exact h

private theorem ne_own {b : Belongings} {key : SlotKey} (hkey : b.keyOf src = some key)
    (hself : ¬ (src.isBagPos ∧ src.slot = dst.bag)) (hslot : ItemPos.isBagSlot dst.bag) : key ≠ .own dst.bag := by
  rintro rfl
  obtain ⟨rfl, -⟩ := Belongings.keyOf_own.mp hkey
  refine hself ⟨?_, rfl⟩
  rw [ItemPos.isBagPos, Bool.and_eq_true]
  exact ⟨decide_eq_true rfl, hslot⟩

private theorem ne_own_of_shown {b : Belongings} {key key' : SlotKey} (hkey : b.keyOf src = some key)
    (hdst : b.keyOf dst = some key') (hself : ¬ (src.isBagPos ∧ src.slot = dst.bag)) : key ≠ .own dst.bag := by
  cases key' with
  | inside g k => exact ne_own hkey hself (Belongings.keyOf_inside.mp hdst).2.1
  | own slot =>
    rintro rfl
    have hlt := (Belongings.keyOf_own.mp hkey).2
    have hbag : dst.bag = inventorySlotBag0 :=
      congrArg ItemPos.bag (Belongings.keyOf_own.mp hdst).1
    simp [hbag, inventorySlotBag0, bankSlotBagEnd] at hlt

theorem swapItem_moved (h : s.Arranged tables [] []) (hne : src ≠ dst) :
    Moved tables accounts rules s (s.swapItem tables accounts rules src dst) := by
  unfold swapItem
  cases hsrc : s.belongings.getItemByPos src with
  | none => exact .kept (.refl h)
  | some obj =>
    obtain ⟨key, hkey, hobj⟩ := Belongings.getItemByPos_eq_some.mp hsrc
    dsimp only
    split
    next hok =>
      obtain ⟨hunequip, hself, hself', hdstUnequip⟩ := swapRefusal_ok hok
      cases hdst : s.belongings.getItemByPos dst with
      | none =>
        rw [hdst] at hunequip
        refine moveItem_moved h hkey hobj hdst (ne_own hkey hself) fun hpos => ?_
        exact inside_eq_none_of_swapUnequipRefusal h hkey hobj hunequip hpos rfl
      | some obj' =>
        obtain ⟨key', hkey', hobj'⟩ := Belongings.getItemByPos_eq_some.mp hdst
        rw [hdst] at hunequip hdstUnequip
        have hkeys : key' ≠ key := by
          rintro rfl
          exact hne (h.keyOf_inj hkey hkey')
        have hapart : Apart tables s src dst key key' obj obj' :=
          ⟨h, hkey, hkey', hobj, hobj', hkeys, ne_own_of_shown hkey hkey' hself, ne_own_of_shown hkey' hkey hself'⟩
        have hswap : Moved tables accounts rules s
            (s.swapItems tables accounts rules src dst obj.item obj'.item) :=
          swapItems_moved hapart hunequip (hdstUnequip rfl)
        simp only [Option.map_some]
        split
        next r hmerged =>
          split at hmerged
          next hbags =>
            simp only [Bool.and_eq_true, Bool.not_eq_true'] at hbags
            exact mergeItems_moved h hkey hobj hkey' hobj' hkeys hapart.src_self hbags.1 hmerged
          next => cases hmerged
        next => exact hswap
    next => exact .refused h rfl rfl

private theorem inside_new_eq_none {b : Belongings} {next g : Nat} {air : List Nat}
    (h : b.Arranged tables next (g :: air) []) (k : Nat) : b.slots (.inside g k) = none := by
  cases hin : b.slots (.inside g k) with
  | none => rfl
  | some obj =>
    rcases h.shown _ k obj hin with ⟨slot, bag, -, hbag, hguid, -⟩ | ⟨bag, hbag, -⟩
    · exact absurd hguid (h.air_away g List.mem_cons_self _ bag hbag)
    · cases hbag

private theorem gains_placed {g : Nat} {pos : ItemPos} {it : Item} {found : PlaceFound}
    (h : s.Arranged tables [g] []) (hfits : it.Fits tables) (hguid : it.guid = g)
    (hspec : s.CanPlace pos it false found) : Gains tables [] [] s (s.place tables it found) it.entry it.count := by
  subst hguid
  cases hspec with
  | stored hfound =>
    have hroom := hfound rfl
    have haway := h.air_away it.guid List.mem_cons_self
    have hgains := gains_storeItem h hfits (hroom.ne_nil hfits) hroom.distinct fun p hp => by
      obtain ⟨hpos, htakes⟩ := hroom.takes p hp
      rw [Belongings.without_of_away haway] at htakes
      exact ⟨hpos, htakes⟩
    rw [hroom.total] at hgains
    exact hgains
  | equipped hthere hfree hbag =>
    rcases hfree with hswap | hfree
    · cases hswap
    · rw [Belongings.getItemByPos, hthere, Option.bind_some] at hfree
      have hown : pos.bag = inventorySlotBag0 :=
        congrArg ItemPos.bag (Belongings.keyOf_own.mp hthere).1
      have hopened := h.open_mono (List.nil_subset [it])
      exact (gains_place_closed hopened hfits rfl hthere hfree hbag
        (fun _ => inside_new_eq_none h) (.inr ⟨rfl, hown⟩)).1

theorem splitItem_moved (h : s.Arranged tables [] []) (count : Nat) :
    Moved tables accounts rules s (s.splitItem tables accounts rules src dst count) := by
  unfold splitItem
  cases hsrc : s.belongings.getItemByPos src with
  | none => exact .refused h rfl rfl
  | some obj =>
    obtain ⟨key, hkey, hobj⟩ := Belongings.getItemByPos_eq_some.mp hsrc
    dsimp only
    split
    · exact .refused h rfl rfl
    split
    · exact .refused h rfl rfl
    split
    · exact .refused h rfl rfl
    next hloot hall hmore =>
      cases hcopy : obj.item.cloneItem tables s.nextItemGuid count s.guid with
      | none => exact .refused h rfl rfl
      | some newItem =>
        obtain ⟨hpos, hguid, hproto, hcount⟩ := Item.cloneItem_eq_some hcopy
        have hold := h.fits key obj hobj
        have hle := hold.le
        have hamount : newItem.count = count := by omega
        have hnew : newItem.Fits tables := hold.transfer hproto (by omega) (by omega)
        have hentry : newItem.entry = obj.item.entry := congrArg ItemPrototype.itemId hproto
        let drawn : Bearer := { s with nextItemGuid := s.nextItemGuid + 1 }
        let lessened := drawn.setCount src (obj.item.count - count)
        have hdrawn : drawn.Arranged tables [s.nextItemGuid] [] := h.draw
        have hlessened : lessened.Arranged tables [s.nextItemGuid] [] :=
          arranged_setCount hdrawn hkey hobj (by omega) (by omega)
        have haway : ∀ bag, lessened.belongings.slots (.own dst.bag) = some bag →
            bag.item.guid ≠ newItem.guid := by
          intro bag hbag
          rw [hguid]
          exact hlessened.air_away _ List.mem_cons_self _ bag hbag
        dsimp only
        cases hplace : lessened.canPlace tables accounts rules dst newItem false with
        | none => exact .kept ⟨hdrawn.forget, Nat.le_succ _, fun _ _ _ => rfl, rfl⟩
        | some answer =>
          cases answer with
          | error res =>
            have hback : (lessened.setCount src
                (obj.item.count - count + count)).belongings = s.belongings := by
              rw [Nat.sub_add_cancel (not_lt.mp hmore)]
              exact setCount_setCount (s := drawn) hkey hobj _
            refine .refused ?_ hback rfl
            change Belongings.Arranged tables (s.nextItemGuid + 1) [] [] _
            rw [hback]
            exact hdrawn.forget
          | ok found =>
            have hspec := canPlace_spec hlessened hnew haway hplace
            have hgains := gains_placed hlessened hnew hguid hspec
            have hsame : SameHeld tables s (lessened.place tables newItem found) := by
              refine ⟨hgains.arranged, (Nat.le_succ _).trans hgains.next_le, fun n e hn => ?_, hgains.mailed⟩
              have hless : lessened.belongings.held n e + _ = s.belongings.held n e + _ :=
                held_setCount hdrawn hkey hobj (hgains.next_le.trans hn) e
              rw [hgains.held n e hn, hentry, hamount]
              have hsum := Nat.sub_add_cancel (not_lt.mp hmore)
              by_cases he : obj.item.entry = e
              · simp only [he, if_true] at hless ⊢
                omega
              · simp only [he, if_false, Nat.add_zero] at hless ⊢
                exact hless
            cases found with
            | stored dest => exact .kept hsame
            | equipped slot => exact hsame.moved_check

/-- What a request keeps. Every object is where it says it is, no two are one item, every stack is within its limit;
all amounts are as before, with what the mail took: nothing or the off-hand, for which there was no room once the
items were moved; and where an equip error is reported nothing has changed. -/
structure Conserves (tables : ItemTables) (accounts : Accounts) (rules : WearRules) (s : Bearer)
    (r : Bearer × Option InventoryResult) : Prop where
  arranged : r.1.Arranged tables [] []
  counts : ∃ gone : List Item, r.1.mailed = s.mailed ++ gone ∧
    (∀ e, r.1.belongings.inventory.itemCount e + (gone.map (Item.weight e)).sum =
      s.belongings.inventory.itemCount e) ∧ (gone = [] ∨ ∃ t offItem, gone = [offItem] ∧ SameHeld tables s t ∧
      t.worn offhandPos = some offItem ∧ t.keepsOffhand rules offItem = false ∧
      (t.canStoreItem tables accounts ⟨nullBag, nullSlot⟩ offItem false).result ≠ .ok)
  refused : r.2.isSome → r.1.belongings = s.belongings ∧ r.1.mailed = s.mailed

theorem SameHeld.itemCount_eq {t : Bearer} (h : s.Arranged tables [] []) (hsame : SameHeld tables s t)
    (e : Nat) : t.belongings.inventory.itemCount e = s.belongings.inventory.itemCount e := by
  rw [Belongings.Arranged.itemCount_eq hsame.arranged le_rfl e, Belongings.Arranged.itemCount_eq h hsame.next_le e]
  exact hsame.held _ e le_rfl

theorem Moved.conserves {r : Bearer × Option InventoryResult} (h : s.Arranged tables [] [])
    (hmoved : Moved tables accounts rules s r) : Conserves tables accounts rules s r := by
  cases hmoved with
  | kept hsame =>
    refine ⟨hsame.arranged, ⟨[], ?_, fun e => ?_, .inl rfl⟩, fun hsome => by cases hsome⟩
    · rw [List.append_nil]
      exact hsame.mailed
    · simpa using hsame.itemCount_eq h e
  | refused harranged hsame hmailed =>
    refine ⟨harranged, ⟨[], ?_, fun e => ?_, .inl rfl⟩, fun _ => ⟨hsame, hmailed⟩⟩
    · rw [List.append_nil]
      exact hmailed
    · simp [hsame]
  | @mailed t s' hsame hoff =>
    obtain ⟨offItem, hworn, hkeeps, hfull, rfl⟩ := hoff
    obtain ⟨obj, hobj, rfl, hempty⟩ := offhand_object hsame.arranged hworn
    have hkey := keyOf_offhandPos t.belongings
    have htaken := arranged_removeItem hsame.arranged hkey hobj
    have hremoved := (htaken.close_empty fun k => inside_removeItem hkey (hempty k)).forget
    refine ⟨hremoved, ⟨[obj.item], ?_, fun e => ?_, .inr ⟨t, obj.item, rfl, hsame, hworn, hkeeps,
      hfull⟩⟩, fun hsome => by cases hsome⟩
    · dsimp only
      rw [hsame.mailed]
    · have hheld := held_removeItem hsame.arranged hkey hobj le_rfl e
      rw [← hsame.itemCount_eq h e, Belongings.Arranged.itemCount_eq hsame.arranged le_rfl e, ← hheld]
      simp only [List.map_cons, List.map_nil, List.sum_cons, List.sum_nil, Nat.add_zero]
      congr 1
      exact Belongings.Arranged.itemCount_eq hremoved le_rfl e

/-- `SwapItem` between two different positions, and `SplitItem`, conserve the items. -/
theorem swapItem_splitItem_conserves (h : s.Arranged tables [] []) (hne : src ≠ dst) (count : Nat) :
    Conserves tables accounts rules s (s.swapItem tables accounts rules src dst) ∧
      Conserves tables accounts rules s (s.splitItem tables accounts rules src dst count) :=
  ⟨(swapItem_moved h hne).conserves h, (splitItem_moved h count).conserves h⟩

inductive InventoryMove
  | swapItem (src dst : ItemPos) (hne : src ≠ dst)
  | splitItem (src dst : ItemPos) (count : Nat)

def moveStep (tables : ItemTables) (accounts : Accounts) (rules : WearRules) (s : Bearer) : InventoryMove → Bearer
  | .swapItem src dst _ => (s.swapItem tables accounts rules src dst).1
  | .splitItem src dst count => (s.splitItem tables accounts rules src dst count).1

/-- Whatever is swapped and split in any order, every item ends in a slot of its own or in the mail, to which each
move sends one item at most. -/
theorem moves_conserve (accounts : Accounts) (rules : WearRules) (h : s.Arranged tables [] [])
    (moves : List InventoryMove) :
    let s' := moves.foldl (moveStep tables accounts rules) s
    s'.Arranged tables [] [] ∧ ∃ gone, s'.mailed = s.mailed ++ gone ∧ gone.length ≤ moves.length ∧ ∀ e,
      s'.belongings.inventory.itemCount e + (gone.map (Item.weight e)).sum = s.belongings.inventory.itemCount e := by
  induction moves generalizing s with
  | nil => exact ⟨h, [], by simp, Nat.le_refl 0, by simp⟩
  | cons move moves ih =>
    have hmove : ∃ r, Conserves tables accounts rules s r ∧ r.1 = moveStep tables accounts rules s move := by
      cases move with
      | swapItem src dst hne => exact ⟨_, (swapItem_moved h hne).conserves h, rfl⟩
      | splitItem src dst count => exact ⟨_, (splitItem_moved h count).conserves h, rfl⟩
    obtain ⟨r, hconserves, hr⟩ := hmove
    obtain ⟨first, hmailed, hcounts, hone⟩ := hconserves.counts
    obtain ⟨harranged, gone, hgone, hlength, hrest⟩ := ih hconserves.arranged
    have hfirst : first.length ≤ 1 := by rcases hone with rfl | ⟨t, it, rfl, -⟩ <;> simp
    rw [List.foldl_cons, ← hr]
    refine ⟨harranged, first ++ gone, ?_, ?_, fun e => ?_⟩
    · rw [hgone, hmailed, List.append_assoc]
    · simp only [List.length_append, List.length_cons]
      omega
    · rw [← hcounts e, ← hrest e, List.map_append, List.sum_append]
      omega

end Bearer

namespace Belongings

variable {tables : ItemTables} {next : Nat} {items : List (Nat × Item)} {key : SlotKey}
  {obj : ItemObject}

def ofOwn (items : List (Nat × Item)) : Belongings where
  slots
    | .own slot => (items.find? (·.1 = slot)).map fun p => ⟨p.2, none, slot⟩
    | .inside _ _ => none

private theorem slots_ofOwn (h : (ofOwn items).slots key = some obj) :
    ∃ p ∈ items, key = .own p.1 ∧ obj = ⟨p.2, none, p.1⟩ := by
  cases key with
  | inside g k => cases h
  | own slot =>
    obtain ⟨p, hfind, rfl⟩ := Option.map_eq_some_iff.mp h
    have hslot : p.1 = slot := by simpa using List.find?_some hfind
    exact ⟨p, List.mem_of_find?_eq_some hfind, by rw [hslot], by rw [hslot]⟩

theorem arranged_ofOwn (hguids : (items.map (·.2.guid)).Nodup)
    (hitems : ∀ p ∈ items, p.2.guid < next ∧ p.2.Fits tables ∧ p.1 < bankSlotBagEnd ∧
      ItemPos.isBagSlot p.1 = false) : (ofOwn items).Arranged tables next [] [] where
  in_place key obj hobj := by
    obtain ⟨p, -, rfl, rfl⟩ := slots_ofOwn hobj
    rfl
  distinct key key' obj obj' hobj hobj' hguid := by
    obtain ⟨p, hp, rfl, rfl⟩ := slots_ofOwn hobj
    obtain ⟨p', hp', rfl, rfl⟩ := slots_ofOwn hobj'
    rw [List.inj_on_of_nodup_map hguids hp hp' hguid]
  guid_lt key obj hobj := by
    obtain ⟨p, hp, -, rfl⟩ := slots_ofOwn hobj
    exact (hitems p hp).1
  fits key obj hobj := by
    obtain ⟨p, hp, -, rfl⟩ := slots_ofOwn hobj
    exact (hitems p hp).2.1
  own_lt slot obj hobj := by
    obtain ⟨p, hp, hslot, -⟩ := slots_ofOwn hobj
    rw [SlotKey.own.inj hslot]
    exact (hitems p hp).2.2.1
  bags slot obj hbag hobj := by
    obtain ⟨p, hp, hslot, -⟩ := slots_ofOwn hobj
    rw [SlotKey.own.inj hslot, (hitems p hp).2.2.2] at hbag
    cases hbag
  shown g k obj hobj := by
    obtain ⟨p, -, heq, -⟩ := slots_ofOwn hobj
    cases heq
  air_away g hg := by cases hg
  air_nodup := List.nodup_nil
  air_lt g hg := by cases hg

end Belongings

namespace Bearer

def crowdedTables : ItemTables :=
  .ofPrototypes [.trinket 1, { ItemPrototype.trinket 2 with inventoryType := invTypeWeaponOffhand }]

def crowdedItems : List (Nat × Item) :=
  (equipmentSlotOffhand,
    { guid := 0, proto := { ItemPrototype.trinket 2 with inventoryType := invTypeWeaponOffhand }
      count := 1, ownerGuid := 1 }) ::
  (List.range' inventorySlotItemStart 16).map fun slot =>
    (slot, { guid := slot, proto := .trinket 1, count := 1, ownerGuid := 1 })

def crowded : Bearer where
  guid := 1
  account := 1
  belongings := .ofOwn crowdedItems
  nextItemGuid := 100

theorem arranged_crowded : crowded.Arranged crowdedTables [] [] :=
  Belongings.arranged_ofOwn (by decide) (by decide)

theorem swapItem_splitItem_conserves_crowded : Conserves crowdedTables .oneEach {} crowded
        (crowded.swapItem crowdedTables .oneEach {} ⟨255, 23⟩ ⟨255, 24⟩) ∧ Conserves crowdedTables .oneEach {} crowded
        (crowded.splitItem crowdedTables .oneEach {} ⟨255, 23⟩ ⟨255, 24⟩ 1) :=
  swapItem_splitItem_conserves arranged_crowded (by decide) 1

theorem moves_conserve_crowded : ([.splitItem ⟨255, 23⟩ ⟨255, 24⟩ 1, .swapItem ⟨255, 23⟩ ⟨255, 24⟩ (by decide)].foldl
      (moveStep crowdedTables .oneEach {}) crowded).Arranged crowdedTables [] [] :=
  (moves_conserve .oneEach {} arranged_crowded _).1

/-- One who may not hold a second weapon exchanges two trinkets and no longer has the weapon. -/
theorem swapItem_loses_offhand : crowded.Arranged crowdedTables [] [] ∧
      (crowded.swapItem crowdedTables .oneEach {} ⟨255, 23⟩ ⟨255, 24⟩).2 = none ∧
      crowded.belongings.inventory.itemCount 2 = 1 ∧
      (crowded.swapItem crowdedTables .oneEach {} ⟨255, 23⟩ ⟨255, 24⟩).1.belongings.inventory.itemCount 2 = 0 :=
  ⟨arranged_crowded, by decide +kernel, by decide +kernel, by decide +kernel⟩

end Bearer

end Mangos
