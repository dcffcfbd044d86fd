import Mangos.Item.Moved

/-!
# Exchanging two items conserves what is held

Before an empty bag and a full one change places, what is in the full bag goes into the empty one, slot by
slot.
-/

namespace Mangos

open Framework

namespace Belongings

variable {tables : ItemTables} {next : Nat} {air : List Nat} {opened : List Item} {b : Belongings}
  {key : SlotKey} {obj : ItemObject} {pos : ItemPos}

theorem keyOf_eq_of_own {b' : Belongings} (h : ∀ slot, b'.slots (.own slot) = b.slots (.own slot)) :
    b'.keyOf pos = b.keyOf pos := by
  unfold keyOf
  rw [h]

theorem ne_own_of_keyOf (h : b.keyOf pos = some key) : key ≠ .own pos.bag := by
  rintro rfl
  obtain ⟨heq, hlt⟩ := keyOf_own.mp h
  have hbag : pos.bag = inventorySlotBag0 := congrArg ItemPos.bag heq
  simp [hbag, inventorySlotBag0, bankSlotBagEnd] at hlt

theorem Arranged.lt_getBagSize (h : b.Arranged tables next air []) (hobj : b.slots key = some obj)
    {k : Nat} {other : ItemObject} (hin : b.slots (.inside obj.item.guid k) = some other) :
    k < obj.item.getBagSize := by
  rcases h.shown _ k other hin with ⟨slot, bag, -, hbag, hguid, hlt⟩ | ⟨bag, hbag, -⟩
  · have hslots := h.distinct _ _ bag obj hbag hobj hguid
    rw [hslots, hobj] at hbag
    obtain rfl := Option.some.inj hbag
    exact hlt
  · cases hbag

theorem Arranged.inside_eq_none_of_isEmpty (h : b.Arranged tables next air [])
    (hobj : b.slots key = some obj) (hempty : b.isEmpty obj.item) (k : Nat) :
    b.slots (.inside obj.item.guid k) = none := by
  cases hin : b.slots (.inside obj.item.guid k) with
  | none => rfl
  | some other =>
    have hlt := h.lt_getBagSize hobj hin
    unfold isEmpty at hempty
    have hnone := List.all_eq_true.mp hempty k (List.mem_range.mpr hlt)
    rw [hin] at hnone
    cases hnone

end Belongings

namespace Bearer

variable {tables : ItemTables} {accounts : Accounts} {rules : WearRules} {s : Bearer}
  {emptyBag fullBag : Item} {b : Belongings}

/-- How many of the first `i` slots of a bag are taken. -/
def takenBelow (b : Belongings) (bag : Item) (i : Nat) : Nat :=
  ((List.range i).filterMap fun slot => (b.slots (.inside bag.guid slot)).map (·.item)).length

theorem takenBelow_succ (b : Belongings) (bag : Item) (i : Nat) : takenBelow b bag (i + 1) =
      takenBelow b bag i + if (b.slots (.inside bag.guid i)).isSome then 1 else 0 := by
  unfold takenBelow
  rw [List.range_succ, List.filterMap_append, List.length_append]
  cases hslot : b.slots (.inside bag.guid i) <;> simp [hslot]

theorem takenBelow_mono (b : Belongings) (bag : Item) {i j : Nat} (h : i ≤ j) :
    takenBelow b bag i ≤ takenBelow b bag j := by
  induction h with
  | refl => exact le_rfl
  | step _ ih =>
    rw [takenBelow_succ]
    exact ih.trans (Nat.le_add_right _ _)

/-- The exchange of what is in two bags after `i` slots of the full one. -/
structure Emptied (tables : ItemTables) (next : Nat) (emptyBag fullBag : Item) (b : Belongings)
    (i : Nat) (moved : Belongings × Nat) : Prop where
  arranged : moved.1.Arranged tables next [] [emptyBag]
  count : moved.2 = takenBelow b fullBag i
  outside : ∀ key, (∀ k, key ≠ .inside fullBag.guid k) → (∀ k, key ≠ .inside emptyBag.guid k) →
    moved.1.slots key = b.slots key
  ahead : ∀ k, i ≤ k → moved.1.slots (.inside fullBag.guid k) = b.slots (.inside fullBag.guid k)
  behind : ∀ k, k < i → moved.1.slots (.inside fullBag.guid k) = none
  free : ∀ k, moved.2 ≤ k → moved.1.slots (.inside emptyBag.guid k) = none
  held : ∀ n e, next ≤ n → moved.1.held n e = b.held n e

theorem Emptied.step {next : Nat} {moved : Belongings × Nat} {i : Nat} {keyE keyF : SlotKey}
    {objE objF : ItemObject} (h : Emptied tables next emptyBag fullBag b i moved)
    (hnext : ∀ key obj, b.slots key = some obj → obj.item.guid < next)
    (hE : b.slots keyE = some objE) (hguidE : objE.item = emptyBag)
    (hF : b.slots keyF = some objF) (hguidF : objF.item = fullBag)
    (hne : fullBag.guid ≠ emptyBag.guid) (hoff : ∀ k, keyE ≠ .inside fullBag.guid k)
    (hoff' : ∀ k, keyE ≠ .inside emptyBag.guid k) (hi : i < fullBag.getBagSize)
    (hroom : takenBelow b fullBag (i + 1) ≤ emptyBag.getBagSize) :
    Emptied tables next emptyBag fullBag b (i + 1) (moveBagItem fullBag emptyBag moved i) := by
  have hahead := h.ahead i le_rfl
  have hcount := takenBelow_succ b fullBag i
  unfold moveBagItem
  cases hslot : moved.1.slots (.inside fullBag.guid i) with
  | none =>
    rw [hslot] at hahead
    rw [← hahead] at hcount
    refine ⟨h.arranged, ?_, h.outside, fun k hk => h.ahead k (by omega), fun k hk => ?_, h.free, h.held⟩
    · rw [hcount]
      exact h.count
    · rcases Nat.lt_succ_iff_lt_or_eq.mp hk with hlt | rfl
      · exact h.behind k hlt
      · exact hslot
  | some obj =>
    rw [hslot] at hahead
    rw [← hahead] at hcount
    simp only [Option.isSome_some, if_true] at hcount
    have hspace : moved.2 < emptyBag.getBagSize := by
      rw [h.count]
      omega
    -- the item that is moved is not the empty bag, so it has nothing in it
    have hEhere : moved.1.slots keyE = some objE := by
      rw [h.outside keyE hoff hoff']
      exact hE
    have hother : ∀ bag ∈ [emptyBag], bag.guid ≠ obj.item.guid := by
      intro bag hbag heq
      rw [List.mem_singleton.mp hbag, ← hguidE] at heq
      exact hoff i (h.arranged.distinct _ _ _ _ hEhere hslot heq)
    have hnothing := h.arranged.inside_eq_none hslot (fun slot heq => by cases heq) hother
    have htaken := (h.arranged.take hslot).close_empty fun k => by
      rw [Belongings.slots_put]
      split
      · rfl
      · exact hnothing k
    have hfree : (moved.1.put (.inside fullBag.guid i) none).slots (.inside emptyBag.guid moved.2) =
        none := by
      rw [Belongings.slots_put]
      split
      · rfl
      · exact h.free moved.2 le_rfl
    have hold := h.arranged.fits _ obj hslot
    let stored : ItemObject :=
      ⟨{ obj.item with ownerGuid := emptyBag.ownerGuid }, some emptyBag.guid, moved.2⟩
    have hfits : stored.item.Fits tables := hold.transfer rfl hold.pos hold.le
    have hdropped : ((moved.1.put (.inside fullBag.guid i) none).put
        (.inside emptyBag.guid moved.2) (some stored)).Arranged tables next [] [emptyBag] :=
      htaken.drop hfree rfl rfl hfits (fun slot heq => by cases heq) fun g k heq => by
        obtain ⟨rfl, rfl⟩ := SlotKey.inside.inj heq
        exact .inr ⟨emptyBag, List.mem_singleton_self _, rfl, hspace⟩
    have hkeys : ∀ k k', SlotKey.inside fullBag.guid k ≠ .inside emptyBag.guid k' :=
      fun k k' heq => hne (SlotKey.inside.inj heq).1
    simp only [Belongings.storeInBag]
    refine ⟨hdropped, by rw [hcount, h.count], fun key hfull hempty => ?_, fun k hk => ?_,
      fun k hk => ?_, fun k hk => ?_, fun n e hn => ?_⟩
    · rw [Belongings.slots_put_of_ne (hempty _), Belongings.slots_put_of_ne (hfull _)]
      exact h.outside key hfull hempty
    · have hnot : SlotKey.inside fullBag.guid k ≠ .inside fullBag.guid i := by
        intro heq
        have := (SlotKey.inside.inj heq).2
        omega
      rw [Belongings.slots_put_of_ne (hkeys k _), Belongings.slots_put_of_ne hnot]
      exact h.ahead k (by omega)
    · rw [Belongings.slots_put_of_ne (hkeys k _), Belongings.slots_put]
      split
      · rfl
      next hnot =>
        refine h.behind k (Nat.lt_of_le_of_ne (Nat.lt_succ_iff.mp hk) fun heq => hnot ?_)
        rw [heq]
    · have hnot : SlotKey.inside emptyBag.guid k ≠ .inside emptyBag.guid moved.2 := by
        intro heq
        have := (SlotKey.inside.inj heq).2
        dsimp only at hk
        omega
      rw [Belongings.slots_put_of_ne hnot, Belongings.slots_put_of_ne (Ne.symm (hkeys i k))]
      dsimp only at hk
      exact h.free k (by omega)
    · have hguidFull : fullBag.guid < n := by
        have := hnext keyF objF hF
        rw [hguidF] at this
        omega
      have hguidEmpty : emptyBag.guid < n := by
        have := hnext keyE objE hE
        rw [hguidE] at this
        omega
      have hin : SlotKey.inside fullBag.guid i ∈ Belongings.keysBelow n :=
        Belongings.mem_keysBelow_inside.mpr
          ⟨hguidFull, hi.trans_le (Belongings.getBagSize_le fullBag)⟩
      have hin' : SlotKey.inside emptyBag.guid moved.2 ∈ Belongings.keysBelow n :=
        Belongings.mem_keysBelow_inside.mpr
          ⟨hguidEmpty, hspace.trans_le (Belongings.getBagSize_le emptyBag)⟩
      have htake := Belongings.held_put (b := moved.1) hin none e
      have hdrop := Belongings.held_put
        (b := moved.1.put (.inside fullBag.guid i) none) hin'
        (some stored) e
      rw [hslot] at htake
      rw [hfree] at hdrop
      simp only [Option.elim_none, Option.elim_some, Nat.add_zero] at htake hdrop
      rw [← h.held n e hn, ← htake]
      exact hdrop

theorem emptied_foldl {next : Nat} {keyE keyF : SlotKey} {objE objF : ItemObject}
    (h : b.Arranged tables next [] []) (hE : b.slots keyE = some objE) (hF : b.slots keyF = some objF)
    (hne : keyF ≠ keyE) (hempty : b.isEmpty objE.item)
    (hoff : ∀ k, keyE ≠ .inside objF.item.guid k) (hoff' : ∀ k, keyE ≠ .inside objE.item.guid k)
    (hroom : takenBelow b objF.item objF.item.getBagSize ≤ objE.item.getBagSize) :
    Emptied tables next objE.item objF.item b objF.item.getBagSize
      ((List.range objF.item.getBagSize).foldl (moveBagItem objF.item objE.item) (b, 0)) := by
  have hguids : objF.item.guid ≠ objE.item.guid := fun heq => hne (h.distinct _ _ _ _ hF hE heq)
  have hrun : ∀ i ≤ objF.item.getBagSize, Emptied tables next objE.item objF.item b i
      ((List.range i).foldl (moveBagItem objF.item objE.item) (b, 0)) := by
    intro i hi
    induction i with
    | zero =>
      exact ⟨h.open_mono (List.nil_subset _), rfl, fun _ _ _ => rfl, fun _ _ => rfl,
        fun k hk => absurd hk (Nat.not_lt_zero k),
        fun k _ => h.inside_eq_none_of_isEmpty hE hempty k, fun _ _ _ => rfl⟩
    | succ i ih =>
      rw [List.range_succ, List.foldl_append]
      exact (ih (by omega)).step h.guid_lt hE rfl hF rfl hguids hoff hoff' hi
        ((takenBelow_mono b objF.item hi).trans hroom)
  exact hrun _ le_rfl

theorem Emptied.full_eq_none {next : Nat} {moved : Belongings × Nat} {key : SlotKey}
    {objF : ItemObject} (hb : b.Arranged tables next [] []) (hF : b.slots key = some objF)
    (h : Emptied tables next emptyBag objF.item b objF.item.getBagSize moved) (k : Nat) :
    moved.1.slots (.inside objF.item.guid k) = none := by
  by_cases hk : k < objF.item.getBagSize
  · exact h.behind k hk
  · rw [h.ahead k (not_lt.mp hk)]
    cases hin : b.slots (.inside objF.item.guid k) with
    | none => rfl
    | some other => exact absurd (hb.lt_getBagSize hF hin) hk

theorem Emptied.empty_eq_none {next i : Nat} {moved : Belongings × Nat}
    (h : Emptied tables next emptyBag fullBag b i moved)
    (hnothing : ∀ k, b.slots (.inside fullBag.guid k) = none) (k : Nat) :
    moved.1.slots (.inside emptyBag.guid k) = none := by
  refine h.free k ?_
  have hzero : takenBelow b fullBag i = 0 := by simp [takenBelow, hnothing]
  rw [h.count, hzero]
  exact Nat.zero_le k

variable {src dst : ItemPos} {ks kd : SlotKey} {obj1 obj2 : ItemObject}

/-- Two items in two slots, neither of which is in the other item. -/
structure Apart (tables : ItemTables) (s : Bearer) (src dst : ItemPos) (ks kd : SlotKey)
    (obj1 obj2 : ItemObject) : Prop where
  arranged : s.Arranged tables [] []
  src_key : s.belongings.keyOf src = some ks
  dst_key : s.belongings.keyOf dst = some kd
  src_obj : s.belongings.slots ks = some obj1
  dst_obj : s.belongings.slots kd = some obj2
  ne : kd ≠ ks
  src_self : ks ≠ .own dst.bag
  dst_self : kd ≠ .own src.bag

theorem ne_inside {pos' : ItemPos} {key key' : SlotKey} {obj : ItemObject} {air : List Nat}
    {opened : List Item} (h : s.Arranged tables air opened)
    (hobj : s.belongings.slots key = some obj) (hkey' : s.belongings.keyOf pos' = some key')
    (hself : key ≠ .own pos'.bag) (k : Nat) : key' ≠ .inside obj.item.guid k := by
  rintro rfl
  obtain ⟨-, -, bag, hbag, hguid, -⟩ := Belongings.keyOf_inside.mp hkey'
  exact hself (h.distinct _ _ _ _ hobj hbag hguid.symm)

/-- What the exchange of the contents leaves: the two items are where they were, and an item that
does not go to a slot for bags has nothing in it. -/
structure ContentsSwapped (tables : ItemTables) (s w : Bearer) (src dst : ItemPos) (ks kd : SlotKey)
    (obj1 obj2 : ItemObject) : Prop where
  arranged : w.Arranged tables [] [obj1.item, obj2.item]
  next_eq : w.nextItemGuid = s.nextItemGuid
  mailed : w.mailed = s.mailed
  held : ∀ n e, s.nextItemGuid ≤ n → w.belongings.held n e = s.belongings.held n e
  own : ∀ slot, w.belongings.slots (.own slot) = s.belongings.slots (.own slot)
  src_obj : w.belongings.slots ks = some obj1
  dst_obj : w.belongings.slots kd = some obj2
  src_empty : dst.isBagPos = false → ∀ k, w.belongings.slots (.inside obj1.item.guid k) = none
  dst_empty : src.isBagPos = false → ∀ k, w.belongings.slots (.inside obj2.item.guid k) = none

theorem Apart.symm (h : Apart tables s src dst ks kd obj1 obj2) : Apart tables s dst src kd ks obj2 obj1 :=
  ⟨h.arranged, h.dst_key, h.src_key, h.dst_obj, h.src_obj, h.ne.symm, h.dst_self, h.src_self⟩

theorem ContentsSwapped.symm {w : Bearer} (h : ContentsSwapped tables s w src dst ks kd obj1 obj2) :
    ContentsSwapped tables s w dst src kd ks obj2 obj1 where
  arranged := h.arranged.open_mono fun bag hbag => by
    simp only [List.mem_cons, List.not_mem_nil, or_false] at hbag ⊢
    exact hbag.symm
  next_eq := h.next_eq
  mailed := h.mailed
  held := h.held
  own := h.own
  src_obj := h.dst_obj
  dst_obj := h.src_obj
  src_empty := h.dst_empty
  dst_empty := h.src_empty

theorem Apart.contentsSwapped (h : Apart tables s src dst ks kd obj1 obj2) (hempty : s.belongings.isEmpty obj1.item)
    (hroom : (bagItems s.belongings obj2.item).length ≤ obj1.item.getBagSize) : ContentsSwapped tables s { s with
        belongings := ((List.range obj2.item.getBagSize).foldl (moveBagItem obj2.item obj1.item)
          (s.belongings, 0)).1 } src dst ks kd obj1 obj2 := by
  have hself := fun k => ne_inside h.arranged h.src_obj h.src_key
    (Belongings.ne_own_of_keyOf h.src_key) k
  have hself' := fun k => ne_inside h.arranged h.dst_obj h.dst_key
    (Belongings.ne_own_of_keyOf h.dst_key) k
  have hoff := fun k => ne_inside h.arranged h.dst_obj h.src_key h.dst_self k
  have hoff' := fun k => ne_inside h.arranged h.src_obj h.dst_key h.src_self k
  have hrun := emptied_foldl h.arranged h.src_obj h.dst_obj h.ne hempty hoff hself hroom
  refine ⟨?_, rfl, rfl, hrun.held, fun slot => ?_, ?_, ?_, fun hdst k => ?_, fun _ k => ?_⟩
  · exact hrun.arranged.open_mono fun bag hbag => by
      rw [List.mem_singleton.mp hbag]
      exact List.mem_cons_self
  · exact hrun.outside _ (fun k heq => by cases heq) fun k heq => by cases heq
  · rw [← h.src_obj]
    exact hrun.outside ks hoff hself
  · rw [← h.dst_obj]
    exact hrun.outside kd hself' hoff'
  · refine hrun.empty_eq_none (h.arranged.inside_eq_none h.dst_obj ?_ ?_) k
    · exact Belongings.isBagSlot_of_not_isBagPos h.dst_key hdst
    · exact fun bag hbag => by cases hbag
  · exact hrun.full_eq_none h.arranged h.dst_obj k

private theorem Apart.nothing_inside (h : Apart tables s src dst ks kd obj1 obj2)
    (hrefusal : s.swapUnequipRefusal src dst (some obj2.item) = .ok) (hdst : dst.isBagPos = false)
    (hnone : src.isBagPos → obj1.item.isBag → obj2.item.isBag → ¬ s.belongings.isEmpty obj2.item)
    (k : Nat) : s.belongings.slots (.inside obj1.item.guid k) = none := by
  cases hsrc : src.isBagPos with
  | false =>
    exact h.arranged.inside_eq_none h.src_obj (Belongings.isBagSlot_of_not_isBagPos h.src_key hsrc)
      (fun bag hbag => by cases hbag) k
  | true =>
    refine inside_eq_none_of_swapUnequipRefusal h.arranged h.src_key h.src_obj hrefusal hdst ?_ k
    have hslot := hsrc
    simp only [ItemPos.isBagPos, Bool.and_eq_true, decide_eq_true_eq] at hslot
    have hown : s.belongings.keyOf src = some (.own src.slot) :=
      Belongings.keyOf_own.mpr ⟨by rw [← hslot.1], Belongings.isBagSlot_lt hslot.2⟩
    have hobj := h.src_obj
    rw [Option.some.inj (h.src_key.symm.trans hown)] at hobj
    have hbag := h.arranged.bags _ obj1 hslot.2 hobj
    rw [Option.any_some, Bool.and_eq_false_iff]
    by_cases hbag2 : obj2.item.isBag
    · exact .inr (Bool.eq_false_iff.mpr (hnone hsrc hbag hbag2))
    · exact .inl (Bool.eq_false_iff.mpr hbag2)

theorem swapBagContents_spec {w : Bearer} (h : Apart tables s src dst ks kd obj1 obj2)
    (hsrc : s.swapUnequipRefusal src dst (some obj2.item) = .ok)
    (hdst : s.swapUnequipRefusal dst src (some obj1.item) = .ok)
    (hok : s.swapBagContents src dst obj1.item obj2.item = .ok w) :
    ContentsSwapped tables s w src dst ks kd obj1 obj2 := by
  unfold swapBagContents at hok
  unfold emptyAndFullBag at hok
  by_cases hbags : (obj1.item.isBag && obj2.item.isBag) = true
  · rw [if_pos hbags] at hok
    simp only [Bool.and_eq_true] at hbags
    by_cases hfirst : (s.belongings.isEmpty obj1.item && !src.isBagPos) = true
    · rw [if_pos hfirst] at hok
      simp only [Bool.and_eq_true] at hfirst
      dsimp only at hok
      split at hok
      · cases hok
      split at hok
      · cases hok
      next hroom =>
        obtain rfl := Except.ok.inj hok
        exact h.contentsSwapped hfirst.1 (not_lt.mp hroom)
    rw [if_neg hfirst] at hok
    by_cases hsecond : (s.belongings.isEmpty obj2.item && !dst.isBagPos) = true
    · rw [if_pos hsecond] at hok
      simp only [Bool.and_eq_true] at hsecond
      dsimp only at hok
      split at hok
      · cases hok
      split at hok
      · cases hok
      next hroom =>
        obtain rfl := Except.ok.inj hok
        exact (h.symm.contentsSwapped hsecond.1 (not_lt.mp hroom)).symm
    rw [if_neg hsecond] at hok
    obtain rfl := Except.ok.inj hok
    simp only [Bool.and_eq_true, Bool.not_eq_true', not_and, Bool.not_eq_false] at hfirst hsecond
    refine ⟨h.arranged.open_mono (List.nil_subset _), rfl, rfl, fun _ _ _ => rfl, fun _ => rfl,
      h.src_obj, h.dst_obj, fun hpos => ?_, fun hpos => ?_⟩
    · refine h.nothing_inside hsrc hpos fun _ _ _ hempty => ?_
      rw [hsecond hempty] at hpos
      cases hpos
    · refine h.symm.nothing_inside hdst hpos fun _ _ _ hempty => ?_
      rw [hfirst hempty] at hpos
      cases hpos
  · rw [if_neg hbags] at hok
    obtain rfl := Except.ok.inj hok
    simp only [Bool.and_eq_true, not_and] at hbags
    refine ⟨h.arranged.open_mono (List.nil_subset _), rfl, rfl, fun _ _ _ => rfl, fun _ => rfl,
      h.src_obj, h.dst_obj, fun hpos => ?_, fun hpos => ?_⟩
    · exact h.nothing_inside hsrc hpos fun _ hbag hbag2 _ => hbags hbag hbag2
    · exact h.symm.nothing_inside hdst hpos fun _ hbag hbag2 _ => hbags hbag2 hbag

theorem canSwapTo_ok {otherwise : Except InventoryResult (Option PlaceFound)}
    {found : Option PlaceFound} (h : s.Arranged tables [] []) {key : SlotKey} {pos : ItemPos} {it : Item}
    (hfits : it.Fits tables) (hkey : s.belongings.keyOf pos = some key)
    (hself : ∀ bag, s.belongings.slots (.own pos.bag) = some bag → bag.item.guid ≠ it.guid)
    (hok : s.canSwapTo tables accounts rules pos it otherwise = .ok found) :
    ∃ f, found = some f ∧ (f = .stored [⟨pos, it.count⟩] ∨
      (f = .equipped pos.slot ∧ pos.bag = inventorySlotBag0)) ∧ (pos.isBagPos → it.isBag) := by
  unfold canSwapTo at hok
  cases hplace : s.canPlace tables accounts rules pos it true with
  | none =>
    exfalso
    unfold canPlace at hplace
    rcases Belongings.kind_of_keyOf hkey with hkind | hkind | hkind <;>
      simp only [hkind, if_true] at hplace <;> grind
  | some answer =>
    rw [hplace] at hok
    cases answer with
    | error res => cases hok
    | ok f =>
      have hspec := canPlace_spec h hfits hself hplace
      cases hspec with
      | stored hfound hwhole hmerges hbag =>
        rw [hwhole (by rw [hkey]; rfl) (.inl rfl)] at hok
        exact ⟨_, (Except.ok.inj hok).symm, .inl rfl, hbag⟩
      | equipped hthere hfree hbag =>
        dsimp only at hok
        split at hok
        · exact ⟨_, (Except.ok.inj hok).symm, .inr ⟨rfl, congrArg ItemPos.bag (Belongings.keyOf_own.mp hthere).1⟩, hbag⟩
        · cases hok

theorem ContentsSwapped.sameHeld {w : Bearer} (h : Apart tables s src dst ks kd obj1 obj2)
    (hw : ContentsSwapped tables s w src dst ks kd obj1 obj2) {f f2 : PlaceFound}
    (hf : f = .stored [⟨dst, obj1.item.count⟩] ∨ (f = .equipped dst.slot ∧ dst.bag = inventorySlotBag0))
    (hbag : dst.isBagPos → obj1.item.isBag) (hf2 : f2 = .stored [⟨src, obj2.item.count⟩] ∨
      (f2 = .equipped src.slot ∧ src.bag = inventorySlotBag0)) (hbag2 : src.isBagPos → obj2.item.isBag) :
    SameHeld tables s ((((w.removeItem dst).removeItem src).place tables obj1.item f).place tables obj2.item f2) := by
  have hfits1 := h.arranged.fits _ obj1 h.src_obj
  have hfits2 := h.arranged.fits _ obj2 h.dst_obj
  have hdstKey : w.belongings.keyOf dst = some kd :=
    (Belongings.keyOf_eq_of_own hw.own).trans h.dst_key
  have hsrcKey : w.belongings.keyOf src = some ks :=
    (Belongings.keyOf_eq_of_own hw.own).trans h.src_key
  -- the item at `dst` is taken out
  have hput := (hw.arranged.removeItem_eq hdstKey hw.dst_obj).1
  have htaken := arranged_removeItem hw.arranged hdstKey hw.dst_obj
  have hsrcKey' : (w.removeItem dst).belongings.keyOf src = some ks := by
    rw [removeItem, hput, Belongings.keyOf_put h.dst_self]
    exact hsrcKey
  have hsrcObj' : (w.removeItem dst).belongings.slots ks = some obj1 := by
    rw [removeItem, hput, Belongings.slots_put_of_ne h.ne.symm]
    exact hw.src_obj
  -- and so is the item at `src`
  have hput2 := (htaken.removeItem_eq hsrcKey' hsrcObj').1
  have htaken2 : ((w.removeItem dst).removeItem src).Arranged tables
      [obj1.item.guid, obj2.item.guid] [obj1.item, obj2.item] :=
    (arranged_removeItem htaken hsrcKey' hsrcObj').open_mono fun bag hbag => by
      simp only [List.mem_cons, List.not_mem_nil, or_false] at hbag ⊢
      grind
  have hdstKey2 : ((w.removeItem dst).removeItem src).belongings.keyOf dst = some kd := by
    rw [removeItem, hput2, Belongings.keyOf_put h.src_self, removeItem, hput,
      Belongings.keyOf_put (Belongings.ne_own_of_keyOf hdstKey)]
    exact hdstKey
  have hsrcKey2 : ((w.removeItem dst).removeItem src).belongings.keyOf src = some ks := by
    rw [removeItem, hput2, Belongings.keyOf_put (Belongings.ne_own_of_keyOf hsrcKey)]
    exact hsrcKey'
  have hdstFree : ((w.removeItem dst).removeItem src).belongings.slots kd = none := by
    rw [removeItem, hput2, Belongings.slots_put_of_ne h.ne, removeItem, hput, Belongings.slots_put_self]
  have hsrcFree : ((w.removeItem dst).removeItem src).belongings.slots ks = none := by
    rw [removeItem, hput2, Belongings.slots_put_self]
  have hinside : ∀ {g k}, w.belongings.slots (.inside g k) = none →
      ((w.removeItem dst).removeItem src).belongings.slots (.inside g k) = none :=
    fun hnone => inside_removeItem hsrcKey' (inside_removeItem hdstKey hnone)
  -- the item of `src` goes to `dst`
  obtain ⟨hgains, placed, hlies⟩ := gains_place_closed htaken2 hfits1 rfl hdstKey2 hdstFree hbag
    (fun hpos k => hinside (hw.src_empty hpos k)) hf
  have hsrcKey3 : (((w.removeItem dst).removeItem src).place tables obj1.item f).belongings.keyOf src =
      some ks := by
    rw [hlies, Belongings.keyOf_put h.dst_self]
    exact hsrcKey2
  have hsrcFree3 : (((w.removeItem dst).removeItem src).place tables obj1.item f).belongings.slots ks =
      none := by
    rw [hlies, Belongings.slots_put_of_ne h.ne.symm]
    exact hsrcFree
  have hin3 : src.isBagPos = false → ∀ k,
      (((w.removeItem dst).removeItem src).place tables obj1.item f).belongings.slots
        (.inside obj2.item.guid k) = none := by
    intro hpos k
    have hne := ne_inside h.arranged h.dst_obj h.dst_key (Belongings.ne_own_of_keyOf h.dst_key) k
    rw [hlies, Belongings.slots_put_of_ne hne.symm]
    exact hinside (hw.dst_empty hpos k)
  -- the item of `dst` goes to `src`
  obtain ⟨hgains2, -⟩ := gains_place_closed hgains.arranged hfits2 rfl hsrcKey3 hsrcFree3 hbag2 hin3 hf2
  have hnext : s.nextItemGuid ≤ ((w.removeItem dst).removeItem src).nextItemGuid := hw.next_eq.ge
  refine ⟨hgains2.arranged, hnext.trans (hgains.next_le.trans hgains2.next_le), fun n e hn => ?_,
    hgains2.mailed.trans (hgains.mailed.trans hw.mailed)⟩
  have hn1 := hgains2.next_le.trans hn
  have hn2 : w.nextItemGuid ≤ n := hgains.next_le.trans hn1
  have hheld := held_removeItem hw.arranged hdstKey hw.dst_obj hn2 e
  have hheld2 := held_removeItem htaken hsrcKey' hsrcObj' hn2 e
  rw [hgains2.held n e hn, hgains.held n e hn1, ← hw.held n e (hw.next_eq ▸ hn2), ← hheld, ← hheld2]
  rfl

theorem swapItems_moved (h : Apart tables s src dst ks kd obj1 obj2)
    (hsrc : s.swapUnequipRefusal src dst (some obj2.item) = .ok)
    (hdst : s.swapUnequipRefusal dst src (some obj1.item) = .ok) : Moved tables accounts rules s
      (s.swapItems tables accounts rules src dst obj1.item obj2.item) := by
  have hfits1 := h.arranged.fits _ obj1 h.src_obj
  have hfits2 := h.arranged.fits _ obj2 h.dst_obj
  unfold swapItems
  cases hto : s.canSwapTo tables accounts rules dst obj1.item (.error .ok2) with
  | error res => exact .refused h.arranged rfl rfl
  | ok found =>
    cases hback : s.canSwapTo tables accounts rules src obj2.item (.ok none) with
    | error res => exact .refused h.arranged rfl rfl
    | ok found2 =>
      cases hswapped : s.swapBagContents src dst obj1.item obj2.item with
      | error res => exact .refused h.arranged rfl rfl
      | ok w =>
        have hw := swapBagContents_spec h hsrc hdst hswapped
        obtain ⟨f, rfl, hf, hbag⟩ := canSwapTo_ok h.arranged hfits1 h.dst_key
          (fun bag hslot heq =>
            h.src_self (h.arranged.distinct _ _ obj1 bag h.src_obj hslot heq.symm)) hto
        obtain ⟨f2, rfl, hf2, hbag2⟩ := canSwapTo_ok h.arranged hfits2 h.src_key
          (fun bag hslot heq =>
            h.dst_self (h.arranged.distinct _ _ obj2 bag h.dst_obj hslot heq.symm)) hback
        exact (hw.sameHeld h hf hbag hf2 hbag2).moved_check

end Bearer

end Mangos
