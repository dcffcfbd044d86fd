import Mangos.Guild.BankConserve

/-!
# What a request at the bank does

A request is turned down, or it moves items and perhaps pays for it.
-/

namespace Mangos

open Framework

namespace Guild

def askAll (guild : Guild) (curTime guid : Nat) (tabs : List Nat) : Guild :=
  tabs.foldl (fun guild tab => (guild.getMemberSlotWithdrawRem curTime guid tab).1) guild

end Guild

namespace BankDesk

def asked (s : BankDesk) (curTime : Nat) (tabs : List Nat) : BankDesk :=
  s.setGuild (s.guild.askAll curTime s.player.guid tabs)

/-- No item and no other thing of the player or of the bank is touched. -/
structure Untouched (curTime : Nat) (s s' : BankDesk) : Prop where
  player : s'.player = s.player
  purchasedTabs : s'.purchasedTabs = s.purchasedTabs
  slots : s'.slots = s.slots
  guild : ∃ tabs, s'.guild = s.guild.askAll curTime s.player.guid tabs
  nextItemGuid : s.nextItemGuid ≤ s'.nextItemGuid

def canExchange (s : BankDesk) (curTime : Nat) (src dst : BankPos) (pItemSrc : Item) : Bool :=
  (s.canStoreItem dst pItemSrc.count pItemSrc true).isOk &&
    match s.getItem dst with
    | none => false
    | some pItemDst =>
      (s.canStoreItem src pItemDst.count pItemDst true).isOk &&
        (s.checkCrossTab curTime dst.tab src.tab).2

/-- Whether a move within the bank goes from tab to tab and the checks let it take an item out of `tab`. -/
def leavesTab (s : BankDesk) (curTime : Nat) (src dst : BankPos) (splitedAmount tab : Nat) : Bool :=
  src.tab ≠ dst.tab && (s.checkCrossTab curTime src.tab dst.tab).2 &&
    match s.getItem src with
    | none => false
    | some pItemSrc =>
      splitedAmount ≤ pItemSrc.count &&
        if splitedAmount ≠ 0 && splitedAmount ≠ pItemSrc.count then
          tab = src.tab && (s.canStoreItem dst splitedAmount pItemSrc false).isOk
        else if (s.canStoreItem dst pItemSrc.count pItemSrc false).isOk then tab = src.tab
        else (tab = src.tab || tab = dst.tab) &&
          (s.checkCrossTab curTime src.tab dst.tab).1.canExchange curTime src dst pItemSrc

/-- Whether a request moves something from the tab into another one, or in exchange for what lies there,
with nothing that pays for it. -/
def movesUnpaid (s : BankDesk) (loaded canInteract : Bool) (curTime : Nat) (req : BankSwapItems)
    (tab : Nat) : Bool :=
  match req with
  | .bankToBank dst src splitedAmount =>
    loaded && canInteract && dst.slot < guildBankMaxSlots && dst.tab < s.purchasedTabs &&
      s.leavesTab curTime src dst splitedAmount tab
  | .autoStore _ | .withChar .. => false

variable {tables : ItemTables} {accounts : Accounts} {s : BankDesk} {pos src dst : BankPos}
  {it : Item} {curTime : Nat}

theorem Untouched.refl (curTime : Nat) (s : BankDesk) : Untouched curTime s s where
  player := rfl
  purchasedTabs := rfl
  slots := rfl
  guild := ⟨[], rfl⟩
  nextItemGuid := Nat.le_refl _

theorem Untouched.asked (curTime : Nat) (s : BankDesk) (tabs : List Nat) :
    Untouched curTime s (s.asked curTime tabs) where
  player := rfl
  purchasedTabs := rfl
  slots := rfl
  guild := ⟨tabs, rfl⟩
  nextItemGuid := Nat.le_refl _

theorem Untouched.drawGuid (curTime : Nat) (s : BankDesk) : Untouched curTime s s.drawGuid where
  player := rfl
  purchasedTabs := rfl
  slots := rfl
  guild := ⟨[], rfl⟩
  nextItemGuid := Nat.le_succ _

theorem Untouched.trans {s₁ s₂ s₃ : BankDesk} (h : Untouched curTime s₁ s₂)
    (h' : Untouched curTime s₂ s₃) : Untouched curTime s₁ s₃ where
  player := h'.player.trans h.player
  purchasedTabs := h'.purchasedTabs.trans h.purchasedTabs
  slots := h'.slots.trans h.slots
  guild := by
    obtain ⟨tabs, htabs⟩ := h.guild
    obtain ⟨tabs', htabs'⟩ := h'.guild
    refine ⟨tabs ++ tabs', ?_⟩
    rw [htabs', htabs, h.player, Guild.askAll, Guild.askAll, Guild.askAll, List.foldl_append]
  nextItemGuid := h.nextItemGuid.trans h'.nextItemGuid

theorem checkCrossTab_fst (tab tabDst : Nat) :
    ∃ tabs, (s.checkCrossTab curTime tab tabDst).1 = s.asked curTime tabs := by
  unfold checkCrossTab
  split
  · exact ⟨[], rfl⟩
  split
  · exact ⟨[], rfl⟩
  · exact ⟨[tab], rfl⟩

theorem asked_asked (tabs tabs' : List Nat) :
    (s.asked curTime tabs).asked curTime tabs' = s.asked curTime (tabs ++ tabs') := by
  have hguild : (s.guild.askAll curTime s.player.guid tabs).askAll curTime s.player.guid tabs' =
      s.guild.askAll curTime s.player.guid (tabs ++ tabs') := by
    rw [Guild.askAll, Guild.askAll, Guild.askAll, List.foldl_append]
  show s.setGuild _ = s.setGuild _
  exact congrArg s.setGuild hguild

theorem Sound.asked {pending : Multiset Nat} (h : s.Sound tables pending) (tabs : List Nat) :
    (s.asked curTime tabs).Sound tables pending := h.setGuild _

private theorem isOk_of_eq {ε α : Type} {x : Except ε α} {a : α} (h : x = .ok a) : x.isOk = true := by
  rw [h]
  rfl

theorem splitWithinBank_cases {n : Nat} (hsrc : src ∈ s.positions) (hit : s.slots src = some it)
    (htab : dst.tab < s.purchasedTabs) (hslot : dst.slot < guildBankMaxSlots) (hpos : 0 < n)
    (hlt : n < it.count) : s.splitWithinBank tables src dst it n = (s, false) ∨
      (s.splitWithinBank tables src dst it n).2 = true ∧ (s.canStoreItem dst n it false).isOk = true ∧
        Moved tables s (if src.tab = dst.tab then [] else [src.tab])
          (s.splitWithinBank tables src dst it n).1 := by
  unfold splitWithinBank
  cases hok : s.canStoreItem dst n it false with
  | error res => exact .inl rfl
  | ok dest =>
    dsimp only
    cases hcopy : it.cloneItem tables s.nextItemGuid n 0 with
    | none => exact .inl rfl
    | some pNewItem =>
      refine .inr ⟨rfl, rfl, ?_⟩
      exact .split hsrc hit htab hlt hcopy (canStoreItem_ok (.inl hslot) hpos hok)

private theorem slot_ne_null (hpos : pos ∈ s.positions) : pos.slot ≠ nullSlot := by
  intro hnull
  have hlt := (mem_positions.mp hpos).2
  rw [hnull] at hlt
  exact absurd hlt (by decide)

theorem swapWithinBank_cases (h : s.Sound tables 0) (hsrc : src ∈ s.positions)
    (hit : s.slots src = some it) (hne : src ≠ dst) : ((s.swapWithinBank tables curTime src dst it).2 = false ∧
        Untouched curTime s (s.swapWithinBank tables curTime src dst it).1) ∨
      (s.swapWithinBank tables curTime src dst it).2 = true ∧ s.canExchange curTime src dst it = true ∧
        ∃ tabs, Moved tables (s.asked curTime tabs) (if src.tab = dst.tab then [] else [src.tab, dst.tab])
          (s.swapWithinBank tables curTime src dst it).1 := by
  have hfits := h.bankFits it (mem_bankItems hsrc hit)
  unfold swapWithinBank canExchange
  cases hok : s.canStoreItem dst it.count it true with
  | error res => exact .inl ⟨rfl, .refl curTime s⟩
  | ok gDest =>
    dsimp only
    cases hget : s.getItem dst with
    | none => exact .inl ⟨rfl, .refl curTime s⟩
    | some pItemDst =>
      dsimp only
      obtain ⟨hdst, hitDst⟩ := getItem_eq_some hget
      have hfitsDst := h.bankFits pItemDst (mem_bankItems hdst hitDst)
      cases hok' : s.canStoreItem src pItemDst.count pItemDst true with
      | error res => exact .inl ⟨rfl, .refl curTime s⟩
      | ok gSrc =>
        obtain ⟨tabs, htabs⟩ := @checkCrossTab_fst s curTime dst.tab src.tab
        cases hcheck : s.checkCrossTab curTime dst.tab src.tab with
        | mk s₁ allowed =>
          rw [hcheck] at htabs
          dsimp only at htabs ⊢
          subst htabs
          cases allowed with
          | false => exact .inl ⟨rfl, .asked curTime s tabs⟩
          | true =>
            refine .inr ⟨rfl, rfl, tabs, ?_⟩
            rw [canStoreItem_swap (slot_ne_null hdst) hfits.le hok,
              canStoreItem_swap (slot_ne_null hsrc) hfitsDst.le hok']
            exact .exchange (s := s.asked curTime tabs) hsrc hdst hne hit hitDst

private theorem leavesTab_of_split {n tab : Nat} (hget : s.getItem src = some it) (hle : n ≤ it.count)
    (hcheck : (s.checkCrossTab curTime src.tab dst.tab).2 = true) (hpos : n ≠ 0)
    (hpart : n ≠ it.count) (hfits : (s.canStoreItem dst n it false).isOk = true)
    (hmem : tab ∈ if src.tab = dst.tab then [] else [src.tab]) :
    s.leavesTab curTime src dst n tab = true := by
  by_cases hcross : src.tab = dst.tab
  · rw [if_pos hcross] at hmem
    cases hmem
  · rw [if_neg hcross] at hmem
    have htab := List.mem_singleton.mp hmem
    simp [leavesTab, hcross, hcheck, hget, hle, hpos, hpart, hfits, htab]

private theorem leavesTab_of_merge {n tab : Nat} (hget : s.getItem src = some it)
    (hcheck : (s.checkCrossTab curTime src.tab dst.tab).2 = true) (hwhole : n = 0 ∨ n = it.count)
    (hfits : (s.canStoreItem dst it.count it false).isOk = true)
    (hmem : tab ∈ if src.tab = dst.tab then [] else [src.tab]) :
    s.leavesTab curTime src dst n tab = true := by
  by_cases hcross : src.tab = dst.tab
  · rw [if_pos hcross] at hmem
    cases hmem
  · rw [if_neg hcross] at hmem
    have htab := List.mem_singleton.mp hmem
    rcases hwhole with hzero | hall
    · simp [leavesTab, hcross, hcheck, hget, hzero, hfits, htab]
    · simp [leavesTab, hcross, hcheck, hget, hall, hfits, htab]

private theorem leavesTab_of_exchange {n tab : Nat} (hget : s.getItem src = some it)
    (hcheck : (s.checkCrossTab curTime src.tab dst.tab).2 = true) (hwhole : n = 0 ∨ n = it.count)
    (hfails : (s.canStoreItem dst it.count it false).isOk = false)
    (hexchange : (s.checkCrossTab curTime src.tab dst.tab).1.canExchange curTime src dst it = true)
    (hmem : tab ∈ if src.tab = dst.tab then [] else [src.tab, dst.tab]) :
    s.leavesTab curTime src dst n tab = true := by
  by_cases hcross : src.tab = dst.tab
  · rw [if_pos hcross] at hmem
    cases hmem
  · rw [if_neg hcross] at hmem
    have htab : tab = src.tab ∨ tab = dst.tab := by simpa using hmem
    rcases hwhole with hzero | hall
    · simp [leavesTab, hcross, hcheck, hget, hzero, hfails, htab, hexchange]
    · simp [leavesTab, hcross, hcheck, hget, hall, hfails, htab, hexchange]

theorem swapItems_cases {splitedAmount : Nat} (h : s.Sound tables 0)
    (htab : dst.tab < s.purchasedTabs) (hslot : dst.slot < guildBankMaxSlots) :
    ((s.swapItems tables curTime src dst splitedAmount).2 = false ∧
        Untouched curTime s (s.swapItems tables curTime src dst splitedAmount).1) ∨
      (s.swapItems tables curTime src dst splitedAmount).2 = true ∧
        ∃ tabs leaves, Moved tables (s.asked curTime tabs) leaves (s.swapItems tables curTime src dst splitedAmount).1 ∧
          ∀ tab ∈ leaves, s.leavesTab curTime src dst splitedAmount tab = true := by
  unfold swapItems
  split
  · exact .inl ⟨rfl, .refl curTime s⟩
  next hne =>
  cases hget : s.getItem src with
  | none => exact .inl ⟨rfl, .refl curTime s⟩
  | some pItemSrc =>
    dsimp only
    obtain ⟨hsrc, hit⟩ := getItem_eq_some hget
    split
    · exact .inl ⟨rfl, .refl curTime s⟩
    next hlt =>
    have hle := not_lt.mp hlt
    obtain ⟨tabs, htabs⟩ := @checkCrossTab_fst s curTime src.tab dst.tab
    have hallowed := @leavesTab_of_exchange s src dst pItemSrc curTime splitedAmount
    cases hcheck : s.checkCrossTab curTime src.tab dst.tab with
    | mk s₁ allowed =>
      rw [hcheck] at htabs hallowed
      dsimp only at htabs hallowed ⊢
      subst htabs
      cases allowed with
      | false => exact .inl ⟨rfl, .asked curTime s tabs⟩
      | true =>
        have hcheck' : (s.checkCrossTab curTime src.tab dst.tab).2 = true := by rw [hcheck]
        have h₁ : (s.asked curTime tabs).Sound tables 0 := h.asked tabs
        have hsrc₁ : src ∈ (s.asked curTime tabs).positions := hsrc
        have hit₁ : (s.asked curTime tabs).slots src = some pItemSrc := hit
        have htab₁ : dst.tab < (s.asked curTime tabs).purchasedTabs := htab
        simp only [Bool.not_true, Bool.false_eq_true, if_false]
        by_cases hpart : splitedAmount ≠ 0 ∧ splitedAmount ≠ pItemSrc.count
        · rw [if_neg hpart.2, if_pos hpart.1]
          rcases splitWithinBank_cases hsrc₁ hit₁ htab₁ hslot (Nat.pos_of_ne_zero hpart.1)
            (by omega) with hrefused | ⟨hdone, hfits, hmoved⟩
          · rw [hrefused]
            exact .inl ⟨rfl, .asked curTime s tabs⟩
          · refine .inr ⟨hdone, tabs, _, hmoved, fun tab hmem => ?_⟩
            exact leavesTab_of_split hget hle hcheck' hpart.1 hpart.2 hfits hmem
        · have hwhole : splitedAmount = 0 ∨ splitedAmount = pItemSrc.count := by omega
          have hzero : (if splitedAmount = pItemSrc.count then 0 else splitedAmount) = 0 := by
            split <;> omega
          rw [hzero]
          simp only [ne_eq, not_true_eq_false, if_false]
          cases hok : (s.asked curTime tabs).canStoreItem dst pItemSrc.count pItemSrc false with
          | ok gDest =>
            have hplaced := canStoreItem_ok (.inl hslot)
              (h₁.bankFits pItemSrc (mem_bankItems hsrc₁ hit₁)).pos hok
            refine .inr ⟨rfl, tabs, _, .merge hsrc₁ hit₁ htab₁ hplaced, fun tab hmem => ?_⟩
            exact leavesTab_of_merge hget hcheck' hwhole (isOk_of_eq hok) hmem
          | error res =>
            rcases @swapWithinBank_cases tables _ src dst _ curTime h₁ hsrc₁ hit₁ hne with
              ⟨hrefused, huntouched⟩ | ⟨hdone, hexchange, tabs', hmoved⟩
            · exact .inl ⟨hrefused, (Untouched.asked curTime s tabs).trans huntouched⟩
            · rw [asked_asked] at hmoved
              have hfails : (s.canStoreItem dst pItemSrc.count pItemSrc false).isOk = false := by
                have hok' : s.canStoreItem dst pItemSrc.count pItemSrc false = .error res := hok
                rw [hok']
                rfl
              refine .inr ⟨hdone, tabs ++ tabs', _, hmoved, fun tab hmem => ?_⟩
              exact hallowed hget rfl hwhole hfails hexchange hmem

private theorem splitToChar_cases {n : Nat} {place : ItemPos} (h : s.Sound tables 0)
    (hpos : pos ∈ s.positions) (hit : s.slots pos = some it)
    (hplace : place.bag ≠ nullBag → place.isInventoryPos) (hlt : n < it.count) :
    ((s.splitToChar tables accounts curTime pos place it n).2 = false ∧
        Untouched curTime s (s.splitToChar tables accounts curTime pos place it n).1) ∨
      (s.splitToChar tables accounts curTime pos place it n).2 = true ∧ (s.checkWithdraw curTime pos.tab).2 = true ∧
        ∃ s₁, Moved tables (s.asked curTime [pos.tab]) [pos.tab] s₁ ∧
          (s.splitToChar tables accounts curTime pos place it n).1 = s₁.memberItemWithdraw curTime pos.tab := by
  have hfits := h.bankFits it (mem_bankItems hpos hit)
  unfold splitToChar
  cases hcopy : it.cloneItem tables s.nextItemGuid n 0 with
  | none => exact .inl ⟨rfl, .refl curTime s⟩
  | some pNewItem =>
    dsimp only
    split
    · exact .inl ⟨rfl, .drawGuid curTime s⟩
    next hrefused =>
    have hok := not_not.mp hrefused
    cases hallowed : (s.drawGuid.checkWithdraw curTime pos.tab).2 with
    | false =>
      refine .inl ⟨rfl, (Untouched.drawGuid curTime s).trans ?_⟩
      exact Untouched.asked curTime s.drawGuid [pos.tab]
    | true =>
      obtain ⟨hsplit, hguid, hproto, hcount⟩ := Item.cloneItem_eq_some hcopy
      have hamount : pNewItem.count = n := by
        have hle := hfits.le
        omega
      have hnew : pNewItem.Fits tables := by
        refine hfits.transfer hproto (by omega) ?_
        have hle := hfits.le
        omega
      have hdraw : s.drawGuid.Sound tables (pNewItem.guid ::ₘ 0) := hguid ▸ h.drawGuid
      have hplaced := inventoryPlacement_of_answer hnew hdraw.guid_notMem h.wearsBags hplace
        (.inl rfl) hok
      rw [hproto, hamount] at hplaced
      exact .inr ⟨rfl, hallowed, _, .takePart (s := s.asked curTime [pos.tab]) hpos hit hlt hcopy hplaced, rfl⟩

private theorem placement_of_slot {place : ItemPos} {swap : Bool} (h : s.Sound tables 0)
    (hpos : pos ∈ s.positions) (hit : s.slots pos = some it) (hplace : place.bag ≠ nullBag → place.isInventoryPos)
    (hfree : swap = false ∨ s.player.inventory.getItemByPos place = none)
    (hok : (s.player.canStoreItemAt tables accounts place it swap).result = .ok) :
    InventoryPlacement s.player.inventory it.proto it.count
      (s.player.canStoreItemAt tables accounts place it swap).dest := by
  have hfits := h.bankFits it (mem_bankItems hpos hit)
  exact inventoryPlacement_of_answer hfits (h.removeItem hpos hit).1.guid_notMem h.wearsBags hplace
    hfree hok

private theorem dest_of_swap {place : ItemPos} {c : Item} (h : s.Sound tables 0)
    (hpos : pos ∈ s.positions) (hit : s.slots pos = some it) (hplace : place.isInventoryPos)
    (hc : s.player.inventory.getItemByPos place = some c)
    (hok : (s.player.canStoreItemAt tables accounts place it true).result = .ok) :
    (s.player.canStoreItemAt tables accounts place it true).dest = [⟨place, it.count⟩] := by
  have hfits := h.bankFits it (mem_bankItems hpos hit)
  obtain ⟨-, hbag, hslot⟩ := Inventory.isCarriedPlace_of_item hplace hc
  let q : StoreQuery :=
    { bag := place.bag, slot := place.slot, entry := it.entry, count := it.count, pItem := some it,
      swap := true }
  exact @Player.canStoreItem_swap tables accounts s.player q it.proto hbag hslot rfl hfits.known
    hfits.le hok

private theorem swapToChar_cases {place : ItemPos} (h : s.Sound tables 0)
    (hpos : pos ∈ s.positions) (hit : s.slots pos = some it)
    (hplace : place.isInventoryPos ∨ place = ⟨nullBag, nullSlot⟩) :
    ((s.swapToChar tables accounts curTime pos place it).2 = false ∧
        Untouched curTime s (s.swapToChar tables accounts curTime pos place it).1) ∨
      (s.swapToChar tables accounts curTime pos place it).2 = true ∧ (s.checkWithdraw curTime pos.tab).2 = true ∧
        ∃ s₁, Moved tables (s.asked curTime [pos.tab]) [pos.tab] s₁ ∧
          (s.swapToChar tables accounts curTime pos place it).1 = s₁.memberItemWithdraw curTime pos.tab := by
  have hinv : place.bag ≠ nullBag → place.isInventoryPos := by
    intro hbag
    rcases hplace with hpl | rfl
    · exact hpl
    · exact absurd rfl hbag
  unfold swapToChar
  split
  · exact .inl ⟨rfl, .refl curTime s⟩
  dsimp only
  split
  · exact .inl ⟨rfl, .refl curTime s⟩
  next htraded =>
  split
  · exact .inl ⟨rfl, .refl curTime s⟩
  next hrefused =>
  have hok := not_not.mp hrefused
  cases hc : s.player.inventory.getItemByPos place with
  | none =>
    dsimp only
    cases hallowed : (s.checkWithdraw curTime pos.tab).2 with
    | false => exact .inl ⟨rfl, .asked curTime s [pos.tab]⟩
    | true =>
      have hplaced := placement_of_slot h hpos hit hinv (.inr hc) hok
      exact .inr ⟨rfl, rfl, _, .take (s := s.asked curTime [pos.tab]) hpos hit hplaced, rfl⟩
  | some c =>
    dsimp only
    cases hstore : s.canStoreItem pos c.count c true with
    | error res => exact .inl ⟨rfl, .refl curTime s⟩
    | ok gDest =>
      dsimp only
      cases hallowed : (s.checkWithdraw curTime pos.tab).2 with
      | false => exact .inl ⟨rfl, .asked curTime s [pos.tab]⟩
      | true =>
        have hcarried : place.isInventoryPos := by
          rcases hplace with hpl | rfl
          · exact hpl
          · exact absurd hc (by simp [Inventory.getItemByPos, Inventory.hasPos, nullBag,
              inventorySlotBag0, ItemPos.isBagSlot, inventorySlotBagStart, bankSlotBagStart])
        have hfitsC := h.inventoryFits c (Inventory.mem_items.mpr ⟨place, hc⟩)
        have hempty : s.player.inventory.bagIsEmpty place := by
          refine @Player.canBeTraded_bagIsEmpty s.player place c false false hc ?_
          simpa [hc] using htraded
        have hmoved := @Moved.exchangeWithChar tables (s.asked curTime [pos.tab]) pos place it c
          hpos hit hcarried hc hempty
        rw [canStoreItem_swap (slot_ne_null hpos) hfitsC.le hstore, dest_of_swap h hpos hit hcarried hc hok]
        exact .inr ⟨rfl, rfl, _, hmoved, rfl⟩

theorem moveFromBankToChar_cases {place : ItemPos} {splitedAmount : Nat} (h : s.Sound tables 0)
    (hplace : place.isInventoryPos ∨ place = ⟨nullBag, nullSlot⟩) :
    ((s.moveFromBankToChar tables accounts curTime pos place splitedAmount).2 = false ∧
        Untouched curTime s (s.moveFromBankToChar tables accounts curTime pos place splitedAmount).1) ∨
      (s.moveFromBankToChar tables accounts curTime pos place splitedAmount).2 = true ∧
        (s.checkWithdraw curTime pos.tab).2 = true ∧ ∃ s₁, Moved tables (s.asked curTime [pos.tab]) [pos.tab] s₁ ∧
          (s.moveFromBankToChar tables accounts curTime pos place splitedAmount).1 =
            s₁.memberItemWithdraw curTime pos.tab := by
  have hinv : place.bag ≠ nullBag → place.isInventoryPos := by
    intro hbag
    rcases hplace with hpl | rfl
    · exact hpl
    · exact absurd rfl hbag
  unfold moveFromBankToChar
  cases hget : s.getItem pos with
  | none => exact .inl ⟨rfl, .refl curTime s⟩
  | some pItemBank =>
    dsimp only
    obtain ⟨hpos, hit⟩ := getItem_eq_some hget
    split
    · exact .inl ⟨rfl, .refl curTime s⟩
    next hle =>
    by_cases hpart : splitedAmount ≠ 0 ∧ splitedAmount ≠ pItemBank.count
    · rw [if_neg hpart.2, if_pos hpart.1]
      exact splitToChar_cases h hpos hit hinv (by omega)
    · have hzero : (if splitedAmount = pItemBank.count then 0 else splitedAmount) = 0 := by
        split <;> omega
      rw [hzero]
      simp only [ne_eq, not_true_eq_false, if_false]
      by_cases hok : (s.player.canStoreItemAt tables accounts place pItemBank false).result = .ok
      · rw [if_pos hok]
        cases hallowed : (s.checkWithdraw curTime pos.tab).2 with
        | false => exact .inl ⟨rfl, .asked curTime s [pos.tab]⟩
        | true =>
          have hplaced := placement_of_slot h hpos hit hinv (.inl rfl) hok
          have hmoved := @Moved.take tables (s.asked curTime [pos.tab]) pos pItemBank _ hpos hit
            hplaced
          exact .inr ⟨rfl, rfl, _, hmoved, rfl⟩
      · rw [if_neg hok]
        exact swapToChar_cases h hpos hit hplace

private theorem splitToBank_cases {n : Nat} {place : ItemPos}
    (hit : s.player.inventory.getItemByPos place = some it) (htab : pos.tab < s.purchasedTabs)
    (hslot : pos.slot < guildBankMaxSlots ∨ pos.slot = nullSlot) (hpos : 0 < n) (hlt : n < it.count) :
    s.splitToBank tables place pos it n = (s, false) ∨ (s.splitToBank tables place pos it n).2 = true ∧
        Moved tables s [] (s.splitToBank tables place pos it n).1 := by
  unfold splitToBank
  cases hok : s.canStoreItem pos n it false with
  | error res => exact .inl rfl
  | ok dest =>
    dsimp only
    cases hcopy : it.cloneItem tables s.nextItemGuid n 0 with
    | none => exact .inl rfl
    | some pNewItem =>
      exact .inr ⟨rfl, .givePart hit htab hlt hcopy (canStoreItem_ok hslot hpos hok)⟩

private theorem canStoreItem_swap_free {count : Nat} {dest : List (Piece Nat)}
    (hfree : s.slots pos = none) (h : s.canStoreItem pos count it true = .ok dest) :
    s.canStoreItem pos count it false = .ok dest := by
  have hat : s.itemAt pos.tab it pos.slot = none := by
    simp [itemAt, hfree]
  have hsame : s.canStoreInSpecificSlot pos.tab pos.slot true it ⟨[], count⟩ =
      s.canStoreInSpecificSlot pos.tab pos.slot false it ⟨[], count⟩ := by
    simp [canStoreInSpecificSlot, hat]
  unfold canStoreItem at h ⊢
  rw [hsame] at h
  exact h

private theorem swapToBank_cases {place : ItemPos} (h : s.Sound tables 0)
    (hit : s.player.inventory.getItemByPos place = some it)
    (hempty : s.player.inventory.bagIsEmpty place) (hplace : place.isInventoryPos)
    (htab : pos.tab < s.purchasedTabs) (hslot : pos.slot < guildBankMaxSlots ∨ pos.slot = nullSlot)
    (hfull : (s.canStoreItem pos it.count it false).isOk = false) :
    ((s.swapToBank tables accounts curTime place pos it).2 = false ∧
        Untouched curTime s (s.swapToBank tables accounts curTime place pos it).1) ∨
      (s.swapToBank tables accounts curTime place pos it).2 = true ∧ (s.checkWithdraw curTime pos.tab).2 = true ∧
        ∃ s₁, Moved tables (s.asked curTime [pos.tab]) [pos.tab] s₁ ∧
          (s.swapToBank tables accounts curTime place pos it).1 = s₁.memberItemWithdraw curTime pos.tab := by
  have hfits := h.inventoryFits it (Inventory.mem_items.mpr ⟨place, hit⟩)
  unfold swapToBank
  cases hget : s.getItem pos with
  | none =>
    dsimp only
    cases hstore : s.canStoreItem pos it.count it true with
    | error res => exact .inl ⟨rfl, .refl curTime s⟩
    | ok gDest =>
      -- the merge would have been accepted before
      exfalso
      rcases hslot with hlt | hnull
      · have hfree : s.slots pos = none := by
          have hin : ¬ (s.purchasedTabs ≤ pos.tab || guildBankMaxSlots ≤ pos.slot) = true := by
            simp only [Bool.or_eq_true, decide_eq_true_eq]
            omega
          rw [getItem, if_neg hin] at hget
          exact hget
        rw [canStoreItem_swap_free hfree hstore] at hfull
        cases hfull
      · have hsame : s.canStoreItem pos it.count it false = .ok gDest := by
          unfold canStoreItem at hstore ⊢
          simp only [hnull, ne_eq, not_true_eq_false, if_false] at hstore ⊢
          exact hstore
        rw [hsame] at hfull
        cases hfull
  | some pItemBank =>
    dsimp only
    obtain ⟨hpos, hitBank⟩ := getItem_eq_some hget
    split
    · exact .inl ⟨rfl, .refl curTime s⟩
    next hrefused =>
    have hok := not_not.mp hrefused
    cases hstore : s.canStoreItem pos it.count it true with
    | error res => exact .inl ⟨rfl, .refl curTime s⟩
    | ok gDest =>
      dsimp only
      cases hallowed : (s.checkWithdraw curTime pos.tab).2 with
      | false => exact .inl ⟨rfl, .asked curTime s [pos.tab]⟩
      | true =>
        have hmoved := @Moved.exchangeWithChar tables (s.asked curTime [pos.tab]) pos place
          pItemBank it hpos hitBank hplace hit hempty
        rw [canStoreItem_swap (slot_ne_null hpos) hfits.le hstore, dest_of_swap h hpos hitBank hplace hit hok]
        exact .inr ⟨rfl, rfl, _, hmoved, rfl⟩

theorem moveFromCharToBank_cases {place : ItemPos} {splitedAmount : Nat} (h : s.Sound tables 0)
    (hplace : place.isInventoryPos ∨ place = ⟨nullBag, nullSlot⟩) (htab : pos.tab < s.purchasedTabs)
    (hslot : pos.slot < guildBankMaxSlots ∨ pos.slot = nullSlot) :
    ((s.moveFromCharToBank tables accounts curTime place pos splitedAmount).2 = false ∧
        Untouched curTime s (s.moveFromCharToBank tables accounts curTime place pos splitedAmount).1) ∨
      (s.moveFromCharToBank tables accounts curTime place pos splitedAmount).2 = true ∧
        (Moved tables s [] (s.moveFromCharToBank tables accounts curTime place pos splitedAmount).1 ∨
          (s.checkWithdraw curTime pos.tab).2 = true ∧ ∃ s₁, Moved tables (s.asked curTime [pos.tab]) [pos.tab] s₁ ∧
            (s.moveFromCharToBank tables accounts curTime place pos splitedAmount).1 =
              s₁.memberItemWithdraw curTime pos.tab) := by
  unfold moveFromCharToBank
  cases hit : s.player.inventory.getItemByPos place with
  | none => exact .inl ⟨rfl, .refl curTime s⟩
  | some pItemChar =>
    dsimp only
    have hcarried : place.isInventoryPos := by
      rcases hplace with hpl | rfl
      · exact hpl
      · exact absurd hit (by simp [Inventory.getItemByPos, Inventory.hasPos, nullBag,
          inventorySlotBag0, ItemPos.isBagSlot, inventorySlotBagStart, bankSlotBagStart])
    have hfits := h.inventoryFits pItemChar (Inventory.mem_items.mpr ⟨place, hit⟩)
    split
    · exact .inl ⟨rfl, .refl curTime s⟩
    next htraded =>
    have hempty : s.player.inventory.bagIsEmpty place := by
      refine @Player.canBeTraded_bagIsEmpty s.player place pItemChar false false hit ?_
      simpa using htraded
    split
    · exact .inl ⟨rfl, .refl curTime s⟩
    split
    · exact .inl ⟨rfl, .refl curTime s⟩
    next hle =>
    by_cases hpart : splitedAmount ≠ 0 ∧ splitedAmount ≠ pItemChar.count
    · rw [if_neg hpart.2, if_pos hpart.1]
      rcases @splitToBank_cases tables s pos pItemChar splitedAmount place hit htab hslot
        (Nat.pos_of_ne_zero hpart.1) (by omega) with hrefused | ⟨hdone, hmoved⟩
      · rw [hrefused]
        exact .inl ⟨rfl, .refl curTime s⟩
      · exact .inr ⟨hdone, .inl hmoved⟩
    · have hzero : (if splitedAmount = pItemChar.count then 0 else splitedAmount) = 0 := by
        split <;> omega
      rw [hzero]
      simp only [ne_eq, not_true_eq_false, if_false]
      cases hok : s.canStoreItem pos pItemChar.count pItemChar false with
      | ok dest =>
        have hplaced := canStoreItem_ok hslot hfits.pos hok
        exact .inr ⟨rfl, .inl (.give hit hempty htab hplaced)⟩
      | error res =>
        have hfull : (s.canStoreItem pos pItemChar.count pItemChar false).isOk = false := by
          rw [hok]
          rfl
        rcases @swapToBank_cases tables accounts s pos pItemChar curTime place h hit hempty
          hcarried htab hslot hfull with hrefused | ⟨hdone, hpaid⟩
        · exact .inl hrefused
        · exact .inr ⟨hdone, .inr hpaid⟩

theorem Untouched.conserves {s' : BankDesk} (h : Untouched curTime s s') (hsound : s.Sound tables 0) :
    Conserves tables s s' := by
  have hpositions : s'.positions = s.positions := by rw [positions, h.purchasedTabs, positions]
  have hitems : s'.bankItems = s.bankItems := by rw [bankItems, hpositions, h.slots, bankItems]
  have hguids : s'.guids = s.guids := by rw [guids, h.player, hitems, guids]
  refine ⟨⟨?_, ?_, ?_, ?_⟩, fun e => ?_⟩
  · refine (Fresh.mono hsound.fresh h.nextItemGuid).congr ?_
    rw [hguids]
  · rw [h.player]
    exact hsound.inventoryFits
  · rw [hitems]
    exact hsound.bankFits
  · rw [h.player]
    exact hsound.wearsBags
  · rw [itemCount, itemCount, h.player, hpositions, h.slots]

/-- What a request comes to before the members see the result: it is turned down, or it moves items
unpaid, or it pays for taking an item out of a tab. -/
inductive Outcome (tables : ItemTables) (curTime : Nat) (s : BankDesk) (unpaid : Nat → Prop)
    (r : BankDesk × Bool) : Prop
  | refused (hrefused : r.2 = false) (h : Untouched curTime s r.1)
  | moved (hdone : r.2 = true) (tabs leaves : List Nat)
      (hmoved : Moved tables (s.asked curTime tabs) leaves r.1) (hunpaid : ∀ tab ∈ leaves, unpaid tab)
  | paid (hdone : r.2 = true) {tab : Nat} {s₁ : BankDesk}
      (hallowed : (s.checkWithdraw curTime tab).2 = true)
      (hmoved : Moved tables (s.asked curTime [tab]) [tab] s₁)
      (hpaid : r.1 = s₁.memberItemWithdraw curTime tab)

def Handled (tables : ItemTables) (online : Nat → Bool) (curTime : Nat) (s : BankDesk)
    (unpaid : Nat → Prop) (r : BankDesk × Bool) : Prop :=
  ∃ tabs r₀, r = display online curTime tabs r₀ ∧ Outcome tables curTime s unpaid r₀

variable {online : Nat → Bool} {unpaid : Nat → Prop}

theorem Handled.refused (tables : ItemTables) (online : Nat → Bool) (curTime : Nat) (s : BankDesk)
    (unpaid : Nat → Prop) : Handled tables online curTime s unpaid (s, false) :=
  ⟨[], (s, false), rfl, .refused rfl (.refl curTime s)⟩

theorem handleWithChar_cases {canInteract toChar : Bool} {place : ItemPos} {splitedAmount : Nat}
    (h : s.Sound tables 0) : Handled tables online curTime s unpaid (s.handleWithChar tables accounts canInteract online
      curTime pos place toChar splitedAmount) := by
  unfold handleWithChar
  split
  · exact .refused tables online curTime s unpaid
  next hpos =>
  split
  · exact .refused tables online curTime s unpaid
  split
  · exact .refused tables online curTime s unpaid
  next hplace =>
  simp only [Bool.or_eq_true, Bool.and_eq_true, decide_eq_true_eq, not_or, not_and, not_le, not_not] at hpos
  have hslot : pos.slot < guildBankMaxSlots ∨ pos.slot = nullSlot := by
    by_cases hlt : pos.slot < guildBankMaxSlots
    · exact .inl hlt
    · exact .inr (hpos.1 (not_lt.mp hlt))
  have hplace' : place.isInventoryPos ∨ place = ⟨nullBag, nullSlot⟩ := by
    cases hin : place.isInventoryPos with
    | true => exact .inl rfl
    | false =>
      right
      simp only [hin, Bool.not_false, Bool.true_and, Bool.not_eq_true, Bool.not_eq_false',
        Bool.and_eq_true, decide_eq_true_eq] at hplace
      cases place
      simp_all
  split
  · refine ⟨[pos.tab], _, rfl, ?_⟩
    rcases @moveFromBankToChar_cases tables accounts s pos curTime place splitedAmount h hplace' with
      ⟨hrefused, huntouched⟩ | ⟨hdone, hallowed, s₁, hmoved, hpaid⟩
    · exact .refused hrefused huntouched
    · exact .paid hdone hallowed hmoved hpaid
  · refine ⟨[pos.tab], _, rfl, ?_⟩
    rcases @moveFromCharToBank_cases tables accounts s pos curTime place splitedAmount h hplace'
      hpos.2 hslot with ⟨hrefused, huntouched⟩ | ⟨hdone, hmoved | ⟨hallowed, s₁, hmoved, hpaid⟩⟩
    · exact .refused hrefused huntouched
    · exact .moved hdone [] [] hmoved fun tab htab => by cases htab
    · exact .paid hdone hallowed hmoved hpaid

theorem handleGuildBankSwapItems_cases {loaded canInteract : Bool} {req : BankSwapItems} (h : s.Sound tables 0) :
    Handled tables online curTime s (fun tab => s.movesUnpaid loaded canInteract curTime req tab = true)
      (s.handleGuildBankSwapItems tables accounts loaded canInteract online curTime req) := by
  unfold handleGuildBankSwapItems
  split
  · exact .refused tables online curTime s _
  next hloaded =>
  cases req with
  | bankToBank dst src splitedAmount =>
    dsimp only
    split
    · exact .refused tables online curTime s _
    next hpos =>
    split
    · exact .refused tables online curTime s _
    next hnear =>
    simp only [Bool.or_eq_true, decide_eq_true_eq, not_or, not_le] at hpos
    simp only [Bool.not_eq_true, Bool.not_eq_false'] at hloaded hnear
    refine ⟨_, _, rfl, ?_⟩
    rcases @swapItems_cases tables s src dst curTime splitedAmount h hpos.2 hpos.1.1.1 with
      ⟨hrefused, huntouched⟩ | ⟨hdone, tabs, leaves, hmoved, hleaves⟩
    · exact .refused hrefused huntouched
    · refine .moved hdone tabs leaves hmoved fun tab htab => ?_
      simp [movesUnpaid, hloaded, hnear, hpos.1.1.1, hpos.2, hleaves tab htab]
  | autoStore pos => exact handleWithChar_cases h
  | withChar pos place toChar splitedAmount => exact handleWithChar_cases h

theorem Outcome.conserves {r : BankDesk × Bool} (h : Outcome tables curTime s unpaid r)
    (hsound : s.Sound tables 0) : Conserves tables s r.1 := by
  cases h with
  | refused _ h => exact h.conserves hsound
  | moved _ tabs leaves hmoved _ => exact (hmoved.conserves (hsound.asked tabs)).of_setGuild
  | @paid _ tab s₁ _ hmoved hpaid =>
    have hconserves := ((hmoved.conserves (hsound.asked [tab])).of_setGuild).setGuild
      (s₁.guild.memberItemWithdraw curTime tab s₁.player.guid).1
    rw [hpaid]
    exact hconserves

theorem Outcome.untouched {r : BankDesk × Bool} (h : Outcome tables curTime s unpaid r)
    (hrefused : r.2 = false) : Untouched curTime s r.1 := by
  cases h with
  | refused _ h => exact h
  | moved hdone => rw [hdone] at hrefused; cases hrefused
  | paid hdone => rw [hdone] at hrefused; cases hrefused

theorem conserves_handle {loaded canInteract : Bool} {online : Nat → Bool} {curTime : Nat} {req : BankSwapItems}
    (h : s.Sound tables 0) : Conserves tables s
      (s.handleGuildBankSwapItems tables accounts loaded canInteract online curTime req).1 := by
  obtain ⟨tabs, ⟨s', done⟩, hshown, houtcome⟩ :=
    @handleGuildBankSwapItems_cases tables accounts s curTime online loaded canInteract req h
  rw [hshown]
  cases done with
  | false => exact houtcome.conserves h
  | true => exact (houtcome.conserves h).setGuild _

/-- Whatever is asked for, the items stay what they are, every object in one place and every stack within
its limit; and what is turned down touches nothing. -/
theorem handleGuildBankSwapItems_conserves (tables : ItemTables) (accounts : Accounts) (s : BankDesk)
    (h : s.Sound tables 0) (loaded canInteract : Bool) (online : Nat → Bool) (curTime : Nat)
    (req : BankSwapItems) : Conserves tables s
        (s.handleGuildBankSwapItems tables accounts loaded canInteract online curTime req).1 ∧
      ((s.handleGuildBankSwapItems tables accounts loaded canInteract online curTime req).2 = false →
        Untouched curTime s (s.handleGuildBankSwapItems tables accounts loaded canInteract online curTime req).1) := by
  obtain ⟨tabs, ⟨s', done⟩, hshown, houtcome⟩ :=
    @handleGuildBankSwapItems_cases tables accounts s curTime online loaded canInteract req h
  rw [hshown]
  have hconserves := houtcome.conserves h
  cases done with
  | false => exact ⟨hconserves, fun _ => houtcome.untouched rfl⟩
  | true => exact ⟨hconserves.setGuild _, fun hrefused => by cases hrefused⟩

structure BankCall where
  loaded : Bool
  canInteract : Bool
  online : Nat → Bool
  curTime : Nat
  req : BankSwapItems

def bankStep (tables : ItemTables) (accounts : Accounts) (s : BankDesk) (c : BankCall) : BankDesk :=
  (s.handleGuildBankSwapItems tables accounts c.loaded c.canInteract c.online c.curTime c.req).1

/-- However many requests leave the amount of every entry, each object in one place, each stack within its limit. -/
theorem bankRun_conserves (accounts : Accounts) (h : s.Sound tables 0) (cs : List BankCall) :
    Conserves tables s (cs.foldl (bankStep tables accounts) s) := by
  induction cs generalizing s with
  | nil => exact ⟨h, fun e => rfl⟩
  | cons c cs ih =>
    have hfirst : Conserves tables s (bankStep tables accounts s c) := conserves_handle h
    have hrest := ih hfirst.sound
    exact ⟨hrest.sound, fun e => (hrest.counts e).trans (hfirst.counts e)⟩

end BankDesk

/-! A member has potions himself and finds some in two tabs. He may take items out of the first tab twice
a day and out of the second one never. -/

def potion : ItemPrototype := .goods 118 5 (by omega) (by omega)

def potionTables : ItemTables := .ofPrototypes [potion]

def potionAccounts : Accounts := .oneEach

def potions (guid count ownerGuid : Nat) : Item := { guid, proto := potion, count, ownerGuid }

def twiceADay : RankInfo where
  name := "Member"
  rights := GuildRankRight.gchatSpeak.word
  bankMoneyPerDay := 0
  tabRight _ := guildBankRightDepositItem
  tabSlotPerDay tab := if tab.val = 0 then 2 else 0

def potionDesk : BankDesk where
  player := { guid := 7, account := 7, money := 0,
              inventory := ⟨fun pos => if pos = ⟨255, 23⟩ then some (potions 203 2 7) else none⟩ }
  guild := { id := 1, level := 1, leaderGuid := 6, ranks := [.new "Master" 0 0, twiceADay],
             members := [(6, .new 6 0), (7, .new 7 1)] }
  purchasedTabs := 2
  slots pos := if pos = ⟨0, 0⟩ then some (potions 201 4 0)
    else if pos = ⟨1, 0⟩ then some (potions 202 1 0) else none
  nextItemGuid := 204

theorem potionDesk_sound : potionDesk.Sound potionTables 0 where
  fresh := by
    rw [add_zero]
    refine ⟨?_, ?_⟩
    · decide +kernel
    · show ∀ g ∈ potionDesk.guids, g < 204
      decide +kernel
  inventoryFits it hit := by
    have hall : ∀ it ∈ potionDesk.player.inventory.items, potionTables.prototype it.entry =
        some it.proto ∧ 0 < it.count ∧ it.count ≤ it.proto.getMaxStackSize := by decide +kernel
    exact ⟨(hall it hit).1, (hall it hit).2.1, (hall it hit).2.2⟩
  bankFits it hit := by
    have hall : ∀ it ∈ potionDesk.bankItems, potionTables.prototype it.entry =
        some it.proto ∧ 0 < it.count ∧ it.count ≤ it.proto.getMaxStackSize := by decide +kernel
    exact ⟨(hall it hit).1, (hall it hit).2.1, (hall it hit).2.2⟩
  wearsBags bag pBag _ hhi hworn := by
    have hslot := (Inventory.getItemByPos_eq_some hworn).2
    have hne : (⟨inventorySlotBag0, bag⟩ : ItemPos) ≠ ⟨255, 23⟩ := by
      intro heq
      have hbag : bag = 23 := congrArg ItemPos.slot heq
      rw [hbag] at hhi
      exact absurd hhi (by decide)
    simp [potionDesk, hne] at hslot

/-- Three of the potions are taken out of the bank and merged with the two he has. -/
theorem handleGuildBankSwapItems_conserves_potions : BankDesk.Conserves potionTables potionDesk
      (potionDesk.handleGuildBankSwapItems potionTables potionAccounts true true (fun _ => true) 2000
        (.withChar ⟨0, 0⟩ ⟨255, 23⟩ true 3)).1 :=
  (BankDesk.handleGuildBankSwapItems_conserves potionTables potionAccounts potionDesk
    potionDesk_sound true true (fun _ => true) 2000 (.withChar ⟨0, 0⟩ ⟨255, 23⟩ true 3)).1

theorem bankRun_conserves_potions : BankDesk.Conserves potionTables potionDesk
    ((List.replicate 2 ⟨true, true, fun _ => true, 2000, .withChar ⟨0, 0⟩ ⟨255, 23⟩ true 1⟩).foldl
      (BankDesk.bankStep potionTables potionAccounts) potionDesk) :=
  BankDesk.bankRun_conserves potionAccounts potionDesk_sound _

/-- A move out of the second tab is turned down, but asking for the limit began a new day. -/
theorem handleGuildBankSwapItems_renewsDay :
    ¬ ∀ (tables : ItemTables) (accounts : Accounts) (s : BankDesk), s.Sound tables 0 →
      ∀ (loaded canInteract : Bool) (online : Nat → Bool) (curTime : Nat) (req : BankSwapItems),
        BankDesk.Conserves tables s
            (s.handleGuildBankSwapItems tables accounts loaded canInteract online curTime req).1 ∧
          ((s.handleGuildBankSwapItems tables accounts loaded canInteract online curTime req).2 = false →
            (s.handleGuildBankSwapItems tables accounts loaded canInteract online curTime req).1 = s) := by
  intro h
  have hsame := (h potionTables potionAccounts potionDesk potionDesk_sound true true (fun _ => true)
    2000 (.bankToBank ⟨0, 1⟩ ⟨1, 0⟩ 0)).2 (by decide +kernel)
  have hreset := congrArg (fun s => (s.guild.getMemberSlot 7).map fun slot =>
    slot.bankResetTimeTab ⟨1, by decide⟩) hsame
  exact absurd hreset (by decide +kernel)

end Mangos
