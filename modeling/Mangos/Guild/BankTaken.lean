import Mangos.Guild.BankLimit

/-!
# Taking items out of a tab

An operation takes something out of a tab if the tab has less of a template afterwards than before, or if an
object that lay in the tab lies elsewhere.
-/

namespace Mangos

open Framework

/-- No more of any template, and no other objects. -/
structure Fewer (m' m : Multiset Item) : Prop where
  counts : ∀ e, (m'.map (Item.weight e)).sum ≤ (m.map (Item.weight e)).sum
  guids : m'.map (·.guid) ⊆ m.map (·.guid)

namespace Fewer

variable {m m' l l' : Multiset Item} {it : Item}

theorem refl (m : Multiset Item) : Fewer m m := ⟨fun _ => Nat.le_refl _, Multiset.Subset.refl _⟩

theorem zero (m : Multiset Item) : Fewer 0 m := ⟨fun _ => Nat.zero_le _, Multiset.zero_subset _⟩

theorem add (h : Fewer m' m) (h' : Fewer l' l) : Fewer (m' + l') (m + l) := by
  constructor
  · intro e
    have hm := h.counts e
    have hl := h'.counts e
    simp only [Multiset.map_add, Multiset.sum_add]
    omega
  · intro g hg
    rw [Multiset.map_add, Multiset.mem_add] at hg ⊢
    exact hg.imp (fun hm => h.guids hm) (fun hl => h'.guids hl)

theorem weight_le {n : Nat} (hn : n ≤ it.count) (e : Nat) :
    Item.weight e { it with count := n } ≤ Item.weight e it := by
  have hweight : Item.weight e { it with count := n } = if it.entry = e then n else 0 :=
    Item.weight_count e n it
  rw [hweight, Item.weight]
  split <;> omega

theorem singleton {n : Nat} (hn : n ≤ it.count) : Fewer {{ it with count := n }} {it} := by
  constructor
  · intro e
    simpa using weight_le hn e
  · simp

theorem contents {κ : Type} {keys : List κ} {s s' : κ → Option Item}
    (h : ∀ k ∈ keys, Fewer (held (s' k)) (held (s k))) :
    Fewer (Framework.contents keys s') (Framework.contents keys s) := by
  induction keys with
  | nil => exact refl 0
  | cons k keys ih =>
    rw [contents_cons, contents_cons]
    have hhead := h k List.mem_cons_self
    exact hhead.add (ih fun l hl => h l (List.mem_cons_of_mem k hl))

theorem put_none {inv : Inventory} {place : ItemPos} (hit : inv.getItemByPos place = some it)
    (hempty : inv.bagIsEmpty place) : Fewer (inv.put place none).items inv.items := by
  have hitems := Inventory.items_put_none hit hempty
  rw [← hitems]
  constructor
  · intro e
    simp
  · intro g hg
    rw [Multiset.map_add]
    exact Multiset.mem_add.mpr (.inl hg)

theorem put_count {inv : Inventory} {place : ItemPos} {n : Nat}
    (hit : inv.getItemByPos place = some it) (hn : n ≤ it.count) :
    Fewer (inv.put place (some { it with count := n })).items inv.items := by
  have hitems := @Inventory.items_put_same inv place it { it with count := n } hit rfl
  constructor
  · intro e
    have hsum := congrArg (fun m => (m.map (Item.weight e)).sum) hitems
    simp only [Multiset.map_add, Multiset.sum_add, Multiset.map_singleton, Multiset.sum_singleton] at hsum
    have hle := @weight_le it n hn e
    omega
  · have hguids := congrArg (Multiset.map Item.guid) hitems
    rw [Multiset.map_add, Multiset.map_add, Multiset.map_singleton, Multiset.map_singleton] at hguids
    rw [add_right_cancel hguids]
    exact Multiset.Subset.refl _

end Fewer

namespace BankDesk

def tabItems (s : BankDesk) (tab : Nat) : Multiset Item :=
  contents (s.positions.filter (·.tab = tab)) s.slots

def elsewhereItems (s : BankDesk) (tab : Nat) : Multiset Item :=
  s.player.inventory.items + contents (s.positions.filter fun pos => !decide (pos.tab = tab)) s.slots

def tabCount (s : BankDesk) (tab e : Nat) : Nat := ((s.tabItems tab).map (Item.weight e)).sum

def TakesOut (tab : Nat) (s s' : BankDesk) : Prop :=
  ∃ it ∈ s.tabItems tab, s'.tabCount tab it.entry < s.tabCount tab it.entry ∨
    ∃ it' ∈ s'.elsewhereItems tab, it'.guid = it.guid

instance (tab : Nat) (s s' : BankDesk) : Decidable (TakesOut tab s s') :=
  @Multiset.decidableExistsMultiset _ _ _ fun _ =>
    @instDecidableOr _ _ _ Multiset.decidableExistsMultiset

variable {tables : ItemTables} {s s' : BankDesk} {tab : Nat}

theorem tabItems_add_elsewhereItems (s : BankDesk) (tab : Nat) :
    s.tabItems tab + s.elsewhereItems tab = s.player.inventory.items + s.bankItems := by
  have hbank := contents_filter_add (fun pos => decide (pos.tab = tab)) s.positions s.slots
  rw [tabItems, elsewhereItems, bankItems, ← hbank, add_left_comm]

theorem itemCount_eq_tabCount (s : BankDesk) (tab e : Nat) :
    s.itemCount e = s.tabCount tab e + ((s.elsewhereItems tab).map (Item.weight e)).sum := by
  rw [tabCount, ← Multiset.sum_add, ← Multiset.map_add, tabItems_add_elsewhereItems, Multiset.map_add, Multiset.sum_add]
  rfl

theorem guids_eq_tab (s : BankDesk) (tab : Nat) :
    s.guids = (s.tabItems tab).map (·.guid) + (s.elsewhereItems tab).map (·.guid) := by
  rw [← Multiset.map_add, tabItems_add_elsewhereItems, Multiset.map_add]
  rfl

theorem Sound.tab_ne_elsewhere {pending : Multiset Nat} (h : s.Sound tables pending) {it it' : Item}
    (hit : it ∈ s.tabItems tab) (hit' : it' ∈ s.elsewhereItems tab) : it'.guid ≠ it.guid := by
  intro hguid
  have hnodup := (Multiset.nodup_add.mp h.fresh.nodup).1
  rw [guids_eq_tab s tab] at hnodup
  have hdisjoint := (Multiset.nodup_add.mp hnodup).2.2
  have hleft : it.guid ∈ (s.tabItems tab).map (·.guid) := Multiset.mem_map_of_mem _ hit
  have hright : it'.guid ∈ (s.elsewhereItems tab).map (·.guid) := Multiset.mem_map_of_mem _ hit'
  exact Multiset.disjoint_left.mp hdisjoint hleft (hguid ▸ hright)

theorem Conserves.not_takesOut_of_tab (h : Conserves tables s s')
    (htab : s'.tabItems tab = s.tabItems tab) : ¬ TakesOut tab s s' := by
  rintro ⟨it, hit, hless | ⟨it', hit', hguid⟩⟩
  · rw [tabCount, htab] at hless
    exact Nat.lt_irrefl _ hless
  · rw [← htab] at hit
    exact h.sound.tab_ne_elsewhere hit hit' hguid

theorem Conserves.not_takesOut_of_elsewhere (h : Conserves tables s s') (hsound : s.Sound tables 0)
    (hfewer : Fewer (s'.elsewhereItems tab) (s.elsewhereItems tab)) : ¬ TakesOut tab s s' := by
  rintro ⟨it, hit, hless | ⟨it', hit', hguid⟩⟩
  · have hcount := h.counts it.entry
    rw [itemCount_eq_tabCount s tab, itemCount_eq_tabCount s' tab] at hcount
    have hle := hfewer.counts it.entry
    omega
  · have hmem := hfewer.guids (Multiset.mem_map_of_mem (·.guid) hit')
    obtain ⟨it₀, hit₀, hguid₀⟩ := Multiset.mem_map.mp hmem
    exact hsound.tab_ne_elsewhere hit hit₀ (hguid₀.trans hguid)

theorem tabItems_congr (hbought : s'.purchasedTabs = s.purchasedTabs)
    (hslots : ∀ q, q.tab = tab → s'.slots q = s.slots q) : s'.tabItems tab = s.tabItems tab := by
  have hpositions : s'.positions = s.positions := by rw [positions, hbought, positions]
  rw [tabItems, tabItems, hpositions]
  refine contents_congr fun q hq => hslots q ?_
  simpa using (List.mem_filter.mp hq).2

theorem elsewhereItems_fewer (hbought : s'.purchasedTabs = s.purchasedTabs)
    (hinventory : Fewer s'.player.inventory.items s.player.inventory.items)
    (hslots : ∀ q, q.tab ≠ tab → Fewer (held (s'.slots q)) (held (s.slots q))) :
    Fewer (s'.elsewhereItems tab) (s.elsewhereItems tab) := by
  have hpositions : s'.positions = s.positions := by rw [positions, hbought, positions]
  rw [elsewhereItems, elsewhereItems, hpositions]
  refine hinventory.add (.contents fun q hq => hslots q ?_)
  simpa using (List.mem_filter.mp hq).2

@[simp] theorem moveItemToInventory_slots (dest : List ItemPosCount) (it : Item) :
    (s.moveItemToInventory tables dest it).slots = s.slots := rfl
@[simp] theorem moveItemToInventory_purchasedTabs (dest : List ItemPosCount) (it : Item) :
    (s.moveItemToInventory tables dest it).purchasedTabs = s.purchasedTabs := rfl
@[simp] theorem moveItemToInventory_guild (dest : List ItemPosCount) (it : Item) :
    (s.moveItemToInventory tables dest it).guild = s.guild := rfl
@[simp] theorem moveItemToInventory_playerGuid (dest : List ItemPosCount) (it : Item) :
    (s.moveItemToInventory tables dest it).player.guid = s.player.guid := rfl
@[simp] theorem moveItemFromInventory_playerGuid (place : ItemPos) :
    (s.moveItemFromInventory place).player.guid = s.player.guid := rfl
@[simp] theorem setInventory_slots (inv : Inventory) : (s.setInventory inv).slots = s.slots := rfl
@[simp] theorem setInventory_purchasedTabs (inv : Inventory) :
    (s.setInventory inv).purchasedTabs = s.purchasedTabs := rfl
@[simp] theorem setInventory_guild (inv : Inventory) : (s.setInventory inv).guild = s.guild := rfl
@[simp] theorem setInventory_playerGuid (inv : Inventory) : (s.setInventory inv).player.guid = s.player.guid := rfl

theorem Moved.frame {leaves : List Nat} (h : Moved tables s leaves s') :
    s'.guild = s.guild ∧ s'.purchasedTabs = s.purchasedTabs ∧ s'.player.guid = s.player.guid := by
  cases h <;> simp

theorem handleGuildBankSwapItems_playerGuid {accounts : Accounts} {loaded canInteract : Bool}
    {online : Nat → Bool} {curTime : Nat} {req : BankSwapItems} (h : s.Sound tables 0) :
    (s.handleGuildBankSwapItems tables accounts loaded canInteract online curTime req).1.player.guid =
      s.player.guid := by
  obtain ⟨tabs, ⟨s', done⟩, hshown, houtcome⟩ :=
    @handleGuildBankSwapItems_cases tables accounts s curTime online loaded canInteract req h
  have hsame : s'.player.guid = s.player.guid := by
    cases houtcome with
    | refused _ huntouched => rw [huntouched.player]
    | moved _ tabs leaves hmoved _ => exact hmoved.frame.2.2
    | paid _ _ hmoved hpaid =>
      have hplayer := congrArg (fun s => s.player.guid) hpaid
      exact hplayer.trans hmoved.frame.2.2
  rw [hshown]
  cases done with
  | false => exact hsame
  | true => exact hsame

private theorem held_setSlot_fewer {pos q : BankPos} {v : Option Item} (hv : Fewer (held v) (held (s.slots pos))) :
    Fewer (held ((s.setSlot pos v).slots q)) (held (s.slots q)) := by
  by_cases hq : q = pos
  · subst hq
    rw [setSlot_slots_self]
    exact hv
  · rw [setSlot_slots_of_ne hq]
    exact .refl _

private theorem tab_ne_src {src dst : BankPos}
    (hstay : tab ∉ if src.tab = dst.tab then [] else [src.tab]) (hdst : dst.tab ≠ tab) : src.tab ≠ tab := by
  intro hsrc
  have hcross : src.tab ≠ dst.tab := fun heq => hdst (heq.symm.trans hsrc)
  rw [if_neg hcross, hsrc] at hstay
  exact hstay (List.mem_singleton_self tab)

private theorem slots_ne {q pos : BankPos} (hq : q.tab = tab) (hpos : pos.tab ≠ tab) : q ≠ pos := by
  rintro rfl
  exact hpos hq

private theorem not_takesOut_storeItem {s₁ : BankDesk} {tabDst : Nat} {it : Item}
    {dest : List (Piece Nat)} (hconserves : Conserves tables s (s₁.storeItem tables tabDst it dest))
    (hsound : s.Sound tables 0) (hbought : s₁.purchasedTabs = s.purchasedTabs)
    (hinventory : Fewer s₁.player.inventory.items s.player.inventory.items)
    (hfewer : ∀ q, Fewer (held (s₁.slots q)) (held (s.slots q)))
    (hkept : tabDst ≠ tab → ∀ q, q.tab = tab → s₁.slots q = s.slots q) :
    ¬ TakesOut tab s (s₁.storeItem tables tabDst it dest) := by
  have hbought' : (s₁.storeItem tables tabDst it dest).purchasedTabs = s.purchasedTabs := by
    rw [storeItem_purchasedTabs, hbought]
  by_cases hdst : tabDst = tab
  · subst hdst
    refine hconserves.not_takesOut_of_elsewhere hsound (elsewhereItems_fewer hbought' ?_ ?_)
    · rw [storeItem_player]
      exact hinventory
    · intro q hq
      rw [storeItem_slots_of_ne hq]
      exact hfewer q
  · refine hconserves.not_takesOut_of_tab (tabItems_congr hbought' fun q hq => ?_)
    rw [storeItem_slots_of_ne (by rw [hq]; exact Ne.symm hdst)]
    exact hkept hdst q hq

private theorem exchange_tabs {src dst : BankPos} (hstay : tab ∉ if src.tab = dst.tab then [] else [src.tab, dst.tab]) :
    (src.tab = tab ∧ dst.tab = tab) ∨ (src.tab ≠ tab ∧ dst.tab ≠ tab) := by
  by_cases hcross : src.tab = dst.tab
  · by_cases hsrc : src.tab = tab
    · exact .inl ⟨hsrc, hcross ▸ hsrc⟩
    · exact .inr ⟨hsrc, hcross ▸ hsrc⟩
  · rw [if_neg hcross] at hstay
    simp only [List.mem_cons, List.not_mem_nil, or_false, not_or] at hstay
    exact .inr ⟨Ne.symm hstay.1, Ne.symm hstay.2⟩

private theorem exchange_not_takesOut {src dst : BankPos} {a b : Item} {destA destB : List (Piece Nat)}
    (hconserves : Conserves tables s ((((s.removeItem src).removeItem dst).storeItem tables src.tab b
      destB).storeItem tables dst.tab a destA)) (hsound : s.Sound tables 0)
    (htabs : (src.tab = tab ∧ dst.tab = tab) ∨ (src.tab ≠ tab ∧ dst.tab ≠ tab)) :
    ¬ TakesOut tab s ((((s.removeItem src).removeItem dst).storeItem tables src.tab b
      destB).storeItem tables dst.tab a destA) := by
  have hbought : ((((s.removeItem src).removeItem dst).storeItem tables src.tab b
      destB).storeItem tables dst.tab a destA).purchasedTabs = s.purchasedTabs := by simp
  have hsame : ∀ q, q ≠ src → q ≠ dst →
      ((s.removeItem src).removeItem dst).slots q = s.slots q := fun q hsrc hdst =>
    (setSlot_slots_of_ne hdst none).trans (setSlot_slots_of_ne hsrc none)
  rcases htabs with ⟨hsrc, hdst⟩ | ⟨hsrc, hdst⟩
  · refine hconserves.not_takesOut_of_elsewhere hsound (elsewhereItems_fewer hbought ?_ ?_)
    · rw [storeItem_player, storeItem_player]
      exact .refl _
    · intro q hq
      rw [storeItem_slots_of_ne (by rwa [hdst]), storeItem_slots_of_ne (by rwa [hsrc]),
        hsame q (fun heq => hq (heq ▸ hsrc)) (fun heq => hq (heq ▸ hdst))]
      exact .refl _
  · refine hconserves.not_takesOut_of_tab (tabItems_congr hbought fun q hq => ?_)
    rw [storeItem_slots_of_ne (by rw [hq]; exact Ne.symm hdst),
      storeItem_slots_of_ne (by rw [hq]; exact Ne.symm hsrc)]
    exact hsame q (slots_ne hq hsrc) (slots_ne hq hdst)

theorem Moved.not_takesOut {leaves : List Nat} (h : Moved tables s leaves s')
    (hsound : s.Sound tables 0) (hstay : tab ∉ leaves) : ¬ TakesOut tab s s' := by
  have hconserves := h.conserves hsound
  obtain ⟨-, hbought, -⟩ := h.frame
  cases h with
  | merge hsrc hit htab hplaced =>
    refine not_takesOut_storeItem hconserves hsound rfl (.refl _) ?_ ?_
    · exact fun q => held_setSlot_fewer (.zero _)
    · exact fun hdst q hq => setSlot_slots_of_ne (slots_ne hq (tab_ne_src hstay hdst)) none
  | @split src dst it pNewItem n dest hsrc hit htab hlt hcopy hplaced =>
    refine not_takesOut_storeItem hconserves hsound rfl (.refl _) ?_ ?_
    · refine fun q => @held_setSlot_fewer s.drawGuid src q _ ?_
      rw [drawGuid_slots, hit]
      exact .singleton (Nat.sub_le _ _)
    · exact fun hdst q hq => setSlot_slots_of_ne (slots_ne hq (tab_ne_src hstay hdst)) _
  | exchange hsrc hdst hne ha hb =>
    exact exchange_not_takesOut hconserves hsound (exchange_tabs hstay)
  | @take pos it dest hpos hit hplaced =>
    have hposTab : pos.tab ≠ tab := fun heq => hstay (heq ▸ List.mem_singleton_self _)
    refine hconserves.not_takesOut_of_tab (tabItems_congr hbought fun q hq => ?_)
    exact setSlot_slots_of_ne (slots_ne hq hposTab) none
  | @takePart pos it pNewItem n dest hpos hit hlt hcopy hplaced =>
    have hposTab : pos.tab ≠ tab := fun heq => hstay (heq ▸ List.mem_singleton_self _)
    refine hconserves.not_takesOut_of_tab (tabItems_congr hbought fun q hq => ?_)
    exact setSlot_slots_of_ne (slots_ne hq hposTab) _
  | @exchangeWithChar pos place it c hpos hit hplace hc hempty =>
    have hposTab : pos.tab ≠ tab := fun heq => hstay (heq ▸ List.mem_singleton_self _)
    refine hconserves.not_takesOut_of_tab (tabItems_congr hbought fun q hq => ?_)
    rw [moveItemToInventory_slots, storeItem_slots_of_ne (by rw [hq]; exact Ne.symm hposTab)]
    exact setSlot_slots_of_ne (slots_ne hq hposTab) none
  | @give place tabDst it dest hit hempty htab hplaced =>
    refine not_takesOut_storeItem hconserves hsound rfl ?_ (fun q => .refl _) (fun _ q _ => rfl)
    have hinventory : (s.moveItemFromInventory place).player.inventory =
        s.player.inventory.put place none := by
      simp [moveItemFromInventory, setInventory, Inventory.removeItem, hit]
    rw [hinventory]
    exact .put_none hit hempty
  | givePart hit htab hlt hcopy hplaced =>
    refine not_takesOut_storeItem hconserves hsound rfl ?_ (fun q => .refl _) (fun _ q _ => rfl)
    exact .put_count hit (Nat.sub_le _ _)

end BankDesk

end Mangos
