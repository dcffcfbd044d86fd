import Mangos.Loot.Template

/-!
# Loot templates that refer to each other

Nothing in the loading of the loot tables keeps the references of templates from running in a circle.
-/

namespace Mangos

open Std Framework Relation

theorem mem_of_mem_modify {α : Type*} {l : List α} {i : Nat} {f : α → α} {a : α} (h : a ∈ l.modify i f) :
    a ∈ l ∨ ∃ b ∈ l, a = f b := by
  obtain ⟨j, hj⟩ := List.mem_iff_getElem?.mp h
  rw [List.getElem?_modify] at hj
  obtain ⟨b, hb, rfl⟩ := Option.map_eq_some_iff.mp hj
  have hmem : b ∈ l := List.mem_of_getElem? hb
  split
  · exact .inr ⟨b, hmem, rfl⟩
  · exact .inl hmem

/-- References are among the entries only, and no quest is needed for them. -/
structure LootTemplate.Loaded (t : LootTemplate) : Prop where
  groups : ∀ group ∈ t.groups, ∀ item ∈ group.all, 0 < item.mincountOrRef
  entries : ∀ item ∈ t.entries, item.mincountOrRef < 0 → item.needsQuest = false

theorem LootGroup.mem_addEntry {group : LootGroup} {item other : LootStoreItem}
    (h : other ∈ (group.addEntry item).all) : other ∈ group.all ∨ other = item := by
  rw [LootGroup.addEntry] at h
  split at h
  · simp only [LootGroup.all, List.mem_append, List.mem_singleton] at h ⊢
    tauto
  · simp only [LootGroup.all, List.mem_append, List.mem_singleton] at h ⊢
    tauto

theorem LootTemplate.Loaded.addEntry {t : LootTemplate} {item : LootStoreItem} (h : t.Loaded)
    (hitem : item.mincountOrRef < 0 → item.needsQuest = false) : (t.addEntry item).Loaded := by
  rw [LootTemplate.addEntry]
  split
  next hgroup =>
    constructor
    · have hold : ∀ group ∈ t.groups ++ List.replicate (item.group - t.groups.length) ({} : LootGroup),
          ∀ other ∈ group.all, 0 < other.mincountOrRef := by
        intro group hmem other hother
        rcases List.mem_append.mp hmem with hmem | hmem
        · exact h.groups group hmem other hother
        · rw [List.eq_of_mem_replicate hmem] at hother
          cases hother
      intro group hmem other hother
      rcases mem_of_mem_modify hmem with hsame | ⟨old, hmemOld, rfl⟩
      · exact hold group hsame other hother
      · rcases LootGroup.mem_addEntry hother with hother | rfl
        · exact hold old hmemOld other hother
        · exact hgroup.2
    · exact h.entries
  next =>
    refine ⟨h.groups, fun other hother hneg => ?_⟩
    rcases List.mem_append.mp hother with hother | hother
    · exact h.entries other hother hneg
    · obtain rfl := List.mem_singleton.mp hother
      exact hitem hneg

theorem LootStoreItem.needsQuest_of_isValid {rules : LootRules} {item : LootStoreItem}
    (h : item.isValid rules = true) (hneg : item.mincountOrRef < 0) : item.needsQuest = false := by
  by_contra hquest
  have hzero : item.mincountOrRef ≠ 0 := by omega
  have hpos : ¬ 0 < item.mincountOrRef := by omega
  simp [LootStoreItem.isValid, hzero, hpos, hquest] at h

namespace LootStore

def Loaded (store : LootStore) : Prop :=
  ∀ (id : Nat) (t : LootTemplate), store[id]? = some t → t.Loaded

theorem loaded_loadLootTable (rules : LootRules) (rows : List LootRow) : (loadLootTable rules rows).Loaded := by
  suffices h : ∀ store : LootStore, store.Loaded → (rows.foldl (loadRow rules) store).Loaded from
    h ∅ fun id t ht => by simp at ht
  induction rows with
  | nil => exact fun store h => h
  | cons row rows ih =>
    intro store h
    apply ih
    rw [loadRow]
    split
    next hvalid =>
      intro id t ht
      rw [lookup_upsert] at ht
      split at ht
      · obtain rfl := Option.some.inj ht
        have hold : (store[row.entry]?.getD {}).Loaded := by
          cases hfound : store[row.entry]? with
          | none => exact ⟨fun group hmem => (by cases hmem), fun item hmem => (by cases hmem)⟩
          | some t => exact h row.entry t hfound
        simp only [Bool.and_eq_true] at hvalid
        exact hold.addEntry (LootStoreItem.needsQuest_of_isValid hvalid.2)
      · exact h id t ht
    next => exact h

end LootStore

namespace LootGroup

variable {group : LootGroup} {item : LootStoreItem}

theorem mem_of_rollExplicit {drawn : ℚ} {items : List LootStoreItem} (h : rollExplicit drawn items = some item) :
    item ∈ items := by
  induction items generalizing drawn with
  | nil => cases h
  | cons other items ih =>
    rw [rollExplicit] at h
    split at h
    · exact Option.some.inj h ▸ List.mem_cons_self
    · exact List.mem_cons_of_mem other (ih h)

theorem mem_of_roll {drawn : ℚ} {pick : Nat} (h : group.roll drawn pick = some item) : item ∈ group.all := by
  rw [roll, Option.or_eq_some_iff] at h
  rw [all, List.mem_append]
  rcases h with h | ⟨-, h⟩
  · exact .inl (mem_of_rollExplicit h)
  · exact .inr (List.mem_of_getElem? h)

end LootGroup

namespace LootContext

variable {ctx : LootContext} {rate : Bool} {t u : LootTemplate} {item : LootStoreItem} {group : LootGroup}

theorem processGroup_eq (h : ∀ item ∈ group.all, 0 < item.mincountOrRef)
    (call : LootTemplate → LootProgress → Option LootProgress) (s : LootProgress) : ctx.processGroup call s group =
      some ((group.roll (ctx.random.chance s.drawn) (ctx.random.pick s.drawn)).elim
        { s with drawn := s.drawn + 1 } fun item => ctx.addItem item { s with drawn := s.drawn + 1 }) := by
  rw [processGroup]
  cases hroll : group.roll (ctx.random.chance s.drawn) (ctx.random.pick s.drawn) with
  | none => rfl
  | some item =>
    have hpos := h item (LootGroup.mem_of_roll hroll)
    simp only [Option.elim_some, if_neg (by omega : ¬ item.mincountOrRef < 0)]

theorem returns_processGroup (h : ∀ item ∈ group.all, 0 < item.mincountOrRef)
    (call : LootTemplate → LootProgress → Option LootProgress) : Returns fun s => ctx.processGroup call s group :=
  fun s => ⟨_, processGroup_eq h call s⟩

theorem approx_processGroup {call call' : LootTemplate → LootProgress → Option LootProgress}
    (h : ∀ t, Approx (call t) (call' t)) :
    Approx (fun s => ctx.processGroup call s group) (fun s => ctx.processGroup call' s group) := by
  intro s s' hs
  dsimp only [processGroup] at hs ⊢
  cases hroll : group.roll (ctx.random.chance s.drawn) (ctx.random.pick s.drawn) with
  | none => simpa only [hroll] using hs
  | some item =>
    simp only [hroll] at hs ⊢
    by_cases hneg : item.mincountOrRef < 0
    · rw [if_pos hneg] at hs ⊢
      cases hfound : item.referenced ctx.reference with
      | none => simpa only [hfound] using hs
      | some t =>
        simp only [hfound] at hs ⊢
        exact (h t).repeatM _ _ _ hs
    · rwa [if_neg hneg] at hs ⊢

theorem approx_processEntry {call call' : Nat → LootTemplate → LootProgress → Option LootProgress}
    (h : ∀ groupId t, Approx (call groupId t) (call' groupId t)) :
    Approx (fun s => ctx.processEntry call rate s item) (fun s => ctx.processEntry call' rate s item) := by
  intro s s' hs
  dsimp only [processEntry] at hs ⊢
  by_cases hroll : (!item.roll ctx.rules rate (ctx.random.chance s.drawn)) = true
  · rwa [if_pos hroll] at hs ⊢
  · rw [if_neg hroll] at hs ⊢
    by_cases href : item.mincountOrRef < 0 ∧ (!item.currency) = true
    · rw [if_pos href] at hs ⊢
      cases hfound : item.referenced ctx.reference with
      | none => simpa only [hfound] using hs
      | some t =>
        simp only [hfound] at hs ⊢
        by_cases hcond : item.conditionId ≠ 0 ∧ (!ctx.meets item.conditionId) = true
        · rwa [if_pos hcond] at hs ⊢
        · rw [if_neg hcond] at hs ⊢
          exact (h item.group t).repeatM _ _ _ hs
    · rwa [if_neg href] at hs ⊢

theorem approx_process_succ (fuel : Nat) (rate : Bool) (groupId : Nat) (t : LootTemplate) :
    Approx (ctx.process fuel rate groupId t) (ctx.process (fuel + 1) rate groupId t) := by
  induction fuel generalizing rate groupId t with
  | zero => exact fun s s' hs => (by cases hs)
  | succ fuel ih =>
    intro s s' hs
    rw [process] at hs ⊢
    by_cases hgroup : groupId ≠ 0
    · rw [if_pos hgroup] at hs ⊢
      cases hfound : t.groups[groupId - 1]? with
      | none => simpa only [hfound] using hs
      | some group =>
        simp only [hfound] at hs ⊢
        exact approx_processGroup (fun t => ih false 0 t) s s' hs
    · rw [if_neg hgroup] at hs ⊢
      have hentries : Approx (fun s => t.entries.foldlM (ctx.processEntry (ctx.process fuel rate) rate) s)
          (fun s => t.entries.foldlM (ctx.processEntry (ctx.process (fuel + 1) rate) rate) s) :=
        approx_foldlM fun item _ => approx_processEntry fun groupId t => ih rate groupId t
      have hgroups : Approx (fun s => t.groups.foldlM (ctx.processGroup (ctx.process fuel false 0)) s)
          (fun s => t.groups.foldlM (ctx.processGroup (ctx.process (fuel + 1) false 0)) s) :=
        approx_foldlM fun group _ => approx_processGroup fun t => ih false 0 t
      exact hentries.bind hgroups s s' hs

theorem approx_process {fuel fuel' : Nat} (h : fuel ≤ fuel') (rate : Bool) (groupId : Nat) (t : LootTemplate) :
    Approx (ctx.process fuel rate groupId t) (ctx.process fuel' rate groupId t) := by
  induction h with
  | refl => exact .refl _
  | step _ ih => exact fun s s' hs => approx_process_succ _ rate groupId t s s' (ih s s' hs)

end LootContext

def LootStoreItem.CanRoll (rules : LootRules) (rate : Bool) (item : LootStoreItem) : Prop :=
  ∃ drawn, 0 ≤ drawn ∧ drawn < 100 ∧ item.roll rules rate drawn = true

namespace LootSources

variable (src : LootSources) (rate : Bool)

/-- The entry can lead to the template. -/
structure Follows (item : LootStoreItem) (u : LootTemplate) : Prop where
  neg : item.mincountOrRef < 0
  noCurrency : item.currency = false
  repeated : 0 < item.maxcount
  meets : item.conditionId = 0 ∨ src.meets item.conditionId = true
  roll : item.CanRoll src.rules rate
  found : item.referenced src.reference = some u

def Refers (t u : LootTemplate) : Prop := ∃ item ∈ t.entries, item.group = 0 ∧ src.Follows rate item u

end LootSources

def LootRandom.lowest : LootRandom where
  chance _ := 0
  pick _ := 0
  count _ item := item.maxcount
  nonneg _ := Rat.le_refl
  below _ := by decide

theorem LootStoreItem.CanRoll.lowest {rules : LootRules} {rate : Bool} {item : LootStoreItem}
    (h : item.CanRoll rules rate) : item.roll rules rate 0 = true := by
  obtain ⟨drawn, hnonneg, -, hroll⟩ := h
  rw [LootStoreItem.roll] at hroll ⊢
  have hlow : ∀ chance : ℚ, decide (drawn < chance) = true → decide (0 < chance) = true := by
    intro chance hless
    exact decide_eq_true (Std.lt_of_le_of_lt hnonneg (of_decide_eq_true hless))
  split
  next => rfl
  next hfull =>
    rw [if_neg hfull] at hroll
    split
    next hneg =>
      rw [if_pos hneg] at hroll
      exact hlow _ hroll
    next hneg =>
      rw [if_neg hneg] at hroll
      split
      next hitem =>
        rw [if_pos hitem] at hroll
        exact hlow _ hroll
      next hitem =>
        rw [if_neg hitem] at hroll
        exact hlow _ hroll

theorem finite_values (store : LootStore) : {u : LootTemplate | ∃ id : Nat, store[id]? = some u}.Finite := by
  refine (List.finite_toSet (store.toList.map Prod.snd)).subset ?_
  rintro u ⟨id, hid⟩
  exact List.mem_map.mpr ⟨(id, u), ExtTreeMap.mem_toList_iff_getElem?_eq_some.mpr hid, rfl⟩

namespace LootContext

variable {ctx : LootContext} {rate : Bool} {t u : LootTemplate} {item : LootStoreItem} {group : LootGroup}

theorem process_group_returns (ht : t.Loaded) (fuel : Nat) (rate : Bool) {groupId : Nat} (hgroup : groupId ≠ 0) :
    Returns (ctx.process (fuel + 1) rate groupId t) := by
  intro s
  rw [process, if_pos hgroup]
  cases hfound : t.groups[groupId - 1]? with
  | none => exact ⟨s, rfl⟩
  | some group => exact returns_processGroup (ht.groups group (List.mem_of_getElem? hfound)) _ s

theorem returns_processEntry {call : Nat → LootTemplate → LootProgress → Option LootProgress}
    (h : ∀ u, ctx.Follows rate item u → Returns (call item.group u)) :
    Returns fun s => ctx.processEntry call rate s item := by
  intro s
  dsimp only [processEntry]
  by_cases hroll : item.roll ctx.rules rate (ctx.random.chance s.drawn) = true
  · rw [if_neg (by simp [hroll])]
    by_cases href : item.mincountOrRef < 0 ∧ (!item.currency) = true
    · rw [if_pos href]
      cases hfound : item.referenced ctx.reference with
      | none => exact ⟨_, rfl⟩
      | some u =>
        dsimp only
        by_cases hcond : item.conditionId ≠ 0 ∧ (!ctx.meets item.conditionId) = true
        · rw [if_pos hcond]
          exact ⟨_, rfl⟩
        · rw [if_neg hcond]
          by_cases hcount : item.maxcount = 0
          · rw [hcount]
            exact ⟨_, rfl⟩
          · have hmeets : item.conditionId = 0 ∨ ctx.meets item.conditionId = true := by
              by_contra hnot
              push Not at hnot
              exact hcond ⟨hnot.1, by simpa using hnot.2⟩
            have hcan : item.CanRoll ctx.rules rate :=
              ⟨_, ctx.random.nonneg s.drawn, ctx.random.below s.drawn, hroll⟩
            have hcall := h u ⟨href.1, by simpa using href.2, Nat.pos_of_ne_zero hcount, hmeets, hcan, hfound⟩
            exact hcall.repeatM _ _
    · rw [if_neg href]
      exact ⟨_, rfl⟩
  · rw [if_pos (by simp [hroll])]
    exact ⟨_, rfl⟩

theorem exists_returns_process (href : ctx.reference.Loaded)
    (hacc : Acc (fun u t => ctx.Refers rate t u) t) (ht : t.Loaded) :
    ∃ fuel, Returns (ctx.process fuel rate 0 t) := by
  induction hacc with
  | intro t _ ih =>
    have heach : ∀ item ∈ t.entries, ∃ fuel,
        Returns fun s => ctx.processEntry (ctx.process fuel rate) rate s item := by
      intro item hmem
      by_cases hfollow : ∃ u, ctx.Follows rate item u
      · obtain ⟨u, hu⟩ := hfollow
        have hsame : ∀ u', ctx.Follows rate item u' → u' = u := fun u' hu' =>
          Option.some.inj (hu'.found.symm.trans hu.found)
        have hloaded : u.Loaded := href _ u hu.found
        by_cases hgroup : item.group = 0
        · obtain ⟨fuel, hfuel⟩ := ih u ⟨item, hmem, hgroup, hu⟩ hloaded
          refine ⟨fuel, returns_processEntry fun u' hu' => ?_⟩
          rw [hsame u' hu', hgroup]
          exact hfuel
        · refine ⟨1, returns_processEntry fun u' hu' => ?_⟩
          rw [hsame u' hu']
          exact process_group_returns hloaded 0 rate hgroup
      · exact ⟨0, returns_processEntry fun u hu => absurd ⟨u, hu⟩ hfollow⟩
    have hmono : ∀ (item : LootStoreItem) (fuel fuel' : Nat), fuel ≤ fuel' →
        (Returns fun s => ctx.processEntry (ctx.process fuel rate) rate s item) →
        Returns fun s => ctx.processEntry (ctx.process fuel' rate) rate s item := by
      intro item fuel fuel' hle hreturns
      have happrox : Approx (fun s => ctx.processEntry (ctx.process fuel rate) rate s item)
          (fun s => ctx.processEntry (ctx.process fuel' rate) rate s item) :=
        approx_processEntry fun groupId u => approx_process hle rate groupId u
      exact happrox.returns hreturns
    obtain ⟨fuel, hfuel⟩ := exists_common hmono heach
    have hgroups : Returns fun s => t.groups.foldlM (ctx.processGroup (ctx.process fuel false 0)) s :=
      returns_foldlM fun group hmem => returns_processGroup (ht.groups group hmem) _
    exact ⟨fuel + 1, (returns_foldlM hfuel).bind hgroups⟩

theorem hangs_process (src : LootSources) (fuel : Nat) {t : LootTemplate}
    (h : ¬ NoCircle (src.Refers rate) t) : Hangs ((⟨src, .lowest⟩ : LootContext).process fuel rate 0 t) := by
  induction fuel generalizing t with
  | zero => exact fun s => rfl
  | succ fuel ih =>
    obtain ⟨u, ⟨item, hmem, hgroup, hfollow⟩, hcircle⟩ := exists_step_of_circle h
    have hturn : Hangs fun s => (⟨src, .lowest⟩ : LootContext).processEntry
        ((⟨src, .lowest⟩ : LootContext).process fuel rate) rate s item := by
      intro s
      have hroll : item.roll src.rules rate 0 = true := hfollow.roll.lowest
      have hmeets : ¬ (item.conditionId ≠ 0 ∧ (!src.meets item.conditionId) = true) := by
        rintro ⟨hcond, hnot⟩
        rcases hfollow.meets with hzero | hmeets
        · exact hcond hzero
        · simp [hmeets] at hnot
      simp only [processEntry, LootRandom.lowest, hroll, Bool.not_true, Bool.false_eq_true, if_false,
        hfollow.neg, hfollow.noCurrency, Bool.not_false, and_self, if_true, hfollow.found, if_neg hmeets, hgroup]
      exact (ih hcircle).repeatM hfollow.repeated _
    intro s
    rw [process, if_neg (by simp)]
    refine Option.bind_eq_none_iff.mpr fun s' hs' => ?_
    exact absurd ((hangs_foldlM hmem hturn s).symm.trans hs') (by simp)

end LootContext

/-- Filling a loot from a template ends, whatever is drawn, exactly if no walk along the references that may be
followed leads into a circle. -/
theorem lootProcess_ends_iff (rules : LootRules) (referenceRows rows : List LootRow) (meets : Nat → Bool)
    (rate : Bool) (entry : Nat) (t : LootTemplate)
    (ht : (LootStore.loadLootTable rules rows)[entry]? = some t) (s : LootProgress) :
    let src : LootSources := ⟨rules, LootStore.loadLootTable rules referenceRows, meets⟩
    (∀ random, ∃ fuel s', (⟨src, random⟩ : LootContext).process fuel rate 0 t s = some s') ↔
      NoCircle (src.Refers rate) t := by
  intro src
  constructor
  · intro hends
    by_contra hcircle
    obtain ⟨fuel, s', hs'⟩ := hends .lowest
    exact absurd ((LootContext.hangs_process src fuel hcircle s).symm.trans hs') (by simp)
  · intro hno random
    have hfinite : {u | ReflTransGen (src.Refers rate) t u}.Finite := by
      refine ((finite_values src.reference).insert t).subset fun u hu => ?_
      rcases ReflTransGen.cases_tail hu with heq | ⟨v, -, item, -, -, hfollow⟩
      · exact .inl heq
      · exact .inr ⟨_, hfollow.found⟩
    have hacc : Acc (fun u t => src.Refers rate t u) t := hno.acc hfinite
    have hreturns : ∃ fuel, Returns ((⟨src, random⟩ : LootContext).process fuel rate 0 t) :=
      LootContext.exists_returns_process (LootStore.loaded_loadLootTable rules referenceRows) hacc
        (LootStore.loaded_loadLootTable rules rows entry t ht)
    obtain ⟨fuel, hfuel⟩ := hreturns
    obtain ⟨s', hs'⟩ := hfuel s
    exact ⟨fuel, s', hs'⟩

def plainRules : LootRules where
  tables := ⟨.ofPrototypes [.clothLike 2589], fun _ => none⟩
  conditionExists _ := false
  canBeUsedWithoutPlayer _ := false
  rateQuality _ := 1
  rateReferenced := 1
  rateCurrency := 1

/-- A row that refers to a template of the reference table. -/
def referenceRow (entry reference : Nat) (chance : ℚ) : LootRow where
  entry := entry
  item := 1
  chanceOrQuestChance := chance
  mincountOrRef := -reference
  maxcount := 1

def clothRow (entry : Nat) (chance : ℚ) : LootRow where
  entry := entry
  item := 2589
  chanceOrQuestChance := chance
  mincountOrRef := 1
  maxcount := 1

theorem lootProcess_ends_cloth :
    ∃ fuel s', (⟨⟨plainRules, LootStore.loadLootTable plainRules [clothRow 1 100], fun _ => true⟩, .lowest⟩ :
      LootContext).process fuel true 0 ⟨[(referenceRow 5 1 50).storeItem], []⟩ ⟨Loot.start 0, 0⟩ = some s' := by
  have hplain : ∀ p ∈ (LootStore.loadLootTable plainRules [clothRow 1 100]).toList,
      ∀ item ∈ p.2.entries, ¬ item.mincountOrRef < 0 := by
    decide +kernel
  refine (lootProcess_ends_iff plainRules [clothRow 1 100] [referenceRow 5 1 50] (fun _ => true) true 5 _
    (by decide +kernel) _).mpr ?_ .lowest
  apply noCircle_of_lt fun u => u.entries.countP fun item => item.mincountOrRef < 0
  rintro u v ⟨item, hmem, -, hfollow⟩
  have hv : ∀ other ∈ v.entries, ¬ other.mincountOrRef < 0 :=
    hplain (_, v) (ExtTreeMap.mem_toList_iff_getElem?_eq_some.mpr hfollow.found)
  have hzero : (v.entries.countP fun item => item.mincountOrRef < 0) = 0 :=
    List.countP_eq_zero.mpr fun other hother => by simpa using hv other hother
  rw [hzero]
  exact List.countP_pos_iff.mpr ⟨item, hmem, by simpa using hfollow.neg⟩

/-- Two templates of the reference table that refer to each other, and one that refers to the first. -/
def circleSources : LootSources :=
  ⟨plainRules, LootStore.loadLootTable plainRules [referenceRow 1 2 100, referenceRow 2 1 100], fun _ => true⟩

/-- Filling a loot from it never ends. -/
theorem lootReferences_circle :
    (LootStore.loadLootTable plainRules [referenceRow 5 1 100])[5]? = some ⟨[(referenceRow 5 1 100).storeItem], []⟩ ∧
      ∀ fuel, (⟨circleSources, .lowest⟩ : LootContext).process fuel true 0
        ⟨[(referenceRow 5 1 100).storeItem], []⟩ ⟨Loot.start 0, 0⟩ = none := by
  have hrefers : ∀ (entry id : Nat) (u : LootTemplate), 0 < id → circleSources.reference[id]? = some u →
      circleSources.Refers true ⟨[(referenceRow entry id 100).storeItem], []⟩ u := by
    intro entry id u hid hu
    have hfound : (referenceRow entry id 100).storeItem.referenced circleSources.reference = some u := by
      rw [LootStoreItem.referenced, ← hu]
      simp [referenceRow, LootRow.storeItem]
    have hroll : (referenceRow entry id 100).storeItem.roll plainRules true 0 = true := by
      rw [LootStoreItem.roll]
      exact if_pos (by decide +kernel : (100 : ℚ) ≤ if (100 : ℚ) < 0 then -100 else 100)
    exact ⟨_, List.mem_singleton_self _, rfl, Int.neg_neg_of_pos (by omega : (0 : Int) < id), rfl, Nat.one_pos,
      .inl rfl, ⟨0, Rat.le_refl, by decide, hroll⟩, hfound⟩
  have hfirst := hrefers 5 1 ⟨[(referenceRow 1 2 100).storeItem], []⟩ (by decide) (by decide +kernel)
  have hthere := hrefers 1 2 ⟨[(referenceRow 2 1 100).storeItem], []⟩ (by decide) (by decide +kernel)
  have hback := hrefers 2 1 ⟨[(referenceRow 1 2 100).storeItem], []⟩ (by decide) (by decide +kernel)
  refine ⟨by decide +kernel, fun fuel => LootContext.hangs_process circleSources fuel (fun hno => ?_) _⟩
  exact hno _ (.single hfirst) (.tail (.single hthere) hback)

end Mangos
