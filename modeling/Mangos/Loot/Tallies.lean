import Mangos.Loot.Ages

/-!
# The tallies of a roll

A roll counts its votes apart from recording them.
-/

namespace Mangos

open Framework

namespace Roll

variable (roll : Roll)

def votes (P : RollVote → Bool) : Nat := roll.playerVote.countP fun p => P p.2

/-- The counters are the numbers of recorded votes, and none went below zero. -/
structure Tallied : Prop where
  need : roll.totalNeed = roll.votes (· = .need)
  greed : roll.totalGreed = roll.votes RollVote.isGreed
  pass : roll.totalPass = roll.votes (· = .pass)
  rolling : roll.totalPlayersRolling = roll.votes (· ≠ .notValid)
  notWrapped : roll.wrapped = false

def Small : Prop := roll.playerVote.length ≤ 40

def mayRecord (pl : Nat) : Bool :=
  match lookupKey pl roll.playerVote with
  | none | some .notEmitedYet => true
  | some _ => false

variable {roll}

theorem Small.votes_le (h : roll.Small) (P : RollVote → Bool) : roll.votes P ≤ 40 :=
  le_trans List.countP_le_length h

theorem votes_eq_sum (P : RollVote → Bool) : roll.votes P = (roll.playerVote.map fun p => if P p.2 then 1 else 0).sum :=
  countP_eq_sum (fun p : Nat × RollVote => P p.2) roll.playerVote

theorem votes_modifyKey {pl : Nat} {prev : RollVote}
    (h : lookupKey pl roll.playerVote = some prev) (vote : RollVote) (P : RollVote → Bool) :
    { roll with playerVote := modifyKey pl (fun _ => vote) roll.playerVote }.votes P +
        (if P prev then 1 else 0) = roll.votes P + if P vote then 1 else 0 := by
  rw [votes_eq_sum, votes_eq_sum]
  exact sum_modifyKey (fun v => if P v then 1 else 0) h

theorem votes_eraseKey {guid : Nat} {prev : RollVote}
    (h : lookupKey guid roll.playerVote = some prev) (P : RollVote → Bool) :
    { roll with playerVote := eraseKey guid roll.playerVote }.votes P +
        (if P prev then 1 else 0) = roll.votes P := by
  rw [votes_eq_sum, votes_eq_sum]
  exact sum_eraseKey (fun v => if P v then 1 else 0) h

theorem uint8Inc_of_le {n : Nat} (h : n ≤ 40) : uint8Inc n = n + 1 := by
  rw [uint8Inc]
  omega

theorem Small.recordVote (h : roll.Small) (pl : Nat) (vote : RollVote) : (roll.recordVote pl vote).Small := by
  have hrecorded : (modifyKey pl (fun _ => vote) roll.playerVote).length ≤ 40 := by
    rw [length_modifyKey]
    exact h
  cases vote <;> first | exact hrecorded | exact h

theorem Tallied.recordVote (h : roll.Tallied) (hsmall : roll.Small) {pl : Nat}
    (hfirst : lookupKey pl roll.playerVote = some .notEmitedYet) (vote : RollVote) :
    (roll.recordVote pl vote).Tallied := by
  have hneed := votes_modifyKey hfirst vote (· = .need)
  have hgreed := votes_modifyKey hfirst vote RollVote.isGreed
  have hpass := votes_modifyKey hfirst vote (· = .pass)
  have hrolling := votes_modifyKey hfirst vote (· ≠ .notValid)
  have hn := uint8Inc_of_le (hsmall.votes_le (· = .need))
  have hg := uint8Inc_of_le (hsmall.votes_le RollVote.isGreed)
  have hp := uint8Inc_of_le (hsmall.votes_le (· = .pass))
  rw [← h.need] at hneed hn
  rw [← h.greed] at hgreed hg
  rw [← h.pass] at hpass hp
  rw [← h.rolling] at hrolling
  cases vote with
  | pass => exact ⟨hneed.symm, hgreed.symm, hp.trans hpass.symm, (Nat.add_right_cancel hrolling).symm, h.notWrapped⟩
  | need => exact ⟨hn.trans hneed.symm, hgreed.symm, hpass.symm, (Nat.add_right_cancel hrolling).symm, h.notWrapped⟩
  | greed | disenchant =>
    exact ⟨hneed.symm, hg.trans hgreed.symm, hpass.symm, (Nat.add_right_cancel hrolling).symm, h.notWrapped⟩
  | notEmitedYet | notValid => exact h

theorem Small.removeVote (h : roll.Small) (guid : Nat) : (roll.removeVote guid).Small := by
  rw [Roll.removeVote]
  split
  · exact h
  · exact eraseKey_sublist.length_le.trans h

private theorem uint8Dec_votes {n before after : Nat} {P : Prop} [Decidable P]
    (h : after + (if P then 1 else 0) = before) (hn : n = before) :
    (if P then uint8Dec n else (n, false)) = (after, false) := by
  split at h
  next hP =>
    have hpos : n ≠ 0 := by omega
    have hpred : n - 1 = after := by omega
    rw [if_pos hP, uint8Dec, if_neg hpos, hpred]
  next hP =>
    have hsame : n = after := by omega
    rw [if_neg hP, hsame]

theorem Tallied.removeVote (h : roll.Tallied) (guid : Nat) : (roll.removeVote guid).Tallied := by
  rw [Roll.removeVote]
  split
  · exact h
  next prev hprev =>
    have hneed := votes_eraseKey hprev (· = .need)
    have hgreed := votes_eraseKey hprev RollVote.isGreed
    have hpass := votes_eraseKey hprev (· = .pass)
    have hrolling := votes_eraseKey hprev (· ≠ .notValid)
    simp only [decide_eq_true_eq] at hneed hpass hrolling
    rw [uint8Dec_votes hgreed h.greed, uint8Dec_votes hneed h.need, uint8Dec_votes hpass h.pass,
      uint8Dec_votes hrolling h.rolling]
    refine ⟨rfl, rfl, rfl, rfl, ?_⟩
    show (roll.wrapped || false || false || false || false) = false
    rw [h.notWrapped]
    rfl

theorem first_of_mayRecord {pl : Nat} (h : roll.mayRecord pl) (hvoter : ¬ (lookupKey pl roll.playerVote).isNone) :
    lookupKey pl roll.playerVote = some .notEmitedYet := by
  rw [mayRecord] at h
  split at h
  next hnone =>
    rw [hnone] at hvoter
    exact absurd rfl hvoter
  next hfirst => exact hfirst
  next => exact absurd h Bool.false_ne_true

theorem tallied_new {roll : Roll} {voters : List Nat} (hvoters : voters.length ≤ 40)
    (hvotes : roll.playerVote = voters.map fun pl => (pl, .notEmitedYet))
    (hrolling : roll.totalPlayersRolling = voters.length % 256) (hneed : roll.totalNeed = 0)
    (hgreed : roll.totalGreed = 0) (hpass : roll.totalPass = 0) (hwrapped : roll.wrapped = false) : roll.Tallied := by
  have hcount : ∀ P : RollVote → Bool, roll.votes P = if P .notEmitedYet then voters.length else 0 := by
    intro P
    rw [votes, hvotes, List.countP_map]
    show voters.countP (fun _ => P .notEmitedYet) = _
    cases P .notEmitedYet with
    | true => exact congrFun List.countP_true voters
    | false => exact congrFun List.countP_false voters
  refine ⟨?_, ?_, ?_, ?_, hwrapped⟩
  · rw [hneed, hcount]
    rfl
  · rw [hgreed, hcount]
    rfl
  · rw [hpass, hcount]
    rfl
  · rw [hrolling, hcount, Nat.mod_eq_of_lt (by omega)]
    rfl

end Roll

def GroupLooting.rollsFor (group : GroupLooting) (tables : LootTables) (info : LootItemInfo) : Bool :=
  match group.lootMethod with
  | .groupLoot | .needBeforeGreed =>
    !info.currency && !info.freeforall &&
      (tables.items.prototype info.itemid).any (group.threshold ≤ ·.quality)
  | .freeForAll | .roundRobin | .masterLoot => false

/-- No roll starts with a single voter, and no vote is counted of a player who has voted. -/
def VotesOnce (tables : LootTables) (w : LootWorld) : LootEvent → Prop
  | .fill fill => ∀ group ∈ fill.group, ∀ item ∈ (w.itemsAdded tables fill).loot.items,
      group.rollsFor tables item.info → (group.setting.voters item.info).length ≠ 1
  | .vote pl itemSlot vote canUse _ => w.loot.items = [] ∨
      ∀ roll ∈ w.rollFor itemSlot, roll.allowsVote canUse vote → roll.mayRecord pl
  | _ => True

instance (tables : LootTables) (w : LootWorld) : ∀ e, Decidable (VotesOnce tables w e)
  | .fill _ => inferInstanceAs (Decidable (∀ group ∈ _, ∀ item ∈ _, _))
  | .vote .. => inferInstanceAs (Decidable (_ ∨ _))
  | .clear | .addLooter _ | .release .. | .takeMoney _ | .autostore .. | .masterGive .. |
    .endRoll _ | .removeMember _ | .leaveMap _ | .disband => .isTrue trivial

def LootWorld.Tallied (w : LootWorld) : Prop := ∀ roll ∈ w.rolls, roll.Tallied ∧ roll.Small

theorem RollSetting.length_voters_le (setting : RollSetting) (info : LootItemInfo) :
    (setting.voters info).length ≤ 40 := by
  rw [RollSetting.voters, (setting.order.perm _).length_eq]
  exact (List.length_filter_le _ _).trans setting.members.length_le

namespace LootWorld

variable {tables : LootTables} {w : LootWorld}

theorem Tallied.startLootRoll (h : w.Tallied) (setting : RollSetting) (lootMethod : LootMethod)
    (maxEnchantingSkill itemSlot : Nat) (hvoters : ∀ item, w.loot.items[itemSlot]? = some item →
      (setting.voters item.info).length ≠ 1) :
    (w.startLootRoll tables setting lootMethod maxEnchantingSkill itemSlot).Tallied := by
  rw [LootWorld.startLootRoll]
  split
  · exact h
  next item hitem =>
    split
    · exact h
    have hlength := setting.length_voters_le item.info
    dsimp only
    split
    · exact h
    next pl hone =>
      have hne := hvoters item hitem
      rw [hone] at hne
      exact absurd rfl hne
    next =>
      intro roll hroll
      rcases List.mem_append.mp hroll with hold | hnew
      · exact h roll hold
      · rw [List.mem_singleton.mp hnew]
        refine ⟨Roll.tallied_new hlength rfl rfl rfl rfl rfl rfl, ?_⟩
        show (List.map _ _).length ≤ 40
        rw [List.length_map]
        exact hlength

theorem Tallied.rollForSlots {infos : List LootItemInfo} (group : GroupLooting)
    (hinfos : ∀ info ∈ infos, group.rollsFor tables info → (group.setting.voters info).length ≠ 1)
    (hrolling : group.lootMethod = .groupLoot ∨ group.lootMethod = .needBeforeGreed)
    (slots : List Nat) (h : w.Tallied) (hw : w.loot.items.map (·.info) = infos) :
    (slots.foldl (rollForSlot tables group.setting group.lootMethod group.threshold
      group.maxEnchantingSkill) w).Tallied := by
  induction slots generalizing w with
  | nil => exact h
  | cons itemSlot slots ih =>
    apply ih
    · rw [LootWorld.rollForSlot]
      split
      · exact h
      next item hitem =>
        split
        · exact h
        next hcurrency =>
          split
          · exact h
          next proto hproto =>
            split
            next hquality =>
              apply h.startLootRoll
              intro item' hitem'
              rw [hitem] at hitem'
              cases hitem'
              apply hinfos
              · rw [← hw]
                exact List.mem_map_of_mem (List.mem_of_getElem? hitem)
              · rw [GroupLooting.rollsFor, hproto]
                rcases hrolling with hm | hm <;> rw [hm] <;> simp_all
            next => exact h
    · have hkept := keptByRolling_map_items (·.info) (fun _ => rfl) (fun _ => rfl) infos
      exact hkept.rollForSlot _ _ _ _ hw itemSlot

theorem Tallied.masterLootSlots (threshold : Nat) (slots : List Nat) (h : w.Tallied) :
    (slots.foldl (masterLootSlot tables threshold) w).Tallied := by
  induction slots generalizing w with
  | nil => exact h
  | cons itemSlot slots ih =>
    apply ih
    rw [LootWorld.masterLootSlot]
    split
    · exact h
    split
    · exact h
    split
    · exact h
    split <;> exact h

theorem Tallied.clearLoot (h : w.Tallied) : w.clearLoot.Tallied := by
  intro roll hroll
  obtain ⟨roll₀, hroll₀, rfl⟩ := List.mem_map.mp hroll
  obtain ⟨htallied, hsmall⟩ := h roll₀ hroll₀
  exact ⟨⟨htallied.need, htallied.greed, htallied.pass, htallied.rolling, htallied.notWrapped⟩, hsmall⟩

theorem Tallied.fillLoot (h : w.Tallied) {fill : LootFill} (hok : VotesOnce tables w (.fill fill)) :
    (w.fillLoot tables fill).Tallied := by
  have hfilled : (w.filled tables fill).Tallied := h.clearLoot
  have hinfos := ((w.itemsAdded tables fill).loot.itemsAge_fillPlayers tables fill
    fill.lookers.guids).infos
  rw [LootWorld.fillLoot]
  split
  · exact hfilled
  next group hgroup =>
    have hvoters : ∀ info ∈ (w.itemsAdded tables fill).loot.items.map (·.info),
        group.rollsFor tables info → (group.setting.voters info).length ≠ 1 := by
      intro info hinfo
      obtain ⟨item, hitem, rfl⟩ := List.mem_map.mp hinfo
      exact hok group hgroup item hitem
    have hrolled := fun hm slots => Tallied.rollForSlots group hvoters hm slots hfilled hinfos
    cases hm : group.lootMethod with
    | groupLoot =>
      rw [hm] at hrolled
      exact hrolled (.inl rfl) _
    | needBeforeGreed =>
      rw [hm] at hrolled
      exact hrolled (.inr rfl) _
    | masterLoot => exact Tallied.masterLootSlots _ _ hfilled
    | freeForAll | roundRobin => exact hfilled

theorem Tallied.countRollVote (h : w.Tallied) {pl itemSlot : Nat} {vote : RollVote}
    {canUse : Bool} {luck : RollLuck} (hok : VotesOnce tables w (.vote pl itemSlot vote canUse luck)) :
    (w.countRollVote pl itemSlot vote canUse luck).Tallied := by
  rw [LootWorld.countRollVote]
  split
  · exact h
  next i hi =>
    split
    · exact h
    next roll hroll =>
      split
      · exact h
      next hallowed =>
        split
        · exact h
        next hvoter =>
          split
          · exact h
          next hitems =>
            have hrollFor : w.rollFor itemSlot = some roll := by
              rw [LootWorld.rollFor, hi]
              exact hroll
            obtain ⟨htallied, hsmall⟩ := h roll (List.mem_of_getElem? hroll)
            have hmay := (hok.resolve_left hitems) roll hrollFor (by simpa using hallowed)
            have hfirst := Roll.first_of_mayRecord hmay hvoter
            dsimp only
            split
            · intro roll' hroll'
              exact h roll' (List.mem_of_mem_eraseIdx hroll')
            · intro roll' hroll'
              rcases List.mem_or_eq_of_mem_set hroll' with hold | rfl
              · exact h roll' hold
              · exact ⟨htallied.recordVote hsmall hfirst vote, hsmall.recordVote pl vote⟩

theorem tallied_lootStep {e : LootEvent} (hok : VotesOnce tables w e) (h : w.Tallied) :
    (lootStep tables w e).Tallied := by
  cases e with
  | clear => exact h.clearLoot
  | fill fill => exact h.fillLoot hok
  | addLooter | takeMoney | autostore | masterGive | leaveMap => exact h
  | release kind pl =>
    have hreleased : (w.released kind pl).Tallied := by
      rw [LootWorld.released]
      split
      · exact h.clearLoot
      · exact h
    show (w.doLootRelease kind pl).Tallied
    rw [LootWorld.doLootRelease]
    split <;> exact hreleased
  | vote pl itemSlot vote canUse luck => exact h.countRollVote hok
  | endRoll | disband => exact fun _ hroll => absurd hroll List.not_mem_nil
  | removeMember guid =>
    intro roll hroll
    obtain ⟨roll₀, hroll₀, rfl⟩ := List.mem_map.mp hroll
    obtain ⟨htallied, hsmall⟩ := h roll₀ hroll₀
    exact ⟨htallied.removeVote guid, hsmall.removeVote guid⟩

end LootWorld

/-- In a run of first votes on rolls with several voters the tallies of every roll count its
recorded votes, also after the vote that completes it. -/
theorem rolls_tallied (tables : LootTables) (es : List LootEvent)
    (hok : Guarded (lootStep tables) (VotesOnce tables) .start es) :
    ∀ roll ∈ (run (lootStep tables) .start es).rolls, roll.Tallied ∧
      ∀ pl vote, lookupKey pl roll.playerVote = some .notEmitedYet → (roll.recordVote pl vote).Tallied := by
  have hrun : (run (lootStep tables) .start es).Tallied :=
    run_invariant (fun _ _ => LootWorld.tallied_lootStep) hok
      fun _ hroll => absurd hroll List.not_mem_nil
  intro roll hroll
  obtain ⟨htallied, hsmall⟩ := hrun roll hroll
  exact ⟨htallied, fun pl vote hfirst => htallied.recordVote hsmall hfirst vote⟩

private def clothRoll : LootEvent :=
  .fill <| .everybody [clothDrop] groupOfThree (some (.everybody groupOfThree .groupLoot))

private def clothVote (pl : Nat) (vote : RollVote) : LootEvent :=
  .vote pl 0 vote true (.byGuid fun _ => true)

theorem rolls_tallied_firstVotes : ∃ roll ∈ (run (lootStep clothTables) .start
      [clothRoll, clothVote 1 .need, .removeMember 1, clothVote 2 .pass]).rolls, roll.Tallied ∧
      ∀ pl vote, lookupKey pl roll.playerVote = some .notEmitedYet → (roll.recordVote pl vote).Tallied := by
  have hone : (run (lootStep clothTables) .start
      [clothRoll, clothVote 1 .need, .removeMember 1, clothVote 2 .pass]).rolls.length = 1 := by
    decide +kernel
  obtain ⟨roll, hroll⟩ := List.length_eq_one_iff.mp hone
  have hmem := List.mem_singleton_self roll
  rw [← hroll] at hmem
  exact ⟨roll, hmem, rolls_tallied clothTables _ (by decide +kernel) roll hmem⟩

/-- Who votes need and then greed is counted twice. -/
theorem rolls_tallied_secondVote : ¬ ∀ (tables : LootTables) (es : List LootEvent),
      ∀ roll ∈ (run (lootStep tables) .start es).rolls, roll.Tallied := by
  intro h
  have hcounted : ∃ roll ∈ (run (lootStep clothTables) .start
      [clothRoll, clothVote 1 .need, clothVote 1 .greed]).rolls,
      roll.totalNeed ≠ roll.votes (· = .need) := by decide +kernel
  obtain ⟨roll, hroll, hneed⟩ := hcounted
  exact hneed (h clothTables _ roll hroll).need

end Mangos
