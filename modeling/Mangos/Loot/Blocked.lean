import Mathlib.Data.List.MinMax
import Mangos.Loot.Indices

/-!
# Blocked loot

An item that is rolled for is blocked until the roll is over.
-/

namespace Mangos

open Framework

namespace Roll

variable (roll : Roll) (luck : RollLuck)

def highest (deciding : RollVote → Bool) : Option (Nat × RollVote) :=
  (roll.playerVote.filter fun p => deciding p.2).argmax fun p => (luck.draw p.1).val

def decider : Option (Nat × RollVote) :=
  if 0 < roll.totalNeed then (roll.highest luck (· = .need)).or roll.playerVote.head?
  else roll.highest luck RollVote.isGreed

def Resolves : Prop := roll.allPassed ∨ ∃ p ∈ roll.decider luck, luck.online p.1

instance : Decidable (roll.Resolves luck) :=
  inferInstanceAs (Decidable (_ ∨ ∃ p ∈ _, _))

variable {roll luck}

theorem highestDraw_eq (deciding : RollVote → Bool) (votes : List (Nat × RollVote)) (start : Nat) :
    highestDraw luck deciding votes start =
      match (votes.filter fun p => deciding p.2).argmax fun p => (luck.draw p.1).val with
      | none => (start, 0, .pass)
      | some p => (p.1, (luck.draw p.1).val + 1, p.2) := by
  induction votes using List.reverseRecOn with
  | nil => rfl
  | append_singleton votes p ih =>
    rw [highestDraw] at ih
    rw [highestDraw, List.foldl_append, ih, List.foldl_cons, List.foldl_nil, List.filter_append]
    cases hp : deciding p.2 with
    | false =>
      have hnone : [p].filter (fun p => deciding p.2) = [] := by
        rw [List.filter_singleton, hp]
        rfl
      rw [hnone, List.append_nil]
      simp
    | true =>
      have hone : [p].filter (fun p => deciding p.2) = [p] := by
        rw [List.filter_singleton, hp]
        rfl
      rw [hone, List.argmax_concat]
      cases (votes.filter fun p => deciding p.2).argmax fun p => (luck.draw p.1).val with
      | none => simp
      | some best =>
        by_cases hlt : (luck.draw best.1).val < (luck.draw p.1).val
        · simp [hlt]
        · simp [hlt]

theorem winner_need {first : Nat × RollVote} {rest : List (Nat × RollVote)}
    (hvotes : roll.playerVote = first :: rest) (hneed : 0 < roll.totalNeed) : roll.winner luck =
      some ((highestDraw luck (· = .need) roll.playerVote first.1).1, .need) := by
  rw [winner, hvotes]
  exact if_pos hneed

theorem winner_greed {first : Nat × RollVote} {rest : List (Nat × RollVote)}
    (hvotes : roll.playerVote = first :: rest) (hneed : ¬ 0 < roll.totalNeed)
    (hgreed : 0 < roll.totalGreed) : roll.winner luck =
      some ((highestDraw luck RollVote.isGreed roll.playerVote first.1).1,
        (highestDraw luck RollVote.isGreed roll.playerVote first.1).2.2) := by
  rw [winner, hvotes]
  exact (if_neg hneed).trans (if_pos hgreed)

theorem winner_of_decider (hwanted : ¬ roll.allPassed) {p : Nat × RollVote}
    (hp : p ∈ roll.decider luck) : ∃ vote, roll.winner luck = some (p.1, vote) ∧ vote ≠ .pass := by
  cases hvotes : roll.playerVote with
  | nil =>
    rw [decider, highest, highest, hvotes] at hp
    split at hp <;> cases hp
  | cons first rest =>
    rw [decider] at hp
    split at hp
    next hneed =>
      refine ⟨.need, ?_, nofun⟩
      rw [winner_need hvotes hneed, highestDraw_eq]
      rw [highest, hvotes] at hp
      rw [hvotes]
      cases hhighest : ((first :: rest).filter fun p => decide (p.2 = .need)).argmax fun p =>
          (luck.draw p.1).val with
      | none =>
        rw [hhighest] at hp
        cases hp
        rfl
      | some best =>
        rw [hhighest] at hp
        cases hp
        rfl
    next hneed =>
      have hgreed : 0 < roll.totalGreed := by
        rw [allPassed, Bool.and_eq_true, decide_eq_true_eq, decide_eq_true_eq] at hwanted
        omega
      have hhighest : ((roll.playerVote.filter fun p => p.2.isGreed).argmax fun p =>
          (luck.draw p.1).val) = some p := hp
      refine ⟨p.2, ?_, ?_⟩
      · rw [winner_greed hvotes hneed hgreed, highestDraw_eq, hhighest]
      · intro hpass
        have hmem := List.of_mem_filter (List.argmax_mem hhighest)
        rw [hpass] at hmem
        cases hmem

end Roll

namespace Loot

variable {loot : Loot} {roll : Roll}

theorem items_countDown : loot.countDown.items = loot.items := by
  rw [countDown]
  split <;> rfl

def heldBy (loot : Loot) (roll : Roll) : Bool :=
  roll.linked && (loot.items[roll.itemSlot]?).any fun item =>
    item.isBlocked && !item.isLooted && item.uid = roll.uid

def Released (loot : Loot) (itemSlot : Nat) : Prop :=
  ∀ item : LootItem, loot.items[itemSlot]? = some item → item.isBlocked → item.isLooted

theorem released_takeRolled (found : Nat → Bool) : (loot.takeRolled roll found).Released roll.itemSlot := by
  intro item hitem _
  rw [takeRolled, items_countDown] at hitem
  have htaken : (loot.items.modify roll.itemSlot fun item => { item with isLooted := true })[
      roll.itemSlot]? = some item := hitem
  rw [List.getElem?_modify_eq] at htaken
  obtain ⟨_, -, rfl⟩ := Option.map_eq_some_iff.mp htaken
  rfl

theorem released_unblock (itemSlot : Nat) : (loot.unblock itemSlot).Released itemSlot := by
  intro item hitem hblocked
  have hunblocked : (loot.items.modify itemSlot fun item => { item with isBlocked := false })[
      itemSlot]? = some item := hitem
  rw [List.getElem?_modify_eq] at hunblocked
  obtain ⟨_, -, rfl⟩ := Option.map_eq_some_iff.mp hunblocked
  exact absurd hblocked Bool.false_ne_true

theorem released_countTheRoll {luck : RollLuck} (hlinked : roll.linked)
    (hresolves : roll.Resolves luck) : (loot.countTheRoll luck roll).Released roll.itemSlot := by
  rw [countTheRoll, hlinked]
  by_cases hpassed : roll.allPassed
  · rw [if_neg (by simp), if_pos hpassed]
    split
    next hle =>
      intro item hitem
      have hnone : loot.items[roll.itemSlot]? = none := List.getElem?_eq_none hle
      cases hnone.symm.trans hitem
    next => exact released_unblock roll.itemSlot
  · obtain ⟨p, hp, honline⟩ := hresolves.resolve_left hpassed
    obtain ⟨vote, hwinner, hvote⟩ := Roll.winner_of_decider hpassed hp
    rw [if_neg (by simp), if_neg hpassed, hwinner]
    dsimp only
    rw [honline, if_neg (by simp), if_neg hvote]
    split
    next hnone =>
      intro item hitem
      cases hnone.symm.trans hitem
    next =>
      split
      · exact released_takeRolled luck.found
      split
      · exact released_takeRolled luck.found
      · exact released_unblock roll.itemSlot

end Loot

namespace LootWorld

/-- A blocked item that is still there has a roll that refers to it. -/
def BlockedHeld (w : LootWorld) : Prop :=
  ∀ (i : Nat) (item : LootItem), w.loot.items[i]? = some item → item.isBlocked → ¬ item.isLooted →
    ∃ roll ∈ w.rolls, roll.linked ∧ roll.itemSlot = i ∧ roll.uid = item.uid

def ReleaseKeepsBlocked (w : LootWorld) (kind : ReleaseKind) (pl : Nat) : Prop :=
  (w.released kind pl).loot.isLooted ∨ (w.released kind pl).loot.playersLooting ≠ [] ∨
    ∀ p ∈ (w.released kind pl).loot.items.zipIdx, p.1.isBlocked → ¬ p.1.isLooted →
      UntakenUpTo (w.released kind pl).loot.items p.2

instance (w : LootWorld) (kind : ReleaseKind) (pl : Nat) :
    Decidable (w.ReleaseKeepsBlocked kind pl) :=
  inferInstanceAs (Decidable (_ ∨ _ ∨ ∀ p ∈ _, _ → _ → _))

variable {tables : LootTables} {w : LootWorld}

theorem BlockedHeld.ages (h : w.BlockedHeld) {loot' : Loot}
    (hages : ItemsAge w.loot.items loot'.items) : { w with loot := loot' }.BlockedHeld := by
  intro i item' hitem' hblocked hlooted
  obtain ⟨item, hitem, hage⟩ := hages.item i item' hitem'
  obtain ⟨roll, hroll, hlinked, hslot, huid⟩ :=
    h i item hitem (hage.blocked hblocked) fun hl => hlooted (hage.looted hl)
  exact ⟨roll, hroll, hlinked, hslot, huid.trans hage.uid.symm⟩

theorem BlockedHeld.replace (h : w.BlockedHeld) {rolls' : List Roll}
    (hrolls : ∀ roll ∈ w.rolls, ∃ roll' ∈ rolls', roll.Same roll') : { w with rolls := rolls' }.BlockedHeld := by
  intro i item hitem hblocked hlooted
  obtain ⟨roll, hroll, hlinked, hslot, huid⟩ := h i item hitem hblocked hlooted
  obtain ⟨roll', hroll', hsame⟩ := hrolls roll hroll
  exact ⟨roll', hroll', hsame.linked.trans hlinked, hsame.itemSlot.trans hslot, hsame.uid.trans huid⟩

theorem blockedHeld_of_unblocked (h : ∀ item ∈ w.loot.items, item.isBlocked = false) : w.BlockedHeld := by
  intro i item hitem hblocked
  rw [h item (List.mem_of_getElem? hitem)] at hblocked
  exact absurd hblocked Bool.false_ne_true

theorem unblocked_addItem (loot : Loot) (h : ∀ item ∈ loot.items, item.isBlocked = false)
    (drop : LootDrop) : ∀ item ∈ (loot.addItem tables drop).items, item.isBlocked = false := by
  have hadded : ∀ new : LootItem, new.isBlocked = false →
      ∀ item ∈ loot.items ++ [new], item.isBlocked = false := by
    intro new hnew item hitem
    rcases List.mem_append.mp hitem with hold | hlast
    · exact h item hold
    · rw [List.mem_singleton.mp hlast]
      exact hnew
  rw [Loot.addItem]
  dsimp only
  split
  · split <;> exact h
  · split
    · split
      · exact hadded _ rfl
      · exact hadded _ rfl
    · exact h

theorem blockedHeld_filled (fill : LootFill) : (w.filled tables fill).BlockedHeld := by
  have hadded : ∀ item ∈ (fill.drops.foldl (Loot.addItem tables) w.clearLoot.loot).items,
      item.isBlocked = false := by
    apply List.foldlRecOn (motive := fun loot : Loot =>
      ∀ item ∈ loot.items, item.isBlocked = false)
    · exact fun _ hitem => absurd hitem List.not_mem_nil
    · exact fun loot h drop _ => unblocked_addItem loot h drop
  have hpopped : (w.itemsAdded tables fill).BlockedHeld :=
    blockedHeld_of_unblocked fun item hitem => hadded item ((fill.pop.mem).mp hitem)
  exact hpopped.ages (Loot.itemsAge_fillPlayers _ tables fill fill.lookers.guids)

theorem keptByRolling_blockedHeld : KeptByRolling BlockedHeld where
  underthreshold w itemSlot h := h.ages (.modify LootItem.ages_underthreshold w.loot.items itemSlot)
  roll w item roll _ _ _ h :=
    h.replace fun roll' hroll' => ⟨roll', List.mem_append_left _ hroll', rfl, rfl, rfl⟩
  blockingRoll w item roll hitem huid hlinked h := by
    intro i item' hitem' hblocked hlooted
    have hmodified : (w.loot.items.modify roll.itemSlot fun item =>
        { item with isBlocked := true })[i]? = some item' := hitem'
    rw [List.getElem?_modify] at hmodified
    obtain ⟨item₀, hitem₀, hsame⟩ := Option.map_eq_some_iff.mp hmodified
    by_cases hi : roll.itemSlot = i
    · refine ⟨roll, List.mem_append_right _ (List.mem_singleton_self roll), hlinked, hi, ?_⟩
      rw [if_pos hi] at hsame
      rw [← hi, hitem] at hitem₀
      cases hitem₀
      rw [huid, ← hsame]
    · rw [if_neg hi] at hsame
      cases hsame
      obtain ⟨roll', hroll', hheld⟩ := h i item' hitem₀ hblocked hlooted
      exact ⟨roll', List.mem_append_left _ hroll', hheld⟩

theorem getElem?_of_filter {α : Type*} {p : α → Bool} {l : List α} {j : Nat} {a : α} (h : (l.filter p)[j]? = some a) :
    ∃ i : Nat, l[i]? = some a ∧ p a ∧ ((∀ b ∈ l.take (i + 1), p b) → i = j) := by
  induction l generalizing j with
  | nil => cases h
  | cons b l ih =>
    by_cases hb : p b
    · rw [List.filter_cons_of_pos hb] at h
      cases j with
      | zero =>
        cases h
        exact ⟨0, rfl, hb, fun _ => rfl⟩
      | succ j =>
        obtain ⟨i, hi, ha, hkept⟩ := ih h
        refine ⟨i + 1, hi, ha, fun hall => congrArg (· + 1) (hkept fun c hc => hall c ?_)⟩
        rw [List.take_succ_cons]
        exact List.mem_cons_of_mem b hc
    · rw [List.filter_cons_of_neg hb] at h
      obtain ⟨i, hi, ha, -⟩ := ih h
      refine ⟨i + 1, hi, ha, fun hall => absurd (hall b ?_) hb⟩
      rw [List.take_succ_cons]
      exact List.mem_cons_self

theorem BlockedHeld.doLootRelease (h : w.BlockedHeld) {kind : ReleaseKind} {pl : Nat}
    (hok : w.ReleaseKeepsBlocked kind pl) : (w.doLootRelease kind pl).BlockedHeld := by
  have hreleased : (w.released kind pl).BlockedHeld := by
    rw [LootWorld.released]
    split
    · exact blockedHeld_of_unblocked fun _ hitem => absurd hitem List.not_mem_nil
    · exact h
  rw [LootWorld.doLootRelease]
  split
  · exact hreleased
  next hlooted =>
    rw [Loot.fillVisualLootIfPossible]
    split
    · exact hreleased
    next hlooking =>
      have huntaken := (hok.resolve_left hlooted).resolve_left hlooking
      intro j item hitem hblocked hitemLooted
      obtain ⟨i, hi, -, hkept⟩ := getElem?_of_filter hitem
      obtain ⟨roll, hroll, hlinked, hslot, huid⟩ := hreleased i item hi hblocked hitemLooted
      have hmem := List.mk_mem_zipIdx_iff_getElem?.mpr hi
      have hij : i = j := by
        apply hkept
        intro item' hitem'
        rw [huntaken _ hmem hblocked hitemLooted item' hitem']
        rfl
      exact ⟨roll, hroll, hlinked, hslot.trans hij, huid⟩

end LootWorld

/-- A roll whose item is blocked ends by being counted, and then resolves; no compaction moves a
blocked item. -/
def RollsResolve (w : LootWorld) : LootEvent → Prop
  | .release kind pl => w.ReleaseKeepsBlocked kind pl
  | .vote pl itemSlot vote canUse luck => ∀ roll ∈ w.rollFor itemSlot,
      roll.allowsVote canUse vote → (lookupKey pl roll.playerVote).isSome →
      (roll.recordVote pl vote).isComplete → w.loot.heldBy roll → (roll.recordVote pl vote).Resolves luck
  | .endRoll luck => ∀ roll ∈ w.rolls, w.loot.heldBy roll → roll.Resolves (luck roll)
  | .disband => ∀ roll ∈ w.rolls, ¬ w.loot.heldBy roll
  | _ => True

instance (w : LootWorld) : ∀ e, Decidable (RollsResolve w e)
  | .release .. => inferInstanceAs (Decidable (LootWorld.ReleaseKeepsBlocked ..))
  | .vote .. => inferInstanceAs (Decidable (∀ roll ∈ _, _ → _ → _ → _ → _))
  | .endRoll _ => inferInstanceAs (Decidable (∀ roll ∈ w.rolls, _ → _))
  | .disband => inferInstanceAs (Decidable (∀ roll ∈ w.rolls, ¬ _))
  | .clear | .fill _ | .addLooter _ | .takeMoney _ | .autostore .. | .masterGive .. |
    .removeMember _ | .leaveMap _ => .isTrue trivial

theorem Loot.Released.ages {loot loot' : Loot} {itemSlot : Nat} (h : loot.Released itemSlot)
    (hages : loot.Ages loot') : loot'.Released itemSlot := by
  intro item' hitem' hblocked
  obtain ⟨item, hitem, hage⟩ := hages.items.item itemSlot item' hitem'
  exact hage.looted (h item hitem (hage.blocked hblocked))

namespace LootWorld

variable {tables : LootTables} {w : LootWorld}

theorem heldBy_of {i : Nat} {item : LootItem} {roll : Roll} (hitem : w.loot.items[i]? = some item)
    (hblocked : item.isBlocked) (hlooted : ¬ item.isLooted) (hlinked : roll.linked)
    (hslot : roll.itemSlot = i) (huid : roll.uid = item.uid) : w.loot.heldBy roll := by
  rw [Loot.heldBy, hlinked, hslot, hitem, Option.any_some, hblocked, huid]
  simp [hlooted]

theorem BlockedHeld.endRoll (h : w.BlockedHeld) {luck : Roll → RollLuck}
    (hok : RollsResolve w (.endRoll luck)) : (w.endRoll luck).BlockedHeld := by
  intro i item' hitem' hblocked' hlooted'
  have hcount := fun loot roll => Loot.ages_countTheRoll loot (luck roll) roll
  obtain ⟨item, hitem, hage⟩ := (Loot.Ages.foldl hcount w.rolls w.loot).items.item i item' hitem'
  have hblocked := hage.blocked hblocked'
  have hlooted : ¬ item.isLooted := fun hl => hlooted' (hage.looted hl)
  obtain ⟨roll, hroll, hlinked, hslot, huid⟩ := h i item hitem hblocked hlooted
  have hresolves := hok roll hroll (heldBy_of hitem hblocked hlooted hlinked hslot huid)
  obtain ⟨before, after, hrolls⟩ := List.append_of_mem hroll
  have hreleased : (w.endRoll luck).loot.Released roll.itemSlot := by
    show (w.rolls.foldl (fun loot roll => loot.countTheRoll (luck roll) roll) w.loot).Released _
    rw [hrolls, List.foldl_append, List.foldl_cons]
    exact (Loot.released_countTheRoll hlinked hresolves).ages (Loot.Ages.foldl hcount after _)
  rw [hslot] at hreleased
  exact absurd (hreleased item' hitem' hblocked') hlooted'

theorem BlockedHeld.countRollVote (h : w.BlockedHeld) {pl itemSlot : Nat} {vote : RollVote}
    {canUse : Bool} {luck : RollLuck} (hok : RollsResolve w (.vote pl itemSlot vote canUse luck)) :
    (w.countRollVote pl itemSlot vote canUse luck).BlockedHeld := by
  rw [LootWorld.countRollVote]
  split
  · exact h
  next i hi =>
    split
    · exact h
    next roll hroll =>
      split
      · exact h
      next hallowed =>
        split
        · exact h
        next hvoter =>
          split
          · exact h
          have hrollFor : w.rollFor itemSlot = some roll := by
            rw [LootWorld.rollFor, hi]
            exact hroll
          have hsame := roll.recordVote_same pl vote
          dsimp only
          split
          next hcomplete =>
            intro j item' hitem' hblocked' hlooted'
            have hages := w.loot.ages_countTheRoll luck (roll.recordVote pl vote)
            obtain ⟨item, hitem, hage⟩ := hages.items.item j item' hitem'
            have hblocked := hage.blocked hblocked'
            have hlooted : ¬ item.isLooted := fun hl => hlooted' (hage.looted hl)
            obtain ⟨roll', hroll', hlinked, hslot, huid⟩ := h j item hitem hblocked hlooted
            obtain ⟨k, hk⟩ := List.getElem?_of_mem hroll'
            by_cases hki : k = i
            · rw [hki, hroll] at hk
              cases hk
              have hresolves := hok roll hrollFor (by simpa using hallowed)
                (Option.isSome_iff_ne_none.mpr (by simpa using hvoter)) hcomplete
                (heldBy_of hitem hblocked hlooted hlinked hslot huid)
              have hreleased := @Loot.released_countTheRoll w.loot _ _
                (hsame.linked.trans hlinked) hresolves
              rw [hsame.itemSlot, hslot] at hreleased
              exact absurd (hreleased item' hitem' hblocked') hlooted'
            · have hleft : roll' ∈ w.rolls.eraseIdx i :=
                List.mem_eraseIdx_iff_getElem?.mpr ⟨k, hki, hk⟩
              exact ⟨roll', hleft, hlinked, hslot, huid.trans hage.uid.symm⟩
          next =>
            apply h.replace
            intro roll' hroll'
            obtain ⟨k, hk⟩ := List.getElem?_of_mem hroll'
            by_cases hki : i = k
            · rw [← hki, hroll] at hk
              cases hk
              have hlt := (List.getElem?_eq_some_iff.mp hroll).1
              exact ⟨_, List.mem_set hlt _, hsame⟩
            · have hkept : (w.rolls.set i (roll.recordVote pl vote))[k]? = some roll' :=
                (List.getElem?_set_ne hki).trans hk
              exact ⟨roll', List.mem_of_getElem? hkept, rfl, rfl, rfl⟩

theorem blockedHeld_lootStep {e : LootEvent} (hok : RollsResolve w e) (h : w.BlockedHeld) :
    (lootStep tables w e).BlockedHeld := by
  cases e with
  | clear => exact blockedHeld_of_unblocked fun _ hitem => absurd hitem List.not_mem_nil
  | fill fill => exact keptByRolling_blockedHeld.fillLoot (blockedHeld_filled fill)
  | addLooter | takeMoney | leaveMap => exact h
  | release kind pl => exact h.doLootRelease hok
  | autostore pl lootSlot room found => exact h.ages (w.loot.ages_storeLootItem _ _ _ _).items
  | masterGive target slotid room found =>
    exact h.ages (w.loot.ages_handleLootMasterGive _ _ _ _).items
  | vote pl itemSlot vote canUse luck => exact h.countRollVote hok
  | endRoll luck => exact h.endRoll hok
  | removeMember guid =>
    exact h.replace fun roll hroll =>
      ⟨_, List.mem_map_of_mem hroll, roll.removeVote_same guid⟩
  | disband =>
    intro i item hitem hblocked hlooted
    obtain ⟨roll, hroll, hlinked, hslot, huid⟩ := h i item hitem hblocked hlooted
    exact absurd (heldBy_of hitem hblocked hlooted hlinked hslot huid) (hok roll hroll)

end LootWorld

/-- In a run in which the rolls of blocked items all resolve, a blocked item has its roll until it is
taken or released. -/
theorem blockedLoot_held (tables : LootTables) (es : List LootEvent)
    (hok : Guarded (lootStep tables) RollsResolve .start es) : (run (lootStep tables) .start es).BlockedHeld := by
  apply run_invariant (fun _ _ => LootWorld.blockedHeld_lootStep) hok
  exact LootWorld.blockedHeld_of_unblocked fun _ hitem => absurd hitem List.not_mem_nil

private def needFrom (online : Nat → Bool) : List LootEvent :=
  .fill (.everybody [clothDrop] groupOfThree (some (.everybody groupOfThree .groupLoot))) ::
    [1, 2, 3].map fun pl => .vote pl 0 .need true (.byGuid online)

theorem blockedLoot_held_winnerOnline : (run (lootStep clothTables) .start (needFrom fun pl => pl = 3)).BlockedHeld :=
  blockedLoot_held clothTables _ (by decide +kernel)

/-- The player who wins the roll is gone when it is counted. -/
theorem blockedLoot_winnerOffline : ¬ ∀ (tables : LootTables) (es : List LootEvent),
      (run (lootStep tables) .start es).BlockedHeld := by
  intro h
  have hleft : (run (lootStep clothTables) .start (needFrom fun pl => pl ≠ 3)).rolls = [] ∧
      ((run (lootStep clothTables) .start (needFrom fun pl => pl ≠ 3)).loot.items[0]?).any
        fun item => item.isBlocked && !item.isLooted := by decide +kernel
  obtain ⟨hnone, hblocked⟩ := hleft
  obtain ⟨item, hitem, hflags⟩ := (Option.any_eq_true _ _).mp hblocked
  rw [Bool.and_eq_true] at hflags
  obtain ⟨roll, hroll, -⟩ := h clothTables (needFrom fun pl => pl ≠ 3) 0 item hitem hflags.1
    (by simpa using hflags.2)
  rw [hnone] at hroll
  exact absurd hroll List.not_mem_nil

end Mangos
