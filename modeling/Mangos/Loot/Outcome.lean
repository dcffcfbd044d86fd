import Mangos.Loot.Blocked
import Mangos.Loot.Tallies

/-!
# Who wins a roll

The item of a roll goes to whoever drew highest among the voters that a roll of its counters' kind is
decided by.
-/

namespace Mangos

open Framework

/-- A vote as it reaches `CountRollVote`; `canUse` is whether the player can use the item. -/
structure Ballot where
  pl : Nat
  vote : RollVote
  canUse : Bool
  deriving DecidableEq, Repr

namespace Roll

variable (roll : Roll)

def counts (b : Ballot) : Bool :=
  roll.allowsVote b.canUse b.vote && (lookupKey b.pl roll.playerVote).isSome

def castBallot (roll : Roll) (b : Ballot) : Roll :=
  if roll.counts b then roll.recordVote b.pl b.vote else roll

def lastVote (ballots : List Ballot) (pl : Nat) : Option RollVote :=
  ((ballots.filter roll.counts).reverse.find? (·.pl = pl)).map (·.vote)

/-- Somebody has cast a vote for need, whatever they have cast since. -/
def NeedWasCast (ballots : List Ballot) : Prop :=
  ∃ b ∈ ballots, roll.counts b = true ∧ b.vote = .need

/-- The votes come before the roll is complete: the first one that completes it is the last. -/
def Open (ballots : List Ballot) : Prop :=
  Guarded castBallot (fun r _ => r.isComplete = false) roll ballots

instance (ballots : List Ballot) : Decidable (roll.Open ballots) :=
  inferInstanceAs (Decidable (Guarded _ _ _ _))

def rolledNumbers (luck : RollLuck) : List (Nat × Nat) :=
  (roll.playerVote.filter fun p =>
    if 0 < roll.totalNeed then decide (p.2 = .need) else decide (0 < roll.totalGreed) && p.2.isGreed).map
      fun p => (p.1, (luck.draw p.1).val + 1)

/-- A roll as `StartLootRoll` makes it. -/
structure Fresh : Prop where
  linked : roll.linked = true
  need : roll.totalNeed = 0
  greed : roll.totalGreed = 0
  pass : roll.totalPass = 0
  rolling : roll.totalPlayersRolling = roll.playerVote.length
  small : roll.Small
  distinct : (roll.playerVote.map (·.1)).Nodup
  unvoted : (∀ p ∈ roll.playerVote, p.2 = .notEmitedYet) ∨ ∃ pl, roll.playerVote = [(pl, .need)]
  mask : roll.commonVoteMask ≤ rollVoteMaskAll

end Roll

def Wins (last : Nat → Option RollVote) (vote : RollVote) : Prop :=
  ((∃ q, last q = some .need) ∧ vote = .need) ∨ ((¬ ∃ q, last q = some .need) ∧ vote.isGreed = true)

/-- The player's last vote may win, and their number is the highest of those with such a vote. -/
structure Entitled (last : Nat → Option RollVote) (rolled : List (Nat × Nat)) (pl : Nat) : Prop where
  vote : ∃ vote, last pl = some vote ∧ Wins last vote
  highest : ∃ n, (pl, n) ∈ rolled ∧ ∀ q vote, last q = some vote → Wins last vote → ∃ m, (q, m) ∈ rolled ∧ m ≤ n

def Loot.Receives (loot loot' : Loot) (pl : Nat) : Prop :=
  ∃ entry, loot'.stored = entry :: loot.stored ∧ entry.player = pl

namespace Roll

/-- However the draws are and whoever is online and has room, who gets the item is entitled to it. -/
def Fair (roll : Roll) (ballots : List Ballot) : Prop :=
  ∀ (loot : Loot) (luck : RollLuck) (pl : Nat),
    loot.Receives (loot.countTheRoll luck (run castBallot roll ballots)) pl →
      Entitled (roll.lastVote ballots) ((run castBallot roll ballots).rolledNumbers luck) pl

variable {roll : Roll} {b : Ballot} {ballots : List Ballot} {luck : RollLuck}

theorem sent_of_counts (hmask : roll.commonVoteMask ≤ rollVoteMaskAll) (h : roll.counts b = true) :
    b.vote ≠ .notEmitedYet ∧ b.vote ≠ .notValid := by
  have hlt : ∀ i, 4 ≤ i → roll.commonVoteMask.testBit i = false := by
    intro i hi
    apply Nat.testBit_lt_two_pow
    calc roll.commonVoteMask ≤ 15 := hmask
      _ < 2 ^ 4 := by decide
      _ ≤ 2 ^ i := Nat.pow_le_pow_right (by decide) hi
  simp only [counts, allowsVote, Bool.and_eq_true] at h
  constructor
  · intro hvote
    rw [hvote, show RollVote.bit .notEmitedYet = 4 from rfl, hlt 4 (by decide)] at h
    exact absurd h.1.1 Bool.false_ne_true
  · intro hvote
    rw [hvote, show RollVote.bit .notValid = 5 from rfl, hlt 5 (by decide)] at h
    exact absurd h.1.1 Bool.false_ne_true

theorem playerVote_recordVote (hsent : b.vote ≠ .notEmitedYet ∧ b.vote ≠ .notValid) :
    (roll.recordVote b.pl b.vote).playerVote = modifyKey b.pl (fun _ => b.vote) roll.playerVote := by
  cases hvote : b.vote with
  | pass => rfl
  | need => rfl
  | greed => rfl
  | disenchant => rfl
  | notEmitedYet => exact absurd hvote hsent.1
  | notValid => exact absurd hvote hsent.2

theorem castBallot_same (roll : Roll) (b : Ballot) :
    (roll.castBallot b).linked = roll.linked ∧ (roll.castBallot b).lootMethod = roll.lootMethod ∧
      (roll.castBallot b).commonVoteMask = roll.commonVoteMask ∧ (roll.castBallot b).itemSlot = roll.itemSlot ∧
      (roll.castBallot b).totalPlayersRolling = roll.totalPlayersRolling ∧
      (roll.castBallot b).playerVote.map (·.1) = roll.playerVote.map (·.1) := by
  unfold castBallot recordVote
  split
  · cases b.vote with
    | pass => exact ⟨rfl, rfl, rfl, rfl, rfl, keys_modifyKey⟩
    | need => exact ⟨rfl, rfl, rfl, rfl, rfl, keys_modifyKey⟩
    | greed => exact ⟨rfl, rfl, rfl, rfl, rfl, keys_modifyKey⟩
    | disenchant => exact ⟨rfl, rfl, rfl, rfl, rfl, keys_modifyKey⟩
    | notEmitedYet => exact ⟨rfl, rfl, rfl, rfl, rfl, rfl⟩
    | notValid => exact ⟨rfl, rfl, rfl, rfl, rfl, rfl⟩
  · exact ⟨rfl, rfl, rfl, rfl, rfl, rfl⟩

theorem counts_castBallot (roll : Roll) (b other : Ballot) : (roll.castBallot b).counts other = roll.counts other := by
  obtain ⟨-, hmethod, hmask, -, -, hkeys⟩ := castBallot_same roll b
  have hvoter : (lookupKey other.pl (roll.castBallot b).playerVote).isSome =
      (lookupKey other.pl roll.playerVote).isSome := by
    rw [Bool.eq_iff_iff, lookupKey_isSome_iff, lookupKey_isSome_iff, hkeys]
  rw [counts, counts, allowsVote, allowsVote, hmethod, hmask, hvoter]

theorem lookupKey_castBallot (hmask : roll.commonVoteMask ≤ rollVoteMaskAll) (pl : Nat) :
    lookupKey pl (roll.castBallot b).playerVote =
      if roll.counts b = true ∧ b.pl = pl then some b.vote else lookupKey pl roll.playerVote := by
  by_cases hcounts : roll.counts b = true
  · rw [castBallot, if_pos hcounts, playerVote_recordVote (sent_of_counts hmask hcounts)]
    by_cases hpl : b.pl = pl
    · rw [if_pos ⟨hcounts, hpl⟩, ← hpl, lookupKey_modifyKey_self]
      simp only [counts, Bool.and_eq_true] at hcounts
      obtain ⟨vote, hvote⟩ := Option.isSome_iff_exists.mp hcounts.2
      rw [hvote, Option.map_some]
    · rw [if_neg fun h => hpl h.2, lookupKey_modifyKey_of_ne (Ne.symm hpl)]
  · rw [castBallot, if_neg hcounts, if_neg fun h => hcounts h.1]

theorem totals_lt (hopen : roll.isComplete = false) (hrolling : roll.totalPlayersRolling ≤ 255) :
    roll.totalNeed < 255 ∧ roll.totalGreed < 255 := by
  simp only [isComplete, decide_eq_false_iff_not] at hopen
  omega

theorem totalNeed_castBallot (hneed : roll.totalNeed < 255) :
    0 < (roll.castBallot b).totalNeed ↔ 0 < roll.totalNeed ∨ (roll.counts b = true ∧ b.vote = .need) := by
  unfold castBallot recordVote
  by_cases hcounts : roll.counts b = true
  · simp only [hcounts, if_true, true_and]
    cases b.vote <;> simp [uint8Inc]
    omega
  · simp [hcounts]

theorem lastVote_cons (pl : Nat) : roll.lastVote (b :: ballots) pl =
    (roll.lastVote ballots pl).or (if roll.counts b = true ∧ b.pl = pl then some b.vote else none) := by
  unfold lastVote
  by_cases hcounts : roll.counts b = true
  · rw [List.filter_cons_of_pos hcounts, List.reverse_cons, List.find?_append, Option.map_or]
    by_cases hpl : b.pl = pl
    · simp [hcounts, hpl]
    · simp [hpl]
  · rw [List.filter_cons_of_neg hcounts]
    simp [hcounts]

theorem lastVote_castBallot (roll : Roll) (b : Ballot) (ballots : List Ballot) :
    (roll.castBallot b).lastVote ballots = roll.lastVote ballots := by
  funext pl
  have hsame : (roll.castBallot b).counts = roll.counts := funext (counts_castBallot roll b)
  rw [lastVote, hsame, lastVote]

theorem needWasCast_castBallot (roll : Roll) (b : Ballot) (ballots : List Ballot) :
    (roll.castBallot b).NeedWasCast ballots ↔ roll.NeedWasCast ballots := by
  simp only [NeedWasCast, counts_castBallot]

theorem needWasCast_cons : roll.NeedWasCast (b :: ballots) ↔
    (roll.counts b = true ∧ b.vote = .need) ∨ roll.NeedWasCast ballots := by
  simp [NeedWasCast]

theorem lookupKey_run (hmask : roll.commonVoteMask ≤ rollVoteMaskAll) (pl : Nat) :
    lookupKey pl (run castBallot roll ballots).playerVote =
      (roll.lastVote ballots pl).or (lookupKey pl roll.playerVote) := by
  induction ballots generalizing roll with
  | nil => rfl
  | cons b ballots ih =>
    obtain ⟨-, -, hsame, -⟩ := castBallot_same roll b
    rw [run_cons, ih (by rw [hsame]; exact hmask), lastVote_castBallot, lookupKey_castBallot hmask,
      lastVote_cons, Option.or_assoc]
    congr 1
    split_ifs
    · rfl
    · rfl

theorem run_same (roll : Roll) (ballots : List Ballot) : (run castBallot roll ballots).linked = roll.linked ∧
      (run castBallot roll ballots).itemSlot = roll.itemSlot ∧
      (run castBallot roll ballots).playerVote.map (·.1) = roll.playerVote.map (·.1) := by
  induction ballots generalizing roll with
  | nil => exact ⟨rfl, rfl, rfl⟩
  | cons b ballots ih =>
    obtain ⟨hlinked, -, -, hslot, -, hkeys⟩ := castBallot_same roll b
    obtain ⟨ihlinked, ihslot, ihkeys⟩ := ih (roll.castBallot b)
    exact ⟨ihlinked.trans hlinked, ihslot.trans hslot, ihkeys.trans hkeys⟩

theorem totalNeed_run (hrolling : roll.totalPlayersRolling ≤ 255) (hopen : roll.Open ballots) :
    0 < (run castBallot roll ballots).totalNeed ↔ 0 < roll.totalNeed ∨ roll.NeedWasCast ballots := by
  induction ballots generalizing roll with
  | nil => simp [NeedWasCast]
  | cons b ballots ih =>
    obtain ⟨hhere, hrest⟩ := hopen
    obtain ⟨-, -, -, -, hsame, -⟩ := castBallot_same roll b
    rw [run_cons, ih (by rw [hsame]; exact hrolling) hrest,
      totalNeed_castBallot (totals_lt hhere hrolling).1, needWasCast_castBallot, needWasCast_cons, or_assoc]

theorem exists_lastVote (h : b ∈ ballots) (hcounts : roll.counts b = true) :
    ∃ vote, roll.lastVote ballots b.pl = some vote := by
  rw [← Option.isSome_iff_exists, lastVote, Option.isSome_map, List.find?_isSome]
  exact ⟨b, List.mem_reverse.mpr (List.mem_filter.mpr ⟨h, hcounts⟩), by simp⟩

theorem counts_of_lastVote {pl : Nat} {vote : RollVote} (h : roll.lastVote ballots pl = some vote) :
    ∃ b ∈ ballots, roll.counts b = true ∧ b.pl = pl ∧ b.vote = vote := by
  obtain ⟨b, hfind, rfl⟩ := Option.map_eq_some_iff.mp h
  have hmem := List.mem_filter.mp (List.mem_reverse.mp (List.mem_of_find?_eq_some hfind))
  exact ⟨b, hmem.1, hmem.2, by simpa using List.find?_some hfind, rfl⟩

namespace Fresh

variable (h : roll.Fresh)

include h

theorem rolling_le : roll.totalPlayersRolling ≤ 255 := by
  rw [h.rolling]
  exact h.small.trans (by decide)

theorem entry_of_lastVote {pl : Nat} {vote : RollVote} (hlast : roll.lastVote ballots pl = some vote) :
    (pl, vote) ∈ (run castBallot roll ballots).playerVote := by
  apply lookupKey_mem
  rw [lookupKey_run h.mask, hlast, Option.some_or]

theorem lookupKey_of_mem {p : Nat × RollVote} (hp : p ∈ (run castBallot roll ballots).playerVote) :
    (roll.lastVote ballots p.1).or (lookupKey p.1 roll.playerVote) = some p.2 := by
  rw [← lookupKey_run h.mask]
  apply Framework.lookupKey_of_mem _ hp
  rw [(run_same roll ballots).2.2]
  exact h.distinct

theorem lastVote_of_greed {p : Nat × RollVote} (hp : p ∈ (run castBallot roll ballots).playerVote)
    (hgreed : p.2.isGreed = true) : roll.lastVote ballots p.1 = some p.2 := by
  have hlookup := h.lookupKey_of_mem hp
  cases hlast : roll.lastVote ballots p.1 with
  | some vote => rwa [hlast, Option.some_or] at hlookup
  | none =>
    rw [hlast, Option.none_or] at hlookup
    have hmem := lookupKey_mem hlookup
    rcases h.unvoted with hall | ⟨pl, hone⟩
    · rw [show p.2 = .notEmitedYet from hall _ hmem] at hgreed
      cases hgreed
    · rw [hone, List.mem_singleton] at hmem
      rw [show p.2 = .need from congrArg Prod.snd hmem] at hgreed
      cases hgreed

theorem lastVote_of_need (hcast : roll.NeedWasCast ballots) {p : Nat × RollVote}
    (hp : p ∈ (run castBallot roll ballots).playerVote) (hneed : p.2 = .need) :
    roll.lastVote ballots p.1 = some .need := by
  have hlookup := h.lookupKey_of_mem hp
  rw [hneed] at hlookup
  cases hlast : roll.lastVote ballots p.1 with
  | some vote => rwa [hlast, Option.some_or] at hlookup
  | none =>
    rw [hlast, Option.none_or] at hlookup
    have hmem := lookupKey_mem hlookup
    rcases h.unvoted with hall | ⟨pl, hone⟩
    · cases hall _ hmem
    · obtain ⟨b, hb, hcounts, -⟩ := hcast
      have hvoter : b.pl = p.1 := by
        have hkey := (Bool.and_eq_true_iff.mp hcounts).2
        rw [lookupKey_isSome_iff, hone] at hkey
        rw [hone, List.mem_singleton] at hmem
        rw [congrArg Prod.fst hmem]
        simpa using hkey
      obtain ⟨vote, hvote⟩ := exists_lastVote hb hcounts
      rw [hvoter, hlast] at hvote
      cases hvote

end Fresh

theorem highestDraw_spec {deciding : RollVote → Bool} {votes : List (Nat × RollVote)} {start : Nat} :
    (highestDraw luck deciding votes start = (start, 0, .pass) ∧ ∀ p ∈ votes, deciding p.2 = false) ∨
      ∃ p ∈ votes, deciding p.2 = true ∧ highestDraw luck deciding votes start = (p.1, (luck.draw p.1).val + 1, p.2) ∧
          ∀ q ∈ votes, deciding q.2 = true → (luck.draw q.1).val ≤ (luck.draw p.1).val := by
  rw [highestDraw_eq]
  cases hmax : (votes.filter fun p => deciding p.2).argmax fun p => (luck.draw p.1).val with
  | none =>
    have hempty := List.argmax_eq_none.mp hmax
    exact .inl ⟨rfl, fun p hp => by simpa using List.filter_eq_nil_iff.mp hempty p hp⟩
  | some p =>
    have hp := List.mem_filter.mp (List.argmax_mem hmax)
    exact .inr ⟨p, hp.1, hp.2, rfl, fun q hq hdeciding =>
      List.le_of_mem_argmax (f := fun p : Nat × RollVote => (luck.draw p.1).val)
        (List.mem_filter.mpr ⟨hq, hdeciding⟩) hmax⟩

theorem winner_of_receives {loot : Loot} {pl : Nat} (h : loot.Receives (loot.countTheRoll luck roll) pl) :
    ∃ vote, roll.winner luck = some (pl, vote) ∧ vote ≠ .pass := by
  obtain ⟨entry, hstored, hpl⟩ := h
  have hsame : ∀ {l : Loot}, l.stored = loot.stored → l.stored ≠ entry :: loot.stored := by
    intro l hl heq
    have hlength := congrArg List.length (hl.symm.trans heq)
    simp at hlength
  unfold Loot.countTheRoll at hstored
  split_ifs at hstored with hlinked hpassed hrange
  · exact absurd hstored (hsame rfl)
  · exact absurd hstored (hsame rfl)
  · exact absurd hstored (hsame rfl)
  cases hwinner : roll.winner luck with
  | none =>
    rw [hwinner] at hstored
    exact absurd hstored (hsame rfl)
  | some won =>
    obtain ⟨winner, vote⟩ := won
    simp only [hwinner] at hstored
    have htaken : ∀ l : Loot, (l.takeRolled roll luck.found).stored = l.stored := by
      intro l
      rw [Loot.takeRolled, Loot.countDown]
      split <;> rfl
    suffices hwon : entry.player = winner ∧ vote ≠ .pass by
      exact ⟨vote, by rw [← hpl, hwon.1], hwon.2⟩
    cases hitem : loot.items[roll.itemSlot]? with
    | none =>
      simp only [hitem] at hstored
      split_ifs at hstored with honline hpass
      · exact absurd hstored (hsame rfl)
      · exact absurd hstored (hsame rfl)
      · exact absurd hstored (hsame rfl)
    | some item =>
      simp only [hitem] at hstored
      split_ifs at hstored with honline hpass hdisenchant hroom
      · exact absurd hstored (hsame rfl)
      · exact absurd hstored (hsame rfl)
      · rw [htaken] at hstored
        exact ⟨by rw [← (List.cons.inj hstored).1], hpass⟩
      · rw [htaken, Loot.storeNewItem] at hstored
        split_ifs at hstored with hcount
        · exact absurd hstored (hsame rfl)
        · exact ⟨by rw [← (List.cons.inj hstored).1], hpass⟩
      · exact absurd hstored (hsame rfl)

theorem winner_cases {pl : Nat} {vote : RollVote} (h : roll.winner luck = some (pl, vote))
    (hvote : vote ≠ .pass) : (0 < roll.totalNeed ∧ ((∀ p ∈ roll.playerVote, p.2 ≠ .need) ∨
      ((pl, .need) ∈ roll.playerVote ∧ ∀ q, (q, .need) ∈ roll.playerVote → (luck.draw q).val ≤ (luck.draw pl).val))) ∨
    (roll.totalNeed = 0 ∧ 0 < roll.totalGreed ∧ vote.isGreed = true ∧ (pl, vote) ∈ roll.playerVote ∧
      ∀ q ∈ roll.playerVote, q.2.isGreed = true → (luck.draw q.1).val ≤ (luck.draw pl).val) := by
  cases hvotes : roll.playerVote with
  | nil =>
    rw [winner, hvotes] at h
    cases h
  | cons first rest =>
    by_cases hneed : 0 < roll.totalNeed
    · left
      refine ⟨hneed, ?_⟩
      rw [winner_need hvotes hneed, Option.some.injEq, Prod.mk.injEq, hvotes] at h
      rcases @highestDraw_spec luck (fun vote => decide (vote = .need)) (first :: rest) first.1 with ⟨-, hnone⟩ | ⟨p, hp, hdeciding, hbest, hall⟩
      · exact .inl fun p hp => by simpa using hnone p hp
      · right
        rw [hbest] at h
        obtain ⟨rfl, -⟩ := h
        have hpneed : p.2 = .need := by simpa using hdeciding
        refine ⟨?_, fun q hq => hall _ hq (by simp)⟩
        rw [← hpneed]
        exact hp
    · right
      have hzero : roll.totalNeed = 0 := Nat.eq_zero_of_not_pos hneed
      by_cases hgreed : 0 < roll.totalGreed
      · rw [winner_greed hvotes hneed hgreed, Option.some.injEq, Prod.mk.injEq, hvotes] at h
        rcases @highestDraw_spec luck RollVote.isGreed (first :: rest) first.1 with ⟨hbest, -⟩ | ⟨p, hp, hdeciding, hbest, hall⟩
        · rw [hbest] at h
          exact absurd h.2.symm hvote
        · rw [hbest] at h
          obtain ⟨rfl, rfl⟩ := h
          exact ⟨hzero, hgreed, hdeciding, hp, fun q hq hgreedy => hall q hq hgreedy⟩
      · rw [winner, hvotes] at h
        simp [hneed, hgreed] at h

namespace Fresh

variable (h : roll.Fresh)

include h

theorem entitled_of_need (hcast : roll.NeedWasCast ballots)
    (hcount : 0 < (run castBallot roll ballots).totalNeed) {pl : Nat}
    (hpl : (pl, .need) ∈ (run castBallot roll ballots).playerVote)
    (hmax : ∀ q, (q, .need) ∈ (run castBallot roll ballots).playerVote → (luck.draw q).val ≤ (luck.draw pl).val) :
    Entitled (roll.lastVote ballots) ((run castBallot roll ballots).rolledNumbers luck) pl := by
  have hlast : roll.lastVote ballots pl = some .need := h.lastVote_of_need hcast hpl rfl
  have hrolled : ∀ q, (q, RollVote.need) ∈ (run castBallot roll ballots).playerVote →
      (q, (luck.draw q).val + 1) ∈ (run castBallot roll ballots).rolledNumbers luck := by
    intro q hq
    exact List.mem_map.mpr ⟨(q, .need), List.mem_filter.mpr ⟨hq, by simp [hcount]⟩, rfl⟩
  refine ⟨⟨.need, hlast, .inl ⟨⟨pl, hlast⟩, rfl⟩⟩, _, hrolled pl hpl, fun q vote hq hwins => ?_⟩
  rcases hwins with ⟨-, rfl⟩ | ⟨hnone, -⟩
  · have hentry := h.entry_of_lastVote hq
    exact ⟨_, hrolled q hentry, Nat.add_le_add_right (hmax q hentry) 1⟩
  · exact absurd ⟨pl, hlast⟩ hnone

theorem entitled_of_greed (hcast : ¬ roll.NeedWasCast ballots) (hneed : (run castBallot roll ballots).totalNeed = 0)
    (hcount : 0 < (run castBallot roll ballots).totalGreed) {pl : Nat} {vote : RollVote}
    (hpl : (pl, vote) ∈ (run castBallot roll ballots).playerVote) (hgreed : vote.isGreed = true)
    (hmax : ∀ q ∈ (run castBallot roll ballots).playerVote, q.2.isGreed = true →
      (luck.draw q.1).val ≤ (luck.draw pl).val) :
    Entitled (roll.lastVote ballots) ((run castBallot roll ballots).rolledNumbers luck) pl := by
  have hlast : roll.lastVote ballots pl = some vote := h.lastVote_of_greed hpl hgreed
  have hnone : ¬ ∃ q, roll.lastVote ballots q = some .need := by
    rintro ⟨q, hq⟩
    obtain ⟨b, hb, hcounts, -, hvote⟩ := counts_of_lastVote hq
    exact hcast ⟨b, hb, hcounts, hvote⟩
  have hrolled : ∀ p ∈ (run castBallot roll ballots).playerVote, p.2.isGreed = true →
      (p.1, (luck.draw p.1).val + 1) ∈ (run castBallot roll ballots).rolledNumbers luck := by
    intro p hp hgreedy
    exact List.mem_map.mpr ⟨p, List.mem_filter.mpr ⟨hp, by simp [hneed, hcount, hgreedy]⟩, rfl⟩
  refine ⟨⟨vote, hlast, .inr ⟨hnone, hgreed⟩⟩, _, hrolled _ hpl hgreed, fun q other hq hwins => ?_⟩
  rcases hwins with ⟨hyes, -⟩ | ⟨-, hgreedy⟩
  · exact absurd hyes hnone
  · have hentry := h.entry_of_lastVote hq
    exact ⟨_, hrolled _ hentry hgreedy, Nat.add_le_add_right (hmax _ hentry hgreedy) 1⟩

theorem exists_receives (hopen : roll.Open ballots) (hcast : roll.NeedWasCast ballots)
    (hnone : ∀ p ∈ (run castBallot roll ballots).playerVote, p.2 ≠ .need) :
    ∃ (loot : Loot) (luck : RollLuck) (pl : Nat),
      loot.Receives (loot.countTheRoll luck (run castBallot roll ballots)) pl := by
  have hneed : 0 < (run castBallot roll ballots).totalNeed :=
    (totalNeed_run h.rolling_le hopen).mpr (.inr hcast)
  obtain ⟨hlinked, hslot, hkeys⟩ := run_same roll ballots
  obtain ⟨b, -, hcounts, -⟩ := hcast
  have hvoter := lookupKey_isSome_iff.mp (Bool.and_eq_true_iff.mp hcounts).2
  rw [← hkeys] at hvoter
  cases hvotes : (run castBallot roll ballots).playerVote with
  | nil =>
    rw [hvotes] at hvoter
    cases hvoter
  | cons first rest =>
    let item : LootItem :=
      { uid := 0, count := 1, info := ⟨0, false, false, 0, false⟩ }
    let loot : Loot := { Loot.start 0 with items := List.replicate (roll.itemSlot + 1) item }
    let luck : RollLuck := ⟨fun _ => 0, fun _ => true, fun _ => true, fun _ => true⟩
    have hwinner : (run castBallot roll ballots).winner luck = some (first.1, .need) := by
      rw [winner_need hvotes hneed]
      rcases @highestDraw_spec luck (fun vote => decide (vote = .need))
        (run castBallot roll ballots).playerVote first.1 with ⟨hbest, -⟩ | ⟨p, hp, hdeciding, -⟩
      · rw [hbest]
      · exact absurd (by simpa using hdeciding) (hnone p hp)
    have hitem : loot.items[(run castBallot roll ballots).itemSlot]? = some item := by
      rw [hslot]
      simp [loot]
    have hpassed : (run castBallot roll ballots).allPassed = false := by
      simp [allPassed, Nat.ne_of_gt hneed]
    refine ⟨loot, luck, first.1, ⟨(run castBallot roll ballots).uid, true, first.1⟩, ?_, rfl⟩
    have hroom : luck.room first.1 = true := rfl
    have hcount : item.count ≠ 0 := Nat.one_ne_zero
    simp only [Loot.countTheRoll, hlinked, h.linked, hpassed, hwinner, hitem]
    simp only [luck, Loot.storeNewItem, hcount, Loot.takeRolled, Loot.countDown, Bool.not_true,
      Bool.false_eq_true, if_false, if_true, reduceCtorEq]
    split
    · rfl
    · rfl

end Fresh

/-- The item goes to one who is entitled to it, whatever the luck, exactly when somebody's last vote is need
if need was cast at all. -/
theorem roll_fair_iff (roll : Roll) (h : roll.Fresh) (ballots : List Ballot) (hopen : roll.Open ballots) :
    roll.Fair ballots ↔ (roll.NeedWasCast ballots → ∃ pl, roll.lastVote ballots pl = some .need) := by
  have hneed := totalNeed_run h.rolling_le hopen
  rw [h.need] at hneed
  constructor
  · intro hfair hcast
    by_contra hlast
    have hnone : ∀ p ∈ (run castBallot roll ballots).playerVote, p.2 ≠ .need :=
      fun p hp heq => hlast ⟨p.1, h.lastVote_of_need hcast hp heq⟩
    obtain ⟨loot, luck, pl, hreceives⟩ := h.exists_receives hopen hcast hnone
    obtain ⟨n, hn, -⟩ := (hfair loot luck pl hreceives).highest
    obtain ⟨p, hp, -⟩ := List.mem_map.mp hn
    obtain ⟨hmem, hdeciding⟩ := List.mem_filter.mp hp
    rw [if_pos (hneed.mpr (.inr hcast))] at hdeciding
    exact hnone p hmem (by simpa using hdeciding)
  · intro hcond loot luck pl hreceives
    obtain ⟨vote, hwinner, hvote⟩ := winner_of_receives hreceives
    rcases winner_cases hwinner hvote with ⟨hpos, hwho⟩ | ⟨hzero, hgreed, hvotes, hpl, hmax⟩
    · have hcast : roll.NeedWasCast ballots := (hneed.mp hpos).resolve_left (Nat.lt_irrefl 0)
      rcases hwho with hnone | ⟨hpl, hmax⟩
      · obtain ⟨q, hq⟩ := hcond hcast
        exact absurd rfl (hnone _ (h.entry_of_lastVote hq))
      · exact h.entitled_of_need hcast hpos hpl hmax
    · have hcast : ¬ roll.NeedWasCast ballots := by
        intro hcast
        have hpos := hneed.mpr (.inr hcast)
        omega
      exact h.entitled_of_greed hcast hzero hgreed hpl hvotes hmax

def ofTwo : Roll :=
  { uid := 0, itemid := 4306, itemSlot := 0, lootMethod := .groupLoot, linked := true
    playerVote := [(1, .notEmitedYet), (2, .notEmitedYet)]
    totalPlayersRolling := 2, totalNeed := 0, totalGreed := 0, totalPass := 0
    commonVoteMask := rollVoteMaskAll, wrapped := false }

theorem fresh_ofTwo : ofTwo.Fresh :=
  ⟨rfl, rfl, rfl, rfl, rfl, by simp [Small, ofTwo], by decide, .inl (by decide), by decide⟩

/-- A player votes need and then passes, which completes the roll. The first of the voters gets the item. -/
theorem pass_after_need_unfair :
    ¬ ∀ (roll : Roll) (ballots : List Ballot), roll.Fresh → roll.Open ballots → roll.Fair ballots := by
  intro h
  let ballots : List Ballot := [⟨1, .need, true⟩, ⟨1, .pass, true⟩]
  have hcast : ofTwo.NeedWasCast ballots := ⟨⟨1, .need, true⟩, by decide, by decide, rfl⟩
  obtain ⟨loot, luck, pl, hreceives⟩ := fresh_ofTwo.exists_receives (by decide) hcast (by decide)
  obtain ⟨n, hn, -⟩ := (h ofTwo ballots fresh_ofTwo (by decide) loot luck pl hreceives).highest
  have hnobody : (run castBallot ofTwo ballots).rolledNumbers luck = [] := rfl
  rw [hnobody] at hn
  cases hn

/-- One votes need and the other greed. -/
theorem fair_ofTwo : ofTwo.Fair [⟨1, .need, true⟩, ⟨2, .greed, true⟩] :=
  (roll_fair_iff ofTwo fresh_ofTwo [⟨1, .need, true⟩, ⟨2, .greed, true⟩] (by decide)).mpr
    fun _ => ⟨1, by decide⟩

end Roll

namespace LootWorld

variable {tables : LootTables} {w : LootWorld}

theorem countRollVote_eq {b : Ballot} {itemSlot i : Nat} {roll : Roll} {luck : RollLuck}
    (hat : w.rollAt itemSlot = some i) (hroll : w.rolls[i]? = some roll) (hitems : w.loot.items ≠ []) :
    w.countRollVote b.pl itemSlot b.vote b.canUse luck = if roll.counts b = true then
        if (roll.castBallot b).isComplete then
          { loot := w.loot.countTheRoll luck (roll.castBallot b), rolls := w.rolls.eraseIdx i }
        else { w with rolls := w.rolls.set i (roll.castBallot b) }
      else w := by
  simp only [countRollVote, hat, hroll]
  by_cases hallows : roll.allowsVote b.canUse b.vote = true
  · by_cases hvoter : (lookupKey b.pl roll.playerVote).isSome = true
    · have hcounts : roll.counts b = true := by rw [Roll.counts, hallows, hvoter]; rfl
      have hfound : (lookupKey b.pl roll.playerVote).isNone = false := by
        rw [← Option.not_isSome, hvoter]
        rfl
      have hcast : roll.castBallot b = roll.recordVote b.pl b.vote := by
        rw [Roll.castBallot, if_pos hcounts]
      simp [hallows, hfound, hitems, hcounts, hcast]
    · have hcounts : roll.counts b = false := by rw [Roll.counts, Bool.eq_false_iff.mpr hvoter, Bool.and_false]
      have hmissing : (lookupKey b.pl roll.playerVote).isNone = true := by
        rw [← Option.not_isSome, Bool.eq_false_iff.mpr hvoter]
        rfl
      simp [hallows, hmissing, hcounts]
  · have hcounts : roll.counts b = false := by rw [Roll.counts, Bool.eq_false_iff.mpr hallows, Bool.false_and]
    simp [hallows, hcounts]

theorem fresh_of_startLootRoll {setting : RollSetting} {lootMethod : LootMethod}
    {maxEnchantingSkill itemSlot : Nat} {roll : Roll}
    (h : roll ∈ (w.startLootRoll tables setting lootMethod maxEnchantingSkill itemSlot).rolls) :
    roll ∈ w.rolls ∨ roll.Fresh := by
  rw [startLootRoll] at h
  split at h
  · exact .inl h
  next item hitem =>
    split at h
    · exact .inl h
    have hlength := setting.length_voters_le item.info
    have hnodup : (setting.voters item.info).Nodup :=
      (setting.order.perm _).nodup_iff.mpr (setting.members.nodup.filter _)
    dsimp only at h
    split at h
    · exact .inl h
    next pl hone =>
      refine (List.mem_append.mp h).imp_right fun hnew => ?_
      rw [List.mem_singleton.mp hnew]
      exact ⟨rfl, rfl, rfl, rfl, by simp [hone], by simp [Roll.Small], by simp, .inr ⟨pl, rfl⟩, Nat.le_refl _⟩
    next =>
      refine (List.mem_append.mp h).imp_right fun hnew => ?_
      rw [List.mem_singleton.mp hnew]
      refine ⟨rfl, rfl, rfl, rfl, ?_, ?_, ?_, .inl ?_, ?_⟩
      · simp only [List.length_map]
        exact Nat.mod_eq_of_lt (lt_of_le_of_lt hlength (by decide))
      · simpa [Roll.Small] using hlength
      · simpa [List.map_map, Function.comp_def] using hnodup
      · simp
      · simp only [Roll.calculateCommonVoteMask]
        split <;> split <;> decide

/-- A member who is removed is in no roll any more, and who is left in a roll is waited for. -/
structure Settled (w : LootWorld) (guid : Nat) : Prop where
  gone : ∀ roll ∈ w.rolls, guid ∉ roll.playerVote.map (·.1)
  waits : ∀ roll ∈ w.rolls, ∃ p ∈ roll.playerVote, p.2 = .notEmitedYet

theorem playerVote_removeVote (roll : Roll) (guid : Nat) :
    (roll.removeVote guid).playerVote = eraseKey guid roll.playerVote := by
  rw [Roll.removeVote]
  cases hvote : lookupKey guid roll.playerVote with
  | none => exact (eraseKey_of_lookupKey_eq_none hvote).symm
  | some vote => rfl

/-- Every roll that has nobody to wait for is resolved when a member is removed, exactly when there is no
such roll: no roll is ever counted then. -/
theorem settled_removeRolls_iff (w : LootWorld)
    (h : ∀ roll ∈ w.rolls, (roll.playerVote.map (·.1)).Nodup) (guid : Nat) : (w.removeRolls guid).Settled guid ↔
      ∀ roll ∈ w.rolls, ∃ p ∈ roll.playerVote, p.1 ≠ guid ∧ p.2 = .notEmitedYet := by
  have hmem : ∀ roll ∈ w.rolls, ∀ p, p ∈ eraseKey guid roll.playerVote ↔
      p ∈ roll.playerVote ∧ p.1 ≠ guid := by
    intro roll hroll p
    constructor
    · exact fun hp => mem_eraseKey_of_nodup (h roll hroll) hp
    · exact fun hp => mem_eraseKey_of_ne hp.1 hp.2
  constructor
  · intro hsettled roll hroll
    obtain ⟨p, hp, hvote⟩ := hsettled.waits _ (List.mem_map_of_mem hroll)
    rw [playerVote_removeVote, hmem roll hroll] at hp
    exact ⟨p, hp.1, hp.2, hvote⟩
  · intro hwaits
    refine ⟨fun roll hroll hin => ?_, fun roll hroll => ?_⟩
    · obtain ⟨old, hold, rfl⟩ := List.mem_map.mp hroll
      obtain ⟨p, hp, hguid⟩ := List.mem_map.mp hin
      rw [playerVote_removeVote, hmem old hold] at hp
      exact hp.2 hguid
    · obtain ⟨old, hold, rfl⟩ := List.mem_map.mp hroll
      obtain ⟨p, hp, hne, hvote⟩ := hwaits old hold
      refine ⟨p, ?_, hvote⟩
      rw [playerVote_removeVote, hmem old hold]
      exact ⟨hp, hne⟩

/-- A roll of two players, one of whom has passed. -/
def oneHasPassed : LootWorld where
  loot := .start 0
  rolls := [Roll.ofTwo.castBallot ⟨1, .pass, true⟩]

/-- The other one leaves the group, and the roll is not counted. -/
theorem removed_unsettled : ¬ ∀ (w : LootWorld) (guid : Nat),
    (∀ roll ∈ w.rolls, (roll.playerVote.map (·.1)).Nodup) → (w.removeRolls guid).Settled guid := by
  intro h
  obtain ⟨p, hp, hvote⟩ := (h oneHasPassed 2 (by decide)).waits _ List.mem_cons_self
  obtain rfl : p = (1, .pass) := List.mem_singleton.mp hp
  cases hvote

/-- The one who has passed leaves the group; the other is waited for. -/
theorem settled_oneHasPassed : (oneHasPassed.removeRolls 1).Settled 1 :=
  (settled_removeRolls_iff oneHasPassed (by decide) 1).mpr (by decide)

end LootWorld

end Mangos
