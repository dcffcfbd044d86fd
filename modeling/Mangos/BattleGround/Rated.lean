import Mangos.BattleGround.Match
import Mangos.Framework.Run
import Mathlib.Algebra.Group.Int.Defs
import Mathlib.Algebra.Group.Nat.Defs

/-!
# The teams of a rated match

An arena is opened for two groups that may play: the first of each premade list, or the first two of one
when the other list has none.
-/

namespace Mangos

open Framework

/-- The groups `ali` and `horde` are the first ones of the lists, or the first one of a list and the next
one there that has a team. -/
inductive Opposed (groups : Team → List Nat) (fits inTeam : Nat → Bool) : Nat → Nat → Prop
  | both {ali horde : Nat} : (groups .alliance).head?.filter fits = some ali →
      (groups .horde).head?.filter fits = some horde → Opposed groups fits inTeam ali horde
  | horde {ali horde : Nat} : (groups .alliance).head?.filter fits = none →
      (groups .horde).head?.filter fits = some horde →
      ((groups .horde).tail.find? inTeam).filter fits = some ali → Opposed groups fits inTeam ali horde
  | alliance {ali horde : Nat} : (groups .horde).head?.filter fits = none →
      (groups .alliance).head?.filter fits = some ali →
      ((groups .alliance).tail.find? inTeam).filter fits = some horde → Opposed groups fits inTeam ali horde

theorem Opposed.of_mem {groups : Team → List Nat} {fits inTeam : Nat → Bool} {P : Nat → Prop}
    {ali horde : Nat} (h : Opposed groups fits inTeam ali horde)
    (hmem : ∀ team, ∀ g ∈ groups team, P g) : ∀ g ∈ [ali, horde], P g := by
  have hfirst : ∀ team g, (groups team).head?.filter fits = some g → P g := fun team g hg =>
    hmem team g (List.mem_of_head? (Option.filter_eq_some_iff.mp hg).1)
  have hnext : ∀ team g, ((groups team).tail.find? inTeam).filter fits = some g → P g :=
    fun team g hg => hmem team g
      (List.mem_of_mem_tail (List.mem_of_find?_eq_some (Option.filter_eq_some_iff.mp hg).1))
  have hboth : P ali ∧ P horde := by
    cases h with
    | both ha hh => exact ⟨hfirst _ _ ha, hfirst _ _ hh⟩
    | horde _ hh ha => exact ⟨hnext _ _ ha, hfirst _ _ hh⟩
    | alliance _ ha hh => exact ⟨hfirst _ _ ha, hnext _ _ hh⟩
  intro g hg
  rcases List.mem_pair.mp hg with rfl | rfl
  · exact hboth.1
  · exact hboth.2

def discardTime (now timer : UInt32) : Int := int32 (now - timer).toNat

namespace GroupQueueInfo

variable (ginfo : GroupQueueInfo)

def InWindow (rating maxRatingDifference : Nat) : Prop :=
  (if rating ≤ maxRatingDifference then 0 else rating - maxRatingDifference) ≤ ginfo.arenaTeamRating ∧
    ginfo.arenaTeamRating ≤ (rating + maxRatingDifference) % 2 ^ 32

/-- The group has waited for longer than `timer` milliseconds. -/
def Waited (now timer : UInt32) : Prop := timer < now - .ofNat ginfo.joinTime

end GroupQueueInfo

namespace BattleGroundQueue

variable {s : BattleGroundQueue} {bracketId : Fin maxBattlegroundBrackets}
  {arenaRating rating maxRatingDifference maxPlayers ali horde g : Nat} {now timer : UInt32}

def playing (s : BattleGroundQueue) (bracketId : Fin maxBattlegroundBrackets)
    (eligible : Nat → Bool) (team : Team) : List Nat :=
  (s.queuedGroups ⟨bracketId, .premade team⟩).filter eligible

def fitsArena (s : BattleGroundQueue) (maxPlayers g : Nat) : Bool :=
  0 < (s.addToPool .init g maxPlayers).1.playerCount

def hasTeam (s : BattleGroundQueue) (g : Nat) : Bool :=
  (s.groups g).any fun ginfo => ginfo.arenaTeamId ≠ 0

private theorem filter_after {eligible : Nat → Bool} {l gs : List Nat}
    (h : l.filter eligible = g :: gs) : ((l.dropWhile (· ≠ g)).tail).filter eligible = gs := by
  induction l with
  | nil => cases h
  | cons a l ih =>
    by_cases ha : eligible a
    · rw [List.filter_cons_of_pos ha] at h
      obtain ⟨rfl, rfl⟩ := List.cons.inj h
      simp
    · rw [List.filter_cons_of_neg ha] at h
      have hg : eligible g := List.of_mem_filter (h ▸ List.mem_cons_self : g ∈ l.filter eligible)
      have hne : a ≠ g := fun heq => ha (heq ▸ hg)
      rw [List.dropWhile_cons_of_pos (by simpa using hne)]
      exact ih h

theorem ratedTeams_eq_some_iff {eligible : Nat → Bool} :
    s.ratedTeams bracketId eligible maxPlayers = some (ali, horde) ↔
      Opposed (s.playing bracketId eligible) (s.fitsArena maxPlayers) s.hasTeam ali horde := by
  have hfirst : ∀ team, (((s.queuedGroups ⟨bracketId, .premade team⟩).find? eligible).filter fun g =>
      decide (0 < (s.addToPool .init g maxPlayers).1.playerCount)) =
        (s.playing bracketId eligible team).head?.filter (s.fitsArena maxPlayers) := by
    intro team
    rw [playing, List.head?_filter]
    rfl
  have hnext : ∀ team g, (s.playing bracketId eligible team).head?.filter (s.fitsArena maxPlayers) = some g →
      ((((s.queuedGroups ⟨bracketId, .premade team⟩).dropWhile (· ≠ g)).tail.find? fun g =>
        eligible g && (s.groups g).any fun ginfo => ginfo.arenaTeamId ≠ 0).filter fun g =>
          decide (0 < (s.addToPool .init g maxPlayers).1.playerCount)) =
        ((s.playing bracketId eligible team).tail.find? s.hasTeam).filter (s.fitsArena maxPlayers) := by
    intro team g hg
    obtain ⟨gs, hgs⟩ := List.head?_eq_some_iff.mp (Option.filter_eq_some_iff.mp hg).1
    have hboth : (fun a => decide (eligible a = true ∧ s.hasTeam a = true)) =
        fun a => eligible a && s.hasTeam a := by
      funext a
      rw [Bool.decide_and, Bool.decide_eq_true, Bool.decide_eq_true]
    rw [hgs, List.tail_cons, ← filter_after hgs, List.find?_filter, hboth]
    rfl
  unfold ratedTeams
  dsimp only
  rw [hfirst, hfirst]
  constructor
  · intro h
    cases ha : (s.playing bracketId eligible .alliance).head?.filter (s.fitsArena maxPlayers) with
    | none =>
      cases hh : (s.playing bracketId eligible .horde).head?.filter (s.fitsArena maxPlayers) with
      | none =>
        rw [ha, hh] at h
        cases h
      | some g =>
        rw [ha, hh] at h
        dsimp only at h
        rw [hnext .horde g hh] at h
        obtain ⟨a, hsecond, heq⟩ := Option.map_eq_some_iff.mp h
        cases heq
        exact .horde ha hh hsecond
    | some g =>
      cases hh : (s.playing bracketId eligible .horde).head?.filter (s.fitsArena maxPlayers) with
      | none =>
        rw [ha, hh] at h
        dsimp only at h
        rw [hnext .alliance g ha] at h
        obtain ⟨a, hsecond, heq⟩ := Option.map_eq_some_iff.mp h
        cases heq
        exact .alliance hh ha hsecond
      | some g' =>
        rw [ha, hh] at h
        cases h
        exact .both ha hh
  · intro h
    cases h with
    | both ha hh => rw [ha, hh]
    | horde ha hh hsecond =>
      rw [ha, hh]
      dsimp only
      rw [hnext .horde horde hh, hsecond]
      rfl
    | alliance hh ha hsecond =>
      rw [ha, hh]
      dsimp only
      rw [hnext .alliance ali ha, hsecond]
      rfl

theorem waited_iff {ginfo : GroupQueueInfo} (h : int32 ginfo.joinTime < discardTime now timer) :
    ginfo.Waited now timer ↔ discardTime now timer - int32 ginfo.joinTime + timer.toNat < 2 ^ 32 := by
  have hnow := now.toNat_lt
  have htimer := timer.toNat_lt
  unfold GroupQueueInfo.Waited
  unfold discardTime int32 at h ⊢
  rw [UInt32.lt_iff_toNat_lt, UInt32.toNat_sub, UInt32.toNat_ofNat']
  rw [UInt32.toNat_sub] at h ⊢
  generalize now.toNat = n at *
  generalize timer.toNat = t at *
  generalize ginfo.joinTime = j at *
  simp only [Int.bmod] at h ⊢
  omega

/-- The group may play by its rating or by the time it waited. -/
def mayPlay (s : BattleGroundQueue) (rating maxRatingDifference : Nat) (now timer : UInt32) :
    Nat → Bool :=
  s.ratingMatches (if rating ≤ maxRatingDifference then 0 else rating - maxRatingDifference)
    ((rating + maxRatingDifference) % 2 ^ 32) (discardTime now timer)

theorem mayPlay_iff : s.mayPlay rating maxRatingDifference now timer g ↔
    ∃ ginfo, s.groups g = some ginfo ∧ ginfo.isInvitedToBGInstanceGUID = 0 ∧
      (ginfo.InWindow rating maxRatingDifference ∨ int32 ginfo.joinTime < discardTime now timer) := by
  simp only [mayPlay, ratingMatches, Option.any_eq_true, GroupQueueInfo.InWindow, Bool.and_eq_true,
    Bool.or_eq_true, decide_eq_true_eq]

/-- The two groups for which an update starts a rated match. -/
def ratedMatch (s : BattleGroundQueue) (bracketId : Fin maxBattlegroundBrackets)
    (arenaRating maxRatingDifference : Nat) (now timer : UInt32) (maxPlayers : Nat) :
    Option (Nat × Nat) :=
  (s.arenaRatingOf bracketId arenaRating).bind fun rating =>
    s.ratedTeams bracketId (s.mayPlay rating maxRatingDifference now timer) maxPlayers

/-- Two groups of different teams that are not invited, each with a rating in the range or after a wait that is
longer than the discard timer. -/
structure FairMatch (s : BattleGroundQueue) (rating maxRatingDifference : Nat) (now timer : UInt32)
    (ali horde : Nat) : Prop where
  distinct : ali ≠ horde
  teams : ∀ ginfo ∈ s.groups ali, ∀ ginfo' ∈ s.groups horde, ginfo.arenaTeamId ≠ ginfo'.arenaTeamId
  may : ∀ g ∈ [ali, horde], ∃ ginfo, s.groups g = some ginfo ∧ ginfo.isInvitedToBGInstanceGUID = 0 ∧
    (ginfo.InWindow rating maxRatingDifference ∨ ginfo.Waited now timer)

/-- Two groups that are picked are of different teams, and the clock did not turn between the discard time
and the joining of one whose rating is not in the range. -/
structure WellOpposed (s : BattleGroundQueue) (rating maxRatingDifference : Nat)
    (now timer : UInt32) (ali horde : Nat) : Prop where
  teams : ∀ ginfo ∈ s.groups ali, ∀ ginfo' ∈ s.groups horde, ginfo.arenaTeamId ≠ ginfo'.arenaTeamId
  clock : ∀ g ∈ [ali, horde], ∀ ginfo ∈ s.groups g, ginfo.InWindow rating maxRatingDifference ∨
    discardTime now timer - int32 ginfo.joinTime + timer.toNat < 2 ^ 32

theorem mayPlay_of_opposed (h : Opposed (s.playing bracketId (s.mayPlay rating maxRatingDifference now timer))
      (s.fitsArena maxPlayers) s.hasTeam ali horde) :
    ∀ g ∈ [ali, horde], ∃ ginfo, s.groups g = some ginfo ∧ ginfo.isInvitedToBGInstanceGUID = 0 ∧
      (ginfo.InWindow rating maxRatingDifference ∨ int32 ginfo.joinTime < discardTime now timer) :=
  h.of_mem fun _ _ hg => mayPlay_iff.mp (List.of_mem_filter hg)

theorem fairMatch_iff (h : Opposed (s.playing bracketId (s.mayPlay rating maxRatingDifference now timer))
      (s.fitsArena maxPlayers) s.hasTeam ali horde) : s.FairMatch rating maxRatingDifference now timer ali horde ↔
      s.WellOpposed rating maxRatingDifference now timer ali horde := by
  have hmay := mayPlay_of_opposed h
  constructor
  · intro hfair
    refine ⟨hfair.teams, fun g hg ginfo hginfo => ?_⟩
    obtain ⟨_, hsome, -, hright⟩ := hfair.may g hg
    obtain rfl := Option.some.inj (hsome.symm.trans hginfo)
    obtain ⟨_, hsome', -, hpicked⟩ := hmay g hg
    obtain rfl := Option.some.inj (hsome'.symm.trans hsome)
    rcases hpicked with hwindow | hjoined
    · exact .inl hwindow
    · exact hright.imp_right (waited_iff hjoined).mp
  · intro hwell
    refine ⟨?_, hwell.teams, fun g hg => ?_⟩
    · rintro rfl
      obtain ⟨ginfo, hginfo, -⟩ := hmay ali List.mem_cons_self
      exact hwell.teams ginfo hginfo ginfo hginfo rfl
    · obtain ⟨ginfo, hginfo, hinvited, hpicked⟩ := hmay g hg
      refine ⟨ginfo, hginfo, hinvited, ?_⟩
      rcases hpicked with hwindow | hjoined
      · exact .inl hwindow
      · exact (hwell.clock g hg ginfo hginfo).imp_right (waited_iff hjoined).mpr

/-- An update's rated matches are fair exactly when the first groups of the lists, or the first two of one, are of
different teams and the clock did not turn. -/
theorem ratedMatch_fair_iff (s : BattleGroundQueue) (bracketId : Fin maxBattlegroundBrackets)
    (arenaRating maxRatingDifference : Nat) (now timer : UInt32) (maxPlayers : Nat) :
    (∀ rating ∈ s.arenaRatingOf bracketId arenaRating, ∀ ali horde,
        s.ratedMatch bracketId arenaRating maxRatingDifference now timer maxPlayers = some (ali, horde) →
        s.FairMatch rating maxRatingDifference now timer ali horde) ↔
      ∀ rating ∈ s.arenaRatingOf bracketId arenaRating, ∀ ali horde,
        Opposed (s.playing bracketId (s.mayPlay rating maxRatingDifference now timer))
          (s.fitsArena maxPlayers) s.hasTeam ali horde →
        s.WellOpposed rating maxRatingDifference now timer ali horde := by
  have hmatch : ∀ rating ∈ s.arenaRatingOf bracketId arenaRating, ∀ ali horde,
      s.ratedMatch bracketId arenaRating maxRatingDifference now timer maxPlayers = some (ali, horde) ↔
        Opposed (s.playing bracketId (s.mayPlay rating maxRatingDifference now timer))
          (s.fitsArena maxPlayers) s.hasTeam ali horde := by
    intro rating hrating ali horde
    have hsome : s.arenaRatingOf bracketId arenaRating = some rating := hrating
    rw [ratedMatch, hsome]
    exact ratedTeams_eq_some_iff
  constructor
  · intro h rating hrating ali horde hopposed
    exact (fairMatch_iff hopposed).mp
      (h rating hrating ali horde ((hmatch rating hrating ali horde).mpr hopposed))
  · intro h rating hrating ali horde hstart
    have hopposed := (hmatch rating hrating ali horde).mp hstart
    exact (fairMatch_iff hopposed).mpr (h rating hrating ali horde hopposed)

def sameTeamTwice : BattleGroundQueue :=
  run queueStep .empty
    [.addGroup ⟨0, by decide⟩ ⟨1, .alliance, some [1, 2], by simp⟩ true false 1000 1500 7,
      .addGroup ⟨0, by decide⟩ ⟨3, .alliance, some [3, 4], by simp⟩ true false 2000 1500 7]

/-- They play each other. -/
theorem sameTeamTwice_not_fair : ¬ ∀ rating ∈ sameTeamTwice.arenaRatingOf ⟨0, by decide⟩ 1500, ∀ ali horde,
      sameTeamTwice.ratedMatch ⟨0, by decide⟩ 1500 150 3000 600000 2 = some (ali, horde) →
      sameTeamTwice.FairMatch rating 150 3000 600000 ali horde := by
  intro h
  have hfair := h 1500 (by decide +kernel) 0 1 (by decide +kernel)
  obtain ⟨ginfo, hginfo⟩ : ∃ ginfo, sameTeamTwice.groups 0 = some ginfo ∧ ginfo.arenaTeamId = 7 :=
    ⟨_, rfl, rfl⟩
  obtain ⟨ginfo', hginfo'⟩ : ∃ ginfo, sameTeamTwice.groups 1 = some ginfo ∧ ginfo.arenaTeamId = 7 :=
    ⟨_, rfl, rfl⟩
  exact hfair.teams ginfo hginfo.1 ginfo' hginfo'.1 (hginfo.2.trans hginfo'.2.symm)

end BattleGroundQueue

end Mangos
