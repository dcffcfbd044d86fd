import Mangos.BattleGround.Fill
import Mangos.BattleGround.Regroup
import Mangos.Framework.Words
import Mathlib.Algebra.BigOperators.Group.List.Basic
import Mathlib.Algebra.GroupWithZero.Nat
import Mathlib.Data.List.Perm.Basic

/-!
# Running battlegrounds are not overbooked

A pool and the rest of the queue behind it are a part of the queue in its order, and every turn of the
balancing takes a group out of that part for good.
-/

namespace Mangos

open Framework Function

namespace BattleGroundQueue

variable {s : BattleGroundQueue} {queue : List Nat} {slots : Nat} {pool : SelectionPool}

/-- A pool counts the players of its groups, none of which is invited, and has slots for them. -/
structure Holds (s : BattleGroundQueue) (slots : Nat) (pool : SelectionPool) : Prop where
  count : pool.playerCount = (pool.selectedGroups.map s.groupSize).sum
  fits : pool.playerCount ≤ slots
  waiting : ∀ g ∈ pool.selectedGroups, s.notInvited g = true

/-- The state of a team while its pool is filled from a queue. -/
structure Booked (s : BattleGroundQueue) (queue : List Nat) (slots : Nat) (fill : TeamFill) :
    Prop where
  holds : s.Holds slots fill.pool
  inOrder : (fill.pool.selectedGroups ++ fill.queue).Sublist queue

def groupsLeft (fill : TeamFill) : Nat := fill.pool.selectedGroups.length + fill.queue.length

theorem booked_init (s : BattleGroundQueue) (slots : Nat) (queue : List Nat) : s.Booked queue slots ⟨.init, queue⟩ where
  holds := ⟨rfl, Nat.zero_le slots, fun g hg => by cases hg⟩
  inOrder := List.Sublist.refl queue

theorem Booked.groupsLeft_le {fill : TeamFill} (h : s.Booked queue slots fill) : groupsLeft fill ≤ queue.length := by
  have hlength := h.inOrder.length_le
  rwa [List.length_append] at hlength

theorem groupSize_eq {g : Nat} {ginfo : GroupQueueInfo} (hg : s.groups g = some ginfo) :
    s.groupSize g = ginfo.players.card := by
  rw [groupSize, hg, Option.elim_some]

theorem Booked.addToPool {g desiredCount : Nat} {rest : List Nat}
    (h : s.Booked queue slots ⟨pool, g :: rest⟩) (hdesired : desiredCount ≤ slots) :
    s.Booked queue slots ⟨(s.addToPool pool g desiredCount).1, rest⟩ ∧
      groupsLeft ⟨(s.addToPool pool g desiredCount).1, rest⟩ ≤ groupsLeft ⟨pool, g :: rest⟩ := by
  cases s.addToPool_cases pool g desiredCount with
  | inl hsame =>
    rw [hsame]
    have hsub : (pool.selectedGroups ++ rest).Sublist (pool.selectedGroups ++ g :: rest) :=
      (List.Sublist.refl _).append (List.sublist_cons_self g rest)
    exact ⟨⟨h.holds, hsub.trans h.inOrder⟩, by simp [groupsLeft]⟩
  | inr hadded =>
    obtain ⟨ginfo, hg, hnot, hroom, hpool⟩ := hadded
    rw [hpool]
    refine ⟨⟨⟨?_, hroom.trans hdesired, ?_⟩, ?_⟩, by simp [groupsLeft]; omega⟩
    · simpa [groupSize_eq hg] using h.holds.count
    · intro g' hg'
      cases List.mem_append.mp hg' with
      | inl hmem => exact h.holds.waiting g' hmem
      | inr hmem =>
        rw [List.mem_singleton.mp hmem]
        simp [notInvited, hg, hnot]
    · simpa using h.inOrder

theorem Booked.addGroups {desiredCount : UInt32} {rest : List Nat}
    (h : s.Booked queue slots ⟨pool, rest⟩) (hdesired : desiredCount.toNat ≤ slots) :
    s.Booked queue slots (s.addGroups desiredCount pool rest) ∧
      groupsLeft (s.addGroups desiredCount pool rest) ≤ groupsLeft ⟨pool, rest⟩ := by
  induction rest generalizing pool with
  | nil => exact ⟨h, Nat.le_refl _⟩
  | cons g rest ih =>
    obtain ⟨hbooked, hleft⟩ := h.addToPool hdesired
    rw [BattleGroundQueue.addGroups]
    by_cases hmore : (s.addToPool pool g desiredCount.toNat).2 = true
    · obtain ⟨hrest, hleft'⟩ := ih hbooked
      simp only [hmore, if_true]
      exact ⟨hrest, hleft'.trans hleft⟩
    · cases s.addToPool_cases pool g desiredCount.toNat with
      | inl hsame =>
        simp only [hmore, hsame]
        exact ⟨h, Nat.le_refl _⟩
      | inr hadded =>
        obtain ⟨ginfo, -, -, -, hpool⟩ := hadded
        exact absurd (by rw [hpool]) hmore

theorem foldl_pickGroup_mem (size : UInt32) (groupToKick : (Nat × Nat) × Bool) (groups : List (Nat × Nat)) :
    (groups.foldl (s.pickGroup size) groupToKick).1 ∈ groupToKick.1 :: groups := by
  induction groups generalizing groupToKick with
  | nil => exact List.mem_cons_self
  | cons itr groups ih =>
    have hpick : (s.pickGroup size groupToKick itr).1 = itr ∨
        (s.pickGroup size groupToKick itr).1 = groupToKick.1 := by
      rw [pickGroup]
      split_ifs
      · exact .inl rfl
      · exact .inl rfl
      · exact .inr rfl
    have hmem := ih (s.pickGroup size groupToKick itr)
    rw [List.foldl_cons]
    grind

theorem kickGroup_cases (s : BattleGroundQueue) (pool : SelectionPool) (size : UInt32) :
    ((pool.selectedGroups = [] ∨ pool.playerCount = 0) ∧ s.kickGroup pool size = (pool, true)) ∨
      ∃ i, ∃ hi : i < pool.selectedGroups.length, (s.kickGroup pool size).1 =
          ⟨pool.selectedGroups.eraseIdx i, pool.playerCount - s.groupSize pool.selectedGroups[i]⟩ := by
  rw [kickGroup]
  cases hgroups : pool.selectedGroups.zipIdx with
  | nil => exact .inl ⟨.inl (List.zipIdx_eq_nil_iff.mp hgroups), rfl⟩
  | cons first others =>
    by_cases hcount : pool.playerCount = 0
    · exact .inl ⟨.inr hcount, by simp [hcount]⟩
    · have hmem := s.foldl_pickGroup_mem size (first, false) (first :: others)
      dsimp only
      generalize ((first :: others).foldl (s.pickGroup size) (first, false)).1 = groupToKick at hmem ⊢
      have hin : groupToKick ∈ pool.selectedGroups.zipIdx := by
        rw [hgroups]
        simpa using hmem
      obtain ⟨hi, hg⟩ := List.getElem?_eq_some_iff.mp (List.mem_zipIdx_iff_getElem?.mp hin)
      exact .inr ⟨groupToKick.2, hi, by simp [hcount, hg]⟩

theorem Booked.kickGroup {rest : List Nat} (h : s.Booked queue slots ⟨pool, rest⟩) (size : UInt32) :
    s.Booked queue slots ⟨(s.kickGroup pool size).1, rest⟩ ∧
      groupsLeft ⟨(s.kickGroup pool size).1, rest⟩ ≤ groupsLeft ⟨pool, rest⟩ ∧ (pool.playerCount ≠ 0 →
        groupsLeft ⟨(s.kickGroup pool size).1, rest⟩ < groupsLeft ⟨pool, rest⟩) := by
  cases s.kickGroup_cases pool size with
  | inl hsame =>
    obtain ⟨hempty, hsame⟩ := hsame
    rw [hsame]
    refine ⟨h, Nat.le_refl _, fun hcount => ?_⟩
    cases hempty with
    | inl hnil => exact absurd (by rw [h.holds.count, hnil]; rfl) hcount
    | inr hzero => exact absurd hzero hcount
  | inr hkicked =>
    obtain ⟨i, hi, hpool⟩ := hkicked
    have hperm := List.set_perm_cons_eraseIdx hi pool.selectedGroups[i]
    rw [List.set_getElem_self] at hperm
    have hsum := (hperm.map s.groupSize).sum_eq
    rw [List.map_cons, List.sum_cons] at hsum
    have hsub : (pool.selectedGroups.eraseIdx i).Sublist pool.selectedGroups :=
      List.eraseIdx_sublist _ _
    have hlength := List.length_eraseIdx_of_lt hi
    have hless : groupsLeft ⟨(s.kickGroup pool size).1, rest⟩ < groupsLeft ⟨pool, rest⟩ := by
      simp only [hpool, groupsLeft]
      omega
    refine ⟨⟨⟨?_, ?_, ?_⟩, ?_⟩, hless.le, fun _ => hless⟩
    · have hcount : pool.playerCount = (pool.selectedGroups.map s.groupSize).sum := h.holds.count
      simp only [hpool]
      omega
    · rw [hpool]
      exact (Nat.sub_le _ _).trans h.holds.fits
    · rw [hpool]
      exact fun g hg => h.holds.waiting g (hsub.subset hg)
    · rw [hpool]
      exact (hsub.append (List.Sublist.refl _)).trans h.inOrder

theorem refillCount_le {free count : UInt32} {diffOther : Int32} (hcount : count ≤ free)
    (hdiff : free.toInt32 - count.toInt32 ≤ diffOther) : refillCount free diffOther ≤ free := by
  rw [refillCount]
  split
  case isFalse => exact UInt32.zero_le
  case isTrue hle =>
    have hother : diffOther = diffOther.toUInt32.toInt32 := (Int32.toInt32_toUInt32 diffOther).symm
    generalize diffOther.toUInt32 = other at hother
    subst hother
    rw [← UInt32.toInt32_sub] at hdiff ⊢
    rw [Int32.le_iff_toInt_le, toInt_toInt32, toInt_toInt32, UInt32.toNat_sub_of_le free count hcount] at hdiff
    rw [Int32.le_iff_toInt_le, toInt_toInt32, toInt_toInt32] at hle
    rw [UInt32.le_iff_toNat_le] at hcount
    rw [UInt32.toUInt32_toInt32, UInt32.le_iff_toNat_le, UInt32.toNat_sub]
    have hfree := free.toNat_lt
    have hother := other.toNat_lt
    simp only [Int.bmod_def] at hdiff hle
    omega

theorem refillCount_eq_zero {free : UInt32} {diffOther : Int32}
    (hdiff : free.toInt32 - (UInt32.ofNat 0).toInt32 < diffOther) : refillCount free diffOther = 0 := by
  have hzero : free.toInt32 - (UInt32.ofNat 0).toInt32 = free.toInt32 := Int32.sub_zero free.toInt32
  rw [hzero] at hdiff
  exact if_neg (Int32.not_le.mpr hdiff)

theorem Booked.kickAndRefill {fill : TeamFill} {desiredCount : UInt32}
    (h : s.Booked queue slots fill) (size : UInt32) (hdesired : desiredCount.toNat ≤ slots) :
    s.Booked queue slots (s.kickAndRefill size desiredCount fill) ∧
      groupsLeft (s.kickAndRefill size desiredCount fill) ≤ groupsLeft fill ∧ (fill.pool.playerCount ≠ 0 →
        groupsLeft (s.kickAndRefill size desiredCount fill) < groupsLeft fill) := by
  obtain ⟨hkicked, hle, hless⟩ := Booked.kickGroup h size
  rw [BattleGroundQueue.kickAndRefill]
  split
  · obtain ⟨hadded, hleft⟩ := hkicked.addGroups hdesired
    exact ⟨hadded, hleft.trans hle, fun hcount => hleft.trans_lt (hless hcount)⟩
  · exact ⟨hkicked, hle, hless⟩

theorem Booked.kickAndRefill_empty {fill : TeamFill} (h : s.Booked queue slots fill)
    (hempty : fill.pool.playerCount = 0) (size : UInt32) : (s.kickAndRefill size 0 fill).pool.playerCount = 0 := by
  have hnone : s.Booked queue 0 fill :=
    ⟨⟨h.holds.count, hempty.le, h.holds.waiting⟩, h.inOrder⟩
  have hdesired : (0 : UInt32).toNat ≤ 0 := Nat.le_refl 0
  exact Nat.le_zero.mp (hnone.kickAndRefill size hdesired).1.holds.fits

section Balance

variable {queues : Team → List Nat} {free : Team → UInt32} {fill : Team → TeamFill} {team : Team}

def BothBooked (s : BattleGroundQueue) (queues : Team → List Nat) (free : Team → UInt32)
    (fill : Team → TeamFill) : Prop :=
  ∀ team, s.Booked (queues team) (free team).toNat (fill team)

def groupsOfBoth (fill : Team → TeamFill) : Nat :=
  groupsLeft (fill .alliance) + groupsLeft (fill .horde)

theorem groupsOfBoth_eq (fill : Team → TeamFill) (team : Team) :
    groupsOfBoth fill = groupsLeft (fill team) + groupsLeft (fill team.other) := by
  cases team with
  | alliance => rfl
  | horde => exact Nat.add_comm _ _

theorem other_ne (team : Team) : team.other ≠ team := by cases team <;> decide

theorem BothBooked.update (h : s.BothBooked queues free fill) {own : TeamFill}
    (hown : s.Booked (queues team) (free team).toNat own) : s.BothBooked queues free (update fill team own) := by
  intro team'
  by_cases hsame : team' = team
  · subst hsame
    rwa [update_self]
  · rw [update_of_ne hsame]
    exact h team'

theorem BothBooked.refillCount_le (h : s.BothBooked queues free fill)
    (hdiff : diff free fill team ≤ diff free fill team.other) :
    (refillCount (free team) (diff free fill team.other)).toNat ≤ (free team).toNat := by
  have hfits := (h team).holds.fits
  have hlt := (free team).toNat_lt
  apply UInt32.le_iff_toNat_le.mp
  apply BattleGroundQueue.refillCount_le _ hdiff
  rw [UInt32.le_iff_toNat_le, UInt32.toNat_ofNat_of_lt' (by rw [UInt32.size]; omega)]
  exact hfits

theorem BothBooked.kickTurn (h : s.BothBooked queues free fill)
    (hdiff : diff free fill team < diff free fill team.other)
    (hsome : (fill team).pool.playerCount ≠ 0 ∨ (fill team.other).pool.playerCount ≠ 0) :
    s.BothBooked queues free (s.kickTurn free fill team).1 ∧ ((s.kickTurn free fill team).2 = false →
        groupsOfBoth (s.kickTurn free fill team).1 < groupsOfBoth fill) := by
  rw [BattleGroundQueue.kickTurn, groupsOfBoth_eq fill team]
  dsimp only
  generalize (diff free fill team.other - diff free fill team).toUInt32 = size
  obtain ⟨hown, hle, hless⟩ := (h team).kickAndRefill size (h.refillCount_le (Int32.le_of_lt hdiff))
  have hempty : (fill team).pool.playerCount = 0 →
      (s.kickAndRefill size (refillCount (free team) (diff free fill team.other))
        (fill team)).pool.playerCount = 0 := by
    intro hzero
    rw [diff, hzero] at hdiff
    rw [refillCount_eq_zero hdiff]
    exact (h team).kickAndRefill_empty hzero size
  generalize s.kickAndRefill size (refillCount (free team) (diff free fill team.other))
    (fill team) = own at hown hle hless hempty ⊢
  have hne := other_ne team
  by_cases hcount : own.pool.playerCount = 0
  · by_cases hbreak : (free team).toInt32 ≤ diff free fill team.other + 1
    · simp [hcount, hbreak, h.update hown]
    · -- The other team gives a group away too, at least when this one had none to give.
      obtain ⟨hother, hle', hless'⟩ := Booked.kickGroup (h team.other) size
      refine ⟨by simpa [hcount, hbreak] using (h.update hown).update hother, fun _ => ?_⟩
      rw [groupsOfBoth_eq _ team]
      simp only [hcount, hbreak, ne_eq, not_true_eq_false, if_false, update_self, update_of_ne hne.symm]
      cases hsome with
      | inl hteam => exact Nat.add_lt_add_of_lt_of_le (hless hteam) hle'
      | inr hteam => exact Nat.add_lt_add_of_le_of_lt hle (hless' hteam)
  · have hfewer := hless fun hzero => hcount (hempty hzero)
    refine ⟨by simpa [hcount] using h.update hown, fun _ => ?_⟩
    rw [groupsOfBoth_eq _ team]
    simp [hcount, update_of_ne hne, hfewer]

theorem BothBooked.balanceTurn (h : s.BothBooked queues free fill) (hgo : unbalanced free fill = true) :
    s.BothBooked queues free (s.balanceTurn free fill).1 ∧ ((s.balanceTurn free fill).2 = false →
        groupsOfBoth (s.balanceTurn free fill).1 < groupsOfBoth fill) := by
  simp only [unbalanced, Bool.and_eq_true, Bool.or_eq_true, decide_eq_true_eq] at hgo
  obtain ⟨hfar, hsome⟩ := hgo
  rw [BattleGroundQueue.balanceTurn]
  split
  case isTrue hali => exact h.kickTurn hali (by simp only [Team.other]; omega)
  case isFalse hhorde =>
    -- The differences are not the same, as they are not even next to each other.
    have hne : diff free fill .horde ≠ diff free fill .alliance := by
      intro hsame
      rw [hsame, Int32.sub_self] at hfar
      exact absurd hfar (by decide)
    have hlt := Int32.lt_of_le_of_ne (Int32.not_lt.mp hhorde) hne
    exact h.kickTurn hlt (by simp only [Team.other]; omega)

theorem bothBooked_start (s : BattleGroundQueue) (free : Team → UInt32) (queues : Team → List Nat) :
    s.BothBooked queues free fun team => s.addGroups (free team) .init (queues team) :=
  fun _ => ((booked_init s _ _).addGroups (Nat.le_refl _)).1

end Balance

theorem fillPlayersToBG_booked (s : BattleGroundQueue) (bg : BattleGround)
    (bracketId : Fin maxBattlegroundBrackets) (invitationType : Nat) : ∃ pools : Team → SelectionPool,
      (∀ fuel, (s.queuedGroups ⟨bracketId, .normal .alliance⟩).length +
          (s.queuedGroups ⟨bracketId, .normal .horde⟩).length < fuel →
        s.fillPlayersToBG bg bracketId invitationType (fun _ => .init) fuel = some pools) ∧
      ∀ team, s.Holds (bg.getFreeSlotsForTeam team).toNat (pools team) ∧
        (pools team).selectedGroups.Sublist (s.queuedGroups ⟨bracketId, .normal team⟩) := by
  let queues (team : Team) := s.queuedGroups ⟨bracketId, .normal team⟩
  have hstart := s.bothBooked_start bg.getFreeSlotsForTeam queues
  have hpools : ∀ fill, s.BothBooked queues bg.getFreeSlotsForTeam fill → ∀ team,
      s.Holds (bg.getFreeSlotsForTeam team).toNat (fill team).pool ∧
        (fill team).pool.selectedGroups.Sublist (queues team) := by
    intro fill hfill team
    exact ⟨(hfill team).holds, (List.sublist_append_left _ _).trans (hfill team).inOrder⟩
  by_cases htype : invitationType = 0
  · refine ⟨_, fun fuel _ => ?_, hpools _ hstart⟩
    simp [fillPlayersToBG, htype, queues]
  · obtain ⟨final, hfinal, hbooked⟩ := whileLoop_ends groupsOfBoth
      (fun fill hfill hgo => (hfill.balanceTurn hgo).1)
      (fun fill hfill hgo => (hfill.balanceTurn hgo).2) hstart
    refine ⟨fun team => (final team).pool, fun fuel hfuel => ?_, hpools final hbooked⟩
    have hali := (hstart .alliance).groupsLeft_le
    have hhorde := (hstart .horde).groupsLeft_le
    have hends := hfinal fuel (lt_of_le_of_lt (Nat.add_le_add hali hhorde) hfuel)
    simp only [fillPlayersToBG, htype, if_false]
    rw [hends, Option.map_some]

theorem freeSlots_le (bg : BattleGround) (team : Team) :
    (bg.invitedCount team).toNat + (bg.getFreeSlotsForTeam team).toNat ≤
      max (bg.invitedCount team).toNat bg.maxPlayersPerTeam.toNat := by
  rw [BattleGround.getFreeSlotsForTeam]
  split_ifs with _ hlt
  · have hle := UInt32.le_of_lt hlt
    rw [UInt32.toNat_sub_of_le _ _ hle, Nat.add_sub_of_le (UInt32.le_iff_toNat_le.mp hle)]
    exact le_max_right _ _
  · exact le_max_left _ _
  · exact le_max_left _ _

theorem invitedCount_players (online : Nat → Bool) (t : Team) (players : List Nat) (bg : BattleGround)
    (team : Team) : ((players.foldl (fun bg guid => if online guid then bg.increaseInvitedCount t else bg)
        bg).invitedCount team).toNat ≤ (bg.invitedCount team).toNat + if t = team then players.length else 0 := by
  induction players generalizing bg with
  | nil => exact Nat.le_add_right _ _
  | cons guid players ih =>
    have hone : ((if online guid then bg.increaseInvitedCount t else bg).invitedCount team).toNat ≤
        (bg.invitedCount team).toNat + if t = team then 1 else 0 := by
      split
      · by_cases hteam : team = t
        · subst hteam
          have hnext := UInt32.toNat_add (bg.invitedCount team) 1
          simp only [BattleGround.increaseInvitedCount, update_self, if_true, hnext]
          exact Nat.mod_le _ _
        · simp [BattleGround.increaseInvitedCount, update_of_ne hteam]
      · exact Nat.le_add_right _ _
    have hrest := ih (if online guid then bg.increaseInvitedCount t else bg)
    rw [List.foldl_cons, List.length_cons]
    by_cases hteam : t = team
    · rw [if_pos hteam] at hone hrest ⊢
      omega
    · rw [if_neg hteam] at hone hrest ⊢
      exact hrest.trans hone

theorem groupSize_inviteGroupToBG (s : BattleGroundQueue) (g : Nat) (side : Option Team)
    (instanceId removeInviteTime : Nat) :
    (s.inviteGroupToBG g side instanceId removeInviteTime).groupSize = s.groupSize := by
  funext g'
  rw [inviteGroupToBG, groupSize, groups_modifyGroup, groupSize]
  split
  · cases s.groups g' with
    | none => rfl
    | some ginfo => cases side <;> simp only [Option.map_some, Option.elim_some] <;> split <;> rfl
  · rfl

theorem inviteToRunning_spec (online : Nat → Bool) (removeInviteTime : Nat) (s : BattleGroundQueue)
    (bg : BattleGround) (g : Nat) : (inviteToRunning online removeInviteTime (s, bg) g).1.groupSize = s.groupSize ∧
      (inviteToRunning online removeInviteTime (s, bg) g).1.teamOf = s.teamOf ∧
      ∀ team, ((inviteToRunning online removeInviteTime (s, bg) g).2.invitedCount team).toNat ≤
        (bg.invitedCount team).toNat + if s.teamOf g = team then s.groupSize g else 0 := by
  cases hg : s.groups g with
  | none => simp [inviteToRunning, hg]
  | some ginfo =>
    simp only [inviteToRunning, hg]
    refine ⟨groupSize_inviteGroupToBG s g _ _ _, ?_, fun team => ?_⟩
    · rw [teamOf_inviteGroupToBG hg, ← teamOf_eq hg, update_eq_self]
    · rw [teamOf_eq hg, groupSize_eq hg]
      split
      · have hplayers := invitedCount_players online ginfo.groupTeam
          (ginfo.players.sort (· ≤ ·)) bg team
        rwa [Finset.length_sort] at hplayers
      · exact Nat.le_add_right _ _

theorem invitedCount_groups (online : Nat → Bool) (removeInviteTime : Nat) (groups : List Nat)
    (s : BattleGroundQueue) (bg : BattleGround) (team : Team) :
    ((groups.foldl (inviteToRunning online removeInviteTime) (s, bg)).2.invitedCount team).toNat ≤
      (bg.invitedCount team).toNat + ((groups.filter fun g => s.teamOf g = team).map s.groupSize).sum := by
  induction groups generalizing s bg with
  | nil => exact Nat.le_add_right _ _
  | cons g groups ih =>
    obtain ⟨hsize, hteam, hcount⟩ := inviteToRunning_spec online removeInviteTime s bg g
    have hrest := ih (inviteToRunning online removeInviteTime (s, bg) g).1
      (inviteToRunning online removeInviteTime (s, bg) g).2
    have hfirst := hcount team
    rw [hsize, hteam] at hrest
    rw [List.foldl_cons]
    apply hrest.trans
    by_cases hsame : s.teamOf g = team
    · rw [if_pos hsame] at hfirst
      simp only [hsame, List.filter_cons, decide_true, if_true, List.map_cons, List.sum_cons]
      omega
    · rw [if_neg hsame] at hfirst
      simp only [hsame, List.filter_cons, decide_false]
      simp only [Bool.false_eq_true, if_false]
      omega

theorem invitedCount_pools (online : Nat → Bool) (removeInviteTime : Nat)
    {pools : Team → SelectionPool} (bg : BattleGround)
    (hpools : ∀ team, ∀ g ∈ (pools team).selectedGroups, s.teamOf g = team) (team : Team) :
    ((invitePools online removeInviteTime pools (s, bg)).2.invitedCount team).toNat ≤
      (bg.invitedCount team).toNat + ((pools team).selectedGroups.map s.groupSize).sum := by
  have hown : (((pools .alliance).selectedGroups ++ (pools .horde).selectedGroups).filter
      fun g => s.teamOf g = team) = (pools team).selectedGroups := by
    have hall : ∀ team', (pools team').selectedGroups.filter (fun g => s.teamOf g = team) =
        if team' = team then (pools team').selectedGroups else [] := by
      intro team'
      split
      case isTrue hsame =>
        exact List.filter_eq_self.mpr fun g hg => decide_eq_true ((hpools team' g hg).trans hsame)
      case isFalse hother =>
        apply List.filter_eq_nil_iff.mpr
        intro g hg
        rw [hpools team' g hg]
        simpa using hother
    rw [List.filter_append, hall, hall]
    cases team with
    | alliance => simp
    | horde => simp
  have hcount := invitedCount_groups online removeInviteTime
    ((pools .alliance).selectedGroups ++ (pools .horde).selectedGroups) s bg team
  rwa [hown] at hcount

end BattleGroundQueue

/-- Filling a running battleground ends. Its pools are counted right, fit into the free slots, have no group twice and
none that is invited, and inviting them overbooks no team. -/
theorem fillPlayersToBG_never_overbooks {es : List QueueEvent} {s : BattleGroundQueue}
    (hnew : Guarded queueStep JoinsNew .empty es) (hs : run queueStep .empty es = s)
    (bg : BattleGround) (bracketId : Fin maxBattlegroundBrackets) (invitationType : Nat) :
    ∃ pools : Team → SelectionPool, (∀ fuel, (s.queuedGroups ⟨bracketId, .normal .alliance⟩).length +
          (s.queuedGroups ⟨bracketId, .normal .horde⟩).length < fuel →
        s.fillPlayersToBG bg bracketId invitationType (fun _ => .init) fuel = some pools) ∧
      (∀ team, s.Holds (bg.getFreeSlotsForTeam team).toNat (pools team) ∧
        (pools team).selectedGroups.Nodup) ∧ ∀ online removeInviteTime team,
        ((BattleGroundQueue.invitePools online removeInviteTime pools (s, bg)).2.invitedCount team).toNat ≤
          max (bg.invitedCount team).toNat bg.maxPlayersPerTeam.toNat := by
  have hplaced : s.Placed s.teamOf :=
    hs ▸ run_invariant placed_queueStep hnew BattleGroundQueue.placed_empty
  obtain ⟨pools, hends, hbooked⟩ := s.fillPlayersToBG_booked bg bracketId invitationType
  refine ⟨pools, hends, fun team => ?_, fun online removeInviteTime team => ?_⟩
  · exact ⟨(hbooked team).1, (hbooked team).2.nodup (hplaced.nodup _)⟩
  · have hteams : ∀ team, ∀ g ∈ (pools team).selectedGroups, s.teamOf g = team := by
      intro team g hg
      rw [← (hplaced.once ((hbooked team).2.subset hg)).2]
      exact QueueGroupType.team_normal team
    have hcount := BattleGroundQueue.invitedCount_pools online removeInviteTime bg hteams team
    have hholds := (hbooked team).1
    have hfits := hholds.fits
    rw [hholds.count] at hfits
    exact hcount.trans ((Nat.add_le_add_left hfits _).trans (BattleGroundQueue.freeSlots_le bg team))

private def secondBracket : Fin maxBattlegroundBrackets := ⟨1, by decide⟩

private def wait (leader : Nat) (team : Team) (members : List Nat) (hleader : leader ∈ members) :
    QueueEvent :=
  .addGroup secondBracket ⟨leader, team, some members, by simpa using hleader⟩ false false 0 0 0

/-- A group of three and a player alone wait for the alliance, a player alone waits for the horde. -/
private def waiting : List QueueEvent :=
  [wait 1 .alliance [1, 2, 3] (by decide), wait 4 .alliance [4] (by decide), wait 5 .horde [5] (by decide)]

private def fivePerTeam : BattleGround := ⟨7, .inProgress, 5, fun _ => 0⟩

/-- The group of three does not play, so that the teams are even. -/
theorem fillPlayersToBG_never_overbooks_even : ∃ pools : Team → SelectionPool,
      (run queueStep .empty waiting).fillPlayersToBG fivePerTeam secondBracket 1 (fun _ => .init) 4 =
        some pools ∧ ∀ online team, ((BattleGroundQueue.invitePools online 80 pools
          (run queueStep .empty waiting, fivePerTeam)).2.invitedCount team).toNat ≤ 5 := by
  have hnew : Guarded queueStep JoinsNew .empty waiting := by decide +kernel
  obtain ⟨pools, hends, -, hinvited⟩ :=
    fillPlayersToBG_never_overbooks hnew rfl fivePerTeam secondBracket 1
  refine ⟨pools, hends 4 (by decide +kernel), fun online team => ?_⟩
  exact hinvited online 80 team

example : ((run queueStep .empty waiting).fillPlayersToBG fivePerTeam secondBracket 1
    (fun _ => .init) 4).map (fun pools => ((pools .alliance).selectedGroups,
      (pools .horde).selectedGroups)) = some ([1], [2]) := by
  decide +kernel

end Mangos
