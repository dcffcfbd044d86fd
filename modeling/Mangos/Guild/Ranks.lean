import Mangos.Framework.Run
import Mangos.Guild.Guild

/-!
# Ranks and members of a guild

A rank is known by its place, so deleting a rank renumbers those behind it, and moving the first rank moves
the guild master.
-/

namespace Mangos

open Framework

namespace Guild

def rankOf (guild : Guild) (guid : Nat) : Option RankInfo :=
  (guild.getMemberSlot guid).bind fun slot => guild.ranks[slot.rankId]?

/-- The members hold ranks that exist, and the first rank is that of the leader. -/
structure RanksValid (guild : Guild) : Prop where
  below : ∀ p ∈ guild.members, p.2.rankId < guild.ranks.length
  master : ∀ p ∈ guild.members, p.2.rankId = grGuildmaster ↔ p.1 = guild.leaderGuid

/-- The invariant of a guild: besides, the slots are kept under the guids of the members, the leader is
one of them, and there are ranks for a guild master and an officer. -/
structure Consistent (guild : Guild) : Prop where
  ranks : guild.RanksValid
  nodup : (guild.members.map (·.1)).Nodup
  guid : ∀ p ∈ guild.members, p.2.guid = p.1
  leader : guild.leaderGuid ∈ guild.members.map (·.1)
  minCount : guildRanksMinCount ≤ guild.ranks.length

variable {guild : Guild}

theorem mem_of_getMemberSlot {guid : Nat} {slot : MemberSlot}
    (h : guild.getMemberSlot guid = some slot) : (guid, slot) ∈ guild.members := lookupKey_mem h

theorem Consistent.changeRank (h : guild.Consistent) {target newRank : Nat}
    (htarget : target ≠ guild.leaderGuid) (hfirst : newRank ≠ grGuildmaster)
    (hbelow : newRank < guild.ranks.length) : (guild.changeRank target newRank).Consistent := by
  have hkeys := keys_modifyKey (k := target) (l := guild.members)
    (f := fun slot => { slot with rankId := newRank })
  refine ⟨⟨fun p hp => ?_, fun p hp => ?_⟩, ?_, fun p hp => ?_, ?_, h.minCount⟩
  · rcases mem_modifyKey_of_nodup h.nodup hp with ⟨hold, -⟩ | ⟨-, slot, -, hslot⟩
    · exact h.ranks.below p hold
    · rw [hslot]
      exact hbelow
  · rcases mem_modifyKey_of_nodup h.nodup hp with ⟨hold, -⟩ | ⟨hkey, slot, -, hslot⟩
    · exact h.ranks.master p hold
    · rw [hslot, hkey]
      exact iff_of_false hfirst htarget
  · exact hkeys ▸ h.nodup
  · rcases mem_modifyKey hp with hold | ⟨hkey, slot, hmem, hslot⟩
    · exact h.guid p hold
    · rw [hslot, hkey]
      exact h.guid _ hmem
  · exact hkeys ▸ h.leader

theorem Consistent.ne_leader (h : guild.Consistent) {guid : Nat} {slot : MemberSlot}
    (hslot : guild.getMemberSlot guid = some slot) (hrank : slot.rankId ≠ grGuildmaster) : guid ≠ guild.leaderGuid :=
  fun hleader => hrank ((h.ranks.master _ (mem_of_getMemberSlot hslot)).mpr hleader)

theorem Consistent.promote (h : guild.Consistent) (invoker invokerRank target : Nat) :
    (guild.promote invoker invokerRank target).Consistent := by
  rw [Guild.promote]
  split
  · exact h
  split
  · exact h
  next slot hslot =>
    split
    · exact h
    split
    · exact h
    next hrank =>
      have hbelow := h.ranks.below _ (mem_of_getMemberSlot hslot)
      have hne : slot.rankId ≠ grGuildmaster := by
        rw [grGuildmaster]
        omega
      apply h.changeRank (h.ne_leader hslot hne)
      · rw [grGuildmaster]
        omega
      · exact lt_of_le_of_lt (Nat.sub_le _ _) hbelow

theorem Consistent.demote (h : guild.Consistent) (invoker invokerRank target : Nat) :
    (guild.demote invoker invokerRank target).Consistent := by
  rw [Guild.demote]
  split
  · exact h
  split
  · exact h
  next slot hslot =>
    split
    · exact h
    split
    · exact h
    next hrank =>
      split
      · exact h
      next hlowest =>
        have hne : slot.rankId ≠ grGuildmaster := by
          rw [grGuildmaster]
          omega
        rw [getLowestRank] at hlowest
        apply h.changeRank (h.ne_leader hslot hne)
        · exact Nat.succ_ne_zero _
        · omega

theorem Consistent.setRank (h : guild.Consistent) (invoker invokerRank target newRankId : Nat) :
    (guild.setRank invoker invokerRank target newRankId).Consistent := by
  rw [Guild.setRank]
  split
  · exact h
  next slot hslot =>
    split
    · exact h
    split
    · exact h
    next hrank =>
      rw [Bool.or_eq_true, decide_eq_true_eq, decide_eq_true_eq, not_or] at hrank
      have hset : invokerRank < slot.rankId → newRankId ≠ grGuildmaster →
          (guild.changeRank target newRankId).Consistent := by
        intro hlower hfirst
        have hne : slot.rankId ≠ grGuildmaster := by
          rw [grGuildmaster]
          omega
        exact h.changeRank (h.ne_leader hslot hne) hfirst (not_le.mp hrank.2)
      split
      · split
        · exact h
        split
        · exact h
        next hhigh =>
          rw [Bool.or_eq_true, decide_eq_true_eq, decide_eq_true_eq, not_or] at hhigh
          apply hset
          · omega
          · rw [grGuildmaster]
            omega
      · split
        · exact h
        split
        · exact h
        · apply hset
          · omega
          · rw [grGuildmaster]
            omega

theorem Consistent.setLeader_mem (h : guild.Consistent) {guid : Nat} {slot : MemberSlot}
    (hslot : guild.getMemberSlot guid = some slot) {p : Nat × MemberSlot}
    (hp : p ∈ (guild.setLeader guid).members) : p.2.guid = p.1 ∧ p.2.rankId < guild.ranks.length ∧
      (p.1 = guid → p.2.rankId = grGuildmaster) ∧
      (p.1 ≠ guid → p.1 ≠ guild.leaderGuid → p.2.rankId ≠ grGuildmaster) := by
  rw [Guild.setLeader, hslot] at hp
  have hpos : 0 < guild.ranks.length := lt_of_lt_of_le (by decide) h.minCount
  rcases mem_modifyKey_of_nodup h.nodup hp with ⟨hold, hne⟩ | ⟨hkey, old, hmem, hnew⟩
  · exact ⟨h.guid p hold, h.ranks.below p hold, fun heq => absurd heq hne,
      fun _ hleader hrank => hleader ((h.ranks.master p hold).mp hrank)⟩
  · rw [hnew]
    exact ⟨(h.guid _ hmem).trans hkey.symm, hpos, fun _ => rfl, fun hne => absurd hkey hne⟩

theorem setLeader_ranks (guid : Nat) : (guild.setLeader guid).ranks = guild.ranks := by
  rw [Guild.setLeader]
  split <;> rfl

theorem setLeader_keys (guid : Nat) : (guild.setLeader guid).members.map (·.1) = guild.members.map (·.1) := by
  rw [Guild.setLeader]
  split
  · rfl
  · exact keys_modifyKey

theorem setLeader_leaderGuid {guid : Nat} {slot : MemberSlot}
    (hslot : guild.getMemberSlot guid = some slot) : (guild.setLeader guid).leaderGuid = guid := by
  rw [Guild.setLeader, hslot]
  rfl

theorem Consistent.changeLeader (h : guild.Consistent) (invoker target : Nat) :
    (guild.changeLeader invoker target).Consistent := by
  rw [Guild.changeLeader]
  split
  · exact h
  next hinvoker =>
    rw [not_not] at hinvoker
    split
    next slot' slot hold hslot =>
      have hguid : slot.guid = target := h.guid _ (mem_of_getMemberSlot hslot)
      split
      · exact h
      next hne =>
        rw [hguid] at hne ⊢
        have hkeys : ((guild.setLeader target).changeRank invoker grOfficer).members.map (·.1) =
            guild.members.map (·.1) := keys_modifyKey.trans (setLeader_keys target)
        have hnodup : ((guild.setLeader target).members.map (·.1)).Nodup := by
          rw [setLeader_keys]
          exact h.nodup
        have hranks : ((guild.setLeader target).changeRank invoker grOfficer).ranks =
            guild.ranks := setLeader_ranks target
        have hleader : ((guild.setLeader target).changeRank invoker grOfficer).leaderGuid =
            target := setLeader_leaderGuid hslot
        have hofficer : grOfficer < guild.ranks.length := lt_of_lt_of_le (by decide) h.minCount
        refine ⟨⟨fun p hp => ?_, fun p hp => ?_⟩, hkeys ▸ h.nodup, fun p hp => ?_, ?_, ?_⟩
        · rw [hranks]
          rcases mem_modifyKey_of_nodup hnodup hp with ⟨hp', -⟩ | ⟨-, v, -, hv⟩
          · exact (h.setLeader_mem hslot hp').2.1
          · rw [hv]
            exact hofficer
        · rw [hleader]
          rcases mem_modifyKey_of_nodup hnodup hp with ⟨hp', hother⟩ | ⟨hkey, v, -, hv⟩
          · obtain ⟨-, -, hnew, hrest⟩ := h.setLeader_mem hslot hp'
            rw [hinvoker] at hother
            exact ⟨fun hrank => by_contra fun hpt => hrest hpt hother hrank, hnew⟩
          · rw [hv, hkey]
            exact iff_of_false Nat.one_ne_zero (Ne.symm hne)
        · rcases mem_modifyKey hp with hp' | ⟨hkey, v, hv, hpv⟩
          · exact (h.setLeader_mem hslot hp').1
          · rw [hpv, hkey]
            exact (h.setLeader_mem hslot hv).1
        · rw [hleader, hkeys]
          exact List.mem_map_of_mem (mem_of_getMemberSlot hslot)
        · rw [hranks]
          exact h.minCount
    next => exact h

theorem Consistent.addMember (h : guild.Consistent) (order : Shuffle (Nat × MemberSlot))
    {guid : Nat} (hnew : guild.getMemberSlot guid = none) :
    (guild.insertMember order guid guild.getLowestRank).Consistent := by
  have hkey : guid ∉ guild.members.map (·.1) := by
    rw [← lookupKey_isSome_iff]
    show ¬ (guild.getMemberSlot guid).isSome
    rw [hnew]
    exact Bool.false_ne_true
  have hperm : (guild.insertMember order guid guild.getLowestRank).members.Perm
      ((guid, .new guid guild.getLowestRank) :: guild.members) := by
    rw [insertMember, hnew]
    exact order.perm _
  have hcount := h.minCount
  rw [guildRanksMinCount] at hcount
  refine ⟨⟨fun p hp => ?_, fun p hp => ?_⟩, ?_, fun p hp => ?_, ?_, h.minCount⟩
  · rcases List.mem_cons.mp (hperm.mem_iff.mp hp) with rfl | hold
    · show guild.ranks.length - 1 < guild.ranks.length
      omega
    · exact h.ranks.below p hold
  · rcases List.mem_cons.mp (hperm.mem_iff.mp hp) with rfl | hold
    · have hrank : guild.ranks.length - 1 ≠ 0 := by omega
      have hleader : guid ≠ guild.leaderGuid := fun heq => hkey (heq ▸ h.leader)
      exact iff_of_false hrank hleader
    · exact h.ranks.master p hold
  · rw [(hperm.map _).nodup_iff]
    exact List.nodup_cons.mpr ⟨hkey, h.nodup⟩
  · rcases List.mem_cons.mp (hperm.mem_iff.mp hp) with rfl | hold
    · rfl
    · exact h.guid p hold
  · exact (hperm.map _).mem_iff.mpr (List.mem_cons_of_mem _ h.leader)

theorem bestOther_mem {guid : Nat} {members : List (Nat × MemberSlot)} {best : Nat × MemberSlot}
    (h : bestOther guid members = some best) : best ∈ members ∧ best.1 ≠ guid := by
  have hfound : ∀ found ∈ bestOther guid members, found ∈ members ∧ found.1 ≠ guid := by
    apply List.foldlRecOn (motive := fun found : Option (Nat × MemberSlot) =>
      ∀ p ∈ found, p ∈ members ∧ p.1 ≠ guid)
    · exact fun p hp => absurd hp nofun
    · intro found hfound p hp q hq
      split at hq
      · exact hfound q hq
      next hne =>
        split at hq
        · cases hq
          exact ⟨hp, hne⟩
        · split at hq
          · cases hq
            exact ⟨hp, hne⟩
          · exact hfound q hq
  exact hfound best h

theorem getMemberSlot_of_mem {p : Nat × MemberSlot}
    (hp : p ∈ guild.members) : ∃ slot, guild.getMemberSlot p.1 = some slot := by
  have hsome : (guild.getMemberSlot p.1).isSome :=
    lookupKey_isSome_iff.mpr (List.mem_map_of_mem hp)
  exact Option.isSome_iff_exists.mp hsome

theorem Consistent.delMember (h : guild.Consistent) (guid : Nat)
    (hleft : (guild.delMember guid false).2 = false) : (guild.delMember guid false).1.Consistent := by
  rw [Guild.delMember] at hleft ⊢
  split
  next hleader =>
    rw [if_pos hleader] at hleft
    rw [Bool.and_eq_true, decide_eq_true_eq] at hleader
    split
    next hnone =>
      rw [hnone] at hleft
      exact absurd hleft nofun
    next best hbest =>
      obtain ⟨hmem, hother⟩ := bestOther_mem hbest
      obtain ⟨slot, hslot⟩ := getMemberSlot_of_mem hmem
      have hkeys := @setLeader_keys guild best.1
      have hnodup : ((guild.setLeader best.1).members.map (·.1)).Nodup := hkeys ▸ h.nodup
      have hnew := setLeader_leaderGuid hslot
      refine ⟨⟨fun p hp => ?_, fun p hp => ?_⟩, ?_, fun p hp => ?_, ?_, ?_⟩
      · obtain ⟨hp', -⟩ := mem_eraseKey_of_nodup hnodup hp
        show p.2.rankId < (guild.setLeader best.1).ranks.length
        rw [setLeader_ranks]
        exact (h.setLeader_mem hslot hp').2.1
      · obtain ⟨hp', hne⟩ := mem_eraseKey_of_nodup hnodup hp
        obtain ⟨-, -, hfirst, hrest⟩ := h.setLeader_mem hslot hp'
        show p.2.rankId = grGuildmaster ↔ p.1 = (guild.setLeader best.1).leaderGuid
        rw [hnew]
        rw [← hleader.1] at hne
        exact ⟨fun hrank => by_contra fun hpb => hrest hpb hne hrank, hfirst⟩
      · exact hnodup.sublist (eraseKey_sublist.map _)
      · exact (h.setLeader_mem hslot (mem_eraseKey_of_nodup hnodup hp).1).1
      · show (guild.setLeader best.1).leaderGuid ∈ _
        rw [hnew]
        have hthere : best.1 ∈ (guild.setLeader best.1).members.map (·.1) :=
          hkeys ▸ List.mem_map_of_mem hmem
        exact mem_keys_eraseKey hthere hother
      · show guildRanksMinCount ≤ (guild.setLeader best.1).ranks.length
        rw [setLeader_ranks]
        exact h.minCount
  next hother =>
    rw [Bool.and_eq_true, decide_eq_true_eq, not_and] at hother
    have hne : guild.leaderGuid ≠ guid := fun heq => hother heq rfl
    refine ⟨⟨fun p hp => ?_, fun p hp => ?_⟩, ?_, fun p hp => ?_, ?_, h.minCount⟩
    · exact h.ranks.below p (mem_eraseKey_of_nodup h.nodup hp).1
    · exact h.ranks.master p (mem_eraseKey_of_nodup h.nodup hp).1
    · exact h.nodup.sublist (eraseKey_sublist.map _)
    · exact h.guid p (mem_eraseKey_of_nodup h.nodup hp).1
    · exact mem_keys_eraseKey h.leader hne

theorem Consistent.withRanks (h : guild.Consistent) {ranks : List RankInfo}
    (hlength : guild.ranks.length ≤ ranks.length) : { guild with ranks }.Consistent :=
  ⟨⟨fun p hp => (h.ranks.below p hp).trans_le hlength, h.ranks.master⟩, h.nodup, h.guid, h.leader,
    h.minCount.trans hlength⟩

theorem Consistent.setRankRights (h : guild.Consistent) (rankId : Nat) (rights : BitVec 32) :
    (guild.setRankRights rankId rights).Consistent :=
  h.withRanks (List.length_modify _ _ _).ge

theorem Consistent.handleAddRank (h : guild.Consistent) (invoker : Nat) (name : String) :
    (guild.handleAddRank invoker name).Consistent := by
  rw [Guild.handleAddRank]
  split
  · exact h
  split
  · exact h
  next hcount =>
    rw [createRank, if_neg hcount]
    apply h.withRanks
    rw [List.length_append]
    exact Nat.le_add_right _ _

def deletesRank (guild : Guild) (invoker rankId : Nat) : Prop :=
  invoker = guild.leaderGuid ∧ ¬ guild.hasMembersWithRank rankId ∧ rankId < guild.ranks.length ∧
    guildRanksMinCount < guild.ranks.length ∧ guildRanksMinCount ≤ rankId

instance (guild : Guild) (invoker rankId : Nat) : Decidable (guild.deletesRank invoker rankId) :=
  inferInstanceAs (Decidable (_ ∧ ¬ _ ∧ _ ∧ _ ∧ _))

theorem handleDelRank_eq (invoker rankId : Nat) : guild.handleDelRank invoker rankId =
      if guild.deletesRank invoker rankId then { guild with ranks := guild.ranks.eraseIdx rankId }
      else guild := by
  rw [handleDelRank, delRank]
  by_cases hinvoker : invoker = guild.leaderGuid
  · by_cases hmembers : guild.hasMembersWithRank rankId
    · rw [if_neg (not_not.mpr hinvoker), if_pos hmembers, if_neg fun h => h.2.1 hmembers]
    · rw [if_neg (not_not.mpr hinvoker), if_neg hmembers]
      split
      next hle => rw [if_neg fun h => absurd h.2.2.1 (not_lt.mpr hle)]
      next hlt =>
        split
        next hfew =>
          rw [Bool.or_eq_true, decide_eq_true_eq, decide_eq_true_eq] at hfew
          rw [if_neg]
          rintro ⟨-, -, -, hmore, hmin⟩
          omega
        next hmany =>
          rw [Bool.or_eq_true, decide_eq_true_eq, decide_eq_true_eq, not_or] at hmany
          rw [if_pos]
          exact ⟨hinvoker, hmembers, not_le.mp hlt, not_le.mp hmany.1, not_lt.mp hmany.2⟩
  · rw [if_pos hinvoker, if_neg fun h => hinvoker h.1]

theorem Consistent.deleteRank (h : guild.Consistent) {rankId : Nat}
    (hexists : rankId < guild.ranks.length) (hmany : guildRanksMinCount < guild.ranks.length)
    (hlast : ∀ p ∈ guild.members, p.2.rankId < rankId) :
    { guild with ranks := guild.ranks.eraseIdx rankId }.Consistent := by
  have hlength : (guild.ranks.eraseIdx rankId).length = guild.ranks.length - 1 :=
    List.length_eraseIdx_of_lt hexists
  refine ⟨⟨fun p hp => ?_, h.ranks.master⟩, h.nodup, h.guid, h.leader, ?_⟩
  · have hp' := hlast p hp
    show p.2.rankId < (guild.ranks.eraseIdx rankId).length
    omega
  · show guildRanksMinCount ≤ (guild.ranks.eraseIdx rankId).length
    omega

theorem rankOf_deleteRank {rankId : Nat} (hlast : ∀ p ∈ guild.members, p.2.rankId < rankId) (guid : Nat) :
    { guild with ranks := guild.ranks.eraseIdx rankId }.rankOf guid = guild.rankOf guid := by
  show (guild.getMemberSlot guid).bind (fun slot => (guild.ranks.eraseIdx rankId)[slot.rankId]?) = _
  rw [rankOf]
  cases hslot : guild.getMemberSlot guid with
  | none => rfl
  | some slot =>
    exact List.getElem?_eraseIdx_of_lt (hlast _ (mem_of_getMemberSlot hslot))

theorem length_swapRanks (i j : Nat) (ranks : List RankInfo) : (swapRanks i j ranks).length = ranks.length := by
  rw [swapRanks]
  split
  · rw [List.length_set, List.length_set]
  · rfl

/-- Where the rank that was at `k` is after a swap. -/
def swapped (i j k : Nat) : Nat := if k = i then j else if k = j then i else k

theorem getElem?_swapRanks {i j : Nat} {ranks : List RankInfo} (hi : i < ranks.length)
    (hj : j < ranks.length) (k : Nat) : (swapRanks i j ranks)[swapped i j k]? = ranks[k]? := by
  have hri := List.getElem?_eq_getElem hi
  have hrj := List.getElem?_eq_getElem hj
  rw [swapRanks, hri, hrj, swapped]
  dsimp only
  by_cases hki : k = i
  · rw [if_pos hki, hki, hri, List.getElem?_set_self (by rw [List.length_set]; exact hj)]
  · rw [if_neg hki]
    by_cases hkj : k = j
    · have hne : j ≠ i := fun h => hki (hkj.trans h)
      rw [if_pos hkj, hkj, hrj, List.getElem?_set_ne hne, List.getElem?_set_self hi]
    · rw [if_neg hkj, List.getElem?_set_ne (Ne.symm hkj), List.getElem?_set_ne (Ne.symm hki)]

def movesRank (guild : Guild) (invoker rankId : Nat) (up : Bool) : Option Nat :=
  if invoker ≠ guild.leaderGuid || guild.ranks.length ≤ rankId then none
  else if (rankId = grGuildmaster && up) || (rankId = guild.getLowestRank && !up) then none
  else some (if up then rankId - 1 else rankId + 1)

def MemberSlot.follow (i j : Nat) (slot : MemberSlot) : MemberSlot :=
  { slot with rankId := swapped i j slot.rankId }

def swapMembers (guild : Guild) (i j : Nat) : Guild :=
  { guild with
    ranks := swapRanks i j guild.ranks
    members := guild.members.map fun p => (p.1, p.2.follow i j) }

theorem handleSwitchRank_eq (invoker rankId : Nat) (up : Bool) : guild.handleSwitchRank invoker rankId up =
      match guild.movesRank invoker rankId up with
      | none => guild
      | some otherRankId => guild.swapMembers rankId otherRankId := by
  have hfollow : ∀ (j : Nat) (slot : MemberSlot), (if slot.rankId = rankId then { slot with rankId := j }
        else if slot.rankId = j then { slot with rankId := rankId } else slot) = slot.follow rankId j := by
    intro j slot
    rw [MemberSlot.follow, swapped]
    split
    · rfl
    · split <;> rfl
  rw [handleSwitchRank, switchRank]
  by_cases hinvoker : invoker = guild.leaderGuid
  · rw [if_neg (not_not.mpr hinvoker)]
    by_cases hle : guild.ranks.length ≤ rankId
    · have hnone : guild.movesRank invoker rankId up = none := by
        rw [movesRank, if_pos (by simp [hle])]
      rw [if_pos hle, hnone]
    · have hexists : ¬ (decide (invoker ≠ guild.leaderGuid) ||
          decide (guild.ranks.length ≤ rankId)) = true := by simp [hinvoker, hle]
      rw [if_neg hle]
      split
      next hends =>
        have hnone : guild.movesRank invoker rankId up = none := by
          rw [movesRank, if_neg hexists, if_pos hends]
        rw [hnone]
      next hends =>
        have hsome : guild.movesRank invoker rankId up = some (if up then rankId - 1 else rankId + 1) := by
          rw [movesRank, if_neg hexists, if_neg hends]
        rw [hsome]
        simp only [hfollow]
        rfl
  · have hnone : guild.movesRank invoker rankId up = none := by
      rw [movesRank, if_pos (by simp [hinvoker])]
    rw [if_pos hinvoker, hnone]

theorem movesRank_lt (h : guild.Consistent) {invoker rankId other : Nat} {up : Bool}
    (hmoves : guild.movesRank invoker rankId up = some other) :
    rankId < guild.ranks.length ∧ other < guild.ranks.length := by
  have hcount := h.minCount
  rw [guildRanksMinCount] at hcount
  rw [movesRank] at hmoves
  split at hmoves
  · cases hmoves
  next hexists =>
    split at hmoves
    · cases hmoves
    next hends =>
      simp only [Bool.or_eq_true, decide_eq_true_eq, not_or, not_le] at hexists
      simp only [Bool.or_eq_true, Bool.and_eq_true, decide_eq_true_eq, not_or, not_and,
        getLowestRank, Bool.not_eq_true'] at hends
      cases up with
      | true =>
        cases hmoves
        rw [if_pos rfl]
        omega
      | false =>
        cases hmoves
        rw [if_neg Bool.false_ne_true]
        have hlowest : rankId ≠ guild.ranks.length - 1 :=
          fun heq => hends.2 (decide_eq_true heq) rfl
        omega

theorem Consistent.swapMembers (h : guild.Consistent) {i j : Nat} (hi : i < guild.ranks.length)
    (hj : j < guild.ranks.length) (hi₀ : i ≠ grGuildmaster) (hj₀ : j ≠ grGuildmaster) :
    (guild.swapMembers i j).Consistent := by
  have hkeys : (guild.swapMembers i j).members.map (·.1) = guild.members.map (·.1) := by
    rw [Guild.swapMembers, List.map_map]
    rfl
  have hlength := length_swapRanks i j guild.ranks
  have hbelow : ∀ k < guild.ranks.length, swapped i j k < guild.ranks.length := by
    intro k hk
    rw [swapped]
    split
    · exact hj
    · split
      · exact hi
      · exact hk
  have hfirst : ∀ k, swapped i j k = grGuildmaster ↔ k = grGuildmaster := by
    intro k
    rw [swapped]
    split
    next hk => exact iff_of_false hj₀ (hk ▸ hi₀)
    · split
      next hk => exact iff_of_false hi₀ (hk ▸ hj₀)
      · rfl
  refine ⟨⟨fun p hp => ?_, fun p hp => ?_⟩, hkeys ▸ h.nodup, fun p hp => ?_, hkeys ▸ h.leader, ?_⟩
  · obtain ⟨q, hq, rfl⟩ := List.mem_map.mp hp
    show swapped i j q.2.rankId < (swapRanks i j guild.ranks).length
    rw [hlength]
    exact hbelow _ (h.ranks.below q hq)
  · obtain ⟨q, hq, rfl⟩ := List.mem_map.mp hp
    exact (hfirst q.2.rankId).trans (h.ranks.master q hq)
  · obtain ⟨q, hq, rfl⟩ := List.mem_map.mp hp
    exact h.guid q hq
  · show guildRanksMinCount ≤ (swapRanks i j guild.ranks).length
    rw [hlength]
    exact h.minCount

theorem rankOf_swapMembers {i j : Nat} (hi : i < guild.ranks.length) (hj : j < guild.ranks.length)
    (guid : Nat) : (guild.swapMembers i j).rankOf guid = guild.rankOf guid := by
  have hslot : (guild.swapMembers i j).getMemberSlot guid =
      (guild.getMemberSlot guid).map (MemberSlot.follow i j) :=
    lookupKey_map (MemberSlot.follow i j) guild.members
  rw [rankOf, rankOf, hslot]
  cases guild.getMemberSlot guid with
  | none => rfl
  | some slot => exact getElem?_swapRanks hi hj slot.rankId

end Guild

/-- What the handlers and commands do to one guild; the rank that is recorded for the invoker as a
player, whatever it is, comes with the packet. -/
inductive GuildEvent
  | addMember (guid : Nat) (order : Shuffle (Nat × Guild.MemberSlot))
  | delMember (guid : Nat)
  | promote (invoker invokerRank target : Nat)
  | demote (invoker invokerRank target : Nat)
  | setRank (invoker invokerRank target newRankId : Nat)
  | changeLeader (invoker target : Nat)
  | setRankRights (rankId : Nat) (rights : BitVec 32)
  | addRank (invoker : Nat) (name : String)
  | delRank (invoker rankId : Nat)
  | switchRank (invoker rankId : Nat) (up : Bool)

namespace Guild

/-- One step of a guild; a guild without members is disbanded. -/
def step (guild : Guild) : GuildEvent → Option Guild
  | .addMember guid order =>
    if (guild.getMemberSlot guid).isSome then guild
    else guild.insertMember order guid guild.getLowestRank
  | .delMember guid =>
    if (guild.delMember guid false).2 then none else (guild.delMember guid false).1
  | .promote invoker invokerRank target => guild.promote invoker invokerRank target
  | .demote invoker invokerRank target => guild.demote invoker invokerRank target
  | .setRank invoker invokerRank target newRankId =>
    guild.setRank invoker invokerRank target newRankId
  | .changeLeader invoker target => guild.changeLeader invoker target
  | .setRankRights rankId rights => guild.setRankRights rankId rights
  | .addRank invoker name => guild.handleAddRank invoker name
  | .delRank invoker rankId => guild.handleDelRank invoker rankId
  | .switchRank invoker rankId up => guild.handleSwitchRank invoker rankId up

/-- A rank is deleted only behind the ranks of all members, and the first rank does not move. -/
def LeavesRanks (guild : Guild) : GuildEvent → Prop
  | .delRank invoker rankId =>
    guild.deletesRank invoker rankId → ∀ p ∈ guild.members, p.2.rankId < rankId
  | .switchRank invoker rankId up => ∀ other ∈ guild.movesRank invoker rankId up,
      rankId ≠ grGuildmaster ∧ other ≠ grGuildmaster
  | _ => True

/-- Deleting or moving a rank leaves to all members what they hold. -/
def KeepsRights (guild : Guild) (e : GuildEvent) : Prop :=
  match e with
  | .delRank .. | .switchRank .. =>
    ∀ guild' ∈ guild.step e, ∀ guid, guild'.rankOf guid = guild.rankOf guid
  | _ => True

variable {guild : Guild}

theorem Consistent.step (h : guild.Consistent) {e : GuildEvent} (hok : guild.LeavesRanks e) :
    ∀ guild' ∈ guild.step e, guild'.Consistent := by
  intro guild' hguild'
  cases e with
  | addMember guid order =>
    rw [Guild.step] at hguild'
    split at hguild'
    · cases hguild'
      exact h
    next hnew =>
      cases hguild'
      exact h.addMember order (by simpa using hnew)
  | delMember guid =>
    rw [Guild.step] at hguild'
    split at hguild'
    · cases hguild'
    next hleft =>
      cases hguild'
      exact h.delMember guid (by simpa using hleft)
  | promote invoker invokerRank target =>
    cases hguild'
    exact h.promote invoker invokerRank target
  | demote invoker invokerRank target =>
    cases hguild'
    exact h.demote invoker invokerRank target
  | setRank invoker invokerRank target newRankId =>
    cases hguild'
    exact h.setRank invoker invokerRank target newRankId
  | changeLeader invoker target =>
    cases hguild'
    exact h.changeLeader invoker target
  | setRankRights rankId rights =>
    cases hguild'
    exact h.setRankRights rankId rights
  | addRank invoker name =>
    cases hguild'
    exact h.handleAddRank invoker name
  | delRank invoker rankId =>
    cases hguild'
    rw [handleDelRank_eq]
    split
    next hdeletes => exact h.deleteRank hdeletes.2.2.1 hdeletes.2.2.2.1 (hok hdeletes)
    · exact h
  | switchRank invoker rankId up =>
    cases hguild'
    rw [handleSwitchRank_eq]
    split
    · exact h
    next other hmoves =>
      obtain ⟨hi, hj⟩ := movesRank_lt h hmoves
      obtain ⟨hi₀, hj₀⟩ := hok other hmoves
      exact h.swapMembers hi hj hi₀ hj₀

theorem Consistent.keepsRights (h : guild.Consistent) {e : GuildEvent}
    (hok : guild.LeavesRanks e) : guild.KeepsRights e := by
  cases e with
  | delRank invoker rankId =>
    intro guild' hguild' guid
    cases hguild'
    rw [handleDelRank_eq]
    split
    next hdeletes => exact rankOf_deleteRank (hok hdeletes) guid
    · rfl
  | switchRank invoker rankId up =>
    intro guild' hguild' guid
    cases hguild'
    rw [handleSwitchRank_eq]
    split
    · rfl
    next other hmoves =>
      obtain ⟨hi, hj⟩ := movesRank_lt h hmoves
      exact rankOf_swapMembers hi hj guid
  | addMember | delMember | promote | demote | setRank | changeLeader | setRankRights | addRank =>
    trivial

theorem consistent_create (id leader : Nat) (names : Fin 5 → String)
    (order : Shuffle (Nat × MemberSlot)) : (create id leader names order).Consistent := by
  have hranks : (create id leader names order).ranks.length = 5 := rfl
  have hperm : (create id leader names order).members.Perm
      [(leader, .new leader grGuildmaster)] := order.perm _
  have honly : ∀ p ∈ (create id leader names order).members, p = (leader, .new leader grGuildmaster) :=
    fun p hp => List.mem_singleton.mp (hperm.mem_iff.mp hp)
  refine ⟨⟨fun p hp => ?_, fun p hp => ?_⟩, ?_, fun p hp => ?_, ?_, ?_⟩
  · rw [honly p hp, hranks]
    exact Nat.succ_pos 4
  · rw [honly p hp]
    exact iff_of_true rfl rfl
  · rw [(hperm.map _).nodup_iff]
    exact List.nodup_singleton leader
  · rw [honly p hp]
    rfl
  · exact (hperm.map _).mem_iff.mpr (List.mem_singleton_self leader)
  · rw [hranks]
    decide

end Guild

def guildStep (guild? : Option Guild) (e : GuildEvent) : Option Guild :=
  guild?.bind fun guild => guild.step e

def LeavesRanks (guild? : Option Guild) (e : GuildEvent) : Prop :=
  ∀ guild ∈ guild?, guild.LeavesRanks e

def KeepsRights (guild? : Option Guild) (e : GuildEvent) : Prop :=
  ∀ guild ∈ guild?, guild.KeepsRights e

instance (guild : Guild) : ∀ e, Decidable (guild.LeavesRanks e)
  | .delRank .. => inferInstanceAs (Decidable (_ → ∀ p ∈ guild.members, _))
  | .switchRank .. => inferInstanceAs (Decidable (∀ other ∈ guild.movesRank .., _ ∧ _))
  | .addMember .. | .delMember _ | .promote .. | .demote .. | .setRank .. | .changeLeader .. |
    .setRankRights .. | .addRank .. => .isTrue trivial

instance (guild? : Option Guild) (e : GuildEvent) : Decidable (LeavesRanks guild? e) :=
  inferInstanceAs (Decidable (∀ guild ∈ guild?, _))

/-- If ranks are deleted only behind those of all members and the first one is never moved, the members' ranks are
valid, and no rank deleted or moved changes what a member holds. -/
theorem guildRanks_consistent (id leader : Nat) (names : Fin 5 → String)
    (order : Shuffle (Nat × Guild.MemberSlot)) (es : List GuildEvent)
    (hok : Guarded guildStep LeavesRanks (some (.create id leader names order)) es) :
    (∀ guild ∈ run guildStep (some (.create id leader names order)) es, guild.RanksValid) ∧
      Guarded guildStep KeepsRights (some (.create id leader names order)) es := by
  have hstart : ∀ guild ∈ some (Guild.create id leader names order), guild.Consistent := by
    intro guild hguild
    cases hguild
    exact Guild.consistent_create id leader names order
  have hstep : ∀ guild e, LeavesRanks guild e → (∀ g ∈ guild, g.Consistent) →
      ∀ g ∈ guildStep guild e, g.Consistent := by
    intro guild e hleaves hguild g hg
    obtain ⟨g₀, hg₀, hstep⟩ := Option.bind_eq_some_iff.mp hg
    exact (hguild g₀ hg₀).step (hleaves g₀ hg₀) g hstep
  have hrun : ∀ guild ∈ run guildStep (some (.create id leader names order)) es, guild.Consistent := by
    apply run_invariant hstep hok
    exact hstart
  constructor
  · intro guild hguild
    exact (hrun guild hguild).ranks
  · exact guarded_of_invariant hstep
      (fun guild e hleaves hguild g hg => (hguild g hg).keepsRights (hleaves g hg)) hok hstart

private def twoMembers : Option Guild := some (.create 7 1 (fun _ => "") (.id _))

theorem guildRanks_consistent_lastRank : (∀ guild ∈ run guildStep twoMembers
      [.addMember 2 (.id _), .promote 1 0 2, .delRank 1 4, .switchRank 1 3 true], guild.RanksValid) ∧
    Guarded guildStep KeepsRights twoMembers
      [.addMember 2 (.id _), .promote 1 0 2, .delRank 1 4, .switchRank 1 3 true] :=
  guildRanks_consistent 7 1 _ _ _ (by decide +kernel)

/-- The rank before the last one is deleted, and the members of the last rank have none any more. -/
theorem guildRanks_renumbered :
    ¬ ∀ (id leader : Nat) (names : Fin 5 → String) (order : Shuffle (Nat × Guild.MemberSlot)) (es : List GuildEvent),
      (∀ guild ∈ run guildStep (some (.create id leader names order)) es, guild.RanksValid) ∧
        Guarded guildStep KeepsRights (some (.create id leader names order)) es := by
  intro h
  have hlost : ∃ guild ∈ run guildStep twoMembers [.addMember 2 (.id _), .delRank 1 3],
      ∃ p ∈ guild.members, ¬ p.2.rankId < guild.ranks.length := by decide +kernel
  obtain ⟨guild, hguild, p, hp, hnot⟩ := hlost
  exact hnot (((h 7 1 _ _ _).1 guild hguild).below p hp)

end Mangos
