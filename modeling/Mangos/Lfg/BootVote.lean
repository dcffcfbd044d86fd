import Mangos.Framework.Run
import Mangos.Lfg.Boot
import Mathlib.Data.List.Nodup
import Mathlib.Data.List.Perm.Subperm

/-!
# What a vote kick leaves behind

Votes are followed over runs together with the state that the group has outside of them.
-/

namespace Mangos

open Framework

/-- A group and the state that it has when no vote is held. -/
structure BootHistory where
  group : LFGGroup
  outside : LFGState

namespace BootHistory

def Clears (grp : LFGGroup) : BootEvent → Prop
  | .leaveFinder _ => True
  | .logout player leader _ _ => player ∈ grp.online ∧ leader = true
  | _ => False

instance (grp : LFGGroup) (e : BootEvent) : Decidable (Clears grp e) := by
  cases e <;> unfold Clears <;> infer_instance

def step (h : BootHistory) (e : BootEvent) : BootHistory :=
  { group := h.group.handle e
    outside := if Clears h.group e then (h.group.handle e).lfg.state else h.outside }

def Starts (grp : LFGGroup) : BootEvent → Prop
  | .initBoot kicker victim =>
    kicker ∈ grp.online ∧ victim ≠ kicker ∧ victim ∈ grp.members ∧ victim ∈ grp.online ∧ grp.isBootActive = false
  | _ => False

instance (grp : LFGGroup) (e : BootEvent) : Decidable (Starts grp e) := by
  cases e <;> unfold Starts <;> infer_instance

/-- A vote starts when the last one is over and somebody can be asked, a player who answers was asked,
and the clean-up of a vote whose time is up finds the group in its queue. -/
def Orderly (h : BootHistory) (e : BootEvent) : Prop :=
  match e with
  | .initBoot kicker victim => Starts h.group e →
      h.group.lfg.state ≠ .boot ∧ ∃ m ∈ h.group.online, m ≠ kicker ∧ m ≠ victim
  | .answer player _ _ => player ∈ h.group.online → h.group.isBootActive →
      (lookupKey player h.group.lfg.bootVotes).isSome
  | .cleanup => h.group.lfg.state = .boot → h.group.isBootActive = false → h.group.queued
  | _ => True

instance (h : BootHistory) (e : BootEvent) : Decidable (Orderly h e) := by
  cases e <;> unfold Orderly <;> infer_instance

def Recorded (grp : LFGGroup) (e : BootEvent) (lfg : LFGGroupState) : Prop :=
  ∃ player agree found, e = .answer player agree found ∧ player ∈ grp.online ∧ grp.isBootActive ∧
    grp.lfg.updateBoot player (if agree then .agree else .deny) = some lfg

/-- What a step does to the vote of a group. -/
structure VoteStep (h : BootHistory) (e : BootEvent) : Prop where
  /-- An entry that has been answered is not set again. -/
  set_once : ¬ Starts h.group e → ∀ v a a', lookupKey v h.group.lfg.bootVotes = some a →
    a ≠ .pending → lookupKey v (h.step e).group.lfg.bootVotes = some a' → a' = a
  /-- An answer removes a member only when as many votes as needed agree. -/
  removed : ∀ player agree found, e = .answer player agree found → ∀ v ∈ h.group.members, v ∉ (h.step e).group.members →
      ∃ lfg, Recorded h.group e lfg ∧ lfg.votesNeeded ≤ lfg.bootVotes.countP (·.2 = .agree)
  /-- No answer is written past the end of the vote map. -/
  defined : (h.step e).group.undefined = false
  /-- In a vote that goes on somebody has still to answer. -/
  complete : (h.step e).group.members ≠ [] → (h.step e).group.isBootActive →
    ∃ v, (v, .pending) ∈ (h.step e).group.lfg.bootVotes
  /-- A vote that an answer decides ends in the state of the group outside of votes. -/
  decided : ∀ lfg, Recorded h.group e lfg → lfg.getBootResult ≠ .pending →
    (h.step e).group.members ≠ [] → (h.step e).group.lfg.state = (h.step e).outside
  /-- So does a vote whose time is up, at the next clean-up. -/
  cleaned : e = .cleanup → (h.step e).group.members ≠ [] →
    (h.step e).group.lfg.state = (h.step e).outside ∨ (h.step e).group.isBootActive
  /-- Without a vote the group is in its state outside of votes. -/
  idle : (h.step e).group.members ≠ [] → (h.step e).group.lfg.state ≠ .boot →
    (h.step e).group.lfg.state = (h.step e).outside

/-- A vote in which an entry is open and the votes that agree are too few; the victim's entry is not
open. -/
structure Open (lfg : LFGGroupState) : Prop where
  asked : ∃ v, (v, .pending) ∈ lfg.bootVotes
  few_agree : lfg.bootVotes.countP (·.2 = .agree) < lfg.votesNeeded
  needed_le : lfg.votesNeeded ≤ lfg.bootVotes.length
  length_le : lfg.bootVotes.length ≤ maxLfgGroupSize
  victim : lookupKey lfg.bootVictim lfg.bootVotes ≠ some .pending

/-- The lists of the members of a group. -/
structure Roll (grp : LFGGroup) : Prop where
  few : grp.members.length ≤ maxLfgGroupSize
  nodup : grp.online.Nodup
  sub : ∀ m ∈ grp.online, m ∈ grp.members
  defined : grp.undefined = false

structure Inv (h : BootHistory) : Prop where
  roll : Roll h.group
  calm : h.outside ≠ .boot
  idle : h.group.members ≠ [] → h.group.lfg.state ≠ .boot → h.group.lfg.state = h.outside
  saved : h.group.members ≠ [] → h.group.lfg.state = .boot → h.group.lfg.savedstate = h.outside
  opened : h.group.members ≠ [] → h.group.lfg.state = .boot → Open h.group.lfg

theorem countP_votes (votes : List (Nat × LFGAnswer)) :
    votes.countP (·.2 = .agree) + votes.countP (·.2 = .deny) + votes.countP (·.2 = .pending) = votes.length := by
  induction votes with
  | nil => rfl
  | cons p votes ih =>
    obtain ⟨v, a⟩ := p
    cases a <;> simp <;> omega

variable {lfg lfg' : LFGGroupState}

theorem getBootResult_agree (h : lfg.getBootResult = .agree) :
    lfg.votesNeeded ≤ lfg.bootVotes.countP (·.2 = .agree) := by
  unfold LFGGroupState.getBootResult at h
  split at h
  next hle =>
    rw [LFGGroupState.agreeNum] at hle
    exact hle.trans (Nat.mod_le _ _)
  next =>
    split at h
    · cases h
    · cases h

theorem getBootResult_pending (h : lfg.getBootResult = .pending)
    (hneeded : lfg.votesNeeded ≤ lfg.bootVotes.length) (hlength : lfg.bootVotes.length ≤ maxLfgGroupSize) :
    lfg.bootVotes.countP (·.2 = .agree) < lfg.votesNeeded ∧ ∃ v, (v, .pending) ∈ lfg.bootVotes := by
  have hsum := countP_votes lfg.bootVotes
  rw [maxLfgGroupSize] at hlength
  unfold LFGGroupState.getBootResult LFGGroupState.agreeNum LFGGroupState.denyNum at h
  split at h
  next => cases h
  next hagree =>
    split at h
    next => cases h
    next hdeny =>
      rw [Nat.mod_eq_of_lt (by omega)] at hagree
      rw [Nat.mod_eq_of_lt (by omega : lfg.bootVotes.countP (·.2 = .deny) < 256)] at hdeny
      have hdiff : (lfg.bootVotes.length + 2 ^ 64 - lfg.votesNeeded) % 2 ^ 64 =
          lfg.bootVotes.length - lfg.votesNeeded := by omega
      rw [hdiff] at hdeny
      have hpos : 0 < lfg.bootVotes.countP (·.2 = .pending) := by omega
      obtain ⟨p, hp, hpending⟩ := List.countP_pos_iff.mp hpos
      refine ⟨by omega, p.1, ?_⟩
      rw [← of_decide_eq_true hpending]
      exact hp

theorem updateBoot_cases {player : Nat} {answer : LFGAnswer} (h : lfg.updateBoot player answer = some lfg') :
    lfg' = lfg ∨ lookupKey player lfg.bootVotes = some .pending ∧
      lfg' = { lfg with bootVotes := modifyKey player (fun _ => answer) lfg.bootVotes } := by
  unfold LFGGroupState.updateBoot at h
  split at h
  next => cases h
  next hpending =>
    cases h
    exact .inr ⟨hpending, rfl⟩
  next =>
    cases h
    exact .inl rfl

theorem updateBoot_set_once {player v : Nat} {answer a : LFGAnswer}
    (h : lfg.updateBoot player answer = some lfg') (hv : lookupKey v lfg.bootVotes = some a)
    (ha : a ≠ .pending) : lookupKey v lfg'.bootVotes = some a := by
  rcases updateBoot_cases h with rfl | ⟨hpending, rfl⟩
  · exact hv
  · rw [lookupKey_modifyKey_of_ne, hv]
    rintro rfl
    rw [hv] at hpending
    cases hpending
    exact ha rfl

theorem Open.updateBoot {player : Nat} {answer : LFGAnswer} (h : Open lfg)
    (hanswer : answer ≠ .pending) (hlfg : lfg.updateBoot player answer = some lfg')
    (hpending : lfg'.getBootResult = .pending) : Open lfg' := by
  have hlength : lfg'.bootVotes.length = lfg.bootVotes.length := by
    rcases updateBoot_cases hlfg with rfl | ⟨-, rfl⟩
    · rfl
    · exact length_modifyKey
  have hneeded : lfg'.votesNeeded = lfg.votesNeeded := by
    rcases updateBoot_cases hlfg with rfl | ⟨-, rfl⟩ <;> rfl
  have hle : lfg'.votesNeeded ≤ lfg'.bootVotes.length := by
    rw [hlength, hneeded]
    exact h.needed_le
  have hsize : lfg'.bootVotes.length ≤ maxLfgGroupSize := hlength ▸ h.length_le
  obtain ⟨hfew, hasked⟩ := getBootResult_pending hpending hle hsize
  refine ⟨hasked, hfew, hle, hsize, ?_⟩
  rcases updateBoot_cases hlfg with rfl | ⟨-, rfl⟩
  · exact h.victim
  · show lookupKey lfg.bootVictim (modifyKey player (fun _ => answer) lfg.bootVotes) ≠ some .pending
    by_cases hv : lfg.bootVictim = player
    · rw [hv, lookupKey_modifyKey_self]
      intro hsome
      obtain ⟨old, -, hold⟩ := Option.map_eq_some_iff.mp hsome
      exact hanswer hold
    · rw [lookupKey_modifyKey_of_ne hv]
      exact h.victim

variable {grp : LFGGroup}

theorem Roll.ne_nil (h : Roll grp) {m : Nat} (hm : m ∈ grp.online) : grp.members ≠ [] :=
  List.ne_nil_of_mem (h.sub m hm)

theorem Roll.disband (h : Roll grp) : Roll grp.disband :=
  ⟨Nat.zero_le _, List.nodup_nil, nofun, h.defined⟩

theorem Roll.removeMember (h : Roll grp) (guid : Nat) : Roll (grp.removeMember guid) := by
  unfold LFGGroup.removeMember
  split
  next =>
    refine ⟨(List.length_erase_le ..).trans h.few, h.nodup.erase guid, fun m hm => ?_, h.defined⟩
    obtain ⟨hne, hold⟩ := h.nodup.mem_erase_iff.mp hm
    exact (List.mem_erase_of_ne hne).mpr (h.sub m hold)
  next => exact h.disband

@[simp] theorem removeMember_lfg (guid : Nat) : (grp.removeMember guid).lfg = grp.lfg := by
  unfold LFGGroup.removeMember
  split <;> rfl

@[simp] theorem removeMember_now (guid : Nat) : (grp.removeMember guid).now = grp.now := by
  unfold LFGGroup.removeMember
  split <;> rfl

theorem Roll.addMember (h : Roll grp) (player : Nat) : Roll (grp.addMember player) := by
  unfold LFGGroup.addMember
  split
  next hadd =>
    obtain ⟨-, hfull, -⟩ := hadd
    refine ⟨?_, ?_, ?_, h.defined⟩
    · simp only [List.length_append, List.length_cons, List.length_nil]
      omega
    · rw [List.nodup_append]
      refine ⟨h.nodup.erase player, List.nodup_singleton player, ?_⟩
      intro a ha b hb heq
      rw [List.mem_singleton.mp hb] at heq
      exact (h.nodup.mem_erase_iff.mp ha).1 heq
    · intro m hm
      rcases List.mem_append.mp hm with hold | hnew
      · exact List.mem_append_left _ (h.sub m (List.mem_of_mem_erase hold))
      · exact List.mem_append_right _ hnew
  next => exact h

theorem Roll.login (h : Roll grp) (player : Nat) : Roll (grp.login player) := by
  unfold LFGGroup.login
  split
  next hin =>
    refine ⟨h.few, ?_, ?_, h.defined⟩
    · rw [List.nodup_append]
      refine ⟨h.nodup, List.nodup_singleton player, ?_⟩
      intro a ha b hb heq
      rw [List.mem_singleton.mp hb] at heq
      exact hin.2 (heq ▸ ha)
    · intro m hm
      rcases List.mem_append.mp hm with hold | hnew
      · exact h.sub m hold
      · rw [List.mem_singleton.mp hnew]
        exact hin.1
  next => exact h

theorem Roll.offline (h : Roll grp) (player : Nat) (lfg : LFGGroupState) (queued : Bool) :
    Roll { grp with online := grp.online.erase player, lfg, queued } :=
  ⟨h.few, h.nodup.erase player, fun m hm => h.sub m (List.mem_of_mem_erase hm), h.defined⟩

variable {h : BootHistory}

theorem Inv.ofRoll (hinv : Inv h) {grp : LFGGroup} (hroll : Roll grp)
    (hlfg : grp.lfg = h.group.lfg) (hmem : grp.members ≠ [] → h.group.members ≠ []) : Inv ⟨grp, h.outside⟩ := by
  refine ⟨hroll, hinv.calm, ?_, ?_, ?_⟩
  · intro hne
    rw [hlfg]
    exact hinv.idle (hmem hne)
  · intro hne
    rw [hlfg]
    exact hinv.saved (hmem hne)
  · intro hne
    rw [hlfg]
    exact hinv.opened (hmem hne)

theorem Inv.ofIdle {grp : LFGGroup} {outside : LFGState} (hroll : Roll grp)
    (hcalm : outside ≠ .boot) (hstate : grp.lfg.state = outside) : Inv ⟨grp, outside⟩ := by
  have hidle : grp.lfg.state ≠ .boot := hstate ▸ hcalm
  exact ⟨hroll, hcalm, fun _ _ => hstate, fun _ hboot => absurd hboot hidle,
    fun _ hboot => absurd hboot hidle⟩

theorem countP_firstVote {online : List Nat} (hnodup : online.Nodup) (kicker victim : Nat) :
    (online.map fun guid => (guid, LFGGroupState.firstVote kicker victim guid)).countP
      (·.2 = .agree) ≤ 1 := by
  rw [List.countP_map]
  have hle : online.countP ((fun p : Nat × LFGAnswer => decide (p.2 = .agree)) ∘
      fun guid => (guid, LFGGroupState.firstVote kicker victim guid)) ≤ online.countP (· == kicker) := by
    apply List.countP_mono_left
    intro guid _ hagree
    have hagree' : LFGGroupState.firstVote kicker victim guid = .agree := of_decide_eq_true hagree
    unfold LFGGroupState.firstVote at hagree'
    split at hagree'
    · cases hagree'
    · split at hagree'
      next hkicker => exact beq_iff_eq.mpr hkicker
      next => cases hagree'
  exact hle.trans (List.nodup_iff_count_le_one.mp hnodup kicker)

theorem lookupKey_firstVote (online : List Nat) (kicker victim : Nat) :
    lookupKey victim (online.map fun guid => (guid, LFGGroupState.firstVote kicker victim guid)) ≠
      some .pending := by
  intro hsome
  obtain ⟨guid, -, heq⟩ := List.mem_map.mp (lookupKey_mem hsome)
  injection heq with hguid hvote
  simp [LFGGroupState.firstVote, hguid] at hvote

theorem Roll.open_beginBoot (hroll : Roll grp) {kicker victim m : Nat}
    (hidle : grp.isBootActive = false) (hkicker : kicker ∈ grp.online)
    (hvictim : victim ∈ grp.online) (hne : victim ≠ kicker) (hm : m ∈ grp.online)
    (hmk : m ≠ kicker) (hmv : m ≠ victim) : Open (grp.beginBoot kicker victim).lfg := by
  have hthree : 3 ≤ grp.online.length := by
    have hsub : [kicker, victim, m].Subperm grp.online := by
      apply List.Nodup.subperm
      · simp [hne.symm, hmk.symm, hmv.symm]
      · intro a ha
        simp only [List.mem_cons, List.not_mem_nil, or_false] at ha
        rcases ha with rfl | rfl | rfl <;> assumption
    exact hsub.length_le
  have hle : grp.online.length ≤ grp.members.length :=
    (hroll.nodup.subperm hroll.sub).length_le
  have hfew := hroll.few
  rw [maxLfgGroupSize] at hfew
  have hbegin : (grp.beginBoot kicker victim).lfg =
      { grp.lfg with votesNeeded := (grp.members.length + 1) / 2 % 256 }.startBoot grp.now
        grp.online kicker victim := by
    simp [LFGGroup.beginBoot, hidle]
  rw [hbegin]
  refine ⟨⟨m, ?_⟩, ?_, ?_, ?_, lookupKey_firstVote grp.online kicker victim⟩
  · apply List.mem_map.mpr
    exact ⟨m, hm, by simp [LFGGroupState.firstVote, hmk, hmv]⟩
  · have hone := countP_firstVote hroll.nodup kicker victim
    show _ < (grp.members.length + 1) / 2 % 256
    refine Nat.lt_of_le_of_lt hone ?_
    omega
  · show (grp.members.length + 1) / 2 % 256 ≤ (List.map _ grp.online).length
    rw [List.length_map]
    omega
  · show (List.map _ grp.online).length ≤ maxLfgGroupSize
    rw [List.length_map, maxLfgGroupSize]
    omega

/-- How an answer that was recorded ends: the vote goes on, it is stopped, or its victim is removed. -/
inductive Answered (grp : LFGGroup) (lfg : LFGGroupState) (player : Nat) : LFGGroup → Prop
  | goesOn : lfg.getBootResult = .pending → Answered grp lfg player { grp with lfg }
  | stopped : lfg.getBootResult ≠ .pending → Answered grp lfg player { grp with lfg := lfg.stopBoot }
  | kicked : lfg.getBootResult = .agree → Answered grp lfg player ({ grp with lfg }.kickVictim player)

theorem decideBoot_cases (grp : LFGGroup) (lfg : LFGGroupState) (player : Nat) (found : Bool) :
    Answered grp lfg player ({ grp with lfg }.decideBoot player found) := by
  unfold LFGGroup.decideBoot
  split
  next hagree =>
    split
    next => exact .kicked hagree
    next => exact .stopped (by rw [hagree]; decide)
  next hdeny => exact .stopped (by rw [hdeny]; decide)
  next hpending => exact .goesOn hpending

theorem answer_cases {player : Nat} {agree found : Bool} (hord : Orderly h (.answer player agree found)) :
    ((h.group.handle (.answer player agree found) = h.group ∧
        ∀ lfg, ¬ Recorded h.group (.answer player agree found) lfg) ∨
      ∃ lfg, Recorded h.group (.answer player agree found) lfg ∧
        h.group.lfg.updateBoot player (if agree then .agree else .deny) = some lfg ∧
        Answered h.group lfg player (h.group.handle (.answer player agree found))) := by
  show (h.group.updateBoot player agree found = _ ∧ _) ∨ _
  by_cases hactive : player ∈ h.group.online ∧ h.group.isBootActive
  · obtain ⟨vote, hvote⟩ := Option.isSome_iff_exists.mp (hord hactive.1 hactive.2)
    have hsome : ∃ lfg, h.group.lfg.updateBoot player (if agree then .agree else .deny) = some lfg := by
      unfold LFGGroupState.updateBoot
      rw [hvote]
      cases vote <;> simp
    obtain ⟨lfg, hlfg⟩ := hsome
    refine .inr ⟨lfg, ⟨player, agree, found, rfl, hactive.1, hactive.2, hlfg⟩, hlfg, ?_⟩
    show Answered h.group lfg player (h.group.updateBoot player agree found)
    have heq : h.group.updateBoot player agree found = { h.group with lfg }.decideBoot player found := by
      simp [LFGGroup.updateBoot, hactive, hlfg]
    rw [heq]
    exact decideBoot_cases h.group lfg player found
  · refine .inl ⟨by simp [LFGGroup.updateBoot, hactive], ?_⟩
    rintro lfg ⟨player', agree', found', heq, hon, hact, -⟩
    cases heq
    exact hactive ⟨hon, hact⟩

theorem isBootActive_state (hactive : grp.isBootActive) : grp.lfg.state = .boot := by
  simp only [LFGGroup.isBootActive, LFGGroupState.isBootActive, Bool.and_eq_true, decide_eq_true_eq] at hactive
  exact hactive.1

theorem kickVictim_eq {player : Nat} {answer : LFGAnswer} (hopen : Open grp.lfg)
    (hactive : grp.isBootActive) (hlfg : grp.lfg.updateBoot player answer = some lfg)
    (hagree : lfg.getBootResult = .agree) : { grp with lfg }.kickVictim player =
        { grp with lfg }.removeMember lfg.bootVictim ∧
        ({ grp with lfg }.removeMember lfg.bootVictim).members = [] ∨
      { grp with lfg }.kickVictim player =
        { { grp with lfg }.removeMember lfg.bootVictim with
          lfg := lfg.decreaseKicksLeft.stopBoot } := by
  rcases updateBoot_cases hlfg with rfl | ⟨hpending, hrest⟩
  · exact absurd (getBootResult_agree hagree) (Nat.not_le.mpr hopen.few_agree)
  · have hvictim : lfg.bootVictim = grp.lfg.bootVictim := by rw [hrest]
    have hne : player ≠ lfg.bootVictim := by
      intro heq
      rw [heq, hvictim] at hpending
      exact hopen.victim hpending
    have hstill : ({ grp with lfg }.removeMember lfg.bootVictim).isBootActive := by
      simpa [LFGGroup.isBootActive, LFGGroupState.isBootActive, hrest] using hactive
    by_cases hempty : ({ grp with lfg }.removeMember lfg.bootVictim).members = []
    · exact .inl ⟨by simp [LFGGroup.kickVictim, hempty], hempty⟩
    · refine .inr ?_
      simp [LFGGroup.kickVictim, hempty, hne, hstill]

theorem savedstate_updateBoot {player : Nat} {answer : LFGAnswer}
    (hlfg : lfg.updateBoot player answer = some lfg') : lfg'.savedstate = lfg.savedstate := by
  rcases updateBoot_cases hlfg with rfl | ⟨-, rfl⟩ <;> rfl

theorem state_updateBoot {player : Nat} {answer : LFGAnswer}
    (hlfg : lfg.updateBoot player answer = some lfg') : lfg'.state = lfg.state := by
  rcases updateBoot_cases hlfg with rfl | ⟨-, rfl⟩ <;> rfl

theorem Roll.congr (hroll : Roll grp) (lfg : LFGGroupState) : Roll { grp with lfg } :=
  ⟨hroll.few, hroll.nodup, hroll.sub, hroll.defined⟩

theorem Inv.answered (hinv : Inv h) {player : Nat} {answer : LFGAnswer} {grp : LFGGroup}
    (hanswer : answer ≠ .pending) (hboot : h.group.lfg.state = .boot)
    (hne : h.group.members ≠ []) (hactive : h.group.isBootActive)
    (hlfg : h.group.lfg.updateBoot player answer = some lfg) (hgrp : Answered h.group lfg player grp) :
    Inv ⟨grp, h.outside⟩ ∧ (lfg.getBootResult ≠ .pending → grp.members ≠ [] → grp.lfg.state = h.outside) := by
  have hsaved : lfg.savedstate = h.outside := by
    rw [savedstate_updateBoot hlfg]
    exact hinv.saved hne hboot
  have hopen := hinv.opened hne hboot
  cases hgrp with
  | goesOn hpending =>
    refine ⟨⟨hinv.roll.congr lfg, hinv.calm, ?_, fun _ _ => hsaved, fun _ _ => ?_⟩,
      fun hdecided => absurd hpending hdecided⟩
    · intro _ hidle
      exact absurd ((state_updateBoot hlfg).trans hboot) hidle
    · exact hopen.updateBoot hanswer hlfg hpending
  | stopped _ => exact ⟨.ofIdle (hinv.roll.congr _) hinv.calm hsaved, fun _ _ => hsaved⟩
  | kicked hagree =>
    have hroll := (hinv.roll.congr lfg).removeMember lfg.bootVictim
    rcases kickVictim_eq hopen hactive hlfg hagree with ⟨heq, hempty⟩ | heq
    · rw [heq]
      refine ⟨⟨hroll, hinv.calm, ?_, ?_, ?_⟩, fun _ hmem => absurd hempty hmem⟩
      · exact fun hmem => absurd hempty hmem
      · exact fun hmem => absurd hempty hmem
      · exact fun hmem => absurd hempty hmem
    · rw [heq]
      have hstate : lfg.decreaseKicksLeft.stopBoot.state = h.outside := hsaved
      exact ⟨.ofIdle (hroll.congr _) hinv.calm hstate, fun _ _ => hstate⟩

theorem step_outside {e : BootEvent} (hclears : ¬ Clears h.group e) : h.step e = ⟨h.group.handle e, h.outside⟩ := by
  simp [step, hclears]

theorem Inv.initBoot (hinv : Inv h) {kicker victim : Nat}
    (hord : Orderly h (.initBoot kicker victim)) : Inv (h.step (.initBoot kicker victim)) := by
  rw [step_outside (by simp [Clears])]
  show Inv ⟨h.group.initBoot kicker victim, h.outside⟩
  unfold LFGGroup.initBoot
  split
  next hreq =>
    obtain ⟨hkicker, hne, hmem, hvictim⟩ := hreq
    have hbegin : Inv ⟨h.group.beginBoot kicker victim, h.outside⟩ := by
      by_cases hactive : h.group.isBootActive
      · have hsame : h.group.beginBoot kicker victim = h.group := by
          simp [LFGGroup.beginBoot, hactive]
        rw [hsame]
        exact hinv
      · have hidle : h.group.isBootActive = false := by simpa using hactive
        obtain ⟨hstate, m, hm, hmk, hmv⟩ := hord ⟨hkicker, hne, hmem, hvictim, hidle⟩
        have hopen := hinv.roll.open_beginBoot hidle hkicker hvictim hne hm hmk hmv
        have hroll : Roll (h.group.beginBoot kicker victim) := by
          simp only [LFGGroup.beginBoot, hidle]
          exact hinv.roll.congr _
        have hsaved : (h.group.beginBoot kicker victim).lfg.savedstate = h.outside := by
          simp only [LFGGroup.beginBoot, hidle]
          exact hinv.idle (hinv.roll.ne_nil hkicker) hstate
        have hboot : (h.group.beginBoot kicker victim).lfg.state = .boot := by
          simp only [LFGGroup.beginBoot, hidle]
          rfl
        exact ⟨hroll, hinv.calm, fun _ hnot => absurd hboot hnot, fun _ _ => hsaved, fun _ _ => hopen⟩
    dsimp only
    split
    next =>
      exact hbegin.ofRoll hbegin.roll.disband rfl fun hgone => absurd rfl hgone
    next => exact hbegin
  next => exact hinv

theorem Inv.cleanup (hinv : Inv h) : Inv (h.step .cleanup) := by
  rw [step_outside (by simp [Clears])]
  show Inv ⟨h.group.cleanupBoots, h.outside⟩
  unfold LFGGroup.cleanupBoots
  split
  next hclean =>
    obtain ⟨-, hne, hboot, -⟩ := hclean
    exact .ofIdle (hinv.roll.congr _) hinv.calm (hinv.saved hne hboot)
  next => exact hinv

theorem Inv.answer (hinv : Inv h) {player : Nat} {agree found : Bool}
    (hord : Orderly h (.answer player agree found)) : Inv (h.step (.answer player agree found)) := by
  rw [step_outside (by simp [Clears])]
  rcases answer_cases hord with ⟨hsame, -⟩ | ⟨lfg, hrec, hlfg, hgrp⟩
  · rw [hsame]
    exact hinv
  · obtain ⟨_, _, _, heq, hon, hactive, -⟩ := hrec
    cases heq
    have hanswer : (if agree then LFGAnswer.agree else .deny) ≠ .pending := by
      cases agree <;> decide
    exact (hinv.answered hanswer (isBootActive_state hactive) (hinv.roll.ne_nil hon) hactive hlfg
      hgrp).1

theorem Inv.logout (hinv : Inv h) (player : Nat) (leader socket : Bool) (maxKicks : Nat) :
    Inv (h.step (.logout player leader socket maxKicks)) := by
  by_cases hon : player ∈ h.group.online
  · cases leader with
    | true =>
      have hclears : Clears h.group (.logout player true socket maxKicks) := ⟨hon, rfl⟩
      have hhandle : h.group.handle (.logout player true socket maxKicks) =
          { h.group.leaveFinder maxKicks with online := h.group.online.erase player } := by
        simp [LFGGroup.handle, LFGGroup.logout, hon]
      simp only [step, hclears, if_true, hhandle]
      exact .ofIdle (hinv.roll.offline player _ false) nofun rfl
    | false =>
      rw [step_outside (by simp [Clears])]
      cases socket with
      | true =>
        have hhandle : h.group.handle (.logout player false true maxKicks) = h.group.removeMember player := by
          simp [LFGGroup.handle, LFGGroup.logout, hon]
        rw [hhandle]
        exact hinv.ofRoll (hinv.roll.removeMember player) (removeMember_lfg player)
          fun _ => hinv.roll.ne_nil hon
      | false =>
        have hhandle : h.group.handle (.logout player false false maxKicks) =
            { h.group with online := h.group.online.erase player } := by
          simp [LFGGroup.handle, LFGGroup.logout, hon]
        rw [hhandle]
        exact hinv.ofRoll (hinv.roll.offline player h.group.lfg h.group.queued) rfl
          fun hne => hne
  · rw [step_outside (by simp [Clears, hon])]
    have hhandle : h.group.handle (.logout player leader socket maxKicks) = h.group := by
      simp [LFGGroup.handle, LFGGroup.logout, hon]
    rw [hhandle]
    exact hinv

theorem Inv.step (hinv : Inv h) (e : BootEvent) (hord : Orderly h e) : Inv (h.step e) := by
  cases e with
  | initBoot kicker victim => exact hinv.initBoot hord
  | answer player agree found => exact hinv.answer hord
  | cleanup => exact hinv.cleanup
  | passTime seconds =>
    rw [step_outside (by simp [Clears])]
    exact hinv.ofRoll ⟨hinv.roll.few, hinv.roll.nodup, hinv.roll.sub, hinv.roll.defined⟩ rfl
      fun hne => hne
  | queue queued =>
    rw [step_outside (by simp [Clears])]
    exact hinv.ofRoll ⟨hinv.roll.few, hinv.roll.nodup, hinv.roll.sub, hinv.roll.defined⟩ rfl
      fun hne => hne
  | join player =>
    rw [step_outside (by simp [Clears])]
    show Inv ⟨h.group.addMember player, h.outside⟩
    apply hinv.ofRoll (hinv.roll.addMember player)
    · unfold LFGGroup.addMember
      split <;> rfl
    · unfold LFGGroup.addMember
      split
      next hadd => exact fun _ => hadd.1
      next => exact fun hne => hne
  | leave player =>
    rw [step_outside (by simp [Clears])]
    show Inv ⟨if player ∈ h.group.members then h.group.removeMember player else h.group, h.outside⟩
    split
    next hmem =>
      exact hinv.ofRoll (hinv.roll.removeMember player) (removeMember_lfg player)
        fun _ => List.ne_nil_of_mem hmem
    next => exact hinv
  | login player =>
    rw [step_outside (by simp [Clears])]
    show Inv ⟨h.group.login player, h.outside⟩
    apply hinv.ofRoll (hinv.roll.login player)
    · unfold LFGGroup.login
      split <;> rfl
    · unfold LFGGroup.login
      split <;> exact fun hne => hne
  | logout player leader socket maxKicks => exact hinv.logout player leader socket maxKicks
  | leaveFinder maxKicks =>
    simp only [BootHistory.step, Clears]
    exact .ofIdle ⟨hinv.roll.few, hinv.roll.nodup, hinv.roll.sub, hinv.roll.defined⟩ nofun rfl

theorem bootVotes_removeMember_or {grp' : LFGGroup} {player : Nat}
    (hgrp : Answered grp lfg player grp') : grp'.lfg.bootVotes = lfg.bootVotes ∨ grp'.lfg.bootVotes = [] := by
  cases hgrp with
  | goesOn _ => exact .inl rfl
  | stopped _ => exact .inr rfl
  | kicked _ =>
    simp only [LFGGroup.kickVictim]
    split
    next => exact .inl (by simp)
    next =>
      split
      next => exact .inr rfl
      next => exact .inl (by simp)

theorem set_once_step (e : BootEvent) (hord : Orderly h e) (hstart : ¬ Starts h.group e)
    {v : Nat} {a a' : LFGAnswer} (hv : lookupKey v h.group.lfg.bootVotes = some a)
    (ha : a ≠ .pending) (hv' : lookupKey v (h.step e).group.lfg.bootVotes = some a') : a' = a := by
  have hsame : (h.step e).group.lfg.bootVotes = h.group.lfg.bootVotes → a' = a := by
    intro heq
    rw [heq, hv] at hv'
    cases hv'
    rfl
  have hnone : (h.step e).group.lfg.bootVotes = [] → a' = a := by
    intro heq
    rw [heq] at hv'
    cases hv'
  cases e with
  | initBoot kicker victim =>
    apply hsame
    show (h.group.initBoot kicker victim).lfg.bootVotes = _
    unfold LFGGroup.initBoot
    split
    next hreq =>
      obtain ⟨hkicker, hne, hmem, hvictim⟩ := hreq
      have hactive : h.group.isBootActive := by
        by_contra hidle
        exact hstart ⟨hkicker, hne, hmem, hvictim, by simpa using hidle⟩
      have hbegin : h.group.beginBoot kicker victim = h.group := by
        simp [LFGGroup.beginBoot, hactive]
      dsimp only
      rw [hbegin]
      split <;> rfl
    next => rfl
  | answer player agree found =>
    rcases answer_cases hord with ⟨heq, -⟩ | ⟨lfg, -, hlfg, hgrp⟩
    · exact hsame (by rw [BootHistory.step, heq])
    · rcases bootVotes_removeMember_or hgrp with heq | heq
      · have hkept := updateBoot_set_once hlfg hv ha
        have hvotes : (h.step (.answer player agree found)).group.lfg.bootVotes = lfg.bootVotes := heq
        rw [hvotes, hkept] at hv'
        cases hv'
        rfl
      · exact hnone heq
  | cleanup =>
    by_cases hclean : h.group.queued ∧ h.group.members ≠ [] ∧ h.group.lfg.state = .boot ∧ h.group.isBootActive = false
    · apply hnone
      simp [BootHistory.step, LFGGroup.handle, LFGGroup.cleanupBoots, hclean,
        LFGGroupState.stopBoot, LFGGroupState.restoreState]
    · exact hsame (by simp only [BootHistory.step, LFGGroup.handle, LFGGroup.cleanupBoots, if_neg hclean])
  | passTime seconds => exact hsame rfl
  | queue queued => exact hsame rfl
  | join player =>
    apply hsame
    show (h.group.addMember player).lfg.bootVotes = _
    unfold LFGGroup.addMember
    split <;> rfl
  | leave player =>
    apply hsame
    show (if player ∈ h.group.members then h.group.removeMember player else
      h.group).lfg.bootVotes = _
    split
    · rw [removeMember_lfg]
    · rfl
  | login player =>
    apply hsame
    show (h.group.login player).lfg.bootVotes = _
    unfold LFGGroup.login
    split <;> rfl
  | logout player leader socket maxKicks =>
    by_cases hon : player ∈ h.group.online
    · cases leader with
      | true =>
        apply hnone
        simp [BootHistory.step, LFGGroup.handle, LFGGroup.logout, hon, LFGGroup.leaveFinder,
          LFGGroupState.clear, LFGGroupState.stopBoot, LFGGroupState.restoreState]
      | false =>
        apply hsame
        cases socket <;>
          simp [BootHistory.step, LFGGroup.handle, LFGGroup.logout, hon]
    · exact hsame (by simp [BootHistory.step, LFGGroup.handle, LFGGroup.logout, hon])
  | leaveFinder maxKicks => exact hnone rfl

theorem agreed_of_removed {player : Nat} {agree found : Bool} {v : Nat}
    (hord : Orderly h (.answer player agree found)) (hv : v ∈ h.group.members)
    (hgone : v ∉ (h.step (.answer player agree found)).group.members) :
    ∃ lfg, Recorded h.group (.answer player agree found) lfg ∧
      lfg.votesNeeded ≤ lfg.bootVotes.countP (·.2 = .agree) := by
  have hgone' : v ∉ (h.group.handle (.answer player agree found)).members := hgone
  rcases answer_cases hord with ⟨heq, -⟩ | ⟨lfg, hrec, -, hgrp⟩
  · rw [heq] at hgone'
    exact absurd hv hgone'
  · refine ⟨lfg, hrec, ?_⟩
    generalize h.group.handle (.answer player agree found) = grp at hgrp hgone'
    cases hgrp with
    | goesOn _ => exact absurd hv hgone'
    | stopped _ => exact absurd hv hgone'
    | kicked hagree => exact getBootResult_agree hagree

theorem Inv.voteStep (hinv : Inv h) (e : BootEvent) (hord : Orderly h e) : VoteStep h e := by
  have hnext := hinv.step e hord
  refine ⟨fun hstart v a a' hv ha hv' => set_once_step e hord hstart hv ha hv', ?_,
    hnext.roll.defined, ?_, ?_, ?_, hnext.idle⟩
  · rintro player agree found rfl v hv hgone
    exact agreed_of_removed hord hv hgone
  · intro hne hactive
    exact (hnext.opened hne (isBootActive_state hactive)).asked
  · rintro lfg ⟨player, agree, found, rfl, hon, hactive, hlfg⟩ hdecided hne
    have hanswer : (if agree then LFGAnswer.agree else .deny) ≠ .pending := by
      cases agree <;> decide
    rcases answer_cases hord with ⟨-, hnot⟩ | ⟨lfg', -, hlfg', hgrp⟩
    · exact absurd ⟨player, agree, found, rfl, hon, hactive, hlfg⟩ (hnot lfg)
    · rw [hlfg] at hlfg'
      cases hlfg'
      rw [step_outside (by simp [Clears])] at hne ⊢
      exact (hinv.answered hanswer (isBootActive_state hactive) (hinv.roll.ne_nil hon) hactive hlfg
        hgrp).2 hdecided hne
  · rintro rfl hne
    rw [step_outside (by simp [Clears])] at hne ⊢
    show (h.group.cleanupBoots).lfg.state = h.outside ∨ (h.group.cleanupBoots).isBootActive
    have hne' : h.group.cleanupBoots.members ≠ [] := hne
    unfold LFGGroup.cleanupBoots at hne' ⊢
    split at hne'
    next hclean =>
      rw [if_pos hclean]
      exact .inl (hinv.saved hclean.2.1 hclean.2.2.1)
    next hkeep =>
      rw [if_neg hkeep]
      by_cases hboot : h.group.lfg.state = .boot
      · refine .inr ?_
        by_contra hidle
        have hidle' : h.group.isBootActive = false := by simpa using hidle
        exact hkeep ⟨hord hboot hidle', hne', hboot, hidle'⟩
      · exact .inl (hinv.idle hne' hboot)

/-- A group of the finder in which no vote is held. -/
def start (grp : LFGGroup) : BootHistory := ⟨grp, grp.lfg.state⟩

theorem inv_start (hroll : Roll grp) (hstate : grp.lfg.state ≠ .boot) : Inv (start grp) :=
  .ofIdle hroll hstate rfl

def trio : LFGGroup where
  members := [1, 2, 3]
  online := [1, 2, 3]
  lfg := { state := .dungeon, kicksLeft := 1 }

theorem roll_trio : Roll trio := ⟨by decide, by decide, by decide, rfl⟩

theorem answer_of_late_member : ¬ Guarded step VoteStep (start trio) [.initBoot 1 2, .join 4, .answer 4 true true] := by
  rintro ⟨-, -, hstep, -⟩
  exact absurd hstep.defined (by decide)

theorem cleanup_without_queue : ¬ Guarded step VoteStep (start trio) [.initBoot 1 2, .passTime 120, .cleanup] := by
  rintro ⟨-, -, hstep, -⟩
  exact absurd (hstep.cleaned rfl (by decide)) (by decide)

theorem vote_after_expired_vote : ¬ Guarded step VoteStep (start trio)
      [.initBoot 1 2, .passTime 120, .initBoot 1 2, .answer 3 true true] := by
  rintro ⟨-, -, -, hstep, -⟩
  have hrec : Recorded (run step (start trio) [.initBoot 1 2, .passTime 120, .initBoot 1 2]).group
      (.answer 3 true true)
      { state := .boot, savedstate := .boot, bootCancelTime := 240, votesNeeded := 2, kicksLeft := 1
        bootVotes := [(1, .agree), (2, .deny), (3, .agree)], bootVictim := 2 } :=
    ⟨3, true, true, rfl, by decide, by decide, by decide⟩
  exact absurd (hstep.decided _ hrec (by decide) (by decide)) (by decide)

theorem vote_without_voters : ¬ Guarded step VoteStep (start { trio with members := [1, 2, 3, 4, 5], online := [1, 2] })
      [.initBoot 1 2] := by
  rintro ⟨hstep, -⟩
  obtain ⟨v, hv⟩ := hstep.complete (by decide) (by decide)
  have hvotes : (run step (start { trio with members := [1, 2, 3, 4, 5], online := [1, 2] })
      [.initBoot 1 2]).group.lfg.bootVotes = [(1, .agree), (2, .deny)] := by decide
  have hv' : (v, LFGAnswer.pending) ∈ [(1, LFGAnswer.agree), (2, .deny)] := hvotes ▸ hv
  simp at hv'

end BootHistory

end Mangos
