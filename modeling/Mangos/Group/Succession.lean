import Mathlib.Data.List.Nodup
import Mangos.Group.Leader

/-!
# The leader is a member

A group names its leader by guid, and tells the members his name.
-/

namespace Mangos

open Framework

namespace Group

variable {grp : Group} {guid guid' : Nat}

theorem isMember_iff : grp.isMember guid ↔ (grp.getMemberSlot guid).isSome := by
  rw [isMember, getMemberSlot, List.any_eq_true, List.find?_isSome]

theorem isMember_eq_false_iff : grp.isMember guid = false ↔ guid ∉ grp.memberSlots.map (·.guid) := by
  simp only [isMember, List.any_eq_false, decide_eq_true_eq, List.mem_map, not_exists, not_and]

private theorem find?_eraseP_of_disjoint {p q : MemberSlot → Bool} {slots : List MemberSlot}
    (h : ∀ slot, q slot → p slot = false) : (slots.eraseP q).find? p = slots.find? p := by
  induction slots with
  | nil => rfl
  | cons slot slots ih =>
    by_cases hq : q slot
    · rw [List.eraseP_cons_of_pos hq, List.find?_cons_of_neg (by simp [h slot hq])]
    · rw [List.eraseP_cons_of_neg hq, List.find?_cons, List.find?_cons, ih]

@[simp] theorem eraseMember_leaderGuid : (grp.eraseMember guid).leaderGuid = grp.leaderGuid := by
  unfold eraseMember
  split
  · rfl
  · rfl

@[simp] theorem eraseMember_groupType : (grp.eraseMember guid).groupType = grp.groupType := by
  unfold eraseMember
  split
  · rfl
  · rfl

theorem eraseMember_memberSlots : (grp.eraseMember guid).memberSlots = grp.memberSlots.eraseP (·.guid = guid) := by
  unfold eraseMember
  split
  next hnone =>
    refine (List.eraseP_of_forall_not ?_).symm
    exact List.find?_eq_none.mp hnone
  next => rfl

theorem getMemberSlot_eraseMember (h : guid' ≠ guid) :
    (grp.eraseMember guid).getMemberSlot guid' = grp.getMemberSlot guid' := by
  rw [getMemberSlot, eraseMember_memberSlots]
  refine find?_eraseP_of_disjoint fun slot hslot => ?_
  simp only [decide_eq_true_eq] at hslot
  simp [hslot, h.symm]

theorem isMember_eraseMember_self (h : (grp.memberSlots.map (·.guid)).Nodup) :
    (grp.eraseMember guid).isMember guid = false := by
  rw [isMember_eq_false_iff, eraseMember_memberSlots]
  generalize grp.memberSlots = slots at h
  induction slots with
  | nil => simp
  | cons slot slots ih =>
    rw [List.map_cons, List.nodup_cons] at h
    by_cases hslot : slot.guid = guid
    · rw [List.eraseP_cons_of_pos (by simpa using hslot), ← hslot]
      exact h.1
    · rw [List.eraseP_cons_of_neg (by simpa using hslot), List.map_cons, List.mem_cons, not_or]
      exact ⟨Ne.symm hslot, ih h.2⟩

theorem setLeader_of_isMember (h : grp.isMember guid) : grp.setLeader guid = { grp with leaderGuid := guid } := if_pos h

end Group

namespace LedGroup

variable {s : LedGroup} {period guid : Nat} {name : String}

/-- The leader is a member while the group exists, and every packet named him. -/
structure Sound (s : LedGroup) : Prop where
  leader : s.gone = false → s.grp.isMember s.grp.leaderGuid
  sent : ∀ p ∈ s.sent, p.leaderName = some p.name

/-- A sound group in which no one is twice. -/
structure Led (s : LedGroup) : Prop extends s.Sound where
  distinct : (s.grp.memberSlots.map (·.guid)).Nodup

theorem getMemberWithRole_eq_some {role : MemberSlot → Bool} (h : s.getMemberWithRole role = some guid) :
    guid ≠ s.grp.leaderGuid ∧ s.grp.isMember guid := by
  unfold getMemberWithRole at h
  obtain ⟨ref, hfind, rfl⟩ := Option.map_eq_some_iff.mp h
  have hcond := List.find?_some hfind
  simp only [Bool.and_eq_true, decide_eq_true_eq] at hcond
  exact ⟨hcond.1.1.2, Group.isMember_iff.mpr (Option.isSome_of_any hcond.1.2)⟩

theorem firstSuitableMember_eq_some (h : s.firstSuitableMember = some guid) :
    guid ≠ s.grp.leaderGuid ∧ s.grp.isMember guid := by
  unfold firstSuitableMember at h
  simp only [Option.orElse_eq_orElse, Option.orElse_eq_or, Option.or_eq_some_iff] at h
  split at h
  · simp only [Option.or_eq_some_iff] at h
    rcases h with (hrole | ⟨-, hrole | ⟨-, hrole⟩⟩) | ⟨-, hrole⟩ <;>
      exact getMemberWithRole_eq_some hrole
  · rcases h with hrole | ⟨-, hrole⟩
    · cases hrole
    · exact getMemberWithRole_eq_some hrole

theorem getMemberWithRole_congr {s' : LedGroup} {role : MemberSlot → Bool}
    (hleader : s'.grp.leaderGuid = s.grp.leaderGuid)
    (hslots : ∀ g, g ≠ s.grp.leaderGuid → s'.grp.getMemberSlot g = s.grp.getMemberSlot g)
    {gone : GroupReference → Bool} (hgone : ∀ ref, gone ref → ref.guid = s.grp.leaderGuid)
    (hmembers : s'.members = s.members.filter fun ref => !gone ref) :
    s'.getMemberWithRole role = s.getMemberWithRole role := by
  unfold getMemberWithRole
  rw [hmembers, List.find?_filter]
  congr 2
  funext ref
  by_cases hguid : ref.guid = s.grp.leaderGuid
  · simp [hleader, hguid]
  · have hstays : gone ref = false := by
      rw [Bool.eq_false_iff]
      exact fun h => hguid (hgone ref h)
    simp [hleader, hslots ref.guid hguid, hstays]

theorem firstSuitableMember_eraseMember : { s.unlinkInWorld (· = s.grp.leaderGuid) with
      grp := s.grp.eraseMember s.grp.leaderGuid }.firstSuitableMember = s.firstSuitableMember := by
  have hrole : ∀ role, { s.unlinkInWorld (· = s.grp.leaderGuid) with
      grp := s.grp.eraseMember s.grp.leaderGuid }.getMemberWithRole role = s.getMemberWithRole role := by
    intro role
    have hgone : ∀ ref : GroupReference, (ref.inWorld && decide (ref.guid = s.grp.leaderGuid)) →
        ref.guid = s.grp.leaderGuid := by
      intro ref href
      simp only [Bool.and_eq_true, decide_eq_true_eq] at href
      exact href.2
    exact getMemberWithRole_congr Group.eraseMember_leaderGuid
      (fun g hg => Group.getMemberSlot_eraseMember hg) hgone rfl
  unfold firstSuitableMember
  simp only [hrole]
  rw [Group.eraseMember_groupType]

def NamesSuccessor (s : LedGroup) : Prop :=
  ∃ newLeader, s.firstSuitableMember = some newLeader ∧
    (s.grp.memberSlots.eraseP (·.guid = s.grp.leaderGuid)).head?.map (·.name) =
      (s.grp.getMemberSlot newLeader).map (·.name)

def Truthful (s : LedGroup) : Prop := ∀ p ∈ s.sent, p.leaderName = some p.name

theorem truthful_sendSetLeader (name : String) : (s.sendSetLeader name).Truthful ↔
      s.Truthful ∧ (s.grp.getMemberSlot s.grp.leaderGuid).map (·.name) = some name := by
  constructor
  · intro h
    refine ⟨fun p hp => h p (List.mem_append_left _ hp), ?_⟩
    exact h ⟨name, _⟩ (List.mem_append_right _ (List.mem_singleton_self _))
  · rintro ⟨hsent, hname⟩ p hp
    rcases List.mem_append.mp hp with hold | hnew
    · exact hsent p hold
    · rw [List.mem_singleton.mp hnew]
      exact hname

def withoutLeader (s : LedGroup) : LedGroup :=
  { s.unlinkInWorld (· = s.grp.leaderGuid) with grp := s.grp.eraseMember s.grp.leaderGuid }

theorem exists_front (hlarge : s.grp.disbandSize < s.grp.memberSlots.length) :
    ∃ front, s.withoutLeader.grp.memberSlots.head? = some front := by
  refine ⟨_, List.head?_eq_some_head (List.ne_nil_of_length_pos ?_)⟩
  have hsize : 1 ≤ s.grp.disbandSize := by
    unfold Group.disbandSize
    split <;> omega
  change 0 < (s.grp.eraseMember s.grp.leaderGuid).memberSlots.length
  rw [Group.eraseMember_memberSlots, List.length_eraseP]
  split <;> omega

theorem isMember_withoutLeader (h : s.firstSuitableMember = some guid) : s.withoutLeader.grp.isMember guid := by
  obtain ⟨hne, hmember⟩ := firstSuitableMember_eq_some h
  have hslot : s.withoutLeader.grp.getMemberSlot guid = s.grp.getMemberSlot guid :=
    Group.getMemberSlot_eraseMember hne
  rw [Group.isMember_iff, hslot, ← Group.isMember_iff]
  exact hmember

theorem eraseMember_leader (hpos : 0 < s.withoutLeader.grp.memberSlots.length) : s.eraseMember s.grp.leaderGuid =
      (match s.firstSuitableMember with
        | none => s.withoutLeader
        | some newLeader =>
          { s.withoutLeader with grp := s.withoutLeader.grp.setLeader newLeader }, true) := by
  have hself : s.grp.isLeader s.grp.leaderGuid = true := by simp [Group.isLeader]
  have hsame : s.withoutLeader.firstSuitableMember = s.firstSuitableMember :=
    firstSuitableMember_eraseMember
  unfold eraseMember
  rw [if_pos hself]
  change (if 0 < s.withoutLeader.grp.memberSlots.length then
      match s.withoutLeader.firstSuitableMember with
      | none => (s.withoutLeader, true)
      | some newLeader => ({ s.withoutLeader with
          grp := s.withoutLeader.grp.setLeader newLeader }, true)
    else (s.withoutLeader, true)) = _
  rw [if_pos hpos, hsame]
  cases s.firstSuitableMember <;> rfl

theorem removeMember_leader_eq (hlarge : s.grp.disbandSize < s.grp.memberSlots.length)
    {front : MemberSlot} (hfront : s.withoutLeader.grp.memberSlots.head? = some front) :
    s.removeMember s.grp.leaderGuid false = (match s.firstSuitableMember with
        | none => s.withoutLeader
        | some newLeader =>
          { s.withoutLeader with grp := s.withoutLeader.grp.setLeader newLeader }).sendSetLeader
        front.name := by
  have hpos : 0 < s.withoutLeader.grp.memberSlots.length := by
    cases hslots : s.withoutLeader.grp.memberSlots with
    | nil => simp [hslots] at hfront
    | cons slot slots => exact Nat.succ_pos _
  unfold removeMember
  simp only [Bool.false_and, Bool.false_eq_true, if_false, if_pos hlarge, eraseMember_leader hpos, if_true]
  cases s.firstSuitableMember with
  | none => simp only [hfront]
  | some newLeader =>
    have hslots : (s.withoutLeader.grp.setLeader newLeader).memberSlots =
        s.withoutLeader.grp.memberSlots := by
      unfold Group.setLeader
      split <;> rfl
    simp only [hslots, hfront]

theorem removeMember_leader (hlarge : s.grp.disbandSize < s.grp.memberSlots.length)
    (hled : s.Led) : (s.removeMember s.grp.leaderGuid false).Truthful ↔ s.NamesSuccessor := by
  obtain ⟨front, hfront⟩ := exists_front hlarge
  rw [removeMember_leader_eq hlarge hfront, truthful_sendSetLeader]
  have hrest : (s.grp.memberSlots.eraseP (·.guid = s.grp.leaderGuid)).head? = some front := by
    rw [← Group.eraseMember_memberSlots]
    exact hfront
  unfold NamesSuccessor
  rw [hrest, Option.map_some]
  cases hnew : s.firstSuitableMember with
  | none =>
    have hgone := @Group.isMember_eraseMember_self s.grp s.grp.leaderGuid hled.distinct
    rw [Bool.eq_false_iff, ne_eq, Group.isMember_iff, Bool.not_eq_true,
      Option.isSome_eq_false_iff, Option.isNone_iff_eq_none] at hgone
    change _ ∧ ((s.grp.eraseMember s.grp.leaderGuid).getMemberSlot
      (s.grp.eraseMember s.grp.leaderGuid).leaderGuid).map _ = _ ↔ _
    rw [Group.eraseMember_leaderGuid, hgone]
    simp
  | some newLeader =>
    obtain ⟨hne, -⟩ := firstSuitableMember_eq_some hnew
    have hslot : s.withoutLeader.grp.getMemberSlot newLeader = s.grp.getMemberSlot newLeader :=
      Group.getMemberSlot_eraseMember hne
    dsimp only
    rw [Group.setLeader_of_isMember (isMember_withoutLeader hnew)]
    change s.Truthful ∧ (s.withoutLeader.grp.getMemberSlot newLeader).map (·.name) = some front.name ↔ _
    rw [hslot]
    constructor
    · rintro ⟨-, hname⟩
      exact ⟨newLeader, rfl, hname.symm⟩
    · rintro ⟨g, hg, hname⟩
      obtain rfl := Option.some.inj hg
      exact ⟨hled.sent, hname.symm⟩

theorem removeMember_leads (hlarge : s.grp.disbandSize < s.grp.memberSlots.length)
    (hnames : s.NamesSuccessor) : (s.removeMember s.grp.leaderGuid false).grp.isMember
      (s.removeMember s.grp.leaderGuid false).grp.leaderGuid := by
  obtain ⟨front, hfront⟩ := exists_front hlarge
  obtain ⟨newLeader, hnew, -⟩ := hnames
  have hstays := isMember_withoutLeader hnew
  rw [removeMember_leader_eq hlarge hfront, hnew]
  dsimp only
  rw [Group.setLeader_of_isMember hstays]
  exact hstays

theorem Led.distinct_eraseMember (h : s.Led) (guid : Nat) :
    ((s.grp.eraseMember guid).memberSlots.map (·.guid)).Nodup := by
  rw [Group.eraseMember_memberSlots]
  exact h.distinct.sublist (List.eraseP_sublist.map _)

theorem Led.addMember (h : s.Led) (hgone : s.gone = false) (guid : Nat) (name : String)
    (player : Option GroupReference) : (s.addMember guid name player).Led := by
  unfold LedGroup.addMember
  split
  · exact h
  next hnew =>
    split
    · exact h
    next subgroup _ =>
      split
      · exact h
      · have hadded : LedGroup.Led { s with
            grp := s.grp.pushMember { guid, name, group := subgroup } } := by
          refine ⟨⟨fun _ => ?_, h.sent⟩, ?_⟩
          · have hleader := h.leader hgone
            simp only [Group.isMember, Group.pushMember, List.any_append, Bool.or_eq_true] at hleader ⊢
            exact .inl hleader
          · have hnot := Group.isMember_eq_false_iff.mp (Bool.eq_false_iff.mpr hnew)
            simp only [Group.pushMember, List.map_append, List.map_cons, List.map_nil]
            exact List.nodup_append.mpr ⟨h.distinct, List.nodup_singleton _, fun a ha b hb heq =>
              hnot (by rw [← List.mem_singleton.mp hb, ← heq]; exact ha)⟩
        cases player with
        | none => exact hadded
        | some ref => exact ⟨⟨hadded.leader, hadded.sent⟩, hadded.distinct⟩

theorem Led.changeLeader (h : s.Led) (guid : Nat) : (s.changeLeader guid).Led := by
  unfold LedGroup.changeLeader
  cases hslot : s.grp.getMemberSlot guid with
  | none => exact h
  | some slot =>
    have hmember : s.grp.isMember guid := by
      rw [Group.isMember_iff, hslot]
      rfl
    dsimp only
    rw [Group.setLeader_of_isMember hmember]
    refine ⟨⟨fun _ => hmember, (truthful_sendSetLeader slot.name).mpr ⟨h.sent, ?_⟩⟩, h.distinct⟩
    change (s.grp.getMemberSlot guid).map (·.name) = some slot.name
    rw [hslot, Option.map_some]

theorem disband_led (h : s.Led) : s.disband.Led :=
  ⟨⟨fun hgone => (by cases hgone), h.sent⟩, List.nodup_nil⟩

theorem Led.removeMember_other (h : s.Led) (hguid : guid ≠ s.grp.leaderGuid) (logout : Bool) :
    (s.removeMember guid logout).Led := by
  have hnot : s.grp.isLeader guid = false := by simp [Group.isLeader, Ne.symm hguid]
  unfold removeMember
  rw [hnot, Bool.and_false, if_neg Bool.false_ne_true]
  split
  · unfold eraseMember
    simp only [hnot, Bool.false_eq_true, if_false]
    refine ⟨⟨fun hgone => ?_, h.sent⟩, h.distinct_eraseMember guid⟩
    change (s.grp.eraseMember guid).isMember (s.grp.eraseMember guid).leaderGuid
    rw [Group.eraseMember_leaderGuid, Group.isMember_iff,
      Group.getMemberSlot_eraseMember hguid.symm, ← Group.isMember_iff]
    exact h.leader hgone
  · exact disband_led h

theorem distinct_removeMember (h : s.Led) (hlarge : s.grp.disbandSize < s.grp.memberSlots.length) :
    ((s.removeMember s.grp.leaderGuid false).grp.memberSlots.map (·.guid)).Nodup := by
  obtain ⟨front, hfront⟩ := exists_front hlarge
  rw [removeMember_leader_eq hlarge hfront]
  cases s.firstSuitableMember with
  | none => exact h.distinct_eraseMember _
  | some newLeader =>
    have hslots : (s.withoutLeader.grp.setLeader newLeader).memberSlots =
        s.withoutLeader.grp.memberSlots := by
      unfold Group.setLeader
      split <;> rfl
    change ((s.withoutLeader.grp.setLeader newLeader).memberSlots.map (·.guid)).Nodup
    rw [hslots]
    exact h.distinct_eraseMember _

end LedGroup

/-- When an event does well by the leader: one who is removed has a successor in the world, who is the
first of the members that remain. -/
def LeaderOk (s : LedGroup) : LeaderEvent → Prop
  | .removeMember guid logout =>
    s.gone = false → logout = false → guid = s.grp.leaderGuid →
      s.grp.disbandSize < s.grp.memberSlots.length → s.NamesSuccessor
  | .update diff =>
    s.gone = false → 0 < s.waitLeaderTimer → s.waitLeaderTimer ≤ diff →
      s.firstSuitableMember = none → s.grp.memberSlots.length ≤ s.grp.disbandSize
  | _ => True

namespace LedGroup

variable {s : LedGroup} {period : Nat}

theorem leaderStep_led (e : LeaderEvent) (hok : LeaderOk s e) (h : s.Led) : (leaderStep period s e).Led := by
  unfold leaderStep
  split
  · exact h
  next hgone =>
    have hgone : s.gone = false := Bool.eq_false_iff.mpr hgone
    cases e with
    | addMember guid name player => exact h.addMember hgone guid name player
    | removeMember guid logout =>
      by_cases hguid : guid = s.grp.leaderGuid
      · subst hguid
        cases logout with
        | true =>
          have hself : s.grp.isLeader s.grp.leaderGuid = true := by simp [Group.isLeader]
          simpa [removeMember, hself] using h
        | false =>
          by_cases hlarge : s.grp.disbandSize < s.grp.memberSlots.length
          · have hnames := hok hgone rfl rfl hlarge
            exact ⟨⟨fun _ => removeMember_leads hlarge hnames,
              (removeMember_leader hlarge h).mpr hnames⟩, distinct_removeMember h hlarge⟩
          · simpa [removeMember, hlarge] using disband_led h
      · exact h.removeMember_other hguid logout
    | changeLeader guid => exact h.changeLeader guid
    | update diff =>
      dsimp only [update]
      split
      · exact h
      next htimer =>
        split
        · exact ⟨⟨h.leader, h.sent⟩, h.distinct⟩
        next hdiff =>
          have hreset : LedGroup.Led { s with waitLeaderTimer := 0 } :=
            ⟨⟨h.leader, h.sent⟩, h.distinct⟩
          have hsame : LedGroup.firstSuitableMember { s with waitLeaderTimer := 0 } =
              s.firstSuitableMember := rfl
          rw [hsame]
          cases hnew : s.firstSuitableMember with
          | some newLeader => exact hreset.changeLeader newLeader
          | none =>
            have hsmall : ¬ s.grp.disbandSize < s.grp.memberSlots.length :=
              not_lt.mpr (hok hgone (Nat.pos_of_ne_zero htimer) (not_lt.mp hdiff) hnew)
            have hdisband : LedGroup.removeMember { s with waitLeaderTimer := 0 }
                s.grp.leaderGuid false = LedGroup.disband { s with waitLeaderTimer := 0 } := by
              simp [removeMember, hsmall]
            simp only [hdisband]
            have hled := disband_led hreset
            exact ⟨⟨fun hgone => (by cases hgone), hled.sent⟩, hled.distinct⟩
    | checkLeader guid logout =>
      dsimp only [checkLeader]
      split
      · exact ⟨⟨h.leader, h.sent⟩, h.distinct⟩
      split
      · exact h
      split
      · exact ⟨⟨h.leader, h.sent⟩, h.distinct⟩
      · split
        · exact h
        · exact ⟨⟨h.leader, h.sent⟩, h.distinct⟩
    | link ref => exact ⟨⟨h.leader, h.sent⟩, h.distinct⟩
    | unlink guid => exact ⟨⟨h.leader, h.sent⟩, h.distinct⟩
    | setInWorld guid inWorld => exact ⟨⟨h.leader, h.sent⟩, h.distinct⟩
    | convertToRaid => exact ⟨⟨h.leader, h.sent⟩, h.distinct⟩
    | setFlags guid assistant mainTank mainAssistant =>
      have hguids : (s.grp.memberSlots.map fun slot =>
          if slot.guid = guid then { slot with assistant, mainTank, mainAssistant } else slot).map
            (·.guid) = s.grp.memberSlots.map (·.guid) := by
        rw [List.map_map]
        refine List.map_congr_left fun slot _ => ?_
        simp only [Function.comp_apply]
        split <;> rfl
      refine ⟨⟨fun hgone => ?_, h.sent⟩, ?_⟩
      · have hleader := h.leader hgone
        by_contra hnot
        rw [Bool.not_eq_true, Group.isMember_eq_false_iff] at hnot
        dsimp only at hnot
        rw [hguids, ← Group.isMember_eq_false_iff] at hnot
        rw [hnot] at hleader
        cases hleader
      · dsimp only
        rw [hguids]
        exact h.distinct

theorem leaderStep_not_sound (e : LeaderEvent) (hbad : ¬ LeaderOk s e) (h : s.Led) :
    ¬ (leaderStep period s e).Sound := by
  cases e with
  | removeMember guid logout =>
    simp only [LeaderOk, Classical.not_imp] at hbad
    obtain ⟨hgone, rfl, rfl, hlarge, hnames⟩ := hbad
    rw [leaderStep, if_neg (by simp [hgone])]
    exact fun hsound => hnames ((removeMember_leader hlarge h).mp hsound.sent)
  | update diff =>
    simp only [LeaderOk, Classical.not_imp, not_le] at hbad
    obtain ⟨hgone, htimer, hdiff, hnone, hlarge⟩ := hbad
    have hreset : LedGroup.Led { s with waitLeaderTimer := 0 } :=
      ⟨⟨h.leader, h.sent⟩, h.distinct⟩
    have hsame : LedGroup.firstSuitableMember { s with waitLeaderTimer := 0 } = s.firstSuitableMember := rfl
    rw [leaderStep, if_neg (by simp [hgone])]
    dsimp only [update]
    rw [if_neg (Nat.ne_of_gt htimer), if_neg (not_lt.mpr hdiff), hsame, hnone]
    intro hsound
    have hiff := @removeMember_leader { s with waitLeaderTimer := 0 } hlarge hreset
    have hnames := hiff.mp fun p hp => hsound.sent p (by
      dsimp only
      split <;> exact hp)
    obtain ⟨newLeader, hsome, -⟩ := hnames
    rw [hsame, hnone] at hsome
    cases hsome
  | addMember => exact absurd trivial hbad
  | changeLeader => exact absurd trivial hbad
  | checkLeader => exact absurd trivial hbad
  | link => exact absurd trivial hbad
  | unlink => exact absurd trivial hbad
  | setInWorld => exact absurd trivial hbad
  | convertToRaid => exact absurd trivial hbad
  | setFlags => exact absurd trivial hbad

private theorem addMember_first {grp : Group} {guid : Nat} {name : String}
    {player : Option GroupReference} (hslots : grp.memberSlots = [])
    (hfree : grp.freeSubGroup = some 0) (hfull : grp.isFull = false) (hguid : guid ≠ 0)
    (hleader : grp.leaderGuid = guid) : (LedGroup.addMember { grp } guid name player).Led := by
  have hadded : LedGroup.Led { grp := grp.pushMember { guid, name, group := 0 } } := by
    refine ⟨⟨fun _ => ?_, fun p hp => by cases hp⟩, ?_⟩
    · simp [Group.isMember, Group.pushMember, hleader]
    · simp [Group.pushMember, hslots]
  have hnew : grp.isMember guid = false := by simp [Group.isMember, hslots]
  unfold LedGroup.addMember
  simp only [hnew, hfree, hfull, hguid, decide_false, Bool.or_false, Bool.false_eq_true, if_false]
  cases player with
  | none => exact hadded
  | some ref => exact ⟨⟨hadded.leader, hadded.sent⟩, hadded.distinct⟩

theorem create_led {bgGroup : Bool} {leader : Nat} {name : String} {player : Option GroupReference}
    (hleader : leader ≠ 0) : (create bgGroup leader name player).Led := by
  cases bgGroup with
  | false => exact addMember_first rfl rfl rfl hleader rfl
  | true => exact addMember_first rfl rfl rfl hleader rfl

end LedGroup

/-- The leader is a member, and every broadcast names him, throughout a run of a created group exactly
when each removal of a leader in it does well by him. -/
theorem leader_sound_iff {period : Nat} {bgGroup : Bool} {leader : Nat} {name : String}
    {player : Option GroupReference} (hleader : leader ≠ 0) (es : List LeaderEvent) : (∀ fs, fs <+: es →
        (run (leaderStep period) (LedGroup.create bgGroup leader name player) fs).Sound) ↔
      Guarded (leaderStep period) LeaderOk (LedGroup.create bgGroup leader name player) es :=
  run_always_iff (fun _ h => h.toSound) (fun _ e hok h => LedGroup.leaderStep_led e hok h)
    (fun _ e hbad h => LedGroup.leaderStep_not_sound e hbad h) (LedGroup.create_led hleader)

/-! Ann makes a group and leaves it to Bel and Cyn. -/

/-- Cyn is offline when Ann leaves. -/
theorem leader_sound_iff_handover :
    let es : List LeaderEvent :=
      [.addMember 2 "Bel" (some { guid := 2 }), .addMember 3 "Cyn" none, .removeMember 1 false]
    (∀ fs, fs <+: es → (run (leaderStep 180000)
        (LedGroup.create false 1 "Ann" (some { guid := 1 })) fs).Sound) ↔
      Guarded (leaderStep 180000) LeaderOk (LedGroup.create false 1 "Ann" (some { guid := 1 })) es :=
  leader_sound_iff (by decide) _

/-- All are online; Cyn, who came last, leads the group, and the members are told that Bel does. -/
theorem leader_misnamed : ¬ (run (leaderStep 180000) (LedGroup.create false 1 "Ann" (some { guid := 1 }))
        [.addMember 2 "Bel" (some { guid := 2 }), .addMember 3 "Cyn" (some { guid := 3 }),
          .removeMember 1 false]).Sound := by
  intro h
  have hpacket := h.sent ⟨"Bel", some "Cyn"⟩ (by decide +kernel)
  revert hpacket
  decide

end Mangos
