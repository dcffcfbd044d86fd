import Mangos.Framework.Counters
import Mangos.Group.Leader

/-!
# Marks and roles in a group

Raid leaders put icons on targets and give members the roles of tank and assistant.
-/

namespace Mangos

open Framework

def targetIconCount : Nat := 8

inductive GroupFlagsAssignment
  | mainAssist
  | mainTank
  | assistant
  deriving DecidableEq, Repr

namespace GroupFlagsAssignment

def ofNat? : Nat → Option GroupFlagsAssignment
  | 0 => some .mainAssist
  | 1 => some .mainTank
  | 2 => some .assistant
  | _ => none

/-- `flags & mask` -/
def isSet (assignment : GroupFlagsAssignment) (slot : MemberSlot) : Bool :=
  match assignment with
  | .mainAssist => slot.mainAssistant
  | .mainTank => slot.mainTank
  | .assistant => slot.assistant

/-- `(flags | mask) & ~excludeMask` -/
def set (assignment : GroupFlagsAssignment) (slot : MemberSlot) : MemberSlot :=
  match assignment with
  | .mainAssist => { slot with mainAssistant := true, mainTank := false }
  | .mainTank => { slot with mainTank := true, mainAssistant := false }
  | .assistant => { slot with assistant := true }

/-- `flags & ~mask` -/
def clear (assignment : GroupFlagsAssignment) (slot : MemberSlot) : MemberSlot :=
  match assignment with
  | .mainAssist => { slot with mainAssistant := false }
  | .mainTank => { slot with mainTank := false }
  | .assistant => { slot with assistant := false }

variable {a b : GroupFlagsAssignment} {slot : MemberSlot}

@[simp] theorem set_guid : (a.set slot).guid = slot.guid := by cases a <;> rfl

@[simp] theorem clear_guid : (a.clear slot).guid = slot.guid := by cases a <;> rfl

@[simp] theorem isSet_clear_self : a.isSet (a.clear slot) = false := by cases a <;> rfl

theorem isSet_of_isSet_clear (h : b.isSet (a.clear slot) = true) : b.isSet slot = true := by
  cases a <;> cases b <;> simp_all [isSet, clear]

theorem isSet_of_isSet_set (hne : b ≠ a) (h : b.isSet (a.set slot) = true) : b.isSet slot = true := by
  cases a <;> cases b <;> simp_all [isSet, set]

end GroupFlagsAssignment

/-- A group with the targets of its icons; 0 is the empty guid. -/
structure MarkedGroup where
  grp : Group
  targetIcons : Fin targetIconCount → Nat

namespace MarkedGroup

variable (s : MarkedGroup)

def putIcon (i : Fin targetIconCount) (guid : Nat) : MarkedGroup :=
  { s with targetIcons := Function.update s.targetIcons i guid }

/-- One turn of the loop that cleans other icons. `SetTargetIcon` calls itself with the empty guid, for
which it cleans nothing. -/
def cleanIcon (targetGuid : Nat) (s : MarkedGroup) (i : Fin targetIconCount) : MarkedGroup :=
  if s.targetIcons i = targetGuid then s.putIcon i 0 else s

def setTargetIcon (id targetGuid : Nat) : MarkedGroup :=
  if h : id < targetIconCount then
    let s := if targetGuid ≠ 0 then run (cleanIcon targetGuid) s (List.finRange targetIconCount) else s
    s.putIcon ⟨id, h⟩ targetGuid
  else s

/-- What `SetGroupUniqueFlag` makes of a slot when it gives a flag to member `guid`. -/
def giveFlag (unique : Bool) (guid : Nat) (assignment : GroupFlagsAssignment) (slot : MemberSlot) :
    MemberSlot :=
  if slot.guid = guid then assignment.set slot
  else if assignment.isSet slot && unique then assignment.clear slot
  else slot

/-- `Group::SetGroupUniqueFlag`; `unique` is the configuration `RaidFlags.Unique`. -/
def setGroupUniqueFlag (unique : Bool) (guid assignment : Nat) (apply : Bool) : MarkedGroup :=
  match GroupFlagsAssignment.ofNat? assignment with
  | none => s
  | some assignment =>
    if guid = 0 then s
    else
      { s with grp := { s.grp with
          memberSlots :=
            if apply then s.grp.memberSlots.map (giveFlag unique guid assignment)
            else changeFirst (·.guid = guid) assignment.clear s.grp.memberSlots } }

end MarkedGroup

/-- The calls that set marks and roles. -/
inductive MarkCall
  | setTargetIcon (id targetGuid : Nat)
  | setGroupUniqueFlag (unique : Bool) (guid assignment : Nat) (apply : Bool)
  deriving DecidableEq, Repr

def markStep (s : MarkedGroup) : MarkCall → MarkedGroup
  | .setTargetIcon id targetGuid => s.setTargetIcon id targetGuid
  | .setGroupUniqueFlag unique guid assignment apply => s.setGroupUniqueFlag unique guid assignment apply

def MarkCall.isUnique : MarkCall → Bool
  | .setTargetIcon _ _ => true
  | .setGroupUniqueFlag unique _ _ _ => unique

namespace MarkedGroup

/-- No target has two icons, and nobody is both main tank and main assistant. -/
structure Exclusive (s : MarkedGroup) : Prop where
  distinct : (s.grp.memberSlots.map (·.guid)).Nodup
  icons : ∀ i j, s.targetIcons i ≠ 0 → s.targetIcons i = s.targetIcons j → i = j
  roles : ∀ slot ∈ s.grp.memberSlots, ¬ (slot.mainTank = true ∧ slot.mainAssistant = true)

def FlagsUnique (s : MarkedGroup) : Prop :=
  ∀ assignment : GroupFlagsAssignment, s.grp.memberSlots.countP assignment.isSet ≤ 1

variable {s : MarkedGroup} {guid id : Nat} {unique : Bool} {a b : GroupFlagsAssignment}

theorem grp_cleanIcons (is : List (Fin targetIconCount)) : (run (cleanIcon guid) s is).grp = s.grp := by
  induction is generalizing s with
  | nil => rfl
  | cons i is ih =>
    rw [run_cons, ih, cleanIcon]
    split_ifs
    · rfl
    · rfl

theorem targetIcons_cleanIcons (is : List (Fin targetIconCount)) (j : Fin targetIconCount)
    (hguid : guid ≠ 0) : (run (cleanIcon guid) s is).targetIcons j =
      if is.any (· = j) ∧ s.targetIcons j = guid then 0 else s.targetIcons j := by
  induction is generalizing s with
  | nil => simp
  | cons i is ih =>
    rw [run_cons, ih]
    by_cases hi : s.targetIcons i = guid
    · rw [cleanIcon, if_pos hi]
      by_cases hj : j = i
      · subst hj
        simp [putIcon, hi, hguid.symm]
      · have hne : ¬ i = j := fun h => hj h.symm
        simp [putIcon, hj, hne]
    · rw [cleanIcon, if_neg hi]
      by_cases hj : j = i
      · subst hj
        simp [hi]
      · have hne : ¬ i = j := fun h => hj h.symm
        simp [hne]

theorem grp_setTargetIcon : (s.setTargetIcon id guid).grp = s.grp := by
  unfold setTargetIcon
  split_ifs
  · simp only [putIcon, grp_cleanIcons]
  · rfl
  · rfl

theorem icons_setTargetIcon (h : ∀ i j, s.targetIcons i ≠ 0 → s.targetIcons i = s.targetIcons j → i = j)
    (i j : Fin targetIconCount) (hi : (s.setTargetIcon id guid).targetIcons i ≠ 0)
    (hij : (s.setTargetIcon id guid).targetIcons i = (s.setTargetIcon id guid).targetIcons j) : i = j := by
  unfold setTargetIcon at hi hij
  split_ifs at hi hij with hid hguid
  · have hclean := fun k => targetIcons_cleanIcons (s := s) (List.finRange targetIconCount) k hguid
    simp only [putIcon, Function.update_apply, hclean] at hi hij
    grind
  · simp only [ne_eq, not_not] at hguid
    subst hguid
    simp only [putIcon, Function.update_apply] at hi hij
    grind
  · exact h i j hi hij

@[simp] theorem giveFlag_guid {slot : MemberSlot} : (giveFlag unique guid a slot).guid = slot.guid := by
  unfold giveFlag
  split_ifs <;> simp

theorem isSet_of_isSet_giveFlag {slot : MemberSlot} (hne : b ≠ a)
    (h : b.isSet (giveFlag unique guid a slot) = true) : b.isSet slot = true := by
  unfold giveFlag at h
  split_ifs at h
  · exact GroupFlagsAssignment.isSet_of_isSet_set hne h
  · exact GroupFlagsAssignment.isSet_of_isSet_clear h
  · exact h

theorem guid_eq_of_isSet_giveFlag {slot : MemberSlot} (h : a.isSet (giveFlag true guid a slot) = true) :
    slot.guid = guid := by
  unfold giveFlag at h
  split_ifs at h with hguid hset
  · exact hguid
  · simp at h
  · simp [h] at hset

theorem roles_giveFlag {slot : MemberSlot} (h : ¬ (slot.mainTank = true ∧ slot.mainAssistant = true)) :
    ¬ ((giveFlag unique guid a slot).mainTank = true ∧ (giveFlag unique guid a slot).mainAssistant = true) := by
  unfold giveFlag
  cases a with
  | mainAssist => split_ifs <;> simp_all [GroupFlagsAssignment.set, GroupFlagsAssignment.clear]
  | mainTank => split_ifs <;> simp_all [GroupFlagsAssignment.set, GroupFlagsAssignment.clear]
  | assistant => split_ifs <;> simp_all [GroupFlagsAssignment.set, GroupFlagsAssignment.clear]

theorem roles_clear {slot : MemberSlot} (h : ¬ (slot.mainTank = true ∧ slot.mainAssistant = true)) :
    ¬ ((a.clear slot).mainTank = true ∧ (a.clear slot).mainAssistant = true) := by
  cases a <;> simp_all [GroupFlagsAssignment.clear]

theorem countP_changeFirst_clear (p : MemberSlot → Bool) (l : List MemberSlot) :
    (changeFirst p a.clear l).countP b.isSet ≤ l.countP b.isSet := by
  induction l with
  | nil => exact Nat.le_refl _
  | cons slot l ih =>
    by_cases hp : p slot
    · rw [changeFirst_cons_of_pos hp, List.countP_cons, List.countP_cons]
      have hset : b.isSet (a.clear slot) = true → b.isSet slot = true :=
        GroupFlagsAssignment.isSet_of_isSet_clear
      split_ifs with hclear hold
      · exact Nat.le_refl _
      · exact absurd (hset hclear) hold
      · exact Nat.le_succ _
      · exact Nat.le_refl _
    · rw [changeFirst_cons_of_neg hp, List.countP_cons, List.countP_cons]
      exact Nat.add_le_add_right ih _

theorem countP_guid_le_one {l : List MemberSlot} (h : (l.map (·.guid)).Nodup) (guid : Nat) :
    l.countP (fun slot => slot.guid = guid) ≤ 1 := by
  have hcount := List.nodup_iff_count.mp h guid
  rw [List.count, List.countP_map] at hcount
  exact hcount

theorem Exclusive.setGroupUniqueFlag (h : s.Exclusive) (unique : Bool) (guid assignment : Nat)
    (apply : Bool) : (s.setGroupUniqueFlag unique guid assignment apply).Exclusive := by
  unfold MarkedGroup.setGroupUniqueFlag
  cases hassign : GroupFlagsAssignment.ofNat? assignment with
  | none => exact h
  | some a =>
    dsimp only
    split_ifs with hguid happly
    · exact h
    · refine ⟨?_, h.icons, fun slot hslot => ?_⟩
      · rw [List.map_map]
        simpa [Function.comp_def] using h.distinct
      · obtain ⟨old, hold, rfl⟩ := List.mem_map.mp hslot
        exact roles_giveFlag (h.roles old hold)
    · refine ⟨?_, h.icons, fun slot hslot => ?_⟩
      · rw [map_changeFirst _ fun _ => GroupFlagsAssignment.clear_guid]
        exact h.distinct
      · rcases mem_changeFirst hslot with hold | ⟨old, hold, rfl⟩
        · exact h.roles slot hold
        · exact roles_clear (h.roles old hold)

theorem FlagsUnique.setGroupUniqueFlag (h : s.Exclusive) (hflags : s.FlagsUnique) (guid assignment : Nat)
    (apply : Bool) : (s.setGroupUniqueFlag true guid assignment apply).FlagsUnique := by
  intro b
  unfold MarkedGroup.setGroupUniqueFlag
  cases hassign : GroupFlagsAssignment.ofNat? assignment with
  | none => exact hflags b
  | some a =>
    dsimp only
    split_ifs with hguid happly
    · exact hflags b
    · rw [List.countP_map]
      by_cases hb : b = a
      · subst hb
        refine le_trans (List.countP_mono_left fun slot _ hset => ?_)
          (countP_guid_le_one h.distinct guid)
        simpa using guid_eq_of_isSet_giveFlag hset
      · exact le_trans (List.countP_mono_left fun slot _ hset => isSet_of_isSet_giveFlag hb hset) (hflags b)
    · exact (countP_changeFirst_clear _ _).trans (hflags b)

theorem Exclusive.markStep (h : s.Exclusive) (call : MarkCall) : (markStep s call).Exclusive := by
  cases call with
  | setTargetIcon id guid =>
    refine ⟨?_, icons_setTargetIcon h.icons, ?_⟩
    · simpa only [Mangos.markStep, grp_setTargetIcon] using h.distinct
    · simpa only [Mangos.markStep, grp_setTargetIcon] using h.roles
  | setGroupUniqueFlag unique guid assignment apply => exact h.setGroupUniqueFlag unique guid assignment apply

theorem FlagsUnique.markStep (h : s.Exclusive) (hflags : s.FlagsUnique) {call : MarkCall}
    (hunique : call.isUnique = true) : (markStep s call).FlagsUnique := by
  cases call with
  | setTargetIcon id guid => simpa only [FlagsUnique, Mangos.markStep, grp_setTargetIcon] using hflags
  | setGroupUniqueFlag unique guid assignment apply =>
    obtain rfl : unique = true := hunique
    exact hflags.setGroupUniqueFlag h guid assignment apply

/-- Icons and the two main roles stay exclusive whatever is called, and flags stay unique as long as the
configuration wants them to be. -/
theorem marks_stay_exclusive (s : MarkedGroup) (h : s.Exclusive) (calls : List MarkCall) :
    (run markStep s calls).Exclusive ∧
      (s.FlagsUnique → (∀ call ∈ calls, call.isUnique = true) → (run markStep s calls).FlagsUnique) := by
  induction calls generalizing s with
  | nil => exact ⟨h, fun hflags _ => hflags⟩
  | cons call calls ih =>
    obtain ⟨hexcl, hrest⟩ := ih (Mangos.markStep s call) (h.markStep call)
    refine ⟨hexcl, fun hflags hcalls => hrest ?_ fun c hc => hcalls c (List.mem_cons_of_mem _ hc)⟩
    exact hflags.markStep h (hcalls call List.mem_cons_self)

def twoMembers : MarkedGroup :=
  { grp := { leaderGuid := 1, memberSlots := [{ guid := 1, group := 0 }, { guid := 2, group := 0 }] }
    targetIcons := fun _ => 0 }

theorem exclusive_twoMembers : twoMembers.Exclusive :=
  ⟨by decide, by decide, by decide⟩

/-- Both become main tanks while roles need not be unique. -/
theorem two_mainTanks : ¬ ∀ (s : MarkedGroup) (calls : List MarkCall), s.Exclusive → s.FlagsUnique →
    (run markStep s calls).FlagsUnique := by
  intro h
  have hflags : twoMembers.FlagsUnique := by
    intro a
    cases a <;> decide
  have htanks := h twoMembers [.setGroupUniqueFlag false 1 1 true, .setGroupUniqueFlag false 2 1 true]
    exclusive_twoMembers hflags .mainTank
  exact absurd htanks (by decide)

theorem marks_stay_exclusive_twoMembers : (run markStep twoMembers
    [.setTargetIcon 3 7, .setTargetIcon 5 7, .setGroupUniqueFlag true 1 1 true,
      .setGroupUniqueFlag true 2 1 true]).Exclusive :=
  (marks_stay_exclusive twoMembers exclusive_twoMembers _).1

end MarkedGroup

end Mangos
