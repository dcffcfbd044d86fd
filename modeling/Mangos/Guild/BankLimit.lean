import Mangos.Framework.Allowance
import Mangos.Framework.Run
import Mangos.Guild.BankMoves

/-!
# The daily limit for taking items out of a tab

The counter of a member for a tab is an allowance for each day.
-/

namespace Mangos

open Framework

/-- Whether the day that began at the minute `start` is over. -/
def dayOver (curTime start : Nat) : Bool := minutesPerDay ≤ uint32Sub curTime start

theorem dayOver_self (curTime : Nat) : dayOver curTime curTime = false := by
  simp [dayOver, uint32Sub, minutesPerDay]

namespace Guild

def allowance (guild : Guild) (guid : Nat) (tab : Fin guildBankMaxTabs) : Option Allowance :=
  (guild.getMemberSlot guid).map fun slot =>
    ⟨slot.bankResetTimeTab tab, slot.bankRemSlotsTab tab⟩

/-- A member who is not the guild master, with a rank that has a finite limit for the tab. -/
structure Limited (guild : Guild) (guid : Nat) (tab : Fin guildBankMaxTabs) (limit : Nat) : Prop where
  ranked : ∃ slot, guild.getMemberSlot guid = some slot ∧ slot.rankId ≠ grGuildmaster ∧
    guild.getBankSlotPerDay slot.rankId tab = limit
  finite : limit < withdrawSlotUnlimited

variable {guild : Guild} {guid guid' curTime limit : Nat} {tab tab' : Fin guildBankMaxTabs}

theorem getMemberSlot_modifyMember_self (f : MemberSlot → MemberSlot) :
    (guild.modifyMember guid f).getMemberSlot guid = (guild.getMemberSlot guid).map f :=
  lookupKey_modifyKey_self

theorem getMemberSlot_modifyMember_of_ne (hne : guid ≠ guid') (f : MemberSlot → MemberSlot) :
    (guild.modifyMember guid' f).getMemberSlot guid = guild.getMemberSlot guid :=
  lookupKey_modifyKey_of_ne hne

theorem Limited.congr {guild' : Guild} (h : guild.Limited guid tab limit)
    (hranks : guild'.ranks = guild.ranks) (hslot : guild'.getMemberSlot guid' = guild.getMemberSlot guid) :
    guild'.Limited guid' tab limit := by
  obtain ⟨slot, hmember, hrank, hlimit⟩ := h.ranked
  refine ⟨⟨slot, hslot.trans hmember, hrank, ?_⟩, h.finite⟩
  rw [← hlimit, getBankSlotPerDay, hranks, getBankSlotPerDay]

theorem Limited.modifyMember (h : guild.Limited guid tab limit) {f : MemberSlot → MemberSlot}
    (hf : ∀ slot, (f slot).rankId = slot.rankId) : (guild.modifyMember guid' f).Limited guid tab limit := by
  obtain ⟨slot, hslot, hrank, hlimit⟩ := h.ranked
  refine ⟨?_, h.finite⟩
  by_cases hguid : guid = guid'
  · subst hguid
    refine ⟨f slot, ?_, ?_, ?_⟩
    · rw [getMemberSlot_modifyMember_self, hslot]
      rfl
    · rw [hf]
      exact hrank
    · rw [hf]
      exact hlimit
  · refine ⟨slot, ?_, hrank, hlimit⟩
    rw [getMemberSlot_modifyMember_of_ne hguid]
    exact hslot

theorem allowance_modifyMember_of_ne {f : MemberSlot → MemberSlot}
    (hf : guid = guid' → ∀ slot, (f slot).bankResetTimeTab tab = slot.bankResetTimeTab tab ∧
      (f slot).bankRemSlotsTab tab = slot.bankRemSlotsTab tab) :
    (guild.modifyMember guid' f).allowance guid tab = guild.allowance guid tab := by
  unfold allowance
  by_cases hguid : guid = guid'
  · subst hguid
    rw [getMemberSlot_modifyMember_self, Option.map_map]
    refine congrArg (Option.map · _) (funext fun slot => ?_)
    obtain ⟨hstart, hrem⟩ := hf rfl slot
    simp only [Function.comp, hstart, hrem]
  · rw [getMemberSlot_modifyMember_of_ne hguid]

theorem setTab_of_ne (slot : MemberSlot) (hne : tab ≠ tab') (resetTime rem : Nat) :
    (slot.setTab tab' resetTime rem).bankResetTimeTab tab = slot.bankResetTimeTab tab ∧
      (slot.setTab tab' resetTime rem).bankRemSlotsTab tab = slot.bankRemSlotsTab tab := by
  simp [MemberSlot.setTab, hne]

theorem getMemberSlotWithdrawRem_cases (guild : Guild) (curTime guid tabId : Nat) :
    (guild.getMemberSlotWithdrawRem curTime guid tabId).1 = guild ∨
      ∃ slot, ∃ h : tabId < guildBankMaxTabs, guild.getMemberSlot guid = some slot ∧
        dayOver curTime (slot.bankResetTimeTab ⟨tabId, h⟩) = true ∧
        (guild.getMemberSlotWithdrawRem curTime guid tabId).1 = guild.modifyMember guid
          (·.setTab ⟨tabId, h⟩ curTime (guild.getBankSlotPerDay slot.rankId tabId)) := by
  unfold getMemberSlotWithdrawRem
  cases hslot : guild.getMemberSlot guid with
  | none => exact .inl rfl
  | some slot =>
    dsimp only
    split
    · exact .inl rfl
    split
    · exact .inl rfl
    split
    next h =>
      split
      next hover => exact .inr ⟨slot, h, rfl, by simpa [dayOver] using hover, rfl⟩
      next => exact .inl rfl
    next => exact .inl rfl

/-- A counter that was asked for at `curTime`, or not. -/
def Asked (curTime guid limit : Nat) (tab : Fin guildBankMaxTabs) (guild guild' : Guild) : Prop :=
  guild'.Limited guid tab limit ∧ (guild'.allowance guid tab = guild.allowance guid tab ∨ guild'.allowance guid tab =
        (guild.allowance guid tab).map (Allowance.renew (dayOver curTime) curTime limit))

theorem Asked.refl (h : guild.Limited guid tab limit) : Asked curTime guid limit tab guild guild :=
  ⟨h, .inl rfl⟩

theorem Asked.trans {guild₁ guild₂ guild₃ : Guild} (h : Asked curTime guid limit tab guild₁ guild₂)
    (h' : Asked curTime guid limit tab guild₂ guild₃) : Asked curTime guid limit tab guild₁ guild₃ := by
  refine ⟨h'.1, ?_⟩
  rcases h.2 with hsame | hrenewed <;> rcases h'.2 with hsame' | hrenewed'
  · exact .inl (hsame'.trans hsame)
  · exact .inr (by rw [hrenewed', hsame])
  · exact .inr (hsame'.trans hrenewed)
  · refine .inr ?_
    rw [hrenewed', hrenewed, Option.map_map]
    refine congrArg (Option.map · _) (funext fun a => ?_)
    exact Allowance.renew_renew (dayOver_self curTime)

theorem Limited.asked (h : guild.Limited guid tab limit) (curTime guid' tabId : Nat) :
    Asked curTime guid limit tab guild (guild.getMemberSlotWithdrawRem curTime guid' tabId).1 := by
  rcases guild.getMemberSlotWithdrawRem_cases curTime guid' tabId with hsame |
    ⟨slot, htab, hslot, hover, hchange⟩
  · rw [hsame]
    exact .refl h
  rw [hchange]
  refine ⟨h.modifyMember fun _ => rfl, ?_⟩
  by_cases hself : guid = guid' ∧ tab = ⟨tabId, htab⟩
  · obtain ⟨rfl, rfl⟩ := hself
    obtain ⟨slot', hslot', -, hlimit⟩ := h.ranked
    have hone : slot' = slot := Option.some.inj (hslot'.symm.trans hslot)
    subst hone
    refine .inr ?_
    unfold allowance
    rw [getMemberSlot_modifyMember_self, hslot]
    simp [MemberSlot.setTab, Allowance.renew, hover, hlimit]
  · refine .inl (allowance_modifyMember_of_ne fun hguid slot => ?_)
    exact setTab_of_ne slot (fun htab' => hself ⟨hguid, htab'⟩) _ _

theorem Limited.askAll (h : guild.Limited guid tab limit) (curTime guid' : Nat) (tabs : List Nat) :
    Asked curTime guid limit tab guild (guild.askAll curTime guid' tabs) := by
  induction tabs generalizing guild with
  | nil => exact .refl h
  | cons tabId tabs ih =>
    have hfirst := h.asked curTime guid' tabId
    exact hfirst.trans (ih hfirst.1)

theorem Limited.display (h : guild.Limited guid tab limit) (online : Nat → Bool) (curTime tabId : Nat) :
    Asked curTime guid limit tab guild (guild.displayGuildBankContentUpdate online curTime tabId) := by
  unfold displayGuildBankContentUpdate
  generalize (guild.members.map (·.1)).filter online = shown
  induction shown generalizing guild with
  | nil => exact .refl h
  | cons guid' shown ih =>
    rw [List.foldl_cons]
    split
    · have hfirst := h.asked curTime guid' tabId
      exact hfirst.trans (ih hfirst.1)
    · exact ih h

theorem Limited.asked_self (h : guild.Limited guid tab limit)
    (hallowed : 0 < (guild.getMemberSlotWithdrawRem curTime guid tab).2) : ∃ a, guild.allowance guid tab = some a ∧
      (guild.getMemberSlotWithdrawRem curTime guid tab).1.allowance guid tab =
        some (a.renew (dayOver curTime) curTime limit) ∧
      (guild.getMemberSlotWithdrawRem curTime guid tab).2 = (a.renew (dayOver curTime) curTime limit).rem ∧
      (guild.getMemberSlotWithdrawRem curTime guid tab).1.getMemberSlotWithdrawRem curTime guid tab =
        guild.getMemberSlotWithdrawRem curTime guid tab := by
  obtain ⟨slot, hslot, hrank, hlimit⟩ := h.ranked
  refine ⟨⟨slot.bankResetTimeTab tab, slot.bankRemSlotsTab tab⟩, ?_, ?_⟩
  · rw [allowance, hslot]
    rfl
  by_cases hview : guild.getBankRights slot.rankId tab &&& guildBankRightViewTab ≠
      guildBankRightViewTab
  · simp [getMemberSlotWithdrawRem, hslot, hrank, hview] at hallowed
  by_cases hover : minutesPerDay ≤ uint32Sub curTime (slot.bankResetTimeTab tab)
  · have hask : guild.getMemberSlotWithdrawRem curTime guid tab =
        (guild.modifyMember guid (·.setTab tab curTime limit), limit) := by
      simp [getMemberSlotWithdrawRem, hslot, hrank, hview, hover, hlimit]
    have hafter : (guild.modifyMember guid (·.setTab tab curTime limit)).getMemberSlot guid =
        some (slot.setTab tab curTime limit) := by
      rw [getMemberSlot_modifyMember_self, hslot]
      rfl
    have hnow : ¬ minutesPerDay ≤ uint32Sub curTime curTime := by
      simp [minutesPerDay, uint32Sub]
    rw [hask]
    refine ⟨?_, ?_, ?_⟩
    · rw [allowance, hafter]
      simp [MemberSlot.setTab, Allowance.renew, dayOver, hover]
    · simp [Allowance.renew, dayOver, hover]
    · have hview' : (guild.modifyMember guid (·.setTab tab curTime limit)).getBankRights
          slot.rankId tab = guild.getBankRights slot.rankId tab := rfl
      have hrank' : (slot.setTab tab curTime limit).rankId = slot.rankId := rfl
      have hstart : (slot.setTab tab curTime limit).bankResetTimeTab tab = curTime := by
        simp [MemberSlot.setTab]
      have hrem : (slot.setTab tab curTime limit).bankRemSlotsTab tab = limit := by
        simp [MemberSlot.setTab]
      simp [getMemberSlotWithdrawRem, hafter, hrank', hrank, hview', hview, hstart, hrem, hnow]
  · have hask : guild.getMemberSlotWithdrawRem curTime guid tab = (guild, slot.bankRemSlotsTab tab) := by
      simp [getMemberSlotWithdrawRem, hslot, hrank, hview, hover]
    rw [hask]
    refine ⟨?_, ?_, hask⟩
    · rw [allowance, hslot]
      simp [Allowance.renew, dayOver, hover]
    · simp [Allowance.renew, dayOver, hover]

theorem Limited.paid (h : guild.Limited guid tab limit)
    (hallowed : 0 < (guild.getMemberSlotWithdrawRem curTime guid tab).2)
    (hfinite : (guild.getMemberSlotWithdrawRem curTime guid tab).2 < withdrawSlotUnlimited) :
    let asked := (guild.getMemberSlotWithdrawRem curTime guid tab).1
    (asked.memberItemWithdraw curTime tab guid).1.Limited guid tab limit ∧
      ∃ a, guild.allowance guid tab = some a ∧ 0 < (a.renew (dayOver curTime) curTime limit).rem ∧
        (asked.memberItemWithdraw curTime tab guid).1.allowance guid tab =
          some (a.renew (dayOver curTime) curTime limit).pay := by
  intro asked
  obtain ⟨a, ha, hasked, hrem, hagain⟩ := h.asked_self hallowed
  have hlimited := (h.asked curTime guid tab).1
  obtain ⟨slot, hslot, -, -⟩ := hlimited.ranked
  have hslot' : asked.getMemberSlot guid = some slot := hslot
  have hpay : (asked.memberItemWithdraw curTime tab guid).1 = asked.modifyMember guid fun slot =>
      slot.setTab tab (slot.bankResetTimeTab tab) (uint32Sub (slot.bankRemSlotsTab tab) 1) := by
    have hne : (guild.getMemberSlotWithdrawRem curTime guid tab).2 ≠ 0 := by omega
    simp only [memberItemWithdraw, asked, hagain, hne, if_false, hfinite, if_true, hslot, tab.isLt, dif_pos]
  rw [hpay]
  refine ⟨hlimited.modifyMember fun _ => rfl, a, ha, hrem ▸ hallowed, ?_⟩
  have hslotA : (⟨slot.bankResetTimeTab tab, slot.bankRemSlotsTab tab⟩ : Allowance) =
      a.renew (dayOver curTime) curTime limit := by
    have hsome : asked.allowance guid tab = some ⟨slot.bankResetTimeTab tab, slot.bankRemSlotsTab tab⟩ := by
      rw [allowance, hslot']
      rfl
    exact Option.some.inj (hsome.symm.trans hasked)
  have hleft : 1 ≤ slot.bankRemSlotsTab tab := by
    have hpos := hallowed
    rw [hrem, ← hslotA] at hpos
    exact hpos
  rw [allowance, getMemberSlot_modifyMember_self, hslot', ← hslotA]
  simp [MemberSlot.setTab, Allowance.pay, uint32Sub, hleft]

theorem Limited.paid_other {tabId : Nat} (h : guild.Limited guid tab limit) (hne : tabId ≠ tab) :
    Asked curTime guid limit tab guild (guild.memberItemWithdraw curTime tabId guid).1 := by
  have hasked := h.asked curTime guid tabId
  unfold memberItemWithdraw
  generalize guild.getMemberSlotWithdrawRem curTime guid tabId = answer at hasked ⊢
  dsimp only
  split
  · exact hasked
  split
  · split
    · exact hasked
    · split
      next htab =>
        have hother : tab ≠ ⟨tabId, htab⟩ := fun heq => hne (congrArg Fin.val heq).symm
        refine ⟨hasked.1.modifyMember fun _ => rfl, ?_⟩
        have hsame := @allowance_modifyMember_of_ne answer.1 guid guid tab
          (fun slot => slot.setTab ⟨tabId, htab⟩ (slot.bankResetTimeTab ⟨tabId, htab⟩)
            (uint32Sub (slot.bankRemSlotsTab ⟨tabId, htab⟩) 1))
          (fun _ slot => setTab_of_ne slot hother _ _)
        rw [hsame]
        exact hasked.2
      next => exact hasked
  · exact hasked

end Guild

end Mangos
