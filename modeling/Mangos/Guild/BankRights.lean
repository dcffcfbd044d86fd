import Mangos.Guild.BankMoney
import Mangos.Item.CanStore

/-!
# Who may take items out of a guild bank

A rank may see a tab, put items into it, and take a number of times a day items out of it.
-/

namespace Mangos

open Framework

def guildBankRightViewTab : BitVec 32 := 0x01
def guildBankRightPutItem : BitVec 32 := 0x02
def guildBankRightDepositItem : BitVec 32 := guildBankRightViewTab ||| guildBankRightPutItem

namespace Guild

def MemberSlot.setTab (slot : MemberSlot) (tab : Fin guildBankMaxTabs) (resetTime rem : Nat) :
    MemberSlot :=
  { slot with
    bankResetTimeTab := Function.update slot.bankResetTimeTab tab resetTime
    bankRemSlotsTab := Function.update slot.bankRemSlotsTab tab rem }

variable (guild : Guild)

def modifyMember (guid : Nat) (f : MemberSlot → MemberSlot) : Guild :=
  { guild with members := modifyKey guid f guild.members }

def getBankRights (rankId tabId : Nat) : BitVec 32 :=
  match guild.ranks[rankId]? with
  | none => 0
  | some rank => if h : tabId < guildBankMaxTabs then rank.tabRight ⟨tabId, h⟩ else 0

def getBankSlotPerDay (rankId tabId : Nat) : Nat :=
  match guild.ranks[rankId]? with
  | none => 0
  | some rank =>
    if h : tabId < guildBankMaxTabs then
      if rankId = grGuildmaster then withdrawSlotUnlimited else rank.tabSlotPerDay ⟨tabId, h⟩
    else 0

def isMemberHaveRights (guid tabId : Nat) (rights : BitVec 32) : Bool :=
  match guild.getMemberSlot guid with
  | none => false
  | some slot =>
    slot.rankId = grGuildmaster || guild.getBankRights slot.rankId tabId &&& rights = rights

/-- `Guild::GetMemberSlotWithdrawRem` at the minute `curTime`. -/
def getMemberSlotWithdrawRem (curTime guid tabId : Nat) : Guild × Nat :=
  match guild.getMemberSlot guid with
  | none => (guild, 0)
  | some slot =>
    if slot.rankId = grGuildmaster then (guild, withdrawSlotUnlimited)
    else if guild.getBankRights slot.rankId tabId &&& guildBankRightViewTab ≠
        guildBankRightViewTab then (guild, 0)
    else if h : tabId < guildBankMaxTabs then
      let tab : Fin guildBankMaxTabs := ⟨tabId, h⟩
      if minutesPerDay ≤ uint32Sub curTime (slot.bankResetTimeTab tab) then
        let rem := guild.getBankSlotPerDay slot.rankId tabId
        (guild.modifyMember guid (·.setTab tab curTime rem), rem)
      else (guild, slot.bankRemSlotsTab tab)
    else (guild, 0) -- a tab that does not exist has no rights

def memberItemWithdraw (curTime tabId guid : Nat) : Guild × Bool :=
  let (guild, right) := guild.getMemberSlotWithdrawRem curTime guid tabId
  if right = 0 then (guild, false)
  else if right < withdrawSlotUnlimited then
    match guild.getMemberSlot guid with
    | none => (guild, false)
    | some _ =>
      if h : tabId < guildBankMaxTabs then
        let tab : Fin guildBankMaxTabs := ⟨tabId, h⟩
        (guild.modifyMember guid fun slot =>
          slot.setTab tab (slot.bankResetTimeTab tab) (uint32Sub (slot.bankRemSlotsTab tab) 1), true)
      else (guild, false)
  else (guild, true)

/-- The queries of `Guild::DisplayGuildBankContentUpdate`, one for each member who is online and may
see the tab. -/
def displayGuildBankContentUpdate (online : Nat → Bool) (curTime tabId : Nat) : Guild :=
  ((guild.members.map (·.1)).filter online).foldl (fun guild guid =>
    if guild.isMemberHaveRights guid tabId guildBankRightViewTab then
      (guild.getMemberSlotWithdrawRem curTime guid tabId).1
    else guild) guild

end Guild

end Mangos
