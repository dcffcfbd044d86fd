import Mangos.Guild.Guild
import Mangos.Item.Player

/-!
# The money of a guild bank

Members may withdraw money up to what their rank has left for the day; the guild master may withdraw
all of it.
-/

namespace Mangos

open Framework

def minutesPerDay : Nat := 24 * 60

namespace Guild

variable (guild : Guild)

def getBankMoneyPerDay (rankId : Nat) : Nat :=
  match guild.ranks[rankId]? with
  | none => 0
  | some rank => if rankId = grGuildmaster then withdrawMoneyUnlimited else rank.bankMoneyPerDay

/-- `Guild::GetMemberMoneyWithdrawRem` at the minute `curTime`. What is left of the day is a 32-bit
number, and a new day begins with the limit of the rank. -/
def getMemberMoneyWithdrawRem (curTime guid : Nat) : Guild × Nat :=
  match guild.getMemberSlot guid with
  | none => (guild, 0)
  | some slot =>
    if slot.rankId = grGuildmaster then (guild, withdrawMoneyUnlimited)
    else if (slot.bankResetTimeMoney + minutesPerDay) % 2 ^ 32 < curTime then
      let rem := guild.getBankMoneyPerDay slot.rankId % 2 ^ 32
      ({ guild with
          members := modifyKey guid (fun slot =>
            { slot with bankResetTimeMoney := curTime, bankRemMoney := rem }) guild.members }, rem)
    else (guild, slot.bankRemMoney)

end Guild

structure GuildBank where
  guild : Guild
  money : Nat
  purchasedTabs : Nat
  loaded : Bool

namespace GuildBank

variable (bank : GuildBank)

/-- `Guild::SetBankMoney`, which takes a signed amount. -/
def setBankMoney (money : Int) : GuildBank := { bank with money := (int64 money).toNat }

def memberMoneyWithdraw (curTime amount guid : Nat) : GuildBank × Bool :=
  let (guild, right) := bank.guild.getMemberMoneyWithdrawRem curTime guid
  let bank := { bank with guild }
  if right < amount || bank.money < amount then (bank, false)
  else
    let bank := bank.setBankMoney (bank.money - amount)
    if right < withdrawMoneyUnlimited then
      match bank.guild.getMemberSlot guid with
      | none => (bank, false)
      | some _ =>
        ({ bank with
            guild := { bank.guild with
              members := modifyKey guid (fun slot =>
                { slot with bankRemMoney := slot.bankRemMoney - amount }) bank.guild.members } }, true)
    else (bank, true)

end GuildBank

/-- A player at the bank of his guild. -/
structure BankVisit where
  player : Player
  rank : Nat
  bank : Option GuildBank

namespace BankVisit

variable (s : BankVisit)

def handleGuildBankWithdrawMoney (canInteract : Bool) (curTime money : Nat) : BankVisit × Bool :=
  if money = 0 then (s, false)
  else if !canInteract then (s, false)
  else match s.bank with
    | none => (s, false)
    | some bank =>
      if !bank.loaded || bank.purchasedTabs = 0 then (s, false)
      else if bank.money < money then (s, false)
      else if !bank.guild.hasRankRight s.rank GuildRankRight.withdrawGold.word then (s, false)
      else
        let (bank, withdrawn) := bank.memberMoneyWithdraw curTime money s.player.guid
        if !withdrawn then ({ s with bank := some bank }, false)
        else
          ({ s with
              bank := some bank
              player := s.player.setMoney (modifyMoney s.player.money (int64 money)) }, true)

def total : Nat := s.player.money + s.bank.elim 0 (·.money)

end BankVisit

private theorem GuildBank.money_withGuild (bank : GuildBank) (guild : Guild) :
    ({ bank with guild } : GuildBank).money = bank.money := rfl

private theorem BankVisit.total_some (player : Player) (rank : Nat) (bank : GuildBank) :
    BankVisit.total ⟨player, rank, some bank⟩ = player.money + bank.money := rfl

theorem GuildBank.setBankMoney_money (bank : GuildBank) {money : Nat}
    (hmax : money ≤ 2 * maxMoneyAmount) : (bank.setBankMoney money).money = money := by
  have hfits : (money : Int) < 2 ^ 63 := by
    unfold maxMoneyAmount at hmax
    omega
  have hsame : (int64 (money : Int)).toNat = money := by
    rw [int64_eq (by omega) hfits, Int.toNat_natCast]
  rw [setBankMoney, hsame]

theorem GuildBank.memberMoneyWithdraw_money {bank : GuildBank} {curTime amount guid : Nat}
    (hmax : bank.money ≤ maxMoneyAmount) (h : (bank.memberMoneyWithdraw curTime amount guid).2 = true) :
    amount ≤ bank.money ∧ (bank.memberMoneyWithdraw curTime amount guid).1.money = bank.money - amount := by
  unfold memberMoneyWithdraw at h ⊢
  generalize bank.guild.getMemberMoneyWithdrawRem curTime guid = answer at h ⊢
  dsimp only at h ⊢
  split at h
  · cases h
  next hright =>
    have henough : amount ≤ bank.money := by
      simp only [Bool.or_eq_true, decide_eq_true_eq, not_or, not_lt] at hright
      exact hright.2
    have hrest : ((bank.money : Int) - amount) = ((bank.money - amount : Nat) : Int) := by omega
    have hmoney := @setBankMoney_money { bank with guild := answer.1 } (bank.money - amount)
      (by omega)
    refine ⟨henough, ?_⟩
    rw [if_neg hright, hrest]
    split at h
    next hlimited =>
      rw [if_pos hlimited]
      rw [hrest] at h
      cases hslot : ({ bank with guild := answer.1 } : GuildBank).setBankMoney
          ((bank.money - amount : Nat) : Int) |>.guild.getMemberSlot guid with
      | none =>
        rw [hslot] at h
        cases h
      | some slot => exact (money_withGuild _ _).trans hmoney
    next hlimited =>
      rw [if_neg hlimited]
      exact hmoney

namespace BankVisit

variable {s : BankVisit} {bank : GuildBank} {canInteract : Bool} {curTime money : Nat}

theorem handleGuildBankWithdrawMoney_eq (hbank : s.bank = some bank) (hmax : bank.money ≤ maxMoneyAmount)
    (h : (s.handleGuildBankWithdrawMoney canInteract curTime money).2 = true) :
    money ≤ bank.money ∧ (s.handleGuildBankWithdrawMoney canInteract curTime money).1.total =
      min (s.player.money + money) maxMoneyAmount + (bank.money - money) := by
  unfold handleGuildBankWithdrawMoney at h ⊢
  split at h
  · cases h
  next hzero =>
  rw [if_neg hzero]
  split at h
  · cases h
  next hinteract =>
  rw [if_neg hinteract]
  rw [hbank] at h ⊢
  dsimp only at h ⊢
  split at h
  · cases h
  next hloaded =>
  rw [if_neg hloaded]
  split at h
  · cases h
  next henough =>
  rw [if_neg henough]
  split at h
  · cases h
  next hrights =>
  rw [if_neg hrights]
  split at h
  · cases h
  next hwithdrawn =>
  rw [if_neg hwithdrawn]
  obtain ⟨hle, hleft⟩ := GuildBank.memberMoneyWithdraw_money hmax (by simpa using hwithdrawn)
  have hgot : modifyMoney s.player.money (int64 (money : Int)) =
      min (s.player.money + money) maxMoneyAmount := by
    rw [int64_eq (by omega) (by unfold maxMoneyAmount at hmax; omega)]
    exact modifyMoney_add (by omega)
  refine ⟨hle, ?_⟩
  rw [total_some, Player.setMoney_money, hgot, hleft]

end BankVisit

end Mangos
