import Mangos.Framework.Assoc
import Mathlib.Data.BitVec
import Mathlib.Data.List.Nodup

/-!
# Guilds

A guild numbers its ranks by their place in a list, and each member keeps the number of its rank.
-/

namespace Mangos

open Framework

def grGuildmaster : Nat := 0
def grOfficer : Nat := 1

def guildRanksMinCount : Nat := 2
def guildRanksMaxCount : Nat := 10
def guildBankMaxTabs : Nat := 8

def withdrawMoneyUnlimited : Nat := 0xFFFFFFFFFFFFFFFF
def withdrawSlotUnlimited : Nat := 0xFFFFFFFF

/-- `GuildRankRights`. -/
inductive GuildRankRight
  | empty | gchatListen | gchatSpeak | offchatListen | offchatSpeak | promote | demote | invite
  | remove | setMotd | epNote | viewOffNote | eOffNote | modifyGuildInfo | withdrawGoldLock
  | withdrawRepair | withdrawGold | createGuildEvent | requiresAuthenticator | modifyBankTabs
  | removeGuildEvent | all
  deriving DecidableEq, Repr

def GuildRankRight.word : GuildRankRight → BitVec 32
  | empty => 0x00000040
  | gchatListen => 0x00000041
  | gchatSpeak => 0x00000042
  | offchatListen => 0x00000044
  | offchatSpeak => 0x00000048
  | promote => 0x000000C0
  | demote => 0x00000140
  | invite => 0x00000050
  | remove => 0x00000060
  | setMotd => 0x00001040
  | epNote => 0x00002040
  | viewOffNote => 0x00004040
  | eOffNote => 0x00008040
  | modifyGuildInfo => 0x00010040
  | withdrawGoldLock => 0x00020000
  | withdrawRepair => 0x00040000
  | withdrawGold => 0x00080000
  | createGuildEvent => 0x00100000
  | requiresAuthenticator => 0x00200000
  | modifyBankTabs => 0x00400000
  | removeGuildEvent => 0x00800000
  | all => 0x00DDF1FF

structure RankInfo where
  name : String
  rights : BitVec 32
  bankMoneyPerDay : Nat
  tabRight : Fin guildBankMaxTabs → BitVec 32
  tabSlotPerDay : Fin guildBankMaxTabs → Nat

def RankInfo.new (name : String) (rights : BitVec 32) (money : Nat) : RankInfo where
  name := name
  rights := rights
  bankMoneyPerDay := money
  tabRight _ := 0
  tabSlotPerDay _ := 0

/-- The part of `MemberSlot` that concerns ranks and the bank. -/
structure Guild.MemberSlot where
  guid : Nat
  rankId : Nat
  bankResetTimeMoney : Nat
  bankRemMoney : Nat
  bankResetTimeTab : Fin guildBankMaxTabs → Nat
  bankRemSlotsTab : Fin guildBankMaxTabs → Nat

/-- A new member, whose limits are set at the first query. -/
def Guild.MemberSlot.new (guid rankId : Nat) : Guild.MemberSlot where
  guid := guid
  rankId := rankId
  bankResetTimeMoney := 0
  bankRemMoney := 0
  bankResetTimeTab _ := 0
  bankRemSlotsTab _ := 0

/-- `Guild`, with the members in the order of the hash map. -/
structure Guild where
  id : Nat
  level : Nat
  leaderGuid : Nat
  ranks : List RankInfo
  members : List (Nat × Guild.MemberSlot)

namespace Guild

variable (guild : Guild)

def getLowestRank : Nat := guild.ranks.length - 1

def getRankRights (rankId : Nat) : BitVec 32 :=
  match guild.ranks[rankId]? with
  | none => 0
  | some rank => rank.rights

def hasRankRight (rankId : Nat) (right : BitVec 32) : Bool :=
  guild.getRankRights rankId &&& right ≠ GuildRankRight.empty.word

def hasMembersWithRank (rankId : Nat) : Bool := guild.members.any fun p => p.2.rankId = rankId

def getMemberSlot (guid : Nat) : Option MemberSlot := lookupKey guid guild.members

/-- The part of `Guild::SetRankRights`, after `HandleGuildRankOpcode` kept the rights of the leader. -/
def setRankRights (rankId : Nat) (rights : BitVec 32) : Guild :=
  let rights := if rankId = grGuildmaster then GuildRankRight.all.word else rights
  { guild with ranks := guild.ranks.modify rankId fun rank => { rank with rights } }

def changeRank (guid newRank : Nat) : Guild :=
  { guild with
    members := modifyKey guid (fun slot => { slot with rankId := newRank }) guild.members }

def setLeader (guid : Nat) : Guild :=
  if (guild.getMemberSlot guid).isNone then guild
  else { guild with leaderGuid := guid }.changeRank guid grGuildmaster

def addRank (name : String) (rights : BitVec 32) (money : Nat) : Guild :=
  { guild with ranks := guild.ranks ++ [.new name rights money] }

def createRank (name : String) (rights : BitVec 32) : Guild :=
  if guildRanksMaxCount ≤ guild.ranks.length then guild else guild.addRank name rights 0

def delRank (rankId : Nat) : Guild :=
  if guild.ranks.length ≤ rankId then guild
  else if guild.ranks.length ≤ guildRanksMinCount || rankId < guildRanksMinCount then guild
  else { guild with ranks := guild.ranks.eraseIdx rankId }

/-- The ranks at `i` and `j` change places. -/
def swapRanks (i j : Nat) (ranks : List RankInfo) : List RankInfo :=
  match ranks[i]?, ranks[j]? with
  | some ri, some rj => (ranks.set i rj).set j ri
  | _, _ => ranks

def switchRank (rankId : Nat) (up : Bool) : Guild :=
  if guild.ranks.length ≤ rankId then guild
  else if (rankId = grGuildmaster && up) || (rankId = guild.getLowestRank && !up) then guild
  else
    let otherRankId := if up then rankId - 1 else rankId + 1
    { guild with
      ranks := swapRanks rankId otherRankId guild.ranks
      members := guild.members.map fun p => (p.1,
        if p.2.rankId = rankId then { p.2 with rankId := otherRankId }
        else if p.2.rankId = otherRankId then { p.2 with rankId := rankId }
        else p.2) }

def setBankMoneyPerDay (rankId money : Nat) : Guild :=
  if guild.ranks.length ≤ rankId then guild
  else
    let money := if rankId = grGuildmaster then withdrawMoneyUnlimited else money
    { guild with
      ranks := guild.ranks.modify rankId fun rank => { rank with bankMoneyPerDay := money }
      members := guild.members.map fun p => (p.1,
        if p.2.rankId = rankId then { p.2 with bankResetTimeMoney := 0 } else p.2) }

/-- `Guild::CreateDefaultGuildRanks`, with the names of the five ranks. -/
def createDefaultGuildRanks (names : Fin 5 → String) : Guild :=
  let chat := GuildRankRight.gchatListen.word ||| GuildRankRight.gchatSpeak.word
  ((((((guild.createRank (names 0) GuildRankRight.all.word).createRank (names 1)
    GuildRankRight.all.word).createRank (names 2) chat).createRank (names 3) chat).createRank
    (names 4) chat).setBankMoneyPerDay grGuildmaster withdrawMoneyUnlimited)

/-- What `Guild::AddMember` does once it has made sure that the player has no guild: the slot under the
guid is written, and the hash map keeps the slots in whatever order. -/
def insertMember (order : Shuffle (Nat × MemberSlot)) (guid rankId : Nat) : Guild :=
  { guild with
    members := order.apply <|
      if (guild.getMemberSlot guid).isSome then
        modifyKey guid (fun _ => .new guid rankId) guild.members
      else (guid, .new guid rankId) :: guild.members }

/-- The member of the best rank other than `guid`, the first one if there are several. -/
def bestOther (guid : Nat) : List (Nat × MemberSlot) → Option (Nat × MemberSlot) :=
  List.foldl (fun best p =>
    if p.1 = guid then best
    else match best with
      | none => some p
      | some b => if p.2.rankId < b.2.rankId then some p else best) none

/-- `Guild::DelMember`, with the answer whether the guild is to be disbanded. -/
def delMember (guid : Nat) (isDisbanding : Bool) : Guild × Bool :=
  let erased (guild : Guild) : Guild × Bool :=
    let members := eraseKey guid guild.members
    ({ guild with members }, members.isEmpty)
  if guild.leaderGuid = guid && !isDisbanding then
    match bestOther guid guild.members with
    | none => (guild, true)
    | some best => erased (guild.setLeader best.1)
  else erased guild

/-- `Guild::Create`, which makes the leader the first member. -/
def create (id leader : Nat) (names : Fin 5 → String) (order : Shuffle (Nat × MemberSlot)) : Guild :=
  ({ id, level := 1, leaderGuid := leader, ranks := [], members := [] : Guild }.createDefaultGuildRanks
    names).insertMember order leader grGuildmaster

/-! ## Handlers

The invoker is the player who sends the packet, with the rank that is recorded for him as a player. -/

variable (invoker invokerRank : Nat)

/-- `HandleGuildPromoteOpcode`. -/
def promote (target : Nat) : Guild :=
  if !guild.hasRankRight invokerRank GuildRankRight.promote.word then guild
  else match guild.getMemberSlot target with
    | none => guild
    | some slot =>
      if slot.guid = invoker then guild
      else if slot.rankId ≤ invokerRank + 1 then guild
      else guild.changeRank target (slot.rankId - 1)

/-- `HandleGuildDemoteOpcode`. -/
def demote (target : Nat) : Guild :=
  if !guild.hasRankRight invokerRank GuildRankRight.demote.word then guild
  else match guild.getMemberSlot target with
    | none => guild
    | some slot =>
      if slot.guid = invoker then guild
      else if slot.rankId ≤ invokerRank then guild
      else if guild.getLowestRank ≤ slot.rankId then guild
      else guild.changeRank target (slot.rankId + 1)

/-- `HandleGuildSetRankOpcode`. -/
def setRank (target newRankId : Nat) : Guild :=
  match guild.getMemberSlot target with
  | none => guild
  | some slot =>
    if slot.guid = invoker then guild
    else if slot.rankId = newRankId || guild.ranks.length ≤ newRankId then guild
    else if newRankId < slot.rankId then
      if !guild.hasRankRight invokerRank GuildRankRight.promote.word then guild
      else if slot.rankId ≤ invokerRank + 1 || newRankId ≤ invokerRank then guild
      else guild.changeRank target newRankId
    else if !guild.hasRankRight invokerRank GuildRankRight.demote.word then guild
    else if slot.rankId ≤ invokerRank then guild
    else guild.changeRank target newRankId

/-- `HandleGuildLeaderOpcode`. -/
def changeLeader (target : Nat) : Guild :=
  if invoker ≠ guild.leaderGuid then guild
  else match guild.getMemberSlot invoker, guild.getMemberSlot target with
    | some _, some slot =>
      if slot.guid = invoker then guild
      else (guild.setLeader slot.guid).changeRank invoker grOfficer
    | _, _ => guild

/-- `HandleGuildAddRankOpcode`. -/
def handleAddRank (name : String) : Guild :=
  if invoker ≠ guild.leaderGuid then guild
  else if guildRanksMaxCount ≤ guild.ranks.length then guild
  else guild.createRank name (GuildRankRight.gchatListen.word ||| GuildRankRight.gchatSpeak.word)

/-- `HandleGuildDelRankOpcode`. -/
def handleDelRank (rankId : Nat) : Guild :=
  if invoker ≠ guild.leaderGuid then guild
  else if guild.hasMembersWithRank rankId then guild
  else guild.delRank rankId

/-- `HandleGuildSwitchRankOpcode`. -/
def handleSwitchRank (rankId : Nat) (up : Bool) : Guild :=
  if invoker ≠ guild.leaderGuid then guild else guild.switchRank rankId up

end Guild

end Mangos
