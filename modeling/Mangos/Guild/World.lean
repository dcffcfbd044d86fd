import Mangos.Framework.Run
import Mangos.Guild.Guild
import Mathlib.Logic.Function.Basic

/-!
# Guilds and the players in them

A guild lists its members, a player carries the number of the guild, and a row of the database tells the
number when the player logs in.
-/

namespace Mangos

open Framework Function

/-- The guild fields of a player who is online. Between two maps a player is not in the world. -/
structure GuildPlayer where
  inWorld : Bool
  guildId : Nat
  rank : Nat
  guildIdInvited : Nat
  guildInviterGuid : Nat

/-- A row of `guild_member`, where each player has one at most. -/
structure GuildMemberRow where
  guildId : Nat
  rank : Nat

/-- What the handlers ask of the configuration, of the ignore lists and of the stored characters. -/
structure GuildSettings where
  undeletableLevel : Nat
  allowTwoSideInteraction : Bool
  team : Nat → Nat
  hasIgnore : Nat → Nat → Bool
  characterIsSane : Nat → Bool

structure GuildWorld where
  guilds : Nat → Option Guild
  players : Nat → Option GuildPlayer
  rows : Nat → Option GuildMemberRow
  nextGuildId : Nat

namespace GuildWorld

variable (settings : GuildSettings) (w : GuildWorld)

/-- No guild has been founded, and nobody is online. -/
def start : GuildWorld where
  guilds _ := none
  players _ := none
  rows _ := none
  nextGuildId := 1

def setGuild (id : Nat) (guild : Option Guild) : GuildWorld :=
  { w with guilds := update w.guilds id guild }

def setPlayer (guid : Nat) (player : Option GuildPlayer) : GuildWorld :=
  { w with players := update w.players guid player }

def setRow (guid : Nat) (row : Option GuildMemberRow) : GuildWorld :=
  { w with rows := update w.rows guid row }

/-- `sObjectMgr.GetPlayer`, which does not find a player between two maps. -/
def findPlayer (guid : Nat) : Option GuildPlayer := (w.players guid).filter (·.inWorld)

def getGuildIdFromDB (guid : Nat) : Nat :=
  match w.rows guid with
  | none => 0
  | some row => row.guildId

def withPlayer (guid : Nat) (f : GuildPlayer → GuildPlayer) : GuildWorld :=
  match w.findPlayer guid with
  | none => w
  | some player => w.setPlayer guid (some (f player))

/-- What `MemberSlot::ChangeRank` does apart from the slot. -/
def changeRank (guid newRank : Nat) : GuildWorld :=
  let w := w.setRow guid ((w.rows guid).map fun row => { row with rank := newRank })
  w.withPlayer guid fun player => { player with rank := newRank }

/-- The checks of `Guild::AddMember`. -/
def mayJoin (guid : Nat) : Bool :=
  match w.findPlayer guid with
  | some player => player.guildId = 0
  | none => w.getGuildIdFromDB guid = 0 && settings.characterIsSane guid

def insertRow (guid : Nat) (row : GuildMemberRow) : GuildWorld :=
  if (w.rows guid).isSome then w else w.setRow guid (some row)

def addMember (order : Shuffle (Nat × Guild.MemberSlot)) (guild : Guild) (guid rankId : Nat) :
    GuildWorld × Bool :=
  if !w.mayJoin settings guid then (w, false)
  else
    let w := w.setGuild guild.id (some (guild.insertMember order guid rankId))
    let w := w.insertRow guid { guildId := guild.id, rank := rankId }
    (w.withPlayer guid fun player =>
      { player with
        guildId := guild.id
        rank := rankId
        guildIdInvited := 0
        guildInviterGuid := 0 }, true)

/-- `Guild::DelMember`, with the answer whether the guild is to be disbanded. -/
def delMember (guild : Guild) (guid : Nat) (isDisbanding : Bool) : GuildWorld × Bool :=
  let erased (w : GuildWorld) : GuildWorld × Bool :=
    let (left, isEmpty) := guild.delMember guid isDisbanding
    let w := (w.setGuild guild.id (some left)).setRow guid none
    (w.withPlayer guid fun player => { player with guildId := 0, rank := 0 }, isEmpty)
  if guild.leaderGuid = guid && !isDisbanding then
    match Guild.bestOther guid guild.members with
    | none => (w, true)
    | some best => erased (w.changeRank best.1 grGuildmaster)
  else erased w

/-- One turn of the loop of `Guild::Disband`. -/
def disbandMember (id : Nat) (w : GuildWorld) (guid : Nat) : GuildWorld :=
  match w.guilds id with
  | none => w
  | some guild => (w.delMember guild guid true).1

def disband (guild : Guild) : GuildWorld :=
  ((guild.members.map (·.1)).foldl (disbandMember guild.id) w).setGuild guild.id none

/-- `Guild::Create`, with the number of the new guild. -/
def create (names : Fin 5 → String) (order : Shuffle (Nat × Guild.MemberSlot)) (leader : Nat) :
    GuildWorld × Bool :=
  let id := w.nextGuildId
  let guild : Guild := { id, level := 1, leaderGuid := leader, ranks := [], members := [] }
  let w := { w with
    nextGuildId := id + 1
    rows := fun guid => (w.rows guid).filter fun row => row.guildId ≠ id }
  w.addMember settings order (guild.createDefaultGuildRanks names) leader grGuildmaster

/-! ## Handlers

The player who sends the packet is in the world. -/

def addSigner (order : Shuffle (Nat × Guild.MemberSlot)) (id : Nat) (w : GuildWorld)
    (signer : Nat) : GuildWorld :=
  if signer = 0 then w
  else match w.guilds id with
    | none => w
    | some guild => (w.addMember settings order guild signer guild.getLowestRank).1

/-- `HandleTurnInPetitionOpcode` of the owner of a charter with enough signatures. -/
def turnInPetition (names : Fin 5 → String) (order : Shuffle (Nat × Guild.MemberSlot))
    (owner : Nat) (signers : List Nat) : GuildWorld :=
  match w.findPlayer owner with
  | none => w
  | some player =>
    if player.guildId ≠ 0 then w
    else match w.create settings names order owner with
      | (w, false) => w
      | (w', true) => signers.foldl (addSigner settings order w.nextGuildId) w'

/-- `HandleGuildInviteOpcode`. -/
def invite (invoker target : Nat) : GuildWorld :=
  match w.findPlayer invoker, w.findPlayer target with
  | some player, some invited =>
    match w.guilds player.guildId with
    | none => w
    | some guild =>
      if settings.hasIgnore target invoker then w
      else if !settings.allowTwoSideInteraction && settings.team target ≠ settings.team invoker then w
      else if invited.guildId ≠ 0 then w
      else if invited.guildIdInvited ≠ 0 then w
      else if !guild.hasRankRight player.rank GuildRankRight.invite.word then w
      else w.withPlayer target fun invited =>
        { invited with guildIdInvited := player.guildId, guildInviterGuid := invoker }
  | _, _ => w

/-- `HandleGuildAcceptOpcode`. -/
def accept (order : Shuffle (Nat × Guild.MemberSlot)) (invoker : Nat) : GuildWorld :=
  match w.findPlayer invoker with
  | none => w
  | some player =>
    match w.guilds player.guildIdInvited with
    | none => w
    | some guild =>
      if player.guildId ≠ 0 then w
      else if !settings.allowTwoSideInteraction &&
        settings.team invoker ≠ settings.team guild.leaderGuid then w
      else (w.addMember settings order guild invoker guild.getLowestRank).1

/-- `HandleGuildDeclineOpcode`. -/
def decline (invoker : Nat) : GuildWorld :=
  w.withPlayer invoker fun player =>
    { player with guildIdInvited := 0, guildInviterGuid := 0, guildId := 0 }

def isUndeletable (guild : Guild) : Bool :=
  guild.members.length = 1 && settings.undeletableLevel ≤ guild.level

/-- A member is deleted, and the guild with the last one. -/
def removeMember (guild : Guild) (guid : Nat) : GuildWorld :=
  match w.delMember guild guid false with
  | (w, false) => w
  | (w, true) => (w.guilds guild.id).elim w w.disband

/-- The guild and the member that `HandleGuildRemoveOpcode` removes, if its checks pass. -/
def toRemove (invoker target : Nat) : Option (Guild × Guild.MemberSlot) :=
  match w.findPlayer invoker with
  | none => none
  | some player =>
    match w.guilds player.guildId with
    | none => none
    | some guild =>
      if !guild.hasRankRight player.rank GuildRankRight.remove.word then none
      else match guild.getMemberSlot target with
        | none => none
        | some slot =>
          if slot.rankId = grGuildmaster then none
          else if slot.rankId ≤ player.rank then none
          else if isUndeletable settings guild then none
          else some (guild, slot)

/-- `HandleGuildRemoveOpcode`. -/
def remove (invoker target : Nat) : GuildWorld :=
  match w.toRemove settings invoker target with
  | none => w
  | some (guild, slot) => w.removeMember guild slot.guid

/-- `HandleGuildLeaveOpcode`. -/
def leave (invoker : Nat) : GuildWorld :=
  match w.findPlayer invoker with
  | none => w
  | some player =>
    match w.guilds player.guildId with
    | none => w
    | some guild =>
      if invoker = guild.leaderGuid && 1 < guild.members.length then w
      else if isUndeletable settings guild then w
      else if invoker = guild.leaderGuid then w.disband guild
      else w.removeMember guild invoker

/-- The guild that `HandleGuildDisbandOpcode` disbands, if its checks pass. -/
def toDisband (invoker : Nat) : Option Guild :=
  match w.findPlayer invoker with
  | none => none
  | some player =>
    match w.guilds player.guildId with
    | none => none
    | some guild =>
      if invoker ≠ guild.leaderGuid then none
      else if isUndeletable settings guild then none
      else some guild

/-- `HandleGuildDisbandOpcode`. -/
def handleDisband (invoker : Nat) : GuildWorld := (w.toDisband settings invoker).elim w w.disband

/-- The guild part of `HandlePlayerLogin`. -/
def login (guid : Nat) : GuildWorld :=
  if (w.players guid).isSome then w
  else
    let absent : GuildPlayer :=
      { inWorld := true, guildId := 0, rank := 0, guildIdInvited := 0, guildInviterGuid := 0 }
    let player := match w.rows guid with
      | none => absent
      | some row =>
        if (w.guilds row.guildId).isSome then
          { absent with guildId := row.guildId, rank := row.rank }
        else { absent with rank := row.rank }
    w.setPlayer guid (some player)

def logout (guid : Nat) : GuildWorld := w.setPlayer guid none

def setInWorld (guid : Nat) (inWorld : Bool) : GuildWorld :=
  w.setPlayer guid ((w.players guid).map fun player => { player with inWorld })

def modifyGuild (id : Nat) (f : Guild → Guild) : GuildWorld :=
  w.setGuild id ((w.guilds id).map f)

/-- `MemberSlot::ChangeRank` of a member, as the handlers for ranks call it. -/
def changeMemberRank (id target newRank : Nat) : GuildWorld :=
  match w.guilds id with
  | none => w
  | some guild =>
    if (guild.getMemberSlot target).isNone then w
    else (w.modifyGuild id fun guild => guild.changeRank target newRank).changeRank target newRank

def setLeader (id target : Nat) : GuildWorld :=
  match w.guilds id with
  | none => w
  | some guild =>
    if (guild.getMemberSlot target).isNone then w
    else (w.modifyGuild id fun guild => guild.setLeader target).changeRank target grGuildmaster

end GuildWorld

/-- What happens to guilds and players. What else changes a guild, its level and its ranks, is taken
together. -/
inductive MembershipEvent
  | login (guid : Nat)
  | logout (guid : Nat)
  | farTeleport (guid : Nat)
  | worldportAck (guid : Nat)
  | turnInPetition (names : Fin 5 → String) (order : Shuffle (Nat × Guild.MemberSlot)) (owner : Nat)
      (signers : List Nat)
  | invite (invoker target : Nat)
  | accept (order : Shuffle (Nat × Guild.MemberSlot)) (invoker : Nat)
  | decline (invoker : Nat)
  | leave (invoker : Nat)
  | remove (invoker target : Nat)
  | disband (invoker : Nat)
  | changeRank (id target newRank : Nat)
  | setLeader (id target : Nat)
  | reform (id level : Nat) (ranks : List RankInfo)

def membershipStep (settings : GuildSettings) (w : GuildWorld) : MembershipEvent → GuildWorld
  | .login guid => w.login guid
  | .logout guid => w.logout guid
  | .farTeleport guid => w.setInWorld guid false
  | .worldportAck guid => w.setInWorld guid true
  | .turnInPetition names order owner signers => w.turnInPetition settings names order owner signers
  | .invite invoker target => w.invite settings invoker target
  | .accept order invoker => w.accept settings order invoker
  | .decline invoker => w.decline invoker
  | .leave invoker => w.leave settings invoker
  | .remove invoker target => w.remove settings invoker target
  | .disband invoker => w.handleDisband settings invoker
  | .changeRank id target newRank => w.changeMemberRank id target newRank
  | .setLeader id target => w.setLeader id target
  | .reform id level ranks => w.modifyGuild id fun guild => { guild with level, ranks }

end Mangos
