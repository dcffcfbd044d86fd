import Mangos.Framework.Words
import Mathlib.Data.List.Basic

/-!
# Losing a rated match

An arena team keeps a record of each member.
-/

namespace Mangos

open Framework

inductive ArenaType
  | none | type2v2 | type3v3 | type5v5
  deriving DecidableEq, Repr

structure ArenaTeamMember where
  guid : Nat
  gamesWeek : UInt32
  gamesSeason : UInt32
  personalRating : UInt32
  matchmakerRating : UInt32
  deriving DecidableEq, Repr

structure ArenaTeam where
  type : ArenaType
  members : List ArenaTeamMember

/-- The options that make losses smaller. -/
structure ArenaConfig where
  loserNoChange : UInt32
  loserHalfChange : UInt32

def loseRating (rating : UInt32) (points : Nat) : UInt32 :=
  if rating.toInt32.toInt - points < 0 then 0 else rating - UInt32.ofNat points

def ArenaConfig.reduced (config : ArenaConfig) (own against : UInt32) (points : Nat) : Nat :=
  if against ≤ config.loserNoChange ∨ own ≤ config.loserNoChange then 0
  else if own ≤ config.loserHalfChange then points / 2
  else points

namespace ArenaTeamMember

def playGame (member : ArenaTeamMember) : ArenaTeamMember :=
  { member with gamesWeek := member.gamesWeek + 1, gamesSeason := member.gamesSeason + 1 }

def modifyMatchmakerRating (member : ArenaTeamMember) (points : Nat) (type : ArenaType) :
    ArenaTeamMember :=
  match type with
  | .none => member
  | .type2v2 | .type3v3 | .type5v5 =>
    { member with matchmakerRating := loseRating member.matchmakerRating points }

variable (member : ArenaTeamMember) (points : Nat) (type : ArenaType)

@[simp] theorem modifyMatchmakerRating_guid : (member.modifyMatchmakerRating points type).guid = member.guid := by
  cases type <;> rfl

@[simp] theorem modifyMatchmakerRating_personalRating :
    (member.modifyMatchmakerRating points type).personalRating = member.personalRating := by
  cases type <;> rfl

@[simp] theorem modifyMatchmakerRating_gamesWeek :
    (member.modifyMatchmakerRating points type).gamesWeek = member.gamesWeek := by
  cases type <;> rfl

@[simp] theorem modifyMatchmakerRating_gamesSeason :
    (member.modifyMatchmakerRating points type).gamesSeason = member.gamesSeason := by
  cases type <;> rfl

end ArenaTeamMember

namespace ArenaTeam

def updateMember (change : ArenaTeamMember → ArenaTeamMember) (guid : Nat) :
    List ArenaTeamMember → List ArenaTeamMember
  | [] => []
  | member :: members =>
    if member.guid = guid then change member :: members
    else member :: updateMember change guid members

def getMember (team : ArenaTeam) (guid : Nat) : Option ArenaTeamMember :=
  team.members.find? (·.guid = guid)

section Lost

/- `points own against` is what a loss costs, the modification being `-points`: the chance to win is a
number from 0 to 1, so that `ceil(K * (0 - chance))` is never positive. -/
variable (points : UInt32 → UInt32 → Nat)

def memberLost (config : ArenaConfig) (team : ArenaTeam) (guid : Nat) (against : UInt32) : ArenaTeam :=
  let change (member : ArenaTeamMember) : ArenaTeamMember :=
    let own := member.personalRating
    let rated := { member with
      personalRating := loseRating own (config.reduced own against (points own against)) }
    (rated.modifyMatchmakerRating (points rated.matchmakerRating against) team.type).playGame
  { team with members := updateMember change guid team.members }

def offlineMemberLost (team : ArenaTeam) (guid : Nat) (against : UInt32) : ArenaTeam :=
  let change (member : ArenaTeamMember) : ArenaTeamMember :=
    let own := member.personalRating
    let matchmaker := member.matchmakerRating
    { member with
      personalRating := loseRating own (points own against)
      matchmakerRating := loseRating matchmaker (points matchmaker against) }.playGame
  { team with members := updateMember change guid team.members }

end Lost

/-- What a team has on record of a member: the personal rating and the games. -/
def record (team : ArenaTeam) (guid : Nat) : Option (UInt32 × UInt32 × UInt32) :=
  (team.getMember guid).map fun member =>
    (member.personalRating, member.gamesWeek, member.gamesSeason)

/-- The loss of a member who is online is not made smaller, or what is left of it takes the whole rating
already. -/
def LossStands (config : ArenaConfig) (points : UInt32 → UInt32 → Nat) (member : ArenaTeamMember)
    (against : UInt32) : Prop :=
  let own := member.personalRating
  config.reduced own against (points own against) = points own against ∨
    own.toInt32.toInt ≤ config.reduced own against (points own against)

theorem find?_updateMember {change : ArenaTeamMember → ArenaTeamMember}
    (hchange : ∀ member, (change member).guid = member.guid) (guid : Nat)
    (members : List ArenaTeamMember) : (updateMember change guid members).find? (·.guid = guid) =
      (members.find? (·.guid = guid)).map change := by
  induction members with
  | nil => rfl
  | cons member members ih =>
    by_cases hguid : member.guid = guid
    · simp [updateMember, hguid, hchange]
    · simp [updateMember, hguid, ih]

theorem reduced_le (config : ArenaConfig) (own against : UInt32) (points : Nat) :
    config.reduced own against points ≤ points := by
  rw [ArenaConfig.reduced]
  split_ifs
  · exact Nat.zero_le points
  · exact Nat.div_le_self points 2
  · exact Nat.le_refl points

theorem toNat_loseRating (rating : UInt32) (points : Nat) :
    (loseRating rating points).toNat = (rating.toInt32.toInt - points).toNat := by
  rw [loseRating]
  split
  case isTrue hlost =>
    rw [Int.toNat_of_nonpos (Int.le_of_lt hlost)]
    rfl
  case isFalse hleft =>
    have hrating := toNat_eq_of_toInt32 (a := rating) (by omega)
    have hlt := rating.toNat_lt
    have hpoints : (UInt32.ofNat points).toNat = points :=
      UInt32.toNat_ofNat_of_lt' (by rw [UInt32.size]; omega)
    rw [UInt32.toNat_sub_of_le _ _ (UInt32.le_iff_toNat_le.mpr (by omega)), hpoints]
    omega

theorem loseRating_eq_iff {rating : UInt32} {less more : Nat} (hle : less ≤ more) :
    loseRating rating more = loseRating rating less ↔ less = more ∨ rating.toInt32.toInt ≤ less := by
  rw [← UInt32.toNat_inj, toNat_loseRating, toNat_loseRating]
  omega

/-- Both updates of a member put the same on record exactly when the loss stands. -/
theorem offlineMemberLost_agrees_iff (points : UInt32 → UInt32 → Nat) (config : ArenaConfig)
    (team : ArenaTeam) (guid : Nat) (against : UInt32) : (team.offlineMemberLost points guid against).record guid =
        (team.memberLost points config guid against).record guid ↔
      ∀ member, team.getMember guid = some member → LossStands config points member against := by
  simp only [record, getMember, offlineMemberLost, memberLost]
  rw [find?_updateMember (by intro; rfl), find?_updateMember (by simp [ArenaTeamMember.playGame])]
  cases team.members.find? (·.guid = guid) with
  | none => simp
  | some member =>
    have hle := reduced_le config member.personalRating against
      (points member.personalRating against)
    simp [ArenaTeamMember.playGame, loseRating_eq_iff hle, LossStands]

/-- A server that takes no points of ratings up to 2000, and a member with 1500 of them. -/
private def mildConfig : ArenaConfig := ⟨2000, 0⟩

private def pairOfFriends : ArenaTeam := ⟨.type2v2, [⟨7, 0, 0, 1500, 1500⟩]⟩

/-- Who is not online loses 16 points to an equal, who is online none. -/
theorem offlineMemberLost_disagrees : (pairOfFriends.offlineMemberLost (fun _ _ => 16) 7 1500).record 7 ≠
      (pairOfFriends.memberLost (fun _ _ => 16) mildConfig 7 1500).record 7 := by
  decide

example : (pairOfFriends.offlineMemberLost (fun _ _ => 16) 7 1500).record 7 = some (1484, 1, 1) := by
  decide

end ArenaTeam

end Mangos
