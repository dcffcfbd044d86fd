import Mangos.Framework.Words
import Mangos.Guild.Guild

/-!
# Rights of a rank

Whether a rank has a right is told by comparing the masked word of the rank with the bit that most rights
have in common.
-/

namespace Mangos

open Framework

namespace GuildRankRight

def permission (right : GuildRankRight) : BitVec 32 := ownBits empty.word right.word

/-- A word of which the comparison tells the truth: it has the permission, or the common bit tells
that it has nothing of it. -/
def ToldBy (right : GuildRankRight) (rights : BitVec 32) : Prop :=
  if right.permission = 0 then ¬ HasBits rights empty.word
  else HasBits rights right.permission ∨
    (HasBits right.word empty.word ∧ HasBits rights empty.word ∧ rights &&& right.permission = 0)

theorem eq_empty_of_permission_eq_zero {right : GuildRankRight} (h : right.permission = 0) : right = empty := by
  cases right <;> first | rfl | exact absurd h (by decide)

end GuildRankRight

namespace Guild

variable (guild : Guild)

/-- The rank exists and has the permission of the right. -/
def RankHolds (rankId : Nat) (right : GuildRankRight) : Prop :=
  ∃ rank ∈ guild.ranks[rankId]?, HasBits rank.rights right.permission

instance (rankId : Nat) (right : GuildRankRight) : Decidable (guild.RankHolds rankId right) :=
  inferInstanceAs (Decidable (∃ rank ∈ guild.ranks[rankId]?, _))

theorem hasRankRight_iff (rankId : Nat) (right : GuildRankRight) : guild.hasRankRight rankId right.word ↔
      ¬ (HasBits right.word GuildRankRight.empty.word ∧ HasBits (guild.getRankRights rankId) GuildRankRight.empty.word ∧
        guild.getRankRights rankId &&& right.permission = 0) := by
  rw [hasRankRight, decide_eq_true_iff, ne_eq, and_eq_base_iff]
  rfl

/-- A right is told exactly when the rank exists and its word is one of which the comparison tells the
truth. -/
theorem hasRankRight_exact_iff (rankId : Nat) (right : GuildRankRight) :
    (guild.hasRankRight rankId right.word ↔ guild.RankHolds rankId right) ↔
      ∃ rank ∈ guild.ranks[rankId]?, right.ToldBy rank.rights := by
  cases hrank : guild.ranks[rankId]? with
  | none =>
    have hgranted : guild.hasRankRight rankId right.word := by
      rw [hasRankRight_iff, getRankRights, hrank]
      rintro ⟨-, hbase, -⟩
      exact absurd hbase (by decide)
    have hmissing : ¬ guild.RankHolds rankId right := by
      rw [RankHolds, hrank]
      rintro ⟨rank, hmem, -⟩
      cases hmem
    constructor
    · exact fun h => absurd (h.mp hgranted) hmissing
    · rintro ⟨rank, hmem, -⟩
      cases hmem
  | some rank =>
    have hholds : guild.RankHolds rankId right ↔ HasBits rank.rights right.permission := by
      rw [RankHolds, hrank]
      constructor
      · rintro ⟨rank', hmem, hbits⟩
        cases hmem
        exact hbits
      · exact fun hbits => ⟨rank, rfl, hbits⟩
    have hword : guild.getRankRights rankId = rank.rights := by rw [getRankRights, hrank]
    have htold : (∃ rank' ∈ some rank, right.ToldBy rank'.rights) ↔ right.ToldBy rank.rights := by
      constructor
      · rintro ⟨rank', hmem, h⟩
        cases hmem
        exact h
      · exact fun h => ⟨rank, rfl, h⟩
    rw [htold, hholds, hasRankRight_iff, hword, GuildRankRight.ToldBy]
    split
    next hnone =>
      cases GuildRankRight.eq_empty_of_permission_eq_zero hnone
      rw [hnone]
      have hself : HasBits GuildRankRight.empty.word GuildRankRight.empty.word := by decide
      have hzero : rank.rights &&& (0 : BitVec 32) = 0 := BitVec.and_zero
      simp only [hself, hzero, hasBits_zero, iff_true, true_and, and_true]
    next hsome =>
      have hexcludes : rank.rights &&& right.permission = 0 → ¬ HasBits rank.rights right.permission :=
        fun h => not_hasBits_of_and_eq_zero h hsome
      tauto

/-- A rank that may only chat is told to have the right to withdraw gold, which has not the common
bit. -/
theorem hasRankRight_withdrawGold : ¬ ∀ (guild : Guild) (rankId : Nat) (right : GuildRankRight),
      guild.hasRankRight rankId right.word ↔ guild.RankHolds rankId right := by
  intro h
  have hgranted := h (.create 1 1 (fun _ => "") (.id _)) 4 .withdrawGold
  exact absurd hgranted (by decide +kernel)

end Guild

end Mangos
