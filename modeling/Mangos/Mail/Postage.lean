import Mangos.Item.Player

/-!
# What a mail costs its sender

The postage is added to the attached money in 64 bits before the sum is compared with the balance.
-/

namespace Mangos

/-- The `cost` of a mail with so many items. -/
def postage (itemsCount : Nat) : Nat := if itemsCount ≠ 0 then 30 * itemsCount else 30

/-- `reqmoney`, an unsigned sum of 64 bits. -/
def reqMoney (itemsCount money : Nat) : Nat := (postage itemsCount + money) % 2 ^ 64

/-- The sender's balance and the money in the mail, when it is sent. -/
structure SentMoney where
  balance : Nat
  mailMoney : Nat
  deriving DecidableEq

/-- What `HandleSendMail` does with money; `mayMail` is the outcome of the checks of the receiver and of the
items. A field of the player has 64 bits. -/
def sendMailMoney (mayMail : Bool) (balance : UInt64) (itemsCount : Fin 13) (money : UInt64) :
    Option SentMoney :=
  if balance.toNat < reqMoney itemsCount money.toNat then none
  else if !mayMail then none
  else some
    { balance := modifyMoney balance.toNat (-int64 (reqMoney itemsCount money.toNat)) % 2 ^ 64
      mailMoney := money.toNat }

/-- The balance goes down by the postage and the money, and the mail has no more than there was. -/
structure SentMoney.Charged (balance itemsCount money : Nat) (sent : SentMoney) : Prop where
  charged : (balance : Int) - sent.balance = postage itemsCount + money
  covered : sent.mailMoney ≤ balance

theorem int64_of_le {x : Nat} (h : 2 ^ 63 ≤ x) (hx : x < 2 ^ 64) : int64 x = x - 2 ^ 64 := by
  rw [int64, Int.bmod_def]
  omega

/-- Exact as long as the sum is a positive number of 64 bits, or the balance is so large that the huge amount
that is added to it instead has the same effect. -/
theorem sendMailMoney_charged_iff {mayMail : Bool} {balance money : UInt64} {itemsCount : Fin 13}
    {sent : SentMoney} (h : sendMailMoney mayMail balance itemsCount money = some sent) :
    sent.Charged balance.toNat itemsCount money.toNat ↔ postage itemsCount + money.toNat < 2 ^ 63 ∨
        postage itemsCount + money.toNat + maxMoneyAmount < 2 ^ 64 ∧
          balance.toNat ≤ postage itemsCount + money.toNat + maxMoneyAmount := by
  have hbalance := balance.toNat_lt
  have hmoney := money.toNat_lt
  have hcost : 30 ≤ postage itemsCount ∧ postage itemsCount ≤ 360 := by
    have hcount := itemsCount.isLt
    rw [postage]
    split <;> omega
  rw [sendMailMoney] at h
  by_cases hrefused : balance.toNat < reqMoney itemsCount money.toNat
  · rw [if_pos hrefused] at h
    cases h
  cases mayMail with
  | false =>
    rw [if_neg hrefused, if_pos (by decide)] at h
    cases h
  | true =>
    rw [if_neg hrefused, if_neg (by decide)] at h
    have hexact : sent.Charged balance.toNat itemsCount money.toNat ↔
        (balance.toNat : Int) - sent.balance = postage itemsCount + money.toNat ∧ sent.mailMoney ≤ balance.toNat :=
      ⟨fun h => ⟨h.charged, h.covered⟩, fun h => ⟨h.1, h.2⟩⟩
    rw [hexact, ← Option.some.inj h]
    dsimp only
    rw [reqMoney] at hrefused ⊢
    generalize postage itemsCount = cost at *
    generalize balance.toNat = b at *
    generalize money.toNat = amount at *
    by_cases hfits : cost + amount < 2 ^ 64
    · rw [Nat.mod_eq_of_lt hfits] at hrefused ⊢
      by_cases hsigned : cost + amount < 2 ^ 63
      · rw [int64_eq (by omega) (by omega), modifyMoney_pay (by omega) (by omega)]
        omega
      · rw [int64_of_le (by omega) hfits, modifyMoney, if_neg (by omega)]
        unfold maxMoneyAmount
        split <;> omega
    · omega

/-- Two gold from a hundred, with one item. -/
theorem sendMailMoney_twoGold : SentMoney.Charged 1000000 1 20000 ⟨979970, 20000⟩ ↔ postage 1 + 20000 < 2 ^ 63 ∨
      postage 1 + 20000 + maxMoneyAmount < 2 ^ 64 ∧ 1000000 ≤ postage 1 + 20000 + maxMoneyAmount :=
  @sendMailMoney_charged_iff true 1000000 20000 1 ⟨979970, 20000⟩ (by decide)

/-- The sum is zero copper, and the mail has almost 2⁶⁴. -/
theorem sendMailMoney_nothingCharged : ∃ sent, sendMailMoney true 0 0 (UInt64.ofNat (2 ^ 64 - 30)) = some sent ∧
    ¬ sent.Charged 0 0 (2 ^ 64 - 30) := by
  refine ⟨⟨0, 2 ^ 64 - 30⟩, by decide, fun h => ?_⟩
  exact absurd h.covered (by decide)

end Mangos
