import Mangos.Framework.Turns
import Mangos.Group.Leader
import Mangos.Loot.Roll

/-!
# Whose turn it is to loot

With most loot methods the members loot in turn, each as far as they are near enough.
-/

namespace Mangos

open Framework

/-- A group with what it keeps for looting; the looter may be no member, or the empty guid 0. -/
structure LootingGroup where
  grp : Group
  lootMethod : LootMethod
  looterGuid : Nat
  deriving DecidableEq, Repr

namespace LootingGroup

variable (s : LootingGroup) (inRange : Nat → Bool)

/-- `ObjectAccessor::FindPlayer` finds a player, who is near enough to the looted object. -/
def mayLoot (guid : Nat) : Bool := guid ≠ 0 && inRange guid

/-- The iterator `guid_itr` after the looter was looked for: behind them, or at the end. -/
def nextSlot : Nat :=
  match s.grp.memberSlots.findIdx? (·.guid = s.looterGuid) with
  | some i => i + 1
  | none => s.grp.memberSlots.length

def looterIsFine : Bool := s.grp.isMember s.looterGuid && mayLoot inRange s.looterGuid

def updateLooterGuid (ifneed : Bool) : LootingGroup :=
  match s.lootMethod with
  | .masterLoot => s
  | .freeForAll => s
  | _ =>
    if ifneed && s.looterIsFine inRange then s
    else
      match findInTurn (fun slot => mayLoot inRange slot.guid) s.nextSlot s.grp.memberSlots with
      | some slot => { s with looterGuid := slot.guid }
      | none => { s with looterGuid := 0 }

/-- An update leaves the looter as it is: nobody loots in turn, or the looter may and is only to be
replaced if needed. -/
def KeepsLooter (ifneed : Bool) : Prop :=
  s.lootMethod = .masterLoot ∨ s.lootMethod = .freeForAll ∨
    (ifneed = true ∧ s.grp.isMember s.looterGuid = true ∧ mayLoot inRange s.looterGuid = true)

/-- The turn of the member at place `i`: who stands behind the looter comes first, and the looter last. -/
def turnOf (i : Nat) : Nat := turn s.grp.memberSlots.length s.nextSlot i

/-- The looter is the member with the first turn among those that may loot, and nobody if there is none. -/
structure Selects (s' : LootingGroup) : Prop where
  same : s' = { s with looterGuid := s'.looterGuid }
  nobody : s'.looterGuid = 0 ↔ ∀ slot ∈ s.grp.memberSlots, mayLoot inRange slot.guid = false
  first : s'.looterGuid ≠ 0 → mayLoot inRange s'.looterGuid = true ∧
    ∃ i slot, s.grp.memberSlots[i]? = some slot ∧ slot.guid = s'.looterGuid ∧
      ∀ j other, s.grp.memberSlots[j]? = some other → mayLoot inRange other.guid = true → s.turnOf i ≤ s.turnOf j

variable {s} {inRange}

theorem nextSlot_le : s.nextSlot ≤ s.grp.memberSlots.length := by
  unfold nextSlot
  cases hfind : s.grp.memberSlots.findIdx? (·.guid = s.looterGuid) with
  | none => exact Nat.le_refl _
  | some i => exact (List.findIdx?_eq_some_iff_getElem.mp hfind).1

theorem looterIsFine_iff : s.looterIsFine inRange = true ↔
    s.grp.isMember s.looterGuid = true ∧ mayLoot inRange s.looterGuid = true := by
  simp [looterIsFine]

theorem updateLooterGuid_of_not_keeps {ifneed : Bool} (h : ¬ s.KeepsLooter inRange ifneed) :
    s.updateLooterGuid inRange ifneed =
      match findInTurn (fun slot => mayLoot inRange slot.guid) s.nextSlot s.grp.memberSlots with
      | some slot => { s with looterGuid := slot.guid }
      | none => { s with looterGuid := 0 } := by
  have hfine : (ifneed && s.looterIsFine inRange) = false := by
    rw [Bool.and_eq_false_iff]
    by_contra hnot
    simp only [not_or, Bool.not_eq_false, looterIsFine_iff] at hnot
    exact h (.inr (.inr hnot))
  unfold updateLooterGuid
  cases hmethod : s.lootMethod with
  | masterLoot => exact absurd (.inl hmethod) h
  | freeForAll => exact absurd (.inr (.inl hmethod)) h
  | roundRobin => simp [hfine]
  | groupLoot => simp [hfine]
  | needBeforeGreed => simp [hfine]

theorem selects_updateLooterGuid {ifneed : Bool} (h : ¬ s.KeepsLooter inRange ifneed) :
    s.Selects inRange (s.updateLooterGuid inRange ifneed) := by
  rw [updateLooterGuid_of_not_keeps h]
  cases hfind : findInTurn (fun slot => mayLoot inRange slot.guid) s.nextSlot s.grp.memberSlots with
  | none => exact ⟨rfl, ⟨fun _ => findInTurn_eq_none_iff.mp hfind, fun _ => rfl⟩, fun hne => absurd rfl hne⟩
  | some slot =>
    obtain ⟨hmay, i, hi, hfirst⟩ := findInTurn_first nextSlot_le hfind
    refine ⟨rfl, ⟨fun hzero => ?_, fun hall => ?_⟩, fun _ => ⟨hmay, i, slot, hi, rfl, hfirst⟩⟩
    · simp [mayLoot, show slot.guid = 0 from hzero] at hmay
    · rw [hall slot (List.mem_of_getElem? hi)] at hmay
      cases hmay

/-- An update leaves a group alone where the looter keeps the turn, and gives the turn to the next member
that may loot otherwise. -/
theorem updateLooterGuid_inTurn (s : LootingGroup) (inRange : Nat → Bool) (ifneed : Bool) :
    (s.KeepsLooter inRange ifneed → s.updateLooterGuid inRange ifneed = s) ∧
      (¬ s.KeepsLooter inRange ifneed → s.Selects inRange (s.updateLooterGuid inRange ifneed)) := by
  refine ⟨fun hkeeps => ?_, selects_updateLooterGuid⟩
  unfold updateLooterGuid
  rcases hkeeps with hmaster | hfree | ⟨hneed, hmember, hmay⟩
  · simp [hmaster]
  · simp [hfree]
  · have hfine : s.looterIsFine inRange = true := looterIsFine_iff.mpr ⟨hmember, hmay⟩
    cases hmethod : s.lootMethod with
    | masterLoot => rfl
    | freeForAll => rfl
    | roundRobin => simp [hneed, hfine]
    | groupLoot => simp [hneed, hfine]
    | needBeforeGreed => simp [hneed, hfine]

def twoLooters : LootingGroup :=
  { grp := { leaderGuid := 1, memberSlots := [{ guid := 1, group := 0 }, { guid := 2, group := 0 }] }
    lootMethod := .groupLoot
    looterGuid := 1 }

/-- If an update is made if needed only, the looter keeps the turn, though there is another. -/
theorem ifneed_keeps_looter : ¬ ∀ (s : LootingGroup) (inRange : Nat → Bool) (ifneed : Bool),
    s.Selects inRange (s.updateLooterGuid inRange ifneed) := by
  intro h
  obtain ⟨-, -, hfirst⟩ := h twoLooters (fun _ => true) true
  obtain ⟨-, i, slot, hi, hguid, hturn⟩ := hfirst (by decide)
  have hsame : (twoLooters.updateLooterGuid (fun _ => true) true).looterGuid = 1 := by decide
  rw [hsame] at hguid
  have hle := hturn 1 { guid := 2, group := 0 } (by decide) (by decide)
  match i, hi with
  | 0, _ => exact absurd hle (by decide)
  | 1, hi =>
    obtain rfl := Option.some.inj hi
    exact absurd hguid (by decide)

end LootingGroup

end Mangos
