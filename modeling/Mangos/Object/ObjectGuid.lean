import Mathlib.Data.Nat.Bitwise

/-!
# Guids of objects

A guid is a number of 64 bits.
-/

namespace Mangos

inductive HighGuid
  | item
  | container
  | player
  | gameobject
  | transport
  | unit
  | pet
  | vehicle
  | dynamicobject
  | corpse
  | battleground
  | moTransport
  | instanceId
  | group
  | guild
  | event
  | objectevent
  | mapevent
  | calendarEvent
  | invite
  | areatrigger
  | worldlocation
  | worldstate
  deriving DecidableEq, Repr

/-- The number of a kind. Items and containers have the same. -/
def HighGuid.value : HighGuid → UInt64
  | .item => 0x470
  | .container => 0x470
  | .player => 0x000
  | .gameobject => 0xF11
  | .transport => 0xF12
  | .unit => 0xF13
  | .pet => 0xF14
  | .vehicle => 0xF15
  | .dynamicobject => 0xF10
  | .corpse => 0xF101
  | .battleground => 0x1F1
  | .moTransport => 0x1FC
  | .instanceId => 0x1F4
  | .group => 0x1F5
  | .guild => 0x1FF7
  | .event => 0xA01
  | .objectevent => 0xA02
  | .mapevent => 0xA03
  | .calendarEvent => 0xA06
  | .invite => 0xA07
  | .areatrigger => 0xA10
  | .worldlocation => 0xA11
  | .worldstate => 0xA12

namespace ObjectGuid

/-- `IsLargeHigh` of any number. -/
def isLargeHigh (high : UInt64) : Bool :=
  high = HighGuid.guild.value || high = HighGuid.corpse.value

def hasEntry (high : UInt64) : Bool :=
  high ∉ [HighGuid.item.value, HighGuid.player.value, HighGuid.dynamicobject.value,
    HighGuid.corpse.value, HighGuid.moTransport.value, HighGuid.instanceId.value, HighGuid.group.value,
    HighGuid.guild.value, HighGuid.areatrigger.value, HighGuid.worldlocation.value,
    HighGuid.calendarEvent.value, HighGuid.invite.value]

def highShift (high : UInt64) : UInt64 := if isLargeHigh high then 48 else 52

/-- The constructor from a kind, an entry and a counter. -/
def make (hi : HighGuid) (entry counter : UInt32) : UInt64 :=
  if counter ≠ 0 then
    counter.toUInt64 ||| entry.toUInt64 <<< 32 ||| hi.value <<< highShift hi.value
  else 0

def getHigh (guid : UInt64) : UInt64 :=
  let high := guid >>> 48 &&& 0xFFFF
  if isLargeHigh high then high else guid >>> 52 &&& 0xFFF

def entryMask (high : UInt64) : UInt64 := if isLargeHigh high then 0xFFFF else 0xFFFFF

def getEntry (guid : UInt64) : UInt32 :=
  if hasEntry (getHigh guid) then (guid >>> 32 &&& entryMask (getHigh guid)).toUInt32 else 0

def getCounter (guid : UInt64) : UInt32 := (guid &&& 0x00000000FFFFFFFF).toUInt32

/-- The entries that a kind has room for, if it has any. -/
def Allows (hi : HighGuid) (entry : UInt32) : Prop :=
  if hasEntry hi.value then entry.toUInt64 ≤ entryMask hi.value else entry = 0

instance (hi : HighGuid) (entry : UInt32) : Decidable (Allows hi entry) := by
  unfold Allows
  infer_instance

theorem toNat_entryMask (hi : HighGuid) : (entryMask hi.value).toNat + 1 = 2 ^ ((highShift hi.value).toNat - 32) := by
  cases hi <;> rfl

theorem toNat_highShift (hi : HighGuid) : (highShift hi.value).toNat = 48 ∨ (highShift hi.value).toNat = 52 := by
  rw [highShift]
  split
  · exact .inl rfl
  · exact .inr rfl

theorem value_lt (hi : HighGuid) : hi.value.toNat * 2 ^ (highShift hi.value).toNat < 2 ^ 64 := by
  cases hi <;> decide

theorem Allows.lt {hi : HighGuid} {entry : UInt32} (h : Allows hi entry) :
    entry.toNat < 2 ^ ((highShift hi.value).toNat - 32) := by
  rw [Allows] at h
  split at h
  · have hle := UInt64.le_iff_toNat_le.mp h
    rw [UInt32.toNat_toUInt64] at hle
    have hmask := toNat_entryMask hi
    omega
  · rw [h]
    exact Nat.two_pow_pos _

theorem toNat_make {hi : HighGuid} {entry counter : UInt32} (hentry : Allows hi entry)
    (hcounter : counter ≠ 0) : (make hi entry counter).toNat =
      hi.value.toNat * 2 ^ (highShift hi.value).toNat + (entry.toNat * 2 ^ 32 + counter.toNat) := by
  have hcounter' := counter.toNat_lt
  have hvalue := value_lt hi
  have hshift := toNat_highShift hi
  have hlow : entry.toNat * 2 ^ 32 + counter.toNat < 2 ^ (highShift hi.value).toNat := by
    have hlt := hentry.lt
    rcases hshift with h | h <;> rw [h] at hlt ⊢ <;> omega
  have hfits : 2 ^ (highShift hi.value).toNat < 2 ^ 64 := by
    rcases hshift with h | h <;> rw [h] <;> decide
  have hmod : (highShift hi.value).toNat % 64 = (highShift hi.value).toNat := by
    rcases hshift with h | h <;> rw [h]
  have hentry' : (entry.toUInt64 <<< 32).toNat = entry.toNat * 2 ^ 32 := by
    rw [UInt64.toNat_shiftLeft, UInt32.toNat_toUInt64, Nat.shiftLeft_eq]
    have hlt := entry.toNat_lt
    exact Nat.mod_eq_of_lt (Nat.mul_lt_mul_of_pos_right hlt (by decide))
  have hhigh : (hi.value <<< highShift hi.value).toNat = hi.value.toNat * 2 ^ (highShift hi.value).toNat := by
    rw [UInt64.toNat_shiftLeft, hmod, Nat.shiftLeft_eq]
    exact Nat.mod_eq_of_lt hvalue
  have hor : counter.toNat ||| entry.toNat * 2 ^ 32 = entry.toNat * 2 ^ 32 + counter.toNat := by
    rw [Nat.or_comm, ← Nat.shiftLeft_eq, Nat.shiftLeft_add_eq_or_of_lt hcounter']
  rw [make, if_pos hcounter, UInt64.toNat_or, UInt64.toNat_or, hentry', hhigh, UInt32.toNat_toUInt64,
    hor, Nat.or_comm, ← Nat.shiftLeft_eq hi.value.toNat, Nat.shiftLeft_add_eq_or_of_lt hlow]

theorem toNat_getHigh (guid : UInt64) : (getHigh guid).toNat =
    if isLargeHigh (guid >>> 48 &&& 0xFFFF) then guid.toNat / 2 ^ 48 else guid.toNat / 2 ^ 52 := by
  have hlt := guid.toNat_lt
  rw [getHigh]
  split
  · rw [UInt64.toNat_and, UInt64.toNat_shiftRight]
    change guid.toNat >>> 48 &&& (2 ^ 16 - 1) = _
    rw [Nat.and_two_pow_sub_one_eq_mod, Nat.shiftRight_eq_div_pow]
    omega
  · rw [UInt64.toNat_and, UInt64.toNat_shiftRight]
    change guid.toNat >>> 52 &&& (2 ^ 12 - 1) = _
    rw [Nat.and_two_pow_sub_one_eq_mod, Nat.shiftRight_eq_div_pow]
    omega

theorem toNat_getCounter (guid : UInt64) : (getCounter guid).toNat = guid.toNat % 2 ^ 32 := by
  rw [getCounter, UInt64.toNat_toUInt32, UInt64.toNat_and]
  change (guid.toNat &&& (2 ^ 32 - 1)) % 2 ^ 32 = _
  rw [Nat.and_two_pow_sub_one_eq_mod, Nat.mod_mod]

theorem toNat_getEntry {guid : UInt64} {hi : HighGuid} (hhigh : getHigh guid = hi.value)
    (hentry : hasEntry hi.value = true) : (getEntry guid).toNat =
      guid.toNat / 2 ^ 32 % 2 ^ ((highShift hi.value).toNat - 32) := by
  have hmask : (entryMask hi.value).toNat = 2 ^ ((highShift hi.value).toNat - 32) - 1 := by
    have hone := toNat_entryMask hi
    omega
  have hsmall : 2 ^ ((highShift hi.value).toNat - 32) ≤ 2 ^ 32 := by
    rcases toNat_highShift hi with h | h <;> rw [h] <;> decide
  rw [getEntry, hhigh, if_pos hentry, UInt64.toNat_toUInt32, UInt64.toNat_and, hmask,
    Nat.and_two_pow_sub_one_eq_mod, UInt64.toNat_shiftRight, Nat.shiftRight_eq_div_pow]
  apply Nat.mod_eq_of_lt
  exact (Nat.mod_lt _ (Nat.two_pow_pos _)).trans_le hsmall

theorem isLargeHigh_iff (high : UInt64) : isLargeHigh high = true ↔ high.toNat = 0x1FF7 ∨ high.toNat = 0xF101 := by
  rw [isLargeHigh, Bool.or_eq_true, decide_eq_true_iff, decide_eq_true_iff, ← UInt64.toNat_inj, ← UInt64.toNat_inj]
  exact Iff.rfl

theorem not_large_of_entry (hi : HighGuid) (hsmall : isLargeHigh hi.value = false) :
    ∀ k < 16, (hasEntry hi.value = false → k = 0) →
      hi.value.toNat * 16 + k ≠ 0x1FF7 ∧ hi.value.toNat * 16 + k ≠ 0xF101 := by
  cases hi <;> decide

theorem high16_make {hi : HighGuid} {entry counter : UInt32} (hentry : Allows hi entry) (hcounter : counter ≠ 0) :
    isLargeHigh (make hi entry counter >>> 48 &&& 0xFFFF) = isLargeHigh hi.value := by
  have hguid := toNat_make hentry hcounter
  have hlt := (make hi entry counter).toNat_lt
  have hcounter' := counter.toNat_lt
  have hhigh : (make hi entry counter >>> 48 &&& 0xFFFF).toNat = (make hi entry counter).toNat / 2 ^ 48 := by
    rw [UInt64.toNat_and, UInt64.toNat_shiftRight]
    change _ >>> 48 &&& (2 ^ 16 - 1) = _
    rw [Nat.and_two_pow_sub_one_eq_mod, Nat.shiftRight_eq_div_pow]
    omega
  rw [Bool.eq_iff_iff, isLargeHigh_iff, hhigh, hguid]
  have hentry' := hentry.lt
  by_cases hlarge : isLargeHigh hi.value = true
  · have hshift : (highShift hi.value).toNat = 48 := by rw [highShift, if_pos hlarge]; rfl
    have hvalue := (isLargeHigh_iff hi.value).mp hlarge
    rw [hshift] at hentry' ⊢
    simp only [hlarge, iff_true]
    omega
  · have hshift : (highShift hi.value).toNat = 52 := by rw [highShift, if_neg hlarge]; rfl
    rw [hshift] at hentry' ⊢
    have hnone (h : hasEntry hi.value = false) : entry.toNat / 2 ^ 16 = 0 := by
      rw [Allows, if_neg (by simp [h])] at hentry
      rw [hentry]
      rfl
    have hnot := not_large_of_entry hi (Bool.eq_false_iff.mpr hlarge) (entry.toNat / 2 ^ 16) (by omega)
      hnone
    have hdiv : (hi.value.toNat * 2 ^ 52 + (entry.toNat * 2 ^ 32 + counter.toNat)) / 2 ^ 48 =
        hi.value.toNat * 16 + entry.toNat / 2 ^ 16 := by
      omega
    rw [hdiv]
    exact iff_of_false (not_or.mpr hnot) hlarge

section Decoding

variable {hi : HighGuid} {entry counter : UInt32} (hentry : Allows hi entry) (hcounter : counter ≠ 0)
include hentry hcounter

theorem getHigh_make : getHigh (make hi entry counter) = hi.value := by
  have hguid := toNat_make hentry hcounter
  have hcounter' := counter.toNat_lt
  have hentry' := hentry.lt
  rw [← UInt64.toNat_inj, toNat_getHigh, high16_make hentry hcounter, hguid]
  split
  next hlarge =>
    have hshift : (highShift hi.value).toNat = 48 := by rw [highShift, if_pos hlarge]; rfl
    rw [hshift] at hentry' ⊢
    omega
  next hlarge =>
    have hshift : (highShift hi.value).toNat = 52 := by rw [highShift, if_neg hlarge]; rfl
    rw [hshift] at hentry' ⊢
    omega

theorem getCounter_make : getCounter (make hi entry counter) = counter := by
  have hcounter' := counter.toNat_lt
  rw [← UInt32.toNat_inj, toNat_getCounter, toNat_make hentry hcounter]
  rcases toNat_highShift hi with h | h <;> rw [h] <;> omega

theorem getEntry_make (hhas : hasEntry hi.value = true) : getEntry (make hi entry counter) = entry := by
  have hcounter' := counter.toNat_lt
  have hentry' := hentry.lt
  rw [← UInt32.toNat_inj, toNat_getEntry (getHigh_make hentry hcounter) hhas, toNat_make hentry hcounter]
  rcases toNat_highShift hi with h | h <;> rw [h] at hentry' ⊢ <;> omega

end Decoding

/-- What a guid was made of can be told from it, and different parts make different guids. -/
theorem make_decodes (hi : HighGuid) (entry counter : UInt32) (hentry : Allows hi entry)
    (hcounter : counter ≠ 0) : (getHigh (make hi entry counter) = hi.value ∧
      (hasEntry hi.value = true → getEntry (make hi entry counter) = entry) ∧
      getCounter (make hi entry counter) = counter) ∧
    ∀ (hi' : HighGuid) (entry' counter' : UInt32), Allows hi' entry' → counter' ≠ 0 →
      make hi entry counter = make hi' entry' counter' →
        hi.value = hi'.value ∧ entry = entry' ∧ counter = counter' := by
  refine ⟨⟨getHigh_make hentry hcounter, getEntry_make hentry hcounter, getCounter_make hentry hcounter⟩, ?_⟩
  intro hi' entry' counter' hentry' hcounter' hsame
  have hhigh : hi.value = hi'.value := by
    rw [← getHigh_make hentry hcounter, ← getHigh_make hentry' hcounter', hsame]
  have hcount : counter = counter' := by
    rw [← getCounter_make hentry hcounter, ← getCounter_make hentry' hcounter', hsame]
  refine ⟨hhigh, ?_, hcount⟩
  by_cases hhas : hasEntry hi.value = true
  · rw [← getEntry_make hentry hcounter hhas, ← getEntry_make hentry' hcounter' (hhigh ▸ hhas), hsame]
  · rw [Allows, if_neg hhas] at hentry
    rw [Allows, ← hhigh, if_neg hhas] at hentry'
    rw [hentry, hentry']

theorem make_decodes_vehicle : (getHigh (make .vehicle 29929 7) = HighGuid.vehicle.value ∧
      (hasEntry HighGuid.vehicle.value = true → getEntry (make .vehicle 29929 7) = 29929) ∧
      getCounter (make .vehicle 29929 7) = 7) ∧
    ∀ (hi' : HighGuid) (entry' counter' : UInt32), Allows hi' entry' → counter' ≠ 0 →
      make .vehicle 29929 7 = make hi' entry' counter' →
        HighGuid.vehicle.value = hi'.value ∧ 29929 = entry' ∧ 7 = counter' :=
  make_decodes .vehicle 29929 7 (by decide) (by decide)

end ObjectGuid

end Mangos
