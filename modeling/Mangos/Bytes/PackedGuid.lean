import Mangos.Bytes.Appending

/-!
# Packed guids that are set again

A packed guid is kept in a buffer that is written from its start at each `Set`. The buffer never becomes
shorter.
-/

namespace Mangos

open Framework

theorem toBytesWide_succ (width n : Nat) :
    toBytesWide (width + 1) n = UInt8.ofNat n :: toBytesWide width (n / 256) := by
  rw [toBytesWide, toBytesWide, List.range_succ_eq_map, List.map_cons, List.map_map, Nat.pow_zero, Nat.div_one]
  congr 1
  apply List.map_congr_left
  intro i _
  rw [Function.comp_apply, Nat.succ_eq_add_one, Nat.pow_succ', Nat.div_div_eq_div_mul]

theorem ofNat_ne_zero_iff (n : Nat) : UInt8.ofNat n ≠ 0 ↔ n % 256 ≠ 0 := by
  rw [ne_eq, ← UInt8.toNat_inj, UInt8.toNat_ofNat']
  exact Iff.rfl

theorem packLoop_bytes (fuel i guid : Nat) : (packLoop fuel i guid).2 = (toBytesWide fuel guid).filter (· ≠ 0) := by
  induction fuel generalizing i guid with
  | zero => rfl
  | succ fuel ih =>
    have hbyte : UInt8.ofNat (guid % 256) = UInt8.ofNat guid := by
      apply UInt8.toNat_inj.mp
      simp
    rw [packLoop_succ, toBytesWide_succ, List.filter_cons]
    by_cases h : guid % 256 ≠ 0
    · have hne := (ofNat_ne_zero_iff guid).mpr h
      rw [if_pos h, ih, hbyte, if_pos (decide_eq_true hne)]
    · have hzero := (ofNat_ne_zero_iff guid).not.mpr h
      rw [if_neg h, ih, if_neg (by simpa using hzero)]

theorem testBit_packLoop_add (fuel i guid j : Nat) :
    (packLoop fuel i guid).1.testBit (i + j) = ((toBytesWide fuel guid).getD j 0 ≠ 0 : Bool) := by
  induction fuel generalizing i guid j with
  | zero => simp [packLoop, toBytesWide]
  | succ fuel ih =>
    have hlow : (packLoop fuel (i + 1) (guid / 256)).1.testBit (i + 0) = false := by
      by_contra hset
      have hin := testBit_packLoop (Bool.eq_true_of_not_eq_false hset)
      omega
    have hrest : ∀ j, (packLoop fuel (i + 1) (guid / 256)).1.testBit (i + (j + 1)) =
        ((toBytesWide fuel (guid / 256)).getD j 0 ≠ 0 : Bool) := by
      intro j
      rw [← ih, Nat.add_right_comm i 1 j, Nat.add_assoc]
    rw [packLoop_succ, toBytesWide_succ]
    by_cases h : guid % 256 ≠ 0
    · rw [if_pos h, Nat.testBit_or, Nat.shiftLeft_eq, Nat.one_mul, Nat.testBit_two_pow]
      cases j with
      | zero => simpa using (ofNat_ne_zero_iff guid).mpr h
      | succ j =>
        rw [hrest]
        simp
    · rw [if_neg h]
      cases j with
      | zero =>
        rw [hlow]
        simpa using (ofNat_ne_zero_iff guid).not.mpr h
      | succ j =>
        rw [hrest]
        simp

theorem ByteBuffer.Reads.drop_eq {b : ByteBuffer} {whole rest : List UInt8}
    (h : b.Reads whole (byteItems rest)) : b.storage = whole ∧ b.storage.drop b.rpos = rest := by
  by_cases hnil : rest = []
  · subst hnil
    have hend := h.rpos_eq
    obtain ⟨pending, h⟩ := h
    rw [h.storage, hend, List.drop_length]
    exact ⟨rfl, rfl⟩
  · obtain ⟨pending, h⟩ := h
    refine ⟨h.storage, ?_⟩
    have hlay := @layOut_byteItems pending rest hnil []
    rw [List.append_nil] at hlay
    have hdrop := h.drop_eq hlay
    rwa [layOut, Framework.flushBits, if_pos rfl, List.append_nil] at hdrop

theorem ByteBuffer.readPackGUID_eq {b : ByteBuffer} {guid : UInt64} {rest : List UInt8}
    (hbound : b.rpos ≤ b.storage.length) (hdrop : b.storage.drop b.rpos = packGUID guid ++ rest) :
    ∃ b', b.readPackGUID = some (guid.toNat, b') ∧ b'.storage = b.storage ∧
      b'.rpos = b.rpos + (packGUID guid).length := by
  have hlay : layOut [] (byteItems (packGUID guid) ++ byteItems rest) = packGUID guid ++ rest := by
    have hne : packGUID guid ++ rest ≠ [] := by simp [packGUID]
    have hall := @layOut_byteItems [] (packGUID guid ++ rest) hne []
    rw [List.append_nil, byteItems, List.map_append] at hall
    rw [byteItems, byteItems, hall]
    simp [Framework.flushBits, layOut]
  have hreads : ({ b with bitpos := 8 } : ByteBuffer).Reads b.storage (byteItems (packGUID guid) ++ byteItems rest) :=
    ⟨[], rfl, hbound, by simp, fun _ => ⟨(by decide : 7 ≤ 8), hdrop.trans hlay.symm⟩, fun h => absurd rfl h⟩
  obtain ⟨b', hread, hrest⟩ := hreads.readPackGUID
  obtain ⟨hsame, hleft⟩ := hrest.drop_eq
  refine ⟨b', hread, hsame, ?_⟩
  have hlength := congrArg List.length hdrop
  have hlengthLeft := congrArg List.length hleft
  have hbound' : b'.rpos ≤ b'.storage.length := by
    obtain ⟨pending, h⟩ := hrest
    exact h.bound
  rw [List.length_drop, List.length_append] at hlength
  rw [List.length_drop, hsame] at hlengthLeft
  rw [hsame] at hbound'
  omega

/-- The buffer of a `PackedGuid`; what is behind the write position is left of longer guids. -/
structure PackedGuid where
  storage : List UInt8
  wpos : Nat

namespace PackedGuid

/-- `ByteBuffer::append`, which makes the buffer longer where it has to. -/
def append (p : PackedGuid) (src : List UInt8) : PackedGuid :=
  let storage := p.storage ++ List.replicate (p.wpos + src.length - p.storage.length) 0
  ⟨storage.take p.wpos ++ src ++ storage.drop (p.wpos + src.length), p.wpos + src.length⟩

def ofGuid (guid : UInt64) : PackedGuid := append ⟨[], 0⟩ (packGUID guid)

def set (p : PackedGuid) (guid : UInt64) : PackedGuid := append { p with wpos := 0 } (packGUID guid)

def size (p : PackedGuid) : Nat := p.storage.length

/-- What `operator<<` appends to a packet: the contents up to the write position. -/
def emitted (p : PackedGuid) : List UInt8 := p.storage.take p.wpos

theorem set_eq (p : PackedGuid) (guid : UInt64) :
    p.set guid = ⟨packGUID guid ++ p.storage.drop (packGUID guid).length, (packGUID guid).length⟩ := by
  rw [set, append]
  simp [List.drop_append]

@[simp] theorem emitted_set (p : PackedGuid) (guid : UInt64) : (p.set guid).emitted = packGUID guid := by
  rw [set_eq, emitted, List.take_left]

theorem size_set (p : PackedGuid) (guid : UInt64) : (p.set guid).size = max p.size (packGUID guid).length := by
  rw [set_eq, size, List.length_append, List.length_drop, size]
  omega

theorem ofGuid_eq (guid : UInt64) : ofGuid guid = set ⟨[], 0⟩ guid := rfl

theorem emitted_foldl (p : PackedGuid) (guid : UInt64) (guids : List UInt64) :
    (guids.foldl set (p.set guid)).emitted = packGUID (guids.getLastD guid) := by
  induction guids generalizing p guid with
  | nil => exact p.emitted_set guid
  | cons next guids ih => rw [List.foldl_cons, ih, List.getLastD_cons]

theorem size_foldl_le_iff (p : PackedGuid) (guids : List UInt64) (n : Nat) :
    (guids.foldl set p).size ≤ n ↔ p.size ≤ n ∧ ∀ guid ∈ guids, (packGUID guid).length ≤ n := by
  induction guids generalizing p with
  | nil => simp
  | cons guid guids ih => rw [List.foldl_cons, ih, size_set, max_le_iff, List.forall_mem_cons, and_assoc]

theorem emitted_length_le (p : PackedGuid) : p.emitted.length ≤ p.size := by
  rw [emitted, List.length_take]
  exact min_le_right _ _

/-- The packed form of `guid` is minimal and read back, and a packed guid made from `first` emits the last guid it was
set to, as many bytes as its size. -/
structure PacksWell (guid first : UInt64) (sets : List UInt64) : Prop where
  minimal : ∃ mask, packGUID guid = mask :: (toBytesWide 8 guid.toNat).filter (· ≠ 0) ∧
    ∀ i < 8, mask.toNat.testBit i = ((toBytesWide 8 guid.toNat).getD i 0 ≠ 0 : Bool)
  read : ∀ (b : ByteBuffer) (rest : List UInt8), b.rpos ≤ b.storage.length →
    b.storage.drop b.rpos = packGUID guid ++ rest →
      ∃ b', b.readPackGUID = some (guid.toNat, b') ∧ b'.storage = b.storage ∧ b'.rpos = b.rpos + (packGUID guid).length
  emitted : (sets.foldl set (ofGuid first)).emitted = packGUID (sets.getLastD first)
  size : (sets.foldl set (ofGuid first)).size = (sets.foldl set (ofGuid first)).emitted.length

theorem packGUID_minimal (guid : UInt64) : ∃ mask, packGUID guid = mask :: (toBytesWide 8 guid.toNat).filter (· ≠ 0) ∧
      ∀ i < 8, mask.toNat.testBit i = ((toBytesWide 8 guid.toNat).getD i 0 ≠ 0 : Bool) := by
  refine ⟨UInt8.ofNat (packLoop 8 0 guid.toNat).1, ?_, fun i _ => ?_⟩
  · rw [packGUID, packLoop_bytes]
  · rw [UInt8.toNat_ofNat', Nat.mod_eq_of_lt (packLoop_lt guid.toNat), ← testBit_packLoop_add 8 0, Nat.zero_add]

theorem packsWell_iff (guid first : UInt64) (sets : List UInt64) : PacksWell guid first sets ↔
      ∀ g ∈ first :: sets, (packGUID g).length ≤ (packGUID (sets.getLastD first)).length := by
  have hemitted := emitted_foldl ⟨[], 0⟩ first sets
  rw [← ofGuid_eq] at hemitted
  have hsize := size_foldl_le_iff (ofGuid first) sets (packGUID (sets.getLastD first)).length
  have hfirst : (ofGuid first).size = (packGUID first).length := by
    rw [ofGuid_eq, size_set]
    exact Nat.max_eq_right (Nat.zero_le _)
  rw [hfirst] at hsize
  rw [List.forall_mem_cons, ← hsize, ← hemitted]
  constructor
  · intro h
    exact h.size.le
  · intro h
    exact ⟨packGUID_minimal guid, fun b rest => b.readPackGUID_eq, hemitted,
      le_antisymm h (emitted_length_le _)⟩

/-- The size is that of the longest guid. -/
theorem packsWell_shortened : ¬ PacksWell 0 0x0101 [0] := by
  intro h
  exact absurd h.size (by decide)

end PackedGuid

end Mangos
