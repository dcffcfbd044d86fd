import Mangos.Bytes.Fields
import Mangos.Movement.RoundTrip

/-!
# Guids in a packet

A guid is sent as a mask of its bytes that are not zero and, later, these bytes.
-/

namespace Mangos

open Framework

/-- Some bits of a guid's mask, or some of its bytes. -/
inductive GuidStep (n : Nat)
  | mask (k : Fin n) (order : List (Fin 8))
  | bytes (k : Fin n) (order : List (Fin 8))

namespace ByteBuffer

def writeGuidMask (guid : ObjectGuid) (order : List (Fin 8)) (b : ByteBuffer) : ByteBuffer :=
  order.foldl (fun b i => b.writeBit (guid i ≠ 0)) b

def writeGuidBytes (guid : ObjectGuid) (order : List (Fin 8)) (b : ByteBuffer) : ByteBuffer :=
  order.foldl (fun b i => if guid i ≠ 0 then b.append (guid i ^^^ 1) else b) b

variable {n : Nat}

def writeGuidStep (guids : Fin n → ObjectGuid) (b : ByteBuffer) : GuidStep n → ByteBuffer
  | .mask k order => b.writeGuidMask (guids k) order
  | .bytes k order => b.writeGuidBytes (guids k) order

def writeGuidGroups (guids : Fin n → ObjectGuid) (groups : List (List (GuidStep n))) (b : ByteBuffer) :
    ByteBuffer :=
  groups.foldl (fun b group => (group.foldl (writeGuidStep guids) b).flushBits) b

def readGuidMask : List (Fin 8) → ObjectGuid → ByteBuffer → Option (ObjectGuid × ByteBuffer)
  | [], guid, b => some (guid, b)
  | i :: order, guid, b =>
    b.readBit.bind fun p => readGuidMask order (Function.update guid i p.1.toUInt8) p.2

def readGuidBytes : List (Fin 8) → ObjectGuid → ByteBuffer → Option (ObjectGuid × ByteBuffer)
  | [], guid, b => some (guid, b)
  | i :: order, guid, b =>
    if guid i ≠ 0 then
      b.readUInt8.bind fun p => readGuidBytes order (Function.update guid i (guid i ^^^ p.1)) p.2
    else readGuidBytes order guid b

def readGuidStep (guids : Fin n → ObjectGuid) (b : ByteBuffer) :
    GuidStep n → Option ((Fin n → ObjectGuid) × ByteBuffer)
  | .mask k order => (readGuidMask order (guids k) b).map fun p => (Function.update guids k p.1, p.2)
  | .bytes k order => (readGuidBytes order (guids k) b).map fun p => (Function.update guids k p.1, p.2)

def readGuidSteps :
    List (GuidStep n) → (Fin n → ObjectGuid) → ByteBuffer → Option ((Fin n → ObjectGuid) × ByteBuffer)
  | [], guids, b => some (guids, b)
  | step :: steps, guids, b => (readGuidStep guids b step).bind fun p => readGuidSteps steps p.1 p.2

def resetBitReader (b : ByteBuffer) : ByteBuffer := { b with bitpos := 8 }

/-- What a reader does where the bits were flushed is `reset`. -/
def readGuidGroups (reset : ByteBuffer → ByteBuffer) :
    List (List (GuidStep n)) → (Fin n → ObjectGuid) → ByteBuffer → Option ((Fin n → ObjectGuid) × ByteBuffer)
  | [], guids, b => some (guids, b)
  | group :: groups, guids, b =>
    (readGuidSteps group guids b).bind fun p => readGuidGroups reset groups p.1 (reset p.2)

def readGuids (reset : ByteBuffer → ByteBuffer) (groups : List (List (GuidStep n))) (b : ByteBuffer) :
    Option (Fin n → ObjectGuid) :=
  (readGuidGroups reset groups (fun _ => ObjectGuid.empty) b).map Prod.fst

end ByteBuffer

namespace GuidStep

variable {n : Nat}

def isMask : GuidStep n → Bool
  | .mask _ _ => true
  | .bytes _ _ => false

def maskOrder (k : Fin n) : List (GuidStep n) → List (Fin 8)
  | [] => []
  | .mask k' order :: steps => if k' = k then order ++ maskOrder k steps else maskOrder k steps
  | .bytes _ _ :: steps => maskOrder k steps

def byteOrder (k : Fin n) : List (GuidStep n) → List (Fin 8)
  | [] => []
  | .mask _ _ :: steps => byteOrder k steps
  | .bytes k' order :: steps => if k' = k then order ++ byteOrder k steps else byteOrder k steps

/-- Each bit and each byte of each guid is sent once. -/
def Covers (steps : List (GuidStep n)) : Prop :=
  ∀ k i, (maskOrder k steps).count i = 1 ∧ (byteOrder k steps).count i = 1

instance (steps : List (GuidStep n)) : Decidable (Covers steps) := inferInstanceAs (Decidable (∀ _ _, _))

def MasksFirst : List (GuidStep n) → Prop
  | [] => True
  | .mask _ _ :: steps => MasksFirst steps
  | .bytes k _ :: steps => maskOrder k steps = [] ∧ MasksFirst steps

instance MasksFirst.decidable : (steps : List (GuidStep n)) → Decidable (MasksFirst steps)
  | [] => inferInstanceAs (Decidable True)
  | .mask _ _ :: steps => MasksFirst.decidable steps
  | .bytes k _ :: steps =>
    @instDecidableAnd _ _ (inferInstance : Decidable (maskOrder k steps = [])) (MasksFirst.decidable steps)

def items (guids : Fin n → ObjectGuid) : GuidStep n → List StreamItem
  | .mask k order => order.map fun i => .bit (guids k i ≠ 0)
  | .bytes k order => order.flatMap fun i => MovementInfo.guidByteItems (guids k i)

/-- What is still to come of the guids: no byte without its bit, and nothing twice. -/
structure Awaited (steps : List (GuidStep n)) : Prop where
  mask_le : ∀ k i, (maskOrder k steps).count i ≤ (byteOrder k steps).count i
  byte_le : ∀ k i, (byteOrder k steps).count i ≤ 1
  masksFirst : MasksFirst steps

theorem Covers.awaited {steps : List (GuidStep n)} (h : Covers steps) (hfirst : MasksFirst steps) : Awaited steps :=
  ⟨fun k i => by rw [(h k i).1, (h k i).2], fun k i => (h k i).2.le, hfirst⟩

theorem Awaited.tail {step : GuidStep n} {steps : List (GuidStep n)} (h : Awaited (step :: steps)) : Awaited steps := by
  cases step with
  | mask k order =>
    refine ⟨fun k' i => ?_, h.byte_le, h.masksFirst⟩
    have hle := h.mask_le k' i
    rw [maskOrder, byteOrder] at hle
    split at hle
    · rw [List.count_append] at hle
      omega
    · exact hle
  | bytes k order =>
    refine ⟨fun k' i => ?_, fun k' i => ?_, h.masksFirst.2⟩
    · have hle := h.mask_le k' i
      rw [maskOrder, byteOrder] at hle
      split at hle
      next heq =>
        rw [← heq, h.masksFirst.1]
        exact Nat.zero_le _
      next => exact hle
    · have hle := h.byte_le k' i
      rw [byteOrder] at hle
      split at hle
      · rw [List.count_append] at hle
        omega
      · exact hle

theorem Awaited.drop {rest : List (GuidStep n)} (steps : List (GuidStep n)) (h : Awaited (steps ++ rest)) :
    Awaited rest := by
  induction steps with
  | nil => exact h
  | cons step steps ih => exact ih h.tail

def partly (guids : Fin n → ObjectGuid) (steps : List (GuidStep n)) : Fin n → ObjectGuid := fun k =>
  MovementReader.guidAfter (guids k) (fun i => i ∉ maskOrder k steps) fun i => i ∉ byteOrder k steps

theorem partly_nil (guids : Fin n → ObjectGuid) : partly guids [] = guids := by
  funext k i
  simp [partly, MovementReader.guidAfter, byteOrder]

theorem Covers.partly {steps : List (GuidStep n)} (h : Covers steps) (guids : Fin n → ObjectGuid) :
    GuidStep.partly guids steps = fun _ => ObjectGuid.empty := by
  funext k i
  have hmask : i ∈ maskOrder k steps := List.count_pos_iff.mp (by rw [(h k i).1]; exact Nat.one_pos)
  have hbyte : i ∈ byteOrder k steps := List.count_pos_iff.mp (by rw [(h k i).2]; exact Nat.one_pos)
  simp [GuidStep.partly, MovementReader.guidAfter, hmask, hbyte, ObjectGuid.empty]

theorem partly_of_ne {guids : Fin n → ObjectGuid} {k k' : Fin n} (hne : k' ≠ k) (order : List (Fin 8))
    (steps : List (GuidStep n)) : partly guids (.mask k order :: steps) k' = partly guids steps k' ∧
      partly guids (.bytes k order :: steps) k' = partly guids steps k' := by
  have hk : ¬ k = k' := Ne.symm hne
  have hmask : maskOrder k' (.mask k order :: steps) = maskOrder k' steps := if_neg hk
  have hbyte : byteOrder k' (.bytes k order :: steps) = byteOrder k' steps := if_neg hk
  constructor
  · rw [partly, hmask]
    rfl
  · rw [partly, hbyte]
    rfl

theorem Awaited.not_mem_mask {k : Fin n} {order : List (Fin 8)} {steps : List (GuidStep n)} {i : Fin 8}
    (h : Awaited (.mask k order :: steps)) (hi : i ∈ order) : i ∈ byteOrder k steps ∧ i ∉ maskOrder k steps := by
  have hmask := h.mask_le k i
  have hbyte := h.byte_le k i
  have hpos := List.count_pos_iff.mpr hi
  rw [maskOrder, if_pos rfl, List.count_append, byteOrder] at hmask
  rw [byteOrder] at hbyte
  refine ⟨List.count_pos_iff.mp (by omega), fun hmem => ?_⟩
  have hagain := List.count_pos_iff.mpr hmem
  omega

theorem Awaited.not_mem_bytes {k : Fin n} {order : List (Fin 8)} {steps : List (GuidStep n)} {i : Fin 8}
    (h : Awaited (.bytes k order :: steps)) (hi : i ∈ order) : i ∉ byteOrder k steps := by
  have hbyte := h.byte_le k i
  have hpos := List.count_pos_iff.mpr hi
  rw [byteOrder, if_pos rfl, List.count_append] at hbyte
  intro hmem
  have hagain := List.count_pos_iff.mpr hmem
  omega

theorem Awaited.nodup {k : Fin n} {order : List (Fin 8)} {steps : List (GuidStep n)}
    (h : Awaited (.bytes k order :: steps)) : order.Nodup := by
  rw [List.nodup_iff_count_le_one]
  intro i
  have hbyte := h.byte_le k i
  rw [byteOrder, if_pos rfl, List.count_append] at hbyte
  omega

theorem partly_mask {guids : Fin n → ObjectGuid} {k : Fin n} {order : List (Fin 8)}
    {steps : List (GuidStep n)} (h : Awaited (.mask k order :: steps)) :
    Function.update (partly guids (.mask k order :: steps)) k (MovementReader.guidAfter (guids k)
        (fun i => decide (i ∈ order) || decide (i ∉ maskOrder k (.mask k order :: steps)))
        fun i => decide (i ∉ byteOrder k (.mask k order :: steps))) = partly guids steps := by
  funext k'
  by_cases hk : k' = k
  · subst hk
    rw [Function.update_self, partly]
    congr 1
    funext i
    by_cases hi : i ∈ order
    · simp [hi, (h.not_mem_mask hi).2]
    · simp [hi, maskOrder]
  · rw [Function.update_of_ne hk]
    exact (partly_of_ne hk order steps).1

theorem partly_bytes {guids : Fin n → ObjectGuid} {k : Fin n} {order : List (Fin 8)}
    {steps : List (GuidStep n)} (h : Awaited (.bytes k order :: steps)) :
    Function.update (partly guids (.bytes k order :: steps)) k
      (MovementReader.guidAfter (guids k) (fun i => decide (i ∉ maskOrder k (.bytes k order :: steps)))
        fun i => decide (i ∈ order) || decide (i ∉ byteOrder k (.bytes k order :: steps))) =
      partly guids steps := by
  funext k'
  by_cases hk : k' = k
  · subst hk
    rw [Function.update_self, partly]
    congr 1
    funext i
    by_cases hi : i ∈ order
    · simp [hi, h.not_mem_bytes hi]
    · simp [hi, byteOrder]
  · rw [Function.update_of_ne hk]
    exact (partly_of_ne hk order steps).2

end GuidStep

namespace ByteBuffer

open MovementReader GuidStep

variable {n : Nat} {b : ByteBuffer} {whole : List UInt8} {items : List StreamItem}

theorem write_guidStep (guids : Fin n → ObjectGuid) (step : GuidStep n) (b : ByteBuffer) :
    b.writeGuidStep guids step = b.write (step.items guids) := by
  cases step with
  | mask k order =>
    rw [writeGuidStep, writeGuidMask, GuidStep.items]
    induction order generalizing b with
    | nil => rfl
    | cons i order ih => exact ih (b.writeBit (guids k i ≠ 0))
  | bytes k order =>
    rw [writeGuidStep, writeGuidBytes, GuidStep.items]
    induction order generalizing b with
    | nil => rfl
    | cons i order ih =>
      rw [List.foldl_cons, List.flatMap_cons, write_append, ih, MovementInfo.guidByteItems]
      by_cases h : guids k i = 0
      · simp [h, write]
      · simp [h, write, writeItem]

theorem write_guidSteps (guids : Fin n → ObjectGuid) (steps : List (GuidStep n)) (b : ByteBuffer) :
    steps.foldl (writeGuidStep guids) b = b.write (steps.flatMap (GuidStep.items guids)) := by
  induction steps generalizing b with
  | nil => rfl
  | cons step steps ih => rw [List.foldl_cons, List.flatMap_cons, write_append, ih, write_guidStep]

def guidPacket (guids : Fin n → ObjectGuid) (groups : List (List (GuidStep n))) : List UInt8 :=
  groups.flatMap fun group => layOut [] (group.flatMap (GuidStep.items guids))

theorem Holds.exists_write {bytes : List UInt8} {pending : List Bool} (h : b.Holds bytes pending)
    (items : List StreamItem) : ∃ bytes' pending', (b.write items).Holds bytes' pending' := by
  induction items generalizing b bytes pending with
  | nil => exact ⟨bytes, pending, h⟩
  | cons item items ih =>
    cases item with
    | bit bit =>
      have hbit := h.writeBit bit
      split at hbit
      · exact ih hbit
      · exact ih hbit
    | byte value => exact ih (h.append value)

theorem storage_writeGuidGroups (guids : Fin n → ObjectGuid) (groups : List (List (GuidStep n)))
    {bytes : List UInt8} (h : b.Holds bytes []) :
    (b.writeGuidGroups guids groups).storage = bytes ++ guidPacket guids groups := by
  induction groups generalizing b bytes with
  | nil => exact h.storage.trans (List.append_nil bytes).symm
  | cons group groups ih =>
    have hgroup := h.write (group.flatMap (GuidStep.items guids))
    rw [← write_guidSteps] at hgroup
    have hnext : (group.foldl (writeGuidStep guids) b).flushBits.Holds
        (bytes ++ layOut [] (group.flatMap (GuidStep.items guids))) [] := by
      obtain ⟨bytes', pending', hwritten⟩ := h.exists_write (group.flatMap (GuidStep.items guids))
      rw [← write_guidSteps] at hwritten
      rw [← hgroup, hwritten.flushBits.storage]
      exact hwritten.flushBits
    exact (ih hnext).trans (by simp [guidPacket])

theorem rpos_writeGuidGroups (guids : Fin n → ObjectGuid) (groups : List (List (GuidStep n)))
    (b : ByteBuffer) : (b.writeGuidGroups guids groups).rpos = b.rpos := by
  induction groups generalizing b with
  | nil => rfl
  | cons group groups ih =>
    apply (ih _).trans
    rw [rpos_flushBits, write_guidSteps, rpos_write]

theorem bitpos_writeGuidGroups (guids : Fin n → ObjectGuid) (groups : List (List (GuidStep n)))
    (h : b.bitpos = 8) : (b.writeGuidGroups guids groups).bitpos = 8 := by
  induction groups generalizing b with
  | nil => exact h
  | cons group groups ih => exact ih (bitpos_flushBits _)

theorem Reads.readGuidMask {guid : ObjectGuid} {bits bytes : Fin 8 → Bool} {order : List (Fin 8)}
    (hbytes : ∀ i ∈ order, bytes i = false) (h : b.Reads whole (order.map (fun i => .bit (guid i ≠ 0)) ++ items)) :
    ∃ b', readGuidMask order (guidAfter guid bits bytes) b =
      some (guidAfter guid (fun i => decide (i ∈ order) || bits i) bytes, b') ∧ b'.Reads whole items := by
  induction order generalizing bits b with
  | nil => exact ⟨b, by simp [ByteBuffer.readGuidMask], h⟩
  | cons i order ih =>
    obtain ⟨b₁, hbit, h₁⟩ := h.readBit
    obtain ⟨b₂, hrest, h₂⟩ := @ih b₁ (fun j => decide (j = i) || bits j)
      (fun j hj => hbytes j (List.mem_cons_of_mem i hj)) h₁
    refine ⟨b₂, ?_, h₂⟩
    rw [ByteBuffer.readGuidMask, hbit, Option.bind_some, guidAfter_bit (hbytes i List.mem_cons_self), hrest]
    congr 3
    funext j
    by_cases hj : j = i
    · simp [hj]
    · simp [hj]

theorem Reads.readGuidBytes {guid : ObjectGuid} {bits bytes : Fin 8 → Bool} {order : List (Fin 8)}
    (hnodup : order.Nodup) (hbits : ∀ i ∈ order, bits i = true) (hbytes : ∀ i ∈ order, bytes i = false)
    (h : b.Reads whole (order.flatMap (fun i => MovementInfo.guidByteItems (guid i)) ++ items)) :
    ∃ b', readGuidBytes order (guidAfter guid bits bytes) b =
      some (guidAfter guid bits fun i => decide (i ∈ order) || bytes i, b') ∧ b'.Reads whole items := by
  induction order generalizing bytes b with
  | nil => exact ⟨b, by simp [ByteBuffer.readGuidBytes], h⟩
  | cons i order ih =>
    have hmask : guidAfter guid bits bytes i = (decide (guid i ≠ 0)).toUInt8 := by
      simp [guidAfter, hbits i List.mem_cons_self, hbytes i List.mem_cons_self]
    have hnext (j : Fin 8) (hj : j ∈ order) : (decide (j = i) || bytes j) = false := by
      have hne : j ≠ i := fun heq => (List.nodup_cons.mp hnodup).1 (heq ▸ hj)
      simp [hne, hbytes j (List.mem_cons_of_mem i hj)]
    have hmore : (fun j => decide (j ∈ order) || (decide (j = i) || bytes j)) =
        fun j => decide (j ∈ i :: order) || bytes j := by
      funext j
      by_cases hj : j = i
      · simp [hj]
      · simp [hj]
    have hnodup' := (List.nodup_cons.mp hnodup).2
    have hbits' (j : Fin 8) (hj : j ∈ order) : bits j = true := hbits j (List.mem_cons_of_mem i hj)
    rw [List.flatMap_cons, List.append_assoc, MovementInfo.guidByteItems] at h
    rw [ByteBuffer.readGuidBytes, hmask]
    by_cases hzero : guid i = 0
    · have hsame : guidAfter guid bits (fun j => decide (j = i) || bytes j) = guidAfter guid bits bytes :=
        guidAfter_byte_zero hzero
      have hno : ¬ (decide (guid i ≠ 0)).toUInt8 ≠ 0 := by
        rw [decide_eq_false (not_not.mpr hzero)]
        decide
      rw [if_neg (not_not.mpr hzero), List.nil_append] at h
      rw [if_neg hno, ← hsame, ← hmore]
      exact ih hnodup' hbits' hnext h
    · have hyes : (decide (guid i ≠ 0)).toUInt8 ≠ 0 := by
        rw [decide_eq_true hzero]
        decide
      rw [if_pos hzero] at h
      obtain ⟨b₁, hread, h₁⟩ := Reads.readUInt8 h
      obtain ⟨b₂, hrest, h₂⟩ := ih hnodup' hbits' hnext h₁
      refine ⟨b₂, ?_, h₂⟩
      rw [if_pos hyes, hread, Option.bind_some, toUInt8_xor hzero, guidAfter_byte, hrest, hmore]

theorem Reads.readGuidStep {guids : Fin n → ObjectGuid} {step : GuidStep n} {steps : List (GuidStep n)}
    (hawaited : Awaited (step :: steps)) (h : b.Reads whole (step.items guids ++ items)) :
    ∃ b', readGuidStep (partly guids (step :: steps)) b step = some (partly guids steps, b') ∧
      b'.Reads whole items := by
  cases step with
  | mask k order =>
    have hbytes (i : Fin 8) (hi : i ∈ order) : decide (i ∉ byteOrder k (.mask k order :: steps)) = false :=
      decide_eq_false (not_not.mpr (hawaited.not_mem_mask hi).1)
    obtain ⟨b', hread, hrest⟩ := @Reads.readGuidMask b whole items (guids k)
      (fun i => i ∉ maskOrder k (.mask k order :: steps)) _ order hbytes h
    refine ⟨b', ?_, hrest⟩
    rw [ByteBuffer.readGuidStep, partly, hread, Option.map_some]
    exact congrArg (fun r => some (r, b')) (partly_mask hawaited)
  | bytes k order =>
    have hnomask : maskOrder k (.bytes k order :: steps) = [] := hawaited.masksFirst.1
    have hbits (i : Fin 8) (_ : i ∈ order) : decide (i ∉ maskOrder k (.bytes k order :: steps)) = true := by
      rw [hnomask]
      exact decide_eq_true (List.not_mem_nil)
    have hbytes (i : Fin 8) (hi : i ∈ order) :
        decide (i ∉ byteOrder k (.bytes k order :: steps)) = false := by
      rw [byteOrder, if_pos rfl]
      exact decide_eq_false (not_not.mpr (List.mem_append_left _ hi))
    obtain ⟨b', hread, hrest⟩ := Reads.readGuidBytes hawaited.nodup hbits hbytes h
    refine ⟨b', ?_, hrest⟩
    rw [ByteBuffer.readGuidStep, partly, hread, Option.map_some]
    exact congrArg (fun r => some (r, b')) (partly_bytes hawaited)

theorem Reads.readGuidSteps {guids : Fin n → ObjectGuid} {steps rest : List (GuidStep n)}
    (hawaited : Awaited (steps ++ rest)) (h : b.Reads whole (steps.flatMap (GuidStep.items guids) ++ items)) :
    ∃ b', readGuidSteps steps (partly guids (steps ++ rest)) b = some (partly guids rest, b') ∧
      b'.Reads whole items := by
  induction steps generalizing b with
  | nil => exact ⟨b, rfl, h⟩
  | cons step steps ih =>
    rw [List.flatMap_cons, List.append_assoc] at h
    rw [List.cons_append] at hawaited ⊢
    obtain ⟨b₁, hfirst, h₁⟩ := h.readGuidStep hawaited
    obtain ⟨b₂, hrest, h₂⟩ := ih hawaited.tail h₁
    refine ⟨b₂, ?_, h₂⟩
    rw [ByteBuffer.readGuidSteps, hfirst, Option.bind_some, hrest]

def extend (b : ByteBuffer) (more : List UInt8) : ByteBuffer := { b with storage := b.storage ++ more }

def Extends {α : Type} (f : ByteBuffer → Option (α × ByteBuffer)) : Prop :=
  ∀ ⦃b value b'⦄ (more : List UInt8), f b = some (value, b') → f (b.extend more) = some (value, b'.extend more)

section Extends

variable {α β : Type} {f : ByteBuffer → Option (α × ByteBuffer)}

theorem extends_some (value : α) : Extends fun b => some (value, b) := by
  intro b value' b' more h
  rw [Option.some.injEq, Prod.mk.injEq] at h
  rw [h.1, h.2]

theorem Extends.bind (hf : Extends f) {g : α → ByteBuffer → Option (β × ByteBuffer)}
    (hg : ∀ value, Extends (g value)) : Extends fun b => (f b).bind fun p => g p.1 p.2 := by
  intro b value b' more h
  obtain ⟨p, hp, hrest⟩ := Option.bind_eq_some_iff.mp h
  have hfirst := hf more hp
  dsimp only
  rw [hfirst, Option.bind_some]
  exact hg p.1 more hrest

theorem Extends.map (hf : Extends f) (g : α → β) : Extends fun b => (f b).map fun p => (g p.1, p.2) := by
  intro b value b' more h
  obtain ⟨p, hp, hrest⟩ := Option.map_eq_some_iff.mp h
  rw [Prod.mk.injEq] at hrest
  dsimp only
  rw [hf more hp, Option.map_some, hrest.1, hrest.2]

end Extends

theorem extends_readUInt8 : Extends readUInt8 := by
  intro b value b' more h
  rw [readUInt8, read] at h ⊢
  split at h
  next hfits =>
    have hmore : b.rpos + 1 ≤ (b.storage ++ more).length := by
      rw [List.length_append]
      omega
    rw [Option.map_some, Option.some.injEq, Prod.mk.injEq] at h
    have htake : ((b.storage ++ more).drop b.rpos).take 1 = (b.storage.drop b.rpos).take 1 := by
      rw [List.drop_append_of_le_length (by omega), List.take_append_of_le_length]
      rw [List.length_drop]
      omega
    rw [extend, if_pos hmore, htake, Option.map_some, Option.some.injEq, Prod.mk.injEq, ← h.1, ← h.2]
    exact ⟨rfl, rfl⟩
  next => simp at h

theorem extends_readBit : Extends readBit := by
  intro b value b' more h
  rw [readBit] at h ⊢
  split at h
  next hfull =>
    obtain ⟨p, hp, hrest⟩ := Option.map_eq_some_iff.mp h
    rw [Prod.mk.injEq] at hrest
    rw [if_pos (by exact hfull), extends_readUInt8 more hp, Option.map_some, ← hrest.1, ← hrest.2]
    rfl
  next hfull =>
    rw [Option.some.injEq, Prod.mk.injEq] at h
    rw [if_neg (by exact hfull), ← h.1, ← h.2]
    rfl

theorem extends_readGuidMask (order : List (Fin 8)) (guid : ObjectGuid) : Extends (readGuidMask order guid) := by
  induction order generalizing guid with
  | nil => exact extends_some guid
  | cons i order ih => exact extends_readBit.bind fun bit => ih (Function.update guid i bit.toUInt8)

theorem extends_readGuidBytes (order : List (Fin 8)) (guid : ObjectGuid) : Extends (readGuidBytes order guid) := by
  induction order generalizing guid with
  | nil => exact extends_some guid
  | cons i order ih =>
    by_cases h : guid i ≠ 0
    · have hread := extends_readUInt8.bind fun byte => ih (Function.update guid i (guid i ^^^ byte))
      intro b value b' more heq
      rw [readGuidBytes, if_pos h] at heq ⊢
      exact hread more heq
    · intro b value b' more heq
      rw [readGuidBytes, if_neg h] at heq ⊢
      exact ih guid more heq

theorem extends_readGuidSteps (steps : List (GuidStep n)) (guids : Fin n → ObjectGuid) :
    Extends (readGuidSteps steps guids) := by
  induction steps generalizing guids with
  | nil => exact extends_some guids
  | cons step steps ih =>
    have hstep : Extends fun b => readGuidStep guids b step := by
      cases step with
      | mask k order => exact (extends_readGuidMask order (guids k)).map (Function.update guids k)
      | bytes k order => exact (extends_readGuidBytes order (guids k)).map (Function.update guids k)
    exact hstep.bind ih

theorem readGuidSteps_eq {guids : Fin n → ObjectGuid} {steps rest : List (GuidStep n)}
    (hawaited : Awaited (steps ++ rest)) {before more : List UInt8}
    (hstorage : b.storage = before ++ (layOut [] (steps.flatMap (GuidStep.items guids)) ++ more))
    (hrpos : b.rpos = before.length) (hbitpos : 7 ≤ b.bitpos) :
    ∃ b', readGuidSteps steps (partly guids (steps ++ rest)) b = some (partly guids rest, b') ∧
      b'.storage = b.storage ∧ b'.rpos = (before ++ layOut [] (steps.flatMap (GuidStep.items guids))).length := by
  let b₀ : ByteBuffer := { b with storage := before ++ layOut [] (steps.flatMap (GuidStep.items guids)) }
  have hreads : b₀.Reads b₀.storage (steps.flatMap (GuidStep.items guids) ++ []) := by
    refine ⟨[], rfl, ?_, by simp, fun _ => ⟨hbitpos, ?_⟩, fun hnil => absurd rfl hnil⟩
    · rw [List.length_append]
      exact hrpos.le.trans (Nat.le_add_right _ _)
    · have hdrop : b₀.storage.drop b₀.rpos = layOut [] (steps.flatMap (GuidStep.items guids)) := by
        have hleft := @List.drop_left _ before (layOut [] (steps.flatMap (GuidStep.items guids)))
        rwa [← hrpos] at hleft
      rw [hdrop, List.append_nil]
  obtain ⟨b₁, hread, hend⟩ := hreads.readGuidSteps hawaited
  have hextend : b₀.extend more = b := by
    rw [extend, List.append_assoc, ← hstorage]
  refine ⟨b₁.extend more, ?_, ?_, hend.rpos_eq⟩
  · rw [← hextend]
    exact extends_readGuidSteps steps _ more hread
  · obtain ⟨pending, hfrom⟩ := hend
    rw [extend, hfrom.storage, hstorage, List.append_assoc]

theorem readGuidGroups_eq {guids : Fin n → ObjectGuid} {groups : List (List (GuidStep n))}
    (hawaited : Awaited groups.flatten) {before : List UInt8} (hstorage : b.storage = before ++ guidPacket guids groups)
    (hrpos : b.rpos = before.length) (hbitpos : 7 ≤ b.bitpos) :
    ∃ b', readGuidGroups resetBitReader groups (partly guids groups.flatten) b = some (guids, b') ∧
      b'.rpos = b.storage.length := by
  induction groups generalizing b before with
  | nil =>
    refine ⟨b, congrArg (fun r => some (r, b)) (partly_nil guids), ?_⟩
    rw [hstorage, hrpos]
    simp [guidPacket]
  | cons group groups ih =>
    rw [List.flatten_cons] at hawaited ⊢
    rw [guidPacket, List.flatMap_cons] at hstorage
    obtain ⟨b₁, hgroup, hsame, hnext⟩ := readGuidSteps_eq hawaited hstorage hrpos hbitpos
    have hrest : b₁.resetBitReader.storage =
        before ++ layOut [] (group.flatMap (GuidStep.items guids)) ++ guidPacket guids groups := by
      rw [List.append_assoc]
      exact hsame.trans hstorage
    obtain ⟨b₂, hread, hend⟩ := ih (hawaited.drop group) hrest hnext (by decide : 7 ≤ 8)
    refine ⟨b₂, ?_, hend.trans (congrArg List.length hsame)⟩
    rw [readGuidGroups, hgroup, Option.bind_some, hread]

theorem readGuidBytes_reset (order : List (Fin 8)) (guid : ObjectGuid) (b : ByteBuffer) :
    readGuidBytes order guid b.resetBitReader =
      (readGuidBytes order guid b).map fun p => (p.1, p.2.resetBitReader) := by
  induction order generalizing guid b with
  | nil => rfl
  | cons i order ih =>
    rw [readGuidBytes, readGuidBytes]
    by_cases h : guid i ≠ 0
    · have hread : b.resetBitReader.readUInt8 = b.readUInt8 := rfl
      rw [if_pos h, if_pos h, hread]
      cases hbyte : b.readUInt8 with
      | none => rfl
      | some p =>
        have hreset : p.2.resetBitReader = p.2 := by
          obtain ⟨q, hq, hp⟩ := Option.map_eq_some_iff.mp hbyte
          rw [read] at hq
          split at hq
          · rw [← hp, ← Option.some.inj hq]
            rfl
          · simp at hq
        exact (congrArg (readGuidBytes order _) hreset).symm.trans (ih _ p.2)
    · rw [if_neg h, if_neg h]
      exact ih guid b

theorem readGuidSteps_reset {steps : List (GuidStep n)} (h : ∀ step ∈ steps, step.isMask = false)
    (guids : Fin n → ObjectGuid) (b : ByteBuffer) : readGuidSteps steps guids b.resetBitReader =
      (readGuidSteps steps guids b).map fun p => (p.1, p.2.resetBitReader) := by
  induction steps generalizing guids b with
  | nil => rfl
  | cons step steps ih =>
    rw [List.forall_mem_cons] at h
    cases step with
    | mask k order => exact absurd h.1 (by simp [isMask])
    | bytes k order =>
      rw [readGuidSteps, readGuidSteps, readGuidStep, readGuidStep, readGuidBytes_reset]
      cases readGuidBytes order (guids k) b with
      | none => rfl
      | some p => exact ih h.2 (Function.update guids k p.1) p.2

theorem readGuidGroups_reset {groups : List (List (GuidStep n))}
    (h : ∀ group ∈ groups, ∀ step ∈ group, step.isMask = false) (guids : Fin n → ObjectGuid)
    (b : ByteBuffer) : (readGuidGroups resetBitReader groups guids b.resetBitReader).map Prod.fst =
      (readGuidGroups id groups guids b).map Prod.fst := by
  induction groups generalizing guids b with
  | nil => rfl
  | cons group groups ih =>
    rw [List.forall_mem_cons] at h
    rw [readGuidGroups, readGuidGroups, readGuidSteps_reset h.1]
    cases readGuidSteps group guids b with
    | none => rfl
    | some p => exact ih h.2 p.1 p.2

theorem readGuids_reset {groups : List (List (GuidStep n))}
    (h : ∀ group ∈ groups.tail, ∀ step ∈ group, step.isMask = false) (b : ByteBuffer) :
    readGuids resetBitReader groups b = readGuids id groups b := by
  cases groups with
  | nil => rfl
  | cons group groups =>
    rw [readGuids, readGuids, readGuidGroups, readGuidGroups]
    cases readGuidSteps group (fun _ => ObjectGuid.empty) b with
    | none => rfl
    | some p => exact readGuidGroups_reset h p.1 p.2

/-- Every guid is read back by a reader that starts a byte where the bits were flushed; where no mask
follows a flush it need not. -/
theorem guids_roundTrip (guids : Fin n → ObjectGuid) (groups : List (List (GuidStep n)))
    (hcovers : GuidStep.Covers groups.flatten) (hfirst : MasksFirst groups.flatten) :
    readGuids resetBitReader groups (empty.writeGuidGroups guids groups) = some guids ∧
      ((∀ group ∈ groups.tail, ∀ step ∈ group, step.isMask = false) →
        readGuids id groups (empty.writeGuidGroups guids groups) = some guids) := by
  have hstorage : (empty.writeGuidGroups guids groups).storage = [] ++ guidPacket guids groups :=
    storage_writeGuidGroups guids groups (holds_ofStorage [])
  have hread : readGuids resetBitReader groups (empty.writeGuidGroups guids groups) = some guids := by
    obtain ⟨b', hgroups, -⟩ := readGuidGroups_eq (hcovers.awaited hfirst) hstorage
      (rpos_writeGuidGroups guids groups empty) (by rw [bitpos_writeGuidGroups guids groups rfl]; decide)
    rw [hcovers.partly] at hgroups
    rw [readGuids, hgroups, Option.map_some]
  exact ⟨hread, fun htail => (readGuids_reset htail _).symm.trans hread⟩

/-- Two guids: the bits of one around those of the other, and the bytes the other way round. -/
def mixedGroups : List (List (GuidStep 2)) :=
  [[.mask 0 ((List.finRange 8).take 3), .mask 1 (List.finRange 8).reverse, .mask 0 ((List.finRange 8).drop 3)],
    [.bytes 1 ((List.finRange 8).filter (·.val % 2 = 0)), .bytes 0 (List.finRange 8),
      .bytes 1 ((List.finRange 8).filter (·.val % 2 = 1))]]

theorem guids_roundTrip_mixed : readGuids resetBitReader mixedGroups
        (empty.writeGuidGroups (fun _ i => if i = 0 then 1 else 0) mixedGroups) =
      some (fun _ i => if i = 0 then 1 else 0) ∧
        ((∀ group ∈ mixedGroups.tail, ∀ step ∈ group, step.isMask = false) → readGuids id mixedGroups
            (empty.writeGuidGroups (fun _ i => if i = 0 then 1 else 0) mixedGroups) =
              some (fun _ i => if i = 0 then 1 else 0)) :=
  guids_roundTrip _ mixedGroups (by decide) (by decide)

end ByteBuffer

end Mangos
