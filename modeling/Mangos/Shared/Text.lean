import Mathlib.Algebra.GroupWithZero.Nat
import Mathlib.Data.List.Basic

/-!
# Conversion of texts

A valid UTF-8 string is the list of its characters.
-/

namespace Mangos

def overwrite {α : Type} (buffer elements : List α) : Option (List α) :=
  if elements.length ≤ buffer.length then some (elements ++ buffer.drop elements.length) else none

def byteLength (text : List Char) : Nat := (text.map Char.utf8Size).sum

def isLeadSurrogate (u : Nat) : Bool := 0xD800 ≤ u && u ≤ 0xDBFF

def isTrailSurrogate (u : Nat) : Bool := 0xDC00 ≤ u && u ≤ 0xDFFF

def utf16Units (c : Char) : List Nat :=
  if 0xFFFF < c.toNat then [c.toNat / 0x400 + 0xD7C0, c.toNat % 0x400 + 0xDC00] else [c.toNat]

def utf8to16 (text : List Char) : List Nat := text.flatMap utf16Units

def mask16 (u : Nat) : Nat := u % 0x10000

def utf16to8 : List Nat → List Char × Bool
  | [] => ([], true)
  | [u] =>
    if isLeadSurrogate (mask16 u) || isTrailSurrogate (mask16 u) then ([], false)
    else ([Char.ofNat (mask16 u)], true)
  | u :: t :: units =>
    if isLeadSurrogate (mask16 u) then
      if isTrailSurrogate (mask16 t) then
        (Char.ofNat ((mask16 u - 0xD800) * 0x400 + (mask16 t - 0xDC00) + 0x10000) :: (utf16to8 units).1,
          (utf16to8 units).2)
      else ([], false)
    else if isTrailSurrogate (mask16 u) then ([], false)
    else (Char.ofNat (mask16 u) :: (utf16to8 (t :: units)).1, (utf16to8 (t :: units)).2)

def writtenText (room : Nat) (written : List Char × Bool) : Option (List Char) :=
  if byteLength written.1 ≤ room then some (if written.2 then written.1 else []) else none

def utf8truncate (text : List Char) (len : Nat) : Option (List Char) :=
  if text.length ≤ len then some text
  else (overwrite (List.replicate text.length 0) (utf8to16 text)).bind fun wstr =>
    writtenText (byteLength text) (utf16to8 (wstr.take len))

/-- `Utf8toWStr` into a string of its own. -/
def utf8toWStr (text : List Char) : Option (List Nat) :=
  overwrite (List.replicate text.length 0) (utf8to16 text)

/-- The result of `Utf8toWStr`, the size it reports and the buffer. -/
structure WideBuffer where
  ok : Bool
  wsize : Nat
  elements : List Nat

/-- `Utf8toWStr` into a given buffer. -/
def utf8toWStrBuffer (text : List Char) (wsize : Nat) (buffer : List Nat) : Option WideBuffer :=
  if wsize < text.length then
    (if 0 < wsize then overwrite buffer [0] else some buffer).map fun buffer => ⟨false, 0, buffer⟩
  else (overwrite buffer (utf8to16 text)).bind fun buffer =>
    if text.length < buffer.length then some ⟨true, text.length, buffer.set text.length 0⟩ else none

def wStrToUtf8 (wstr : List Nat) : Option (List Char) :=
  writtenText (wstr.length * 4) (utf16to8 wstr)

theorem toNat_cases (c : Char) : c.toNat < 0xD800 ∨ 0xDFFF < c.toNat ∧ c.toNat < 0x110000 := c.valid

theorem utf16to8_units (c : Char) (units : List Nat) :
    utf16to8 (utf16Units c ++ units) = (c :: (utf16to8 units).1, (utf16to8 units).2) := by
  have hvalid := toNat_cases c
  rw [utf16Units]
  split
  next hpair =>
    have hlead : mask16 (c.toNat / 0x400 + 0xD7C0) = c.toNat / 0x400 + 0xD7C0 := by
      rw [mask16]
      omega
    have htrail : mask16 (c.toNat % 0x400 + 0xDC00) = c.toNat % 0x400 + 0xDC00 := by
      rw [mask16]
      omega
    have hisLead : isLeadSurrogate (c.toNat / 0x400 + 0xD7C0) := by
      simp [isLeadSurrogate]
      omega
    have hisTrail : isTrailSurrogate (c.toNat % 0x400 + 0xDC00) := by
      simp [isTrailSurrogate]
      omega
    have hback : (c.toNat / 0x400 + 0xD7C0 - 0xD800) * 0x400 + (c.toNat % 0x400 + 0xDC00 - 0xDC00) + 0x10000 =
        c.toNat := by
      omega
    rw [List.cons_append, List.cons_append, List.nil_append, utf16to8, hlead, htrail, if_pos hisLead,
      if_pos hisTrail, hback, Char.ofNat_toNat]
  next hbasic =>
    have hmask : mask16 c.toNat = c.toNat := by
      rw [mask16]
      omega
    have hnotLead : isLeadSurrogate c.toNat = false := by
      simp [isLeadSurrogate]
      omega
    have hnotTrail : isTrailSurrogate c.toNat = false := by
      simp [isTrailSurrogate]
      omega
    cases units with
    | nil => simp [utf16to8, hmask, hnotLead, hnotTrail]
    | cons t units => simp [utf16to8, hmask, hnotLead, hnotTrail]

theorem utf16to8_utf8to16 (text : List Char) : utf16to8 (utf8to16 text) = (text, true) := by
  induction text with
  | nil => rfl
  | cons c text ih =>
    rw [utf8to16, List.flatMap_cons, utf16to8_units, ← utf8to16, ih]

/-- No character of the text is beyond the basic plane. -/
def BasicText (text : List Char) : Prop := ∀ c ∈ text, c.toNat ≤ 0xFFFF

theorem BasicText.utf8to16 {text : List Char} (h : BasicText text) : utf8to16 text = text.map Char.toNat := by
  induction text with
  | nil => rfl
  | cons c text ih =>
    have hc : ¬ 0xFFFF < c.toNat := Nat.not_lt.mpr (h c List.mem_cons_self)
    rw [Mangos.utf8to16, List.flatMap_cons, utf16Units, if_neg hc, ← Mangos.utf8to16,
      ih fun c hc => h c (List.mem_cons_of_mem _ hc)]
    rfl

theorem length_utf8to16 (text : List Char) : (utf8to16 text).length = text.length + text.countP (0xFFFF < ·.toNat) := by
  induction text with
  | nil => rfl
  | cons c text ih =>
    rw [utf8to16] at ih
    rw [utf8to16, List.flatMap_cons, List.length_append, ih, List.countP_cons, utf16Units]
    by_cases hc : 0xFFFF < c.toNat
    · simp [hc]
      omega
    · simp [hc]
      omega

theorem utf8toWStr_eq_none {text : List Char} (h : ¬ BasicText text) : utf8toWStr text = none := by
  have hpos : 0 < text.countP (0xFFFF < ·.toNat) := by
    rw [List.countP_pos_iff]
    simpa [BasicText] using h
  rw [utf8toWStr, overwrite, if_neg]
  rw [length_utf8to16, List.length_replicate]
  omega

theorem overwrite_exact {α : Type} {buffer elements : List α} (h : elements.length = buffer.length) :
    overwrite buffer elements = some elements := by
  simp [overwrite, h]

theorem byteLength_le (text : List Char) : byteLength text ≤ text.length * 4 := by
  induction text with
  | nil => exact Nat.le_refl _
  | cons c text ih =>
    have hc := Char.utf8Size_le_four c
    rw [byteLength] at ih
    rw [byteLength, List.map_cons, List.sum_cons, List.length_cons]
    omega

theorem byteLength_take_le (text : List Char) (len : Nat) : byteLength (text.take len) ≤ byteLength text := by
  have hsplit : byteLength text = byteLength (text.take len) + byteLength (text.drop len) := by
    rw [byteLength, byteLength, byteLength, ← List.sum_append, ← List.map_append, List.take_append_drop]
  omega

theorem writtenText_of_le {room : Nat} {text : List Char} (h : byteLength text ≤ room) :
    writtenText room (text, true) = some text := by
  simp [writtenText, h]

theorem wStrToUtf8_utf8to16 (text : List Char) : wStrToUtf8 (utf8to16 text) = some text := by
  rw [wStrToUtf8, utf16to8_utf8to16]
  apply writtenText_of_le
  have hbytes := byteLength_le text
  rw [length_utf8to16]
  omega

variable {text : List Char}

theorem BasicText.length (h : BasicText text) : (Mangos.utf8to16 text).length = text.length := by
  rw [h.utf8to16, List.length_map]

theorem BasicText.utf8toWStr (h : BasicText text) : utf8toWStr text = some (Mangos.utf8to16 text) :=
  overwrite_exact (by rw [h.length, List.length_replicate])

theorem BasicText.utf8truncate (h : BasicText text) (len : Nat) : utf8truncate text len = some (text.take len) := by
  rw [Mangos.utf8truncate]
  split
  next hfits => rw [List.take_of_length_le hfits]
  next =>
    have hprefix : BasicText (text.take len) := fun c hc => h c (List.mem_of_mem_take hc)
    have hunits : (Mangos.utf8to16 text).take len = Mangos.utf8to16 (text.take len) := by
      rw [h.utf8to16, hprefix.utf8to16, List.map_take]
    rw [overwrite_exact (by rw [h.length, List.length_replicate]), Option.bind_some, hunits, utf16to8_utf8to16]
    exact writtenText_of_le (byteLength_take_le text len)

theorem BasicText.utf8toWStrBuffer (h : BasicText text) {wsize : Nat} {buffer : List Nat}
    (hroom : text.length ≤ wsize) (hleft : text.length < buffer.length) :
    ∃ r, utf8toWStrBuffer text wsize buffer = some r ∧ r.wsize = text.length ∧
      r.elements.take text.length = Mangos.utf8to16 text := by
  have hfits : (Mangos.utf8to16 text).length ≤ buffer.length := by
    rw [h.length]
    omega
  rw [Mangos.utf8toWStrBuffer, if_neg (Nat.not_lt.mpr hroom), overwrite, if_pos hfits, Option.bind_some,
    if_pos (by rw [List.length_append, List.length_drop, h.length]; omega)]
  refine ⟨_, rfl, rfl, ?_⟩
  rw [List.take_set_of_le (Nat.le_refl _), List.take_append_of_le_length (Nat.le_of_eq h.length.symm), ← h.length,
    List.take_length]

/-- No element is written beyond a buffer, converted there and back the text is the same, and a truncated
text is the beginning of it. -/
structure ConvertedWell (text : List Char) (wsize : Nat) (buffer : List Nat) (limit : Nat) : Prop where
  wide : ∃ wstr, utf8toWStr text = some wstr ∧ wStrToUtf8 wstr = some text
  given : ∃ r, utf8toWStrBuffer text wsize buffer = some r ∧ (r.ok → wStrToUtf8 (r.elements.take r.wsize) = some text)
  truncated : ∃ kept, utf8truncate text limit = some kept ∧ kept <+: text ∧ kept.length ≤ limit

theorem utf8toWStrBuffer_full {buffer : List Nat} (h : text.length = buffer.length) :
    utf8toWStrBuffer text buffer.length buffer = none := by
  rw [utf8toWStrBuffer, if_neg (by omega)]
  cases hwritten : overwrite buffer (utf8to16 text) with
  | none => rfl
  | some wstr =>
    have hlength : wstr.length = buffer.length := by
      rw [overwrite] at hwritten
      split at hwritten
      next hfits =>
        cases hwritten
        rw [List.length_append, List.length_drop]
        omega
      next => cases hwritten
    rw [Option.bind_some, if_neg (by omega)]

/-- At most `wsize` elements are announced of a buffer. -/
theorem convertedWell_iff {wsize : Nat} {buffer : List Nat} (hsize : wsize ≤ buffer.length) (limit : Nat) :
    ConvertedWell text wsize buffer limit ↔ BasicText text ∧ (text.length = buffer.length → wsize < buffer.length) := by
  constructor
  · intro h
    have hbasic : BasicText text := by
      by_contra hnot
      obtain ⟨wstr, hwide, -⟩ := h.wide
      rw [utf8toWStr_eq_none hnot] at hwide
      cases hwide
    refine ⟨hbasic, fun hfull => ?_⟩
    by_contra hnot
    have hall : wsize = buffer.length := by omega
    obtain ⟨r, hgiven, -⟩ := h.given
    rw [hall, utf8toWStrBuffer_full hfull] at hgiven
    cases hgiven
  · rintro ⟨hbasic, hroom⟩
    refine ⟨⟨_, hbasic.utf8toWStr, wStrToUtf8_utf8to16 text⟩, ?_, ⟨_, hbasic.utf8truncate limit,
      List.take_prefix _ _, List.length_take_le _ _⟩⟩
    by_cases hlong : wsize < text.length
    · rw [utf8toWStrBuffer, if_pos hlong]
      by_cases hpos : 0 < wsize
      · have hfits : [0].length ≤ buffer.length := by
          rw [List.length_singleton]
          exact Nat.le_trans hpos hsize
        rw [if_pos hpos, overwrite, if_pos hfits]
        exact ⟨_, rfl, fun hok => absurd hok Bool.false_ne_true⟩
      · rw [if_neg hpos]
        exact ⟨_, rfl, fun hok => absurd hok Bool.false_ne_true⟩
    · obtain ⟨r, hgiven, hr, helements⟩ :=
        @BasicText.utf8toWStrBuffer text hbasic wsize buffer (Nat.le_of_not_lt hlong) (by omega)
      refine ⟨r, hgiven, fun _ => ?_⟩
      rw [hr, helements]
      exact wStrToUtf8_utf8to16 text

/-- A name of two letters. -/
theorem convertedWell_letters : ConvertedWell ['A', 'b'] 2 [0, 0, 0] 1 :=
  (convertedWell_iff (by decide) 1).mpr ⟨by simp [BasicText], by decide⟩

/-- A single character beyond the basic plane is written over the end. -/
theorem emoji_overruns : ¬ ConvertedWell [Char.ofNat 0x1F600] 1 [0, 0] 1 := by
  intro h
  obtain ⟨wstr, hwide, -⟩ := h.wide
  have hnone : utf8toWStr [Char.ofNat 0x1F600] = none := by decide
  rw [hnone] at hwide
  cases hwide

end Mangos
