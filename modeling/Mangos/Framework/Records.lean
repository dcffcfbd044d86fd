import Mathlib.Data.List.Basic
import Mathlib.Data.List.Infix

/-!
# Streams that come in chunks

A handler of chunks leaves what it left when all came at once, and a stream of records is taken apart into them.
-/

namespace Framework

variable {State α : Type*} {feed : State → α → State} {receive : State → List α → State}
  {Inv : State → Prop}

theorem foldl_feed_invariant (hfeed : ∀ s a, Inv s → Inv (feed s a)) {s : State} (hs : Inv s)
    (as : List α) : Inv (as.foldl feed s) := by
  induction as generalizing s with
  | nil => exact hs
  | cons a as ih => exact ih (hfeed s a hs)

theorem foldl_receive_eq (hfeed : ∀ s a, Inv s → Inv (feed s a))
    (hreceive : ∀ s as, Inv s → receive s as = as.foldl feed s) {s : State} (hs : Inv s)
    (chunks : List (List α)) : chunks.foldl receive s = receive s chunks.flatten := by
  rw [hreceive s _ hs]
  induction chunks generalizing s with
  | nil => rfl
  | cons chunk chunks ih =>
    have hnext : Inv (chunk.foldl feed s) := foldl_feed_invariant hfeed hs chunk
    rw [List.foldl_cons, hreceive s chunk hs, ih hnext, List.flatten_cons, List.foldl_append]

/-!
## Streams of records

What has arrived of a stream of records is some records and a part of the next one.
-/

variable {α : Type*} {records done rest : List (List α)} {bytes tail : List α}

def PartOfFirst : List (List α) → List α → Prop
  | [], tail => tail = []
  | record :: _, tail => tail <+: record ∧ tail.length < record.length

theorem exists_cut (h : bytes <+: records.flatten) :
    ∃ done rest tail, records = done ++ rest ∧ bytes = done.flatten ++ tail ∧ PartOfFirst rest tail := by
  induction records generalizing bytes with
  | nil => exact ⟨[], [], [], rfl, List.prefix_nil.mp h, rfl⟩
  | cons record records ih =>
    rw [List.flatten_cons] at h
    by_cases hlength : bytes.length < record.length
    · have hpart : bytes <+: record :=
        List.prefix_of_prefix_length_le h (List.prefix_append _ _) hlength.le
      exact ⟨[], record :: records, bytes, rfl, rfl, hpart, hlength⟩
    · have hwhole : record <+: bytes :=
        List.prefix_of_prefix_length_le (List.prefix_append _ _) h (Nat.not_lt.mp hlength)
      obtain ⟨bytes', rfl⟩ := hwhole
      obtain ⟨done, rest, tail, hrecords, hbytes, hpart⟩ :=
        ih ((List.prefix_append_right_inj record).mp h)
      exact ⟨record :: done, rest, tail, by rw [hrecords]; rfl,
        by rw [hbytes, List.flatten_cons, List.append_assoc], hpart⟩

def AtBorder (records : List (List α)) (bytes rest : List α) : Prop :=
  ∃ done, done <+: records ∧ bytes = done.flatten ++ rest

theorem length_flatten_le_of_prefix {done done' : List (List α)} (h : done <+: done') :
    done.flatten.length ≤ done'.flatten.length := by
  obtain ⟨more, rfl⟩ := h
  rw [List.flatten_append, List.length_append]
  exact Nat.le_add_right _ _

theorem not_atBorder_drop {record : List α} (hrecords : records = done ++ record :: rest)
    (hbytes : bytes = done.flatten ++ tail) (htail : tail.length < record.length) {k : Nat}
    (hpos : 0 < k) (hk : k ≤ tail.length) : ¬ AtBorder records bytes (tail.drop k) := by
  rintro ⟨done', hstart, hborder⟩
  have hlength : done'.flatten.length = done.flatten.length + k := by
    have hsame := congrArg List.length (hbytes.symm.trans hborder)
    rw [List.length_append, List.length_append, List.length_drop] at hsame
    omega
  have hdone : done <+: records := ⟨record :: rest, hrecords.symm⟩
  rcases List.prefix_or_prefix_of_prefix hdone hstart with hlonger | hshorter
  · obtain ⟨more, rfl⟩ := hlonger
    cases more with
    | nil =>
      rw [List.append_nil] at hlength
      omega
    | cons first more =>
      rw [hrecords, List.prefix_append_right_inj] at hstart
      obtain ⟨rfl, -⟩ := List.cons_prefix_cons.mp hstart
      rw [List.flatten_append, List.flatten_cons, List.length_append, List.length_append] at hlength
      omega
  · have hle := length_flatten_le_of_prefix hshorter
    omega

theorem cut_unique {record : List α} {done' rest' : List (List α)} (hrecords : records = done ++ rest)
    (hpart : PartOfFirst rest tail) (hrecords' : records = done' ++ record :: rest')
    (hge : done'.flatten.length ≤ done.flatten.length + tail.length)
    (hlt : done.flatten.length + tail.length < done'.flatten.length + record.length) :
    done' = done ∧ rest = record :: rest' := by
  have hdone : done <+: records := ⟨rest, hrecords.symm⟩
  have hdone' : done' <+: records := ⟨record :: rest', hrecords'.symm⟩
  rcases List.prefix_or_prefix_of_prefix hdone hdone' with hlonger | hshorter
  · obtain ⟨more, rfl⟩ := hlonger
    rw [hrecords, List.append_assoc, List.append_cancel_left_eq] at hrecords'
    cases more with
    | nil => exact ⟨List.append_nil _, hrecords'⟩
    | cons first more =>
      rw [hrecords'] at hpart
      have hshort : tail.length < first.length := hpart.2
      rw [List.flatten_append, List.flatten_cons, List.length_append, List.length_append] at hge
      omega
  · obtain ⟨more, rfl⟩ := hshorter
    rw [hrecords', List.append_assoc, List.append_cancel_left_eq] at hrecords
    cases more with
    | nil => exact ⟨(List.append_nil _).symm, hrecords.symm⟩
    | cons first more =>
      obtain ⟨rfl, -⟩ := List.cons.inj hrecords
      rw [List.flatten_append, List.flatten_cons, List.length_append, List.length_append] at hlt
      omega

theorem cut_all (hrecords : records = done ++ rest) (hbytes : records.flatten = done.flatten ++ tail)
    (hpart : PartOfFirst rest tail) : rest = [] ∧ tail = [] := by
  cases rest with
  | nil => exact ⟨rfl, hpart⟩
  | cons record rest =>
    rw [hrecords, List.flatten_append, List.append_cancel_left_eq] at hbytes
    have hshort : tail.length < record.length := hpart.2
    rw [← hbytes, List.flatten_cons, List.length_append] at hshort
    omega

end Framework
