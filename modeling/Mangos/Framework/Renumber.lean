import Mathlib.Data.Set.Image
import Mathlib.Order.Monotone.Basic
import Mathlib.Order.Nat
import Mathlib.Order.WellFounded
import Std.Data.ExtTreeMap

/-!
# Numbering the keys of a table anew

The keys of a table are given the numbers from some point on, in their order, by updates of one key at a
time.
-/

namespace Framework

open Std Set

/-- Where the update from `u.1` to `u.2` takes a key. -/
def moveKey (u : Nat × Nat) (k : Nat) : Nat := if k = u.1 then u.2 else k

def movedKey (us : List (Nat × Nat)) (k : Nat) : Nat := us.foldl (fun k u => moveKey u k) k

def NoClash : List (Nat × Nat) → Set Nat → Prop
  | [], _ => True
  | u :: us, keys => (u.1 ∈ keys → u.2 ∈ keys → u.1 = u.2) ∧ NoClash us (moveKey u '' keys)

/-- The updates that number the keys from `next` on. A key that has its number needs none. -/
def renumbering : (next : Nat) → List Nat → List (Nat × Nat)
  | _, [] => []
  | next, k :: ks =>
    if k = next then renumbering (next + 1) ks else (k, next) :: renumbering (next + 1) ks

/-- The key `k` and all from `j` up to it are in the list. -/
def InRun (j : Nat) (ks : List Nat) (k : Nat) : Prop := ∀ i, j ≤ i → i ≤ k → i ∈ ks

variable {next j : Nat} {ks : List Nat} {us : List (Nat × Nat)} {keys : Set Nat}

@[simp] theorem moveKey_old (u : Nat × Nat) : moveKey u u.1 = u.2 := if_pos rfl

theorem moveKey_of_ne {u : Nat × Nat} {k : Nat} (h : k ≠ u.1) : moveKey u k = k := if_neg h

@[simp] theorem movedKey_nil (k : Nat) : movedKey [] k = k := rfl

@[simp] theorem movedKey_cons (u : Nat × Nat) (us : List (Nat × Nat)) (k : Nat) :
    movedKey (u :: us) k = movedKey us (moveKey u k) := rfl

theorem movedKey_of_ne {k : Nat} (h : ∀ u ∈ us, k ≠ u.1) : movedKey us k = k := by
  induction us with
  | nil => rfl
  | cons u us ih =>
    rw [movedKey_cons, moveKey_of_ne (h u List.mem_cons_self)]
    exact ih fun u hu => h u (List.mem_cons_of_mem _ hu)

theorem old_mem_of_renumbering {u : Nat × Nat} (h : u ∈ renumbering next ks) : u.1 ∈ ks := by
  induction ks generalizing next with
  | nil => cases h
  | cons k ks ih =>
    rw [renumbering] at h
    split at h
    · exact List.mem_cons_of_mem k (ih h)
    · rcases List.mem_cons.mp h with rfl | hrest
      · exact List.mem_cons_self
      · exact List.mem_cons_of_mem k (ih hrest)

theorem movedKey_renumbering_of_notMem {k : Nat} (h : k ∉ ks) : movedKey (renumbering next ks) k = k :=
  movedKey_of_ne fun _ hu heq => h (heq ▸ old_mem_of_renumbering hu)

private theorem strictMonoOn_moveKey {k : Nat} (hhead : ∀ k' ∈ ks, k < k') (hlow : next ≤ k + 1)
    (hkeys : ∀ a ∈ keys, a < next ∨ a ∈ k :: ks) (hclash : k ∈ keys → next ∈ keys → k = next) :
    StrictMonoOn (moveKey (k, next)) keys := by
  intro a ha b hb hab
  by_cases hak : a = k
  · subst hak
    have hbk : b ≠ a := by omega
    rw [moveKey_of_ne (u := (a, next)) hbk, moveKey_old (a, next)]
    rcases hkeys b hb with hlt | hmem
    · omega
    · have hgt : a < b := hab
      by_contra hle
      obtain rfl : b = next := by omega
      exact hbk (hclash ha hb).symm
  · rw [moveKey_of_ne (u := (k, next)) hak]
    by_cases hbk : b = k
    · subst hbk
      rw [moveKey_old (b, next)]
      rcases hkeys a ha with hlt | hmem
      · exact hlt
      · rcases List.mem_cons.mp hmem with rfl | hrest
        · exact absurd rfl hak
        · exact absurd (hhead a hrest) (by omega)
    · rw [moveKey_of_ne (u := (k, next)) hbk]
      exact hab

private theorem image_subset {k : Nat} (hkeys : ∀ a ∈ keys, a < next ∨ a ∈ k :: ks) :
    ∀ a ∈ moveKey (k, next) '' keys, a < next + 1 ∨ a ∈ ks := by
  rintro _ ⟨a, ha, rfl⟩
  by_cases hak : a = k
  · subst hak
    rw [moveKey_old (a, next)]
    exact .inl (Nat.lt_succ_self _)
  · rw [moveKey_of_ne (u := (k, next)) hak]
    rcases hkeys a ha with hlt | hmem
    · exact .inl (by omega)
    · rcases List.mem_cons.mp hmem with rfl | hrest
      · exact absurd rfl hak
      · exact .inr hrest

theorem strictMonoOn_movedKey (hsorted : ks.Pairwise (· < ·)) (hlow : ∀ k ∈ ks, next ≤ k + 1)
    (hkeys : ∀ a ∈ keys, a < next ∨ a ∈ ks) (h : NoClash (renumbering next ks) keys) :
    StrictMonoOn (movedKey (renumbering next ks)) keys := by
  induction ks generalizing next keys with
  | nil => exact fun a _ b _ hab => hab
  | cons k ks ih =>
    obtain ⟨hhead, hrest⟩ := List.pairwise_cons.mp hsorted
    have hlow' : ∀ k' ∈ ks, next + 1 ≤ k' + 1 := by
      intro k' hk'
      have hlt := hhead k' hk'
      have hle := hlow k List.mem_cons_self
      omega
    rw [renumbering] at h ⊢
    by_cases heq : k = next
    · rw [if_pos heq] at h ⊢
      refine ih hrest hlow' (fun a ha => ?_) h
      rcases hkeys a ha with hlt | hmem
      · exact .inl (by omega)
      · rcases List.mem_cons.mp hmem with rfl | hmem
        · exact .inl (by omega)
        · exact .inr hmem
    · rw [if_neg heq] at h ⊢
      have hmove := strictMonoOn_moveKey hhead (hlow k List.mem_cons_self) hkeys h.1
      have htail := ih hrest hlow' (image_subset hkeys) h.2
      exact htail.comp hmove (mapsTo_image _ _)

theorem noClash_of_aligned (hsorted : ks.Pairwise (· < ·)) (hlow : ∀ k ∈ ks, next ≤ k)
    (hkeys : ∀ a ∈ keys, a < next ∨ a ∈ ks) : NoClash (renumbering next ks) keys := by
  induction ks generalizing next keys with
  | nil => trivial
  | cons k ks ih =>
    obtain ⟨hhead, hrest⟩ := List.pairwise_cons.mp hsorted
    have hk := hlow k List.mem_cons_self
    have hlow' : ∀ k' ∈ ks, next + 1 ≤ k' := by
      intro k' hk'
      have hlt := hhead k' hk'
      omega
    rw [renumbering]
    by_cases heq : k = next
    · rw [if_pos heq]
      refine ih hrest hlow' fun a ha => ?_
      rcases hkeys a ha with hlt | hmem
      · exact .inl (by omega)
      · rcases List.mem_cons.mp hmem with rfl | hmem
        · exact .inl (by omega)
        · exact .inr hmem
    · rw [if_neg heq]
      refine ⟨fun _ hnext => ?_, ih hrest hlow' (image_subset hkeys)⟩
      rcases hkeys next hnext with hlt | hmem
      · exact absurd hlt (lt_irrefl _)
      · rcases List.mem_cons.mp hmem with heq' | hmem
        · exact heq'.symm
        · have hlt := hhead next hmem
          omega

theorem inRun_cons_iff {a : Nat} (ha : j + 1 ≤ a) : InRun j (j :: ks) a ↔ InRun (j + 1) ks a := by
  constructor
  · intro h i hlo hhi
    rcases List.mem_cons.mp (h i (by omega) hhi) with rfl | hmem
    · omega
    · exact hmem
  · intro h i hlo hhi
    by_cases hij : i = j
    · rw [hij]
      exact List.mem_cons_self
    · exact List.mem_cons_of_mem j (h i (by omega) hhi)

private theorem moved_inRun_iff (hkeys : ∀ a ∈ keys, a = j ∨ a ∈ ks) (hlow : ∀ k ∈ ks, j + 1 ≤ k) :
    ((j ∈ keys → j + 1 ∈ keys → j = j + 1) ∧ ∀ a ∈ moveKey (j, j + 1) '' keys,
        ∀ b ∈ moveKey (j, j + 1) '' keys, InRun (j + 1) ks a → InRun (j + 1) ks b → a = b) ↔
      ∀ a ∈ keys, ∀ b ∈ keys, InRun j (j :: ks) a → InRun j (j :: ks) b → a = b := by
  have hmoved : moveKey (j, j + 1) j = j + 1 := moveKey_old (j, j + 1)
  have hstays : ∀ a, a ≠ j → moveKey (j, j + 1) a = a := fun a ha => moveKey_of_ne ha
  have habove : ∀ a ∈ keys, a ≠ j → j + 1 ≤ a := by
    intro a ha hne
    rcases hkeys a ha with rfl | hmem
    · exact absurd rfl hne
    · exact hlow a hmem
  have hself : InRun j (j :: ks) j := by
    intro i hlo hhi
    obtain rfl : i = j := by omega
    exact List.mem_cons_self
  have hother : ∀ a ∈ keys, a ≠ j → (InRun j (j :: ks) a ↔ InRun (j + 1) ks a) :=
    fun a ha hne => inRun_cons_iff (habove a ha hne)
  -- where the moved key and another one are in the run, so is the number between them
  have hnext : ∀ b, j + 1 ≤ b → InRun (j + 1) ks b → InRun (j + 1) ks (j + 1) :=
    fun b hb hrun i hlo hhi => hrun i hlo (by omega)
  constructor
  · rintro ⟨hclash, hsame⟩ a ha b hb hruna hrunb
    have hapart : j ∈ keys → ∀ b ∈ keys, b ≠ j → InRun j (j :: ks) b → False := by
      intro hj b hb hbj hrun
      have hrun' := (hother b hb hbj).mp hrun
      have heq := hsame (j + 1) ⟨j, hj, hmoved⟩ b ⟨b, hb, hstays b hbj⟩
        (hnext b (habove b hb hbj) hrun') hrun'
      have hbad := hclash hj (heq ▸ hb)
      omega
    by_cases haj : a = j
    · subst haj
      by_contra hne
      exact hapart ha b hb (fun h => hne h.symm) hrunb
    · by_cases hbj : b = j
      · subst hbj
        exact absurd hruna fun h => hapart hb a ha haj h
      · exact hsame a ⟨a, ha, hstays a haj⟩ b ⟨b, hb, hstays b hbj⟩ ((hother a ha haj).mp hruna)
          ((hother b hb hbj).mp hrunb)
  · intro hsame
    refine ⟨fun hj hsucc => ?_, ?_⟩
    · have hmem : j + 1 ∈ ks := by
        rcases hkeys (j + 1) hsucc with heq | hmem
        · omega
        · exact hmem
      refine hsame j hj (j + 1) hsucc hself ((hother (j + 1) hsucc (by omega)).mpr ?_)
      intro i hlo hhi
      obtain rfl : i = j + 1 := by omega
      exact hmem
    · rintro _ ⟨a, ha, rfl⟩ _ ⟨b, hb, rfl⟩ hruna hrunb
      by_cases haj : a = j
      · subst haj
        by_cases hbj : b = a
        · rw [hbj]
        · rw [hstays b hbj] at hrunb
          exact absurd (hsame a ha b hb hself ((hother b hb hbj).mpr hrunb)).symm hbj
      · rw [hstays a haj] at hruna ⊢
        by_cases hbj : b = j
        · subst hbj
          exact absurd (hsame a ha b hb ((hother a ha haj).mpr hruna) hself) haj
        · rw [hstays b hbj] at hrunb ⊢
          exact hsame a ha b hb ((hother a ha haj).mpr hruna) ((hother b hb hbj).mpr hrunb)

theorem noClash_renumbering_iff (hsorted : ks.Pairwise (· < ·)) (hlow : ∀ k ∈ ks, j ≤ k)
    (hkeys : ∀ a ∈ keys, a = j ∨ a ∈ ks) : NoClash (renumbering (j + 1) ks) keys ↔
      ∀ a ∈ keys, ∀ b ∈ keys, InRun j ks a → InRun j ks b → a = b := by
  induction ks generalizing j keys with
  | nil =>
    refine ⟨fun _ a ha b hb _ _ => ?_, fun _ => trivial⟩
    have haj : a = j := (hkeys a ha).resolve_right List.not_mem_nil
    have hbj : b = j := (hkeys b hb).resolve_right List.not_mem_nil
    rw [haj, hbj]
  | cons k ks ih =>
    obtain ⟨hhead, hrest⟩ := List.pairwise_cons.mp hsorted
    by_cases heq : k = j
    · subst heq
      have hlow' : ∀ k' ∈ ks, k + 1 ≤ k' := hhead
      have hkeys' : ∀ a ∈ keys, a = k ∨ a ∈ ks := by
        intro a ha
        rcases hkeys a ha with h | h
        · exact .inl h
        · exact List.mem_cons.mp h
      rw [renumbering, if_neg (by omega), ← moved_inRun_iff hkeys' hlow']
      refine and_congr Iff.rfl (ih hrest hlow' ?_)
      rintro _ ⟨a, ha, rfl⟩
      by_cases hak : a = k
      · rw [hak, moveKey_old (k, k + 1)]
        exact .inl rfl
      · rw [moveKey_of_ne (u := (k, k + 1)) hak]
        exact .inr ((hkeys' a ha).resolve_left hak)
    · have hgap : ∀ k' ∈ k :: ks, j + 1 ≤ k' := by
        have hk := hlow k List.mem_cons_self
        intro k' hk'
        rcases List.mem_cons.mp hk' with rfl | hmem
        · omega
        · have hlt := hhead k' hmem
          omega
      have hclash : NoClash (renumbering (j + 1) (k :: ks)) keys := by
        refine noClash_of_aligned hsorted hgap fun a ha => ?_
        rcases hkeys a ha with rfl | hmem
        · exact .inl (Nat.lt_succ_self _)
        · exact .inr hmem
      refine ⟨fun _ a ha b _ hrun => ?_, fun _ => hclash⟩
      have hle : j ≤ a := by
        rcases hkeys a ha with rfl | hmem
        · exact le_rfl
        · exact hlow a hmem
      have hj := hgap j (hrun j le_rfl hle)
      omega

theorem map_movedKey (hsorted : ks.Pairwise (· < ·)) (hlow : ∀ k ∈ ks, next ≤ k + 1)
    (hfree : next ∉ ks.tail) : ks.map (movedKey (renumbering next ks)) = List.range' next ks.length := by
  induction ks generalizing next with
  | nil => rfl
  | cons k ks ih =>
    obtain ⟨hhead, hrest⟩ := List.pairwise_cons.mp hsorted
    have hk := hlow k List.mem_cons_self
    have habove : ∀ k' ∈ ks, next + 1 ≤ k' := by
      intro k' hk'
      have hlt := hhead k' hk'
      have hne : k' ≠ next := fun h => hfree (h ▸ hk')
      omega
    have htail : next + 1 ∉ ks.tail := by
      intro hmem
      cases ks with
      | nil => cases hmem
      | cons k₁ ks =>
        have hlt := (List.pairwise_cons.mp hrest).1 _ hmem
        have hle := habove k₁ List.mem_cons_self
        omega
    have hnumbers := ih hrest (fun k' hk' => (habove k' hk').trans (Nat.le_succ k')) htail
    have hnext : next ∉ ks := fun hmem => absurd (habove next hmem) (by omega)
    rw [renumbering, List.length_cons, List.range'_succ, List.map_cons]
    by_cases heq : k = next
    · rw [if_pos heq, hnumbers, heq, movedKey_renumbering_of_notMem hnext]
    · rw [if_neg heq, movedKey_cons, moveKey_old (k, next), movedKey_renumbering_of_notMem hnext]
      refine congrArg (next :: ·) (Eq.trans (List.map_congr_left fun k' hk' => ?_) hnumbers)
      have hne : k' ≠ k := (hhead k' hk').ne'
      rw [movedKey_cons, moveKey_of_ne (u := (k, next)) hne]

theorem eqOn_of_strictMonoOn {f g : Nat → Nat} (hf : StrictMonoOn f keys) (hg : StrictMonoOn g keys)
    (h : f '' keys = g '' keys) : EqOn f g keys := by
  rw [image_eq_range, image_eq_range] at h
  have hwf : WellFoundedLT keys := ⟨InvImage.wf Subtype.val wellFounded_lt⟩
  have hf' : StrictMono fun a : keys => f a := fun a b hab => hf a.2 b.2 hab
  have hg' : StrictMono fun a : keys => g a := fun a b hab => hg a.2 b.2 hab
  have hsame := (hf'.range_inj hg').mp h
  intro a ha
  exact congrFun hsame ⟨a, ha⟩

variable {β : Type*} {t t' t'' : ExtTreeMap Nat β}

def rekey (t : ExtTreeMap Nat β) (u : Nat × Nat) : Option (ExtTreeMap Nat β) :=
  match t[u.1]? with
  | none => some t
  | some v =>
    if u.1 = u.2 then some t
    else if u.2 ∈ t then none
    else some ((t.erase u.1).insert u.2 v)

/-- The rows are the same under keys that `f` takes over. -/
def Renamed (f : Nat → Nat) (t t' : ExtTreeMap Nat β) : Prop :=
  ∀ (k' : Nat) (v : β), t'[k']? = some v ↔ ∃ k, t[k]? = some v ∧ f k = k'

def keySet (t : ExtTreeMap Nat β) : Set Nat := {k | k ∈ t}

theorem mem_keySet {k : Nat} : k ∈ keySet t ↔ ∃ v, t[k]? = some v := by
  change k ∈ t ↔ _
  rw [ExtTreeMap.mem_iff_isSome_getElem?, Option.isSome_iff_exists]

theorem pairwise_keys (t : ExtTreeMap Nat β) : t.keys.Pairwise (· < ·) :=
  t.ordered_keys.imp fun h => Nat.compare_eq_lt.mp h

theorem Renamed.keySet_eq {f : Nat → Nat} (h : Renamed f t t') : keySet t' = f '' keySet t := by
  ext k'
  rw [mem_keySet, mem_image]
  constructor
  · rintro ⟨v, hv⟩
    obtain ⟨k, hk, hfk⟩ := (h k' v).mp hv
    exact ⟨k, mem_keySet.mpr ⟨v, hk⟩, hfk⟩
  · rintro ⟨k, hk, hfk⟩
    obtain ⟨v, hv⟩ := mem_keySet.mp hk
    exact ⟨v, (h k' v).mpr ⟨k, hv, hfk⟩⟩

theorem Renamed.refl (t : ExtTreeMap Nat β) : Renamed (fun k => k) t t := by
  intro k' v
  constructor
  · intro hv
    exact ⟨k', hv, rfl⟩
  · rintro ⟨k, hv, rfl⟩
    exact hv

theorem Renamed.trans {f g : Nat → Nat} (h : Renamed f t t') (h' : Renamed g t' t'') :
    Renamed (fun k => g (f k)) t t'' := by
  intro k' v
  rw [h' k' v]
  constructor
  · rintro ⟨k₁, hk₁, rfl⟩
    obtain ⟨k, hk, rfl⟩ := (h k₁ v).mp hk₁
    exact ⟨k, hk, rfl⟩
  · rintro ⟨k, hk, rfl⟩
    exact ⟨f k, (h _ v).mpr ⟨k, hk, rfl⟩, rfl⟩

theorem rekey_eq_none_iff {u : Nat × Nat} : rekey t u = none ↔ ¬ (u.1 ∈ keySet t → u.2 ∈ keySet t → u.1 = u.2) := by
  unfold rekey
  cases hv : t[u.1]? with
  | none =>
    have hold : u.1 ∉ keySet t := by
      rw [mem_keySet, hv]
      rintro ⟨v, ⟨⟩⟩
    simp [hold]
  | some v =>
    have hold : u.1 ∈ keySet t := mem_keySet.mpr ⟨v, hv⟩
    by_cases heq : u.1 = u.2
    · simp [heq]
    · by_cases hnew : u.2 ∈ t
      · have hnew' : u.2 ∈ keySet t := hnew
        simp [heq, hnew, hold, hnew']
      · have hnew' : u.2 ∉ keySet t := hnew
        simp [heq, hnew, hnew']

theorem renamed_of_rekey {u : Nat × Nat} (h : rekey t u = some t') : Renamed (moveKey u) t t' := by
  unfold rekey at h
  cases hv : t[u.1]? with
  | none =>
    rw [hv] at h
    cases h
    intro k' v
    constructor
    · intro hk
      refine ⟨k', hk, moveKey_of_ne ?_⟩
      rintro rfl
      rw [hv] at hk
      cases hk
    · rintro ⟨k, hk, rfl⟩
      rw [moveKey_of_ne]
      · exact hk
      · rintro rfl
        rw [hv] at hk
        cases hk
  | some w =>
    rw [hv] at h
    dsimp only at h
    by_cases heq : u.1 = u.2
    · rw [if_pos heq] at h
      cases h
      have hid : moveKey u = fun k => k := by
        funext k
        by_cases hk : k = u.1
        · rw [hk, moveKey_old, heq]
        · exact moveKey_of_ne hk
      rw [hid]
      exact .refl t
    · rw [if_neg heq] at h
      split at h
      · cases h
      next hnew =>
        cases h
        intro k' v
        simp only [ExtTreeMap.getElem?_insert, ExtTreeMap.getElem?_erase, Nat.compare_eq_eq]
        by_cases hnew' : u.2 = k'
        · subst hnew'
          rw [if_pos rfl]
          constructor
          · rintro ⟨⟩
            exact ⟨u.1, hv, moveKey_old u⟩
          · rintro ⟨k, hk, hmoved⟩
            by_cases hold : k = u.1
            · rw [hold, hv] at hk
              exact hk
            · rw [moveKey_of_ne hold] at hmoved
              exact absurd (mem_keySet.mpr ⟨v, hmoved ▸ hk⟩) hnew
        · rw [if_neg hnew']
          by_cases hold : u.1 = k'
          · subst hold
            rw [if_pos rfl]
            constructor
            · rintro ⟨⟩
            · rintro ⟨k, -, hmoved⟩
              by_cases hk : k = u.1
              · rw [hk, moveKey_old] at hmoved
                exact absurd hmoved hnew'
              · rw [moveKey_of_ne hk] at hmoved
                exact absurd hmoved hk
          · rw [if_neg hold]
            constructor
            · intro hk
              exact ⟨k', hk, moveKey_of_ne fun h => hold h.symm⟩
            · rintro ⟨k, hk, hmoved⟩
              by_cases hku : k = u.1
              · rw [hku, moveKey_old] at hmoved
                exact absurd hmoved hnew'
              · rw [moveKey_of_ne hku] at hmoved
                rw [← hmoved]
                exact hk

theorem foldlM_rekey_isSome_iff : (us.foldlM rekey t).isSome ↔ NoClash us (keySet t) := by
  induction us generalizing t with
  | nil => simp [NoClash]
  | cons u us ih =>
    rw [List.foldlM_cons, NoClash]
    cases hu : rekey t u with
    | none => 
      have hclash := rekey_eq_none_iff.mp hu
      simp [hclash]
    | some t₁ =>
      have hfree : u.1 ∈ keySet t → u.2 ∈ keySet t → u.1 = u.2 := by
        by_contra hclash
        rw [rekey_eq_none_iff.mpr hclash] at hu
        cases hu
      rw [← (renamed_of_rekey hu).keySet_eq]
      exact ih.trans (and_iff_right hfree).symm

theorem renamed_of_foldlM (h : us.foldlM rekey t = some t') : Renamed (movedKey us) t t' := by
  induction us generalizing t with
  | nil =>
    cases h
    exact .refl _
  | cons u us ih =>
    rw [List.foldlM_cons] at h
    obtain ⟨t₁, hu, hrest⟩ := Option.bind_eq_some_iff.mp h
    exact (renamed_of_rekey hu).trans (ih hrest)

end Framework
