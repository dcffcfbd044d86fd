import Mathlib.Data.List.Perm.Basic
import Mathlib.Data.List.Sort
import Mathlib.Algebra.GroupWithZero.Nat

/-!
# The role check

Each player of a group for the dungeon finder offers some roles.
-/

namespace Mangos

/-- The roles a player can take, `LFGRoles` without `ROLE_LEADER`. -/
inductive LFGRole
  | tank | healer | damage
  deriving DecidableEq, Repr

structure LFGRoleMask where
  leader : Bool
  tank : Bool
  healer : Bool
  damage : Bool
  deriving DecidableEq, Repr

namespace LFGRoleMask

variable (mask : LFGRoleMask)

def toNat : Nat := mask.leader.toNat + 2 * mask.tank.toNat + 4 * mask.healer.toNat + 8 * mask.damage.toNat

/-- `& ~LFG_ROLE_MASK_LEADER`. -/
def clearLeader : LFGRoleMask := { mask with leader := false }

def offers : LFGRole → Bool
  | .tank => mask.tank
  | .healer => mask.healer
  | .damage => mask.damage

@[simp] theorem offers_clearLeader (role : LFGRole) : mask.clearLeader.offers role = mask.offers role := by
  cases role <;> rfl

def Le (mask other : LFGRoleMask) : Prop := mask.toNat ≤ other.toNat

instance (mask other : LFGRoleMask) : Decidable (Le mask other) := inferInstanceAs (Decidable (_ ≤ _))

instance : Std.Total Le := ⟨fun mask other => Nat.le_total mask.toNat other.toNat⟩

instance : IsTrans LFGRoleMask Le := ⟨fun _ _ _ => Nat.le_trans⟩

instance : Std.Antisymm Le := ⟨fun mask other h h' => by
  have heq := Nat.le_antisymm h h'
  obtain ⟨a, b, c, d⟩ := mask
  obtain ⟨a', b', c', d'⟩ := other
  revert heq
  revert a b c d a' b' c' d'
  decide⟩

end LFGRoleMask

/-- `LFG_TANKS_NEEDED`, `LFG_HEALERS_NEEDED` and `LFG_DPS_NEEDED`, less what was taken. -/
structure RolesNeeded where
  tanks : Nat
  healers : Nat
  dps : Nat
  deriving DecidableEq, Repr

namespace RolesNeeded

def full : RolesNeeded := ⟨1, 1, 3⟩

/-- `MAX_GROUP_SIZE`. -/
def maxGroupSize : Nat := 5

/-- A player takes the first role of those offered that is still needed. -/
def take (needed : RolesNeeded) (mask : LFGRoleMask) : RolesNeeded :=
  if mask.tank ∧ 0 < needed.tanks then { needed with tanks := needed.tanks - 1 }
  else if mask.healer ∧ 0 < needed.healers then { needed with healers := needed.healers - 1 }
  else if mask.damage ∧ 0 < needed.dps then { needed with dps := needed.dps - 1 }
  else needed

def takeAll (needed : RolesNeeded) (n : Nat) (mask : LFGRoleMask) : RolesNeeded :=
  let tanks := if mask.tank then needed.tanks else 0
  let healers := if mask.healer then needed.healers else 0
  let dps := if mask.damage then needed.dps else 0
  ⟨needed.tanks - min n tanks, needed.healers - min (n - tanks) healers, needed.dps - min (n - tanks - healers) dps⟩

theorem foldl_take_replicate (n : Nat) (mask : LFGRoleMask) (needed : RolesNeeded) :
    (List.replicate n mask).foldl take needed = needed.takeAll n mask := by
  induction n generalizing needed with
  | zero => simp [takeAll]
  | succ n ih =>
    rw [List.replicate_succ, List.foldl_cons, ih]
    obtain ⟨leader, tank, healer, damage⟩ := mask
    obtain ⟨a, b, c⟩ := needed
    cases tank <;> cases healer <;> cases damage <;>
      simp only [take, takeAll, Bool.false_eq_true, false_and, true_and, if_false, if_true] <;>
      (try split_ifs) <;> simp only [mk.injEq] <;> omega

end RolesNeeded

/-- `LFGMgr::CheckRoles` of the masks in a map. -/
def checkRoles (masks : List LFGRoleMask) : Bool :=
  if masks = [] then false
  else if RolesNeeded.maxGroupSize < masks.length then false
  else
    let sorted := (masks.map LFGRoleMask.clearLeader).insertionSort LFGRoleMask.Le
    let needed := sorted.foldl RolesNeeded.take .full
    needed.healers + needed.tanks + needed.dps ≤ RolesNeeded.maxGroupSize - masks.length

namespace LFGRoleMask

abbrev of (tank healer damage : Bool) : LFGRoleMask := ⟨false, tank, healer, damage⟩

def inOrder (count : LFGRoleMask → Nat) : List LFGRoleMask :=
  List.replicate (count (of false false false)) (of false false false) ++
  (List.replicate (count (of true false false)) (of true false false) ++
  (List.replicate (count (of false true false)) (of false true false) ++
  (List.replicate (count (of true true false)) (of true true false) ++
  (List.replicate (count (of false false true)) (of false false true) ++
  (List.replicate (count (of true false true)) (of true false true) ++
  (List.replicate (count (of false true true)) (of false true true) ++
  List.replicate (count (of true true true)) (of true true true)))))))

theorem count_inOrder (count : LFGRoleMask → Nat) (mask : LFGRoleMask) :
    (inOrder count).count mask = if mask.leader then 0 else count mask := by
  obtain ⟨leader, tank, healer, damage⟩ := mask
  simp only [inOrder, List.count_append, List.count_replicate]
  cases leader <;> cases tank <;> cases healer <;> cases damage <;> simp

theorem pairwise_replicate_append {n : Nat} {mask : LFGRoleMask} {l : List LFGRoleMask}
    (hl : l.Pairwise Le) (h : ∀ other ∈ l, mask.toNat ≤ other.toNat) : (List.replicate n mask ++ l).Pairwise Le := by
  rw [List.pairwise_append]
  refine ⟨?_, hl, fun a ha b hb => ?_⟩
  · exact List.pairwise_replicate.mpr (.inr (Nat.le_refl _))
  · rw [List.eq_of_mem_replicate ha]
    exact h b hb

theorem pairwise_inOrder (count : LFGRoleMask → Nat) : (inOrder count).Pairwise Le := by
  rw [inOrder]
  iterate 7 apply pairwise_replicate_append
  · exact List.pairwise_replicate.mpr (.inr (Nat.le_refl _))
  all_goals
    intro other hother
    simp only [List.mem_append, List.mem_replicate] at hother
    obtain ⟨leader, tank, healer, damage⟩ := other
    simp only [toNat, mk.injEq] at hother ⊢
    grind

theorem insertionSort_eq_inOrder (masks : List LFGRoleMask) :
    (masks.map clearLeader).insertionSort Le = inOrder (masks.map clearLeader).count := by
  apply List.Perm.eq_of_pairwise' (List.pairwise_insertionSort Le _) (pairwise_inOrder _)
  apply (List.perm_insertionSort Le _).trans
  rw [List.perm_iff_count]
  intro mask
  rw [count_inOrder]
  cases hleader : mask.leader with
  | false => simp
  | true =>
    rw [if_pos rfl, List.count_eq_zero]
    intro hmem
    obtain ⟨other, -, rfl⟩ := List.mem_map.mp hmem
    cases hleader

end LFGRoleMask

def Assignable (masks : List LFGRoleMask) : Prop :=
  ∃ roles : List LFGRole, List.Forall₂ (fun mask role => mask.offers role = true) masks roles ∧
    roles.count .tank ≤ 1 ∧ roles.count .healer ≤ 1 ∧ roles.count .damage ≤ 3

theorem Assignable.perm {masks masks' : List LFGRoleMask} (h : Assignable masks) (hperm : masks'.Perm masks) :
    Assignable masks' := by
  obtain ⟨roles, hoffers, htank, hhealer, hdamage⟩ := h
  obtain ⟨roles', hoffers', hroles⟩ := List.perm_comp_forall₂ hperm hoffers
  refine ⟨roles', hoffers', ?_, ?_, ?_⟩
  · rwa [hroles.count_eq]
  · rwa [hroles.count_eq]
  · rwa [hroles.count_eq]

theorem assignable_clearLeader (masks : List LFGRoleMask) :
    Assignable (masks.map LFGRoleMask.clearLeader) ↔ Assignable masks := by
  simp only [Assignable, List.forall₂_map_left_iff, LFGRoleMask.offers_clearLeader]

theorem assignable_inOrder {masks : List LFGRoleMask} :
    Assignable (LFGRoleMask.inOrder (masks.map LFGRoleMask.clearLeader).count) ↔ Assignable masks := by
  rw [← LFGRoleMask.insertionSort_eq_inOrder, ← assignable_clearLeader masks]
  have hperm := List.perm_insertionSort LFGRoleMask.Le (masks.map LFGRoleMask.clearLeader)
  exact ⟨fun h => h.perm hperm.symm, fun h => h.perm hperm⟩

namespace RolesNeeded

def of (needed : RolesNeeded) : LFGRole → Nat
  | .tank => needed.tanks
  | .healer => needed.healers
  | .damage => needed.dps

def sum (needed : RolesNeeded) : Nat := needed.healers + needed.tanks + needed.dps

theorem take_cases (needed : RolesNeeded) (mask : LFGRoleMask) : needed.take mask = needed ∨
      ∃ role, mask.offers role = true ∧ (needed.take mask).sum + 1 = needed.sum ∧
        ∀ other, (needed.take mask).of other + (if other = role then 1 else 0) = needed.of other := by
  rw [take]
  split
  case isTrue h =>
    refine .inr ⟨.tank, h.1, ?_, fun other => ?_⟩
    · simp only [sum]
      omega
    · cases other <;> simp [of]
      omega
  case isFalse =>
    split
    case isTrue h =>
      refine .inr ⟨.healer, h.1, ?_, fun other => ?_⟩
      · simp only [sum]
        omega
      · cases other <;> simp [of]
        omega
    case isFalse =>
      split
      case isTrue h =>
        refine .inr ⟨.damage, h.1, ?_, fun other => ?_⟩
        · simp only [sum]
          omega
        · cases other <;> simp [of]
          omega
      case isFalse => exact .inl rfl

theorem sum_le_foldl_take (masks : List LFGRoleMask) (needed : RolesNeeded) :
    needed.sum ≤ (masks.foldl take needed).sum + masks.length := by
  induction masks generalizing needed with
  | nil => exact Nat.le_refl _
  | cons mask masks ih =>
    have hrest := ih (needed.take mask)
    rw [List.foldl_cons, List.length_cons]
    rcases needed.take_cases mask with hsame | ⟨role, -, hless, -⟩
    · rw [hsame] at hrest ⊢
      omega
    · omega

theorem roles_of_foldl_take (masks : List LFGRoleMask) (needed : RolesNeeded)
    (h : (masks.foldl take needed).sum + masks.length ≤ needed.sum) :
    ∃ roles : List LFGRole, List.Forall₂ (fun mask role => mask.offers role = true) masks roles ∧
      ∀ role, roles.count role ≤ needed.of role := by
  induction masks generalizing needed with
  | nil => exact ⟨[], .nil, fun role => by simp⟩
  | cons mask masks ih =>
    rw [List.foldl_cons, List.length_cons] at h
    have hmost := sum_le_foldl_take masks (needed.take mask)
    rcases needed.take_cases mask with hsame | ⟨role, hoffers, hless, hof⟩
    · rw [hsame] at h hmost
      omega
    · obtain ⟨roles, hroles, hcount⟩ := ih (needed.take mask) (by omega)
      refine ⟨role :: roles, .cons hoffers hroles, fun other => ?_⟩
      have hother := hof other
      have hle := hcount other
      rw [List.count_cons]
      by_cases heq : other = role
      · subst heq
        simp at hother ⊢
        omega
      · have hne : ¬ role = other := fun h => heq h.symm
        simp [heq] at hother
        simp [hne]
        omega

end RolesNeeded

theorem assignable_of_checkRoles {masks : List LFGRoleMask} (h : checkRoles masks = true) :
    masks ≠ [] ∧ masks.length ≤ 5 ∧ Assignable masks := by
  rw [checkRoles] at h
  by_cases hempty : masks = []
  · simp [hempty] at h
  by_cases hsize : RolesNeeded.maxGroupSize < masks.length
  · simp [hempty, hsize] at h
  rw [if_neg hempty, if_neg hsize, decide_eq_true_eq] at h
  have hle := Nat.not_lt.mp hsize
  refine ⟨hempty, hle, ?_⟩
  have hlength : ((masks.map LFGRoleMask.clearLeader).insertionSort LFGRoleMask.Le).length =
      masks.length := by
    rw [List.length_insertionSort, List.length_map]
  obtain ⟨roles, hoffers, hcount⟩ := RolesNeeded.roles_of_foldl_take
    ((masks.map LFGRoleMask.clearLeader).insertionSort LFGRoleMask.Le) .full (by
      rw [hlength]
      change _ ≤ 5
      change _ ≤ 5 - _ at h
      change _ ≤ 5 at hle
      rw [RolesNeeded.sum]
      omega)
  rw [← assignable_clearLeader]
  have hsorted : Assignable ((masks.map LFGRoleMask.clearLeader).insertionSort LFGRoleMask.Le) :=
    ⟨roles, hoffers, hcount .tank, hcount .healer, hcount .damage⟩
  exact hsorted.perm (List.perm_insertionSort LFGRoleMask.Le _).symm

theorem countP_le_of_forall₂ {masks : List LFGRoleMask} {roles : List LFGRole}
    (h : List.Forall₂ (fun mask role => mask.offers role = true) masks roles) (p : LFGRoleMask → Bool)
    (q : LFGRole → Bool) (hpq : ∀ mask role, mask.offers role = true → p mask = true → q role = true) :
    masks.countP p ≤ roles.countP q := by
  induction h with
  | nil => exact Nat.le_refl _
  | @cons mask role masks roles hoffers _ ih =>
    rw [List.countP_cons, List.countP_cons]
    have hstep := hpq mask role hoffers
    split
    case isTrue hp =>
      rw [if_pos (hstep hp)]
      omega
    case isFalse => omega

theorem Assignable.countP_le {masks : List LFGRoleMask} (h : Assignable masks) (q : LFGRole → Bool) :
    masks.countP (fun mask => (!mask.tank || q .tank) && (!mask.healer || q .healer) &&
        (!mask.damage || q .damage)) ≤
      (if q .tank then 1 else 0) + (if q .healer then 1 else 0) + (if q .damage then 3 else 0) := by
  obtain ⟨roles, hoffers, htank, hhealer, hdamage⟩ := h
  have hle := countP_le_of_forall₂ hoffers (fun mask => (!mask.tank || q .tank) &&
    (!mask.healer || q .healer) && (!mask.damage || q .damage)) q (by
      rintro ⟨leader, tank, healer, damage⟩ role hrole hmask
      cases role <;> simp_all [LFGRoleMask.offers])
  apply hle.trans
  have hsplit : roles.countP q = (if q .tank then roles.count .tank else 0) +
      (if q .healer then roles.count .healer else 0) + (if q .damage then roles.count .damage else 0) := by
    clear hoffers htank hhealer hdamage hle
    induction roles with
    | nil => simp
    | cons role roles ih =>
      rw [List.countP_cons, ih]
      cases role <;> simp <;> grind
  rw [hsplit]
  grind

/-- Four players who can only deal damage or be the tank, one of them the tank, with one who can only be tank or
healer: the check makes the latter the tank, so that no one heals. -/
def TankTaken (masks : List LFGRoleMask) : Prop :=
  masks.countP (fun mask => mask.tank && mask.healer && !mask.damage) = 1 ∧
    masks.countP (fun mask => mask.damage && !mask.healer) = 4 ∧ masks.length = 5 ∧
    0 < masks.countP (fun mask => mask.tank && !mask.healer && mask.damage)

instance (masks : List LFGRoleMask) : Decidable (TankTaken masks) :=
  inferInstanceAs (Decidable (_ ∧ _ ∧ _ ∧ _))

namespace LFGRoleMask

theorem countP_inOrder (count : LFGRoleMask → Nat) (p : LFGRoleMask → Bool) : (inOrder count).countP p =
      (if p (of false false false) then count (of false false false) else 0) +
      ((if p (of true false false) then count (of true false false) else 0) +
      ((if p (of false true false) then count (of false true false) else 0) +
      ((if p (of true true false) then count (of true true false) else 0) +
      ((if p (of false false true) then count (of false false true) else 0) +
      ((if p (of true false true) then count (of true false true) else 0) +
      ((if p (of false true true) then count (of false true true) else 0) +
      (if p (of true true true) then count (of true true true) else 0))))))) := by
  simp only [inOrder, List.countP_append, List.countP_replicate]

theorem countP_eq_inOrder (masks : List LFGRoleMask) (p : LFGRoleMask → Bool)
    (hp : ∀ mask, p mask.clearLeader = p mask) : masks.countP p = (inOrder (masks.map clearLeader).count).countP p := by
  rw [← insertionSort_eq_inOrder, (List.perm_insertionSort Le _).countP_eq, List.countP_map]
  congr 1
  funext mask
  exact (hp mask).symm

theorem length_eq_inOrder (masks : List LFGRoleMask) :
    masks.length = (inOrder (masks.map clearLeader).count).countP fun _ => true := by
  rw [← countP_eq_inOrder masks (fun _ => true) fun _ => rfl]
  rw [List.countP_true]

end LFGRoleMask

/-! The numbers of players with the masks are named by their roles: `t`, `h`, `d` for those with one, `th`,
`td`, `hd` and `thd` for those with several. -/

namespace RolesNeeded

theorem needed_after_th {t h th a b : Nat} (ht : t ≤ 1) (hh : h ≤ 1) (hth : t + h + th ≤ 2)
    (ha : a = 1 - min t 1 - min th (1 - min t 1)) (hb : b = 1 - min h 1 - min (th - (1 - min t 1)) (1 - min h 1)) :
    a + b + t + h + th = 2 ∧ (a = 1 → t = 0 ∧ th = 0) ∧ (b = 1 → h = 0) ∧ a ≤ 1 ∧ b ≤ 1 := by
  omega

theorem needed_after_td {t h th d td a b a' c : Nat} (hab : a + b + t + h + th = 2)
    (ha : a = 1 → t = 0 ∧ th = 0) (hb : b = 1 → h = 0) (ha1 : a ≤ 1) (hb1 : b ≤ 1) (ht : t ≤ 1) (hh : h ≤ 1)
    (hd : d ≤ 3) (htd : t + d + td ≤ 4) (hall : t + h + th + d + td ≤ 5)
    (htaken : ¬ (th = 1 ∧ d + td = 4 ∧ 0 < td)) (ha' : a' = a - min td a)
    (hc : c = 3 - min d 3 - min (td - a) (3 - min d 3)) :
    a' + c + t + h + th + b + d + td = 5 ∧ (a' = 1 → td = 0 ∧ t = 0 ∧ th = 0) ∧ a' ≤ 1 := by
  omega

theorem needed_after_hd {t h th d td hd a b b' c c' : Nat} (ha : a = 1 → td = 0 ∧ t = 0 ∧ th = 0)
    (ha1 : a ≤ 1) (hsum : a + c + t + h + th + b + d + td = 5) (hhd : h + d + hd ≤ 4)
    (hall : t + h + th + d + td + hd ≤ 5) (hb' : b' = b - min hd b) (hc' : c' = c - min (hd - b) c) :
    a + b' + c' + t + h + th + d + td + hd = 5 := by
  omega

theorem needed_after_all {a b c n m : Nat} (hsum : a + b + c + m = 5) (hall : m + n ≤ 5) :
    b - min (n - a) b + (a - min n a) + (c - min (n - a - b) c) ≤ 5 - (m + n) := by
  omega

theorem sum_foldl_inOrder {count : LFGRoleMask → Nat} {t h th d td hd thd : Nat}
    (hn : count (.of false false false) = 0) (ht : count (.of true false false) = t)
    (hh : count (.of false true false) = h) (hth : count (.of true true false) = th)
    (hd' : count (.of false false true) = d) (htd : count (.of true false true) = td)
    (hhd : count (.of false true true) = hd) (hthd : count (.of true true true) = thd)
    (t_le : t ≤ 1) (h_le : h ≤ 1) (d_le : d ≤ 3) (th_le : t + h + th ≤ 2) (td_le : t + d + td ≤ 4)
    (hd_le : h + d + hd ≤ 4) (all_le : t + h + th + d + td + hd + thd ≤ 5) (htaken : ¬ (th = 1 ∧ d + td = 4 ∧ 0 < td)) :
    ((LFGRoleMask.inOrder count).foldl take full).sum ≤ 5 - (t + h + th + d + td + hd + thd) := by
  simp only [LFGRoleMask.inOrder, List.foldl_append, foldl_take_replicate, hn, ht, hh, hth, hd', htd, hhd,
    hthd, takeAll, full, sum, if_true, if_false, Bool.false_eq_true, Nat.sub_zero, Nat.min_zero]
  generalize ha : 1 - min t 1 - min th (1 - min t 1) = a
  generalize hb : 1 - min h 1 - min (th - (1 - min t 1)) (1 - min h 1) = b
  obtain ⟨hab, ha0, hb0, ha1, hb1⟩ := needed_after_th t_le h_le th_le ha.symm hb.symm
  generalize ha' : a - min td a = a'
  generalize hc : 3 - min d 3 - min (td - a) (3 - min d 3) = c
  obtain ⟨hac, ha0', ha1'⟩ :=
    needed_after_td hab ha0 hb0 ha1 hb1 t_le h_le d_le td_le (by omega) htaken ha'.symm hc.symm
  generalize hb' : b - min hd b = b'
  generalize hc' : c - min (hd - b) c = c'
  have hbc := needed_after_hd ha0' ha1' hac hd_le (by omega) hb'.symm hc'.symm
  exact needed_after_all (by omega) all_le

end RolesNeeded

open LFGRoleMask in
theorem checkRoles_of_assignable {masks : List LFGRoleMask} (hne : masks ≠ [])
    (hsize : masks.length ≤ 5) (h : Assignable masks) (htaken : ¬ TankTaken masks) : checkRoles masks = true := by
  have hlength := length_eq_inOrder masks
  have hover : ¬ RolesNeeded.maxGroupSize < masks.length := Nat.not_lt.mpr hsize
  rw [checkRoles, if_neg hne, if_neg hover, decide_eq_true_eq, insertionSort_eq_inOrder]
  rw [TankTaken, countP_eq_inOrder masks _ fun _ => rfl, countP_eq_inOrder masks _ fun _ => rfl,
    countP_eq_inOrder masks _ fun _ => rfl] at htaken
  rw [← assignable_inOrder] at h
  generalize (masks.map clearLeader).count = count at hlength htaken h ⊢
  have hnone := h.countP_le fun _ => false
  have htank := h.countP_le fun role => role = .tank
  have hhealer := h.countP_le fun role => role = .healer
  have hdamage := h.countP_le fun role => role = .damage
  have hth := h.countP_le fun role => role ≠ .damage
  have htd := h.countP_le fun role => role ≠ .healer
  have hhd := h.countP_le fun role => role ≠ .tank
  simp [countP_inOrder] at hlength htaken hnone htank hhealer hdamage hth htd hhd
  have hsum := RolesNeeded.sum_foldl_inOrder hnone rfl rfl rfl rfl rfl rfl rfl (by omega) (by omega)
    (by omega) (by omega) (by omega) (by omega) (by omega) (by omega)
  change (List.foldl RolesNeeded.take RolesNeeded.full (inOrder count)).sum ≤ 5 - masks.length
  omega

open LFGRoleMask in
theorem TankTaken.counts {masks : List LFGRoleMask} (h : TankTaken masks) :
    ∃ d, d ≤ 3 ∧ inOrder (masks.map clearLeader).count =
      of true true false :: (List.replicate d (of false false true) ++
        List.replicate (4 - d) (of true false true)) := by
  have hlength := length_eq_inOrder masks
  rw [TankTaken, countP_eq_inOrder masks _ fun _ => rfl, countP_eq_inOrder masks _ fun _ => rfl,
    countP_eq_inOrder masks _ fun _ => rfl] at h
  generalize (masks.map clearLeader).count = count at hlength h ⊢
  simp [countP_inOrder] at hlength h
  refine ⟨count (of false false true), by omega, ?_⟩
  have hnone : count (of false false false) = 0 := by omega
  have ht : count (of true false false) = 0 := by omega
  have hh : count (of false true false) = 0 := by omega
  have htd : count (of true false true) = 4 - count (of false false true) := by omega
  have hhd : count (of false true true) = 0 := by omega
  have hthd : count (of true true true) = 0 := by omega
  simp [inOrder, hnone, ht, hh, h.1, htd, hhd, hthd]

theorem assignable_of_tankTaken {masks : List LFGRoleMask} (h : TankTaken masks) : Assignable masks := by
  obtain ⟨d, hd, horder⟩ := h.counts
  rw [← assignable_inOrder, horder]
  have hcases : d = 0 ∨ d = 1 ∨ d = 2 ∨ d = 3 := by omega
  rcases hcases with rfl | rfl | rfl | rfl
  · exact ⟨[.healer, .tank, .damage, .damage, .damage], by simp [LFGRoleMask.offers], by decide⟩
  · exact ⟨[.healer, .damage, .tank, .damage, .damage], by simp [LFGRoleMask.offers], by decide⟩
  · exact ⟨[.healer, .damage, .damage, .tank, .damage], by simp [LFGRoleMask.offers], by decide⟩
  · exact ⟨[.healer, .damage, .damage, .damage, .tank], by simp [LFGRoleMask.offers], by decide⟩

theorem TankTaken.ne_nil {masks : List LFGRoleMask} (h : TankTaken masks) : masks ≠ [] := by
  intro hempty
  have hlength : masks.length = 5 := h.2.2.1
  rw [hempty] at hlength
  cases hlength

theorem checkRoles_of_tankTaken {masks : List LFGRoleMask} (h : TankTaken masks) : checkRoles masks = false := by
  obtain ⟨d, hd, horder⟩ := h.counts
  rw [checkRoles, if_neg h.ne_nil, LFGRoleMask.insertionSort_eq_inOrder, horder, h.2.2.1]
  have hcases : d = 0 ∨ d = 1 ∨ d = 2 ∨ d = 3 := by omega
  rcases hcases with rfl | rfl | rfl | rfl <;> rfl

theorem checkRoles_exact_iff (masks : List LFGRoleMask) :
    (checkRoles masks = true ↔ masks ≠ [] ∧ masks.length ≤ 5 ∧ Assignable masks) ↔ ¬ TankTaken masks := by
  constructor
  · intro hexact htaken
    have hlength : masks.length = 5 := htaken.2.2.1
    have hfound := hexact.mpr ⟨htaken.ne_nil, hlength.le, assignable_of_tankTaken htaken⟩
    rw [checkRoles_of_tankTaken htaken] at hfound
    cases hfound
  · intro htaken
    exact ⟨assignable_of_checkRoles, fun ⟨hne, hsize, h⟩ =>
      checkRoles_of_assignable hne hsize h htaken⟩

end Mangos
