import Mangos.Framework.Assoc
import Mangos.Lfg.Roles
import Mathlib.Logic.Function.Basic

/-!
# Setting the roles

A group that is complete gets its roles.
-/

namespace Mangos

open Framework

/-- `LFGRolesMap`, without an order. -/
structure LFGRolesMap where
  entries : List (Nat × LFGRoleMask)
  nodup : (entries.map (·.1)).Nodup

def LFGRoleMask.only (mask : LFGRoleMask) : LFGRole → LFGRoleMask
  | .tank => { mask with healer := false, damage := false }
  | .healer => { mask with tank := false, damage := false }
  | .damage => { mask with tank := false, healer := false }

namespace LFGRolesMap

variable (m : LFGRolesMap)

def masks : List LFGRoleMask := m.entries.map (·.2)

def setRole (guid : Nat) (mask : LFGRoleMask) : LFGRolesMap :=
  ⟨modifyKey guid (fun _ => mask) m.entries, by
    rw [keys_modifyKey]
    exact m.nodup⟩

/-- The loop of `SetRoles` over the players who can take a role: one is tried after the other, until the
check is passed. -/
def tryEach (role : LFGRole) : List (Nat × LFGRoleMask) → Option (Nat × LFGRoleMask) →
    LFGRolesMap × Option (Nat × LFGRoleMask)
  | [], last => (m, last)
  | entry :: entries, _ =>
    let newRole := entry.2.only role
    let tried := m.setRole entry.1 newRole
    if checkRoles tried.masks then (tried, some (entry.1, newRole))
    else tryEach role entries (some (entry.1, newRole))

/-- The choice of the tank or the healer in `SetRoles`, with the player who was chosen. -/
def chooseRole (role : LFGRole) (order : Shuffle (Nat × LFGRoleMask)) : LFGRolesMap × Option Nat :=
  let tmpMap := order.apply (m.entries.filter (·.2.offers role))
  let chosen :=
    match tmpMap with
    | [entry] => (m, some (entry.1, entry.2.only role))
    | _ => m.tryEach role tmpMap none
  match chosen.2 with
  | none => (chosen.1, none)
  | some (guid, newRole) => (chosen.1.setRole guid newRole, some guid)

def setOthers (tank healer : Nat) : LFGRolesMap where
  entries := m.entries.map fun entry =>
    (entry.1, if entry.1 ≠ tank ∧ entry.1 ≠ healer then entry.2.only .damage else entry.2)
  nodup := by
    rw [List.map_map]
    exact m.nodup

/-- `LFGMgr::SetRoles`, with the orders in which the maps of tanks and healers are gone through. -/
def setRoles (tanks healers : Shuffle (Nat × LFGRoleMask)) : LFGRolesMap × Bool :=
  if m.entries = [] then (m, false)
  else
    match m.chooseRole .tank tanks with
    | (m₁, none) => (m₁, false)
    | (m₁, some tank) =>
      match m₁.chooseRole .healer healers with
      | (m₂, none) => (m₂, false)
      | (m₂, some healer) => (m₂.setOthers tank healer, true)

def rolesOf (role : Nat → LFGRole) : List LFGRole := m.entries.map fun entry => role entry.1

/-- A role for each player, at most one tank, one healer and three damage dealers. -/
structure Assigns (role : Nat → LFGRole) : Prop where
  offers : ∀ entry ∈ m.entries, entry.2.offers (role entry.1) = true
  tank : (m.rolesOf role).count .tank ≤ 1
  healer : (m.rolesOf role).count .healer ≤ 1
  damage : (m.rolesOf role).count .damage ≤ 3

variable {m}

theorem exists_role_of_forall₂ {entries : List (Nat × LFGRoleMask)} (hnodup : (entries.map (·.1)).Nodup)
    {roles : List LFGRole} (h : List.Forall₂ (fun entry role => entry.2.offers role = true) entries roles) :
    ∃ role : Nat → LFGRole, roles = entries.map fun entry => role entry.1 := by
  induction h with
  | nil => exact ⟨fun _ => .tank, rfl⟩
  | @cons entry first entries roles _ _ ih =>
    obtain ⟨hnew, hrest⟩ := List.nodup_cons.mp hnodup
    obtain ⟨role, rfl⟩ := ih hrest
    refine ⟨Function.update role entry.1 first, ?_⟩
    rw [List.map_cons, Function.update_self]
    congr 1
    apply List.map_congr_left
    intro other hother
    have hne : other.1 ≠ entry.1 := by
      intro heq
      apply hnew
      change entry.1 ∈ _
      rw [← heq]
      exact List.mem_map_of_mem hother
    rw [Function.update_of_ne hne]

theorem exists_assigns (h : Assignable m.masks) : ∃ role, m.Assigns role := by
  obtain ⟨roles, hoffers, htank, hhealer, hdamage⟩ := h
  rw [masks, List.forall₂_map_left_iff] at hoffers
  obtain ⟨role, rfl⟩ := exists_role_of_forall₂ m.nodup hoffers
  rw [List.forall₂_map_right_iff, List.forall₂_same] at hoffers
  exact ⟨role, hoffers, htank, hhealer, hdamage⟩

theorem Assigns.assignable {role : Nat → LFGRole} (h : m.Assigns role) : Assignable m.masks := by
  refine ⟨m.rolesOf role, ?_, h.tank, h.healer, h.damage⟩
  rw [masks, rolesOf, List.forall₂_map_left_iff, List.forall₂_map_right_iff, List.forall₂_same]
  exact h.offers

theorem Assigns.counts {role : Nat → LFGRole} (h : m.Assigns role) (hfull : m.entries.length = 5) :
    (m.rolesOf role).count .tank = 1 ∧ (m.rolesOf role).count .healer = 1 ∧ (m.rolesOf role).count .damage = 3 := by
  have hsum : ∀ roles : List LFGRole,
      roles.count .tank + roles.count .healer + roles.count .damage = roles.length := by
    intro roles
    induction roles with
    | nil => rfl
    | cons first roles ih =>
      cases first <;> simp <;> omega
  have hall := hsum (m.rolesOf role)
  rw [rolesOf, List.length_map, hfull, ← rolesOf] at hall
  have htank := h.tank
  have hhealer := h.healer
  have hdamage := h.damage
  omega

theorem eq_of_count_le {role : Nat → LFGRole} {r : LFGRole} (h : (m.rolesOf role).count r ≤ 1)
    {entry other : Nat × LFGRoleMask} (hentry : entry ∈ m.entries) (hother : other ∈ m.entries)
    (hrole : role entry.1 = r) (hrole' : role other.1 = r) : entry = other := by
  rw [rolesOf, List.count_eq_length_filter, List.filter_map, List.length_map] at h
  have hin : entry ∈ m.entries.filter ((· == r) ∘ fun entry => role entry.1) :=
    List.mem_filter.mpr ⟨hentry, by simp [hrole]⟩
  have hin' : other ∈ m.entries.filter ((· == r) ∘ fun entry => role entry.1) :=
    List.mem_filter.mpr ⟨hother, by simp [hrole']⟩
  cases hfound : m.entries.filter ((· == r) ∘ fun entry => role entry.1) with
  | nil => rw [hfound] at hin; cases hin
  | cons only rest =>
    rw [hfound, List.length_cons] at h
    have hnone : rest = [] := List.length_eq_zero_iff.mp (by omega)
    rw [hfound, hnone, List.mem_singleton] at hin hin'
    rw [hin, hin']

theorem mem_setRole {guid : Nat} {mask : LFGRoleMask} {entry : Nat × LFGRoleMask} :
    entry ∈ (m.setRole guid mask).entries → entry ∈ m.entries ∧ entry.1 ≠ guid ∨
      entry = (guid, mask) ∧ guid ∈ m.entries.map (·.1) := by
  intro hmem
  rcases mem_modifyKey_of_nodup m.nodup hmem with hold | ⟨hkey, old, hold, hmask⟩
  · exact .inl hold
  · refine .inr ⟨Prod.ext hkey hmask, ?_⟩
    exact List.mem_map_of_mem (f := (·.1)) hold

@[simp] theorem rolesOf_setRole (guid : Nat) (mask : LFGRoleMask) (role : Nat → LFGRole) :
    (m.setRole guid mask).rolesOf role = m.rolesOf role := by
  have hkeys : (m.setRole guid mask).entries.map (·.1) = m.entries.map (·.1) := keys_modifyKey
  have hmap := congrArg (List.map role) hkeys
  rw [List.map_map, List.map_map] at hmap
  exact hmap

@[simp] theorem length_setRole (guid : Nat) (mask : LFGRoleMask) :
    (m.setRole guid mask).entries.length = m.entries.length := length_modifyKey

theorem LFGRoleMask.offers_only {mask : LFGRoleMask} {role : LFGRole} :
    (mask.only role).offers role = mask.offers role := by
  cases role <;> rfl

theorem Assigns.setRole {role : Nat → LFGRole} (h : m.Assigns role) {entry : Nat × LFGRoleMask}
    (hentry : entry ∈ m.entries) : (m.setRole entry.1 (entry.2.only (role entry.1))).Assigns role where
  offers := by
    intro other hother
    rcases mem_setRole hother with ⟨hold, -⟩ | ⟨rfl, -⟩
    · exact h.offers other hold
    · rw [LFGRoleMask.offers_only]
      exact h.offers entry hentry
  tank := by simpa using h.tank
  healer := by simpa using h.healer
  damage := by simpa using h.damage

def HasOnly (m : LFGRolesMap) (role : LFGRole) (guid : Nat) : Prop :=
  role ≠ .damage ∧ ∃ mask : LFGRoleMask, (guid, mask.only role) ∈ m.entries

theorem not_tankTaken {role : LFGRole} {guid : Nat} (h : m.HasOnly role guid) : ¬ TankTaken m.masks := by
  obtain ⟨hrole, mask, hmem⟩ := h
  rintro ⟨hth, hd, hlength, -⟩
  have hin : mask.only role ∈ m.masks := List.mem_map_of_mem (f := (·.2)) hmem
  -- Nobody else is left who offers none of the two kinds of masks.
  have hrest : 0 < m.masks.countP fun mask =>
      !(mask.tank && mask.healer && !mask.damage) && !(mask.damage && !mask.healer) := by
    rw [List.countP_pos_iff]
    refine ⟨_, hin, ?_⟩
    cases role <;> simp_all [LFGRoleMask.only]
  have hsum : ∀ masks : List LFGRoleMask,
      masks.countP (fun mask => mask.tank && mask.healer && !mask.damage) +
        masks.countP (fun mask => mask.damage && !mask.healer) + masks.countP (fun mask =>
          !(mask.tank && mask.healer && !mask.damage) && !(mask.damage && !mask.healer)) = masks.length := by
    intro masks
    induction masks with
    | nil => rfl
    | cons first masks ih =>
      obtain ⟨leader, tank, healer, damage⟩ := first
      cases tank <;> cases healer <;> cases damage <;> simp at ih ⊢ <;> omega
  have hall := hsum m.masks
  omega

theorem ext {m m' : LFGRolesMap} (h : m.entries = m'.entries) : m = m' := by
  cases m
  cases m'
  cases h
  rfl

theorem setRole_setRole (m : LFGRolesMap) (guid : Nat) (mask : LFGRoleMask) :
    (m.setRole guid mask).setRole guid mask = m.setRole guid mask := by
  apply ext
  change modifyKey guid _ (modifyKey guid _ m.entries) = modifyKey guid _ m.entries
  induction m.entries with
  | nil => rfl
  | cons entry entries ih =>
    by_cases hkey : entry.1 = guid
    · simp [modifyKey, hkey]
    · simp [modifyKey, hkey, ih]

theorem mem_modifyKey_self {entries : List (Nat × LFGRoleMask)} {entry : Nat × LFGRoleMask}
    (hentry : entry ∈ entries) (mask : LFGRoleMask) : (entry.1, mask) ∈ modifyKey entry.1 (fun _ => mask) entries := by
  induction entries with
  | nil => cases hentry
  | cons first entries ih =>
    rw [modifyKey]
    split
    case isTrue hkey =>
      rw [hkey]
      exact List.mem_cons_self
    case isFalse hkey =>
      rcases List.mem_cons.mp hentry with rfl | hrest
      · exact absurd rfl hkey
      · exact List.mem_cons_of_mem first (ih hrest)

theorem hasOnly_setRole {entry : Nat × LFGRoleMask} (hentry : entry ∈ m.entries) {role : LFGRole}
    (hrole : role ≠ .damage) : (m.setRole entry.1 (entry.2.only role)).HasOnly role entry.1 :=
  ⟨hrole, entry.2, mem_modifyKey_self hentry _⟩

theorem checkRoles_of_hasOnly {role : LFGRole} {guid : Nat} (honly : m.HasOnly role guid)
    (hfull : m.entries.length = 5) (h : Assignable m.masks) : checkRoles m.masks = true := by
  have hlength : m.masks.length = 5 := by rw [masks, List.length_map, hfull]
  have hne : m.masks ≠ [] := by
    intro hempty
    rw [hempty] at hlength
    cases hlength
  exact checkRoles_of_assignable hne hlength.le h (not_tankTaken honly)

theorem tryEach_spec (m : LFGRolesMap) (role : LFGRole) {entries : List (Nat × LFGRoleMask)}
    {fit : Nat × LFGRoleMask} (hfit : fit ∈ entries)
    (hpass : checkRoles (m.setRole fit.1 (fit.2.only role)).masks = true) (last : Option (Nat × LFGRoleMask)) :
    ∃ entry ∈ entries, checkRoles (m.setRole entry.1 (entry.2.only role)).masks = true ∧ m.tryEach role entries last =
        (m.setRole entry.1 (entry.2.only role), some (entry.1, entry.2.only role)) := by
  induction entries generalizing last with
  | nil => cases hfit
  | cons first entries ih =>
    rw [tryEach]
    by_cases hfirst : checkRoles (m.setRole first.1 (first.2.only role)).masks = true
    · exact ⟨first, List.mem_cons_self, hfirst, if_pos hfirst⟩
    · rw [if_neg hfirst]
      rcases List.mem_cons.mp hfit with rfl | hrest
      · exact absurd hpass hfirst
      · obtain ⟨entry, hmem, hentry, htry⟩ := ih hrest (some (first.1, first.2.only role))
        exact ⟨entry, List.mem_cons_of_mem first hmem, hentry, htry⟩

theorem chooseRole_spec {role : LFGRole} (hrole : role ≠ .damage) (order : Shuffle (Nat × LFGRoleMask))
    (hfull : m.entries.length = 5) (h : Assignable m.masks) : ∃ entry ∈ m.entries, entry.2.offers role = true ∧
      m.chooseRole role order = (m.setRole entry.1 (entry.2.only role), some entry.1) ∧
      Assignable (m.setRole entry.1 (entry.2.only role)).masks := by
  obtain ⟨assigned, hassigned⟩ := exists_assigns h
  have hcounts := hassigned.counts hfull
  have hpos : 0 < (m.rolesOf assigned).count role := by
    cases role
    · omega
    · omega
    · exact absurd rfl hrole
  obtain ⟨fit, hfit, hfitRole⟩ := List.mem_map.mp (List.count_pos_iff.mp hpos)
  have hoffers : fit.2.offers role = true := hfitRole ▸ hassigned.offers fit hfit
  have hin : fit ∈ order.apply (m.entries.filter (·.2.offers role)) :=
    order.mem.mpr (List.mem_filter.mpr ⟨hfit, hoffers⟩)
  have htried : Assignable (m.setRole fit.1 (fit.2.only role)).masks := by
    have hset := hassigned.setRole hfit
    rw [hfitRole] at hset
    exact hset.assignable
  rw [chooseRole]
  cases htmp : order.apply (m.entries.filter (·.2.offers role)) with
  | nil =>
    rw [htmp] at hin
    cases hin
  | cons first rest =>
    cases rest with
    | nil =>
      rw [htmp, List.mem_singleton] at hin
      subst hin
      exact ⟨fit, hfit, hoffers, rfl, htried⟩
    | cons second rest =>
      rw [htmp] at hin
      have hpass := checkRoles_of_hasOnly (hasOnly_setRole hfit hrole) (by simpa using hfull) htried
      obtain ⟨entry, hmem, hentry, htry⟩ := m.tryEach_spec role hin hpass none
      rw [← htmp] at hmem
      obtain ⟨hentry_mem, hentry_offers⟩ := List.mem_filter.mp (order.mem.mp hmem)
      refine ⟨entry, hentry_mem, hentry_offers, ?_, (assignable_of_checkRoles hentry).2.2⟩
      simp only [htry]
      rw [setRole_setRole]

/-- Every player has one of the roles offered, besides the leader bit, and all the roles are taken. -/
structure RolesSet (m : LFGRolesMap) (result : LFGRolesMap × Bool) : Prop where
  done : result.2 = true
  roles : ∃ role : Nat → LFGRole, (∀ entry ∈ m.entries, entry.2.offers (role entry.1) = true) ∧
    result.1.entries = m.entries.map (fun entry => (entry.1, entry.2.only (role entry.1))) ∧
    (m.rolesOf role).count .tank = 1 ∧ (m.rolesOf role).count .healer = 1 ∧ (m.rolesOf role).count .damage = 3

theorem eq_of_key_eq {entry other : Nat × LFGRoleMask} (hentry : entry ∈ m.entries)
    (hother : other ∈ m.entries) (h : entry.1 = other.1) : entry = other :=
  List.inj_on_of_nodup_map m.nodup hentry hother h

theorem setRole_entries (guid : Nat) (mask : LFGRoleMask) : (m.setRole guid mask).entries =
      m.entries.map fun entry => (entry.1, if entry.1 = guid then mask else entry.2) :=
  modifyKey_eq_map m.nodup

theorem Assigns.role_eq {role : Nat → LFGRole} (h : m.Assigns role) {guid : Nat} {mask : LFGRoleMask}
    {r : LFGRole} (hmem : (guid, mask.only r) ∈ m.entries) : role guid = r := by
  have hoffers := h.offers _ hmem
  cases r <;> cases hrole : role guid <;> simp_all [LFGRoleMask.only, LFGRoleMask.offers]

theorem setRoles_spec (tanks healers : Shuffle (Nat × LFGRoleMask)) (hfull : m.entries.length = 5)
    (h : Assignable m.masks) : RolesSet m (m.setRoles tanks healers) := by
  have hne : m.entries ≠ [] := by
    intro hempty
    rw [hempty] at hfull
    cases hfull
  have htank_ne : LFGRole.tank ≠ .damage := by decide
  have hhealer_ne : LFGRole.healer ≠ .damage := by decide
  obtain ⟨tank, htank, htank_offers, hchosen, hassignable⟩ := chooseRole_spec htank_ne tanks hfull h
  obtain ⟨healer, hin, hhealer_offers, hchosen', hassignable'⟩ :=
    chooseRole_spec hhealer_ne healers (by simpa using hfull) hassignable
  -- The tank is no healer any more.
  have hhealer : healer ∈ m.entries ∧ healer.1 ≠ tank.1 := by
    rcases mem_setRole hin with hold | ⟨rfl, -⟩
    · exact hold
    · cases hhealer_offers
  obtain ⟨role, hrole⟩ := exists_assigns hassignable'
  have hcounts := hrole.counts (by simpa using hfull)
  simp only [rolesOf_setRole] at hcounts
  have hrole_healer : role healer.1 = .healer :=
    hrole.role_eq (mem_modifyKey_self hin (healer.2.only .healer))
  have hrole_tank : role tank.1 = .tank := by
    refine @Assigns.role_eq _ role hrole tank.1 tank.2 .tank ?_
    rw [setRole_entries]
    have hmem := mem_modifyKey_self htank (tank.2.only .tank)
    refine List.mem_map.mpr ⟨_, hmem, ?_⟩
    rw [if_neg (Ne.symm hhealer.2)]
  have hothers : ∀ entry ∈ m.entries, entry.1 ≠ tank.1 → entry.1 ≠ healer.1 → role entry.1 = .damage := by
    intro entry hentry hnot_tank hnot_healer
    cases hof : role entry.1 with
    | damage => rfl
    | tank =>
      have hsame := eq_of_count_le hcounts.1.le hentry htank hof hrole_tank
      exact absurd (congrArg (·.1) hsame) hnot_tank
    | healer =>
      have hsame := eq_of_count_le hcounts.2.1.le hentry hhealer.1 hof hrole_healer
      exact absurd (congrArg (·.1) hsame) hnot_healer
  rw [setRoles, if_neg hne, hchosen]
  dsimp only
  rw [hchosen']
  refine ⟨rfl, role, fun entry hentry => ?_, ?_, hcounts⟩
  · by_cases hkey : entry.1 = tank.1
    · rw [eq_of_key_eq hentry htank hkey, hrole_tank]
      exact htank_offers
    by_cases hkey' : entry.1 = healer.1
    · rw [eq_of_key_eq hentry hhealer.1 hkey', hrole_healer]
      exact hhealer_offers
    · have hmem : entry ∈ ((m.setRole tank.1 (tank.2.only .tank)).setRole healer.1
          (healer.2.only .healer)).entries := by
        rw [setRole_entries, setRole_entries, List.map_map]
        refine List.mem_map.mpr ⟨entry, hentry, ?_⟩
        simp [hkey, hkey']
      exact hrole.offers entry hmem
  · change List.map _ _ = _
    rw [setRole_entries, setRole_entries, List.map_map, List.map_map]
    apply List.map_congr_left
    intro entry hentry
    by_cases hkey : entry.1 = tank.1
    · have hnot : tank.1 ≠ healer.1 := Ne.symm hhealer.2
      simp [eq_of_key_eq hentry htank hkey, hrole_tank, hnot]
    by_cases hkey' : entry.1 = healer.1
    · simp [eq_of_key_eq hentry hhealer.1 hkey', hrole_healer]
    · simp [hkey, hkey', hothers entry hentry hkey hkey']

/-- The check is right, and where it says so of a full group, the roles are set. -/
def ChecksAndSets (m : LFGRolesMap) : Prop :=
  (checkRoles m.masks = true ↔ m.entries ≠ [] ∧ m.entries.length ≤ 5 ∧ Assignable m.masks) ∧
    ∀ tanks healers : Shuffle (Nat × LFGRoleMask), checkRoles m.masks = true → m.entries.length = 5 →
      RolesSet m (m.setRoles tanks healers)

end LFGRolesMap

/-- A paladin who heals or is the tank, a warrior who is the tank or deals damage, and three hunters. -/
def warriorsAndPaladin : LFGRolesMap where
  entries := [(1, .of true true false), (2, .of true false true), (3, .of false false true),
    (4, .of false false true), (5, .of false false true)]
  nodup := by decide

end Mangos
