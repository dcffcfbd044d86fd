import Mangos.Guild.FinderMgr

/-!
# Memory and tables of the guild finder

Memory and tables drift apart where a request is repeated, where a guild without requests is deleted,
and once a second guild has settings, of which a start loads one only.
-/

namespace Mangos

open Std Framework

namespace FinderTables

variable {t : FinderTables} {sts : List FinderStatement}

theorem lookup_applicants (h : ∀ row, .replaceApplicant row ∉ sts) (k : Nat × Nat) :
    (sts.foldl execute t).applicants.lookup k =
      if .deleteApplicant k.1 k.2 ∈ sts then none else t.applicants.lookup k := by
  induction sts generalizing t with
  | nil => simp
  | cons st sts ih =>
    rw [List.foldl_cons, ih fun row hrow => h row (List.mem_cons_of_mem st hrow)]
    cases st with
    | replaceApplicant row => exact absurd List.mem_cons_self (h row)
    | deleteApplicant guildId playerGuid =>
      simp only [execute, Table.lookup_delete, List.mem_cons, FinderStatement.deleteApplicant.injEq]
      by_cases hk : k = (guildId, playerGuid)
      · simp [hk]
      · have hne : ¬ (k.1 = guildId ∧ k.2 = playerGuid) := fun h => hk (Prod.ext h.1 h.2)
        simp [hk, hne]
    | replaceSettings row => simp [execute]
    | deleteSettings guildId => simp [execute]

theorem lookup_guildSettings (h : ∀ row, .replaceSettings row ∉ sts) (g : Nat) :
    (sts.foldl execute t).guildSettings.lookup g =
      if .deleteSettings g ∈ sts then none else t.guildSettings.lookup g := by
  induction sts generalizing t with
  | nil => simp
  | cons st sts ih =>
    rw [List.foldl_cons, ih fun row hrow => h row (List.mem_cons_of_mem st hrow)]
    cases st with
    | replaceApplicant row => simp [execute]
    | deleteApplicant guildId playerGuid => simp [execute]
    | replaceSettings row => exact absurd List.mem_cons_self (h row)
    | deleteSettings guildId =>
      simp only [execute, Table.lookup_delete, List.mem_cons, FinderStatement.deleteSettings.injEq]
      by_cases hk : g = guildId
      · simp [hk]
      · simp [hk]

end FinderTables

theorem mem_eraseP_player {requests : List MembershipRequest} {playerId : Nat} {r : MembershipRequest}
    (h : (requests.map (·.playerGuid)).Nodup) :
    r ∈ requests.eraseP (·.playerGuid = playerId) ↔ r ∈ requests ∧ r.playerGuid ≠ playerId := by
  induction requests with
  | nil => simp
  | cons r' requests ih =>
    rw [List.map_cons, List.nodup_cons] at h
    rw [List.eraseP_cons]
    by_cases heq : r'.playerGuid = playerId
    · have hout : ∀ q ∈ requests, q.playerGuid ≠ playerId := by
        intro q hq hplayer
        apply h.1
        rw [heq, ← hplayer]
        exact List.mem_map_of_mem hq
      simp only [heq, decide_true, cond_true, List.mem_cons]
      constructor
      · exact fun hr => ⟨.inr hr, hout r hr⟩
      · rintro ⟨rfl | hr, hne⟩
        · exact absurd heq hne
        · exact hr
    · simp only [heq, decide_false, cond_false, List.mem_cons, ih h.2]
      constructor
      · rintro (rfl | ⟨hr, hne⟩)
        · exact ⟨.inl rfl, heq⟩
        · exact ⟨.inr hr, hne⟩
      · rintro ⟨rfl | hr, hne⟩
        · exact .inl rfl
        · exact .inr ⟨hr, hne⟩

theorem eraseP_player_nodup {requests : List MembershipRequest} {playerId : Nat}
    (h : (requests.map (·.playerGuid)).Nodup) :
    ((requests.eraseP (·.playerGuid = playerId)).map (·.playerGuid)).Nodup :=
  h.sublist ((List.eraseP_sublist).map _)

namespace GuildFinderMgr

variable {m : GuildFinderMgr} {g : Nat}

@[simp] theorem requestsOf_empty : empty.requestsOf g = [] := by simp [requestsOf, empty]

theorem requestsOf_addMembershipRequest {guildGuid : Nat} {request : MembershipRequest} :
    (m.addMembershipRequest guildGuid request).1.requestsOf g =
      if guildGuid = g then m.requestsOf g ++ [request] else m.requestsOf g := by
  by_cases h : guildGuid = g
  · simp [addMembershipRequest, requestsOf, h]
  · simp [addMembershipRequest, requestsOf, h]

theorem requestsOf_removeAll {playerId : Nat} : (m.removeAllMembershipRequestsFromPlayer playerId).1.requestsOf g =
      (m.requestsOf g).eraseP (·.playerGuid = playerId) := by
  simp only [removeAllMembershipRequestsFromPlayer, requestsOf, ExtTreeMap.getElem?_map]
  cases m.membershipRequests[g]? with
  | none => simp
  | some requests => simp

theorem requestsOf_removeMembershipRequest {playerId guildId : Nat} :
    (m.removeMembershipRequest playerId guildId).1.requestsOf g =
      if guildId = g then (m.requestsOf g).eraseP (·.playerGuid = playerId) else m.requestsOf g := by
  by_cases h : guildId = g
  · simp [removeMembershipRequest, requestsOf, h]
  · simp [removeMembershipRequest, requestsOf, h]

theorem requestsOf_deleteGuild {guildId : Nat} :
    (m.deleteGuild guildId).1.requestsOf g = if guildId = g then [] else m.requestsOf g := by
  by_cases h : guildId = g
  · simp [deleteGuild, requestsOf, h]
  · simp [deleteGuild, requestsOf, h]

theorem mem_removeAll_statements {playerId : Nat} {st : FinderStatement} :
    st ∈ (m.removeAllMembershipRequestsFromPlayer playerId).2 ↔
      ∃ g r, (m.requestsOf g).find? (·.playerGuid = playerId) = some r ∧
        .deleteApplicant r.guildId r.playerGuid = st := by
  simp only [removeAllMembershipRequestsFromPlayer, List.mem_filterMap, Option.map_eq_some_iff]
  constructor
  · rintro ⟨⟨g, requests⟩, hmem, r, hfind, rfl⟩
    have hget : m.membershipRequests[g]? = some requests :=
      ExtTreeMap.mem_toList_iff_getElem?_eq_some.mp hmem
    exact ⟨g, r, by simpa [requestsOf, hget] using hfind, rfl⟩
  · rintro ⟨g, r, hfind, rfl⟩
    cases hget : m.membershipRequests[g]? with
    | none => simp [requestsOf, hget] at hfind
    | some requests =>
      have hmem : (g, requests) ∈ m.membershipRequests.toList :=
        ExtTreeMap.mem_toList_iff_getElem?_eq_some.mpr hget
      exact ⟨(g, requests), hmem, r, by simpa [requestsOf, hget] using hfind, rfl⟩

end GuildFinderMgr

namespace FinderState

variable {s : FinderState}

theorem Agree.guildId_eq (h : s.Agree) {g : Nat} {r : MembershipRequest} (hr : r ∈ s.mgr.requestsOf g) :
    r.guildId = g := ((h.requests g r).mp hr).1

theorem Agree.requests_of_deleted (h : s.Agree) {s' : FinderState} (gone : Nat × Nat → Prop) [DecidablePred gone]
    (hmem : ∀ g r, r ∈ s'.mgr.requestsOf g ↔ r ∈ s.mgr.requestsOf g ∧ ¬ gone (applicantKey r))
    (hrow : ∀ k, s'.tables.applicants.lookup k =
      if gone k then none else s.tables.applicants.lookup k) (g : Nat) (r : MembershipRequest) :
    r ∈ s'.mgr.requestsOf g ↔ r.guildId = g ∧ s'.tables.applicants.lookup (applicantKey r) = some r := by
  rw [hmem, hrow, h.requests]
  by_cases hgone : gone (applicantKey r)
  · simp [hgone]
  · simp [hgone]

theorem Agree.addMembershipRequest (h : s.Agree) {request : MembershipRequest}
    (hnew : s.mgr.hasRequest request.playerGuid request.guildId = false)
    (htime : request.submitTime < 2 ^ 32) : (s.step (.addMembershipRequest request)).Agree where
  requests g r := by
    have hrow : request.row = request := by
      rw [MembershipRequest.row, Nat.mod_eq_of_lt htime]
    have hplayers : ∀ q ∈ s.mgr.requestsOf request.guildId, q.playerGuid ≠ request.playerGuid := by
      simpa [GuildFinderMgr.hasRequest] using hnew
    simp only [step, perform, GuildFinderMgr.requestsOf_addMembershipRequest]
    simp only [GuildFinderMgr.addMembershipRequest, List.foldl_cons, List.foldl_nil,
      FinderTables.execute, hrow, Table.lookup_replace]
    by_cases hkey : applicantKey r = applicantKey request
    · rw [if_pos hkey, Option.some.injEq]
      simp only [applicantKey, Prod.mk.injEq] at hkey
      constructor
      · intro hr
        split at hr
        next hg =>
          subst hg
          rcases List.mem_append.mp hr with hold | hlast
          · exact absurd hkey.2 (hplayers r hold)
          · exact ⟨hkey.1, (List.mem_singleton.mp hlast).symm⟩
        next hg => exact absurd (hkey.1.symm.trans (h.guildId_eq hr)) hg
      · rintro ⟨hg, rfl⟩
        simp [hg]
    · rw [if_neg hkey, ← h.requests]
      have hne : r ≠ request := fun heq => hkey (congrArg applicantKey heq)
      split
      · simp [hne]
      · rfl
  unique g := by
    have hplayers : request.playerGuid ∉ (s.mgr.requestsOf request.guildId).map (·.playerGuid) := by
      simpa [GuildFinderMgr.hasRequest] using hnew
    simp only [step, perform, GuildFinderMgr.requestsOf_addMembershipRequest]
    split
    next hg =>
      subst hg
      rw [List.map_append, List.map_singleton, ← List.concat_eq_append, List.nodup_concat]
      exact ⟨hplayers, h.unique _⟩
    next => exact h.unique g
  settings := h.settings

theorem Agree.mem_removeAll (h : s.Agree) {playerId g : Nat} {r : MembershipRequest}
    (hr : r ∈ s.mgr.requestsOf g) : .deleteApplicant r.guildId r.playerGuid ∈
        (s.mgr.removeAllMembershipRequestsFromPlayer playerId).2 ↔ r.playerGuid = playerId := by
  rw [GuildFinderMgr.mem_removeAll_statements]
  constructor
  · rintro ⟨g', r', hfind, heq⟩
    have hplayer : r'.playerGuid = playerId := by simpa using List.find?_some hfind
    rw [FinderStatement.deleteApplicant.injEq] at heq
    exact heq.2.symm.trans hplayer
  · intro hplayer
    cases hfind : (s.mgr.requestsOf g).find? (·.playerGuid = playerId) with
    | none =>
      have hnone := List.find?_eq_none.mp hfind r hr
      simp [hplayer] at hnone
    | some r' =>
      refine ⟨g, r', hfind, ?_⟩
      have hr' : r' ∈ s.mgr.requestsOf g := List.mem_of_find?_eq_some hfind
      have hplayer' : r'.playerGuid = playerId := by simpa using List.find?_some hfind
      rw [h.guildId_eq hr, h.guildId_eq hr', hplayer, hplayer']

theorem Agree.removeAll (h : s.Agree) (playerId : Nat) :
    (s.step (.removeAllMembershipRequestsFromPlayer playerId)).Agree := by
  have hwrites : ∀ st ∈ (s.mgr.removeAllMembershipRequestsFromPlayer playerId).2,
      ∃ g p, st = .deleteApplicant g p := by
    intro st hst
    obtain ⟨-, r, -, rfl⟩ := GuildFinderMgr.mem_removeAll_statements.mp hst
    exact ⟨_, _, rfl⟩
  constructor
  case requests =>
    apply h.requests_of_deleted fun k =>
      .deleteApplicant k.1 k.2 ∈ (s.mgr.removeAllMembershipRequestsFromPlayer playerId).2
    · intro g r
      simp only [step, perform, GuildFinderMgr.requestsOf_removeAll, mem_eraseP_player (h.unique g),
        and_congr_right_iff, not_iff_not]
      exact fun hr => (h.mem_removeAll hr).symm
    · apply FinderTables.lookup_applicants
      intro row hst
      obtain ⟨_, _, heq⟩ := hwrites _ hst
      cases heq
  case unique =>
    intro g
    simp only [step, perform, GuildFinderMgr.requestsOf_removeAll]
    exact eraseP_player_nodup (h.unique g)
  case settings =>
    intro g
    simp only [step, perform]
    rw [FinderTables.lookup_guildSettings, if_neg]
    · exact h.settings g
    · intro hst
      obtain ⟨_, _, heq⟩ := hwrites _ hst
      cases heq
    · intro row hst
      obtain ⟨_, _, heq⟩ := hwrites _ hst
      cases heq

theorem Agree.removeMembershipRequest (h : s.Agree) (playerId guildId : Nat) :
    (s.step (.removeMembershipRequest playerId guildId)).Agree := by
  have hwrites : (s.mgr.removeMembershipRequest playerId guildId).2 =
      if ∃ r ∈ s.mgr.requestsOf guildId, r.playerGuid = playerId then
        [.deleteApplicant guildId playerId] else [] := by
    simp only [GuildFinderMgr.removeMembershipRequest]
    cases hfind : (s.mgr.requestsOf guildId).find? (·.playerGuid = playerId) with
    | none =>
      have hnone := List.find?_eq_none.mp hfind
      rw [if_neg]
      · rfl
      · rintro ⟨r, hr, hplayer⟩
        simpa [hplayer] using hnone r hr
    | some r =>
      have hr : r ∈ s.mgr.requestsOf guildId := List.mem_of_find?_eq_some hfind
      have hplayer : r.playerGuid = playerId := by simpa using List.find?_some hfind
      rw [if_pos ⟨r, hr, hplayer⟩]
      simp [h.guildId_eq hr, hplayer]
  constructor
  case requests =>
    apply h.requests_of_deleted fun k =>
      .deleteApplicant k.1 k.2 ∈ (s.mgr.removeMembershipRequest playerId guildId).2
    · intro g r
      simp only [step, perform, GuildFinderMgr.requestsOf_removeMembershipRequest, hwrites, applicantKey]
      by_cases hg : guildId = g
      · subst hg
        rw [if_pos rfl, mem_eraseP_player (h.unique guildId), and_congr_right_iff, not_iff_not]
        intro hr
        constructor
        · intro hplayer
          rw [if_pos ⟨r, hr, hplayer⟩]
          simp [h.guildId_eq hr, hplayer]
        · intro hmem
          split at hmem
          · simp at hmem
            exact hmem.2
          · simp at hmem
      · rw [if_neg hg]
        constructor
        · intro hr
          refine ⟨hr, fun hmem => hg ?_⟩
          split at hmem
          · simp at hmem
            rw [← hmem.1, h.guildId_eq hr]
          · simp at hmem
        · exact fun hr => hr.1
    · apply FinderTables.lookup_applicants
      intro row hst
      simp only [perform, hwrites] at hst
      split at hst
      · simp at hst
      · simp at hst
  case unique =>
    intro g
    simp only [step, perform, GuildFinderMgr.requestsOf_removeMembershipRequest]
    split
    · exact eraseP_player_nodup (h.unique g)
    · exact h.unique g
  case settings =>
    intro g
    simp only [step, perform, hwrites]
    split
    · exact h.settings g
    · exact h.settings g

theorem Agree.setGuildSettings (h : s.Agree) (settings : LFGuildSettings) :
    (s.step (.setGuildSettings settings)).Agree where
  requests := h.requests
  unique := h.unique
  settings g := by
    simp only [step, perform, GuildFinderMgr.setGuildSettings, List.foldl_cons, List.foldl_nil,
      FinderTables.execute, Table.lookup_replace, lookup_insert]
    by_cases hg : settings.row.guildId = g
    · simp [hg]
    · rw [if_neg hg, if_neg fun heq => hg heq.symm]
      exact h.settings g

theorem Agree.deleteGuild (h : s.Agree) {guildId : Nat}
    (hrows : s.mgr.requestsOf guildId ≠ [] ∨ s.mgr.guildSettings[guildId]? = none) :
    (s.step (.deleteGuild guildId)).Agree := by
  have hwrites : ∀ st, st ∈ (s.mgr.deleteGuild guildId).2 ↔
      (∃ r ∈ s.mgr.requestsOf guildId, st = .deleteApplicant guildId r.playerGuid) ∨
        s.mgr.requestsOf guildId ≠ [] ∧ st = .deleteSettings guildId := by
    intro st
    simp only [GuildFinderMgr.deleteGuild, List.mem_flatMap, List.mem_cons, List.not_mem_nil, or_false]
    constructor
    · rintro ⟨r, hr, rfl | rfl⟩
      · exact .inl ⟨r, hr, by rw [h.guildId_eq hr]⟩
      · exact .inr ⟨List.ne_nil_of_mem hr, by rw [h.guildId_eq hr]⟩
    · rintro (⟨r, hr, rfl⟩ | ⟨hne, rfl⟩)
      · exact ⟨r, hr, .inl (by rw [h.guildId_eq hr])⟩
      · obtain ⟨r, hr⟩ := List.exists_mem_of_ne_nil _ hne
        exact ⟨r, hr, .inr (by rw [h.guildId_eq hr])⟩
  constructor
  case requests =>
    apply h.requests_of_deleted fun k => .deleteApplicant k.1 k.2 ∈ (s.mgr.deleteGuild guildId).2
    · intro g r
      simp only [step, perform, GuildFinderMgr.requestsOf_deleteGuild, hwrites, applicantKey]
      by_cases hg : guildId = g
      · subst hg
        simp only [if_true, List.not_mem_nil, false_iff]
        intro ⟨hr, hout⟩
        exact hout (.inl ⟨r, hr, by rw [h.guildId_eq hr]⟩)
      · simp only [if_neg hg, iff_self_and]
        rintro hr (⟨r', -, heq⟩ | ⟨-, heq⟩)
        · rw [FinderStatement.deleteApplicant.injEq] at heq
          exact hg (heq.1.symm.trans (h.guildId_eq hr))
        · cases heq
    · apply FinderTables.lookup_applicants
      intro row hst
      rcases (hwrites _).mp hst with ⟨_, -, heq⟩ | ⟨-, heq⟩
      · cases heq
      · cases heq
  case unique =>
    intro g
    simp only [step, perform, GuildFinderMgr.requestsOf_deleteGuild]
    split
    · exact List.nodup_nil
    · exact h.unique g
  case settings =>
    intro g
    simp only [step, perform]
    rw [FinderTables.lookup_guildSettings]
    · have hmem : .deleteSettings g ∈ (s.mgr.deleteGuild guildId).2 ↔
          s.mgr.requestsOf guildId ≠ [] ∧ g = guildId := by
        simp [hwrites]
      have hget : (s.mgr.deleteGuild guildId).1.guildSettings[g]? =
          if guildId = g then none else s.mgr.guildSettings[g]? := by
        simp [GuildFinderMgr.deleteGuild]
      rw [hget]
      by_cases hg : guildId = g
      · subst hg
        rw [if_pos rfl]
        split
        · rfl
        next hst =>
          have hnone : s.mgr.guildSettings[guildId]? = none :=
            hrows.resolve_left fun hne => hst (hmem.mpr ⟨hne, rfl⟩)
          rw [← h.settings, hnone]
      · rw [if_neg hg, if_neg fun hst => hg (hmem.mp hst).2.symm]
        exact h.settings g
    · intro row hst
      rcases (hwrites _).mp hst with ⟨_, -, heq⟩ | ⟨-, heq⟩
      · cases heq
      · cases heq

theorem requestsOf_loadMembershipRequests (m : GuildFinderMgr) (w : FinderWorld)
    (rows : List MembershipRequest) (g : Nat) : (m.loadMembershipRequests w rows).requestsOf g =
      m.requestsOf g ++ ((w.applicantOrder.apply rows).filter (w.hasName ·.playerGuid)).filter (·.guildId = g) := by
  rw [GuildFinderMgr.loadMembershipRequests]
  generalize (w.applicantOrder.apply rows).filter (w.hasName ·.playerGuid) = loaded
  induction loaded generalizing m with
  | nil => simp [GuildFinderMgr.requestsOf]
  | cons r loaded ih =>
    have hrest := ih { m with
      membershipRequests := upsert m.membershipRequests r.guildId [] (· ++ [r]) }
    rw [List.foldl_cons]
    refine hrest.trans ?_
    by_cases hg : r.guildId = g
    · simp [GuildFinderMgr.requestsOf, hg]
    · simp [GuildFinderMgr.requestsOf, hg]

theorem Agree.perm_load (h : s.Agree) {w : FinderWorld} (hw : Fits s.mgr w) (g : Nat) :
    (s.mgr.requestsOf g).Perm ((GuildFinderMgr.loadFromDB w s.tables).requestsOf g) := by
  have hrows : ∀ r, r ∈ s.tables.applicants.rows ∧ r.guildId = g ↔ r ∈ s.mgr.requestsOf g := by
    intro r
    rw [h.requests, Table.lookup_eq_some]
    simp [and_comm]
  have hold : ((GuildFinderMgr.empty.loadGuildSettings w s.tables.guildSettings.rows).requestsOf g) =
      [] := GuildFinderMgr.requestsOf_empty
  rw [GuildFinderMgr.loadFromDB, requestsOf_loadMembershipRequests, hold, List.nil_append]
  apply (List.perm_ext_iff_of_nodup _ _).mpr
  · intro r
    simp only [List.mem_filter, w.applicantOrder.mem, decide_eq_true_eq]
    constructor
    · intro hr
      have hrow := (hrows r).mpr hr
      exact ⟨⟨hrow.1, hw.names g r hr⟩, hrow.2⟩
    · exact fun hr => (hrows r).mp ⟨hr.1.1, hr.2⟩
  · exact (h.unique g).of_map _
  · apply List.Nodup.filter
    apply List.Nodup.filter
    exact (w.applicantOrder.perm _).nodup_iff.mpr s.tables.applicants.nodup.of_map

def OneListed (s : FinderState) : Prop :=
  ∀ g g' : Nat, s.mgr.guildSettings[g]? ≠ none → s.mgr.guildSettings[g']? ≠ none → g = g'

theorem mem_joinedSettings {w : FinderWorld} {rows : List GuildSettingsRow}
    {p : GuildSettingsRow × Nat} : p ∈ GuildFinderMgr.joinedSettings w rows ↔
      p.1 ∈ rows ∧ p.2 ∈ if w.memberRaces p.1.guildId = [] then [0] else w.memberRaces p.1.guildId := by
  obtain ⟨row, race⟩ := p
  simp only [GuildFinderMgr.joinedSettings, List.mem_flatMap]
  constructor
  · rintro ⟨row', hrow', hp⟩
    split at hp
    next hnone =>
      rw [List.mem_singleton] at hp
      cases hp
      simp [hrow', hnone]
    next hsome =>
      obtain ⟨race', hrace', heq⟩ := List.mem_map.mp hp
      cases heq
      simp [hrow', hsome, hrace']
  · rintro ⟨hrow, hrace⟩
    refine ⟨row, hrow, ?_⟩
    split at hrace
    next hnone => simpa [hnone] using hrace
    next hsome => simpa [hsome] using hrace

theorem loadFromDB_guildSettings (w : FinderWorld) (t : FinderTables) : (GuildFinderMgr.loadFromDB w t).guildSettings =
      match w.settingsOrder.apply (GuildFinderMgr.joinedSettings w t.guildSettings.rows) with
      | [] => ∅
      | p :: _ => (∅ : ExtTreeMap Nat LFGuildSettings).insert p.1.guildId ⟨p.1, w.team p.2⟩ := by
  simp only [GuildFinderMgr.loadFromDB, GuildFinderMgr.loadMembershipRequests, GuildFinderMgr.loadGuildSettings]
  cases w.settingsOrder.apply (GuildFinderMgr.joinedSettings w t.guildSettings.rows) with
  | nil => rfl
  | cons p rest => rfl

theorem Agree.settings_load (h : s.Agree) (hone : s.OneListed) {w : FinderWorld} (hw : Fits s.mgr w)
    (g : Nat) : s.mgr.guildSettings[g]? = (GuildFinderMgr.loadFromDB w s.tables).guildSettings[g]? := by
  have hrow : ∀ row ∈ s.tables.guildSettings.rows,
      ∃ team, s.mgr.guildSettings[row.guildId]? = some ⟨row, team⟩ := by
    intro row hmem
    have hlookup := Table.lookup_eq_some.mpr ⟨hmem, rfl⟩
    rw [← h.settings, Option.map_eq_some_iff] at hlookup
    obtain ⟨⟨row', team⟩, hget, rfl⟩ := hlookup
    exact ⟨team, hget⟩
  rw [loadFromDB_guildSettings]
  split
  next hnil =>
    have hempty : GuildFinderMgr.joinedSettings w s.tables.guildSettings.rows = [] := by
      have hperm := w.settingsOrder.perm (GuildFinderMgr.joinedSettings w s.tables.guildSettings.rows)
      rw [hnil] at hperm
      exact hperm.symm.eq_nil
    cases hget : s.mgr.guildSettings[g]? with
    | none => simp
    | some settings =>
      have hlookup := h.settings g
      rw [hget, Option.map_some] at hlookup
      have hmem := (Table.lookup_eq_some.mp hlookup.symm).1
      obtain ⟨race, hrace⟩ : ∃ race, race ∈ if w.memberRaces settings.row.guildId = [] then [0]
          else w.memberRaces settings.row.guildId := by
        split
        · exact ⟨0, List.mem_singleton_self 0⟩
        next hne => exact List.exists_mem_of_ne_nil _ hne
      have hjoined : (settings.row, race) ∈
          GuildFinderMgr.joinedSettings w s.tables.guildSettings.rows :=
        mem_joinedSettings.mpr ⟨hmem, hrace⟩
      rw [hempty] at hjoined
      cases hjoined
  next p rest hcons =>
    have hp : p ∈ GuildFinderMgr.joinedSettings w s.tables.guildSettings.rows := by
      rw [← w.settingsOrder.mem, hcons]
      exact List.mem_cons_self
    obtain ⟨hmem, hrace⟩ := mem_joinedSettings.mp hp
    obtain ⟨team, hget⟩ := hrow p.1 hmem
    have hteam : w.team p.2 = team := hw.teams _ _ hget p.2 hrace
    rw [lookup_insert, hteam]
    split
    next hg => rw [← hg, hget]
    next hg =>
      rw [ExtTreeMap.getElem?_empty]
      by_contra hsome
      exact hg (hone _ _ (by simp [hget]) hsome)

theorem Agree.sameStores_load (h : s.Agree) (hone : s.OneListed) {w : FinderWorld}
    (hw : Fits s.mgr w) : SameStores s.mgr (GuildFinderMgr.loadFromDB w s.tables) where
  requests := h.perm_load hw
  settings := h.settings_load hone hw

theorem agree_start : start.Agree where
  requests g r := by
    constructor
    · intro hr
      simp [start] at hr
    · rintro ⟨-, hrow⟩
      simp [start, FinderTables.empty] at hrow
  unique g := by simp [start]
  settings g := by simp [start, GuildFinderMgr.empty, FinderTables.empty]

theorem Agree.step (h : s.Agree) {op : FinderOp} (hop : s.Proper op) : (s.step op).Agree := by
  cases op with
  | addMembershipRequest request => exact h.addMembershipRequest hop.1 hop.2
  | removeAllMembershipRequestsFromPlayer playerId => exact h.removeAll playerId
  | removeMembershipRequest playerId guildId => exact h.removeMembershipRequest playerId guildId
  | setGuildSettings settings => exact h.setGuildSettings settings
  | deleteGuild guildId => exact h.deleteGuild hop

theorem OneListed.step (h : s.OneListed) {op : FinderOp} (hop : s.Proper op) : (s.step op).OneListed := by
  cases op with
  | addMembershipRequest request => exact h
  | removeAllMembershipRequestsFromPlayer playerId => exact h
  | removeMembershipRequest playerId guildId => exact h
  | setGuildSettings settings =>
    have honly : ∀ g : Nat, (s.step (.setGuildSettings settings)).mgr.guildSettings[g]? ≠ none →
        settings.row.guildId = g := by
      intro g hg
      by_contra hne
      simp only [FinderState.step, perform, GuildFinderMgr.setGuildSettings, lookup_insert, if_neg hne] at hg
      exact hg (hop g (Ne.symm hne))
    exact fun g g' hg hg' => (honly g hg).symm.trans (honly g' hg')
  | deleteGuild guildId =>
    have hold : ∀ g : Nat, (s.step (.deleteGuild guildId)).mgr.guildSettings[g]? ≠ none →
        s.mgr.guildSettings[g]? ≠ none := by
      intro g hg
      simp only [FinderState.step, perform, GuildFinderMgr.deleteGuild, lookup_erase] at hg
      split at hg
      · exact absurd rfl hg
      · exact hg
    exact fun g g' hg hg' => h g g' (hold g hg) (hold g' hg')

def fittingWorld (m : GuildFinderMgr) : FinderWorld where
  hasName _ := true
  memberRaces g := if (m.guildSettings[g]?).map (·.team) = some .horde then [1] else [0]
  isHorde race := race = 1
  settingsOrder := .id _
  applicantOrder := .id _

theorem fits_fittingWorld (m : GuildFinderMgr) : Fits m (fittingWorld m) where
  names _ _ _ := rfl
  teams g settings hget race hrace := by
    have hnone : (fittingWorld m).memberRaces g ≠ [] := by
      simp only [fittingWorld]
      split
      · simp
      · simp
    rw [if_neg hnone] at hrace
    cases hteam : settings.team with
    | horde =>
      have hrace' : race = 1 := by simpa [fittingWorld, hget, hteam] using hrace
      simp [FinderWorld.team, fittingWorld, hrace']
    | alliance =>
      have hrace' : race = 0 := by simpa [fittingWorld, hget, hteam] using hrace
      simp [FinderWorld.team, fittingWorld, hrace']

theorem Consistent.oneListed (h : s.Consistent) : s.OneListed := by
  intro g g' hg hg'
  have hloaded := (h.load _ (fits_fittingWorld s.mgr)).settings
  rw [hloaded, loadFromDB_guildSettings] at hg hg'
  revert hg hg'
  cases (fittingWorld s.mgr).settingsOrder.apply
      (GuildFinderMgr.joinedSettings (fittingWorld s.mgr) s.tables.guildSettings.rows) with
  | nil => simp
  | cons p rest =>
    simp only [lookup_insert, ExtTreeMap.getElem?_empty, ne_eq, ite_eq_right_iff, reduceCtorEq, imp_false, not_not]
    exact fun hg hg' => hg.symm.trans hg'

theorem not_consistent_step (h : s.Agree) {op : FinderOp} (hop : ¬ s.Proper op) : ¬ (s.step op).Consistent := by
  intro hnext
  cases op with
  | addMembershipRequest request =>
    apply hop
    constructor
    · have hunique := hnext.agree.unique request.guildId
      simp only [FinderState.step, perform, GuildFinderMgr.requestsOf_addMembershipRequest, if_true,
        List.map_append, List.map_singleton] at hunique
      rw [← List.concat_eq_append, List.nodup_concat] at hunique
      simpa [GuildFinderMgr.hasRequest] using hunique.1
    · have hmem : request ∈ (s.step (.addMembershipRequest request)).mgr.requestsOf
          request.guildId := by
        simp [FinderState.step, perform, GuildFinderMgr.requestsOf_addMembershipRequest]
      have hrow := ((hnext.agree.requests _ _).mp hmem).2
      have hkey : applicantKey request = applicantKey request.row := rfl
      simp only [FinderState.step, perform, GuildFinderMgr.addMembershipRequest, List.foldl_cons,
        List.foldl_nil, FinderTables.execute, Table.lookup_replace, hkey, if_true] at hrow
      have htime : request.submitTime % 2 ^ 32 = request.submitTime :=
        congrArg MembershipRequest.submitTime (Option.some.inj hrow)
      rw [← htime]
      exact Nat.mod_lt _ (by decide)
  | removeAllMembershipRequestsFromPlayer playerId => exact hop trivial
  | removeMembershipRequest playerId guildId => exact hop trivial
  | setGuildSettings settings =>
    apply hop
    intro g hne
    by_contra hsome
    apply hne
    apply hnext.oneListed
    · simpa [FinderState.step, perform, GuildFinderMgr.setGuildSettings, Ne.symm hne] using hsome
    · simp [FinderState.step, perform, GuildFinderMgr.setGuildSettings]
  | deleteGuild guildId =>
    apply hop
    by_contra hnot
    simp only [Proper, not_or, not_not] at hnot
    have hsettings := hnext.agree.settings guildId
    simp only [FinderState.step, perform, GuildFinderMgr.deleteGuild, hnot.1, List.flatMap_nil,
      List.foldl_nil, lookup_erase, if_true, ← h.settings] at hsettings
    exact hnot.2 (Option.map_eq_none_iff.mp hsettings.symm)

/-- Memory and tables stay consistent exactly through the operations that are proper. -/
theorem consistent_run_iff (ops : List FinderOp) :
    (∀ fs, fs <+: ops → (run step start fs).Consistent) ↔ Guarded step Proper start ops := by
  have hconsistent : ∀ s : FinderState, s.Agree ∧ s.OneListed → s.Consistent :=
    fun s h => ⟨h.1, fun w hw => h.1.sameStores_load h.2 hw⟩
  have hstep : ∀ (s : FinderState) op, s.Proper op → s.Agree ∧ s.OneListed →
      (s.step op).Agree ∧ (s.step op).OneListed :=
    fun s op hop h => ⟨h.1.step hop, h.2.step hop⟩
  have hbad : ∀ (s : FinderState) op, ¬ s.Proper op → s.Agree ∧ s.OneListed → ¬ (s.step op).Consistent :=
    fun s op hop h => not_consistent_step h.1 hop
  have hstart : start.OneListed := by
    intro g g' hg
    simp [start, GuildFinderMgr.empty] at hg
  exact run_always_iff hconsistent hstep hbad ⟨agree_start, hstart⟩

/-- A request that is repeated stays twice in the memory; a guild that nobody asked to join keeps the row
of its settings. -/
theorem not_consistent_runs :
    let request : MembershipRequest := ⟨1, 7, 1, 1, 1, "", 0⟩
    let settings : LFGuildSettings := ⟨⟨1, 1, 1, 1, 1, true, ""⟩, .alliance⟩
    ¬ (run step start [.addMembershipRequest request, .addMembershipRequest request]).Consistent ∧
    ¬ (run step start [.setGuildSettings settings, .deleteGuild 1]).Consistent := by
  intro request settings
  constructor
  · have hfirst : (start.step (.addMembershipRequest request)).Agree :=
      agree_start.addMembershipRequest (by simp [GuildFinderMgr.hasRequest, start]) (by decide)
    have hrepeated : ¬ (start.step (.addMembershipRequest request)).Proper
        (.addMembershipRequest request) := by
      simp [Proper, FinderState.step, perform, GuildFinderMgr.hasRequest, start,
        GuildFinderMgr.requestsOf_addMembershipRequest]
    exact not_consistent_step hfirst hrepeated
  · have hlisted : (start.step (.setGuildSettings settings)).Agree :=
      agree_start.setGuildSettings settings
    have hnobody : ¬ (start.step (.setGuildSettings settings)).Proper (.deleteGuild 1) := by
      simp [Proper, FinderState.step, perform, GuildFinderMgr.setGuildSettings, start,
        GuildFinderMgr.requestsOf, GuildFinderMgr.empty, settings]
    exact not_consistent_step hlisted hnobody

end FinderState

end Mangos
