import GscFq.Lists
import GscFq.ResilientSessions

namespace GscFq.Resilient

open Transitions

variable {c : ReconnectConfig}

/-- Nothing calls it. -/
def SessionInfo.isExpired (i : SessionInfo) (now timeout : ℕ) : Bool := decide (timeout < now - i.lastUpdated)

def Creates (k : SessionId) (s : State) : Event → Prop
  | .create _ _ _ => s.infos.length = k
  | _ => False

/-- The event stores data for the session `k` or takes its data, or creates it. -/
def Uses (k : SessionId) (s : State) : Event → Prop
  | .create _ _ _ => s.infos.length = k
  | .cache id _ => s.sessions.lookup id = some k
  | .take k' => k' = k
  | _ => False

/-- The last event of the kind `P` in the run was at time `t`. -/
def Latest (c : ReconnectConfig) (P : State → Event → Prop) (es : List Event) (t : ℕ) : Prop :=
  (∃ u e, Occurs (step c) init es u e ∧ P u e ∧ u.now = t) ∧ ∀ u e, Occurs (step c) init es u e → P u e → u.now ≤ t

def Recent (c : ReconnectConfig) (P : State → Event → Prop) (es : List Event) (now : ℕ) : Prop :=
  ∃ u e, Occurs (step c) init es u e ∧ P u e ∧ now - u.now ≤ cleanupTimeout

theorem Latest.recent_iff {P : State → Event → Prop} {es : List Event} {t : ℕ} (h : Latest c P es t) (now : ℕ) :
    Recent c P es now ↔ now - t ≤ cleanupTimeout := by
  constructor
  · rintro ⟨u, e, hocc, hP, hle⟩
    have hlast := h.2 u e hocc hP
    omega
  · intro hle
    obtain ⟨u, e, hocc, hP, rfl⟩ := h.1
    exact ⟨u, e, hocc, hP, hle⟩

theorem Latest.snoc_other {P : State → Event → Prop} {es : List Event} {s : State} {e : Event} {t : ℕ}
    (h : Latest c P es t) (hs : Transitions.run (step c) init es = some s) (hP : ¬ P s e) : Latest c P (es ++ [e]) t := by
  obtain ⟨⟨u, f, hocc, hPu, ht⟩, hall⟩ := h
  refine ⟨⟨u, f, hocc.append [e], hPu, ht⟩, ?_⟩
  intro v g hg hPv
  rcases occurs_snoc hg with hg | ⟨hv, rfl⟩
  · exact hall v g hg hPv
  · cases hs.symm.trans hv
    exact absurd hPv hP

theorem Latest.snoc_now {P : State → Event → Prop} {es : List Event} {s : State} {e : Event}
    (hbefore : ∀ u f, Occurs (step c) init es u f → u.now ≤ s.now) (hs : Transitions.run (step c) init es = some s)
    (hP : P s e) : Latest c P (es ++ [e]) s.now := by
  refine ⟨⟨s, e, occurs_last e hs, hP, rfl⟩, ?_⟩
  intro v g hg _
  rcases occurs_snoc hg with hg | ⟨hv, -⟩
  · exact hbefore v g hg
  · cases hs.symm.trans hv
    exact Nat.le_refl _

theorem find_frame {s t : State} {id : Uuid} (he : step c s (.find id) = some t) :
    t.now = s.now ∧ t.sessions = s.sessions ∧ t.infos = s.infos := by
  cases he
  unfold findSession
  split <;> exact ⟨rfl, rfl, rfl⟩

theorem attempt_frame {s t : State} {j : ℕ} {result : ConnectResult} (he : step c s (.attempt j result) = some t) :
    t.now = s.now ∧ t.sessions = s.sessions ∧ t.infos = s.infos := by
  obtain ⟨x, -, he⟩ := Option.bind_eq_some_iff.mp he
  split at he
  · cases he
    cases result <;> exact ⟨rfl, rfl, rfl⟩
  · cases he

theorem giveUp_frame {s t : State} {j : ℕ} (he : step c s (.giveUp j) = some t) :
    t.now = s.now ∧ t.sessions = s.sessions ∧ t.infos = s.infos := by
  obtain ⟨x, -, he⟩ := Option.bind_eq_some_iff.mp he
  split at he
  · cases he
    exact ⟨rfl, rfl, rfl⟩
  · cases he

theorem taken {s t : State} {k : SessionId} (he : step c s (.take k) = some t) :
    t.now = s.now ∧ t.sessions = s.sessions ∧
      ∃ info, s.infos[k]? = some info ∧ t.infos = s.infos.set k (info.takePendingData s.now).2 := by
  simp only [step] at he
  split at he
  · obtain ⟨info, hinfo, rfl⟩ := Option.map_eq_some_iff.mp he
    exact ⟨rfl, rfl, info, hinfo, rfl⟩
  · cases he

inductive Stamps (k : SessionId) (s : State) (e : Event) : SessionInfo → Prop
  | created {i : SessionInfo} (hc : Creates k s e) (hu : Uses k s e) (hcreated : i.createdAt = s.now)
      (hupdated : i.lastUpdated = s.now) : Stamps k s e i
  | used {old i : SessionInfo} (hc : ¬ Creates k s e) (hu : Uses k s e) (hold : s.infos[k]? = some old)
      (hcreated : i.createdAt = old.createdAt) (hupdated : i.lastUpdated = s.now) : Stamps k s e i
  | kept {i : SessionInfo} (hc : ¬ Creates k s e) (hu : ¬ Uses k s e) (hold : s.infos[k]? = some i) : Stamps k s e i

theorem step_stamps {s t : State} {e : Event} (he : step c s e = some t) {k : SessionId} {i : SessionInfo}
    (hi : t.infos[k]? = some i) : Stamps k s e i := by
  cases e with
  | advance nanos =>
    cases he
    exact .kept id id hi
  | create id clientAddr targetAddr =>
    cases he
    by_cases hk : s.infos.length = k
    · subst hk
      rw [List.getElem?_concat_length] at hi
      cases hi
      exact .created rfl rfl rfl rfl
    · rcases Lists.getElem?_snoc_some hi with hi | ⟨rfl, -⟩
      · exact .kept hk hk hi
      · exact absurd rfl hk
  | cache id data =>
    cases he
    unfold cacheData at hi
    split at hi
    · rename_i k' hlook
      rw [List.getElem?_modify] at hi
      by_cases hk : k' = k
      · subst hk
        obtain ⟨old, hold, rfl⟩ := Option.map_eq_some_iff.mp hi
        exact .used not_false hlook hold (by simp [SessionInfo.addPendingData]) (by simp [SessionInfo.addPendingData])
      · have hother : ¬ Uses k s (.cache id data) := fun h => hk (Option.some.inj (hlook.symm.trans h))
        exact .kept not_false hother (by simpa [hk] using hi)
    · rename_i hlook
      have hother : ¬ Uses k s (.cache id data) := fun h => by
        rw [Uses, hlook] at h
        cases h
      exact .kept not_false hother hi
  | find id => exact .kept not_false not_false ((find_frame he).2.2 ▸ hi)
  | take k' =>
    obtain ⟨-, -, info, hinfo, hinfos⟩ := taken he
    rw [hinfos] at hi
    rcases Lists.getElem?_set_some hi with ⟨rfl, rfl⟩ | ⟨hk, hi⟩
    · exact .used not_false rfl hinfo rfl rfl
    · exact .kept not_false hk hi
  | attempt j result => exact .kept not_false not_false ((attempt_frame he).2.2 ▸ hi)
  | giveUp j => exact .kept not_false not_false ((giveUp_frame he).2.2 ▸ hi)
  | cleanup =>
    cases he
    exact .kept not_false not_false hi

theorem foldl_erase_lookup (ids : List Uuid) (m : AList (fun _ : Uuid => SessionId)) (id : Uuid) :
    (ids.foldl (fun m id => m.erase id) m).lookup id = if id ∈ ids then none else m.lookup id :=
  Lists.foldl_remove (fun m id => m.lookup id) (fun m id => AList.lookup_erase id m)
    (fun _ _ _ hne => AList.lookup_erase_ne hne) ids m id

theorem cleanup_lookup {s : State} {id : Uuid} {k : SessionId} {i : SessionInfo} (hlook : s.sessions.lookup id = some k)
    (hi : s.infos[k]? = some i) :
    (cleanupExpiredSessions s).sessions.lookup id = some k ↔ s.now - i.createdAt ≤ cleanupTimeout := by
  have hmem : id ∈ s.sessions.keys := AList.mem_keys.mp (AList.lookup_isSome.mp (by rw [hlook]; rfl))
  simp only [cleanupExpiredSessions, foldl_erase_lookup, List.mem_filter, hmem, hlook, true_and, Option.any_some, hi,
    decide_eq_true_eq]
  split
  · rename_i hold
    simp only [reduceCtorEq, false_iff]
    omega
  · rename_i hyoung
    simp only [true_iff]
    omega

theorem cleanup_lookup_some {s : State} {id : Uuid} {k : SessionId}
    (h : (cleanupExpiredSessions s).sessions.lookup id = some k) : s.sessions.lookup id = some k := by
  rw [cleanupExpiredSessions, foldl_erase_lookup] at h
  split at h
  · cases h
  · exact h

/-- The two times of every session are those of its creation and of its last use in the run. -/
structure Stamped (c : ReconnectConfig) (es : List Event) (s : State) : Prop where
  clock : ∀ u e, Occurs (step c) init es u e → u.now ≤ s.now
  table : ∀ id k, s.sessions.lookup id = some k → k < s.infos.length
  times : ∀ k i, s.infos[k]? = some i → Latest c (Creates k) es i.createdAt ∧ Latest c (Uses k) es i.lastUpdated

theorem cacheData_table (s : State) (id : Uuid) (data : ByteStream.Bytes) :
    (cacheData s id data).2.now = s.now ∧ (cacheData s id data).2.sessions = s.sessions ∧
      (cacheData s id data).2.infos.length = s.infos.length := by
  unfold cacheData
  split
  · exact ⟨rfl, rfl, List.length_modify ..⟩
  · exact ⟨rfl, rfl, rfl⟩

theorem step_table {s t : State} {e : Event} (he : step c s e = some t) :
    s.now ≤ t.now ∧ s.infos.length ≤ t.infos.length ∧ ∀ id k, t.sessions.lookup id = some k →
      s.sessions.lookup id = some k ∨ k = s.infos.length ∧ s.infos.length < t.infos.length := by
  have same {t : State} (h : t.now = s.now ∧ t.sessions = s.sessions ∧ t.infos.length = s.infos.length) :
      s.now ≤ t.now ∧ s.infos.length ≤ t.infos.length ∧ ∀ id k, t.sessions.lookup id = some k →
        s.sessions.lookup id = some k ∨ k = s.infos.length ∧ s.infos.length < t.infos.length := by
    rw [h.1, h.2.1, h.2.2]
    exact ⟨le_rfl, le_rfl, fun _ _ h => .inl h⟩
  cases e with
  | advance nanos =>
    cases he
    exact ⟨Nat.le_add_right _ _, le_rfl, fun _ _ h => .inl h⟩
  | create id clientAddr targetAddr =>
    cases he
    have hlen : s.infos.length < (s.infos ++ [SessionInfo.new id clientAddr targetAddr s.now]).length := by simp
    refine ⟨le_rfl, hlen.le, ?_⟩
    intro id' k hlook
    by_cases hid : id' = id
    · subst hid
      rw [AList.lookup_insert] at hlook
      exact .inr ⟨(Option.some.inj hlook).symm, hlen⟩
    · rw [AList.lookup_insert_ne hid] at hlook
      exact .inl hlook
  | cache id data =>
    cases he
    exact same (cacheData_table s id data)
  | find id => exact same ⟨(find_frame he).1, (find_frame he).2.1, by rw [(find_frame he).2.2]⟩
  | take k =>
    obtain ⟨hnow, hsessions, info, -, hinfos⟩ := taken he
    exact same ⟨hnow, hsessions, by rw [hinfos, List.length_set]⟩
  | attempt j result => exact same ⟨(attempt_frame he).1, (attempt_frame he).2.1, by rw [(attempt_frame he).2.2]⟩
  | giveUp j => exact same ⟨(giveUp_frame he).1, (giveUp_frame he).2.1, by rw [(giveUp_frame he).2.2]⟩
  | cleanup =>
    cases he
    exact ⟨le_rfl, le_rfl, fun _ _ h => .inl (cleanup_lookup_some h)⟩

theorem stamped {es : List Event} {s : State} (h : run c es = some s) : Stamped c es s := by
  apply run_history (I := Stamped c) h
  · exact ⟨fun _ _ hocc => absurd hocc not_occurs_nil, by simp [init], by simp [init]⟩
  intro es u e t hu ih he
  obtain ⟨hclock, hlen, htable⟩ := step_table he
  refine ⟨?_, ?_, ?_⟩
  · intro v f hf
    apply le_trans _ hclock
    rcases occurs_snoc hf with hf | ⟨hv, -⟩
    · exact ih.clock v f hf
    · cases hu.symm.trans hv
      exact le_rfl
  · intro id k hlook
    rcases htable id k hlook with hold | ⟨rfl, hlt⟩
    · exact (ih.table id k hold).trans_le hlen
    · exact hlt
  · intro k i hi
    cases step_stamps he hi with
    | created hc hused hcreated hupdated =>
      rw [hcreated, hupdated]
      exact ⟨.snoc_now ih.clock hu hc, .snoc_now ih.clock hu hused⟩
    | used hc hused hold hcreated hupdated =>
      rw [hcreated, hupdated]
      exact ⟨(ih.times k _ hold).1.snoc_other hu hc, .snoc_now ih.clock hu hused⟩
    | kept hc hused hold =>
      exact ⟨(ih.times k _ hold).1.snoc_other hu hc, (ih.times k _ hold).2.snoc_other hu hused⟩

def SparesRecent (s : State) : Prop :=
  ∀ id k i, s.sessions.lookup id = some k → s.infos[k]? = some i → i.isExpired s.now cleanupTimeout = false →
    (cleanupExpiredSessions s).sessions.lookup id = some k

/-- The sessions of the table used in the last five minutes of the run were created in the last five minutes. -/
def UsedAreYoung (c : ReconnectConfig) (es : List Event) (s : State) : Prop :=
  ∀ id k, s.sessions.lookup id = some k → Recent c (Uses k) es s.now → Recent c (Creates k) es s.now

theorem sparesRecent_iff {es : List Event} {s : State} (h : run c es = some s) : SparesRecent s ↔ UsedAreYoung c es s := by
  have hstamped := stamped h
  constructor
  · intro hspares id k hlook hused
    have hi := List.getElem?_eq_getElem (hstamped.table id k hlook)
    obtain ⟨hcreated, hupdated⟩ := hstamped.times k _ hi
    have hle := (hupdated.recent_iff s.now).mp hused
    have hkept := hspares id k _ hlook hi (decide_eq_false (Nat.not_lt.mpr hle))
    exact (hcreated.recent_iff s.now).mpr ((cleanup_lookup hlook hi).mp hkept)
  · intro hyoung id k i hlook hi hexpired
    obtain ⟨hcreated, hupdated⟩ := hstamped.times k i hi
    have hle := Nat.not_lt.mp (of_decide_eq_false hexpired)
    have hcreate := hyoung id k hlook ((hupdated.recent_iff s.now).mpr hle)
    exact (cleanup_lookup hlook hi).mpr ((hcreated.recent_iff s.now).mp hcreate)

theorem recent_sessions_kept_iff (c : ReconnectConfig) (es : List Event) :
    (∀ before after s, es = before ++ .cleanup :: after → run c before = some s → SparesRecent s) ↔
      ∀ before after s, es = before ++ .cleanup :: after → run c before = some s → UsedAreYoung c before s := by
  constructor
  · intro h before after s hes hrun
    exact (sparesRecent_iff hrun).mp (h before after s hes hrun)
  · intro h before after s hes hrun
    exact (sparesRecent_iff hrun).mpr (h before after s hes hrun)

/-- A packet is cached five minutes and one second after the session was created. -/
def busyRun : List Event :=
  [.create 7 "192.0.2.1:5000" "198.51.100.2:443", .attempt 0 .connected, .advance (301 * 1000000000), .cache 7 [1, 2]]

theorem busy_session_cleaned_up : ∃ s i, run .default busyRun = some s ∧ s.sessions.lookup 7 = some 0 ∧
    s.infos[0]? = some i ∧ i.isExpired s.now cleanupTimeout = false ∧
      (cleanupExpiredSessions s).sessions.lookup 7 = none :=
  ⟨_, _, rfl, rfl, rfl, rfl, rfl⟩

end GscFq.Resilient
