import GscFq.Handover
import GscFq.Lists
import GscFq.ResilientSessions

namespace GscFq.Resilient

variable {c : ReconnectConfig}

def pending (s : State) (k : SessionId) : List Chunk := (s.infos[k]?).elim [] (·.pendingData)

def cached (s : State) (k : SessionId) : List Chunk := (s.infos[k]?).elim [] (·.cached)

/-- The chunks the successful recoveries of a session returned, in the order of their return. -/
def recovered (s : State) (k : SessionId) : List Chunk :=
  s.returned.flatMap (fun p => if p.1 = k then p.2.toOption.getD [] else [])

def batches (k : SessionId) (connecting : List Connecting) : List (List Chunk) :=
  connecting.filterMap (fun x => if x.session = k then some x.pendingData else none)

def handover (s : State) (k : SessionId) : Handover Chunk :=
  ⟨cached s k, recovered s k, batches k s.connecting, pending s k⟩

/-- This step does not lose or reorder chunks of the session `k`: no recovery that holds some gives up, and none
succeeds while an earlier one that holds some still tries to connect. -/
def keeps (k : SessionId) (s : State) : Event → Bool
  | .attempt i .connected => (s.connecting[i]?).all (fun x => x.session != k || x.pendingData == [] ||
      (s.connecting.take i).all (fun y => y.session != k || y.pendingData == []))
  | .giveUp i => (s.connecting[i]?).all (fun x => x.session != k || x.pendingData == [])
  | _ => true

theorem batches_append (k : SessionId) (xs ys : List Connecting) :
    batches k (xs ++ ys) = batches k xs ++ batches k ys := List.filterMap_append

theorem batches_cons_self {k : SessionId} {x : Connecting} (h : x.session = k) (xs : List Connecting) :
    batches k (x :: xs) = x.pendingData :: batches k xs := by
  simp [batches, h]

theorem batches_cons_other {k : SessionId} {x : Connecting} (h : x.session ≠ k) (xs : List Connecting) :
    batches k (x :: xs) = batches k xs := by
  simp [batches, h]

theorem batches_set {k : SessionId} {xs : List Connecting} {i : ℕ} {x : Connecting} (y : Connecting)
    (h : xs[i]? = some x) (hs : y.session = x.session) (hd : y.pendingData = x.pendingData) :
    batches k (xs.set i y) = batches k xs := by
  obtain ⟨hi, rfl⟩ := List.getElem?_eq_some_iff.mp h
  have hset : xs.set i y = xs.take i ++ y :: xs.drop (i + 1) := List.set_eq_take_append_cons_drop .. |>.trans (if_pos hi)
  rw [hset]
  nth_rewrite 3 [Lists.eq_take_cons_drop h]
  rw [batches_append, batches_append]
  by_cases hk : xs[i].session = k
  · rw [batches_cons_self (hs.trans hk), batches_cons_self hk, hd]
  · rw [batches_cons_other (hs ▸ hk), batches_cons_other hk]

theorem batches_flatten_nil_iff (k : SessionId) (xs : List Connecting) :
    (batches k xs).flatten = [] ↔ ∀ y ∈ xs, y.session = k → y.pendingData = [] := by
  simp only [batches, List.flatten_eq_nil_iff, List.mem_filterMap, Option.ite_none_right_eq_some, Option.some.injEq]
  constructor
  · intro h y hy hk
    exact h _ ⟨y, hy, hk, rfl⟩
  · rintro h _ ⟨y, hy, hk, rfl⟩
    exact h y hy hk

/-- What a step does to the chunks of the session `k`, and to the count of the calls. -/
inductive Hands (k : SessionId) (s : State) : Event → Handover Chunk → ℕ → Prop
  | same {e : Event} {calls : ℕ} (kept : keeps k s e = true) (hcalls : s.calls ≤ calls) : Hands k s e (handover s k) calls
  | accept {e : Event} (kept : keeps k s e = true) (data : ByteStream.Bytes) :
      Hands k s e ((handover s k).accept ⟨s.calls, data⟩) (s.calls + 1)
  | take {e : Event} (kept : keeps k s e = true) : Hands k s e (handover s k).take s.calls
  | deliver {e : Event} {before after : List (List Chunk)} {d : List Chunk}
      (hb : (handover s k).batches = before ++ d :: after) (kept : keeps k s e = true ↔ d = [] ∨ before.flatten = []) :
      Hands k s e ((handover s k).deliver d (before ++ after)) s.calls
  | drop {e : Event} {before after : List (List Chunk)} {d : List Chunk}
      (hb : (handover s k).batches = before ++ d :: after) (kept : keeps k s e = true ↔ d = []) :
      Hands k s e ((handover s k).drop (before ++ after)) s.calls

theorem Hands.of_eq {k : SessionId} {s t : State} {e : Event} (kept : keeps k s e = true)
    (hinfo : t.infos[k]? = s.infos[k]?) (hreturned : recovered t k = recovered s k)
    (hbatches : batches k t.connecting = batches k s.connecting) (hcalls : s.calls ≤ t.calls) :
    Hands k s e (handover t k) t.calls := by
  have hsame : handover t k = handover s k := by
    simp only [handover, cached, pending, hinfo, hreturned, hbatches]
  rw [hsame]
  exact .same kept hcalls

theorem handover_of_info {s : State} {k : SessionId} {info : SessionInfo} (h : s.infos[k]? = some info) :
    handover s k = ⟨info.cached, recovered s k, batches k s.connecting, info.pendingData⟩ := by
  simp only [handover, cached, pending, h, Option.elim_some]

theorem cacheData_hands (k : SessionId) (s : State) (id : Uuid) (data : ByteStream.Bytes) :
    Hands k s (.cache id data) (handover (cacheData s id data).2 k) (cacheData s id data).2.calls := by
  unfold cacheData
  split
  · rename_i k' _
    have hget := s.infos.getElem?_modify (·.addPendingData s.now ⟨s.calls, data⟩) k' k
    by_cases hk : k' = k
    · subst hk
      cases hi : s.infos[k']? with
      | none => exact .of_eq rfl (by rw [hget, hi]; rfl) rfl rfl (Nat.le_succ _)
      | some info =>
        have haccept := Hands.accept (k := k') (s := s) (e := .cache id data) rfl data
        simp only [hi, Option.map_eq_map, Option.map_some, if_true] at hget
        rw [handover_of_info hi] at haccept
        rw [handover_of_info hget]
        exact haccept
    · simp only [hk, if_false, Option.map_eq_map, Option.map_id'] at hget
      exact .of_eq rfl hget rfl rfl (Nat.le_succ _)
  · exact .same rfl le_rfl

theorem recovered_snoc (returned : List (SessionId × Except AppError (List Chunk))) (k : SessionId)
    (p : SessionId × Except AppError (List Chunk)) :
    (returned ++ [p]).flatMap (fun p => if p.1 = k then p.2.toOption.getD [] else []) =
      returned.flatMap (fun p => if p.1 = k then p.2.toOption.getD [] else []) ++
        if p.1 = k then p.2.toOption.getD [] else [] := by
  rw [List.flatMap_append, List.flatMap_singleton]

theorem batches_snoc_other {k : SessionId} {x : Connecting} (h : x.session ≠ k) (xs : List Connecting) :
    batches k (xs ++ [x]) = batches k xs := by
  rw [batches_append, batches_cons_other h]
  exact List.append_nil _

theorem batches_snoc_self (k : SessionId) (d : List Chunk) (n : ℕ) (xs : List Connecting) :
    batches k (xs ++ [⟨k, d, n⟩]) = batches k xs ++ [d] := by
  have hone : batches k [⟨k, d, n⟩] = [d] := batches_cons_self rfl []
  rw [batches_append, hone]

theorem batches_split {k : SessionId} {xs : List Connecting} {i : ℕ} {x : Connecting} (h : xs[i]? = some x)
    (hk : x.session = k) : batches k xs = batches k (xs.take i) ++ x.pendingData :: batches k (xs.drop (i + 1)) := by
  conv_lhs => rw [Lists.eq_take_cons_drop h, batches_append, batches_cons_self hk]

theorem batches_eraseIdx (k : SessionId) (xs : List Connecting) (i : ℕ) :
    batches k (xs.eraseIdx i) = batches k (xs.take i) ++ batches k (xs.drop (i + 1)) := by
  rw [List.eraseIdx_eq_take_drop_succ, batches_append]

theorem batches_eraseIdx_other {k : SessionId} {xs : List Connecting} {i : ℕ} {x : Connecting} (h : xs[i]? = some x)
    (hk : x.session ≠ k) : batches k (xs.eraseIdx i) = batches k xs := by
  rw [batches_eraseIdx]
  conv_rhs => rw [Lists.eq_take_cons_drop h, batches_append, batches_cons_other hk]

theorem connected_hands (k : SessionId) {s : State} {i : ℕ} {x : Connecting} (hx : s.connecting[i]? = some x) :
    Hands k s (.attempt i .connected) (handover (attemptConnect s i x .connected) k)
      (attemptConnect s i x .connected).calls := by
  have hrecovered := recovered_snoc s.returned k (x.session, .ok x.pendingData)
  by_cases hk : x.session = k
  · have hkept : keeps k s (.attempt i .connected) = true ↔
        x.pendingData = [] ∨ (batches k (s.connecting.take i)).flatten = [] := by
      rw [batches_flatten_nil_iff]
      simp only [keeps, hx, hk, Option.all_some, bne_self_eq_false, Bool.false_or, Bool.or_eq_true, beq_iff_eq,
        List.all_eq_true, bne_iff_ne, imp_iff_not_or, ne_eq]
    have hdeliver := Hands.deliver (batches_split hx hk) hkept
    rw [if_pos hk] at hrecovered
    rw [← batches_eraseIdx] at hdeliver
    simp only [handover, Handover.deliver, attemptConnect, recovered, hrecovered] at hdeliver ⊢
    exact hdeliver
  · refine .of_eq ?_ rfl ?_ (batches_eraseIdx_other hx hk) le_rfl
    · simp [keeps, hx, hk]
    · rw [if_neg hk, List.append_nil] at hrecovered
      exact hrecovered

theorem gaveUp_hands (k : SessionId) {s : State} {i : ℕ} {x : Connecting} (hx : s.connecting[i]? = some x)
    (e : AppError) :
    Hands k s (.giveUp i)
      (handover { s with connecting := s.connecting.eraseIdx i, returned := s.returned ++ [(x.session, .error e)] } k)
      s.calls := by
  have hrecovered := recovered_snoc s.returned k (x.session, .error e)
  have hnone : (if x.session = k then (Except.error e : Except AppError (List Chunk)).toOption.getD [] else []) = [] := by
    split <;> rfl
  rw [hnone, List.append_nil] at hrecovered
  by_cases hk : x.session = k
  · have hkept : keeps k s (.giveUp i) = true ↔ x.pendingData = [] := by simp [keeps, hx, hk]
    have hdrop := Hands.drop (batches_split hx hk) hkept
    rw [← batches_eraseIdx] at hdrop
    simp only [handover, Handover.drop, recovered, hrecovered] at hdrop ⊢
    exact hdrop
  · exact Hands.of_eq (by simp [keeps, hx, hk]) rfl hrecovered (batches_eraseIdx_other hx hk) le_rfl

theorem created_hands (k : SessionId) (s : State) (id : Uuid) (clientAddr targetAddr : String)
    (sessions : AList (fun _ : Uuid => SessionId)) :
    Hands k s (.create id clientAddr targetAddr)
      (handover { s with
        sessions := sessions
        infos := s.infos ++ [.new id clientAddr targetAddr s.now]
        connecting := s.connecting ++ [⟨s.infos.length, [], 1⟩] } k) s.calls := by
  by_cases hk : s.infos.length = k
  · subst hk
    have htake := Hands.take (k := s.infos.length) (s := s) (e := .create id clientAddr targetAddr) rfl
    have hnew : (s.infos ++ [SessionInfo.new id clientAddr targetAddr s.now])[s.infos.length]? =
        some (.new id clientAddr targetAddr s.now) := List.getElem?_concat_length
    simp only [handover, Handover.take, cached, pending, List.getElem?_eq_none le_rfl, Option.elim_none] at htake
    rw [handover_of_info hnew]
    dsimp only
    rw [batches_snoc_self]
    exact htake
  · have hget : (s.infos ++ [SessionInfo.new id clientAddr targetAddr s.now])[k]? = s.infos[k]? := by
      rcases Nat.lt_or_gt_of_ne hk with hlt | hgt
      · rw [List.getElem?_eq_none (by simp; omega), List.getElem?_eq_none (by omega)]
      · exact List.getElem?_append_left hgt
    exact Hands.of_eq rfl hget rfl (batches_snoc_other hk _) le_rfl

theorem taken_hands (k : SessionId) {s : State} {k' : SessionId} {info : SessionInfo} (hinfo : s.infos[k']? = some info)
    (found : List SessionId) :
    Hands k s (.take k')
      (handover { s with
        infos := s.infos.set k' (info.takePendingData s.now).2
        found := found
        connecting := s.connecting ++ [⟨k', (info.takePendingData s.now).1, 1⟩] } k) s.calls := by
  by_cases hk : k' = k
  · subst hk
    have htake := Hands.take (k := k') (s := s) (e := .take k') rfl
    have hget : (s.infos.set k' (info.takePendingData s.now).2)[k']? = some (info.takePendingData s.now).2 := by
      rw [List.getElem?_set_self' , hinfo]
      rfl
    rw [handover_of_info hinfo] at htake
    rw [handover_of_info hget]
    dsimp only
    rw [batches_snoc_self]
    exact htake
  · exact Hands.of_eq rfl (List.getElem?_set_ne hk) rfl (batches_snoc_other hk _) le_rfl

theorem step_hands {s t : State} {e : Event} (he : step c s e = some t) (k : SessionId) :
    Hands k s e (handover t k) t.calls := by
  cases e with
  | advance nanos =>
    cases he
    exact .same rfl le_rfl
  | create id clientAddr targetAddr =>
    cases he
    exact created_hands k s id clientAddr targetAddr _
  | cache id data =>
    cases he
    exact cacheData_hands k s id data
  | find id =>
    cases he
    unfold findSession
    split <;> exact .same rfl le_rfl
  | take k' =>
    simp only [step] at he
    split at he
    · obtain ⟨info, hinfo, rfl⟩ := Option.map_eq_some_iff.mp he
      exact taken_hands k hinfo _
    · cases he
  | attempt i result =>
    obtain ⟨x, hx, he⟩ := Option.bind_eq_some_iff.mp he
    split at he
    · cases he
      cases result with
      | connected => exact connected_hands k hx
      | failed | timedOut => exact .of_eq rfl rfl rfl (batches_set _ hx rfl rfl) le_rfl
    · cases he
  | giveUp i =>
    obtain ⟨x, hx, he⟩ := Option.bind_eq_some_iff.mp he
    split at he
    · cases he
      exact gaveUp_hands k hx _
    · cases he
  | cleanup =>
    cases he
    exact .same rfl le_rfl

def before (a b : Chunk) : Prop := a.call < b.call

structure Numbered (l : Handover Chunk) (calls : ℕ) : Prop where
  ordered : l.Ordered before
  fresh : ∀ x ∈ l.accepted, x.call < calls

theorem Hands.numbered {k : SessionId} {s : State} {e : Event} {l : Handover Chunk} {calls : ℕ}
    (hh : Hands k s e l calls) (h : Numbered (handover s k) s.calls) : Numbered l calls := by
  cases hh with
  | same _ hcalls => exact ⟨h.ordered, fun x hx => (h.fresh x hx).trans_le hcalls⟩
  | accept _ data =>
    refine ⟨h.ordered.accept h.fresh, ?_⟩
    intro x hx
    rcases List.mem_append.mp hx with hx | hx
    · exact (h.fresh x hx).trans (Nat.lt_succ_self _)
    · rw [List.mem_singleton.mp hx]
      exact Nat.lt_succ_self _
  | take => exact ⟨h.ordered.take, h.fresh⟩
  | deliver hb => exact ⟨h.ordered.deliver hb, h.fresh⟩
  | drop hb => exact ⟨h.ordered.drop hb, h.fresh⟩

theorem Hands.complete_iff {k : SessionId} {s : State} {e : Event} {l : Handover Chunk} {calls : ℕ}
    (hh : Hands k s e l calls) (h : (handover s k).Ordered before) :
    l.Complete ↔ (handover s k).Complete ∧ keeps k s e = true := by
  cases hh with
  | same kept => rw [and_iff_left kept]
  | accept kept => rw [Handover.accept_complete_iff, and_iff_left kept]
  | take kept => rw [Handover.take_complete_iff, and_iff_left kept]
  | deliver hb kept =>
    rw [kept]
    exact Handover.deliver_complete_iff (fun x y hxy => Nat.lt_asymm hxy) h hb
  | drop hb kept =>
    rw [kept]
    exact Handover.drop_complete_iff h hb

theorem cached_data_kept_iff {es : List Event} {s : State} (hrun : run c es = some s) {k : SessionId}
    (hidle : ∀ x ∈ s.connecting, x.session ≠ k) :
    recovered s k ++ pending s k = cached s k ↔
      ∀ u e, Transitions.Occurs (step c) init es u e → keeps k u e = true := by
  have hbatches : batches k s.connecting = [] := by
    apply List.filterMap_eq_nil_iff.mpr
    intro x hx
    exact if_neg (hidle x hx)
  have hcomplete : (handover s k).Complete ↔ recovered s k ++ pending s k = cached s k := by
    unfold Handover.Complete handover
    rw [hbatches]
    rfl
  rw [← hcomplete]
  have h₀ : Numbered (handover init k) init.calls := ⟨Handover.ordered_empty, fun x hx => absurd hx List.not_mem_nil⟩
  apply Transitions.run_iff_occurs (I := fun s => Numbered (handover s k) s.calls)
    (A := fun s => (handover s k).Complete) hrun h₀ rfl
  · intro u e t hu he
    exact (step_hands he k).numbered hu
  · intro u e t hu he
    exact (step_hands he k).complete_iff hu.ordered

/-- Two chunks are stored, a recovery takes the first and succeeds at its second attempt, and the second is left. -/
def recoveredSession : List Event :=
  [.create 7 "10.0.0.7:5000" "example.com:443", .attempt 0 .connected, .cache 7 [1, 2], .find 7, .take 0, .cache 7 [3],
    .attempt 0 .timedOut, .attempt 0 .connected]

theorem recovered_session_kept :
    ∃ s, run .default recoveredSession = some s ∧ recovered s 0 = [⟨0, [1, 2]⟩] ∧ pending s 0 = [⟨1, [3]⟩] ∧
      recovered s 0 ++ pending s 0 = cached s 0 := by
  have hrun : (run .default recoveredSession).map (fun s => (recovered s 0, pending s 0, s.connecting)) =
      some ([⟨0, [1, 2]⟩], [⟨1, [3]⟩], []) := by decide +kernel
  obtain ⟨s, hs, he⟩ := Option.map_eq_some_iff.mp hrun
  simp only [Prod.mk.injEq] at he
  obtain ⟨hrecovered, hpending, hconnecting⟩ := he
  refine ⟨s, hs, hrecovered, hpending, (cached_data_kept_iff hs (by simp [hconnecting])).mpr ?_⟩
  intro u e ho
  have hkept : (Transitions.steps (step .default) init recoveredSession).all (fun p => keeps 0 p.1 p.2) = true := by
    decide +kernel
  exact List.all_eq_true.mp hkept _ ho.mem_steps

def failedRecovery : List Event :=
  [.create 7 "10.0.0.7:5000" "example.com:443", .attempt 0 .connected, .cache 7 [1, 2], .find 7, .take 0,
    .attempt 0 .timedOut, .attempt 0 .timedOut, .attempt 0 .timedOut, .attempt 0 .timedOut, .attempt 0 .timedOut,
    .giveUp 0]

theorem failed_recovery_loses_chunk :
    ∃ s, run .default failedRecovery = some s ∧ s.sessions.lookup 7 = some 0 ∧ s.connecting = [] ∧
      cached s 0 = [⟨0, [1, 2]⟩] ∧ recovered s 0 ++ pending s 0 ≠ cached s 0 := by
  have hrun : (run .default failedRecovery).map (fun s =>
      (s.sessions.lookup 7, s.connecting, cached s 0, recovered s 0 ++ pending s 0)) =
        some (some 0, [], [⟨0, [1, 2]⟩], []) := by decide +kernel
  obtain ⟨s, hs, he⟩ := Option.map_eq_some_iff.mp hrun
  simp only [Prod.mk.injEq] at he
  obtain ⟨hlookup, hconnecting, hcached, hkept⟩ := he
  exact ⟨s, hs, hlookup, hconnecting, hcached, by simp [hcached, hkept]⟩

end GscFq.Resilient
