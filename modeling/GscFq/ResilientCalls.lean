import GscFq.ConnectWithRetry
import GscFq.Lists

namespace GscFq.Resilient

open GscFq.Lists

/-- A call that tries to connect, with what its own attempts came to. -/
structure Call where
  session : SessionId
  pendingData : List Chunk
  results : List ConnectResult
  deriving DecidableEq, Repr

def Call.connecting (x : Call) : Connecting := ⟨x.session, x.pendingData, x.results.length + 1⟩

/-- The calls in the order in which they began to connect, and those that are over in the order of their return. -/
structure Calls where
  trying : List Call
  returned : List (Call × Except AppError (List Chunk))

namespace Calls

def begins (h : Calls) (session : SessionId) (pendingData : List Chunk) : Calls :=
  { h with trying := h.trying ++ [⟨session, pendingData, []⟩] }

def tries (h : Calls) (i : ℕ) (x : Call) (r : ConnectResult) : Calls :=
  { h with trying := h.trying.set i { x with results := x.results ++ [r] } }

def returns (h : Calls) (i : ℕ) (x : Call) (result : Except AppError (List Chunk)) : Calls :=
  ⟨h.trying.eraseIdx i, h.returned ++ [(x, result)]⟩

/-- The history after an event that happens in the state `s`. -/
def after (c : ReconnectConfig) (s : State) (h : Calls) : Event → Calls
  | .create _ _ _ => h.begins s.infos.length []
  | .take k => (s.infos[k]?).elim h (fun info => h.begins k info.pendingData)
  | .attempt i .connected =>
    (h.trying[i]?).elim h (fun x => h.returns i { x with results := x.results ++ [.connected] } (.ok x.pendingData))
  | .attempt i r => (h.trying[i]?).elim h (fun x => h.tries i x r)
  | .giveUp i => (h.trying[i]?).elim h (fun x => h.returns i x (.error (retriesFailed c)))
  | _ => h

end Calls

def Event.begins : Event → Bool
  | .create _ _ _ => true
  | .take _ => true
  | _ => false

def attempts (es : List Event) : List ConnectResult := es.filterMap (fun | .attempt _ r => some r | _ => none)

/-- How many results come after the last one that is a connection. -/
def sinceConnected (results : List ConnectResult) : ℕ := (results.reverse.takeWhile (· ≠ .connected)).length

theorem sinceConnected_snoc (results : List ConnectResult) (r : ConnectResult) :
    sinceConnected (results ++ [r]) = if r = .connected then 0 else sinceConnected results + 1 := by
  by_cases hr : r = .connected <;> simp [sinceConnected, hr]

variable {c : RetryConfig}

structure Tells (c : RetryConfig) (es : List Event) (s : State) (h : Calls) : Prop where
  trying : h.trying.map Call.connecting = s.connecting
  returned : h.returned.map (fun p => (p.1.session, p.2)) = s.returned
  failing : ∀ x ∈ h.trying, (∀ r ∈ x.results, r ≠ .connected) ∧ x.results.length ≤ c.maxRetries
  ended : ∀ p ∈ h.returned, Tried c p.1.results (some (p.2.map (fun _ => ()))) ∧ ∀ d, p.2 = .ok d → d = p.1.pendingData
  begun : h.trying.length + h.returned.length = es.countP Event.begins
  errors : s.errorCount = sinceConnected (attempts es)

theorem attempts_append (es fs : List Event) : attempts (es ++ fs) = attempts es ++ attempts fs := List.filterMap_append

/-- An event that is none of a call that connects. -/
theorem Tells.pass {es : List Event} {s t : State} {h : Calls} {e : Event} (hs : Tells c es s h)
    (hc : t.connecting = s.connecting) (hr : t.returned = s.returned) (hcount : t.errorCount = s.errorCount)
    (hb : e.begins = false) (ha : attempts [e] = []) : Tells c (es ++ [e]) t h := by
  refine ⟨hc ▸ hs.trying, hr ▸ hs.returned, hs.failing, hs.ended, ?_, ?_⟩
  · rw [List.countP_append, List.countP_singleton, hb]
    exact hs.begun
  · rw [attempts_append, ha, List.append_nil, hcount]
    exact hs.errors

theorem Tells.begins {es : List Event} {s t : State} {h : Calls} {e : Event} {session : SessionId} {pendingData : List Chunk}
    (hs : Tells c es s h) (hc : t.connecting = s.connecting ++ [⟨session, pendingData, 1⟩]) (hr : t.returned = s.returned)
    (hcount : t.errorCount = s.errorCount) (hb : e.begins = true) (ha : attempts [e] = []) :
    Tells c (es ++ [e]) t (h.begins session pendingData) := by
  refine ⟨?_, hr ▸ hs.returned, ?_, hs.ended, ?_, ?_⟩
  · rw [Calls.begins, List.map_append, hs.trying, hc]
    rfl
  · intro x hx
    rcases List.mem_append.mp hx with hx | hx
    · exact hs.failing x hx
    · rw [List.mem_singleton.mp hx]
      exact ⟨nofun, Nat.zero_le _⟩
  · have hbegun := hs.begun
    rw [List.countP_append, List.countP_singleton, hb, Calls.begins, List.length_append, List.length_singleton, if_pos rfl]
    dsimp only
    omega
  · rw [attempts_append, ha, List.append_nil, hcount]
    exact hs.errors

theorem Tells.call {es : List Event} {s : State} {h : Calls} (hs : Tells c es s h) {i : ℕ} {y : Connecting}
    (hy : s.connecting[i]? = some y) : ∃ x, h.trying[i]? = some x ∧ x.connecting = y := by
  rw [← hs.trying, List.getElem?_map] at hy
  exact Option.map_eq_some_iff.mp hy

theorem Tells.returns {es : List Event} {s t : State} {h : Calls} {e : Event} {i : ℕ} {x x' : Call}
    {result : Except AppError (List Chunk)} (hs : Tells c es s h) (hx : h.trying[i]? = some x)
    (hx' : x'.session = x.session) (htried : Tried c x'.results (some (result.map (fun _ => ()))))
    (hdata : ∀ d, result = .ok d → d = x'.pendingData) (hc : t.connecting = s.connecting.eraseIdx i)
    (hr : t.returned = s.returned ++ [(x.session, result)]) (hb : e.begins = false)
    (hcount : t.errorCount = sinceConnected (attempts (es ++ [e]))) : Tells c (es ++ [e]) t (h.returns i x' result) := by
  obtain ⟨hi, -⟩ := List.getElem?_eq_some_iff.mp hx
  refine ⟨?_, ?_, ?_, ?_, ?_, hcount⟩
  · rw [Calls.returns, ← List.eraseIdx_map, hs.trying, hc]
  · rw [Calls.returns, List.map_append, hs.returned, hr, List.map_singleton, hx']
  · intro y hy
    exact hs.failing y (List.mem_of_mem_eraseIdx hy)
  · intro p hp
    rcases List.mem_append.mp hp with hp | hp
    · exact hs.ended p hp
    · rw [List.mem_singleton.mp hp]
      exact ⟨htried, hdata⟩
  · have hbegun := hs.begun
    rw [List.countP_append, List.countP_singleton, hb, Calls.returns, List.length_append, List.length_singleton,
      List.length_eraseIdx_of_lt hi]
    simp only [Bool.false_eq_true, if_false]
    omega

theorem Tells.tries {es : List Event} {s t : State} {h : Calls} {e : Event} {i : ℕ} {x : Call} {r : ConnectResult}
    (hs : Tells c es s h) (hx : h.trying[i]? = some x) (hr : r ≠ .connected) (hmore : x.results.length < c.maxRetries)
    (hc : t.connecting = s.connecting.set i { x.connecting with attempt := x.connecting.attempt + 1 })
    (hreturned : t.returned = s.returned) (hcount : t.errorCount = s.errorCount + 1) (hb : e.begins = false)
    (ha : attempts [e] = [r]) : Tells c (es ++ [e]) t (h.tries i x r) := by
  refine ⟨?_, hreturned ▸ hs.returned, ?_, hs.ended, ?_, ?_⟩
  · rw [Calls.tries, List.map_set, hs.trying, hc]
    simp [Call.connecting]
  · intro y hy
    rcases List.mem_or_eq_of_mem_set hy with hy | rfl
    · exact hs.failing y hy
    · obtain ⟨hfailing, -⟩ := hs.failing x (List.mem_of_getElem? hx)
      simp only [List.forall_mem_append, List.forall_mem_singleton, List.length_append, List.length_singleton]
      exact ⟨⟨hfailing, hr⟩, hmore⟩
  · rw [List.countP_append, List.countP_singleton, hb, Calls.tries, List.length_set]
    exact hs.begun
  · rw [attempts_append, ha, sinceConnected_snoc, if_neg hr, hcount, hs.errors]

theorem Tells.attempt {es : List Event} {s t : State} {h : Calls} {i : ℕ} {r : ConnectResult} (hs : Tells c es s h)
    (he : step c.toReconnectConfig s (.attempt i r) = some t) :
    Tells c (es ++ [.attempt i r]) t (h.after c.toReconnectConfig s (.attempt i r)) := by
  obtain ⟨y, hy, he⟩ := Option.bind_eq_some_iff.mp he
  obtain ⟨x, hx, rfl⟩ := hs.call hy
  obtain ⟨hfailing, -⟩ := hs.failing x (List.mem_of_getElem? hx)
  split at he
  · rename_i hmore
    cases he
    cases r with
    | connected =>
      simp only [Calls.after, hx, Option.elim_some]
      refine hs.returns hx rfl (.connected hfailing hmore) ?_ rfl rfl rfl ?_
      · rintro d ⟨⟩
        rfl
      · rw [attempts_append]
        exact (sinceConnected_snoc _ .connected).symm
    | failed e =>
      simp only [Calls.after, hx, Option.elim_some]
      exact hs.tries hx (by simp) hmore rfl rfl rfl rfl rfl
    | timedOut =>
      simp only [Calls.after, hx, Option.elim_some]
      exact hs.tries hx (by simp) hmore rfl rfl rfl rfl rfl
  · cases he

theorem Tells.giveUp {es : List Event} {s t : State} {h : Calls} {i : ℕ} (hs : Tells c es s h)
    (he : step c.toReconnectConfig s (.giveUp i) = some t) :
    Tells c (es ++ [.giveUp i]) t (h.after c.toReconnectConfig s (.giveUp i)) := by
  obtain ⟨y, hy, he⟩ := Option.bind_eq_some_iff.mp he
  obtain ⟨x, hx, rfl⟩ := hs.call hy
  obtain ⟨hfailing, hle⟩ := hs.failing x (List.mem_of_getElem? hx)
  split at he
  · rename_i hlast
    cases he
    simp only [Calls.after, hx, Option.elim_some]
    refine hs.returns hx rfl (.failed hfailing (Nat.le_antisymm hle (Nat.le_of_lt_succ hlast))) ?_ rfl rfl rfl ?_
    · rintro d ⟨⟩
    · rw [attempts_append]
      exact hs.errors.trans (congrArg sinceConnected (List.append_nil _).symm)
  · cases he

theorem Tells.step {es : List Event} {s t : State} {h : Calls} {e : Event} (hs : Tells c es s h)
    (he : Resilient.step c.toReconnectConfig s e = some t) : Tells c (es ++ [e]) t (h.after c.toReconnectConfig s e) := by
  cases e with
  | advance nanos =>
    cases he
    exact hs.pass rfl rfl rfl rfl rfl
  | create id clientAddr targetAddr =>
    cases he
    exact hs.begins rfl rfl rfl rfl rfl
  | cache id data =>
    cases he
    unfold cacheData
    split <;> exact hs.pass rfl rfl rfl rfl rfl
  | find id =>
    cases he
    unfold findSession
    split <;> exact hs.pass rfl rfl rfl rfl rfl
  | take k =>
    simp only [Resilient.step] at he
    split at he
    · obtain ⟨info, hinfo, rfl⟩ := Option.map_eq_some_iff.mp he
      simp only [Calls.after, hinfo, Option.elim_some]
      exact hs.begins rfl rfl rfl rfl rfl
    · cases he
  | attempt i r => exact hs.attempt he
  | giveUp i => exact hs.giveUp he
  | cleanup =>
    cases he
    exact hs.pass rfl rfl rfl rfl rfl

end GscFq.Resilient
