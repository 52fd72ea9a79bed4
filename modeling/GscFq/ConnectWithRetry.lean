import GscFq.ResilientSessions

/-!
`connect_with_retry` as one call goes through it, with its waits. `ResilientSessions` has the attempts of all calls, in
any order, and leaves their times to the clock.
-/

namespace GscFq.Resilient

/-- The durations are in nanoseconds. `scaled` is the product of a number of milliseconds with `backoff_factor` in
`f64`, cast back to an integer. -/
structure RetryConfig extends ReconnectConfig where
  initialDelay : ℕ
  maxDelay : ℕ
  scaled : ℕ → ℕ
  connectTimeout : ℕ

def RetryConfig.default : RetryConfig :=
  ⟨.default, 100 * 1000000, 10 * 1000000000, (2 * ·), 10 * 1000000000⟩

def RetryConfig.nextDelay (c : RetryConfig) (delay : ℕ) : ℕ := min (c.scaled (delay / 1000000) * 1000000) c.maxDelay

/-- `result` is `none` where the call has to make another attempt. -/
structure Retry where
  waits : List ℕ
  used : ℕ
  result : Option (Except AppError Unit)
  deriving DecidableEq

def Retry.again (r : Retry) : Retry := { r with used := r.used + 1 }

def Retry.after (delay : ℕ) (r : Retry) : Retry := { r with waits := delay :: r.waits, used := r.used + 1 }

/-- The loop from attempt number `attempt` on, given what its attempts come to. -/
def retryLoop (c : RetryConfig) (attempt delay : ℕ) : List ConnectResult → Retry
  | [] => if attempt ≤ c.maxRetries then ⟨[], 0, none⟩ else ⟨[], 0, some (.error (retriesFailed c.toReconnectConfig))⟩
  | result :: results =>
    if attempt ≤ c.maxRetries then
      match result with
      | .connected => ⟨[], 1, some (.ok ())⟩
      | .failed _ | .timedOut =>
        if attempt < c.maxRetries then (retryLoop c (attempt + 1) (c.nextDelay delay) results).after delay
        else (retryLoop c (attempt + 1) delay results).again
    else ⟨[], 0, some (.error (retriesFailed c.toReconnectConfig))⟩

def connectWithRetry (c : RetryConfig) (results : List ConnectResult) : Retry := retryLoop c 1 c.initialDelay results

/-- The waits of a call that goes on long enough. -/
def delays (c : RetryConfig) : ℕ → ℕ → List ℕ
  | _, 0 => []
  | delay, n + 1 => delay :: delays c (c.nextDelay delay) n

/-- The time of a call each of whose attempts takes as long as it may. -/
def Retry.longest (c : RetryConfig) (r : Retry) : ℕ := r.used * c.connectTimeout + r.waits.sum

variable {c : RetryConfig}

theorem retryLoop_fail {attempt delay : ℕ} {r : ConnectResult} (hr : r ≠ .connected) (ha : attempt ≤ c.maxRetries)
    (results : List ConnectResult) : retryLoop c attempt delay (r :: results) =
      if attempt < c.maxRetries then (retryLoop c (attempt + 1) (c.nextDelay delay) results).after delay
      else (retryLoop c (attempt + 1) delay results).again := by
  cases r with
  | connected => exact absurd rfl hr
  | failed | timedOut => simp only [retryLoop, ha, if_true]

theorem retryLoop_failing {attempt delay : ℕ} {results : List ConnectResult} (h : ∀ r ∈ results, r ≠ .connected)
    (hle : attempt + results.length ≤ c.maxRetries + 1) :
    retryLoop c attempt delay results =
      if attempt + results.length ≤ c.maxRetries then ⟨delays c delay results.length, results.length, none⟩
      else ⟨delays c delay (results.length - 1), results.length, some (.error (retriesFailed c.toReconnectConfig))⟩ := by
  induction results generalizing attempt delay with
  | nil => rfl
  | cons r results ih =>
    obtain ⟨hfail, hrest⟩ := List.forall_mem_cons.mp h
    rw [List.length_cons] at hle ⊢
    rw [retryLoop_fail hfail (by omega)]
    by_cases hlast : attempt < c.maxRetries
    · rw [if_pos hlast, ih hrest (by omega)]
      by_cases hgo : attempt + 1 + results.length ≤ c.maxRetries
      · rw [if_pos hgo, if_pos (by omega)]
        rfl
      · -- the last attempt is followed by no wait
        rw [if_neg hgo, if_neg (by omega)]
        obtain ⟨n, hn⟩ : ∃ n, results.length = n + 1 := ⟨results.length - 1, by omega⟩
        rw [hn]
        rfl
    · obtain rfl : results = [] := List.eq_nil_of_length_eq_zero (by omega)
      rw [if_neg hlast, retryLoop, if_neg (by omega), if_neg (by simp; omega)]
      rfl

theorem retryLoop_connected {attempt delay : ℕ} {results : List ConnectResult} (h : ∀ r ∈ results, r ≠ .connected)
    (hle : attempt + results.length ≤ c.maxRetries) (later : List ConnectResult) :
    retryLoop c attempt delay (results ++ .connected :: later) =
      ⟨delays c delay results.length, results.length + 1, some (.ok ())⟩ := by
  induction results generalizing attempt delay with
  | nil =>
    rw [List.nil_append, retryLoop]
    exact if_pos hle
  | cons r results ih =>
    obtain ⟨hfail, hrest⟩ := List.forall_mem_cons.mp h
    rw [List.length_cons] at hle ⊢
    rw [List.cons_append, retryLoop_fail hfail (by omega), if_pos (by omega), ih hrest (by omega)]
    rfl

theorem delays_length (delay n : ℕ) : (delays c delay n).length = n := by
  induction n generalizing delay with
  | zero => rfl
  | succ n ih => rw [delays, List.length_cons, ih]

/-- What can have become of a call. -/
inductive Tried (c : RetryConfig) : List ConnectResult → Option (Except AppError Unit) → Prop
  | failing {results : List ConnectResult} (h : ∀ r ∈ results, r ≠ .connected) (more : results.length < c.maxRetries) :
      Tried c results none
  | failed {results : List ConnectResult} (h : ∀ r ∈ results, r ≠ .connected) (all : results.length = c.maxRetries) :
      Tried c results (some (.error (retriesFailed c.toReconnectConfig)))
  | connected {results : List ConnectResult} (h : ∀ r ∈ results, r ≠ .connected) (more : results.length < c.maxRetries) :
      Tried c (results ++ [.connected]) (some (.ok ()))

theorem Tried.loop {results : List ConnectResult} {result : Option (Except AppError Unit)} (h : Tried c results result) :
    ∃ n, n ≤ c.maxRetries - 1 ∧ connectWithRetry c results = ⟨delays c c.initialDelay n, results.length, result⟩ := by
  unfold connectWithRetry
  cases h with
  | failing h more =>
    refine ⟨results.length, by omega, ?_⟩
    rw [retryLoop_failing h (by omega), if_pos (by omega)]
  | failed h all =>
    refine ⟨results.length - 1, by omega, ?_⟩
    rw [retryLoop_failing h (by omega), if_neg (by omega)]
  | @connected results h more =>
    refine ⟨results.length, by omega, ?_⟩
    rw [retryLoop_connected h (by omega), List.length_append, List.length_singleton]

theorem Tried.length_le {results : List ConnectResult} {result : Option (Except AppError Unit)}
    (h : Tried c results result) : results.length ≤ c.maxRetries := by
  cases h with
  | failing h more => exact Nat.le_of_lt more
  | failed h all => exact Nat.le_of_eq all
  | connected h more =>
    rw [List.length_append]
    exact more

end GscFq.Resilient
