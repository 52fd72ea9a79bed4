import GscFq.Errors
import GscFq.Loops
import GscFq.StreamIo

namespace GscFq.CopyLoop

open ByteStream Loops StreamIo

abbrev Outcome := Except AppError ℕ × Io IoError

/-- What the copying loops of the program differ in. -/
structure Settings where
  bufferSize : ℕ
  flushInterval : ℕ
  flushShort : Bool
  label : String

structure State where
  io : Io IoError
  total : ℕ
  lastFlush : ℕ

def Settings.shouldFlush (l : Settings) (s : State) (n : ℕ) : Bool :=
  l.flushInterval ≤ s.total + n - s.lastFlush || (l.flushShort && n < l.bufferSize)

def body (l : Settings) (s : State) : Turn State Outcome :=
  match s.io.read l.bufferSize with
  | (.data [], io) =>
    if s.lastFlush < s.total then
      match io.flush with
      | (.ok _, io) => .done (.ok s.total, io)
      | (.error e, io) => .done (.error (.io e), io)
    else .done (.ok s.total, io)
  | (.data (b :: bs), io) =>
    match io.writeAll (b :: bs) with
    | (.error e, io) => .done (.error (.io e), io)
    | (.ok _, io) =>
      if l.shouldFlush s (b :: bs).length then
        match io.flush with
        | (.error e, io) => .done (.error (.io e), io)
        | (.ok _, io) => .again ⟨io, s.total + (b :: bs).length, s.total + (b :: bs).length⟩
      else .again ⟨io, s.total + (b :: bs).length, s.lastFlush⟩
  | (.wouldBlock, io) => .again { s with io := io }
  | (.error e, io) => .done (.error (forwardingError l.label e), io)

inductive Turns (l : Settings) (s : State) : Turn State Outcome → Prop
  | ended {io : Io IoError} (hr : Reads l.bufferSize s.io (.data [], io)) (hf : s.total ≤ s.lastFlush) :
      Turns l s (.done (.ok s.total, io))
  | endedFlushed {io io' : Io IoError} (hr : Reads l.bufferSize s.io (.data [], io)) (hf : s.lastFlush < s.total)
      (hflush : Flushes io (.ok (), io')) : Turns l s (.done (.ok s.total, io'))
  | endedUnflushed {io io' : Io IoError} {e : IoError} (hr : Reads l.bufferSize s.io (.data [], io))
      (hflush : Flushes io (.error e, io')) : Turns l s (.done (.error (.io e), io'))
  | unwritten {io io' : Io IoError} {d : Bytes} {e : IoError} (hr : Reads l.bufferSize s.io (.data d, io))
      (hw : Writes d io (.error e, io')) : Turns l s (.done (.error (.io e), io'))
  | unflushed {io io' io'' : Io IoError} {d : Bytes} {e : IoError} (hr : Reads l.bufferSize s.io (.data d, io))
      (hw : Writes d io (.ok (), io')) (hflush : Flushes io' (.error e, io'')) :
      Turns l s (.done (.error (.io e), io''))
  | copiedFlushed {io io' io'' : Io IoError} {d : Bytes} (hd : d ≠ []) (hr : Reads l.bufferSize s.io (.data d, io))
      (hw : Writes d io (.ok (), io')) (hsf : l.shouldFlush s d.length = true) (hflush : Flushes io' (.ok (), io'')) :
      Turns l s (.again ⟨io'', s.total + d.length, s.total + d.length⟩)
  | copied {io io' : Io IoError} {d : Bytes} (hd : d ≠ []) (hr : Reads l.bufferSize s.io (.data d, io))
      (hw : Writes d io (.ok (), io')) (hsf : l.shouldFlush s d.length = false) :
      Turns l s (.again ⟨io', s.total + d.length, s.lastFlush⟩)
  | blocked {io : Io IoError} (hr : Reads l.bufferSize s.io (.wouldBlock, io)) :
      Turns l s (.again { s with io := io })
  | failed {io : Io IoError} {e : IoError} (hr : Reads l.bufferSize s.io (.error e, io)) :
      Turns l s (.done (.error (forwardingError l.label e), io))

theorem body_turns (l : Settings) (s : State) : Turns l s (body l s) := by
  have hread := s.io.read_reads l.bufferSize
  unfold body
  split
  · rename_i io hr
    rw [hr] at hread
    split
    · rename_i hf
      have hflush := io.flush_flushes
      split
      · rename_i u io' hfl
        rw [hfl] at hflush
        exact .endedFlushed hread hf hflush
      · rename_i e io' hfl
        rw [hfl] at hflush
        exact .endedUnflushed hread hflush
    · rename_i hf
      exact .ended hread (Nat.le_of_not_lt hf)
  · rename_i b bs io hr
    rw [hr] at hread
    have hwrite := io.writeAll_writes (b :: bs)
    split
    · rename_i e io' hw
      rw [hw] at hwrite
      exact .unwritten hread hwrite
    · rename_i u io' hw
      rw [hw] at hwrite
      split
      · rename_i hsf
        have hflush := io'.flush_flushes
        split
        · rename_i e io'' hfl
          rw [hfl] at hflush
          exact .unflushed hread hwrite hflush
        · rename_i u' io'' hfl
          rw [hfl] at hflush
          exact .copiedFlushed (List.cons_ne_nil b bs) hread hwrite hsf hflush
      · rename_i hsf
        exact .copied (List.cons_ne_nil b bs) hread hwrite (by simpa using hsf)
  · rename_i io hr
    rw [hr] at hread
    exact .blocked hread
  · rename_i e io hr
    rw [hr] at hread
    exact .failed hread

theorem body_decreases (l : Settings) (s s' : State) (h : body l s = .again s') :
    s'.io.reader.size < s.io.reader.size := by
  have hturn := body_turns l s
  rw [h] at hturn
  cases hturn with
  | @copiedFlushed io io' io'' d hd hr hw _ hflush =>
    have hlt := hr.size_lt (.inr ⟨d, rfl, hd⟩)
    cases hw <;> cases hflush <;> exact hlt
  | @copied io io' d hd hr hw _ =>
    have hlt := hr.size_lt (.inr ⟨d, rfl, hd⟩)
    cases hw <;> exact hlt
  | blocked hr => exact hr.size_lt (.inl rfl)

def loop (l : Settings) : Loop State Outcome := ⟨body l, fun s => s.io.reader.size, body_decreases l⟩

def copy (l : Settings) (total : ℕ) (io : Io IoError) : Outcome := (loop l).result ⟨io, total, total⟩

/-- The copy was never ahead of its source, and a result `Ok(n)` says that the whole stream, of `n` bytes,
was written. -/
structure Copied {ε : Type} (stream : Bytes) (r : Except ε ℕ × Io IoError) : Prop where
  behind : Behind stream r.2
  all : ∀ n, r.1 = .ok n → bytesWritten r.2.trace = stream ∧ n = stream.length

/-- At the start of a turn everything read is written and counted. -/
structure Level (stream : Bytes) (s : State) : Prop where
  behind : Behind stream s.io
  written : bytesWritten s.io.trace = bytesRead s.io.trace
  total : s.total = (bytesRead s.io.trace).length

theorem Level.start (reader : Reader IoError) (failures : List (Option (ℕ × IoError))) :
    Level reader.bytes ⟨.start reader failures, 0, 0⟩ := ⟨.start reader failures, rfl, rfl⟩

theorem Level.copied {stream d : Bytes} {s : State} {cap : ℕ} {io io' : Io IoError} (h : Level stream s)
    (hr : Reads cap s.io (.data d, io)) (hw : Writes d io (.ok (), io')) (lastFlush : ℕ) :
    Level stream ⟨io', s.total + d.length, lastFlush⟩ := by
  obtain ⟨hread, hwritten⟩ := hr.bytesRead
  have hle : bytesWritten io.trace ++ d <+: bytesRead io.trace := by
    rw [hread, hwritten, h.written]
  obtain ⟨hbehind, hsame, -, hall⟩ := (h.behind.reads hr).writes hle hw
  refine ⟨hbehind, ?_, ?_⟩
  · rw [hall rfl, hsame, hread, hwritten, h.written]
  · change s.total + d.length = (bytesRead io'.trace).length
    rw [hsame, hread, List.length_append, h.total]

theorem Level.flushed {stream : Bytes} {s : State} {io : Io IoError} (h : Level stream s)
    (hflush : Flushes s.io (.ok (), io)) (lastFlush : ℕ) : Level stream ⟨io, s.total, lastFlush⟩ := by
  obtain ⟨hbehind, hread, -, hwritten⟩ := h.behind.flushes hflush
  exact ⟨hbehind, by rw [hwritten, hread]; exact h.written, by rw [hread]; exact h.total⟩

theorem Level.turns_again {l : Settings} {stream : Bytes} {s s' : State} (h : Level stream s)
    (ht : Turns l s (.again s')) : Level stream s' := by
  cases ht with
  | copiedFlushed _ hr hw _ hflush => exact (h.copied hr hw 0).flushed hflush _
  | copied _ hr hw _ => exact h.copied hr hw _
  | blocked hr =>
    have hbehind := h.behind.reads hr
    cases hr with
    | blocked => exact ⟨hbehind, h.written, h.total⟩

theorem Level.ended {l : Settings} {stream : Bytes} {s : State} {io : Io IoError} (h : Level stream s)
    (hcap : 0 < l.bufferSize) (hr : Reads l.bufferSize s.io (.data [], io)) :
    Behind stream io ∧ bytesWritten io.trace = stream ∧ s.total = stream.length := by
  have hbehind := h.behind.reads hr
  obtain ⟨hread, hwritten⟩ := hr.bytesRead
  have hall : bytesRead s.io.trace = stream := by
    rw [h.behind.stream, (hr.ended_bytes hcap).1, List.append_nil]
  exact ⟨hbehind, by rw [hwritten, h.written, hall], by rw [h.total, hall]⟩

theorem Copied.error {ε : Type} {stream : Bytes} {io : Io IoError} (e : ε) (h : Behind stream io) :
    Copied stream (.error e, io) := by
  refine ⟨h, ?_⟩
  rintro n ⟨⟩

theorem Level.turns_done {l : Settings} {stream : Bytes} {s : State} {r : Outcome} (h : Level stream s)
    (hcap : 0 < l.bufferSize) (ht : Turns l s (.done r)) : Copied stream r := by
  cases ht with
  | ended hr =>
    obtain ⟨hbehind, hwritten, htotal⟩ := h.ended hcap hr
    refine ⟨hbehind, ?_⟩
    rintro n ⟨⟩
    exact ⟨hwritten, htotal⟩
  | endedFlushed hr _ hflush =>
    obtain ⟨hbehind, hwritten, htotal⟩ := h.ended hcap hr
    obtain ⟨hbehind', -, -, hsame⟩ := hbehind.flushes hflush
    refine ⟨hbehind', ?_⟩
    rintro n ⟨⟩
    exact ⟨hsame.trans hwritten, htotal⟩
  | endedUnflushed hr hflush => exact .error _ ((h.behind.reads hr).flushes hflush).1
  | unwritten hr hw =>
    obtain ⟨hread, hwritten⟩ := hr.bytesRead
    exact .error _ ((h.behind.reads hr).writes (by rw [hread, hwritten, h.written]) hw).1
  | unflushed hr hw hflush => exact .error _ ((h.copied hr hw 0).behind.flushes hflush).1
  | failed hr => exact .error _ (h.behind.reads hr)

theorem copy_copied {l : Settings} {stream : Bytes} {total : ℕ} {io : Io IoError} (hcap : 0 < l.bufferSize)
    (h : Level stream ⟨io, total, total⟩) : Copied stream (copy l total io) := by
  apply (loop l).result_turns (body_turns l) _ _ h
  · intro s s' hs ht
    exact hs.turns_again ht
  · intro s r hs ht
    exact hs.turns_done hcap ht

theorem copy_reliable {l : Settings} {total : ℕ} {io : Io IoError} (h : io.Reliable) :
    ∃ n, (copy l total io).1 = .ok n := by
  apply (loop l).result_turns (I := fun s => s.io.Reliable) (Q := fun r => ∃ n, r.1 = .ok n) (body_turns l) _ _ h
  · intro s s' hs ht
    cases ht with
    | copiedFlushed _ hr hw _ hflush => exact (((hs.reads hr).1.writes hw).2.flushes hflush).2
    | copied _ hr hw _ => exact ((hs.reads hr).1.writes hw).2
    | blocked hr => exact (hs.reads hr).1
  · intro s r hs ht
    cases ht with
    | ended => exact ⟨_, rfl⟩
    | endedFlushed => exact ⟨_, rfl⟩
    | endedUnflushed hr hflush => cases ((hs.reads hr).1.flushes hflush).1
    | unwritten hr hw => cases ((hs.reads hr).1.writes hw).1
    | unflushed hr hw hflush => cases (((hs.reads hr).1.writes hw).2.flushes hflush).1
    | failed hr => exact absurd rfl ((hs.reads hr).2 _)

end GscFq.CopyLoop
