import GscFq.TunnelRelay

namespace GscFq.TunnelRelay

open ByteStream Pipelines DuplexCopy

namespace Way

/-- The stages whose contents can still arrive, the receiver's first. -/
def line (w : Way) : List (Stage UInt8) :=
  [w.got, w.sink] ++ if w.secondGone then [] else
    [w.second.buffer, w.tunnel.drop w.header] ++ if w.firstGone then [] else [w.first.buffer, w.source]

structure Sound (w : Way) : Prop where
  drained : Drained w.line
  arriving : contents w.line <+: w.sent
  whole : w.firstGone = false → w.secondGone = false → contents w.line = w.sent

/-- What the two copies have counted. -/
structure Counted (w : Way) : Prop where
  first : w.first.amount + w.first.buffer.held.length + w.source.held.length = w.sent.length
  second : w.secondGone = false → w.second.amount = w.sink.held.length + w.got.held.length

variable {w w' : Way}

theorem line_whole (h₁ : w.firstGone = false) (h₂ : w.secondGone = false) :
    w.line = [w.got, w.sink, w.second.buffer, w.tunnel.drop w.header, w.first.buffer, w.source] := by
  simp [line, h₁, h₂]

theorem line_firstGone (h₁ : w.firstGone = true) (h₂ : w.secondGone = false) :
    w.line = [w.got, w.sink, w.second.buffer, w.tunnel.drop w.header] := by
  simp [line, h₁, h₂]

theorem line_secondGone (h : w.secondGone = true) : w.line = [w.got, w.sink] := by
  simp [line, h]

theorem line_eq_append (w : Way) : ∃ back, w.line = [w.got, w.sink] ++ back ∧
    ∀ got sink : Stage UInt8, ({ w with got := got, sink := sink } : Way).line = [got, sink] ++ back :=
  ⟨_, rfl, fun _ _ => rfl⟩

theorem Sound.got (h : w.Sound) : w.got.held <+: w.sent := by
  obtain ⟨back, hline, -⟩ := w.line_eq_append
  refine List.IsPrefix.trans ?_ h.arriving
  rw [hline, contents_append, contents_cons, List.append_assoc]
  exact List.prefix_append _ _

theorem start_sound : start.Sound := by
  refine ⟨?_, List.prefix_rfl, fun _ _ => rfl⟩
  exact List.isChain_cons_cons.mpr ⟨by rintro ⟨⟩, List.isChain_cons_cons.mpr ⟨by rintro ⟨⟩, List.isChain_cons_cons.mpr
    ⟨by rintro ⟨⟩, List.isChain_cons_cons.mpr ⟨by rintro ⟨⟩, List.isChain_cons_cons.mpr
      ⟨by rintro ⟨⟩, List.isChain_singleton _⟩⟩⟩⟩⟩

theorem start_counted : start.Counted := ⟨rfl, fun _ => rfl⟩

theorem Sound.flow (h : w.Sound) (hflow : Flow w.line w'.line) (hsent : w'.sent = w.sent)
    (hgone : w'.firstGone = w.firstGone ∧ w'.secondGone = w.secondGone) : w'.Sound := by
  obtain ⟨h₁, h₂⟩ := hgone
  refine ⟨hflow.drained h.drained, ?_, ?_⟩
  · rw [hflow.contents, hsent]
    exact h.arriving
  · rw [h₁, h₂, hflow.contents, hsent]
    exact h.whole

theorem Sound.same (h : w.Sound) (hline : w'.line = w.line) (hsent : w'.sent = w.sent)
    (hgone : w'.firstGone = w.firstGone ∧ w'.secondGone = w.secondGone) : w'.Sound := by
  obtain ⟨h₁, h₂⟩ := hgone
  refine ⟨?_, ?_, ?_⟩
  · rw [hline]
    exact h.drained
  · rw [hline, hsent]
    exact h.arriving
  · rw [h₁, h₂, hline, hsent]
    exact h.whole

/-- Where the sender's own pipe is out of reach, what it does there changes nothing of what can arrive. -/
theorem line_source (hgone : w.firstGone = true ∨ w.secondGone = true) (source : Stage UInt8) (sent : Bytes) :
    ({ w with source := source, sent := sent } : Way).line = w.line := by
  rcases Bool.eq_false_or_eq_true w.secondGone with h₂ | h₂
  · exact (line_secondGone h₂ : ({ w with source := source, sent := sent } : Way).line = [w.got, w.sink]).trans
      (line_secondGone h₂).symm
  · have h₁ : w.firstGone = true := by simpa [h₂] using hgone
    exact (line_firstGone h₁ h₂ : ({ w with source := source, sent := sent } : Way).line =
      [w.got, w.sink, w.second.buffer, w.tunnel.drop w.header]).trans (line_firstGone h₁ h₂).symm

theorem Sound.send {xs : Bytes} (h : w.Sound) (hsend : w.send xs = some w') : w'.Sound := by
  obtain ⟨hopen, he⟩ := Option.ite_none_right_eq_some.mp hsend
  obtain rfl := Option.some.inj he
  by_cases hgone : w.firstGone = true ∨ w.secondGone = true
  · have hline := line_source hgone (w.source.put xs) (w.sent ++ xs)
    refine ⟨?_, ?_, ?_⟩
    · rw [hline]
      exact h.drained
    · rw [hline]
      exact h.arriving.trans (List.prefix_append _ _)
    · intro h₁ h₂
      simp_all
  · obtain ⟨h₁, h₂⟩ : w.firstGone = false ∧ w.secondGone = false := by simpa using hgone
    have hline := line_whole (w := { w with source := w.source.put xs, sent := w.sent ++ xs }) h₁ h₂
    have hd := h.drained
    have hc := h.whole h₁ h₂
    rw [line_whole h₁ h₂] at hd hc
    have hc' : contents ({ w with source := w.source.put xs, sent := w.sent ++ xs } : Way).line = w.sent ++ xs := by
      rw [hline, ← hc]
      simp only [contents_cons, contents_nil, Stage.put_held, List.append_nil, List.append_assoc]
    refine ⟨?_, by rw [hc'], fun _ _ => hc'⟩
    rw [hline]
    exact @drained_put _ [w.got, w.sink, w.second.buffer, w.tunnel.drop w.header, w.first.buffer] _ xs hopen hd

theorem Sound.close (h : w.Sound) (hclose : w.close = some w') : w'.Sound := by
  obtain ⟨-, he⟩ := Option.ite_none_right_eq_some.mp hclose
  obtain rfl := Option.some.inj he
  by_cases hgone : w.firstGone = true ∨ w.secondGone = true
  · exact h.same (line_source hgone w.source.close w.sent) rfl ⟨rfl, rfl⟩
  · obtain ⟨h₁, h₂⟩ : w.firstGone = false ∧ w.secondGone = false := by simpa using hgone
    have hline := line_whole (w := { w with source := w.source.close }) h₁ h₂
    have hd := h.drained
    have hc := h.whole h₁ h₂
    rw [line_whole h₁ h₂] at hd hc
    have hc' : contents ({ w with source := w.source.close } : Way).line = w.sent := by
      rw [hline, ← hc]
      rfl
    refine ⟨?_, by rw [hc'], fun _ _ => hc'⟩
    rw [hline]
    exact @drained_close _ [w.got, w.sink, w.second.buffer, w.tunnel.drop w.header, w.first.buffer] _ hd

theorem read_flow {k : ℕ} (hread : w.read k = some w') : Flow w.line w'.line := by
  obtain ⟨⟨hk, hle⟩, he⟩ := Option.ite_none_right_eq_some.mp hread
  obtain rfl := Option.some.inj he
  obtain ⟨back, hline, hline'⟩ := w.line_eq_append
  rw [hline, hline']
  exact .pass w.got w.sink back hk (List.length_pos_iff.mp (hk.trans_le hle))

theorem readEnd_flow (hread : w.readEnd = some w') : Flow w.line w'.line := by
  obtain ⟨⟨hheld, hended, hopen⟩, he⟩ := Option.ite_none_right_eq_some.mp hread
  obtain rfl := Option.some.inj he
  obtain ⟨back, hline, hline'⟩ := w.line_eq_append
  rw [hline, hline']
  exact .finish w.got w.sink back hopen hheld hended

theorem Sound.read {k : ℕ} (h : w.Sound) (hread : w.read k = some w') : w'.Sound := by
  have hflow := read_flow hread
  obtain ⟨-, he⟩ := Option.ite_none_right_eq_some.mp hread
  obtain rfl := Option.some.inj he
  exact h.flow hflow rfl ⟨rfl, rfl⟩

theorem Sound.readEnd (h : w.Sound) (hread : w.readEnd = some w') : w'.Sound := by
  have hflow := readEnd_flow hread
  obtain ⟨-, he⟩ := Option.ite_none_right_eq_some.mp hread
  obtain rfl := Option.some.inj he
  exact h.flow hflow rfl ⟨rfl, rfl⟩

theorem copySecond_flow {e : DuplexCopy.Event} (hheader : w.header = 0) (hgone : w.secondGone = false)
    (hcopy : w.copySecond e = some w') : Flow w.line w'.line := by
  obtain ⟨r, hstep, rfl⟩ := Option.map_eq_some_iff.mp hcopy
  have hflow := (step_steps hstep).flow
  rcases Bool.eq_false_or_eq_true w.firstGone with h₁ | h₁
  · have hline : ({ w with tunnel := r.1, second := r.2.1, sink := r.2.2 } : Way).line =
        [w.got, r.2.2, r.2.1.buffer, r.1.drop w.header] := line_firstGone h₁ hgone
    rw [hline, line_firstGone h₁ hgone, hheader]
    exact hflow.prepend [w.got]
  · have hline : ({ w with tunnel := r.1, second := r.2.1, sink := r.2.2 } : Way).line =
        [w.got, r.2.2, r.2.1.buffer, r.1.drop w.header, w.first.buffer, w.source] := line_whole h₁ hgone
    rw [hline, line_whole h₁ hgone, hheader]
    exact (hflow.append [w.first.buffer, w.source]).prepend [w.got]

theorem Sound.copySecond {e : DuplexCopy.Event} (h : w.Sound) (hheader : w.header = 0) (hgone : w.secondGone = false)
    (hcopy : w.copySecond e = some w') : w'.Sound := by
  have hflow := copySecond_flow hheader hgone hcopy
  obtain ⟨r, -, rfl⟩ := Option.map_eq_some_iff.mp hcopy
  exact h.flow hflow rfl ⟨rfl, rfl⟩

/-- The copy into the tunnel writes after the header. -/
theorem copyFirst_flow {e : DuplexCopy.Event} (hheader : w.header ≤ w.tunnel.held.length) (h₁ : w.firstGone = false)
    (h₂ : w.secondGone = false) (hcopy : w.copyFirst e = some w') : Flow w.line w'.line := by
  obtain ⟨r, hstep, rfl⟩ := Option.map_eq_some_iff.mp hcopy
  have hline : ({ w with source := r.1, first := r.2.1, tunnel := r.2.2 } : Way).line =
      [w.got, w.sink, w.second.buffer, r.2.2.drop w.header, r.2.1.buffer, r.1] := line_whole h₁ h₂
  rw [hline, line_whole h₁ h₂]
  have hflow := ((step_steps hstep).behind hheader).flow
  exact hflow.prepend [w.got, w.sink, w.second.buffer]

theorem Sound.copyFirst {e : DuplexCopy.Event} (h : w.Sound)
    (hheader : w.secondGone = false → w.header ≤ w.tunnel.held.length) (h₁ : w.firstGone = false) (hcopy : w.copyFirst e = some w') : w'.Sound := by
  rcases Bool.eq_false_or_eq_true w.secondGone with h₂ | h₂
  · obtain ⟨r, -, rfl⟩ := Option.map_eq_some_iff.mp hcopy
    have hline : ({ w with source := r.1, first := r.2.1, tunnel := r.2.2 } : Way).line = [w.got, w.sink] :=
      line_secondGone h₂
    exact h.same (hline.trans (line_secondGone h₂).symm) rfl ⟨rfl, rfl⟩
  · have hflow := copyFirst_flow (hheader h₂) h₁ h₂ hcopy
    obtain ⟨r, -, rfl⟩ := Option.map_eq_some_iff.mp hcopy
    exact h.flow hflow rfl ⟨rfl, rfl⟩

theorem drained_orphan (fin : Bool) {line : List (Stage UInt8)} {s : Stage UInt8} (h : Drained (line ++ [s])) :
    Drained (line ++ [orphan fin s]) := by
  cases fin
  · exact drained_clear h
  · exact drained_close h

theorem contents_orphan (fin : Bool) (line : List (Stage UInt8)) (s : Stage UInt8) (back : List (Stage UInt8)) :
    contents (line ++ [orphan fin s]) <+: contents (line ++ s :: back) := by
  rw [contents_append, contents_append, List.prefix_append_right_inj, contents_cons, contents_cons, contents_nil,
    List.append_nil]
  cases fin
  · exact List.nil_prefix
  · exact List.prefix_append _ _

theorem orphan_drop (fin : Bool) (s : Stage UInt8) (k : ℕ) : (orphan fin s).drop k = orphan fin (s.drop k) := by
  cases fin
  · simp [orphan, Stage.clear, Stage.drop]
  · rfl

theorem Sound.loseSecond (h : w.Sound) (fin : Bool) : (w.loseSecond fin).Sound := by
  have hline : (w.loseSecond fin).line = [w.got] ++ [orphan fin w.sink] := line_secondGone rfl
  obtain ⟨back, hback, -⟩ := w.line_eq_append
  have hd := h.drained
  have hc := h.arriving
  rw [hback] at hd hc
  refine ⟨?_, ?_, by rintro - ⟨⟩⟩
  · rw [hline]
    exact drained_orphan fin hd.left
  · rw [hline]
    exact (contents_orphan fin [w.got] w.sink back).trans hc

theorem Sound.loseFirst (h : w.Sound) (fin : Bool) : (w.loseFirst fin).Sound := by
  have hd := h.drained
  have hc := h.arriving
  refine ⟨?_, ?_, by rintro ⟨⟩⟩
  all_goals rcases Bool.eq_false_or_eq_true w.secondGone with h₂ | h₂
  · rw [line_secondGone h₂] at hd
    rwa [(line_secondGone h₂ : (w.loseFirst fin).line = [w.got, w.sink])]
  · have hline : (w.loseFirst fin).line = [w.got, w.sink, w.second.buffer] ++ [orphan fin (w.tunnel.drop w.header)] := by
      rw [← orphan_drop]
      exact line_firstGone rfl h₂
    rw [hline]
    apply drained_orphan
    rcases Bool.eq_false_or_eq_true w.firstGone with h₁ | h₁
    · rwa [line_firstGone h₁ h₂] at hd
    · rw [line_whole h₁ h₂] at hd
      exact @Drained.left _ _ [w.first.buffer, w.source] hd
  · rw [line_secondGone h₂] at hc
    rwa [(line_secondGone h₂ : (w.loseFirst fin).line = [w.got, w.sink])]
  · have hline : (w.loseFirst fin).line = [w.got, w.sink, w.second.buffer] ++ [orphan fin (w.tunnel.drop w.header)] := by
      rw [← orphan_drop]
      exact line_firstGone rfl h₂
    rw [hline]
    rcases Bool.eq_false_or_eq_true w.firstGone with h₁ | h₁
    · rw [line_firstGone h₁ h₂] at hc
      exact (contents_orphan fin _ (w.tunnel.drop w.header) []).trans hc
    · rw [line_whole h₁ h₂] at hc
      exact (contents_orphan fin _ (w.tunnel.drop w.header) [w.first.buffer, w.source]).trans hc

theorem line_header {tunnel : Stage UInt8} {header : ℕ} (h : tunnel.drop header = w.tunnel.drop w.header) :
    ({ w with tunnel := tunnel, header := header } : Way).line = w.line := by
  unfold line
  rw [h]

theorem writeHeader_line (hheader : w.header = w.tunnel.held.length) (xs : Bytes) : (w.writeHeader xs).line = w.line := by
  apply line_header
  simp [Stage.put, Stage.drop, hheader]

theorem readHeader_line (hheader : w.header = 4) : w.readHeader.line = w.line := by
  apply line_header
  rw [hheader]
  rfl

theorem Sound.writeHeader (h : w.Sound) (hheader : w.header = w.tunnel.held.length) (xs : Bytes) :
    (w.writeHeader xs).Sound := h.same (writeHeader_line hheader xs) rfl ⟨rfl, rfl⟩

theorem Sound.readHeader (h : w.Sound) (hheader : w.header = 4) : w.readHeader.Sound :=
  h.same (readHeader_line hheader) rfl ⟨rfl, rfl⟩

theorem Counted.send {xs : Bytes} (h : w.Counted) (hsend : w.send xs = some w') : w'.Counted := by
  obtain ⟨-, he⟩ := Option.ite_none_right_eq_some.mp hsend
  obtain rfl := Option.some.inj he
  refine ⟨?_, h.second⟩
  simp only [Stage.put_held, List.length_append]
  have hfirst := h.first
  omega

theorem Counted.close (h : w.Counted) (hclose : w.close = some w') : w'.Counted := by
  obtain ⟨-, he⟩ := Option.ite_none_right_eq_some.mp hclose
  obtain rfl := Option.some.inj he
  exact ⟨h.first, h.second⟩

theorem Counted.read {k : ℕ} (h : w.Counted) (hread : w.read k = some w') : w'.Counted := by
  obtain ⟨⟨-, hle⟩, he⟩ := Option.ite_none_right_eq_some.mp hread
  obtain rfl := Option.some.inj he
  refine ⟨h.first, fun h₂ => ?_⟩
  simp only [Stage.put_held, Stage.drop_held, List.length_append, List.length_take, List.length_drop]
  have hsecond := h.second h₂
  omega

theorem Counted.readEnd (h : w.Counted) (hread : w.readEnd = some w') : w'.Counted := by
  obtain ⟨-, he⟩ := Option.ite_none_right_eq_some.mp hread
  obtain rfl := Option.some.inj he
  exact ⟨h.first, h.second⟩

theorem Counted.copyFirst {e : DuplexCopy.Event} (h : w.Counted) (hcopy : w.copyFirst e = some w') : w'.Counted := by
  obtain ⟨r, hstep, rfl⟩ := Option.map_eq_some_iff.mp hcopy
  exact ⟨(step_steps hstep).accounts.left.trans h.first, h.second⟩

theorem Counted.copySecond {e : DuplexCopy.Event} (h : w.Counted) (hcopy : w.copySecond e = some w') : w'.Counted := by
  obtain ⟨r, hstep, rfl⟩ := Option.map_eq_some_iff.mp hcopy
  refine ⟨h.first, fun h₂ => ?_⟩
  have hright := (step_steps hstep).accounts.right
  have hsecond := h.second h₂
  dsimp only
  omega

/-- Once the receiver's pipe is shut down, all that was sent is in it or has been read from it. -/
theorem Sound.sink_ended (h : w.Sound) (h₁ : w.firstGone = false) (h₂ : w.secondGone = false)
    (hsink : w.sink.ended = true) : w.got.held ++ w.sink.held = w.sent ∧ w.source.ended = true := by
  have hd := h.drained
  have hc := h.whole h₁ h₂
  rw [line_whole h₁ h₂] at hd hc
  obtain ⟨hcontents, hall⟩ := Drained.contents_of_ended hd.tail hsink
  rw [contents_cons, hcontents] at hc
  exact ⟨hc, hall w.source (by simp)⟩

theorem Sound.got_ended (h : w.Sound) (h₁ : w.firstGone = false) (h₂ : w.secondGone = false)
    (hgot : w.got.ended = true) : w.got.held = w.sent ∧ w.source.ended = true := by
  have hd := h.drained
  have hc := h.whole h₁ h₂
  rw [line_whole h₁ h₂] at hd hc
  obtain ⟨hcontents, hall⟩ := Drained.contents_of_ended hd hgot
  exact ⟨hcontents.symm.trans hc, hall w.source (by simp)⟩

/-- Once the tunnel is shut down, nothing is left before it. -/
theorem Sound.tunnel_ended (h : w.Sound) (h₁ : w.firstGone = false) (h₂ : w.secondGone = false)
    (htunnel : w.tunnel.ended = true) :
    w.first.buffer.held = [] ∧ w.source.held = [] ∧ w.source.ended = true := by
  have hd := h.drained
  rw [line_whole h₁ h₂] at hd
  have hrest : Drained [w.tunnel.drop w.header, w.first.buffer, w.source] := hd.tail.tail.tail
  obtain ⟨hfirst, hsource⟩ := List.isChain_cons_cons.mp hrest
  obtain ⟨hended, hheld⟩ := hfirst htunnel
  obtain ⟨hsourceEnded, hsourceHeld⟩ := (List.isChain_cons_cons.mp hsource).1 hended
  exact ⟨hheld, hsourceHeld, hsourceEnded⟩

end Way

end GscFq.TunnelRelay
