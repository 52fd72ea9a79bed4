import GscFq.ValidateExact

namespace GscFq

open Text

def ServerSection.SameButBindIp (s t : ServerSection) : Prop := t = { s with bindIp := t.bindIp }

def ProxySection.SameButSourceIp (p q : ProxySection) : Prop := q = { p with sourceIp := q.sourceIp }

/-- `d` differs from `c` at most in `server.bind_ip` and in the `source_ip` of its proxies. -/
structure ConfigFile.SameButIps (c d : ConfigFile) : Prop where
  others : d = { c with server := d.server, proxies := d.proxies }
  server : Option.Rel ServerSection.SameButBindIp c.server d.server
  proxies : List.Forall₂ ProxySection.SameButSourceIp c.proxies d.proxies

def SettledBindIp (bindIp : Option String) : Prop :=
  ∀ text, bindIp = some text → trim text = text ∧ text ≠ "" ∧ IpText text

def SettledSourceIp (sourceIp : Option String) : Prop :=
  ∀ text, sourceIp = some text → trim text ≠ "" ∧ eqIgnoreAsciiCase (trim text) "null" = false ∧ IpText text

theorem SettledBindIp.usable {bindIp : Option String} (h : SettledBindIp bindIp) : BindIpUsable bindIp :=
  fun text htext => .inr (h text htext).2.2

theorem SettledSourceIp.usable {sourceIp : Option String} (h : SettledSourceIp sourceIp) : SourceIpUsable sourceIp :=
  fun text htext => .inr (.inr (h text htext).2.2)

theorem validateBindIp_same (server : Option ServerSection) (r : Report) :
    Option.Rel ServerSection.SameButBindIp server (validateBindIp server r).1 := by
  unfold validateBindIp
  cases server with
  | none => exact .none
  | some s =>
    dsimp only
    split
    · exact .some rfl
    · split_ifs <;> exact .some rfl

theorem validateBindIp_settled {server : Option ServerSection} {r : Report}
    (h : BindIpUsable (server.bind (·.bindIp))) : SettledBindIp ((validateBindIp server r).1.bind (·.bindIp)) := by
  unfold validateBindIp
  cases server with
  | none => simp [SettledBindIp]
  | some s =>
    dsimp only
    split
    · rename_i hb
      simp [SettledBindIp, hb]
    · rename_i current hb
      have hip : trim current ≠ "" → IpText current := (h current hb).resolve_left
      split_ifs with hempty hparse htrim
      · rintro text ⟨⟩
        exact ⟨by decide, by decide, by unfold IpText; decide⟩
      · exact absurd (hip hempty) (isNone_iff_not_ipText.mp hparse)
      · rintro text ⟨⟩
        refine ⟨trim_trim current, hempty, ?_⟩
        unfold IpText
        rw [trim_trim]
        exact hip hempty
      · rintro text htext
        have heq : current = text := Option.some.inj (hb.symm.trans htext)
        subst heq
        rw [not_not] at htrim
        exact ⟨htrim, htrim ▸ hempty, hip hempty⟩

theorem validateBindIp_of_settled {server : Option ServerSection} (h : SettledBindIp (server.bind (·.bindIp)))
    (r : Report) : validateBindIp server r = (server, r) := by
  unfold validateBindIp
  cases server with
  | none => rfl
  | some s =>
    dsimp only
    split
    · rfl
    · rename_i current hb
      obtain ⟨htrim, hempty, hip⟩ := h current hb
      rw [if_neg (htrim.symm ▸ hempty), if_neg (fun hnone => isNone_iff_not_ipText.mp hnone hip),
        if_neg (not_not.mpr htrim)]

theorem validateSourceIp_settled {sourceIp : Option String} (h : SourceIpUsable sourceIp) (label : String) (r : Report) :
    SettledSourceIp (validateSourceIp label sourceIp r).1 := by
  unfold validateSourceIp
  cases sourceIp with
  | none => simp [SettledSourceIp]
  | some text =>
    dsimp only
    split_ifs with hempty hnull hparse
    · simp [SettledSourceIp]
    · simp [SettledSourceIp]
    all_goals
      have hip : IpText text := ((h text rfl).resolve_left hempty).resolve_left hnull
      rintro _ ⟨⟩
      exact ⟨hempty, Bool.eq_false_iff.mpr hnull, hip⟩

theorem validateSourceIp_of_settled {sourceIp : Option String} (h : SettledSourceIp sourceIp) (label : String)
    (r : Report) : validateSourceIp label sourceIp r = (sourceIp, r) := by
  unfold validateSourceIp
  cases sourceIp with
  | none => rfl
  | some text =>
    obtain ⟨hempty, hnull, hip⟩ := h text rfl
    dsimp only
    rw [if_neg hempty, if_neg (Bool.eq_false_iff.mp hnull), if_neg (fun hnone => isNone_iff_not_ipText.mp hnone hip)]

theorem validateProxy_same (index : ℕ) (p : ProxySection) (seen : List UInt16) (r : Report) :
    p.SameButSourceIp (validateProxy index p seen r).1 := by
  unfold validateProxy
  dsimp only
  repeat' split
  all_goals rfl

theorem validateProxy_settled {p : ProxySection} (h : p.WellFormed) (index : ℕ) (seen : List UInt16) (r : Report) :
    SettledSourceIp (validateProxy index p seen r).1.sourceIp := by
  obtain ⟨⟨localPort, hl, -⟩, ⟨remotePort, hr, -⟩, hs⟩ := h
  obtain ⟨host, hhost⟩ := p.getRemoteHost_total
  simp only [validateProxy, hl, hr, hhost]
  exact validateSourceIp_settled hs _ _

theorem validateProxy_of_settled {p : ProxySection} (h : SettledSourceIp p.sourceIp) (index : ℕ) (seen : List UInt16)
    (r : Report) : (validateProxy index p seen r).1 = p := by
  unfold validateProxy
  dsimp only
  repeat' split
  all_goals first | rfl | rw [validateSourceIp_of_settled h]

theorem validateProxies_same (index : ℕ) (proxies : List ProxySection) (seen : List UInt16) (r : Report) :
    List.Forall₂ ProxySection.SameButSourceIp proxies (validateProxies index proxies seen r).1 := by
  induction proxies generalizing index seen r with
  | nil => exact .nil
  | cons p proxies ih => exact .cons (validateProxy_same index p seen r) (ih (index + 1) _ _)

theorem validateProxies_settled {proxies : List ProxySection} (h : ∀ p ∈ proxies, p.WellFormed) (index : ℕ)
    (seen : List UInt16) (r : Report) :
    ∀ p ∈ (validateProxies index proxies seen r).1, SettledSourceIp p.sourceIp := by
  induction proxies generalizing index seen r with
  | nil => simp [validateProxies]
  | cons p proxies ih =>
    obtain ⟨hp, hrest⟩ := List.forall_mem_cons.mp h
    exact List.forall_mem_cons.mpr ⟨validateProxy_settled hp index seen r, ih hrest (index + 1) _ _⟩

theorem validateProxies_of_settled {proxies : List ProxySection} (h : ∀ p ∈ proxies, SettledSourceIp p.sourceIp)
    (index : ℕ) (seen : List UInt16) (r : Report) : (validateProxies index proxies seen r).1 = proxies := by
  induction proxies generalizing index seen r with
  | nil => rfl
  | cons p proxies ih =>
    obtain ⟨hp, hrest⟩ := List.forall_mem_cons.mp h
    exact congrArg₂ List.cons (validateProxy_of_settled hp index seen r) (ih hrest (index + 1) _ _)

theorem validateReport_same (c : ConfigFile) : c.SameButIps c.validateReport.1 :=
  ⟨rfl, validateBindIp_same c.server _, validateProxies_same 0 c.proxies [] _⟩

theorem validate_fst (c : ConfigFile) : c.validate.1 = c.validateReport.1 := by
  unfold ConfigFile.validate
  dsimp only
  split <;> rfl

structure ConfigFile.Settled (c : ConfigFile) : Prop where
  bindIp : SettledBindIp (c.server.bind (·.bindIp))
  proxies : ∀ p ∈ c.proxies, SettledSourceIp p.sourceIp

theorem validateReport_settled {c : ConfigFile} (h : c.WellFormed) : c.validateReport.1.Settled :=
  ⟨validateBindIp_settled h.bindIp, validateProxies_settled h.proxies 0 [] _⟩

theorem validateReport_of_settled {c : ConfigFile} (h : c.Settled) : c.validateReport.1 = c := by
  have hserver : (validateBindIp c.server (validateServices c ⟨[], []⟩)).1 = c.server := by
    rw [validateBindIp_of_settled h.bindIp]
  have hproxies : (validateProxies 0 c.proxies [] (validateBindIp c.server (validateServices c ⟨[], []⟩)).2).1 =
      c.proxies := validateProxies_of_settled h.proxies 0 [] _
  unfold ConfigFile.validateReport
  simp only [hserver, hproxies]

theorem ProxySection.SameButSourceIp.wellFormed {p q : ProxySection} (h : p.SameButSourceIp q) (hp : p.WellFormed)
    (hs : SettledSourceIp q.sourceIp) : q.WellFormed := by
  rw [h]
  exact ⟨hp.localPort, hp.remotePort, hs.usable⟩

theorem wellFormed_of_same {ps qs : List ProxySection} (h : List.Forall₂ ProxySection.SameButSourceIp ps qs)
    (hp : ∀ p ∈ ps, p.WellFormed) (hq : ∀ q ∈ qs, SettledSourceIp q.sourceIp) : ∀ q ∈ qs, q.WellFormed := by
  induction h with
  | nil => simp
  | cons hsame _ ih =>
    obtain ⟨hp, hps⟩ := List.forall_mem_cons.mp hp
    obtain ⟨hq, hqs⟩ := List.forall_mem_cons.mp hq
    exact List.forall_mem_cons.mpr ⟨hsame.wellFormed hp hq, ih hps hqs⟩

theorem map_getLocalPort_of_same {ps qs : List ProxySection}
    (h : List.Forall₂ ProxySection.SameButSourceIp ps qs) :
    qs.map ProxySection.getLocalPort = ps.map ProxySection.getLocalPort := by
  induction h with
  | nil => rfl
  | cons hsame _ ih =>
    rw [List.map_cons, List.map_cons, ih, hsame]
    rfl

theorem ConfigFile.SameButIps.wellFormed {c d : ConfigFile} (h : c.SameButIps d) (hc : c.WellFormed)
    (hd : d.Settled) : d.WellFormed where
  services := by
    rw [h.others]
    exact hc.services
  bindIp := hd.bindIp.usable
  proxies := wellFormed_of_same h.proxies hc.proxies hd.proxies
  localPorts := by
    have hc := List.pairwise_map.mpr hc.localPorts
    rw [← map_getLocalPort_of_same h.proxies] at hc
    exact List.pairwise_map.mp hc
  reverseProxies := by
    rw [h.others]
    exact hc.reverseProxies
  serverPorts := by
    rw [h.others]
    exact hc.serverPorts

theorem validate_wellFormed {c accepted : ConfigFile} {warnings : List String}
    (h : c.validate = (accepted, .ok warnings)) : accepted.WellFormed ∧ accepted.Settled := by
  obtain ⟨hc, rfl, -⟩ := validate_ok_iff.mp h
  have hsettled := validateReport_settled hc
  exact ⟨(validateReport_same c).wellFormed hc hsettled, hsettled⟩

theorem validate_settles (c : ConfigFile) :
    c.SameButIps c.validate.1 ∧ ∀ warnings, c.validate.2 = .ok warnings →
      ∃ warnings', c.validate.1.validate = (c.validate.1, .ok warnings') := by
  refine ⟨validate_fst c ▸ validateReport_same c, ?_⟩
  intro warnings hok
  obtain ⟨hwell, hsettled⟩ := validate_wellFormed (Prod.ext rfl hok : c.validate = (c.validate.1, .ok warnings))
  exact ⟨_, validate_ok_iff.mpr ⟨hwell, (validateReport_of_settled hsettled).symm, rfl⟩⟩

end GscFq
