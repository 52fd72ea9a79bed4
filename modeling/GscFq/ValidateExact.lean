import GscFq.HostPort
import GscFq.Validate

namespace GscFq

open Text

def IpText (text : String) : Prop := (IpAddr.parse (trim text)).isSome = true

/-- Absent, blank, `null` or an address. -/
def SourceIpUsable (sourceIp : Option String) : Prop :=
  ∀ text, sourceIp = some text → trim text = "" ∨ eqIgnoreAsciiCase (trim text) "null" = true ∨ IpText text

def BindIpUsable (bindIp : Option String) : Prop := ∀ text, bindIp = some text → trim text = "" ∨ IpText text

def PortGiven (port : Except AppError UInt16) : Prop := ∃ n, port = .ok n ∧ n ≠ 0

structure ProxySection.WellFormed (p : ProxySection) : Prop where
  localPort : PortGiven p.getLocalPort
  remotePort : PortGiven p.getRemotePort
  sourceIp : SourceIpUsable p.sourceIp

structure ReverseProxySection.WellFormed (r : ReverseProxySection) : Prop where
  serverPort : PortGiven r.getServerPort
  localPort : PortGiven r.getLocalPort
  sourceIp : SourceIpUsable r.sourceIp

structure ConfigFile.WellFormed (c : ConfigFile) : Prop where
  services : c.reverseProxies = [] ∨ c.reverseProxyServer.isSome = true ∨ c.reverseProxyClient.isSome = true
  bindIp : BindIpUsable (c.server.bind (·.bindIp))
  proxies : ∀ p ∈ c.proxies, p.WellFormed
  localPorts : c.proxies.Pairwise (fun p q => p.getLocalPort ≠ q.getLocalPort)
  reverseProxies : ∀ r ∈ c.reverseProxies, r.WellFormed
  serverPorts : c.reverseProxies.Pairwise (fun r q => r.getServerPort ≠ q.getServerPort)

theorem fail_errors (r : Report) (text : String) : (r.fail text).errors ≠ [] := by
  simp [Report.fail]

theorem failIf_errors_iff {r : Report} {b : Bool} {text : String} :
    (r.failIf b text).errors = [] ↔ r.errors = [] ∧ b = false := by
  cases b with
  | false => exact (and_iff_left rfl).symm
  | true => simp [Report.failIf, fail_errors]

theorem isNone_iff_not_ipText {text : String} : (IpAddr.parse (trim text)).isNone = true ↔ ¬ IpText text := by
  unfold IpText
  cases IpAddr.parse (trim text) <;> simp

theorem ok_ne_iff {port : UInt16} {seen : List UInt16} :
    (∀ n ∈ seen, (Except.ok port : Except AppError UInt16) ≠ .ok n) ↔ port ∉ seen := by
  constructor
  · exact fun h hmem => h port hmem rfl
  · rintro h n hmem ⟨⟩
    exact h hmem

theorem forall_unseen_cons {α : Type} {f : α → Except AppError UInt16} {x : α} {xs : List α} {port : UInt16}
    {seen : List UInt16} (hx : f x = .ok port) :
    (∀ y ∈ xs, ∀ n ∈ port :: seen, f y ≠ .ok n) ↔ (∀ y ∈ xs, f x ≠ f y) ∧ ∀ y ∈ xs, ∀ n ∈ seen, f y ≠ .ok n := by
  simp only [List.forall_mem_cons, hx, ne_comm, forall_and]

theorem validateServices_errors_iff (c : ConfigFile) (r : Report) :
    (validateServices c r).errors = [] ↔ r.errors = [] ∧
      (c.reverseProxies = [] ∨ c.reverseProxyServer.isSome = true ∨ c.reverseProxyClient.isSome = true) := by
  unfold validateServices
  rw [failIf_errors_iff]
  apply and_congr_right
  intro _
  cases c.reverseProxies <;> cases c.reverseProxyServer <;> cases c.reverseProxyClient <;> simp

theorem validateBindIp_errors_iff (server : Option ServerSection) (r : Report) :
    (validateBindIp server r).2.errors = [] ↔ r.errors = [] ∧ BindIpUsable (server.bind (·.bindIp)) := by
  unfold validateBindIp BindIpUsable
  cases server with
  | none => simp
  | some s =>
    cases hb : s.bindIp with
    | none => simp [hb]
    | some current =>
      simp only [Option.bind_some, hb, Option.some.injEq, forall_eq']
      split_ifs with hempty hparse htrim
      · simp [hempty, Report.warn]
      · rw [isNone_iff_not_ipText] at hparse
        simp [fail_errors, hempty, hparse]
      · rw [isNone_iff_not_ipText, not_not] at hparse
        simp [hparse]
      · rw [isNone_iff_not_ipText, not_not] at hparse
        simp [hparse]

theorem validateSourceIp_errors_iff (label : String) (sourceIp : Option String) (r : Report) :
    (validateSourceIp label sourceIp r).2.errors = [] ↔ r.errors = [] ∧ SourceIpUsable sourceIp := by
  unfold validateSourceIp SourceIpUsable
  cases sourceIp with
  | none => simp
  | some text =>
    simp only [Option.some.injEq, forall_eq']
    split_ifs with hempty hnull hparse
    · simp [hempty, Report.warn]
    · simp [hnull, Report.warn]
    · rw [isNone_iff_not_ipText] at hparse
      simp [fail_errors, hempty, hnull, hparse]
    · rw [isNone_iff_not_ipText, not_not] at hparse
      simp [hparse]

theorem validateProxy_errors_iff (index : ℕ) (p : ProxySection) (seen : List UInt16) (r : Report) :
    (validateProxy index p seen r).2.2.errors = [] ↔
      r.errors = [] ∧ p.WellFormed ∧ ∀ port ∈ seen, p.getLocalPort ≠ .ok port := by
  obtain ⟨host, hhost⟩ := p.getRemoteHost_total
  unfold validateProxy
  cases hl : p.getLocalPort with
  | error e =>
    have hno : ¬ p.WellFormed := by
      rintro ⟨⟨n, hn, -⟩, -, -⟩
      cases hl.symm.trans hn
    simp [fail_errors, hno]
  | ok localPort =>
    cases hr : p.getRemotePort with
    | error e =>
      have hno : ¬ p.WellFormed := by
        rintro ⟨-, ⟨n, hn, -⟩, -⟩
        cases hr.symm.trans hn
      simp [hhost, fail_errors, hno]
    | ok remotePort =>
      have hwell : p.WellFormed ↔ localPort ≠ 0 ∧ remotePort ≠ 0 ∧ SourceIpUsable p.sourceIp := by
        constructor
        · rintro ⟨⟨n, hn, hn0⟩, ⟨m, hm, hm0⟩, hs⟩
          cases hl.symm.trans hn
          cases hr.symm.trans hm
          exact ⟨hn0, hm0, hs⟩
        · rintro ⟨hn0, hm0, hs⟩
          exact ⟨⟨localPort, hl, hn0⟩, ⟨remotePort, hr, hm0⟩, hs⟩
      simp only [hhost]
      rw [validateSourceIp_errors_iff, failIf_errors_iff, failIf_errors_iff, failIf_errors_iff, hwell, ok_ne_iff]
      simp only [beq_eq_false_iff_ne, List.contains_eq_mem, decide_eq_false_iff_not]
      tauto

theorem validateProxy_seen {index : ℕ} {p : ProxySection} {seen : List UInt16} {r : Report} {port : UInt16}
    (hl : p.getLocalPort = .ok port) (hr : PortGiven p.getRemotePort) :
    (validateProxy index p seen r).2.1 = port :: seen := by
  obtain ⟨host, hhost⟩ := p.getRemoteHost_total
  obtain ⟨remotePort, hremote, -⟩ := hr
  simp only [validateProxy, hl, hhost, hremote]

theorem validateProxies_errors_iff (index : ℕ) (proxies : List ProxySection) (seen : List UInt16) (r : Report) :
    (validateProxies index proxies seen r).2.errors = [] ↔ r.errors = [] ∧ (∀ p ∈ proxies, p.WellFormed) ∧
      proxies.Pairwise (fun p q => p.getLocalPort ≠ q.getLocalPort) ∧
        ∀ p ∈ proxies, ∀ port ∈ seen, p.getLocalPort ≠ .ok port := by
  induction proxies generalizing index seen r with
  | nil => simp [validateProxies]
  | cons p proxies ih =>
    have hrest : (validateProxies index (p :: proxies) seen r).2 =
        (validateProxies (index + 1) proxies (validateProxy index p seen r).2.1 (validateProxy index p seen r).2.2).2 := rfl
    rw [hrest, ih, validateProxy_errors_iff]
    constructor
    · rintro ⟨⟨hr, hp, hseen⟩, hall, hpair, hnew⟩
      obtain ⟨port, hport, -⟩ := hp.localPort
      rw [validateProxy_seen hport hp.remotePort, forall_unseen_cons hport] at hnew
      exact ⟨hr, List.forall_mem_cons.mpr ⟨hp, hall⟩, List.pairwise_cons.mpr ⟨hnew.1, hpair⟩,
        List.forall_mem_cons.mpr ⟨hseen, hnew.2⟩⟩
    · rintro ⟨hr, hall, hpair, hseen⟩
      obtain ⟨hp, hall⟩ := List.forall_mem_cons.mp hall
      obtain ⟨hfirst, hpair⟩ := List.pairwise_cons.mp hpair
      obtain ⟨hpseen, hseen⟩ := List.forall_mem_cons.mp hseen
      obtain ⟨port, hport, -⟩ := hp.localPort
      refine ⟨⟨hr, hp, hpseen⟩, hall, hpair, ?_⟩
      rw [validateProxy_seen hport hp.remotePort, forall_unseen_cons hport]
      exact ⟨hfirst, hseen⟩

theorem validateReverseProxy_errors_iff (index : ℕ) (x : ReverseProxySection) (seen : List UInt16) (r : Report) :
    (validateReverseProxy index x seen r).2.errors = [] ↔
      r.errors = [] ∧ x.WellFormed ∧ ∀ port ∈ seen, x.getServerPort ≠ .ok port := by
  unfold validateReverseProxy
  cases hs : x.getServerPort with
  | error e =>
    have hno : ¬ x.WellFormed := by
      rintro ⟨⟨n, hn, -⟩, -, -⟩
      cases hs.symm.trans hn
    simp [fail_errors, hno]
  | ok serverPort =>
    cases hl : x.getLocalPort with
    | error e =>
      have hno : ¬ x.WellFormed := by
        rintro ⟨-, ⟨n, hn, -⟩, -⟩
        cases hl.symm.trans hn
      simp [fail_errors, hno]
    | ok localPort =>
      have hwell : x.WellFormed ↔ serverPort ≠ 0 ∧ localPort ≠ 0 ∧ SourceIpUsable x.sourceIp := by
        constructor
        · rintro ⟨⟨n, hn, hn0⟩, ⟨m, hm, hm0⟩, hsource⟩
          cases hs.symm.trans hn
          cases hl.symm.trans hm
          exact ⟨hn0, hm0, hsource⟩
        · rintro ⟨hn0, hm0, hsource⟩
          exact ⟨⟨serverPort, hs, hn0⟩, ⟨localPort, hl, hm0⟩, hsource⟩
      simp only
      rw [validateSourceIp_errors_iff, failIf_errors_iff, failIf_errors_iff, failIf_errors_iff, hwell, ok_ne_iff]
      simp only [beq_eq_false_iff_ne, List.contains_eq_mem, decide_eq_false_iff_not]
      tauto

theorem validateReverseProxy_seen {index : ℕ} {x : ReverseProxySection} {seen : List UInt16} {r : Report} {port : UInt16}
    (hs : x.getServerPort = .ok port) : (validateReverseProxy index x seen r).1 = port :: seen := by
  unfold validateReverseProxy
  simp only [hs]
  split <;> rfl

theorem validateReverseProxies_errors_iff (index : ℕ) (xs : List ReverseProxySection) (seen : List UInt16) (r : Report) :
    (validateReverseProxies index xs seen r).errors = [] ↔ r.errors = [] ∧ (∀ x ∈ xs, x.WellFormed) ∧
      xs.Pairwise (fun x y => x.getServerPort ≠ y.getServerPort) ∧
        ∀ x ∈ xs, ∀ port ∈ seen, x.getServerPort ≠ .ok port := by
  induction xs generalizing index seen r with
  | nil => simp [validateReverseProxies]
  | cons x xs ih =>
    have hrest : validateReverseProxies index (x :: xs) seen r = validateReverseProxies (index + 1) xs
        (validateReverseProxy index x seen r).1 (validateReverseProxy index x seen r).2 := rfl
    rw [hrest, ih, validateReverseProxy_errors_iff]
    constructor
    · rintro ⟨⟨hr, hx, hseen⟩, hall, hpair, hnew⟩
      obtain ⟨port, hport, -⟩ := hx.serverPort
      rw [validateReverseProxy_seen hport, forall_unseen_cons hport] at hnew
      exact ⟨hr, List.forall_mem_cons.mpr ⟨hx, hall⟩, List.pairwise_cons.mpr ⟨hnew.1, hpair⟩,
        List.forall_mem_cons.mpr ⟨hseen, hnew.2⟩⟩
    · rintro ⟨hr, hall, hpair, hseen⟩
      obtain ⟨hx, hall⟩ := List.forall_mem_cons.mp hall
      obtain ⟨hfirst, hpair⟩ := List.pairwise_cons.mp hpair
      obtain ⟨hxseen, hseen⟩ := List.forall_mem_cons.mp hseen
      obtain ⟨port, hport, -⟩ := hx.serverPort
      refine ⟨⟨hr, hx, hxseen⟩, hall, hpair, ?_⟩
      rw [validateReverseProxy_seen hport, forall_unseen_cons hport]
      exact ⟨hfirst, hseen⟩

theorem validateReport_errors_iff (c : ConfigFile) : c.validateReport.2.errors = [] ↔ c.WellFormed := by
  have hreport : c.validateReport.2 = validateReverseProxies 0 c.reverseProxies []
      (validateProxies 0 c.proxies [] (validateBindIp c.server (validateServices c ⟨[], []⟩)).2).2 := rfl
  rw [hreport, validateReverseProxies_errors_iff, validateProxies_errors_iff, validateBindIp_errors_iff,
    validateServices_errors_iff]
  constructor
  · rintro ⟨⟨⟨⟨-, hservices⟩, hbind⟩, hproxies, hlocal, -⟩, hreverse, hserver, -⟩
    exact ⟨hservices, hbind, hproxies, hlocal, hreverse, hserver⟩
  · rintro ⟨hservices, hbind, hproxies, hlocal, hreverse, hserver⟩
    exact ⟨⟨⟨⟨rfl, hservices⟩, hbind⟩, hproxies, hlocal, by simp⟩, hreverse, hserver, by simp⟩

theorem validate_ok_iff {c accepted : ConfigFile} {warnings : List String} :
    c.validate = (accepted, .ok warnings) ↔
      c.WellFormed ∧ accepted = c.validateReport.1 ∧ warnings = c.validateReport.2.warnings := by
  rw [← validateReport_errors_iff]
  unfold ConfigFile.validate
  dsimp only
  split
  · rename_i herrors
    simp [herrors, eq_comm]
  · rename_i herrors
    simp [herrors]

theorem validate_accepts_iff (c : ConfigFile) : (∃ warnings, c.validate.2 = .ok warnings) ↔ c.WellFormed := by
  constructor
  · rintro ⟨warnings, hw⟩
    exact (validate_ok_iff.mp (Prod.ext rfl hw : c.validate = (c.validate.1, .ok warnings))).1
  · intro hc
    exact ⟨_, congrArg Prod.snd (validate_ok_iff.mpr ⟨hc, rfl, rfl⟩)⟩

end GscFq
