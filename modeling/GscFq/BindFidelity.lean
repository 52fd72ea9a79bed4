import GscFq.BindAddress
import GscFq.ReverseRouting

namespace GscFq.Sessions

open HandleClient ReverseProxyClient Routing Text

variable {X : Externals} {srv : ReverseProxyServer}

def Told (X : Externals) (task : Task) : Prop :=
  task.proxies = [] ∨ ∃ hello, Greeted X task hello ∧ task.proxies = hello.proxies

theorem afterHello_told {task : Task} {now stamp : UInt64} {broken : Option IoError}
    {r : ReverseProxyServer.HandshakeResult} (ht : Told X task)
    (h : srv.handshake X now stamp task.addr broken task.control = some r) : Told X (afterHello task now r) := by
  rcases ReverseProxyServer.handshake_sent h with ⟨hello, rest, reply, hread, ho, -⟩ | ⟨⟨e, ho⟩, -⟩
  · have hafter : (afterHello task now r).control = task.control ∧
        (afterHello task now r).proxies = hello.proxies := by simp [afterHello, ho]
    exact Or.inr ⟨hello, ⟨rest, by rw [hafter.1]; exact hread⟩, hafter.2⟩
  · have hafter : (afterHello task now r).control = task.control ∧
        (afterHello task now r).proxies = task.proxies := by simp [afterHello, ho]
    unfold Told Greeted
    rw [hafter.1, hafter.2]
    exact ht

theorem Told.grow {task task' : Task} (h : Told X task) (hx : task.control.Extends task'.control)
    (hp : task'.proxies = task.proxies) : Told X task' := by
  rcases h with hnil | ⟨hello, hg, he⟩
  · exact Or.inl (hp.trans hnil)
  · exact Or.inr ⟨hello, hg.grow hx, hp.trans he⟩

theorem Told.move {instant : ℕ} {task task' : Task} {eff : Effect} (ht : Told X task)
    (hm : Move X srv instant task task' eff) : Told X task' := by
  cases hm with
  | input hrun hx => exact ht.grow hx rfl
  | hello hopen hres => exact afterHello_told ht hres
  | bind | spawn | store | serve | leave => exact ht.grow (.refl _) rfl

theorem run_told {es : List Event} {s : State} (h : run X srv es = some s) :
    ∀ (t : TaskId) (task : Task), s.tasks[t]? = some task → Told X task := by
  apply run_tasks (P := Told X) _ _ h
  · intro addr
    exact Or.inl rfl
  · rintro now task task' ht (rfl | ⟨new, eff, spawned, hm, rfl, -⟩)
    · exact ht
    · exact (ht.move hm).grow (.refl _) rfl

/-- The listener is bound where the `server` field of its entry says: to the very address it names
when that is an IPv4 address, and to the wildcard address only when it names none. -/
structure BoundAsWritten (rproxy : ReverseProxySection) (x : Listener) : Prop where
  named : ∀ host a b c d port, rproxy.getServerIp = some host → IpAddr.parse host = some (.v4 a b c d) →
    rproxy.getServerPort = .ok port → x.boundTo = some (.new (.v4 a b c d) port)
  wildcard : ∀ addr, x.boundTo = some addr → addr.ip = .v4 0 0 0 0 → contains ':' rproxy.server = false

theorem boundAsWritten_iff (rproxy : ReverseProxySection) (x : Listener) :
    BoundAsWritten rproxy x ↔ contains ':' rproxy.server = false := by
  constructor
  · intro h
    exact h.wildcard _ (parse_bindAddr x.port) rfl
  · intro hbare
    refine ⟨?_, fun _ _ _ => hbare⟩
    intro host a b c d port hhost
    simp [ReverseProxySection.getServerIp, hbare] at hhost

theorem bind_address_iff {config accepted : ConfigFile} {warnings : List String}
    (hv : config.validate = (accepted, .ok warnings)) {client : ReverseProxyClient} (hc : client.config = accepted)
    {now : UInt64} {hello : ClientHello} (hsends : client.Sends X now hello) {es : List Event} {s : State}
    (hrun : run X srv es = some s) {t : TaskId} {task : Task} (ht : s.tasks[t]? = some task)
    (hg : Greeted X task hello) {l : ListenerId} (hl : l ∈ task.spawned) {x : Listener}
    (hx : s.listeners[l]? = some x) :
    (∃! i, Exposes accepted i x.port) ∧ ∀ rproxy ∈ accepted.reverseProxies, rproxy.getServerPort = .ok x.port →
      (BoundAsWritten rproxy x ↔ contains ':' rproxy.server = false) := by
  refine ⟨?_, fun rproxy _ _ => boundAsWritten_iff rproxy x⟩
  obtain ⟨proxies, hp, hnodup⟩ := validate_ok hv
  obtain ⟨c, hcm, hport⟩ := List.mem_map.mp ((run_requested hrun t task ht).opened l hl x hx)
  have hproxies : task.proxies = proxies := by
    obtain ⟨proxies', hp', -, hhello⟩ := hsends
    rw [hc, hp] at hp'
    obtain rfl := Except.ok.inj hp'
    rcases run_told hrun t task ht with hnil | ⟨hello', ⟨rest', hread'⟩, hpt⟩
    · simp [hnil] at hcm
    · obtain ⟨rest, hread⟩ := hg
      obtain ⟨hm, -⟩ := ByteStream.Read.ok.inj (hread.symm.trans hread')
      obtain rfl := ControlMessage.clientHello.inj hm
      unfold makeHello at hhello
      split at hhello
      · cases hhello
      · cases hhello
        exact hpt
  rw [← hport]
  exact exposes_unique hp hnodup (hproxies ▸ hcm)

theorem sample_bound_as_written :
    ∃ s task x, run Bincode.sample sampleOpenServer sampleSession = some s ∧ s.tasks[0]? = some task ∧
      s.listeners[0]? = some x ∧ BoundAsWritten ⟨"8080", "3000", none⟩ x := by
  have hrun : ((run Bincode.sample sampleOpenServer sampleSession).bind (fun s =>
      (s.tasks[0]?).bind (fun task => (s.listeners[0]?).map (fun x =>
        (decide (ControlMessage.readFrom Bincode.sample task.control = .ok (.clientHello Bincode.sampleHello) ⟨[[]], none⟩),
          task.spawned, x.port))))) = some (true, [0], 8080) := by decide +kernel
  obtain ⟨s, hs, hrest⟩ := Option.bind_eq_some_iff.mp hrun
  obtain ⟨task, ht, hrest⟩ := Option.bind_eq_some_iff.mp hrest
  obtain ⟨x, hx, he⟩ := Option.map_eq_some_iff.mp hrest
  simp only [Prod.mk.injEq, decide_eq_true_eq] at he
  obtain ⟨hread, hspawned, hport⟩ := he
  have hvalid : (exposingConfig "8080").validate = (exposingConfig "8080", .ok []) := rfl
  have hsends : (exposingClient "8080").Sends Bincode.sample 0 Bincode.sampleHello :=
    ⟨Bincode.sampleProxies, rfl, by decide, rfl⟩
  have hmem : 0 ∈ task.spawned := by simp [hspawned]
  have hiff := (bind_address_iff hvalid rfl hsends hs ht ⟨_, hread⟩ hmem hx).2 _ (List.mem_singleton_self _)
    (by rw [hport]; rfl)
  exact ⟨s, task, x, hs, ht, hx, hiff.mpr (by decide)⟩

def loopbackProxies : List ReverseProxyConfig := [⟨8080, some "127.0.0.1", "localhost", 3000⟩]

def loopbackSha256 : ByteStream.Bytes :=
  [77, 75, 128, 225, 173, 42, 126, 184, 36, 223, 59, 140, 161, 249, 129, 37, 79, 113, 22, 0, 103, 184, 69, 111,
    59, 182, 214, 78, 5, 244, 147, 238]

def loopbackLibraries : Externals := Bincode.externals Bincode.sampleTotp (fun _ => loopbackSha256)

def loopbackHello : ClientHello :=
  ⟨protocolVersion, "my-secret-token", none, loopbackProxies, lowerHex loopbackSha256⟩

def loopbackSession : List Event :=
  let data := Bincode.message.encode (.clientHello loopbackHello)
  [.accept samplePeer, .task 0 (.recv (ByteStream.toBe 4 data.length ++ data)), .task 0 (.hello 0 0 none),
    .task 0 (.bindTcp true)]

theorem loopback_entry_exposed :
    (exposingConfig "127.0.0.1:8080").validate = (exposingConfig "127.0.0.1:8080", .ok []) ∧
      (exposingClient "127.0.0.1:8080").Sends loopbackLibraries 0 loopbackHello ∧
      ∃ s x, run loopbackLibraries sampleOpenServer loopbackSession = some s ∧ s.listeners[0]? = some x ∧
        x.boundTo = some (.new (.v4 0 0 0 0) 8080) ∧ ¬ BoundAsWritten ⟨"127.0.0.1:8080", "3000", none⟩ x := by
  refine ⟨rfl, ⟨loopbackProxies, rfl, by decide, rfl⟩, ?_⟩
  have hrun : (run loopbackLibraries sampleOpenServer loopbackSession).bind (·.listeners[0]?) =
      some ⟨.tcp, 8080, true⟩ := by decide +kernel
  obtain ⟨s, hs, hx⟩ := Option.bind_eq_some_iff.mp hrun
  refine ⟨s, _, hs, hx, parse_bindAddr 8080, ?_⟩
  intro hbound
  have hnamed := hbound.named "127.0.0.1" 127 0 0 1 8080 rfl rfl rfl
  rw [Listener.boundTo, parse_bindAddr] at hnamed
  exact absurd hnamed (by decide)

end GscFq.Sessions
