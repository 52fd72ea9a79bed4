import GscFq.TunnelFrames
import GscFq.Transitions

/-!
The main loop of the client and the tunnel tasks it spawns. The streams arrive from the server in
pieces and interleaved in any way; a task acts on what its stream holds when it is scheduled.
-/

namespace GscFq.ClientTunnels

open ByteStream Tunnel

structure Task where
  stream : Stream IoError
  net : LocalNet
  outcome : Option Outcome
  deriving DecidableEq

structure State where
  running : Bool
  tasks : List Task
  deriving DecidableEq

inductive Event where
  | inbound (net : LocalNet)
  | recv (i : ℕ) (chunk : Bytes)
  | close (i : ℕ) (e : IoError)
  | localSends (i : ℕ) (bytes : Bytes)
  | relayEnds (i : ℕ)
  | poll (i : ℕ)
  | stop
  deriving DecidableEq

def init : State := ⟨true, []⟩

def Task.poll (configs : List ReverseProxyConfig) (task : Task) : Option Task :=
  let o := handleTunnelStream configs task.net task.stream
  if (task.outcome.bind (·.result)).isNone ∧ o ≠ .waiting then some { task with outcome := some o } else none

def Task.step (configs : List ReverseProxyConfig) (task : Task) : Event → Option Task
  | .recv _ chunk => if task.stream.ending = none then some { task with stream := task.stream.push chunk } else none
  | .close _ e =>
    if task.stream.ending = none then some { task with stream := { task.stream with ending := some e } } else none
  | .localSends _ bytes => some { task with net := { task.net with localBytes := task.net.localBytes ++ bytes } }
  | .relayEnds _ => some { task with net := { task.net with relayOver := true } }
  | .poll _ => task.poll configs
  | _ => none

def taskStep (configs : List ReverseProxyConfig) (s : State) (i : ℕ) (e : Event) : Option State :=
  (s.tasks[i]?).bind (fun task => (task.step configs e).map (fun task' => { s with tasks := s.tasks.set i task' }))

def step (configs : List ReverseProxyConfig) (s : State) : Event → Option State
  | .inbound net => if s.running then some { s with tasks := s.tasks ++ [⟨⟨[], none⟩, net, none⟩] } else none
  | .stop => if s.running then some { s with running := false } else none
  | .recv i chunk => taskStep configs s i (.recv i chunk)
  | .close i e => taskStep configs s i (.close i e)
  | .localSends i bytes => taskStep configs s i (.localSends i bytes)
  | .relayEnds i => taskStep configs s i (.relayEnds i)
  | .poll i => taskStep configs s i (.poll i)

def FirstEntry (configs : List ReverseProxyConfig) (port : UInt16) (target : ReverseProxyConfig) : Prop :=
  ∃ before after, configs = before ++ target :: after ∧ target.serverPort = port ∧
    ∀ c ∈ before, c.serverPort ≠ port

/-- The traffic a header allows: a connection for type 1 and a datagram for type 2, to the target of
the first entry for its port. -/
def Allowed (configs : List ReverseProxyConfig) (bytes : Bytes) (t : LocalTraffic) : Prop :=
  ∃ msgType reserved hi lo rest target, bytes = msgType :: reserved :: hi :: lo :: rest ∧
    FirstEntry configs (ofBe16 hi lo) target ∧
    ((msgType = 0x01 ∧ t = .connect (localAddr target)) ∨
      (msgType = 0x02 ∧ ∃ payload, t = .sendTo (localAddr target) payload))

theorem lookup_firstEntry {configs : List ReverseProxyConfig} {port : UInt16} {target : ReverseProxyConfig}
    (h : lookup configs port = some target) : FirstEntry configs port target := by
  obtain ⟨hp, before, after, hsplit, hbefore⟩ := List.find?_eq_some_iff_append.mp h
  exact ⟨before, after, hsplit, by simpa using hp, by simpa using hbefore⟩

theorem parseOrder_header {configs : List ReverseProxyConfig} {bytes : Bytes} {order : Order}
    (h : parseOrder configs bytes = some order) :
    ∃ msgType reserved hi lo rest target, bytes = msgType :: reserved :: hi :: lo :: rest ∧
      lookup configs (ofBe16 hi lo) = some target ∧
      ((msgType = 0x01 ∧ order = .tcp target rest) ∨
        (msgType = 0x02 ∧ ∃ payload, udpPayload rest = some payload ∧ order = .udp target payload)) := by
  unfold parseOrder at h
  split at h
  · rename_i msgType reserved hi lo rest
    obtain ⟨target, hl, h⟩ := Option.bind_eq_some_iff.mp h
    refine ⟨msgType, reserved, hi, lo, rest, target, rfl, hl, ?_⟩
    split at h
    · rename_i h1
      exact Or.inl ⟨h1, (Option.some.inj h).symm⟩
    · split at h
      · rename_i h2
        obtain ⟨payload, hp, rfl⟩ := Option.map_eq_some_iff.mp h
        exact Or.inr ⟨h2, payload, hp, rfl⟩
      · cases h
  · cases h

theorem udpPayload_append {bytes payload : Bytes} (h : udpPayload bytes = some payload) (more : Bytes) :
    udpPayload (bytes ++ more) = some payload := by
  unfold udpPayload at h
  split at h
  · rename_i hi lo rest
    split at h
    · rename_i hle
      simp only [List.cons_append, udpPayload]
      rw [if_pos (by rw [List.length_append]; omega), List.take_append_of_le_length hle, h]
    · cases h
  · cases h

theorem parseOrder_append {configs : List ReverseProxyConfig} {bytes : Bytes} {order : Order}
    (h : parseOrder configs bytes = some order) (more : Bytes) : parseOrder configs (bytes ++ more) ≠ none := by
  obtain ⟨msgType, reserved, hi, lo, rest, target, rfl, hl, ⟨rfl, -⟩ | ⟨rfl, payload, hp, -⟩⟩ := parseOrder_header h
  · simp [parseOrder, hl]
  · simp [parseOrder, hl, udpPayload_append hp more]

end GscFq.ClientTunnels
