import GscFq.Lists
import GscFq.UdpSessions

namespace GscFq.UdpSessions

open GscFq.Lists Stealth

/-- The relay task of a session that has not taken it out of the table yet. -/
def Relay.Serves (rel : Relay) (c : SocketAddr) (k : BackendId) : Prop :=
  rel.client = c ∧ rel.socket = k ∧ rel.stage ≠ .done

def Served (relays : List Relay) (c : SocketAddr) (k : BackendId) : Prop :=
  ∃ rel : Relay, rel ∈ relays ∧ rel.Serves c k

def OnePerClient (relays : List Relay) : Prop :=
  ∀ (r r' : RelayId) (rel rel' : Relay), relays[r]? = some rel → relays[r']? = some rel' → rel.stage ≠ .done →
    rel'.stage ≠ .done → rel.client = rel'.client → r = r'

theorem served_snoc (relays : List Relay) (new : Relay) (c : SocketAddr) (k : BackendId) :
    Served (relays ++ [new]) c k ↔ Served relays c k ∨ new.Serves c k := by
  constructor
  · rintro ⟨rel, hm, hs⟩
    rcases List.mem_append.mp hm with hm | hm
    · exact Or.inl ⟨rel, hm, hs⟩
    · obtain rfl := List.mem_singleton.mp hm
      exact Or.inr hs
  · rintro (⟨rel, hm, hs⟩ | hs)
    · exact ⟨rel, List.mem_append_left _ hm, hs⟩
    · exact ⟨new, by simp, hs⟩

theorem OnePerClient.snoc {relays : List Relay} {new : Relay} (ho : OnePerClient relays)
    (hnew : ∀ k, ¬ Served relays new.client k) : OnePerClient (relays ++ [new]) := by
  intro r r' rel rel' hr hr' hlive hlive' hc
  rcases getElem?_snoc_some hr with hold | ⟨rfl, rfl⟩
  · rcases getElem?_snoc_some hr' with hold' | ⟨rfl, rfl⟩
    · exact ho r r' rel rel' hold hold' hlive hlive' hc
    · exact absurd ⟨rel, List.mem_of_getElem? hold, hc, rfl, hlive⟩ (hnew rel.socket)
  · rcases getElem?_snoc_some hr' with hold' | ⟨rfl, rfl⟩
    · exact absurd ⟨rel', List.mem_of_getElem? hold', hc.symm, rfl, hlive'⟩ (hnew rel'.socket)
    · rfl

theorem served_set {relays : List Relay} {r : RelayId} {old new : Relay} (hr : relays[r]? = some old)
    (hs : ∀ c k, new.Serves c k ↔ old.Serves c k) (c : SocketAddr) (k : BackendId) :
    Served (relays.set r new) c k ↔ Served relays c k := by
  have hset : (relays.set r new)[r]? = some new := by
    obtain ⟨hlt, -⟩ := List.getElem?_eq_some_iff.mp hr
    exact List.getElem?_set_self hlt
  constructor
  · rintro ⟨rel, hm, hrel⟩
    obtain ⟨j, hj⟩ := List.mem_iff_getElem?.mp hm
    rcases getElem?_set_some hj with ⟨-, rfl⟩ | ⟨-, hj⟩
    · exact ⟨old, List.mem_of_getElem? hr, (hs c k).mp hrel⟩
    · exact ⟨rel, List.mem_of_getElem? hj, hrel⟩
  · rintro ⟨rel, hm, hrel⟩
    obtain ⟨j, hj⟩ := List.mem_iff_getElem?.mp hm
    by_cases hij : r = j
    · subst hij
      obtain rfl : old = rel := Option.some.inj (hr.symm.trans hj)
      exact ⟨new, List.mem_of_getElem? hset, (hs c k).mpr hrel⟩
    · exact ⟨rel, List.mem_of_getElem? ((List.getElem?_set_ne hij).trans hj), hrel⟩

theorem OnePerClient.set {relays : List Relay} {r : RelayId} {old new : Relay} (ho : OnePerClient relays)
    (hr : relays[r]? = some old) (hclient : new.client = old.client) (hlive : new.stage ≠ .done → old.stage ≠ .done) :
    OnePerClient (relays.set r new) := by
  have hback : ∀ (j : RelayId) (rel : Relay), (relays.set r new)[j]? = some rel → rel.stage ≠ .done →
      ∃ rel', relays[j]? = some rel' ∧ rel'.stage ≠ .done ∧ rel'.client = rel.client := by
    intro j rel hj hrel
    rcases getElem?_set_some hj with ⟨rfl, rfl⟩ | ⟨-, hj⟩
    · exact ⟨old, hr, hlive hrel, hclient.symm⟩
    · exact ⟨rel, hj, hrel, rfl⟩
  intro i j rel rel' hi hj hreli hrelj hc
  obtain ⟨a, ha, halive, hac⟩ := hback i rel hi hreli
  obtain ⟨b, hb, hblive, hbc⟩ := hback j rel' hj hrelj
  exact ho i j a b ha hb halive hblive (by rw [hac, hbc, hc])

theorem served_done {relays : List Relay} {r : RelayId} {old : Relay} (ho : OnePerClient relays)
    (hr : relays[r]? = some old) (hlive : old.stage ≠ .done) (c : SocketAddr) (k : BackendId) :
    Served (relays.set r { old with stage := .done }) c k ↔ Served relays c k ∧ c ≠ old.client := by
  constructor
  · rintro ⟨rel, hm, hrel⟩
    obtain ⟨j, hj⟩ := List.mem_iff_getElem?.mp hm
    rcases getElem?_set_some hj with ⟨-, rfl⟩ | ⟨hij, hj⟩
    · exact absurd rfl hrel.2.2
    · refine ⟨⟨rel, List.mem_of_getElem? hj, hrel⟩, ?_⟩
      rintro rfl
      exact hij (ho r j old rel hr hj hlive hrel.2.2 hrel.1.symm)
  · rintro ⟨⟨rel, hm, hrel⟩, hne⟩
    obtain ⟨j, hj⟩ := List.mem_iff_getElem?.mp hm
    have hij : r ≠ j := by
      rintro rfl
      obtain rfl : old = rel := Option.some.inj (hr.symm.trans hj)
      exact hne hrel.1.symm
    exact ⟨rel, List.mem_of_getElem? ((List.getElem?_set_ne hij).trans hj), hrel⟩

end GscFq.UdpSessions
