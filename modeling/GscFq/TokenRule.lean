import GscFq.LibraryFormats
import GscFq.HandshakeReplies

namespace GscFq.ReverseProxyServer

open ByteStream ControlMessage

theorem exists_fresh_token (tokens : List String) : ∃ token, token ∉ tokens := by
  refine ⟨String.ofList (List.replicate ((tokens.map String.length).sum + 1) 'x'), fun hm => ?_⟩
  have hle := List.single_le_sum (fun _ _ => Nat.zero_le _) _ (List.mem_map_of_mem (f := String.length) hm)
  rw [String.length_ofList, List.length_replicate] at hle
  omega

def honestHello (X : Externals) (token : String) (code : Option UInt32) (proxies : List ReverseProxyConfig)
    (json : String) : ClientHello :=
  ⟨protocolVersion, token, code, proxies, configHash X json⟩

theorem answersOk_of_token {X : Externals} (hx : X.Lawful) (srv : ReverseProxyServer) (token : String)
    (ht : srv.tokenValid token = true) (hs : srv.totpSecret = none) (code : Option UInt32) (now stamp : UInt64)
    (addr : SocketAddr) : ∃ hello : ClientHello, hello.token = token ∧ hello.totpCode = code ∧
      srv.AnswersOk X now stamp addr none hello := by
  obtain ⟨json, hj⟩ := hx.json_ok [⟨80, none, "localhost", 80⟩]
  refine ⟨honestHello X token code [⟨80, none, "localhost", 80⟩] json, rfl, rfl, ?_⟩
  have hf : srv.firstFailing X now (honestHello X token code [⟨80, none, "localhost", 80⟩] json) = none := by
    rw [firstFailing_eq_none]
    exact ⟨rfl, ht, by simp [totpValid, hs], ⟨json, hj, rfl⟩, by simp [honestHello]⟩
  have hfit := okReply_size stamp addr [⟨80, none, "localhost", 80⟩] 1 (by decide) (by decide)
  obtain ⟨bytes, -, hr⟩ := answer_accepted hx stamp addr hf (hfit.trans (by decide))
  exact ⟨okReply stamp addr [⟨80, none, "localhost", 80⟩], by rw [hr]; exact List.mem_singleton_self _, rfl⟩

def TokenSetSound (X : Externals) (srv : ReverseProxyServer) (authToken : Option String)
    (allowedTokens : List String) : Prop :=
  ∀ now stamp addr broken hello, srv.AnswersOk X now stamp addr broken hello →
    authToken = some hello.token ∨ hello.token ∈ allowedTokens

theorem token_set_sound_iff {X : Externals} (hx : X.Lawful) (bindIp : IpAddr) (port : UInt16)
    (authToken : Option String) (allowedTokens : List String) (hc : authToken ≠ none ∨ allowedTokens ≠ []) :
    TokenSetSound X (newWithAuth bindIp port authToken allowedTokens) authToken allowedTokens ↔
      authToken ≠ none := by
  constructor
  · rintro hsound rfl
    obtain ⟨token, hfresh⟩ := exists_fresh_token allowedTokens
    obtain ⟨hello, rfl, -, hok⟩ := answersOk_of_token hx (newWithAuth bindIp port none allowedTokens) token rfl rfl
      none 0 0 (.new bindIp port)
    exact (hsound 0 0 _ none hello hok).elim (fun h => by cases h) hfresh
  · intro hsome now stamp addr broken hello hok
    obtain ⟨serverToken, rfl⟩ := Option.ne_none_iff_exists'.mp hsome
    have htok := (firstFailing_eq_none.mp hok.passes).2.1
    simp only [tokenValid, newWithAuth, Bool.or_eq_true, beq_iff_eq, List.contains_iff_mem] at htok
    exact htok.imp (fun h => by rw [h]) id

theorem token_set_sound_with_master :
    TokenSetSound Bincode.sample (newWithAuth (.v4 127 0 0 1) 9000 (some "master") ["token1"]) (some "master")
      ["token1"] :=
  (token_set_sound_iff (Bincode.externals_lawful _ _) (.v4 127 0 0 1) 9000 (some "master") ["token1"]
    (Or.inl (by decide))).mpr (by decide)

theorem wrong_token_accepted :
    (none ≠ (none : Option String) ∨ ["token1"] ≠ []) ∧
      (newWithAuth (.v4 127 0 0 1) 9000 none ["token1"]).AnswersOk Bincode.sample 0 0 (.new (.v4 127 0 0 1) 50000) none
        (honestHello Bincode.sample "wrong-token" none Bincode.sampleProxies
          (Bincode.jsonProxies Bincode.sampleProxies)) ∧
      ¬ (none = some "wrong-token" ∨ "wrong-token" ∈ ["token1"]) := by
  refine ⟨by decide, ⟨okReply 0 (.new (.v4 127 0 0 1) 50000) Bincode.sampleProxies, ?_, rfl⟩, by decide⟩
  decide

end GscFq.ReverseProxyServer
