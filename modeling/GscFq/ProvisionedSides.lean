import GscFq.HandshakeAgreement
import GscFq.TypedSecrets

/-!
The secret that `main` draws on `-g`, from its printing to the handshake of two sides that were given it.
-/

namespace GscFq.Totp

open Text

def generateOtpauthUri (totp : Totp) (label issuer : String) : String :=
  "otpauth://totp/" ++ label ++ "?secret=" ++ String.ofList (Base32.encode totp.secret) ++ "&issuer=" ++ issuer ++
    "&digits=" ++ toString totp.digits ++ "&period=" ++ toString totp.stepSecs.toNat

/-- What is printed beside the QR code of the URI. -/
structure Provisioned where
  secretB32 : String
  uri : String
  deriving DecidableEq, Repr

/-- The random bytes are an argument; without `-g` the process runs on its configuration. -/
def provision (args : List String) (random : Vector UInt8 10) : Option Provisioned :=
  if args[1]? = some "-g" then
    let label := args[2]?.getD "user@gsc-fq"
    let (totp, secretB32) := generateRandom random
    some ⟨secretB32, totp.generateOtpauthUri label "GSC-FQ"⟩
  else none

/-- How an authenticator reads a parameter of the scanned URI. -/
def uriParameter (name uri : String) : Option String :=
  (((uri.toList.dropWhile (· ≠ '?')).drop 1).splitOn '&').findSome? (fun part =>
    if part.takeWhile (· ≠ '=') = name.toList then some (String.ofList ((part.dropWhile (· ≠ '=')).drop 1)) else none)

theorem cut_at {c : Char} {front rest : List Char} (h : c ∉ front) :
    (front ++ c :: rest).takeWhile (· ≠ c) = front ∧ ((front ++ c :: rest).dropWhile (· ≠ c)).drop 1 = rest := by
  have hall : ∀ d ∈ front, decide (d ≠ c) = true := fun d hd => decide_eq_true (fun heq => h (heq ▸ hd))
  rw [List.takeWhile_append_of_pos hall, List.dropWhile_append_of_pos hall]
  simp

theorem encode_no_ampersand (s : ByteStream.Bytes) : '&' ∉ Base32.encode s := by
  intro hmem
  rcases List.mem_append.mp hmem with hbody | hpad
  · obtain ⟨i, hi, heq⟩ := Base32.mem_symbols hbody
    have hne : ∀ i : Fin 32, '&' ≠ Base32.symbol i := by decide
    exact hne ⟨i, hi⟩ heq
  · have heq := List.eq_of_mem_replicate hpad
    revert heq
    decide

/-- The secret is read back from the URI unless the label opens a query of its own. -/
theorem uriParameter_secret (totp : Totp) {label issuer : String} (hlabel : '?' ∉ label.toList) :
    uriParameter "secret" (totp.generateOtpauthUri label issuer) = some (String.ofList (Base32.encode totp.secret)) := by
  have hquery : "?secret=".toList = '?' :: ("secret".toList ++ ['=']) := by decide
  have hissuer : "&issuer=".toList = '&' :: "issuer=".toList := by decide
  have hfront : '?' ∉ "otpauth://totp/".toList ++ label.toList := by
    rw [List.mem_append, not_or]
    exact ⟨by decide, hlabel⟩
  have hvalue : '&' ∉ "secret".toList ++ '=' :: Base32.encode totp.secret := by
    rw [List.mem_append, List.mem_cons, not_or, not_or]
    exact ⟨by decide, by decide, encode_no_ampersand _⟩
  obtain ⟨rest, huri⟩ : ∃ rest, (totp.generateOtpauthUri label issuer).toList =
      ("otpauth://totp/".toList ++ label.toList) ++
        '?' :: (("secret".toList ++ '=' :: Base32.encode totp.secret) ++ '&' :: rest) := by
    refine ⟨"issuer=".toList ++ (issuer.toList ++ ("&digits=".toList ++ ((toString totp.digits).toList ++
      ("&period=".toList ++ (toString totp.stepSecs.toNat).toList)))), ?_⟩
    unfold generateOtpauthUri
    simp only [String.toList_append, hquery, hissuer]
    -- the literals are not to be computed
    generalize "otpauth://totp/".toList = scheme, "secret".toList = name, "issuer=".toList = issued,
      "&digits=".toList = digits, "&period=".toList = period
    simp only [String.toList_ofList, List.append_assoc, List.cons_append, List.nil_append]
  obtain ⟨hname, hrest⟩ := @cut_at '=' "secret".toList (Base32.encode totp.secret) (by decide)
  rw [uriParameter, huri, (cut_at hfront).2, List.splitOn_append_cons_self_of_not_mem hvalue, List.findSome?_cons, hname,
    if_pos rfl, hrest]

end GscFq.Totp

namespace GscFq.HandshakeLink

open Totp ReverseProxyServer

variable {X : Externals} {client : ReverseProxyClient} {proxies : List ReverseProxyConfig} {tc ts : UInt64}

def withSecret (client : ReverseProxyClient) (secret : String) : ReverseProxyClient :=
  { client with totpSecret := some secret }

theorem ofSecret_typed (hP : Base32Lawful X.toTotpPrimitives) {s : ByteStream.Bytes} {text : String}
    (h : TypedFrom s text) : ofSecret X.toTotpPrimitives text = new s := by
  rw [ofSecret, fromBase32_of_readable hP (readable_of_edits h (readable_encode s))]

theorem firstFailing_retyped (hP : Base32Lawful X.toTotpPrimitives) {s : ByteStream.Bytes} {text text' : String}
    (h : TypedFrom s text) (h' : TypedFrom s text') (srv : ReverseProxyServer) (now : UInt64) (hello : ClientHello) :
    (srv.withTotpSecret (some text)).firstFailing X now hello =
      (srv.withTotpSecret (some text')).firstFailing X now hello := by
  simp only [firstFailing, checks, totpValid, tokenValid, withTotpSecret, ofSecret_typed hP h, ofSecret_typed hP h']

theorem completes_of_passes (hx : X.Lawful) {srv : ReverseProxyServer} {hello : ClientHello} {data : ByteStream.Bytes}
    {addr : SocketAddr} (hd : X.bincodeSerialize (.clientHello hello) = .ok data)
    (hl : data.length ≤ maxMessageSize)
    (hsend : client.sendHello X tc hello.proxies = .ok (ByteStream.toBe 4 data.length ++ data))
    (hf : srv.firstFailing X ts hello = none) : Completes X srv client addr hello.proxies tc ts := by
  refine ⟨work hello.proxies.length (init addr), fun es s hrun hes => ?_⟩
  obtain ⟨hs, hlen⟩ := run_smooth hx hd hl hsend hf hes hrun
  refine ⟨by omega, ?_, hs.progress hx hd hl⟩
  intro e he
  rcases hs.client with h' | h' | h' <;> simp [h'] at he

/-- However the two sides copied the printed secret, their handshake completes where it would with one and the same
text; and the URI beside it carries that secret to an authenticator. -/
theorem provisioned_sides_complete (hx : X.Lawful) (hP : Base32Lawful X.toTotpPrimitives) {args : List String}
    {random : Vector UInt8 10} {printed : Provisioned} (hg : provision args random = some printed) :
    ('?' ∉ (args[2]?.getD "user@gsc-fq").toList → uriParameter "secret" printed.uri = some printed.secretB32) ∧
    ∀ srv client addr proxies tc ts onServer onClient,
      Relation.ReflTransGen Edit printed.secretB32.toList onServer.toList →
      Relation.ReflTransGen Edit printed.secretB32.toList onClient.toList →
      Compatible X (withTotpSecret srv (some onClient)) (withSecret client onClient) proxies tc ts →
      Completes X (withTotpSecret srv (some onServer)) (withSecret client onClient) addr proxies tc ts := by
  obtain ⟨-, hprinted⟩ := Option.ite_none_right_eq_some.mp hg
  obtain rfl := Option.some.inj hprinted
  refine ⟨fun hlabel => uriParameter_secret _ hlabel, ?_⟩
  intro srv client addr proxies tc ts onServer onClient hserver hclient hc
  have htyped {text : String} (h : Relation.ReflTransGen Edit (generateRandom random).2.toList text.toList) :
      TypedFrom random.toList text := by
    rwa [generateRandom, String.toList_ofList] at h
  obtain ⟨hello, data, -, rfl, hd, hl, hsend, hf⟩ := makeHello_passes hx hc
  rw [firstFailing_retyped hP (htyped hclient) (htyped hserver)] at hf
  exact completes_of_passes hx hd hl hsend hf

def provisionedExternals : Externals := Bincode.externals base32Primitives (fun _ => Bincode.sampleSha256)

def sampleRandom : Vector UInt8 10 := #v[72, 101, 108, 108, 111, 33, 222, 173, 190, 239]

theorem sample_provisioned_complete :
    uriParameter "secret" "otpauth://totp/me?secret=JBSWY3DPEHPK3PXP&issuer=GSC-FQ&digits=6&period=30" =
        some "JBSWY3DPEHPK3PXP" ∧
      Completes provisionedExternals (withTotpSecret sampleServer (some "JBSWY3DP EHPK3PXP"))
        (withSecret sampleClient "jBSWY3DPEHPK3PXP") (.new (.v4 127 0 0 1) 50000) Bincode.sampleProxies 59 61 := by
  have hg : provision ["gsc-fq", "-g", "me"] sampleRandom = some ⟨"JBSWY3DPEHPK3PXP",
      "otpauth://totp/me?secret=JBSWY3DPEHPK3PXP&issuer=GSC-FQ&digits=6&period=30"⟩ := by decide +kernel
  obtain ⟨huri, hcomplete⟩ := provisioned_sides_complete (X := provisionedExternals) (Bincode.externals_lawful _ _)
    base32Primitives_lawful hg
  refine ⟨huri (by decide), hcomplete sampleServer sampleClient _ _ 59 61 _ _ ?_ ?_ ⟨by decide, ?_, by decide, ?_⟩⟩
  · exact .single (Edit.insertSpace "JBSWY3DP".toList "EHPK3PXP".toList)
  · exact .single (Edit.changeCase [] "BSWY3DPEHPK3PXP".toList (by decide : 'J'.toUpper = 'j'.toUpper))
  · intro hello h
    cases h
    decide
  · exact Or.inr ⟨_, rfl, rfl, by decide, by decide⟩

end GscFq.HandshakeLink
