import MaestroKernel.Market.Catalog

/-! # The address of a client

The service takes the address of a client from `X-Forwarded-For`, where every trusted proxy appends the
peer that it saw. It walks the entries from the right to the first one that is no trusted proxy. When an
entry is no address, or there are too many, it falls back to the address of its own peer. -/

namespace MaestroKernel.Auth.ClientAddress

open Durable (pyIsSpace)
open Market (strip)

/-- What the service uses of `ipaddress`. -/
structure IpAddress where
  Address : Type
  Network : Type
  ipAddress : String → Option Address
  compressed : Address → String
  contains : Network → Address → Bool

variable {ip : IpAddress}

structure TrustedProxyPolicy (ip : IpAddress) where
  networks : List ip.Network
  maxForwardedHops : ℤ := 8

def TrustedProxyPolicy.isTrusted (policy : TrustedProxyPolicy ip) (value : ip.Address) : Bool :=
  policy.networks.any fun network => ip.contains network value

/-- `[part.strip() for part in forwarded_for.split(",")]` -/
def rawHops (forwardedFor : String) : List String :=
  (forwardedFor.toList.splitOn ',').map fun part => strip (String.ofList part)

/-- `[ipaddress.ip_address(part) for part in raw_hops]` -/
def hopsOf (ip : IpAddress) : List String → Option (List ip.Address)
  | [] => some []
  | part :: parts =>
    match ip.ipAddress part, hopsOf ip parts with
    | some hop, some hops => some (hop :: hops)
    | _, _ => none

/-- The loop over the reversed candidates. -/
def candidateOf (policy : TrustedProxyPolicy ip) (hops : List ip.Address) (peer : ip.Address) :
    ip.Address :=
  match (hops ++ [peer]).reverse.find? fun candidate => !policy.isTrusted candidate with
  | some candidate => candidate
  | none => hops.head?.getD peer

/-- The address that is returned, once the address of the peer is read. -/
def resolveFrom (policy : TrustedProxyPolicy ip) (peer : ip.Address) : Option String → ip.Address
  | none => peer
  | some forwardedFor =>
    if policy.isTrusted peer = false ∨ forwardedFor = "" then peer
    else if rawHops forwardedFor = [] ∨
        policy.maxForwardedHops < (rawHops forwardedFor).length ∨ "" ∈ rawHops forwardedFor then
      peer
    else
      match hopsOf ip (rawHops forwardedFor) with
      | none => peer
      | some hops => candidateOf policy hops peer

/-- The result is `none` where the address of the peer raises `ValueError`. -/
def resolveClientIp (policy : TrustedProxyPolicy ip) (peerIp : String) (forwardedFor : Option String) :
    Option String :=
  (ip.ipAddress (strip peerIp)).map fun peer => ip.compressed (resolveFrom policy peer forwardedFor)

structure AuthRateLimitRule where
  name : String
  dimension : String
  limit : ℕ
  windowSeconds : ℕ

/-- The parts of the limiter that name its keys; `digest` is the keyed hash. -/
structure RedisAuthRateLimiter where
  digest : String → String
  keyPrefix : String

def RedisAuthRateLimiter.key (limiter : RedisAuthRateLimiter) (action : String)
    (rule : AuthRateLimitRule) (value : String) : String :=
  limiter.keyPrefix ++ ":" ++ action ++ ":" ++ rule.name ++ ":" ++
    limiter.digest ("pmk-auth-rate-limit-v1:" ++ action ++ ":" ++ rule.dimension ++ ":" ++ value)

/-- A host, and its address as a proxy writes it. -/
structure Host (ip : IpAddress) where
  address : ip.Address
  text : String
  written : ip.ipAddress text = some address
  nonempty : text ≠ ""
  plain : ∀ c ∈ text.toList, c ≠ ',' ∧ pyIsSpace c = false

/-- A proxy appends the peer that it saw. -/
def appendPeer (header : Option String) (peer : Host ip) : String :=
  match header with
  | none => peer.text
  | some value => value ++ ", " ++ peer.text

/-- The peer and the header that the service sees behind the proxies, the nearest to the client
first. -/
def forward : Host ip → List (Host ip) → Option String → Host ip × Option String
  | peer, [], header => (peer, header)
  | peer, proxy :: proxies, header => forward proxy proxies (some (appendPeer header peer))

/-- The address that the service finds of a client that sends the header. -/
def resolved (policy : TrustedProxyPolicy ip) (client : Host ip) (proxies : List (Host ip))
    (header : Option String) : Option String :=
  resolveClientIp policy (forward client proxies header).1.text (forward client proxies header).2

/-- The entries that the client sends. -/
def clientHops (header : Option String) : List String := (header.map rawHops).getD []

/-- Every entry of the client is an address, and the proxies have room behind them. -/
def Fits (policy : TrustedProxyPolicy ip) (proxies : ℕ) (header : Option String) : Prop :=
  (∀ part ∈ clientHops header, part ≠ "" ∧ (ip.ipAddress part).isSome = true) ∧
    ((clientHops header).length + proxies : ℤ) ≤ policy.maxForwardedHops

/-- The proxy that the service talks to, or the client itself. -/
def nearest (client : Host ip) (proxies : List (Host ip)) : Host ip :=
  (client :: proxies).getLast?.getD client

/-! ## Splitting -/

theorem rawHops_ne_nil (value : String) : rawHops value ≠ [] := by
  rw [rawHops, ne_eq, List.map_eq_nil_iff]
  exact List.splitOn_ne_nil ',' value.toList

theorem mem_rawHops_empty : "" ∈ rawHops "" := by
  decide +kernel

theorem Host.strip_text (host : Host ip) : strip host.text = host.text :=
  Market.strip_eq_self fun c hc => (host.plain c hc).2

theorem Host.comma_notMem (host : Host ip) : ',' ∉ host.text.toList := fun hmem =>
  (host.plain ',' hmem).1 rfl

theorem rawHops_text (host : Host ip) : rawHops host.text = [host.text] := by
  rw [rawHops, List.splitOn_eq_singleton host.comma_notMem, List.map_singleton, String.ofList_toList,
    host.strip_text]

theorem strip_blank_append (host : Host ip) :
    strip (String.ofList (' ' :: host.text.toList)) = host.text := by
  have hblank : pyIsSpace ' ' = true := by decide
  conv_rhs => rw [← host.strip_text]
  rw [strip, strip, String.toList_ofList, List.dropWhile_cons_of_pos hblank]

theorem rawHops_append (value : String) (host : Host ip) :
    rawHops (value ++ ", " ++ host.text) = rawHops value ++ [host.text] := by
  have hlist : (value ++ ", " ++ host.text).toList =
      value.toList ++ ',' :: (' ' :: host.text.toList) := by
    simp
  have hcomma : ',' ∉ ' ' :: host.text.toList := by
    rw [List.mem_cons, not_or]
    exact ⟨by decide, host.comma_notMem⟩
  rw [rawHops, hlist, List.splitOn_append_cons_self, List.splitOn_eq_singleton hcomma,
    List.map_append, List.map_singleton, strip_blank_append]
  rfl

theorem rawHops_appendPeer (header : Option String) (peer : Host ip) :
    rawHops (appendPeer header peer) = clientHops header ++ [peer.text] := by
  cases header with
  | none => exact rawHops_text peer
  | some value => exact rawHops_append value peer

theorem forward_hops (peer proxy : Host ip) (proxies : List (Host ip)) (header : Option String) :
    ∃ front last value, peer :: proxy :: proxies = front ++ [last] ∧ front ≠ [] ∧
      forward peer (proxy :: proxies) header = (last, some value) ∧
      rawHops value = clientHops header ++ front.map Host.text := by
  induction proxies generalizing peer proxy header with
  | nil =>
    exact ⟨[peer], proxy, appendPeer header peer, rfl, List.cons_ne_nil _ _, rfl,
      rawHops_appendPeer header peer⟩
  | cons next proxies ih =>
    obtain ⟨front, last, value, hchain, -, hforward, hhops⟩ :=
      ih proxy next (some (appendPeer header peer))
    refine ⟨peer :: front, last, value, ?_, List.cons_ne_nil _ _, hforward, ?_⟩
    · rw [hchain, List.cons_append]
    · rw [hhops, clientHops, Option.map_some, Option.getD_some, rawHops_appendPeer,
        List.append_assoc]
      rfl

theorem hopsOf_append (xs ys : List String) : hopsOf ip (xs ++ ys) =
    (hopsOf ip xs).bind fun hops => (hopsOf ip ys).map (hops ++ ·) := by
  induction xs with
  | nil => simp [hopsOf]
  | cons x xs ih =>
    rw [List.cons_append, hopsOf, hopsOf, ih]
    cases ip.ipAddress x with
    | none => rfl
    | some hop =>
      cases hopsOf ip xs with
      | none => rfl
      | some hops =>
        cases hopsOf ip ys with
        | none => rfl
        | some rest => rfl

theorem hopsOf_texts (hosts : List (Host ip)) :
    hopsOf ip (hosts.map Host.text) = some (hosts.map Host.address) := by
  induction hosts with
  | nil => rfl
  | cons host hosts ih => rw [List.map_cons, hopsOf, host.written, ih, List.map_cons]

theorem hopsOf_isSome {parts : List String} :
    (hopsOf ip parts).isSome = true ↔ ∀ part ∈ parts, (ip.ipAddress part).isSome = true := by
  induction parts with
  | nil => simp [hopsOf]
  | cons part parts ih =>
    rw [List.forall_mem_cons, ← ih, hopsOf]
    cases ip.ipAddress part with
    | none => simp
    | some hop =>
      cases hopsOf ip parts with
      | none => simp
      | some hops => simp

/-! ## The address that is found -/

/-- The walk from the right passes the proxies and ends at the client. -/
theorem candidateOf_client {policy : TrustedProxyPolicy ip} {client : Host ip}
    {proxies : List (Host ip)} {hops : List ip.Address} {peer : ip.Address}
    (before : List ip.Address) (hclient : policy.isTrusted client.address = false)
    (hproxies : ∀ proxy ∈ proxies, policy.isTrusted proxy.address = true)
    (hchain : hops ++ [peer] = before ++ (client :: proxies).map Host.address) :
    candidateOf policy hops peer = client.address := by
  have hnone : (proxies.map Host.address).reverse.find?
      (fun candidate => !policy.isTrusted candidate) = none := by
    rw [List.find?_eq_none]
    intro candidate hmem
    obtain ⟨proxy, hproxy, rfl⟩ := List.mem_map.mp (List.mem_reverse.mp hmem)
    rw [hproxies proxy hproxy]
    exact Bool.false_ne_true
  have hfound : (hops ++ [peer]).reverse.find? (fun candidate => !policy.isTrusted candidate) =
      some client.address := by
    rw [hchain, List.reverse_append, List.map_cons, List.reverse_cons, List.append_assoc,
      List.find?_append, hnone, List.singleton_append, List.find?_cons_of_pos, Option.none_or]
    rw [hclient]
    rfl
  rw [candidateOf, hfound]

/-- What the service can read of a header. -/
def Readable (policy : TrustedProxyPolicy ip) (value : String) : Prop :=
  (∀ part ∈ rawHops value, part ≠ "" ∧ (ip.ipAddress part).isSome = true) ∧
    ((rawHops value).length : ℤ) ≤ policy.maxForwardedHops

theorem resolveFrom_of_readable {policy : TrustedProxyPolicy ip} {peer : ip.Address}
    {value : String} {hops : List ip.Address} (hpeer : policy.isTrusted peer = true)
    (hread : Readable policy value) (hhops : hopsOf ip (rawHops value) = some hops) :
    resolveFrom policy peer (some value) = candidateOf policy hops peer := by
  have hplain : "" ∉ rawHops value := fun hmem => (hread.1 "" hmem).1 rfl
  have hvalue : value ≠ "" := by
    rintro rfl
    exact hplain mem_rawHops_empty
  have htrusted : ¬ (policy.isTrusted peer = false ∨ value = "") := by
    rw [hpeer]
    simp [hvalue]
  have hcounted : ¬ (rawHops value = [] ∨ policy.maxForwardedHops < (rawHops value).length ∨
      "" ∈ rawHops value) := by
    rw [not_or, not_or, not_lt]
    exact ⟨rawHops_ne_nil value, hread.2, hplain⟩
  rw [resolveFrom, if_neg htrusted, if_neg hcounted, hhops]

theorem resolveFrom_of_not_readable {policy : TrustedProxyPolicy ip} {peer : ip.Address}
    {value : String} (hread : ¬ Readable policy value) :
    resolveFrom policy peer (some value) = peer := by
  rw [resolveFrom]
  split
  · rfl
  split
  · rfl
  rename_i hcounted
  rw [not_or, not_or, not_lt] at hcounted
  cases hhops : hopsOf ip (rawHops value) with
  | none => rfl
  | some hops =>
    refine absurd ⟨fun part hmem => ⟨?_, ?_⟩, hcounted.2.1⟩ hread
    · rintro rfl
      exact hcounted.2.2 hmem
    · have hsome : (hopsOf ip (rawHops value)).isSome = true := by
        rw [hhops]
        rfl
      exact hopsOf_isSome.mp hsome part hmem

theorem readable_iff {policy : TrustedProxyPolicy ip} {header : Option String} {value : String}
    {front : List (Host ip)} (hhops : rawHops value = clientHops header ++ front.map Host.text) :
    Readable policy value ↔ Fits policy front.length header := by
  have htexts : ∀ part ∈ front.map Host.text,
      part ≠ "" ∧ (ip.ipAddress part).isSome = true := by
    refine List.forall_mem_map.mpr fun host _ => ⟨host.nonempty, ?_⟩
    rw [host.written]
    rfl
  rw [Readable, Fits, hhops, List.forall_mem_append, and_iff_left htexts, List.length_append,
    List.length_map, Nat.cast_add]

theorem resolved_direct {policy : TrustedProxyPolicy ip} {client : Host ip}
    (hclient : policy.isTrusted client.address = false) (header : Option String) :
    resolved policy client [] header = some (ip.compressed client.address) := by
  have hsame : resolveFrom policy client.address header = client.address := by
    cases header with
    | none => rfl
    | some value => rw [resolveFrom, if_pos (.inl hclient)]
  rw [resolved, forward, resolveClientIp, client.strip_text, client.written, Option.map_some, hsame]

theorem nearest_eq {client last : Host ip} {proxies front : List (Host ip)}
    (hchain : client :: proxies = front ++ [last]) : nearest client proxies = last := by
  rw [nearest, hchain, List.getLast?_concat, Option.getD_some]

theorem length_of_chain {client last : Host ip} {proxies front : List (Host ip)}
    (hchain : client :: proxies = front ++ [last]) : front.length = proxies.length := by
  have hsame := congrArg List.length hchain
  simp only [List.length_cons, List.length_append, List.length_nil] at hsame
  omega

theorem last_mem_of_chain {client last : Host ip} {proxies front : List (Host ip)}
    (hchain : client :: proxies = front ++ [last]) (hfront : front ≠ []) : last ∈ proxies := by
  cases front with
  | nil => exact absurd rfl hfront
  | cons first front =>
    rw [(List.cons.inj hchain).2]
    exact List.mem_append_right front List.mem_cons_self

section

variable {policy : TrustedProxyPolicy ip} {client proxy : Host ip} {proxies : List (Host ip)}

theorem resolved_of_fits (hclient : policy.isTrusted client.address = false)
    (hproxies : ∀ p ∈ proxy :: proxies, policy.isTrusted p.address = true) {header : Option String}
    (hfits : Fits policy (proxy :: proxies).length header) :
    resolved policy client (proxy :: proxies) header = some (ip.compressed client.address) := by
  obtain ⟨front, last, value, hchain, hfront, hforward, hhops⟩ :=
    forward_hops client proxy proxies header
  have hlast := hproxies last (last_mem_of_chain hchain hfront)
  rw [← length_of_chain hchain] at hfits
  obtain ⟨hops, hread⟩ := Option.isSome_iff_exists.mp
    (hopsOf_isSome.mpr fun part hmem => (hfits.1 part hmem).2)
  have hall : hopsOf ip (rawHops value) = some (hops ++ front.map Host.address) := by
    rw [hhops, hopsOf_append, hread, hopsOf_texts]
    rfl
  have hcandidate : candidateOf policy (hops ++ front.map Host.address) last.address =
      client.address := by
    refine candidateOf_client hops hclient hproxies ?_
    rw [hchain, List.map_append, List.append_assoc]
    rfl
  rw [resolved, hforward, resolveClientIp, last.strip_text, last.written, Option.map_some,
    resolveFrom_of_readable hlast ((readable_iff hhops).mpr hfits) hall, hcandidate]

theorem resolved_of_not_fits {header : Option String}
    (hfits : ¬ Fits policy (proxy :: proxies).length header) :
    resolved policy client (proxy :: proxies) header =
      some (ip.compressed (nearest client (proxy :: proxies)).address) := by
  obtain ⟨front, last, value, hchain, -, hforward, hhops⟩ :=
    forward_hops client proxy proxies header
  rw [← length_of_chain hchain] at hfits
  rw [nearest_eq hchain, resolved, hforward, resolveClientIp, last.strip_text, last.written,
    Option.map_some, resolveFrom_of_not_readable fun h => hfits ((readable_iff hhops).mp h)]

end

def clientKey (limiter : RedisAuthRateLimiter) (action : String) (rule : AuthRateLimitRule)
    (policy : TrustedProxyPolicy ip) (client : Host ip) (proxies : List (Host ip))
    (header : Option String) : Option String :=
  (resolved policy client proxies header).map fun address => limiter.key action rule (strip address)

/-- A header that fits changes nothing, and any other one leads to the nearest proxy. -/
theorem client_address_not_spoofed (policy : TrustedProxyPolicy ip) (client : Host ip)
    (proxies : List (Host ip)) (hclient : policy.isTrusted client.address = false)
    (hproxies : ∀ proxy ∈ proxies, policy.isTrusted proxy.address = true)
    (limiter : RedisAuthRateLimiter) (action : String) (rule : AuthRateLimitRule)
    (header : String) :
    (proxies = [] ∨ Fits policy proxies.length (some header) →
      resolved policy client proxies (some header) = resolved policy client proxies none ∧
        clientKey limiter action rule policy client proxies (some header) =
          clientKey limiter action rule policy client proxies none) ∧
    (proxies ≠ [] ∧ ¬ Fits policy proxies.length (some header) →
      resolved policy client proxies (some header) =
        some (ip.compressed (nearest client proxies).address)) := by
  constructor
  · intro hcase
    have hsame : resolved policy client proxies (some header) =
        resolved policy client proxies none := by
      cases proxies with
      | nil => rw [resolved_direct hclient, resolved_direct hclient]
      | cons proxy proxies =>
        have hfits := hcase.resolve_left (List.cons_ne_nil proxy proxies)
        have hunsent : Fits policy (proxy :: proxies).length none := by
          refine ⟨List.forall_mem_nil _, ?_⟩
          have hroom := hfits.2
          rw [clientHops, Option.map_none, Option.getD_none, List.length_nil]
          omega
        rw [resolved_of_fits hclient hproxies hfits, resolved_of_fits hclient hproxies hunsent]
    refine ⟨hsame, ?_⟩
    rw [clientKey, clientKey, hsame]
  · rintro ⟨hforwarded, hfits⟩
    cases proxies with
    | nil => exact absurd rfl hforwarded
    | cons proxy proxies => exact resolved_of_not_fits hfits

namespace Sample

def octet (digits : List Char) : Option ℕ :=
  let value := digits.foldl (fun n c => 10 * n + (c.toNat - '0'.toNat)) 0
  if digits ≠ [] ∧ digits.all Char.isDigit = true ∧ digits.length ≤ 3 ∧
      (digits.head? ≠ some '0' ∨ digits.length = 1) ∧ value ≤ 255 then
    some value
  else none

def dottedQuad (text : String) : Option ℕ :=
  match (text.toList.splitOn '.').map octet with
  | [some a, some b, some c, some d] => some (((a * 256 + b) * 256 + c) * 256 + d)
  | _ => none

/-- Numbers of 32 bits, and networks with the length of their prefix. -/
def ipv4 : IpAddress where
  Address := ℕ
  Network := ℕ × ℕ
  ipAddress := dottedQuad
  compressed address :=
    ".".intercalate ([address / 16777216, address / 65536 % 256, address / 256 % 256,
      address % 256].map toString)
  contains network address :=
    address / 2 ^ (32 - network.2) = network.1 / 2 ^ (32 - network.2)

theorem plain_of_all {text : String}
    (h : (text.toList.all fun c => c ≠ ',' && !pyIsSpace c) = true) :
    ∀ c ∈ text.toList, c ≠ ',' ∧ pyIsSpace c = false := by
  intro c hc
  have hplain := List.all_eq_true.mp h c hc
  rwa [Bool.and_eq_true, decide_eq_true_eq, Bool.not_eq_true'] at hplain

def client : Host ipv4 where
  address := (3325256728 : ℕ)
  text := "198.51.100.24"
  written := (by decide +kernel : dottedQuad "198.51.100.24" = some 3325256728)
  nonempty := by decide +kernel
  plain := plain_of_all (by decide +kernel)

def proxy : Host ipv4 where
  address := (167772170 : ℕ)
  text := "10.0.0.10"
  written := (by decide +kernel : dottedQuad "10.0.0.10" = some 167772170)
  nonempty := by decide +kernel
  plain := plain_of_all (by decide +kernel)

def policy : TrustedProxyPolicy ipv4 where
  networks := [((167772160, 8) : ℕ × ℕ)]

def limiter : RedisAuthRateLimiter := ⟨fun text => "digest of " ++ text, "pmk:auth:rate"⟩

def rule : AuthRateLimitRule := ⟨"ip_window", "ip", 30, 900⟩

/-- The client names a trusted and an untrusted address. -/
theorem named_addresses_not_spoofed :
    resolved policy client [proxy] (some "10.0.0.7, 1.2.3.4") = resolved policy client [proxy] none ∧
      clientKey limiter "login" rule policy client [proxy] (some "10.0.0.7, 1.2.3.4") =
        clientKey limiter "login" rule policy client [proxy] none :=
  (client_address_not_spoofed policy client [proxy] (by decide +kernel) (by decide +kernel) limiter
    "login" rule "10.0.0.7, 1.2.3.4").1 (.inr ⟨by decide +kernel, by decide +kernel⟩)

/-- An entry that is no address hides the client behind its proxy. -/
theorem malformed_header_resolved :
    resolved policy client [proxy] none = some "198.51.100.24" ∧
      resolved policy client [proxy] (some "unknown") = some "10.0.0.10" ∧
      clientKey limiter "login" rule policy client [proxy] (some "unknown") ≠
        clientKey limiter "login" rule policy client [proxy] none := by
  decide +kernel

end Sample

end MaestroKernel.Auth.ClientAddress
