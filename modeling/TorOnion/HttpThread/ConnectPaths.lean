import TorOnion.HttpThread.SslContexts

/-!
# Where a connection goes

`connect` decides on the proxy three times: a context of the cache is connected to whatever proxy
there is, a new context only to one with a known protocol, and the context of the thread also asks
whether the proxy has an `href`.  As the new context is in the cache when the protocol is refused,
the same call succeeds when it is repeated (`connect_repeated`).

The three paths agree exactly when the proxy has a known protocol and an `href`, or is the URL's
own host (`pathsAgree_iff`).
-/

namespace TorOnion

namespace HttpThread

/-- The host and the port of a connection. -/
def target : Except ConnectError Connection → Except ConnectError (Option (List UInt8 × UInt16))
  | .ok (.host _ hostname port) => .ok (some (hostname, port))
  | .ok (.socket _ _) => .ok none
  | .error e => .error e

/-- A proxy and a URL determine where every client without a Unix socket connects to, whatever the
cache holds, as long as contexts can be created. -/
def PathsAgree (proxy : Option URL) (url : URL) : Prop :=
  ∃ outcome, ∀ isSsl client answers s, client.unixSocketPath = [] → client.httpProxy = proxy →
    client.url = url → answers.initFails = false →
      target (connect isSsl client answers s).2 = outcome

variable {s : HttpThread} {client : HttpClient} {answers : ConnectAnswers} {proxy : Option URL}
  {url : URL} {config : ℕ} {entry : SslContextCacheEntry} {ctx : ContextRef}

/-! ## The three paths -/

/-- The host and the port of a URL. -/
def endpoint (url : URL) : Except ConnectError (Option (List UInt8 × UInt16)) :=
  .ok (some (url.hostname, url.portAuto))

@[simp] lemma target_contextConnect (hostname : List UInt8) (port : UInt16) :
    target (s.contextConnect ctx client hostname port answers).2 =
      .ok (some (hostname, port)) := rfl

@[simp] lemma target_error (e : ConnectError) : target (.error e) = .error e := rfl

lemma target_connectCached : target (s.connectCached config entry client answers).2 =
    endpoint (client.httpProxy.getD client.url) := by
  unfold connectCached
  cases client.httpProxy <;> rfl

lemma target_connectCreated (hinit : answers.initFails = false) :
    target (s.connectCreated config client answers).2 =
      client.httpProxy.elim (endpoint client.url) fun proxy =>
        if supportsProtocol proxy then endpoint proxy else .error .unsupportedProxyProtocol := by
  unfold connectCreated
  rw [hinit]
  cases client.httpProxy with
  | none => rfl
  | some proxy => by_cases h : supportsProtocol proxy <;> simp [h, endpoint]

lemma target_connectDefault : target (s.connectDefault ctx client answers).2 =
    client.httpProxy.elim (endpoint client.url) fun proxy =>
      if proxy.href ≠ [] then
        if supportsProtocol proxy then endpoint proxy else .error .unsupportedProxyProtocol
      else endpoint client.url := by
  unfold connectDefault
  cases client.httpProxy with
  | none => rfl
  | some proxy =>
      by_cases hhref : proxy.href = [] <;> by_cases h : supportsProtocol proxy <;>
        simp [hhref, h, endpoint]

/-! ## When they agree -/

/-- A client whose TLS configuration, at address 0, needs a context of its own. -/
def customClient (proxy : Option URL) (url : URL) : HttpClient :=
  { asyncHttpId := 0, tlsProps := some ⟨0, true⟩, httpProxy := proxy, url := url }

/-- **The paths agree** exactly when the proxy, if there is one, has a known protocol, and has an
`href` or is the URL's own host. -/
theorem pathsAgree_iff : PathsAgree proxy url ↔ ∀ p, proxy = some p →
    supportsProtocol p = true ∧
      (p.href ≠ [] ∨ (p.hostname, p.portAuto) = (url.hostname, url.portAuto)) := by
  constructor
  · rintro ⟨outcome, hagree⟩ p rfl
    -- found in the cache, created, and in the context of the thread
    have hcached := hagree true (customClient (some p) url) ⟨0, 0, false, false⟩
      { customSslContextMap := [(0, ⟨0, 0, 0⟩)] } rfl rfl rfl rfl
    have hcreated :=
      hagree true (customClient (some p) url) ⟨0, 0, false, false⟩ {} rfl rfl rfl rfl
    have hdefault :=
      hagree false (customClient (some p) url) ⟨0, 0, false, false⟩ {} rfl rfl rfl rfl
    have hcached : endpoint p = outcome := hcached
    have hcreate : target ((({} : HttpThread).evictStaleSslContexts 0).connectCreated 0
        (customClient (some p) url) ⟨0, 0, false, false⟩).2 =
          if supportsProtocol p then endpoint p else .error .unsupportedProxyProtocol :=
      target_connectCreated rfl
    have hcreated := hcreate.symm.trans hcreated
    have hthread : target (({} : HttpThread).connectDefault .http (customClient (some p) url)
        ⟨0, 0, false, false⟩).2 = if p.href ≠ [] then
          if supportsProtocol p then endpoint p else .error .unsupportedProxyProtocol
          else endpoint url := target_connectDefault
    have hdefault := hthread.symm.trans hdefault
    rw [← hcached] at hcreated hdefault
    constructor
    · by_contra hprotocol
      rw [if_neg hprotocol] at hcreated
      cases hcreated
    · refine or_iff_not_imp_left.mpr fun hhref => ?_
      rw [if_neg hhref] at hdefault
      exact (Option.some.inj (Except.ok.inj hdefault)).symm
  · intro hproxy
    refine ⟨endpoint (proxy.getD url), fun isSsl client answers s hunix hprox hurl hinit => ?_⟩
    subst hprox hurl
    rw [connect, if_neg (not_not.mpr hunix)]
    cases hconfig : (if isSsl then customConfig client else none) with
    | none =>
        simp only
        rw [target_connectDefault]
        cases hclient : client.httpProxy with
        | none => rfl
        | some p =>
            obtain ⟨hprotocol, hhref⟩ := hproxy p hclient
            by_cases hempty : p.href = []
            · have hsame := hhref.resolve_left (not_not.mpr hempty)
              simp [hempty, endpoint, ← hsame]
            · simp [hempty, hprotocol]
    | some config =>
        simp only
        split
        · exact target_connectCached
        · rw [target_connectCreated hinit]
          cases hclient : client.httpProxy with
          | none => rfl
          | some p => simp [(hproxy p hclient).1]

/-- A proxy with a protocol that is not supported. -/
def socksProxy : URL := ⟨ascii "socks5://proxy:1080", ascii "socks5", ascii "proxy", 1080⟩

def hostUrl : URL := ⟨ascii "https://host", ascii "https", ascii "host", 443⟩

/-- The same call is refused and then connected to the proxy. -/
theorem connect_repeated :
    let client := customClient (some socksProxy) hostUrl
    let first := connect true client ⟨0, 0, false, false⟩ {}
    let second := connect true client ⟨0, 0, false, false⟩ first.1
    first.2 = .error .unsupportedProxyProtocol ∧
      second.2 = .ok (.host (.custom 0) (ascii "proxy") 1080) ∧
      ¬ PathsAgree client.httpProxy client.url := by
  refine ⟨by decide, by decide, ?_⟩
  rintro ⟨outcome, hagree⟩
  have hfirst := hagree true (customClient (some socksProxy) hostUrl) ⟨0, 0, false, false⟩ {}
    rfl rfl rfl rfl
  have hsecond := hagree true (customClient (some socksProxy) hostUrl) ⟨0, 0, false, false⟩
    { customSslContextMap := [(0, ⟨0, 0, 0⟩)], nextContext := 1 } rfl rfl rfl rfl
  exact absurd (hfirst.trans hsecond.symm) (by decide)

end HttpThread

end TorOnion
