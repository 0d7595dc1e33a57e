import TorOnion.HttpThread.SslContexts
import TorOnion.Library.Base64

/-!
# Credentials for a proxy: `networking/common/https.zig`

`AsyncHTTP.init` and `AsyncHTTP.reset` put the user name and the password of the proxy into
`client.proxy_authorization`, as in HTTP Basic authentication.  Each has two copies of the
encoding, with a password and without.  All four take the size of the buffer from
`std.base64.standard` and fill it with `std.base64.url_safe`: the size is the same
(`basicAuthorization_eq`), the text is not.

A proxy gets the credentials exactly when none of their sextets is 62 or 63
(`credentialsSurvive_iff`).

`url.zig` and `HTTPClient` are not part of the repository and are the parameter `Imports`.  Of
percent-decoding it is known that only the empty text decodes to the empty text.
-/

namespace TorOnion

namespace AsyncHTTP

/-! ## Data -/

/-- A `URL` with its user information. -/
structure AuthURL extends URL where
  username : List UInt8
  password : List UInt8

/-- `Signals`, of which `init` reads `aborted`. -/
structure Signals where
  aborted : Option ℕ := none

/-- `HTTPClient.flags`. -/
structure ClientFlags where
  disableTimeout : Bool
  disableDecompression : Bool
  disableKeepalive : Bool
  rejectUnauthorized : Bool

/-- The fields of an `HTTPClient` that are set here.  Methods, headers, redirect types and levels of
verbosity are only passed on, and are known by a number. -/
structure Client where
  method : ℕ
  url : AuthURL
  headerEntries : ℕ
  headerBuf : List UInt8
  hostname : Option (List UInt8)
  signals : Signals
  aborted : Option ℕ
  asyncHttpId : UInt32
  httpProxy : Option AuthURL
  proxyHeaders : Option ℕ
  redirectType : ℕ
  unixSocketPath : List UInt8
  flags : ClientFlags
  verbose : ℕ
  tlsProps : Option SSLConfig
  proxyAuthorization : Option (List UInt8)

/-- `Options`. -/
structure Options where
  httpProxy : Option AuthURL := none
  proxyHeaders : Option ℕ := none
  hostname : Option (List UInt8) := none
  signals : Option Signals := none
  unixSocketPath : Option (List UInt8) := none
  disableTimeout : Option Bool := none
  verbose : Option ℕ := none
  disableKeepalive : Option Bool := none
  disableDecompression : Option Bool := none
  rejectUnauthorized : Option Bool := none
  tlsProps : Option SSLConfig := none

/-- The arguments of `init` before the options. -/
structure RequestArgs where
  method : ℕ
  url : AuthURL
  headers : ℕ
  headersBuf : List UInt8
  responseBuffer : ℕ
  requestBody : List UInt8
  callback : ℕ
  redirectType : ℕ

/-- What the file imports from modules that are not part of the repository. -/
structure Imports (ε : Type) where
  /-- `PercentEncoding.decodeAlloc`. -/
  decodeAlloc : List UInt8 → Option (List UInt8)
  decodeAlloc_eq_nil_iff : ∀ text, decodeAlloc text = some [] ↔ text = []
  /-- `URL.isHTTPS`. -/
  isHTTPS : URL → Bool
  /-- An `HTTPClient` with the default of every field. -/
  defaultClient : Client
  /-- `HTTPClient.init`, from a method, a URL, headers, their buffer, and `aborted`. -/
  clientInit : ℕ → AuthURL → ℕ → List UInt8 → Option ℕ → Except ε Client

end AsyncHTTP

open AsyncHTTP

/-- The fields of an `AsyncHTTP` that `init` sets. -/
structure AsyncHTTP where
  url : AuthURL
  method : ℕ
  requestHeaders : ℕ
  requestHeaderBuf : List UInt8
  requestBody : List UInt8
  responseBuffer : ℕ
  resultCallback : ℕ
  httpProxy : Option AuthURL
  signals : Signals
  asyncHttpId : UInt32
  client : Client

namespace AsyncHTTP

/-! ## The source -/

/-- `"Basic "`. -/
def basic : List UInt8 := ascii "Basic "

/-- `buf[start..]` overwritten with the bytes. -/
def writeAt (buf : List UInt8) (start : ℕ) (bytes : List UInt8) : List UInt8 :=
  buf.take start ++ bytes ++ buf.drop (start + bytes.length)

/-- The header for the credentials, from the buffer that it is written to. -/
def basicAuthorization (auth : List UInt8) : List UInt8 :=
  let size := Base64.calcSize auth.length
  let buf := List.replicate (size + basic.length) 0
  let encoded := Base64.urlSafe.encode auth
  let buf := writeAt buf basic.length encoded
  let buf := writeAt buf 0 basic
  buf.take (basic.length + encoded.length)

variable {ε : Type} (imports : Imports ε)

/-- What `init` and `reset` do for a proxy.  A text that cannot be decoded leaves the client as it
is. -/
def setProxyAuthorization (proxy : AuthURL) (client : Client) : Client :=
  if 0 < proxy.username.length then
    match imports.decodeAlloc proxy.username with
    | none => client
    | some username =>
        if 0 < proxy.password.length then
          match imports.decodeAlloc proxy.password with
          | none => client
          | some password =>
              let auth := username ++ ascii ":" ++ password
              { client with proxyAuthorization := some (basicAuthorization auth) }
        else { client with proxyAuthorization := some (basicAuthorization username) }
  else client

/-- `client` as `init` makes it before it looks at the proxy. -/
def initClient (args : RequestArgs) (options : Options) (asyncHttpId : UInt32) : Client :=
  { imports.defaultClient with
    method := args.method
    url := args.url
    headerEntries := args.headers
    headerBuf := args.headersBuf
    hostname := options.hostname
    signals := options.signals.getD {}
    asyncHttpId := asyncHttpId
    httpProxy := options.httpProxy
    proxyHeaders := options.proxyHeaders
    redirectType := args.redirectType
    unixSocketPath := options.unixSocketPath.getD imports.defaultClient.unixSocketPath
    flags :=
      { disableTimeout :=
          options.disableTimeout.getD imports.defaultClient.flags.disableTimeout
        disableDecompression :=
          options.disableDecompression.getD imports.defaultClient.flags.disableDecompression
        disableKeepalive :=
          options.disableKeepalive.getD imports.defaultClient.flags.disableKeepalive
        rejectUnauthorized :=
          options.rejectUnauthorized.getD imports.defaultClient.flags.rejectUnauthorized }
    verbose := options.verbose.getD imports.defaultClient.verbose
    tlsProps := options.tlsProps.or imports.defaultClient.tlsProps }

/-- `init`, with `async_http_id_monotonic` before and after it. -/
def init (args : RequestArgs) (options : Options) (asyncHttpIdMonotonic : UInt32) :
    AsyncHTTP × UInt32 :=
  let aborted := (options.signals.bind Signals.aborted).isSome
  let asyncHttpId := if aborted then asyncHttpIdMonotonic else 0
  let client := initClient imports args options asyncHttpId
  ({ url := args.url
     method := args.method
     requestHeaders := args.headers
     requestHeaderBuf := args.headersBuf
     requestBody := args.requestBody
     responseBuffer := args.responseBuffer
     resultCallback := args.callback
     httpProxy := options.httpProxy
     signals := options.signals.getD {}
     asyncHttpId := asyncHttpId
     client :=
       match options.httpProxy with
       | some proxy => setProxyAuthorization imports proxy client
       | none => client },
    if aborted then asyncHttpIdMonotonic + 1 else asyncHttpIdMonotonic)

/-- `reset`. -/
def reset (this : AsyncHTTP) : AsyncHTTP × Except ε Unit :=
  let aborted := this.client.aborted
  match imports.clientInit this.method this.client.url this.client.headerEntries
      this.client.headerBuf aborted with
  | .error e => (this, .error e)
  | .ok client =>
      let client := { client with httpProxy := this.httpProxy }
      match this.httpProxy with
      | some proxy =>
          let client := { client with
            flags := { client.flags with disableKeepalive := imports.isHTTPS this.url.toURL } }
          ({ this with client := setProxyAuthorization imports proxy client }, .ok ())
      | none => ({ this with client := client }, .ok ())

/-! ## What it is for -/

/-- The credentials of HTTP Basic authentication, or the user name when there is no password. -/
def credentials (username password : List UInt8) : List UInt8 :=
  if password = [] then username else username ++ ascii ":" ++ password

/-- The header is the one of HTTP Basic authentication, and a proxy reads the credentials from
it. -/
structure Understood (auth : List UInt8) (header : Option (List UInt8)) : Prop where
  header_eq : header = some (basic ++ Base64.standard.encode auth)
  decoded : ∃ text, header = some (basic ++ text) ∧ Base64.standard.decode text = some auth

/-- After `init`, and after every `reset` that succeeds, the proxy gets its credentials. -/
structure CredentialsSurvive (args : RequestArgs) (options : Options)
    (asyncHttpIdMonotonic : UInt32) (this : AsyncHTTP) (auth : List UInt8) : Prop where
  init :
    Understood auth (init imports args options asyncHttpIdMonotonic).1.client.proxyAuthorization
  reset : (reset imports this).2 = .ok () →
    Understood auth (reset imports this).1.client.proxyAuthorization

/-! ## The header -/

/-- The buffer is as large as its contents, though its size is taken from the other encoder. -/
lemma basicAuthorization_eq (auth : List UInt8) :
    basicAuthorization auth = basic ++ Base64.urlSafe.encode auth := by
  have hlen := Base64.urlSafe.length_encode auth
  have hwrite : writeAt (writeAt (List.replicate (Base64.calcSize auth.length + basic.length) 0)
      basic.length (Base64.urlSafe.encode auth)) 0 basic =
        basic ++ Base64.urlSafe.encode auth := by
    simp [writeAt, ← hlen, Nat.add_comm]
  simp [basicAuthorization, hwrite]

lemma understood_basicAuthorization_iff (auth : List UInt8) :
    Understood auth (some (basicAuthorization auth)) ↔
      ∀ d ∈ Base64.sextets auth, d ≠ 62 ∧ d ≠ 63 := by
  rw [← Base64.standard_encode_eq_urlSafe_iff, basicAuthorization_eq]
  constructor
  · intro h
    have heq := Option.some.inj h.header_eq
    exact (List.append_cancel_left heq).symm
  · intro heq
    have hdecode := Base64.standard.decode_encode auth
    rw [heq] at hdecode
    exact ⟨by rw [heq], _, rfl, hdecode⟩

section Decoded

variable {imports} {proxy : AuthURL} {username password : List UInt8} {client : Client}

/-- With credentials that can be decoded, all four copies write the same header. -/
lemma proxyAuthorization_setProxyAuthorization
    (husername : imports.decodeAlloc proxy.username = some username) (hne : username ≠ [])
    (hpassword : imports.decodeAlloc proxy.password = some password) :
    (setProxyAuthorization imports proxy client).proxyAuthorization =
      some (basicAuthorization (credentials username password)) := by
  have hlen : 0 < proxy.username.length := by
    rw [List.length_pos_iff, ne_eq, ← imports.decodeAlloc_eq_nil_iff, husername]
    simpa using hne
  have hnil : password = [] ↔ proxy.password = [] := by
    rw [← imports.decodeAlloc_eq_nil_iff proxy.password, hpassword, Option.some.injEq]
  rw [setProxyAuthorization, if_pos hlen, husername]
  by_cases hempty : proxy.password = []
  · simp [hempty, credentials, hnil.mpr hempty]
  · have hlen' : 0 < proxy.password.length := List.length_pos_iff.mpr hempty
    simp [hlen', hpassword, credentials, hnil, hempty]

lemma proxyAuthorization_init {args : RequestArgs} {options : Options} {counter : UInt32}
    (hproxy : options.httpProxy = some proxy)
    (husername : imports.decodeAlloc proxy.username = some username) (hne : username ≠ [])
    (hpassword : imports.decodeAlloc proxy.password = some password) :
    (init imports args options counter).1.client.proxyAuthorization =
      some (basicAuthorization (credentials username password)) := by
  simp only [init, hproxy]
  exact proxyAuthorization_setProxyAuthorization husername hne hpassword

lemma proxyAuthorization_reset {this : AsyncHTTP} (hproxy : this.httpProxy = some proxy)
    (husername : imports.decodeAlloc proxy.username = some username) (hne : username ≠ [])
    (hpassword : imports.decodeAlloc proxy.password = some password)
    (hok : (reset imports this).2 = .ok ()) :
    (reset imports this).1.client.proxyAuthorization =
      some (basicAuthorization (credentials username password)) := by
  unfold reset at hok ⊢
  cases hinit : imports.clientInit this.method this.client.url this.client.headerEntries
      this.client.headerBuf this.client.aborted with
  | error e => simp [hinit] at hok
  | ok client =>
      simp only [hproxy, hinit]
      exact proxyAuthorization_setProxyAuthorization husername hne hpassword

/-- **The proxy gets its credentials** exactly when no sextet of them is one of the two that the
alphabets write differently. -/
theorem credentialsSurvive_iff {args : RequestArgs} {options : Options} {counter : UInt32}
    {this : AsyncHTTP} (hoptions : options.httpProxy = some proxy)
    (hthis : this.httpProxy = some proxy)
    (husername : imports.decodeAlloc proxy.username = some username) (hne : username ≠ [])
    (hpassword : imports.decodeAlloc proxy.password = some password) :
    CredentialsSurvive imports args options counter this (credentials username password) ↔
      ∀ d ∈ Base64.sextets (credentials username password), d ≠ 62 ∧ d ≠ 63 := by
  rw [← understood_basicAuthorization_iff]
  constructor
  · intro h
    have hinit := h.init
    rwa [proxyAuthorization_init hoptions husername hne hpassword] at hinit
  · intro h
    constructor
    · rwa [proxyAuthorization_init hoptions husername hne hpassword]
    · intro hok
      rwa [proxyAuthorization_reset hthis husername hne hpassword hok]

end Decoded

/-! ## An implementation of the imports -/

/-- Percent-decoding: `%` and two hexadecimal digits are a byte, any other byte is itself. -/
def percentDecode : List UInt8 → Option (List UInt8)
  | [] => some []
  | 37 :: a :: b :: text =>
      if isXDigit a && isXDigit b then
        (percentDecode text).map (UInt8.ofNat (digitVal a * 16 + digitVal b) :: ·)
      else none
  | b :: text => if b = 37 then none else (percentDecode text).map (b :: ·)

lemma percentDecode_eq_nil_iff (text : List UInt8) : percentDecode text = some [] ↔ text = [] := by
  fun_cases percentDecode text <;> simp

/-- A client without anything. -/
def emptyClient : Client where
  method := 0
  url := ⟨⟨[], [], [], 0⟩, [], []⟩
  headerEntries := 0
  headerBuf := []
  hostname := none
  signals := {}
  aborted := none
  asyncHttpId := 0
  httpProxy := none
  proxyHeaders := none
  redirectType := 0
  unixSocketPath := []
  flags := ⟨false, false, false, true⟩
  verbose := 0
  tlsProps := none
  proxyAuthorization := none

/-- Percent-decoding, and clients with what `init` is given. -/
def percentImports : Imports Unit where
  decodeAlloc := percentDecode
  decodeAlloc_eq_nil_iff := percentDecode_eq_nil_iff
  isHTTPS url := url.protocol = ascii "https"
  defaultClient := emptyClient
  clientInit method url headerEntries headerBuf aborted := .ok { emptyClient with
    method := method
    url := url
    headerEntries := headerEntries
    headerBuf := headerBuf
    aborted := aborted }

section Demo

/-- A request to `http://example.org/` through a proxy with the user information. -/
def demoOptions (username password : String) : Options :=
  { httpProxy := some ⟨⟨[], ascii "http", ascii "proxy", 3128⟩, ascii username, ascii password⟩ }

def demoArgs : RequestArgs :=
  ⟨0, ⟨⟨[], ascii "http", ascii "example.org", 80⟩, [], []⟩, 0, [], 0, [], 0, 0⟩

def demoHTTP (username password : String) : AsyncHTTP :=
  (init percentImports demoArgs (demoOptions username password) 0).1

/-- A password with a space survives. -/
theorem credentialsSurvive_space :
    CredentialsSurvive percentImports demoArgs (demoOptions "user" "my%20word") 0
      (demoHTTP "user" "my%20word") (credentials (ascii "user") (ascii "my word")) :=
  (credentialsSurvive_iff rfl rfl (by decide) (by decide) (by decide)).mpr (by decide)

/-- The user name `~~~` does not: the header ends in `fn5-` and not in `fn5+`. -/
theorem credentialsSurvive_tilde :
    percentImports.decodeAlloc (ascii "~~~") = some (ascii "~~~") ∧
      percentImports.decodeAlloc [] = some [] ∧
      ¬ CredentialsSurvive percentImports demoArgs (demoOptions "~~~" "") 0
        (demoHTTP "~~~" "") (credentials (ascii "~~~") []) := by
  refine ⟨by decide, by decide, fun h => ?_⟩
  have hheader := h.init.header_eq
  revert hheader
  decide

end Demo

end AsyncHTTP

end TorOnion
