import TorOnion.Library.Containers
import TorOnion.Version.Platform

/-!
# The protover summary: `networking/lib/version.c`, `summarize_protover_flags`

What a relay supports is summarised in a record of flags, from its protocol list and, for old
relays, from its version.  The part that the protocol list decides is kept in
`protover_summary_map`, up to `MAX_PROTOVER_SUMMARY_MAP_LEN` lists; when the map is full it is
dropped before the lookup.  The version then corrects the caller's record, never the one kept.

`protoverSummary` and `summaryOf` are the same flags with no map at all, and
`summaries_transparent` says that no history of calls makes a difference between the two.  The
invariant is `SummaryMap.Faithful`: every entry of the map is the summary of its key, and there
are no more of them than the bound allows.

`tor_assert` is `guard`, so a call that ends in `none` is one whose assertion failed.  The record
`out` is the value returned.  The functions of `protover.c` are not part of the repository: they
are the fields of `ProtoverLib`, pure functions of their arguments, and their constants stay
symbols.
-/

namespace TorOnion

/-! ## The data -/

/-- The protocols that the summary asks for, `PRT_LINKAUTH` and so on. -/
inductive ProtocolType
  | linkauth
  | relay
  | hsintro
  | hsrend
  | hsdir
  | padding
  | flowctrl
  | conflux
  deriving DecidableEq

/-- The protocol versions that the summary asks for, `PROTOVER_LINKAUTH_ED25519_HANDSHAKE` and
so on. -/
inductive Protover
  | linkauthEd25519Handshake
  | relayExtend2
  | relayAcceptIpv6
  | relayExtendIpv6
  | relayCanonicalIpv6
  | relayNtorV3
  | relayNegotiateSubproto
  | relayCryptCgo
  | hsIntroV3
  | hsIntroDos
  | hsRendezvousPointV3
  | hsdirV3
  | hsSetupPadding
  | flowctrlCc
  | confluxV1
  deriving DecidableEq

/-- What the source takes from elsewhere: the two tests of `protover.c`, and the size of the
array `status_tag`. -/
structure ProtoverLib where
  protocolListSupportsProtocol : CStr → ProtocolType → Protover → Bool
  protocolListSupportsProtocolOrLater : CStr → ProtocolType → Protover → Bool
  tagSize : ℕ

/-- `protover_summary_flags_t`. -/
structure ProtoverSummaryFlags where
  protocolsKnown : Bool
  supportsEd25519LinkHandshakeCompat : Bool
  supportsEd25519LinkHandshakeAny : Bool
  supportsExtend2Cells : Bool
  supportsAcceptingIpv6Extends : Bool
  supportsInitiatingIpv6Extends : Bool
  supportsCanonicalIpv6Conns : Bool
  supportsEd25519HsIntro : Bool
  supportsEstablishIntroDosExtension : Bool
  supportsV3RendezvousPoint : Bool
  supportsV3Hsdir : Bool
  supportsHsSetupPadding : Bool
  supportsCongestionControl : Bool
  supportsConflux : Bool
  supportsNtorV3 : Bool
  supportsCgo : Bool
  deriving DecidableEq

/-- `memset(out, 0, sizeof(*out))`. -/
def ProtoverSummaryFlags.zero : ProtoverSummaryFlags :=
  ⟨false, false, false, false, false, false, false, false, false, false, false, false, false,
    false, false, false⟩

/-- `strmap_t`, from protocol lists to their summaries. -/
abbrev SummaryMap := AList fun _ : CStr => ProtoverSummaryFlags

/-- `MAX_PROTOVER_SUMMARY_MAP_LEN`. -/
def maxProtoverSummaryMapLen : ℕ := 1024

/-! ## The source -/

/-- `strmap_set`: the value that stood at the key, and the map. -/
def strmapSet (map : SummaryMap) (key : CStr) (value : ProtoverSummaryFlags) :
    Option ProtoverSummaryFlags × SummaryMap :=
  (map.lookup key, map.insert key value)

/-- `protover_summary_cache_free_all`, from any map to `NULL`. -/
def protoverSummaryCacheFreeAll (_ : Option SummaryMap) : Option SummaryMap := none

section Summary

variable (lib : ProtoverLib)

/-- The flags that `memoize_protover_summary` computes for a list it does not find. -/
def protoverSummary (protocols : CStr) : ProtoverSummaryFlags :=
  let supports := lib.protocolListSupportsProtocol protocols
  let supportsOrLater := lib.protocolListSupportsProtocolOrLater protocols
  { protocolsKnown := true
    supportsEd25519LinkHandshakeCompat := supports .linkauth .linkauthEd25519Handshake
    supportsEd25519LinkHandshakeAny := supportsOrLater .linkauth .linkauthEd25519Handshake
    supportsExtend2Cells := supports .relay .relayExtend2
    supportsAcceptingIpv6Extends :=
      supports .relay .relayAcceptIpv6 || supports .relay .relayExtendIpv6
    supportsInitiatingIpv6Extends := supports .relay .relayExtendIpv6
    supportsCanonicalIpv6Conns := supports .relay .relayCanonicalIpv6
    supportsEd25519HsIntro := supports .hsintro .hsIntroV3
    supportsEstablishIntroDosExtension := supports .hsintro .hsIntroDos
    supportsV3RendezvousPoint := supports .hsrend .hsRendezvousPointV3
    supportsV3Hsdir := supports .hsdir .hsdirV3
    supportsHsSetupPadding := supports .padding .hsSetupPadding
    supportsCongestionControl := supports .flowctrl .flowctrlCc && supports .relay .relayNtorV3
    -- Conflux requires congestion control.
    supportsConflux := supports .flowctrl .flowctrlCc && supports .conflux .confluxV1
    supportsNtorV3 := supports .relay .relayNtorV3
    supportsCgo := supports .flowctrl .flowctrlCc && supports .relay .relayNegotiateSubproto &&
      supports .relay .relayCryptCgo }

/-- `memoize_protover_summary` from the lookup on, in a map with room: `*out` and the map. -/
def memoizeInRoom (map : SummaryMap) (protocols : CStr) :
    Option (ProtoverSummaryFlags × Option SummaryMap) :=
  match map.lookup protocols with
  | some cached => do
      let out := cached
      guard out.protocolsKnown
      pure (out, some map)
  | none => do
      let out := protoverSummary lib protocols
      let (cached, map) := strmapSet map protocols out
      guard cached.isNone
      pure (out, some map)

/-- `memoize_protover_summary`: `*out` and the map. -/
def memoizeProtoverSummary (map : Option SummaryMap) (protocols : CStr) :
    Option (ProtoverSummaryFlags × Option SummaryMap) := do
  let map := map.getD ∅
  if memoSize map ≥ maxProtoverSummaryMapLen then
    guard (protoverSummaryCacheFreeAll (some map)).isNone
    memoizeInRoom lib ∅ protocols
  else memoizeInRoom lib map protocols

/-- The end of `summarize_protover_flags`: what the version changes in `*out`.  Without a
protocol list it decides one flag, and with one it filters another, for bug #22447. -/
def correctForVersion (out : ProtoverSummaryFlags) (version : Option CStr) :
    ProtoverSummaryFlags :=
  match version with
  | none => out
  | some version =>
      if version.bytes ≠ [] ∧ strcmpstart version.bytes (ascii "Tor ") then
        if !out.protocolsKnown then
          { out with
            supportsExtend2Cells :=
              torVersionAsNewAs lib.tagSize version (.ofBuffer (ascii "0.2.4.8-alpha"))
            protocolsKnown := true }
        else if !torVersionAsNewAs lib.tagSize version (.ofBuffer (ascii "0.3.0.8")) then
          { out with supportsV3Hsdir := false }
        else out
      else out

/-- `summarize_protover_flags`: `*out` and the map. -/
def summarizeProtoverFlags (map : Option SummaryMap) (protocols version : Option CStr) :
    Option (ProtoverSummaryFlags × Option SummaryMap) := do
  let (out, map) ←
    match protocols with
    | none => pure (.zero, map)
    | some protocols =>
        if protocols.bytes ≠ [] then memoizeProtoverSummary lib map protocols
        else pure (.zero, map)
  pure (correctForVersion lib out version, map)

/-- A call of one of the two public functions. -/
inductive SummaryCall
  | summarize (protocols version : Option CStr)
  | cacheFreeAll

/-- A call: the flags it writes, if it writes any, and the map. -/
def SummaryCall.run (map : Option SummaryMap) :
    SummaryCall → Option (Option ProtoverSummaryFlags × Option SummaryMap)
  | .summarize protocols version => do
      let (out, map) ← summarizeProtoverFlags lib map protocols version
      pure (some out, map)
  | .cacheFreeAll => pure (none, protoverSummaryCacheFreeAll map)

/-- Calls one after the other: what they write, in order, and the map they leave. -/
def runSummaryCalls (map : Option SummaryMap) :
    List SummaryCall → Option (List (Option ProtoverSummaryFlags) × Option SummaryMap)
  | [] => pure ([], map)
  | call :: calls => do
      let (out, map) ← call.run lib map
      let (outs, map) ← runSummaryCalls map calls
      pure (out :: outs, map)

/-! ## The flags with no map -/

/-- The flags of a relay, from its protocol list and its version alone. -/
def summaryOf (protocols version : Option CStr) : ProtoverSummaryFlags :=
  let known :=
    match protocols with
    | none => .zero
    | some protocols => if protocols.bytes ≠ [] then protoverSummary lib protocols else .zero
  correctForVersion lib known version

/-- What a call has to write. -/
def SummaryCall.answer : SummaryCall → Option ProtoverSummaryFlags
  | .summarize protocols version => some (summaryOf lib protocols version)
  | .cacheFreeAll => none

/-! ## The map keeps summaries -/

/-- Every entry is the summary of its key, and the bound on their number holds. -/
def SummaryMap.Faithful (map : Option SummaryMap) : Prop :=
  ∀ m ∈ map, MemoOf (protoverSummary lib) m ∧ memoSize m ≤ maxProtoverSummaryMapLen

end Summary

variable {lib : ProtoverLib} {map : Option SummaryMap}

lemma faithful_none (lib : ProtoverLib) : SummaryMap.Faithful lib none := by
  intro m hm
  cases hm

lemma SummaryMap.Faithful.memoOf_getD (h : SummaryMap.Faithful lib map) :
    MemoOf (protoverSummary lib) (map.getD ∅) := by
  cases map with
  | none => exact memoOf_empty
  | some m => exact (h m rfl).1

/-- In a map with room the lookup writes the summary, whether it finds it or not. -/
lemma memoizeInRoom_spec {m : SummaryMap} (h : MemoOf (protoverSummary lib) m)
    (hroom : memoSize m < maxProtoverSummaryMapLen) (protocols : CStr) :
    ∃ map', memoizeInRoom lib m protocols = some (protoverSummary lib protocols, map') ∧
      SummaryMap.Faithful lib map' := by
  cases hget : m.lookup protocols with
  | some cached =>
      -- a hit: the entry is the summary, which always has its lists known
      obtain rfl := h.eq_of_lookup hget
      refine ⟨some m, ?_, ?_⟩
      · simp [memoizeInRoom, hget, protoverSummary]
      · rintro _ ⟨⟩
        exact ⟨h, hroom.le⟩
  | none =>
      -- a miss: nothing stood at the key, and the entry made is one more
      refine ⟨some (m.insert protocols (protoverSummary lib protocols)), ?_, ?_⟩
      · simp [memoizeInRoom, hget, strmapSet]
      · rintro _ ⟨⟩
        exact ⟨h.insert, (memoSize_insert_le _).trans hroom⟩

/-- The lookup writes the summary from any faithful map: a full map is dropped first. -/
lemma memoizeProtoverSummary_spec (h : SummaryMap.Faithful lib map) (protocols : CStr) :
    ∃ map', memoizeProtoverSummary lib map protocols =
        some (protoverSummary lib protocols, map') ∧
      SummaryMap.Faithful lib map' := by
  by_cases hfull : memoSize (map.getD ∅) ≥ maxProtoverSummaryMapLen
  · have hroom : memoSize (∅ : SummaryMap) < maxProtoverSummaryMapLen := by decide
    obtain ⟨map', hrun, hmap'⟩ := memoizeInRoom_spec memoOf_empty hroom protocols
    refine ⟨map', ?_, hmap'⟩
    simp only [memoizeProtoverSummary, if_pos hfull]
    exact hrun
  · obtain ⟨map', hrun, hmap'⟩ :=
      memoizeInRoom_spec h.memoOf_getD (not_le.mp hfull) protocols
    refine ⟨map', ?_, hmap'⟩
    simp only [memoizeProtoverSummary, if_neg hfull]
    exact hrun

/-- `summarize_protover_flags` writes the flags that `summaryOf` computes with no map. -/
lemma summarizeProtoverFlags_spec (h : SummaryMap.Faithful lib map)
    (protocols version : Option CStr) :
    ∃ map', summarizeProtoverFlags lib map protocols version =
        some (summaryOf lib protocols version, map') ∧
      SummaryMap.Faithful lib map' := by
  cases protocols with
  | none => exact ⟨map, rfl, h⟩
  | some protocols =>
      by_cases hne : protocols.bytes ≠ []
      · obtain ⟨map', hrun, hmap'⟩ := memoizeProtoverSummary_spec h protocols
        refine ⟨map', ?_, hmap'⟩
        simp only [summarizeProtoverFlags, summaryOf, if_pos hne, hrun]
        rfl
      · refine ⟨map, ?_, h⟩
        simp only [summarizeProtoverFlags, summaryOf, if_neg hne]
        rfl

/-- The step lemma: a call writes its answer and leaves a faithful map. -/
lemma SummaryCall.run_spec (h : SummaryMap.Faithful lib map) (call : SummaryCall) :
    ∃ map', call.run lib map = some (call.answer lib, map') ∧
      SummaryMap.Faithful lib map' := by
  cases call with
  | summarize protocols version =>
      obtain ⟨map', hrun, hmap'⟩ := summarizeProtoverFlags_spec h protocols version
      refine ⟨map', ?_, hmap'⟩
      rw [SummaryCall.run, hrun]
      rfl
  | cacheFreeAll => exact ⟨none, rfl, faithful_none lib⟩

/-- The run lemma. -/
lemma runSummaryCalls_spec (calls : List SummaryCall) (h : SummaryMap.Faithful lib map) :
    ∃ map', runSummaryCalls lib map calls =
        some (calls.map (SummaryCall.answer lib), map') ∧
      SummaryMap.Faithful lib map' := by
  induction calls generalizing map with
  | nil => exact ⟨map, rfl, h⟩
  | cons call calls ih =>
      obtain ⟨mid, hcall, hmid⟩ := call.run_spec h
      obtain ⟨map', hrest, hmap'⟩ := ih hmid
      refine ⟨map', ?_, hmap'⟩
      rw [runSummaryCalls, hcall]
      simp only [Option.bind_eq_bind, Option.bind_some, hrest]
      rfl

/-- **The memo is transparent**: from no map, every sequence of calls runs to its end, no
assertion failing, each call writes the flags of its own protocol list and version, and the map
stays within its bound. -/
theorem summaries_transparent (lib : ProtoverLib) (calls : List SummaryCall) :
    ∃ map, runSummaryCalls lib none calls =
        some (calls.map (SummaryCall.answer lib), map) ∧
      ∀ m ∈ map, memoSize m ≤ maxProtoverSummaryMapLen := by
  obtain ⟨map, hrun, hmap⟩ := runSummaryCalls_spec calls (faithful_none lib)
  exact ⟨map, hrun, fun m hm => (hmap m hm).2⟩

end TorOnion
