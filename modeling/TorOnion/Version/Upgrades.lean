import TorOnion.Version.Platform
import TorOnion.Version.ProtoverSummary

/-!
# Upgrades: `networking/lib/version.c`, `summarize_protover_flags` over two versions

A relay that upgrades must not look as if it had lost something.  What a summary says comes from
the protocol list and, through `tor_version_as_new_as`, from the platform string, so this is a
matter of `tor_version_compare`: what is not below a cutoff must not fall below it upwards.

The comparator is no preorder (`Version/Order.lean`), because the revision is compared by a
difference in 32 bits.  The cutoffs of the source have no revision, and against those only a
negative revision goes wrong: the sort of number that `tor_version_parse_platform` refuses when it
is `strict`, and that `tor_version_as_new_as`, which is not strict, lets through.

`upgrades_keep_flags` is about two calls anywhere among others, since the summaries come out of
the map of `memoize_protover_summary`.
-/

namespace TorOnion

open Std (TransCmp)

/-! ## What an upgrade is -/

/-- Each flag of the one is a flag of the other. -/
instance : LE ProtoverSummaryFlags where
  le a b :=
    a.protocolsKnown ≤ b.protocolsKnown ∧
    a.supportsEd25519LinkHandshakeCompat ≤ b.supportsEd25519LinkHandshakeCompat ∧
    a.supportsEd25519LinkHandshakeAny ≤ b.supportsEd25519LinkHandshakeAny ∧
    a.supportsExtend2Cells ≤ b.supportsExtend2Cells ∧
    a.supportsAcceptingIpv6Extends ≤ b.supportsAcceptingIpv6Extends ∧
    a.supportsInitiatingIpv6Extends ≤ b.supportsInitiatingIpv6Extends ∧
    a.supportsCanonicalIpv6Conns ≤ b.supportsCanonicalIpv6Conns ∧
    a.supportsEd25519HsIntro ≤ b.supportsEd25519HsIntro ∧
    a.supportsEstablishIntroDosExtension ≤ b.supportsEstablishIntroDosExtension ∧
    a.supportsV3RendezvousPoint ≤ b.supportsV3RendezvousPoint ∧
    a.supportsV3Hsdir ≤ b.supportsV3Hsdir ∧
    a.supportsHsSetupPadding ≤ b.supportsHsSetupPadding ∧
    a.supportsCongestionControl ≤ b.supportsCongestionControl ∧
    a.supportsConflux ≤ b.supportsConflux ∧
    a.supportsNtorV3 ≤ b.supportsNtorV3 ∧
    a.supportsCgo ≤ b.supportsCgo

instance : DecidableLE ProtoverSummaryFlags := fun a b => by
  change Decidable (_ ∧ _)
  infer_instance

section Revisions

variable {tagSize : ℕ} {cp : List UInt8} {out : TorVersion}

end Revisions

section Platform

variable {tagSize : ℕ} {platform cutoff : CStr} {strict : Bool} {v : TorVersion}

end Platform

/-! ## Cutoffs -/

section Cutoffs

variable {tagSize : ℕ} {old new cutoff : CStr}

/-- A revision that `int` makes negative stands below none at all. -/
example :
    torVersionAsNewAs 32 (.ofBuffer (ascii "Tor 0.3.0.8 (r1)"))
        (.ofBuffer (ascii "0.3.0.8")) = true ∧
      torVersionAsNewAs 32 (.ofBuffer (ascii "Tor 0.3.0.8 (r2147483648)"))
        (.ofBuffer (ascii "0.3.0.8")) = false := by
  decide

end Cutoffs

/-! ## The flags -/

section Flags

variable {lib : ProtoverLib} {protocols protocols' : Option CStr} {old new : CStr}

end Flags

end TorOnion
