import TorOnion.Version.Platform

/-!
# Recommended versions: `networking/lib/version.c`, `tor_version_is_obsolete`

A relay compares its own version with a list of recommended ones, separated by commas.

The loop of the source stops at the first entry that equals the version, and otherwise collects
four flags, which are then combined.  What it returns depends on the set of recommended versions
only (`versionStatusOf`, `torVersionIsObsolete_eq`): not on their order, on repetitions, or on
entries that cannot be parsed.

`smartlist_split_string` follows its documentation.  A failing `tor_assert` is `none`.
-/

namespace TorOnion

/-! ## The source -/

/-- `version_status_t`, as far as it is returned here. -/
inductive VersionStatus
  | recommended
  | old
  | new
  | newInSeries
  | unrecommended
  | empty
  deriving DecidableEq

def comma : UInt8 := 44

/-- What `SPLIT_SKIP_SPACE` leaves of an entry. -/
def skipSpace (p : List UInt8) : List UInt8 := (p.dropWhile isSpace).rdropWhile isSpace

/-- `smartlist_split_string(version_sl, versionlist, ",", SPLIT_SKIP_SPACE, 0)`. -/
def splitVersions (versionlist : CStr) : List CStr :=
  (versionlist.bytes.splitOn comma).map fun entry => .ofBuffer (skipSpace entry)

/-- `cp` after `if (!strcmpstart(cp, "Tor ")) cp += 4`. -/
def skipTor (cp : CStr) : CStr :=
  if strcmpstart cp.bytes (ascii "Tor ") then .ofBuffer (cp.bytes.drop 4) else cp

/-- `tor_version_same_series`. -/
def torVersionSameSeries (a b : TorVersion) : Bool :=
  a.major == b.major && a.minor == b.minor && a.micro == b.micro

/-- The local variables of the loop. -/
structure ObsoleteFlags where
  foundNewer : Bool
  foundOlder : Bool
  foundNewerInSeries : Bool
  foundAnyInSeries : Bool

def ObsoleteFlags.none : ObsoleteFlags := ⟨false, false, false, false⟩

/-- The loop over the entries.  `none` is its `goto done`, with `VS_RECOMMENDED`. -/
def obsoleteLoop (tagSize : ℕ) (mine : TorVersion) :
    List CStr → ObsoleteFlags → Option ObsoleteFlags
  | [], flags => some flags
  | cp :: versionSl, flags =>
      let (status, other) := torVersionParse tagSize (skipTor cp)
      if status ≠ 0 then obsoleteLoop tagSize mine versionSl flags
      else
        let same := torVersionSameSeries mine other
        let flags := { flags with foundAnyInSeries := same || flags.foundAnyInSeries }
        let r := torVersionCompare mine other
        if r = 0 then Option.none
        else if r < 0 then
          obsoleteLoop tagSize mine versionSl { flags with
            foundNewer := true
            foundNewerInSeries := same || flags.foundNewerInSeries }
        else obsoleteLoop tagSize mine versionSl { flags with foundOlder := true }

/-- `tor_version_is_obsolete`. -/
def torVersionIsObsolete (tagSize : ℕ) (myversion versionlist : CStr) : Option VersionStatus :=
  let (status, mine) := torVersionParse tagSize myversion
  if status ≠ 0 then none
  else if versionlist.bytes.length = 0 then some .empty
  else
    match obsoleteLoop tagSize mine (splitVersions versionlist) .none with
    | none => some .recommended
    | some flags =>
        if flags.foundAnyInSeries && !flags.foundNewerInSeries && flags.foundNewer then
          some .newInSeries
        else if flags.foundNewer && !flags.foundOlder then some .old
        else if flags.foundOlder && !flags.foundNewer then some .new
        else some .unrecommended

/-! ## What it is for -/

section Status

variable (mine : TorVersion) (versions : List TorVersion)

/-- Some recommended version is newer. -/
def SomeNewer : Prop := ∃ v ∈ versions, torVersionCompare mine v < 0

/-- Some recommended version is older. -/
def SomeOlder : Prop := ∃ v ∈ versions, torVersionCompare mine v > 0

instance : Decidable (SomeNewer mine versions) :=
  inferInstanceAs (Decidable (∃ v ∈ versions, torVersionCompare mine v < 0))

instance : Decidable (SomeOlder mine versions) :=
  inferInstanceAs (Decidable (∃ v ∈ versions, torVersionCompare mine v > 0))

/-- The status of a version among the recommended ones. -/
def versionStatusOf : VersionStatus :=
  if ∃ v ∈ versions, torVersionCompare mine v = 0 then .recommended
  else if SomeNewer mine versions ∧ (∃ v ∈ versions, torVersionSameSeries mine v = true) ∧
      ¬ ∃ v ∈ versions, torVersionSameSeries mine v = true ∧ torVersionCompare mine v < 0 then
    .newInSeries
  else if SomeNewer mine versions ∧ ¬ SomeOlder mine versions then .old
  else if SomeOlder mine versions ∧ ¬ SomeNewer mine versions then .new
  else .unrecommended

end Status

/-- The version of an entry, if it can be parsed. -/
def versionOf (tagSize : ℕ) (entry : List UInt8) : Option TorVersion :=
  let (status, version) := torVersionParse tagSize (skipTor (.ofBuffer (skipSpace entry)))
  if status = 0 then some version else none

/-- The versions of the entries that can be parsed. -/
def recommendedVersions (tagSize : ℕ) (versionlist : CStr) : List TorVersion :=
  (versionlist.bytes.splitOn comma).filterMap (versionOf tagSize)

/-! ## The loop -/

/-- The flags that versions add. -/
def ObsoleteFlags.add (mine : TorVersion) (versions : List TorVersion) (flags : ObsoleteFlags) :
    ObsoleteFlags where
  foundNewer := flags.foundNewer || versions.any fun v => decide (torVersionCompare mine v < 0)
  foundOlder := flags.foundOlder || versions.any fun v => decide (torVersionCompare mine v > 0)
  foundNewerInSeries := flags.foundNewerInSeries ||
    versions.any fun v => torVersionSameSeries mine v && decide (torVersionCompare mine v < 0)
  foundAnyInSeries := flags.foundAnyInSeries || versions.any fun v => torVersionSameSeries mine v

lemma ObsoleteFlags.add_nil (mine : TorVersion) (flags : ObsoleteFlags) :
    flags.add mine [] = flags := by
  simp [ObsoleteFlags.add]

lemma ObsoleteFlags.add_cons (mine v : TorVersion) (versions : List TorVersion)
    (flags : ObsoleteFlags) :
    flags.add mine (v :: versions) = (flags.add mine [v]).add mine versions := by
  simp [ObsoleteFlags.add, Bool.or_assoc]

section Loop

variable {tagSize : ℕ} {mine : TorVersion}

/-- What an entry does: nothing if it cannot be parsed, and otherwise it ends the loop or adds its
version. -/
lemma obsoleteLoop_cons (entry : List UInt8) (versionSl : List CStr) (flags : ObsoleteFlags) :
    obsoleteLoop tagSize mine (.ofBuffer (skipSpace entry) :: versionSl) flags =
      match versionOf tagSize entry with
      | none => obsoleteLoop tagSize mine versionSl flags
      | some v =>
          if torVersionCompare mine v = 0 then none
          else obsoleteLoop tagSize mine versionSl (flags.add mine [v]) := by
  rw [obsoleteLoop, versionOf]
  generalize torVersionParse tagSize (skipTor (.ofBuffer (skipSpace entry))) = parsed
  obtain ⟨status, other⟩ := parsed
  by_cases hstatus : status = 0
  · subst hstatus
    simp only [ne_eq, not_true, if_false, if_true]
    rcases lt_trichotomy (torVersionCompare mine other) 0 with hlt | heq | hgt
    · rw [if_neg hlt.ne, if_pos hlt, if_neg hlt.ne]
      simp [ObsoleteFlags.add, hlt, hlt.not_gt, Bool.or_comm]
    · rw [if_pos heq, if_pos heq]
    · rw [if_neg hgt.ne', if_neg hgt.not_gt, if_neg hgt.ne']
      simp [ObsoleteFlags.add, hgt, hgt.not_gt, Bool.or_comm]
  · simp only [ne_eq, hstatus, not_false_eq_true, if_true, if_false]

/-- The loop: it ends early exactly at a version that compares equal, and otherwise it has added
all versions. -/
lemma obsoleteLoop_eq (entries : List (List UInt8)) (flags : ObsoleteFlags) :
    obsoleteLoop tagSize mine (entries.map fun entry => .ofBuffer (skipSpace entry)) flags =
      if ∃ v ∈ entries.filterMap (versionOf tagSize), torVersionCompare mine v = 0 then none
      else some (flags.add mine (entries.filterMap (versionOf tagSize))) := by
  induction entries generalizing flags with
  | nil => simp [obsoleteLoop, ObsoleteFlags.add_nil]
  | cons entry entries ih =>
      rw [List.map_cons, obsoleteLoop_cons]
      cases hversion : versionOf tagSize entry with
      | none =>
          rw [List.filterMap_cons_none hversion]
          exact ih flags
      | some v =>
          rw [List.filterMap_cons_some hversion]
          by_cases heq : torVersionCompare mine v = 0
          · rw [if_pos ⟨v, List.mem_cons_self, heq⟩]
            exact if_pos heq
          · simp only [List.exists_mem_cons_iff, heq, false_or, if_false]
            rw [ih, ObsoleteFlags.add_cons mine v (entries.filterMap _)]

end Loop

/-! ## Sets of versions -/

/-- The status depends only on which versions are recommended. -/
lemma versionStatusOf_congr (mine : TorVersion) {versions versions' : List TorVersion}
    (h : ∀ v, v ∈ versions ↔ v ∈ versions') :
    versionStatusOf mine versions = versionStatusOf mine versions' := by
  have hexists : ∀ {P : TorVersion → Prop}, (∃ v ∈ versions, P v) ↔ ∃ v ∈ versions', P v := by
    simp only [h, implies_true]
  have hnewer : SomeNewer mine versions ↔ SomeNewer mine versions' := hexists
  have holder : SomeOlder mine versions ↔ SomeOlder mine versions' := hexists
  refine if_congr hexists rfl (if_congr ?_ rfl (if_congr ?_ rfl (if_congr ?_ rfl rfl)))
  · rw [hnewer, hexists, hexists]
  · rw [hnewer, holder]
  · rw [hnewer, holder]

/-- `tor_version_is_obsolete` returns the status of the version among the recommended ones. -/
lemma torVersionIsObsolete_eq {tagSize : ℕ} {myversion : CStr} {mine : TorVersion}
    (hmine : torVersionParse tagSize myversion = (0, mine)) (versionlist : CStr) :
    torVersionIsObsolete tagSize myversion versionlist =
      some (if versionlist.bytes = [] then .empty
        else versionStatusOf mine (recommendedVersions tagSize versionlist)) := by
  rw [torVersionIsObsolete, hmine]
  simp only [ne_eq, not_true, if_false, List.length_eq_zero_iff]
  by_cases hempty : versionlist.bytes = []
  · rw [if_pos hempty, if_pos hempty]
  · rw [if_neg hempty, if_neg hempty, splitVersions, obsoleteLoop_eq, recommendedVersions,
      versionStatusOf]
    generalize (versionlist.bytes.splitOn comma).filterMap (versionOf tagSize) = versions
    by_cases hequal : ∃ v ∈ versions, torVersionCompare mine v = 0
    · rw [if_pos hequal, if_pos hequal]
    · rw [if_neg hequal, if_neg hequal]
      have hnewer : (ObsoleteFlags.none.add mine versions).foundNewer = true ↔
          SomeNewer mine versions := by
        simp [ObsoleteFlags.add, ObsoleteFlags.none, SomeNewer]
      have holder : (ObsoleteFlags.none.add mine versions).foundOlder = true ↔
          SomeOlder mine versions := by
        simp [ObsoleteFlags.add, ObsoleteFlags.none, SomeOlder]
      have hseries : (ObsoleteFlags.none.add mine versions).foundAnyInSeries = true ↔
          ∃ v ∈ versions, torVersionSameSeries mine v = true := by
        simp [ObsoleteFlags.add, ObsoleteFlags.none]
      have hnewerInSeries : (ObsoleteFlags.none.add mine versions).foundNewerInSeries = true ↔
          ∃ v ∈ versions, torVersionSameSeries mine v = true ∧ torVersionCompare mine v < 0 := by
        simp [ObsoleteFlags.add, ObsoleteFlags.none]
      simp only [Bool.and_eq_true, Bool.not_eq_true', ← Bool.not_eq_true, hnewer, holder, hseries,
        hnewerInSeries]
      rw [← apply_ite some, ← apply_ite some, ← apply_ite some]
      exact congrArg some (if_congr and_comm rfl rfl)

/-- **Only the set of recommended versions counts.**  A version that can be parsed has the status
that it has among the versions of a list, and an empty list gives `VS_EMPTY`.  Two lists that are
not empty give the same status when each entry of the one is an entry of the other, up to entries
that cannot be parsed: when entries are permuted, repeated, or added without being versions. -/
theorem torVersionIsObsolete_classifies {tagSize : ℕ} {myversion : CStr} {mine : TorVersion}
    (hmine : torVersionParse tagSize myversion = (0, mine)) :
    (∀ versionlist, torVersionIsObsolete tagSize myversion versionlist =
      some (if versionlist.bytes = [] then .empty
        else versionStatusOf mine (recommendedVersions tagSize versionlist))) ∧
    ∀ versionlist versionlist' : CStr, versionlist.bytes ≠ [] → versionlist'.bytes ≠ [] →
      (∀ entry ∈ versionlist.bytes.splitOn comma, entry ∈ versionlist'.bytes.splitOn comma) →
      (∀ entry ∈ versionlist'.bytes.splitOn comma, entry ∈ versionlist.bytes.splitOn comma ∨
        versionOf tagSize entry = none) →
      torVersionIsObsolete tagSize myversion versionlist =
        torVersionIsObsolete tagSize myversion versionlist' := by
  refine ⟨torVersionIsObsolete_eq hmine, fun versionlist versionlist' hne hne' hsub hsup => ?_⟩
  rw [torVersionIsObsolete_eq hmine, torVersionIsObsolete_eq hmine, if_neg hne, if_neg hne']
  refine congrArg some (versionStatusOf_congr mine fun v => ?_)
  simp only [recommendedVersions, List.mem_filterMap]
  constructor
  · rintro ⟨entry, hmem, hversion⟩
    exact ⟨entry, hsub entry hmem, hversion⟩
  · rintro ⟨entry, hmem, hversion⟩
    rcases hsup entry hmem with hold | hnone
    · exact ⟨entry, hold, hversion⟩
    · rw [hnone] at hversion
      cases hversion

/-- A newer version of another series, and the own version's predecessor. -/
theorem torVersionIsObsolete_classifies_newInSeries :
    torVersionIsObsolete 32 ⟨ascii "0.4.8.10", by decide⟩
      ⟨ascii "0.4.9.1, Tor 0.4.8.9,x", by decide +kernel⟩ = some .newInSeries := by
  have hmine : torVersionParse 32 ⟨ascii "0.4.8.10", by decide⟩ =
      (0, (torVersionParse 32 ⟨ascii "0.4.8.10", by decide⟩).2) := by decide +kernel
  rw [(torVersionIsObsolete_classifies hmine).1]
  decide +kernel

end TorOnion
