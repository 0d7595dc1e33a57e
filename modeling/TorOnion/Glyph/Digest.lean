import TorOnion.Glyph.RoundTrip
import TorOnion.Library.BitField

/-!
# The digest of a glyph: `main_gr.cpp`

A digest remembers, for every kind of drawing, whether the glyph is accepted for it.  The answer is
sought when it is first wanted (`setActionFor`): from the size of the glyph, or from the strike,
which then prepares the glyph.  An empty glyph drops every kind from the start (`init_actions`).

The bits of the actions and the checks of the size are in the header, which is not here:
`SkDigestHeader` has them, and `SkDigestHeader.Lawful` says that the actions do not disturb each
other.
-/

namespace TorOnion

/-- `skglyph::ActionType`. -/
inductive ActionType
  | directMask
  | directMaskCPU
  | mask
  | sdft
  | path
  | drawable
  deriving DecidableEq

/-- `skglyph::GlyphAction`. -/
inductive GlyphAction
  | unset
  | accept
  | reject
  | drop
  deriving DecidableEq

/-- The members of `SkGlyphDigest` that are in the header, of `fActions` and of a size, and the
values of the two enumerations. -/
structure SkDigestHeader where
  shift : ActionType → ℕ
  code : GlyphAction → BitVec 32
  actionFor : ActionType → BitVec 32 → GlyphAction
  setAction : ActionType → GlyphAction → BitVec 32 → BitVec 32
  fitsInAtlasDirect : UInt16 → UInt16 → Bool
  fitsInAtlasInterpolated : UInt16 → UInt16 → Bool

/-- `StrikeForGPU`: what a strike answers, and leaves of the glyph and of itself. -/
structure StrikeForGPU (σ G : Type) where
  prepareForImage : G → σ → Bool × G × σ
  prepareForPath : G → σ → Bool × G × σ
  prepareForDrawable : G → σ → Bool × G × σ

structure SkGlyphDigest where
  fPackedID : UInt64
  fIndex : UInt64
  fIsEmpty : Bool
  fFormat : MaskFormat
  fActions : BitVec 32
  fLeft : Int16
  fTop : Int16
  fWidth : UInt16
  fHeight : UInt16
  deriving DecidableEq

/-- A digest with the glyph and the strike that it is asked about, and what the strike was asked
and has answered. -/
structure DigestUse (σ G : Type) where
  digest : SkGlyphDigest
  glyph : G
  strike : σ
  asked : List (ActionType × Bool) := []

/-- What is done with a digest.  Elsewhere the glyph and the strike may change. -/
inductive DigestCall (σ G : Type)
  | setActionFor (actionType : ActionType)
  | elsewhere (glyph : G) (strike : σ)

namespace SkDigestHeader

variable {σ G Scalar Path Drawable : Type} (header : SkDigestHeader)

/-- `init_actions`. -/
def initActions (isEmpty : Bool) : BitVec 32 :=
  let kAllUnset := 0
  let kDrop := header.code .drop
  let kAllDrop :=
    kDrop <<< header.shift .directMask ||| kDrop <<< header.shift .directMaskCPU |||
      kDrop <<< header.shift .mask ||| kDrop <<< header.shift .sdft |||
      kDrop <<< header.shift .path ||| kDrop <<< header.shift .drawable
  if isEmpty then kAllDrop else kAllUnset

/-- The constructor. -/
def newDigest (sk : SkGlyphHeader Path) (index : UInt64) (g : SkGlyph Scalar Path Drawable) :
    SkGlyphDigest where
  fPackedID := g.fID.toUInt64
  fIndex := index
  fIsEmpty := sk.isEmpty g.fWidth g.fHeight
  fFormat := g.fMaskFormat
  fActions := header.initActions (sk.isEmpty g.fWidth g.fHeight)
  fLeft := g.fLeft
  fTop := g.fTop
  fWidth := g.fWidth
  fHeight := g.fHeight

/-- The action of a digest. -/
def action (actionType : ActionType) (digest : SkGlyphDigest) : GlyphAction :=
  header.actionFor actionType digest.fActions

/-- The strike is asked to prepare the glyph. -/
def ask (prepare : G → σ → Bool × G × σ) (actionType : ActionType) (use : DigestUse σ G) :
    Bool × DigestUse σ G :=
  let (answer, glyph, strike) := prepare use.glyph use.strike
  (answer, { use with
    glyph := glyph, strike := strike, asked := use.asked ++ [(actionType, answer)] })

/-- The `switch` of `setActionFor`: whether the action is `kAccept`. -/
def isAccepted (strike : StrikeForGPU σ G) (actionType : ActionType) (use : DigestUse σ G) :
    Bool × DigestUse σ G :=
  let digest := use.digest
  match actionType with
  | .directMask => (header.fitsInAtlasDirect digest.fWidth digest.fHeight, use)
  | .directMaskCPU => ask strike.prepareForImage actionType use
  | .mask => (header.fitsInAtlasInterpolated digest.fWidth digest.fHeight, use)
  | .sdft =>
      (header.fitsInAtlasDirect digest.fWidth digest.fHeight && digest.fFormat == .sdf, use)
  | .path => ask strike.prepareForPath actionType use
  | .drawable => ask strike.prepareForDrawable actionType use

/-- `setActionFor`. -/
def setActionFor (strike : StrikeForGPU σ G) (actionType : ActionType) (use : DigestUse σ G) :
    DigestUse σ G :=
  if header.action actionType use.digest = .unset then
    let (accepted, use) := header.isAccepted strike actionType use
    let action := if accepted then .accept else .reject
    { use with
      digest := { use.digest with
        fActions := header.setAction actionType action use.digest.fActions } }
  else use

def step (strike : StrikeForGPU σ G) (use : DigestUse σ G) : DigestCall σ G → DigestUse σ G
  | .setActionFor actionType => header.setActionFor strike actionType use
  | .elsewhere glyph changed => { use with glyph := glyph, strike := changed }

/-- The kinds that calls ask for. -/
def wanted (calls : List (DigestCall σ G)) : List ActionType :=
  calls.filterMap fun call => match call with
    | .setActionFor actionType => some actionType
    | .elsewhere _ _ => none

/-- Whether a kind is accepted, as far as it is known: the strike's answer, or from the size. -/
def verdict (digest : SkGlyphDigest) (asked : List (ActionType × Bool)) :
    ActionType → Option Bool
  | .directMask => some (header.fitsInAtlasDirect digest.fWidth digest.fHeight)
  | .mask => some (header.fitsInAtlasInterpolated digest.fWidth digest.fHeight)
  | .sdft => some
      (header.fitsInAtlasDirect digest.fWidth digest.fHeight && digest.fFormat == .sdf)
  | actionType => asked.lookup actionType

/-- A new word has no action, an empty glyph's drops all, and an action that is set is read back
and leaves the others alone. -/
structure Lawful : Prop where
  actionFor_zero : ∀ actionType, header.actionFor actionType 0 = .unset
  actionFor_empty : ∀ actionType, header.actionFor actionType (header.initActions true) = .drop
  actionFor_setAction : ∀ actionType action actions,
    header.actionFor actionType actions = .unset →
      header.actionFor actionType (header.setAction actionType action actions) = action
  actionFor_setAction_of_ne : ∀ actionType other action actions, other ≠ actionType →
    header.actionFor actionType actions = .unset →
      header.actionFor other (header.setAction actionType action actions) =
        header.actionFor other actions

/-! ## One call -/

/-- The strike is asked, or the size says it. -/
lemma isAccepted_spec (strike : StrikeForGPU σ G) (actionType : ActionType)
    (use : DigestUse σ G) :
    (header.isAccepted strike actionType use).2.digest = use.digest ∧
      ((header.isAccepted strike actionType use).2.asked = use.asked ∧
          (∀ asked, header.verdict use.digest asked actionType =
            some (header.isAccepted strike actionType use).1) ∨
        (header.isAccepted strike actionType use).2.asked =
            use.asked ++ [(actionType, (header.isAccepted strike actionType use).1)] ∧
          ∀ asked, header.verdict use.digest asked actionType = asked.lookup actionType) := by
  cases actionType with
  | directMask => exact ⟨rfl, .inl ⟨rfl, fun _ => rfl⟩⟩
  | directMaskCPU => exact ⟨rfl, .inr ⟨rfl, fun _ => rfl⟩⟩
  | mask => exact ⟨rfl, .inl ⟨rfl, fun _ => rfl⟩⟩
  | sdft => exact ⟨rfl, .inl ⟨rfl, fun _ => rfl⟩⟩
  | path => exact ⟨rfl, .inr ⟨rfl, fun _ => rfl⟩⟩
  | drawable => exact ⟨rfl, .inr ⟨rfl, fun _ => rfl⟩⟩

lemma verdict_actions (digest : SkGlyphDigest) (actions : BitVec 32)
    (asked : List (ActionType × Bool)) (actionType : ActionType) :
    header.verdict { digest with fActions := actions } asked actionType =
      header.verdict digest asked actionType := by
  cases actionType <;> rfl

variable {header} (strike : StrikeForGPU σ G) {use : DigestUse σ G} {start : SkGlyphDigest}
  {kinds : List ActionType}

/-- Another answer of the strike leaves what is known as it is. -/
lemma verdict_append {asked : List (ActionType × Bool)} {actionType : ActionType} {accepted : Bool}
    (h : header.verdict start asked actionType = some accepted) (more : List (ActionType × Bool)) :
    header.verdict start (asked ++ more) actionType = some accepted := by
  cases actionType with
  | directMask | mask | sdft => exact h
  | directMaskCPU | path | drawable =>
      simp only [verdict] at h ⊢
      rw [List.lookup_append, h, Option.some_or]

lemma setActionFor_of_set {actionType : ActionType}
    (h : header.action actionType use.digest ≠ .unset) :
    header.setActionFor strike actionType use = use := if_neg h

/-- What a call does to an action that is not set. -/
lemma setActionFor_of_unset {actionType : ActionType}
    (hunset : header.action actionType use.digest = .unset) :
    ∃ accepted, (header.setActionFor strike actionType use).digest =
        { use.digest with
          fActions := header.setAction actionType (if accepted then .accept else .reject)
            use.digest.fActions } ∧
      ((header.setActionFor strike actionType use).asked = use.asked ∧
          (∀ asked, header.verdict use.digest asked actionType = some accepted) ∨
        (header.setActionFor strike actionType use).asked =
            use.asked ++ [(actionType, accepted)] ∧
          ∀ asked, header.verdict use.digest asked actionType = asked.lookup actionType) := by
  obtain ⟨hdigest, hspec⟩ := header.isAccepted_spec strike actionType use
  refine ⟨(header.isAccepted strike actionType use).1, ?_, ?_⟩
  · rw [SkDigestHeader.setActionFor, if_pos hunset]
    simp only [hdigest]
  · rw [SkDigestHeader.setActionFor, if_pos hunset]
    exact hspec

/-- An action that is set stays. -/
lemma action_setActionFor (hlaws : header.Lawful) (actionType : ActionType) {other : ActionType}
    (hset : header.action other use.digest ≠ .unset) :
    header.action other (header.setActionFor strike actionType use).digest =
      header.action other use.digest := by
  by_cases hunset : header.action actionType use.digest = .unset
  · have hne : other ≠ actionType := by
      rintro rfl
      exact hset hunset
    obtain ⟨accepted, hdigest, -⟩ := setActionFor_of_unset strike hunset
    rw [SkDigestHeader.action, hdigest]
    exact hlaws.actionFor_setAction_of_ne actionType other _ _ hne hunset
  · rw [setActionFor_of_set strike hunset]

/-- What the digest of a glyph that is not empty is after some kinds were wanted. -/
structure Digested (header : SkDigestHeader) (start : SkGlyphDigest) (kinds : List ActionType)
    (use : DigestUse σ G) : Prop where
  same : { use.digest with fActions := start.fActions } = start
  distinct : (use.asked.map Prod.fst).Nodup
  asked : ∀ actionType ∈ use.asked.map Prod.fst, actionType ∈ kinds
  unset : ∀ actionType, actionType ∉ kinds → header.action actionType use.digest = .unset
  decided : ∀ actionType ∈ kinds, ∃ accepted,
    header.verdict start use.asked actionType = some accepted ∧
      header.action actionType use.digest = if accepted then .accept else .reject

lemma Digested.ne_unset (h : Digested header start kinds use) {actionType : ActionType}
    (hmem : actionType ∈ kinds) : header.action actionType use.digest ≠ .unset := by
  obtain ⟨accepted, -, haction⟩ := h.decided actionType hmem
  rw [haction]
  cases accepted <;> decide

/-- The strike is asked about a kind that was not wanted before. -/
lemma Digested.asked_concat (h : Digested header start kinds use) {actionType : ActionType}
    (hnew : actionType ∉ kinds) (answer : Bool) :
    ((use.asked ++ [(actionType, answer)]).map Prod.fst).Nodup ∧
      (use.asked ++ [(actionType, answer)]).lookup actionType = some answer := by
  have hunasked : actionType ∉ use.asked.map Prod.fst := fun hmem => hnew (h.asked _ hmem)
  constructor
  · rw [List.map_append, List.map_singleton]
    exact List.nodup_append_comm.mp (List.nodup_cons.mpr ⟨hunasked, h.distinct⟩)
  · have hnone : use.asked.lookup actionType = none := by
      rw [List.lookup_eq_none_iff]
      intro question hquestion
      rw [bne_iff_ne]
      intro heq
      exact hunasked (heq ▸ List.mem_map_of_mem hquestion)
    rw [List.lookup_append, hnone, Option.none_or]
    simp

/-- The step lemma. -/
lemma Digested.setActionFor (h : Digested header start kinds use) (hlaws : header.Lawful)
    (actionType : ActionType) :
    Digested header start (kinds ++ [actionType]) (header.setActionFor strike actionType use) := by
  have hkept := fun {other} (hset : header.action other use.digest ≠ .unset) =>
    action_setActionFor strike hlaws actionType hset
  by_cases hunset : header.action actionType use.digest = .unset
  · have hnew : actionType ∉ kinds := fun hmem => h.ne_unset hmem hunset
    obtain ⟨accepted, hdigest, hspec⟩ := setActionFor_of_unset strike hunset
    have hverdict : ∀ asked, header.verdict use.digest asked actionType =
        header.verdict start asked actionType := by
      intro asked
      have hsame := header.verdict_actions use.digest start.fActions asked actionType
      rw [h.same] at hsame
      exact hsame.symm
    simp only [hverdict] at hspec
    refine ⟨?_, ?_, fun other hother => ?_, fun other hother => ?_, fun other hother => ?_⟩
    · rw [hdigest]
      exact h.same
    · rcases hspec with ⟨hasked, -⟩ | ⟨hasked, -⟩
      · rw [hasked]
        exact h.distinct
      · rw [hasked]
        exact (h.asked_concat hnew accepted).1
    · rw [List.mem_append, List.mem_singleton]
      rcases hspec with ⟨hasked, -⟩ | ⟨hasked, -⟩
      · rw [hasked] at hother
        exact .inl (h.asked other hother)
      · rw [hasked, List.map_append, List.map_singleton, List.mem_append,
          List.mem_singleton] at hother
        exact hother.imp_left (h.asked other)
    · rw [List.mem_append, List.mem_singleton, not_or] at hother
      rw [SkDigestHeader.action, hdigest]
      exact (hlaws.actionFor_setAction_of_ne actionType other _ _ hother.2 hunset).trans
        (h.unset other hother.1)
    · rcases List.mem_append.mp hother with hmem | hmem
      · obtain ⟨accepted', hknown, haction⟩ := h.decided other hmem
        refine ⟨accepted', ?_, (hkept (h.ne_unset hmem)).trans haction⟩
        rcases hspec with ⟨hasked, -⟩ | ⟨hasked, -⟩
        · rw [hasked]
          exact hknown
        · rw [hasked]
          exact verdict_append hknown _
      · obtain rfl := List.mem_singleton.mp hmem
        refine ⟨accepted, ?_, ?_⟩
        · rcases hspec with ⟨-, hknown⟩ | ⟨hasked, hknown⟩
          · exact hknown _
          · rw [hknown, hasked]
            exact (h.asked_concat hnew accepted).2
        · rw [SkDigestHeader.action, hdigest]
          exact hlaws.actionFor_setAction other _ _ hunset
  · have hmem : actionType ∈ kinds := by
      by_contra hnew
      exact hunset (h.unset actionType hnew)
    rw [setActionFor_of_set strike hunset]
    refine ⟨h.same, h.distinct, fun other hother => ?_, fun other hother => ?_,
      fun other hother => ?_⟩
    · exact List.mem_append_left _ (h.asked other hother)
    · exact h.unset other fun hin => hother (List.mem_append_left _ hin)
    · rcases List.mem_append.mp hother with hin | hin
      · exact h.decided other hin
      · rw [List.mem_singleton.mp hin]
        exact h.decided actionType hmem

/-! ## Runs -/

lemma action_foldl (hlaws : header.Lawful) (calls : List (DigestCall σ G)) {other : ActionType}
    {use : DigestUse σ G} (hset : header.action other use.digest ≠ .unset) :
    header.action other (calls.foldl (header.step strike) use).digest =
      header.action other use.digest := by
  induction calls generalizing use with
  | nil => rfl
  | cons call calls ih =>
      cases call with
      | setActionFor actionType =>
          have hstep := action_setActionFor strike hlaws actionType hset
          exact (ih (hstep ▸ hset)).trans hstep
      | elsewhere glyph changed => exact ih hset

/-- Where every action is set, the digest does not change and the strike is not asked. -/
lemma foldl_of_set (calls : List (DigestCall σ G)) {use : DigestUse σ G}
    (hset : ∀ actionType, header.action actionType use.digest ≠ .unset) :
    (calls.foldl (header.step strike) use).digest = use.digest ∧
      (calls.foldl (header.step strike) use).asked = use.asked := by
  induction calls generalizing use with
  | nil => exact ⟨rfl, rfl⟩
  | cons call calls ih =>
      cases call with
      | setActionFor actionType =>
          have hstep := setActionFor_of_set strike (hset actionType)
          rw [List.foldl_cons, SkDigestHeader.step, hstep]
          exact ih hset
      | elsewhere glyph changed => exact ih hset

/-- The run lemma. -/
lemma Digested.run (hlaws : header.Lawful) (calls : List (DigestCall σ G))
    {kinds : List ActionType} {use : DigestUse σ G} (h : Digested header start kinds use) :
    Digested header start (kinds ++ wanted calls) (calls.foldl (header.step strike) use) := by
  induction calls generalizing kinds use with
  | nil =>
      rw [wanted, List.filterMap_nil, List.append_nil]
      exact h
  | cons call calls ih =>
      cases call with
      | setActionFor actionType =>
          have hrun := ih (h.setActionFor strike hlaws actionType)
          rw [List.append_assoc] at hrun
          exact hrun
      | elsewhere glyph changed =>
          exact ih ⟨h.same, h.distinct, h.asked, h.unset, h.decided⟩

/-- **An action is decided once.**  Whatever is done with a digest in between, nothing but its
actions changes and the strike is asked at most once about each kind.  The digest of an empty glyph
drops every kind, and the strike is not asked.  Of another glyph a kind has an action exactly when
it was wanted: it is the answer of the strike, or the one that the size gives.  And an action that
is set stays as it is. -/
theorem actions_decided_once (hlaws : header.Lawful) (sk : SkGlyphHeader Path) (index : UInt64)
    (g : SkGlyph Scalar Path Drawable) (glyph : G) (s : σ) (calls more : List (DigestCall σ G)) :
    let start := header.newDigest sk index g
    let use := calls.foldl (header.step strike) { digest := start, glyph := glyph, strike := s }
    { use.digest with fActions := start.fActions } = start ∧ (use.asked.map Prod.fst).Nodup ∧
      (start.fIsEmpty = true → use.asked = [] ∧
        ∀ actionType, header.action actionType use.digest = .drop) ∧
      (start.fIsEmpty = false →
        (∀ actionType, actionType ∉ wanted calls →
          header.action actionType use.digest = .unset ∧ actionType ∉ use.asked.map Prod.fst) ∧
        ∀ actionType ∈ wanted calls, ∃ accepted,
          header.verdict start use.asked actionType = some accepted ∧
            header.action actionType use.digest = if accepted then .accept else .reject) ∧
      ∀ actionType, header.action actionType use.digest ≠ .unset →
        header.action actionType (more.foldl (header.step strike) use).digest =
          header.action actionType use.digest := by
  intro start use
  have hstays : ∀ actionType, header.action actionType use.digest ≠ .unset →
      header.action actionType (more.foldl (header.step strike) use).digest =
        header.action actionType use.digest := fun _ hset => action_foldl strike hlaws more hset
  cases hempty : start.fIsEmpty with
  | true =>
      have hdrop : ∀ actionType, header.action actionType start = .drop := by
        intro actionType
        have hactions : start.fActions = header.initActions true :=
          congrArg header.initActions hempty
        rw [SkDigestHeader.action, hactions]
        exact hlaws.actionFor_empty actionType
      have hset : ∀ actionType, header.action actionType start ≠ .unset := by
        intro actionType
        rw [hdrop actionType]
        decide
      obtain ⟨hdigest, hasked⟩ : use.digest = start ∧ use.asked = [] :=
        foldl_of_set strike calls hset
      refine ⟨?_, ?_, fun _ => ⟨hasked, ?_⟩, fun h => (nomatch h), hstays⟩
      · rw [hdigest]
      · rw [hasked]
        exact List.nodup_nil
      · rw [hdigest]
        exact hdrop
  | false =>
      have hzero : start.fActions = 0 := congrArg header.initActions hempty
      have hstart : Digested header start []
          ({ digest := start, glyph := glyph, strike := s } : DigestUse σ G) := by
        refine ⟨rfl, List.nodup_nil, fun _ h => (nomatch h), fun actionType _ => ?_,
          fun _ h => (nomatch h)⟩
        rw [SkDigestHeader.action, hzero]
        exact hlaws.actionFor_zero actionType
      have hrun : Digested header start ([] ++ wanted calls) use := hstart.run strike hlaws calls
      rw [List.nil_append] at hrun
      refine ⟨hrun.same, hrun.distinct, fun h => (nomatch h), fun _ => ⟨?_, hrun.decided⟩, hstays⟩
      intro actionType hnew
      exact ⟨hrun.unset actionType hnew, fun hmem => hnew (hrun.asked actionType hmem)⟩

end SkDigestHeader

/-! ## Two bits for every kind -/

section Demo

namespace ActionType

def shift : ActionType → ℕ
  | directMask => 0
  | directMaskCPU => 2
  | mask => 4
  | sdft => 6
  | path => 8
  | drawable => 10

/-- The bits of a kind. -/
def field (actionType : ActionType) : BitField 32 :=
  ⟨actionType.shift, 2, by cases actionType <;> decide⟩

lemma field_apart {actionType other : ActionType} (h : other ≠ actionType) :
    actionType.field.Apart other.field := by
  cases actionType <;> cases other <;> first | exact absurd rfl h | decide

end ActionType

namespace GlyphAction

def code : GlyphAction → BitVec 32
  | unset => 0
  | accept => 1
  | reject => 2
  | drop => 3

def ofCode (code : BitVec 32) : GlyphAction :=
  if code = 0 then unset
  else if code = 1 then accept
  else if code = 2 then reject
  else drop

lemma ofCode_eq_unset {code : BitVec 32} (h : ofCode code = unset) : code = 0 := by
  unfold ofCode at h
  split_ifs at h with hzero
  exact hzero

lemma code_and_mask (action : GlyphAction) (actionType : ActionType) :
    action.code &&& actionType.field.mask = action.code := by
  cases action <;> cases actionType <;> decide

lemma ofCode_code (action : GlyphAction) : ofCode action.code = action := by
  cases action <;> decide

end GlyphAction

/-- Two bits for every kind, which are only ever added to. -/
def packedActions : SkDigestHeader where
  shift := ActionType.shift
  code := GlyphAction.code
  actionFor actionType actions := GlyphAction.ofCode (actionType.field.get actions)
  setAction actionType action actions := actions ||| action.code <<< actionType.shift
  fitsInAtlasDirect width height := decide (max width.toNat height.toNat ≤ 256)
  fitsInAtlasInterpolated width height := decide (max width.toNat height.toNat ≤ 254)

lemma setAction_packedActions {actionType : ActionType} {actions : BitVec 32}
    (hunset : packedActions.actionFor actionType actions = .unset) (action : GlyphAction) :
    packedActions.setAction actionType action actions =
      actionType.field.set actions action.code := by
  have hzero : actionType.field.get actions = 0 := GlyphAction.ofCode_eq_unset hunset
  rw [← BitField.or_eq_set hzero, GlyphAction.code_and_mask]
  rfl

lemma lawful_packedActions : packedActions.Lawful where
  actionFor_zero actionType := by cases actionType <;> decide
  actionFor_empty actionType := by cases actionType <;> decide
  actionFor_setAction actionType action actions hunset := by
    rw [setAction_packedActions hunset]
    show GlyphAction.ofCode (actionType.field.get _) = action
    rw [BitField.get_set_self, GlyphAction.code_and_mask, GlyphAction.ofCode_code]
  actionFor_setAction_of_ne actionType other action actions hne hunset := by
    rw [setAction_packedActions hunset]
    show GlyphAction.ofCode (other.field.get _) = GlyphAction.ofCode (other.field.get actions)
    rw [BitField.get_set_of_apart (ActionType.field_apart hne)]

/-- A strike that prepares everything, and counts what it is asked. -/
def countingStrike : StrikeForGPU ℕ (SkGlyph UInt32 UInt32 (List UInt8)) where
  prepareForImage glyph count := (true, glyph, count + 1)
  prepareForPath glyph count := (true, glyph, count + 1)
  prepareForDrawable glyph count := (true, glyph, count + 1)

/-- The path is wanted twice, and the mask in between. -/
def demoWanted : List (DigestCall ℕ (SkGlyph UInt32 UInt32 (List UInt8))) :=
  [.setActionFor .path, .setActionFor .mask, .elsewhere demoGlyph 7, .setActionFor .path]

/-- The glyph fits in the atlas. -/
theorem actions_decided_once_demoWanted :
    packedActions.action .mask (demoWanted.foldl (packedActions.step countingStrike)
      { digest := packedActions.newDigest wireSkia.toSkGlyphHeader 0 demoGlyph
        glyph := demoGlyph
        strike := 0 }).digest = .accept := by
  obtain ⟨accepted, hknown, haction⟩ :=
    ((SkDigestHeader.actions_decided_once countingStrike lawful_packedActions
      wireSkia.toSkGlyphHeader 0 demoGlyph demoGlyph 0 demoWanted []).2.2.2.1 rfl).2 .mask
        (by decide)
  obtain rfl : true = accepted := Option.some.inj hknown
  exact haction

end Demo

end TorOnion
