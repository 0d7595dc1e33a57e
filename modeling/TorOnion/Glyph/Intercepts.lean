import Mathlib.Data.Rat.Defs
import Mathlib.Logic.Function.Basic
import TorOnion.Glyph.Serialize

/-!
# Intercepts of a glyph: `graphics/glyph/main_gr.cpp`, `ensureIntercepts`

An underline leaves a gap where the outline of a glyph crosses it.  `calculate_path_gap` computes
the gap between two heights, and `ensureIntercepts` keeps what it has computed in a linked list,
one `Intercept` for each pair of heights.  A caller counts the values first, without an array, and
fills an array of that size by a second call.

The list is a memo table that also remembers the pairs without a gap: their interval is inverted,
so that a hit adds nothing to the count.  `intervalAt` is the interval that is remembered for a
pair, `Recorded` says that every entry holds it, and a call answers what `intervalAt` says whether
it hits or misses (`ensureIntercepts_spec`).

Scalars are a linear order with the operations that the file uses, without NaN.  A pointer into the
array is an offset, and what is written is the memory as a function of the offset.  What the file
takes from Skia's headers, bounding boxes, the pieces of a path and the crossings of a curve, is
`SkOutlines`.
-/

namespace TorOnion

/-! ## Data -/

/-- `SkPoint`. -/
structure SkPoint (Scalar : Type) where
  fX : Scalar
  fY : Scalar
  deriving DecidableEq

/-- `SkRect`. -/
structure SkRect (Scalar : Type) where
  fLeft : Scalar
  fTop : Scalar
  fRight : Scalar
  fBottom : Scalar
  deriving DecidableEq

/-- A record of `SkPath::Iter`: a verb with its points. -/
inductive PathRec (Scalar : Type)
  | move (pts : SkPoint Scalar)
  | line (pts₀ pts₁ : SkPoint Scalar)
  | quad (pts₀ pts₁ pts₂ : SkPoint Scalar)
  | conic (pts₀ pts₁ pts₂ : SkPoint Scalar)
  | cubic (pts₀ pts₁ pts₂ pts₃ : SkPoint Scalar)
  | close
  deriving DecidableEq

/-- What the file uses of Skia's outlines. -/
structure SkOutlines (Scalar Path : Type) [LinearOrder Scalar] where
  /-- `SK_ScalarMax`. -/
  scalarMax : Scalar
  /-- `SK_ScalarMin`, the most negative scalar. -/
  scalarMin : Scalar
  scalarMin_le_scalarMax : scalarMin ≤ scalarMax
  getBounds : Path → SkRect Scalar
  /-- The records of `SkPath::Iter(path, false)`. -/
  iter : Path → List (PathRec Scalar)
  /-- `sk_ieee_float_divide`. -/
  ieeeFloatDivide : Scalar → Scalar → Scalar
  /-- `SkBezierQuad::IntersectWithHorizontalLine`. -/
  intersectQuad : SkPoint Scalar → SkPoint Scalar → SkPoint Scalar → Scalar → List Scalar
  /-- `SkBezierCubic::IntersectWithHorizontalLine`. -/
  intersectCubic : SkPoint Scalar → SkPoint Scalar → SkPoint Scalar → SkPoint Scalar → Scalar →
    List Scalar

/-- `SkGlyph::Intercept`, without the link. -/
structure Intercept (Scalar : Type) where
  fBounds : Scalar × Scalar
  fInterval : Scalar × Scalar
  deriving DecidableEq

/-- `SkGlyph::PathData` with its intercepts, the newest first. -/
structure InterceptedPath (Scalar Path : Type) extends PathData Path where
  fIntercept : List (Intercept Scalar)
  deriving DecidableEq

/-- `array`, when it is not null, and `*count`. -/
structure InterceptOutput (Scalar : Type) where
  array : Option (ℤ → Scalar)
  count : ℤ

/-- The arguments of a call. -/
structure InterceptCall (Scalar : Type) where
  bounds : Scalar × Scalar
  scale : Scalar
  xPos : Scalar
  out : InterceptOutput Scalar

namespace SkOutlines

variable {Scalar Path : Type} [LinearOrder Scalar] [Zero Scalar] [One Scalar] [Add Scalar]
  [Sub Scalar] [Mul Scalar] (sk : SkOutlines Scalar Path)

/-! ## `calculate_path_gap` -/

/-- `expandGap`. -/
def expandGap (gap : Scalar × Scalar) (v : Scalar) : Scalar × Scalar :=
  (min gap.1 v, max gap.2 v)

/-- `addLine`. -/
def addLine (pts₀ pts₁ : SkPoint Scalar) (gap : Scalar × Scalar) (offset : Scalar) :
    Scalar × Scalar :=
  let t := sk.ieeeFloatDivide (offset - pts₀.fY) (pts₁.fY - pts₀.fY)
  if 0 ≤ t ∧ t < 1 then expandGap gap (pts₀.fX + t * (pts₁.fX - pts₀.fX)) else gap

/-- `addPts`. -/
def addPts (topOffset bottomOffset : Scalar) (pts : List (SkPoint Scalar))
    (gap : Scalar × Scalar) : Scalar × Scalar :=
  pts.foldl (fun gap p =>
    if topOffset < p.fY ∧ p.fY < bottomOffset then expandGap gap p.fX else gap) gap

/-- The body of the loop over the records. -/
def addRec (topOffset bottomOffset : Scalar) (gap : Scalar × Scalar) :
    PathRec Scalar → Scalar × Scalar
  | .move _ => gap
  | .line pts₀ pts₁ =>
      if topOffset ≤ max pts₀.fY pts₁.fY ∧ min pts₀.fY pts₁.fY ≤ bottomOffset then
        let gap := sk.addLine pts₀ pts₁ gap topOffset
        let gap := sk.addLine pts₀ pts₁ gap bottomOffset
        addPts topOffset bottomOffset [pts₀, pts₁] gap
      else gap
  | .quad pts₀ pts₁ pts₂ =>
      if topOffset ≤ max (max pts₀.fY pts₁.fY) pts₂.fY ∧
          min (min pts₀.fY pts₁.fY) pts₂.fY ≤ bottomOffset then
        let gap := (sk.intersectQuad pts₀ pts₁ pts₂ topOffset).foldl expandGap gap
        let gap := (sk.intersectQuad pts₀ pts₁ pts₂ bottomOffset).foldl expandGap gap
        addPts topOffset bottomOffset [pts₀, pts₁, pts₂] gap
      else gap
  -- glyph outlines have no conics
  | .conic _ _ _ => gap
  | .cubic pts₀ pts₁ pts₂ pts₃ =>
      if topOffset ≤ max (max (max pts₀.fY pts₁.fY) pts₂.fY) pts₃.fY ∧
          min (min (min pts₀.fY pts₁.fY) pts₂.fY) pts₃.fY ≤ bottomOffset then
        let gap := (sk.intersectCubic pts₀ pts₁ pts₂ pts₃ topOffset).foldl expandGap gap
        let gap := (sk.intersectCubic pts₀ pts₁ pts₂ pts₃ bottomOffset).foldl expandGap gap
        addPts topOffset bottomOffset [pts₀, pts₁, pts₂, pts₃] gap
      else gap
  | .close => gap

/-- `calculate_path_gap`. -/
def calculatePathGap (topOffset bottomOffset : Scalar) (path : Path) : Scalar × Scalar :=
  (sk.iter path).foldl (sk.addRec topOffset bottomOffset) (sk.scalarMax, sk.scalarMin)

/-! ## `SkGlyph::ensureIntercepts` -/

/-- `offsetResults`. -/
def offsetResults (scale xPos : Scalar) (interval : Scalar × Scalar)
    (out : InterceptOutput Scalar) : InterceptOutput Scalar where
  array := out.array.map fun array =>
    let array := Function.update array out.count (interval.1 * scale + xPos)
    Function.update array (out.count + 1) (interval.2 * scale + xPos)
  count := out.count + 2

/-- `ensureIntercepts`: the path data, the array and the count afterwards.  On a glyph without path
data it dereferences a null pointer, which is `none`. -/
def ensureIntercepts (fPathData : Option (InterceptedPath Scalar Path))
    (call : InterceptCall Scalar) :
    Option (InterceptedPath Scalar Path × InterceptOutput Scalar) :=
  match fPathData with
  | none => none
  | some data =>
      match data.fIntercept.find? fun intercept => call.bounds = intercept.fBounds with
      | some found =>
          if found.fInterval.1 < found.fInterval.2 then
            some (data, offsetResults call.scale call.xPos found.fInterval call.out)
          else some (data, call.out)
      | none =>
          let record (interval : Scalar × Scalar) : InterceptedPath Scalar Path :=
            { data with fIntercept := ⟨call.bounds, interval⟩ :: data.fIntercept }
          let pathBounds := sk.getBounds data.fPath
          if pathBounds.fBottom < call.bounds.1 ∨ call.bounds.2 < pathBounds.fTop then
            some (record (sk.scalarMax, sk.scalarMin), call.out)
          else
            let interval := sk.calculatePathGap call.bounds.1 call.bounds.2 data.fPath
            if interval.1 ≥ interval.2 then
              some (record (sk.scalarMax, sk.scalarMin), call.out)
            else
              some (record interval, offsetResults call.scale call.xPos interval call.out)

/-- Calls one after the other: what each leaves, and the path data at the end. -/
def runIntercepts (fPathData : Option (InterceptedPath Scalar Path)) :
    List (InterceptCall Scalar) →
      Option (List (InterceptOutput Scalar) × Option (InterceptedPath Scalar Path))
  | [] => some ([], fPathData)
  | call :: calls => do
      let (data, out) ← sk.ensureIntercepts fPathData call
      let (outs, final) ← runIntercepts (some data) calls
      pure (out :: outs, final)

/-! ## The list of intercepts -/

/-- The interval that is remembered for a pair of heights. -/
def intervalAt (path : Path) (bounds : Scalar × Scalar) : Scalar × Scalar :=
  if (sk.getBounds path).fBottom < bounds.1 ∨ bounds.2 < (sk.getBounds path).fTop then
    (sk.scalarMax, sk.scalarMin)
  else
    let interval := sk.calculatePathGap bounds.1 bounds.2 path
    if interval.1 ≥ interval.2 then (sk.scalarMax, sk.scalarMin) else interval

/-- What a call leaves, by the interval of its heights. -/
def answer (path : Path) (call : InterceptCall Scalar) : InterceptOutput Scalar :=
  let interval := sk.intervalAt path call.bounds
  if interval.1 < interval.2 then offsetResults call.scale call.xPos interval call.out
  else call.out

/-- Every entry holds the interval of its heights, and no two entries have the same heights. -/
structure Recorded (data : InterceptedPath Scalar Path) : Prop where
  interval : ∀ intercept ∈ data.fIntercept,
    intercept.fInterval = sk.intervalAt data.fPath intercept.fBounds
  nodup : (data.fIntercept.map Intercept.fBounds).Nodup

variable {sk} {data : InterceptedPath Scalar Path} {call : InterceptCall Scalar}

lemma recorded_nil (h : data.fIntercept = []) : sk.Recorded data where
  interval := by simp [h]
  nodup := by simp [h]

lemma Recorded.cons (h : sk.Recorded data) {bounds : Scalar × Scalar}
    (hnew : bounds ∉ data.fIntercept.map Intercept.fBounds) :
    sk.Recorded { data with
      fIntercept := ⟨bounds, sk.intervalAt data.fPath bounds⟩ :: data.fIntercept } where
  interval := by
    intro intercept hmem
    rcases List.mem_cons.mp hmem with rfl | hold
    · rfl
    · exact h.interval intercept hold
  nodup := List.nodup_cons.mpr ⟨hnew, h.nodup⟩

/-- The pairs without a gap have an inverted interval, so the two tests of a miss and the test of a
hit agree. -/
lemma answer_of_inverted
    (h : sk.intervalAt data.fPath call.bounds = (sk.scalarMax, sk.scalarMin)) :
    sk.answer data.fPath call = call.out := by
  rw [answer, h]
  exact if_neg sk.scalarMin_le_scalarMax.not_gt

/-- A call answers by the interval of its heights, and keeps the list as it should be. -/
lemma ensureIntercepts_spec (call : InterceptCall Scalar) (h : sk.Recorded data) :
    ∃ data', sk.ensureIntercepts (some data) call = some (data', sk.answer data.fPath call) ∧
      data'.toPathData = data.toPathData ∧ sk.Recorded data' := by
  simp only [ensureIntercepts]
  cases hfind : data.fIntercept.find? fun intercept => call.bounds = intercept.fBounds with
  | some found =>
      have hbounds : call.bounds = found.fBounds := by
        simpa using List.find?_some hfind
      have hinterval := h.interval found (List.mem_of_find?_eq_some hfind)
      refine ⟨data, ?_, rfl, h⟩
      simp only [answer, hbounds, ← hinterval]
      split <;> rfl
  | none =>
      have hnew : call.bounds ∉ data.fIntercept.map Intercept.fBounds := by
        intro hmem
        obtain ⟨intercept, hin, heq⟩ := List.mem_map.mp hmem
        have := List.find?_eq_none.mp hfind intercept hin
        simp [heq] at this
      refine ⟨{ data with fIntercept :=
        ⟨call.bounds, sk.intervalAt data.fPath call.bounds⟩ :: data.fIntercept }, ?_, rfl,
        h.cons hnew⟩
      by_cases houtside : (sk.getBounds data.fPath).fBottom < call.bounds.1 ∨
          call.bounds.2 < (sk.getBounds data.fPath).fTop
      · have hat : sk.intervalAt data.fPath call.bounds = (sk.scalarMax, sk.scalarMin) :=
          if_pos houtside
        simp only [if_pos houtside, answer_of_inverted hat, hat]
      · simp only [if_neg houtside]
        by_cases hempty : (sk.calculatePathGap call.bounds.1 call.bounds.2 data.fPath).1 ≥
            (sk.calculatePathGap call.bounds.1 call.bounds.2 data.fPath).2
        · have hat : sk.intervalAt data.fPath call.bounds = (sk.scalarMax, sk.scalarMin) := by
            simp only [intervalAt, if_neg houtside, if_pos hempty]
          simp only [if_pos hempty, answer_of_inverted hat, hat]
        · have hat : sk.intervalAt data.fPath call.bounds =
              sk.calculatePathGap call.bounds.1 call.bounds.2 data.fPath := by
            simp only [intervalAt, if_neg houtside, if_neg hempty]
          simp only [if_neg hempty, answer, hat, if_pos (not_le.mp hempty)]

/-- A run answers every call by the interval of its heights. -/
lemma runIntercepts_spec (h : sk.Recorded data) (calls : List (InterceptCall Scalar)) :
    ∃ data', sk.runIntercepts (some data) calls =
        some (calls.map (sk.answer data.fPath), some data') ∧
      data'.toPathData = data.toPathData ∧ sk.Recorded data' := by
  induction calls generalizing data with
  | nil => exact ⟨data, rfl, rfl, h⟩
  | cons call calls ih =>
      obtain ⟨mid, hcall, hpath, hmid⟩ := ensureIntercepts_spec call h
      obtain ⟨data', hrun, hpath', hdata'⟩ := ih hmid
      refine ⟨data', ?_, hpath'.trans hpath, hdata'⟩
      have hsame : mid.fPath = data.fPath := congrArg PathData.fPath hpath
      simp [runIntercepts, hcall, hrun, hsame]

/-- The count grows by the same amount for the same heights. -/
lemma answer_count (path : Path) (call : InterceptCall Scalar) :
    (sk.answer path call).count = call.out.count +
      if (sk.intervalAt path call.bounds).1 < (sk.intervalAt path call.bounds).2 then 2 else 0 := by
  rw [answer]
  split
  · rfl
  · exact (add_zero _).symm

/-- **The list of intercepts is transparent.**  Every call of a run leaves what it would leave on
the same glyph without intercepts, two calls with the same heights count the same number of values,
and the list never holds a pair of heights twice. -/
theorem runIntercepts_transparent (hnone : data.fIntercept = [])
    (calls : List (InterceptCall Scalar)) :
    ∃ outs data', sk.runIntercepts (some data) calls = some (outs, some data') ∧
      calls.map (fun call => (sk.ensureIntercepts (some data) call).map Prod.snd) =
        outs.map some ∧
      (∀ first second out out', (first, out) ∈ calls.zip outs → (second, out') ∈ calls.zip outs →
        first.bounds = second.bounds →
          out.count - first.out.count = out'.count - second.out.count) ∧
      (data'.fIntercept.map Intercept.fBounds).Nodup := by
  have hstart : sk.Recorded data := recorded_nil hnone
  obtain ⟨data', hrun, -, hdata'⟩ := runIntercepts_spec hstart calls
  refine ⟨_, data', hrun, ?_, ?_, hdata'.nodup⟩
  · rw [List.map_map]
    refine List.map_congr_left fun call _ => ?_
    obtain ⟨mid, hcall, -⟩ := ensureIntercepts_spec call hstart
    rw [hcall]
    rfl
  · have hzip : calls.zip (calls.map (sk.answer data.fPath)) =
        calls.map fun call => (call, sk.answer data.fPath call) := by
      calc calls.zip (calls.map (sk.answer data.fPath))
          = (calls.map id).zip (calls.map (sk.answer data.fPath)) := by rw [List.map_id]
        _ = calls.map fun call => (call, sk.answer data.fPath call) := List.zip_map'
    intro first second out out' hfirst hsecond hbounds
    rw [hzip] at hfirst hsecond
    obtain ⟨_, -, rfl, rfl⟩ : ∃ a ∈ calls, a = first ∧ sk.answer data.fPath a = out := by
      simpa using hfirst
    obtain ⟨_, -, rfl, rfl⟩ : ∃ a ∈ calls, a = second ∧ sk.answer data.fPath a = out' := by
      simpa using hsecond
    rw [answer_count, answer_count, hbounds]
    ring

end SkOutlines

/-! ## A diamond -/

/-- Outlines that are polygons around the origin, with the corners of their bounding box two away
from it. -/
def polygonOutlines : SkOutlines ℚ (List (PathRec ℚ)) where
  scalarMax := 2 ^ 128
  scalarMin := -2 ^ 128
  scalarMin_le_scalarMax := by norm_num
  getBounds _ := ⟨-2, -2, 2, 2⟩
  iter := id
  ieeeFloatDivide := (· / ·)
  intersectQuad _ _ _ _ := []
  intersectCubic _ _ _ _ _ := []

def diamond : InterceptedPath ℚ (List (PathRec ℚ)) where
  fPath := [.move ⟨0, -2⟩, .line ⟨0, -2⟩ ⟨2, 0⟩, .line ⟨2, 0⟩ ⟨0, 2⟩, .line ⟨0, 2⟩ ⟨-2, 0⟩,
    .line ⟨-2, 0⟩ ⟨0, -2⟩, .close]
  fHasPath := true
  fHairline := false
  fModified := false
  fIntercept := []

/-- The gap of the diamond at the heights `-1` and `1`, counted and then filled in. -/
def diamondCalls : List (InterceptCall ℚ) :=
  [⟨(-1, 1), 1, 10, ⟨none, 0⟩⟩, ⟨(-1, 1), 1, 10, ⟨some 0, 0⟩⟩]

theorem runIntercepts_transparent_diamond :
    ∃ outs data', polygonOutlines.runIntercepts (some diamond) diamondCalls =
        some (outs, some data') ∧
      diamondCalls.map (fun call =>
        (polygonOutlines.ensureIntercepts (some diamond) call).map Prod.snd) = outs.map some ∧
      (∀ first second out out', (first, out) ∈ diamondCalls.zip outs →
        (second, out') ∈ diamondCalls.zip outs → first.bounds = second.bounds →
          out.count - first.out.count = out'.count - second.out.count) ∧
      (data'.fIntercept.map Intercept.fBounds).Nodup :=
  SkOutlines.runIntercepts_transparent rfl diamondCalls

end TorOnion
