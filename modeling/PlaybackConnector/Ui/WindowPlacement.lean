import PlaybackConnector.Arith.Signed

/-!
# The placement of the settings window

`WindowPlacement.hpp`. A placement is computed for a monitor's work area and dpi from a saved
rectangle (`calculateSettingsWindowPlacementFromBounds`), from a saved size and a base placement
(`calculateSettingsWindowPlacementFromSize`), or for a size
(`calculateSettingsWindowPlacementForSize`). Coordinates are signed 32-bit integers: a computation
has no result if a signed 32-bit operation in it overflows.

The monitor of a rectangle, with its work area and its dpi, is what the system says it is.
-/

namespace PlaybackConnector

namespace WindowPlacement

/-- Source: `POINT`. -/
structure Point where
  x : Int
  y : Int
deriving Repr, DecidableEq

/-- Source: `SIZE`. -/
structure Size where
  cx : Int
  cy : Int
deriving Repr, DecidableEq

/-- Source: `RECT`. -/
structure Rect where
  left : Int
  top : Int
  right : Int
  bottom : Int
deriving Repr, DecidableEq

/-- Source: `SettingsWindowPlacement` (`WindowPlacement.hpp:19`). -/
structure SettingsWindowPlacement where
  position : Point
  size : Size
  workArea : Rect
  dpi : Nat
deriving Repr, DecidableEq

/-- What `GetMonitorWorkArea` and `GetMonitorDpi` say of a monitor. Source:
`WindowPlacement.hpp:31`. -/
structure Monitor where
  workArea : Rect
  dpi : Nat
deriving Repr, DecidableEq

/-! ## Scaling and clamping -/

def userDefaultScreenDpi : Nat := 96

/-- Source: `c_settingsWindowMinWidthDip` (`WindowPlacement.hpp:13`). -/
def settingsWindowMinWidthDip : Int := 480

/-- Source: `c_settingsWindowMinHeightDip` (`WindowPlacement.hpp:14`). -/
def settingsWindowMinHeightDip : Int := 360

/-- Source: `c_settingsWindowEdgeMarginDip` (`WindowPlacement.hpp:15`). -/
def settingsWindowEdgeMarginDip : Int := 16

/-- `MulDiv`: the product is a 64-bit one, the quotient is rounded to the nearest integer, and the
result is -1 if that is no 32-bit integer. -/
def mulDiv (number numerator denominator : Int) : Int :=
  let result := roundedQuotient (number * numerator) denominator
  if denominator = 0 ∨ ¬IsInt32 result then -1 else result

/-- Source: `DipToPixel` (`WindowPlacement.hpp:26`). -/
def dipToPixel (dip : Int) (dpi : Nat) : Int :=
  let dpi := if dpi = 0 then userDefaultScreenDpi else dpi
  mulDiv dip (toInt32 dpi) userDefaultScreenDpi

/-- Source: `ClampInt` (`WindowPlacement.hpp:66`). -/
def clampInt (value minValue maxValue : Int) : Int :=
  if maxValue < minValue then maxValue else max minValue (min value maxValue)

/-- Source: `workWidth` (`WindowPlacement.hpp:72`, `:123`, `:144`, `:173`). -/
def workWidth (workArea : Rect) : Option Int := do
  return max 1 (← sub32 workArea.right workArea.left)

/-- Source: `workHeight` (`WindowPlacement.hpp:73`, `:124`, `:145`, `:174`). -/
def workHeight (workArea : Rect) : Option Int := do
  return max 1 (← sub32 workArea.bottom workArea.top)

/-- Source: `GetSettingsWindowMinTrackSizeForWorkArea` (`WindowPlacement.hpp:71`). -/
def getSettingsWindowMinTrackSizeForWorkArea (workArea : Rect) (dpi : Nat) : Option Size := do
  let workWidth ← workWidth workArea
  let workHeight ← workHeight workArea
  return {
    cx := min (dipToPixel settingsWindowMinWidthDip dpi) workWidth
    cy := min (dipToPixel settingsWindowMinHeightDip dpi) workHeight }

/-- Source: `CalculateBottomRightWindowPosition` (`WindowPlacement.hpp:79`). -/
def calculateBottomRightWindowPosition (workArea : Rect) (size : Size) (dpi : Nat) :
    Option Point := do
  let margin := dipToPixel settingsWindowEdgeMarginDip dpi
  let x := clampInt (← sub32 (← sub32 workArea.right size.cx) margin) workArea.left
    (← sub32 workArea.right size.cx)
  let y := clampInt (← sub32 (← sub32 workArea.bottom size.cy) margin) workArea.top
    (← sub32 workArea.bottom size.cy)
  return { x := x, y := y }

/-- A saved size in the pixels of another dpi. Source: `WindowPlacement.hpp:117` and `:167`. -/
def scaleSize (size : Size) (dpi persistedDpi : Nat) : Size :=
  let persistedDpi := if persistedDpi = 0 then userDefaultScreenDpi else persistedDpi
  if persistedDpi ≠ dpi then {
    cx := max 1 (mulDiv size.cx (toInt32 dpi) (toInt32 persistedDpi))
    cy := max 1 (mulDiv size.cy (toInt32 dpi) (toInt32 persistedDpi)) }
  else size

/-! ## Placements -/

/-- Source: `CalculateSettingsWindowPlacementFromSize` (`WindowPlacement.hpp:112`). -/
def calculateSettingsWindowPlacementFromSize (size : Size) (persistedDpi : Nat)
    (basePlacement : SettingsWindowPlacement) : Option SettingsWindowPlacement := do
  let workArea := basePlacement.workArea
  let dpi := basePlacement.dpi
  let minTrackSize ← getSettingsWindowMinTrackSizeForWorkArea workArea dpi
  let size := scaleSize size dpi persistedDpi
  let workWidth ← workWidth workArea
  let workHeight ← workHeight workArea
  let maxRestoredWidth := min workWidth (max minTrackSize.cx basePlacement.size.cx)
  let maxRestoredHeight := min workHeight (max minTrackSize.cy basePlacement.size.cy)
  let width := clampInt size.cx minTrackSize.cx maxRestoredWidth
  let height := clampInt size.cy minTrackSize.cy maxRestoredHeight
  let x := clampInt (← sub32 (← add32 basePlacement.position.x basePlacement.size.cx) width)
    workArea.left (← sub32 workArea.right width)
  let y := clampInt (← sub32 (← add32 basePlacement.position.y basePlacement.size.cy) height)
    workArea.top (← sub32 workArea.bottom height)
  return {
    position := { x := x, y := y }
    size := { cx := width, cy := height }
    workArea := workArea
    dpi := dpi }

/-- Source: `CalculateSettingsWindowPlacementForSize` (`WindowPlacement.hpp:138`). -/
def calculateSettingsWindowPlacementForSize (size : Size)
    (basePlacement : SettingsWindowPlacement) : Option SettingsWindowPlacement := do
  let workArea := basePlacement.workArea
  let dpi := if basePlacement.dpi = 0 then userDefaultScreenDpi else basePlacement.dpi
  let minTrackSize ← getSettingsWindowMinTrackSizeForWorkArea workArea dpi
  let workWidth ← workWidth workArea
  let workHeight ← workHeight workArea
  let width := clampInt size.cx minTrackSize.cx workWidth
  let height := clampInt size.cy minTrackSize.cy workHeight
  let position ← calculateBottomRightWindowPosition workArea { cx := width, cy := height } dpi
  return {
    position := position
    size := { cx := width, cy := height }
    workArea := workArea
    dpi := dpi }

/-- The rectangle whose monitor is looked up. Its sides are computed in 64 bits. Source:
`WindowPlacement.hpp:155`. -/
def desiredRect (position : Point) (size : Size) : Rect where
  left := position.x
  top := position.y
  right := max (-2 ^ 31) (min (position.x + max 1 size.cx) (2 ^ 31 - 1))
  bottom := max (-2 ^ 31) (min (position.y + max 1 size.cy) (2 ^ 31 - 1))

/-- Source: `CalculateSettingsWindowPlacementFromBounds` (`WindowPlacement.hpp:154`). -/
def calculateSettingsWindowPlacementFromBounds (monitorFromRect : Rect → Monitor)
    (position : Point) (size : Size) (persistedDpi : Nat) : Option SettingsWindowPlacement := do
  let monitor := monitorFromRect (desiredRect position size)
  let workArea := monitor.workArea
  let dpi := monitor.dpi
  let minTrackSize ← getSettingsWindowMinTrackSizeForWorkArea workArea dpi
  let size := scaleSize size dpi persistedDpi
  let workWidth ← workWidth workArea
  let workHeight ← workHeight workArea
  let width := clampInt size.cx minTrackSize.cx workWidth
  let height := clampInt size.cy minTrackSize.cy workHeight
  let x := clampInt position.x workArea.left (← sub32 workArea.right width)
  let y := clampInt position.y workArea.top (← sub32 workArea.bottom height)
  return {
    position := { x := x, y := y }
    size := { cx := width, cy := height }
    workArea := workArea
    dpi := dpi }

/-! ## One dimension -/

/-- A scale that the code is used with. -/
def DpiInRange (dpi : Nat) : Prop := 48 ≤ dpi ∧ dpi ≤ 960

/-- The pixels at one dpi as pixels at another one, to the nearest. -/
def scaled (value : Int) (dpi persistedDpi : Nat) : Int :=
  round (((value * dpi : Int) : ℚ) / ((persistedDpi : Int) : ℚ))

/-- A scaled extent is not less than the minimum and not more than what there is of the work area,
of which the latter counts. -/
def restored (value minimum extent : Int) : Int :=
  max (min minimum extent) (min value extent)

/-- The extent is not scaled, or the scaled one is a 32-bit integer, or the work area leaves no
choice. -/
def Scales (value : Int) (dpi persistedDpi : Nat) (minimum extent : Int) : Prop :=
  persistedDpi = dpi ∨ scaled value dpi persistedDpi < 2 ^ 31 ∨ extent ≤ minimum


section
variable {dpi persistedDpi : Nat} {value minimum extent low high : Int}

theorem clampInt_eq (h : low ≤ high) : clampInt value low high = max low (min value high) :=
  if_neg (not_lt.2 h)

theorem mulDiv_eq {number numerator denominator : Int} (hdenominator : 0 < denominator)
    (h : IsInt32 (roundedQuotient (number * numerator) denominator)) :
    mulDiv number numerator denominator =
      roundedQuotient (number * numerator) denominator :=
  if_neg fun hfail => hfail.elim hdenominator.ne' fun hnot => hnot h

theorem mulDiv_overflow {number numerator denominator : Int}
    (h : ¬IsInt32 (roundedQuotient (number * numerator) denominator)) :
    mulDiv number numerator denominator = -1 :=
  if_pos (.inr h)

theorem scaled_eq (dpi : Nat) (hvalue : 0 ≤ value) (hpersisted : 0 < persistedDpi) :
    scaled value dpi persistedDpi = roundedQuotient (value * dpi) persistedDpi :=
  (roundedQuotient_eq_round (mul_nonneg hvalue (by omega)) (by omega)).symm

theorem DpiInRange.toInt32_eq (h : DpiInRange dpi) : toInt32 dpi = dpi := by
  obtain ⟨-, hmost⟩ := h
  exact PlaybackConnector.toInt32_eq (by omega)

/-- Device-independent pixels in pixels. -/
theorem dipToPixel_eq (h : DpiInRange dpi) (dip : Int) (hleast : 16 ≤ dip) (hmost : dip ≤ 480) :
    dipToPixel dip dpi = scaled dip dpi userDefaultScreenDpi ∧
      1 ≤ dipToPixel dip dpi ∧ dipToPixel dip dpi ≤ 4800 := by
  obtain ⟨hlow, hhigh⟩ := h
  have hproduct : 768 ≤ dip * dpi ∧ dip * dpi ≤ 480 * 960 := by
    constructor <;> nlinarith
  have hquotient : roundedQuotient (dip * dpi) 96 = (2 * (dip * dpi) + 96) / (2 * 96) :=
    roundedQuotient_eq_ediv (by omega) (by decide)
  have hresult : dipToPixel dip dpi = roundedQuotient (dip * dpi) 96 := by
    have hdpi : (if dpi = 0 then userDefaultScreenDpi else dpi) = dpi := if_neg (by omega)
    rw [dipToPixel, hdpi, DpiInRange.toInt32_eq ⟨hlow, hhigh⟩]
    refine mulDiv_eq (by decide) ?_
    show IsInt32 (roundedQuotient (dip * dpi) 96)
    rw [hquotient, IsInt32]
    omega
  refine ⟨?_, ?_, ?_⟩
  · rw [hresult, scaled_eq _ (by omega) (by decide)]
    rfl
  · rw [hresult, hquotient]
    omega
  · rw [hresult, hquotient]
    omega

/-- A saved extent, scaled and clamped, is the exactly scaled one, clamped, unless the scaled one
is not a 32-bit integer. -/
theorem clampInt_scale_iff (value : Int) (hdpi : DpiInRange dpi)
    (hpersisted : DpiInRange persistedDpi)
    (hminimum : 1 ≤ minimum) (hextent : 1 ≤ extent) (hnarrow : extent < 2 ^ 31) :
    clampInt (if persistedDpi ≠ dpi then
        max 1 (mulDiv value (toInt32 dpi) (toInt32 persistedDpi)) else value)
      (min minimum extent) extent = restored (scaled value dpi persistedDpi) minimum extent ↔
    Scales value dpi persistedDpi minimum extent := by
  have hpos : (0 : Int) < persistedDpi := by
    have := hpersisted.1
    omega
  rw [clampInt_eq (min_le_right _ _), hdpi.toInt32_eq, hpersisted.toInt32_eq, restored]
  by_cases hsame : persistedDpi = dpi
  · subst hsame
    have hexact : scaled value persistedDpi persistedDpi = value := by
      have hne : ((persistedDpi : Int) : ℚ) ≠ 0 := by exact_mod_cast hpos.ne'
      rw [scaled, Int.cast_mul, mul_div_cancel_right₀ _ hne, round_intCast]
    rw [if_neg (by simp), hexact]
    exact iff_of_true rfl (.inl rfl)
  · rw [if_pos hsame]
    rcases le_or_gt value 0 with hvalue | hvalue
    · have hproduct : value * dpi ≤ 0 := mul_nonpos_of_nonpos_of_nonneg hvalue (by omega)
      have hscaled : scaled value dpi persistedDpi ≤ 0 := round_nonpos hproduct hpos
      have hresult : mulDiv value dpi persistedDpi ≤ 0 := by
        by_cases hfits : IsInt32 (roundedQuotient (value * dpi) persistedDpi)
        · rw [mulDiv_eq hpos hfits]
          exact roundedQuotient_nonpos hproduct hpos
        · rw [mulDiv_overflow hfits]
          decide
      refine iff_of_true ?_ (.inr (.inl (by omega)))
      omega
    · have hproduct : 0 ≤ value * dpi := mul_nonneg hvalue.le (by omega)
      have hround := (scaled_eq dpi hvalue.le (by omega : 0 < persistedDpi)).symm
      have hnonneg : 0 ≤ scaled value dpi persistedDpi := by
        rw [← hround, roundedQuotient_eq_ediv hproduct hpos]
        exact Int.ediv_nonneg (by omega) (by omega)
      by_cases hfits : scaled value dpi persistedDpi < 2 ^ 31
      · rw [mulDiv_eq hpos (by rw [hround]; exact ⟨by omega, hfits⟩), hround]
        refine iff_of_true ?_ (.inr (.inl hfits))
        omega
      · rw [mulDiv_overflow (by rw [hround]; exact fun hboth => hfits hboth.2)]
        have hscales : Scales value dpi persistedDpi minimum extent ↔ extent ≤ minimum := by
          rw [Scales, or_iff_right hsame, or_iff_right hfits]
        rw [hscales]
        omega

end

/-! ## Placements in a work area -/

/-- A work area that is not empty, with coordinates that are not far from the origin. -/
structure WorkAreaInRange (workArea : Rect) : Prop where
  width : workArea.left < workArea.right
  height : workArea.top < workArea.bottom
  left : -2 ^ 30 ≤ workArea.left
  right : workArea.right ≤ 2 ^ 30
  top : -2 ^ 30 ≤ workArea.top
  bottom : workArea.bottom ≤ 2 ^ 30

/-- The width and the height of a work area are 32-bit integers. -/
def Narrow (workArea : Rect) : Prop :=
  workArea.right - workArea.left < 2 ^ 31 ∧ workArea.bottom - workArea.top < 2 ^ 31

instance (workArea : Rect) : Decidable (Narrow workArea) := inferInstanceAs (Decidable (_ ∧ _))

/-- The smallest width of the window at a dpi. -/
def minimumWidth (dpi : Nat) : Int := scaled settingsWindowMinWidthDip dpi userDefaultScreenDpi

/-- The smallest height of the window at a dpi. -/
def minimumHeight (dpi : Nat) : Int := scaled settingsWindowMinHeightDip dpi userDefaultScreenDpi

/-- The rectangle lies in the work area. -/
structure InWorkArea (placement : SettingsWindowPlacement) : Prop where
  width : 0 ≤ placement.size.cx
  height : 0 ≤ placement.size.cy
  left : placement.workArea.left ≤ placement.position.x
  right : placement.position.x + placement.size.cx ≤ placement.workArea.right
  top : placement.workArea.top ≤ placement.position.y
  bottom : placement.position.y + placement.size.cy ≤ placement.workArea.bottom

/-- The rectangle lies in the work area, and it is not less than the minimum unless the work area
is. -/
structure Usable (placement : SettingsWindowPlacement) : Prop extends InWorkArea placement where
  minimumWidth : min (minimumWidth placement.dpi)
    (placement.workArea.right - placement.workArea.left) ≤ placement.size.cx
  minimumHeight : min (minimumHeight placement.dpi)
    (placement.workArea.bottom - placement.workArea.top) ≤ placement.size.cy

section
variable {workArea : Rect} {dpi : Nat} {low high extent position : Int}

theorem minimum_bounds (h : DpiInRange dpi) :
    1 ≤ minimumWidth dpi ∧ minimumWidth dpi ≤ 4800 ∧ 1 ≤ minimumHeight dpi ∧
      minimumHeight dpi ≤ 4800 := by
  have hwidth := dipToPixel_eq h settingsWindowMinWidthDip (by decide) (by decide)
  have hheight := dipToPixel_eq h settingsWindowMinHeightDip (by decide) (by decide)
  rw [hwidth.1] at hwidth
  rw [hheight.1] at hheight
  exact ⟨hwidth.2.1, hwidth.2.2, hheight.2.1, hheight.2.2⟩

theorem workWidth_eq (h : WorkAreaInRange workArea) (hnarrow : Narrow workArea) :
    workWidth workArea = some (workArea.right - workArea.left) ∧
      workHeight workArea = some (workArea.bottom - workArea.top) := by
  obtain ⟨hwidth, hheight, hleft, hright, htop, hbottom⟩ := h
  obtain ⟨hnarrow, hlow⟩ := hnarrow
  constructor
  · rw [workWidth, sub32_eq ⟨by omega, hnarrow⟩]
    exact congrArg some (max_eq_right (by omega))
  · rw [workHeight, sub32_eq ⟨by omega, hlow⟩]
    exact congrArg some (max_eq_right (by omega))

theorem minTrackSize_eq (h : WorkAreaInRange workArea) (hnarrow : Narrow workArea)
    (hdpi : DpiInRange dpi) : getSettingsWindowMinTrackSizeForWorkArea workArea dpi = some {
      cx := min (minimumWidth dpi) (workArea.right - workArea.left)
      cy := min (minimumHeight dpi) (workArea.bottom - workArea.top) } := by
  obtain ⟨hwidth, hheight⟩ := workWidth_eq h hnarrow
  have hminWidth := (dipToPixel_eq hdpi settingsWindowMinWidthDip (by decide) (by decide)).1
  have hminHeight := (dipToPixel_eq hdpi settingsWindowMinHeightDip (by decide) (by decide)).1
  rw [getSettingsWindowMinTrackSizeForWorkArea, hwidth, hheight, hminWidth, hminHeight]
  rfl

/-- A work area that is too wide or too high makes the computation overflow. -/
theorem minTrackSize_overflow (h : ¬Narrow workArea) :
    getSettingsWindowMinTrackSizeForWorkArea workArea dpi = none := by
  unfold getSettingsWindowMinTrackSizeForWorkArea workWidth workHeight
  by_cases hwidth : workArea.right - workArea.left < 2 ^ 31
  · have hheight : ¬workArea.bottom - workArea.top < 2 ^ 31 := fun hheight => h ⟨hwidth, hheight⟩
    rw [sub32_overflow (not_lt.1 hheight)]
    cases sub32 workArea.right workArea.left <;> rfl
  · rw [sub32_overflow (not_lt.1 hwidth)]
    rfl

theorem clampInt_bounds (value : Int) (h : low ≤ high) :
    low ≤ clampInt value low high ∧ clampInt value low high ≤ high := by
  rw [clampInt_eq h]
  omega

theorem clampInt_self (hlow : low ≤ position) (hhigh : position ≤ high) :
    clampInt position low high = position := by
  rw [clampInt_eq (hlow.trans hhigh)]
  omega

/-- One dimension of a work area: its sides, in range and not too far apart. -/
structure Side (first last : Int) : Prop where
  lt : first < last
  least : -2 ^ 30 ≤ first
  most : last ≤ 2 ^ 30
  narrow : last - first < 2 ^ 31

theorem WorkAreaInRange.sides (h : WorkAreaInRange workArea) (hnarrow : Narrow workArea) :
    Side workArea.left workArea.right ∧ Side workArea.top workArea.bottom :=
  ⟨⟨h.width, h.left, h.right, hnarrow.1⟩, ⟨h.height, h.top, h.bottom, hnarrow.2⟩⟩

variable {first last : Int}

/-- What is not longer than a side of the work area has its last place there. -/
theorem Side.sub32_eq (h : Side first last) (hnonneg : 0 ≤ extent) (hle : extent ≤ last - first) :
    sub32 last extent = some (last - extent) := by
  obtain ⟨hlt, hfirst, hlast, hnarrow⟩ := h
  exact PlaybackConnector.sub32_eq ⟨by omega, by omega⟩

/-- It is clamped to a place there. -/
theorem Side.clampInt_bounds (_ : Side first last) (position : Int) (hle : extent ≤ last - first) :
    first ≤ clampInt position first (last - extent) ∧
      clampInt position first (last - extent) + extent ≤ last := by
  have hbounds := WindowPlacement.clampInt_bounds position
    (show first ≤ last - extent by omega)
  omega

/-- A placement of a size in a work area is usable if both its dimensions are. -/
theorem usable_of_sides {placement : SettingsWindowPlacement} {x y : Int}
    (harea : WorkAreaInRange placement.workArea) (hnarrow : Narrow placement.workArea)
    (hdpi : DpiInRange placement.dpi)
    (hcx : min (minimumWidth placement.dpi)
      (placement.workArea.right - placement.workArea.left) ≤ placement.size.cx)
    (hright : placement.size.cx ≤ placement.workArea.right - placement.workArea.left)
    (hcy : min (minimumHeight placement.dpi)
      (placement.workArea.bottom - placement.workArea.top) ≤ placement.size.cy)
    (hbottom : placement.size.cy ≤ placement.workArea.bottom - placement.workArea.top)
    (hposition : placement.position = {
      x := clampInt x placement.workArea.left (placement.workArea.right - placement.size.cx)
      y := clampInt y placement.workArea.top (placement.workArea.bottom - placement.size.cy) }) :
    Usable placement := by
  obtain ⟨hminWidth, -, hminHeight, -⟩ := minimum_bounds hdpi
  obtain ⟨hside, hside'⟩ := harea.sides hnarrow
  have hx := hside.clampInt_bounds x hright
  have hy := hside'.clampInt_bounds y hbottom
  have hlt := hside.lt
  have hlt' := hside'.lt
  refine ⟨⟨by omega, by omega, ?_, ?_, ?_, ?_⟩, hcx, hcy⟩
  · rw [hposition]
    exact hx.1
  · rw [hposition]
    exact hx.2
  · rw [hposition]
    exact hy.1
  · rw [hposition]
    exact hy.2

end

/-! ## The saved rectangle -/

section
variable {monitorFromRect : Rect → Monitor} {position : Point} {size : Size} {persistedDpi : Nat}
  {monitor : Monitor} {placement : SettingsWindowPlacement}

/-- The size that is restored on a monitor, where nothing overflows. -/
def sizeFromBounds (monitor : Monitor) (size : Size) (persistedDpi : Nat) : Size where
  cx := clampInt (scaleSize size monitor.dpi persistedDpi).cx
    (min (minimumWidth monitor.dpi) (monitor.workArea.right - monitor.workArea.left))
    (monitor.workArea.right - monitor.workArea.left)
  cy := clampInt (scaleSize size monitor.dpi persistedDpi).cy
    (min (minimumHeight monitor.dpi) (monitor.workArea.bottom - monitor.workArea.top))
    (monitor.workArea.bottom - monitor.workArea.top)

/-- The placement from a saved rectangle, where nothing overflows. -/
def placementFromBounds (monitor : Monitor) (position : Point) (size : Size) (persistedDpi : Nat) :
    SettingsWindowPlacement where
  position := {
    x := clampInt position.x monitor.workArea.left
      (monitor.workArea.right - (sizeFromBounds monitor size persistedDpi).cx)
    y := clampInt position.y monitor.workArea.top
      (monitor.workArea.bottom - (sizeFromBounds monitor size persistedDpi).cy) }
  size := sizeFromBounds monitor size persistedDpi
  workArea := monitor.workArea
  dpi := monitor.dpi

theorem sizeFromBounds_bounds (monitor : Monitor) (size : Size) (persistedDpi : Nat) :
    (min (minimumWidth monitor.dpi) (monitor.workArea.right - monitor.workArea.left) ≤
        (sizeFromBounds monitor size persistedDpi).cx ∧
      (sizeFromBounds monitor size persistedDpi).cx ≤
        monitor.workArea.right - monitor.workArea.left) ∧
    min (minimumHeight monitor.dpi) (monitor.workArea.bottom - monitor.workArea.top) ≤
        (sizeFromBounds monitor size persistedDpi).cy ∧
      (sizeFromBounds monitor size persistedDpi).cy ≤
        monitor.workArea.bottom - monitor.workArea.top :=
  ⟨clampInt_bounds _ (min_le_right _ _), clampInt_bounds _ (min_le_right _ _)⟩

theorem fromBounds_eq (hmonitor : monitorFromRect (desiredRect position size) = monitor)
    (harea : WorkAreaInRange monitor.workArea) (hnarrow : Narrow monitor.workArea)
    (hdpi : DpiInRange monitor.dpi) :
    calculateSettingsWindowPlacementFromBounds monitorFromRect position size persistedDpi =
      some (placementFromBounds monitor position size persistedDpi) := by
  obtain ⟨hminWidth, -, hminHeight, -⟩ := minimum_bounds hdpi
  obtain ⟨⟨hleastWidth, hmostWidth⟩, hleastHeight, hmostHeight⟩ :=
    sizeFromBounds_bounds monitor size persistedDpi
  obtain ⟨hwidth, hheight⟩ := harea.sides hnarrow
  have hpositive := hwidth.lt
  have hpositive' := hheight.lt
  have hsubWidth := hwidth.sub32_eq (by omega) hmostWidth
  have hsubHeight := hheight.sub32_eq (by omega) hmostHeight
  obtain ⟨hworkWidth, hworkHeight⟩ := workWidth_eq harea hnarrow
  rw [sizeFromBounds] at hsubWidth hsubHeight
  rw [calculateSettingsWindowPlacementFromBounds, hmonitor]
  simp only [minTrackSize_eq harea hnarrow hdpi, hworkWidth, hworkHeight, Option.bind_eq_bind,
    Option.bind_some, hsubWidth, hsubHeight]
  rfl

theorem placementFromBounds_usable (harea : WorkAreaInRange monitor.workArea)
    (hnarrow : Narrow monitor.workArea) (hdpi : DpiInRange monitor.dpi) (position : Point)
    (size : Size) (persistedDpi : Nat) :
    Usable (placementFromBounds monitor position size persistedDpi) := by
  obtain ⟨⟨hleastWidth, hmostWidth⟩, hleastHeight, hmostHeight⟩ :=
    sizeFromBounds_bounds monitor size persistedDpi
  exact usable_of_sides harea hnarrow hdpi hleastWidth hmostWidth hleastHeight hmostHeight rfl

/-- A placement restores a saved rectangle on a monitor. -/
structure Restores (monitor : Monitor) (size : Size) (persistedDpi : Nat)
    (placement : SettingsWindowPlacement) : Prop where
  workArea : placement.workArea = monitor.workArea
  dpi : placement.dpi = monitor.dpi
  usable : Usable placement
  /-- Its size is the saved one, scaled exactly, rounded to the nearest and clamped, -/
  width : placement.size.cx = restored (scaled size.cx monitor.dpi persistedDpi)
    (minimumWidth monitor.dpi) (monitor.workArea.right - monitor.workArea.left)
  height : placement.size.cy = restored (scaled size.cy monitor.dpi persistedDpi)
    (minimumHeight monitor.dpi) (monitor.workArea.bottom - monitor.workArea.top)
  /-- and it is restored as it is. -/
  again : ∀ monitorFromRect : Rect → Monitor,
    monitorFromRect (desiredRect placement.position placement.size) = monitor →
    calculateSettingsWindowPlacementFromBounds monitorFromRect placement.position placement.size
      placement.dpi = some placement

/-- The saved rectangle is restored, and no computation overflows. -/
def RestoredFromBounds (monitorFromRect : Rect → Monitor) (position : Point) (size : Size)
    (persistedDpi : Nat) : Prop :=
  ∃ placement, calculateSettingsWindowPlacementFromBounds monitorFromRect position size
      persistedDpi = some placement ∧
    Restores (monitorFromRect (desiredRect position size)) size persistedDpi placement

theorem scaleSize_eq (hpersisted : DpiInRange persistedDpi) (size : Size) (dpi : Nat) :
    (scaleSize size dpi persistedDpi).cx = (if persistedDpi ≠ dpi then
        max 1 (mulDiv size.cx (toInt32 dpi) (toInt32 persistedDpi)) else size.cx) ∧
      (scaleSize size dpi persistedDpi).cy = if persistedDpi ≠ dpi then
        max 1 (mulDiv size.cy (toInt32 dpi) (toInt32 persistedDpi)) else size.cy := by
  have hzero : (if persistedDpi = 0 then userDefaultScreenDpi else persistedDpi) =
      persistedDpi := if_neg (by have := hpersisted.1; omega)
  rw [scaleSize, hzero]
  split_ifs <;> exact ⟨rfl, rfl⟩

/-- A placement is restored as it is. -/
theorem placementFromBounds_again (harea : WorkAreaInRange monitor.workArea)
    (hnarrow : Narrow monitor.workArea) (hdpi : DpiInRange monitor.dpi) (position : Point)
    (size : Size) (persistedDpi : Nat) :
    placementFromBounds monitor (placementFromBounds monitor position size persistedDpi).position
        (sizeFromBounds monitor size persistedDpi) monitor.dpi =
      placementFromBounds monitor position size persistedDpi := by
  obtain ⟨⟨hleastWidth, hmostWidth⟩, hleastHeight, hmostHeight⟩ :=
    sizeFromBounds_bounds monitor size persistedDpi
  obtain ⟨hwidth, hheight⟩ := harea.sides hnarrow
  have hx := hwidth.clampInt_bounds position.x hmostWidth
  have hy := hheight.clampInt_bounds position.y hmostHeight
  obtain ⟨hcx, hcy⟩ := scaleSize_eq hdpi (sizeFromBounds monitor size persistedDpi) monitor.dpi
  have hsize : sizeFromBounds monitor (sizeFromBounds monitor size persistedDpi) monitor.dpi =
      sizeFromBounds monitor size persistedDpi := by
    rw [if_neg (by simp)] at hcx hcy
    rw [sizeFromBounds, hcx, hcy, clampInt_self hleastWidth hmostWidth,
      clampInt_self hleastHeight hmostHeight]
  rw [placementFromBounds, hsize, placementFromBounds, clampInt_self hx.1 (by omega),
    clampInt_self hy.1 (by omega)]

/-- A saved rectangle is restored unless its scaled size is no 32-bit integer. -/
theorem restoredFromBounds_iff
    (harea : WorkAreaInRange (monitorFromRect (desiredRect position size)).workArea)
    (hdpi : DpiInRange (monitorFromRect (desiredRect position size)).dpi)
    (hpersisted : DpiInRange persistedDpi) :
    RestoredFromBounds monitorFromRect position size persistedDpi ↔
      let monitor := monitorFromRect (desiredRect position size)
      Narrow monitor.workArea ∧
        Scales size.cx monitor.dpi persistedDpi (minimumWidth monitor.dpi)
          (monitor.workArea.right - monitor.workArea.left) ∧
        Scales size.cy monitor.dpi persistedDpi (minimumHeight monitor.dpi)
          (monitor.workArea.bottom - monitor.workArea.top) := by
  obtain ⟨monitor, hmonitor⟩ : ∃ monitor, monitorFromRect (desiredRect position size) = monitor :=
    ⟨_, rfl⟩
  rw [hmonitor] at harea hdpi
  rw [RestoredFromBounds, hmonitor]
  dsimp only
  by_cases hnarrow : Narrow monitor.workArea
  · obtain ⟨hminWidth, -, hminHeight, -⟩ := minimum_bounds hdpi
    have hareaWidth := harea.width
    have hareaHeight := harea.height
    have hwidth := clampInt_scale_iff size.cx hdpi hpersisted hminWidth
      (by omega : 1 ≤ monitor.workArea.right - monitor.workArea.left) hnarrow.1
    have hheight := clampInt_scale_iff size.cy hdpi hpersisted hminHeight
      (by omega : 1 ≤ monitor.workArea.bottom - monitor.workArea.top) hnarrow.2
    obtain ⟨hcx, hcy⟩ := scaleSize_eq hpersisted size monitor.dpi
    rw [← hcx] at hwidth
    rw [← hcy] at hheight
    rw [← hwidth, ← hheight, fromBounds_eq hmonitor harea hnarrow hdpi]
    constructor
    · rintro ⟨_, ⟨⟩, hrestores⟩
      exact ⟨hnarrow, hrestores.width, hrestores.height⟩
    · rintro ⟨-, hcx, hcy⟩
      refine ⟨_, rfl, rfl, rfl, placementFromBounds_usable harea hnarrow hdpi _ _ _, hcx, hcy, ?_⟩
      intro find hfind
      exact (fromBounds_eq hfind harea hnarrow hdpi).trans
        (congrArg some (placementFromBounds_again harea hnarrow hdpi _ _ _))
  · refine iff_of_false ?_ fun hboth => hnarrow hboth.1
    rintro ⟨placement, hplacement, -⟩
    rw [calculateSettingsWindowPlacementFromBounds, hmonitor] at hplacement
    dsimp only at hplacement
    rw [minTrackSize_overflow hnarrow] at hplacement
    cases hplacement

end

/-! ## A size and a base placement -/

section
variable {basePlacement : SettingsWindowPlacement} {first last extent : Int}

/-- A usable placement in the work area and with the dpi of the base placement. -/
structure UsableFor (basePlacement placement : SettingsWindowPlacement) : Prop
    extends Usable placement where
  workArea : placement.workArea = basePlacement.workArea
  dpi : placement.dpi = basePlacement.dpi

/-- A size is restored, and no computation overflows. -/
def RestoredFromSize (size : Size) (persistedDpi : Nat)
    (basePlacement : SettingsWindowPlacement) : Prop :=
  ∃ placement, calculateSettingsWindowPlacementFromSize size persistedDpi basePlacement =
    some placement ∧ UsableFor basePlacement placement

/-- A size is placed, and no computation overflows. -/
def PlacedForSize (size : Size) (basePlacement : SettingsWindowPlacement) : Prop :=
  ∃ placement, calculateSettingsWindowPlacementForSize size basePlacement = some placement ∧
    UsableFor basePlacement placement

/-- A restored extent: not less than the minimum, nor more than the work area, nor more than the
larger one of the minimum and of the base placement's extent. -/
def restoredExtent (value minimum extent baseExtent : Int) : Int :=
  clampInt value (min minimum extent) (min extent (max (min minimum extent) baseExtent))

theorem restoredExtent_bounds (value minimum extent baseExtent : Int) :
    min minimum extent ≤ restoredExtent value minimum extent baseExtent ∧
      restoredExtent value minimum extent baseExtent ≤ extent ∧
      restoredExtent value minimum extent baseExtent ≤ max (min minimum extent) baseExtent := by
  have hbounds := clampInt_bounds value
    (show min minimum extent ≤ min extent (max (min minimum extent) baseExtent) by omega)
  rw [restoredExtent]
  omega

/-- The end of the base placement, less the restored extent, does not overflow. -/
theorem Side.end_eq (h : Side first last) (extent : Int) {start baseExtent : Int}
    (hstart : first ≤ start) (hend : start + baseExtent ≤ last) (hnonneg : 0 ≤ baseExtent) (hextent : 0 ≤ extent)
    (hmost : extent ≤ max 4800 baseExtent) :
    add32 start baseExtent = some (start + baseExtent) ∧
      sub32 (start + baseExtent) extent = some (start + baseExtent - extent) := by
  obtain ⟨hlt, hfirst, hlast, hnarrow⟩ := h
  exact ⟨add32_eq ⟨by omega, by omega⟩, PlaybackConnector.sub32_eq ⟨by omega, by omega⟩⟩

theorem restoredFromSize_iff (size : Size) (persistedDpi : Nat) (hbase : InWorkArea basePlacement)
    (harea : WorkAreaInRange basePlacement.workArea) (hdpi : DpiInRange basePlacement.dpi) :
    RestoredFromSize size persistedDpi basePlacement ↔ Narrow basePlacement.workArea := by
  by_cases hnarrow : Narrow basePlacement.workArea
  · refine iff_of_true ?_ hnarrow
    obtain ⟨hminWidth, hmaxWidth, hminHeight, hmaxHeight⟩ := minimum_bounds hdpi
    obtain ⟨hside, hside'⟩ := harea.sides hnarrow
    have hlt := hside.lt
    have hlt' := hside'.lt
    obtain ⟨hworkWidth, hworkHeight⟩ := workWidth_eq harea hnarrow
    obtain ⟨width, hwidth⟩ : ∃ width, width = restoredExtent
      (scaleSize size basePlacement.dpi persistedDpi).cx (minimumWidth basePlacement.dpi)
      (basePlacement.workArea.right - basePlacement.workArea.left) basePlacement.size.cx := ⟨_, rfl⟩
    obtain ⟨height, hheight⟩ : ∃ height, height = restoredExtent
      (scaleSize size basePlacement.dpi persistedDpi).cy (minimumHeight basePlacement.dpi)
      (basePlacement.workArea.bottom - basePlacement.workArea.top) basePlacement.size.cy :=
      ⟨_, rfl⟩
    obtain ⟨hleast, hmost, hbaseMost⟩ := hwidth ▸ restoredExtent_bounds ..
    obtain ⟨hleast', hmost', hbaseMost'⟩ := hheight ▸ restoredExtent_bounds ..
    have hsub := hside.sub32_eq (by omega) hmost
    have hsub' := hside'.sub32_eq (by omega) hmost'
    obtain ⟨hend, hplace⟩ := hside.end_eq width hbase.left hbase.right hbase.width
      (by omega) (by omega)
    obtain ⟨hend', hplace'⟩ := hside'.end_eq height hbase.top hbase.bottom hbase.height
      (by omega) (by omega)
    rw [restoredExtent] at hwidth hheight
    have husable : Usable {
        position := {
          x := clampInt (basePlacement.position.x + basePlacement.size.cx - width)
            basePlacement.workArea.left (basePlacement.workArea.right - width)
          y := clampInt (basePlacement.position.y + basePlacement.size.cy - height)
            basePlacement.workArea.top (basePlacement.workArea.bottom - height) }
        size := { cx := width, cy := height }
        workArea := basePlacement.workArea
        dpi := basePlacement.dpi } :=
      usable_of_sides harea hnarrow hdpi hleast hmost hleast' hmost' rfl
    refine ⟨_, ?_, husable, rfl, rfl⟩
    rw [calculateSettingsWindowPlacementFromSize]
    simp only [minTrackSize_eq harea hnarrow hdpi, hworkWidth, hworkHeight, Option.bind_eq_bind,
      Option.bind_some, ← hwidth, ← hheight, hsub, hsub', hend, hend', hplace, hplace']
    rfl
  · refine iff_of_false ?_ hnarrow
    rintro ⟨placement, hplacement, -⟩
    rw [calculateSettingsWindowPlacementFromSize] at hplacement
    dsimp only at hplacement
    rw [minTrackSize_overflow hnarrow] at hplacement
    cases hplacement

theorem Side.margin_eq (h : Side first last) {dpi : Nat} (hdpi : DpiInRange dpi)
    (hextent : 0 ≤ extent) (hmost : extent ≤ last - first) :
    sub32 (last - extent) (dipToPixel settingsWindowEdgeMarginDip dpi) =
      some (last - extent - dipToPixel settingsWindowEdgeMarginDip dpi) := by
  obtain ⟨-, hleast, hmargin⟩ := dipToPixel_eq hdpi settingsWindowEdgeMarginDip (by decide)
    (by decide)
  obtain ⟨hlt, hfirst, hlast, hnarrow⟩ := h
  exact PlaybackConnector.sub32_eq ⟨by omega, by omega⟩

theorem placedForSize_iff (size : Size) (harea : WorkAreaInRange basePlacement.workArea)
    (hdpi : DpiInRange basePlacement.dpi) :
    PlacedForSize size basePlacement ↔ Narrow basePlacement.workArea := by
  have hzero : (if basePlacement.dpi = 0 then userDefaultScreenDpi else basePlacement.dpi) =
      basePlacement.dpi := if_neg (by have := hdpi.1; omega)
  by_cases hnarrow : Narrow basePlacement.workArea
  · refine iff_of_true ?_ hnarrow
    obtain ⟨hminWidth, -, hminHeight, -⟩ := minimum_bounds hdpi
    obtain ⟨hside, hside'⟩ := harea.sides hnarrow
    have hlt := hside.lt
    have hlt' := hside'.lt
    obtain ⟨hworkWidth, hworkHeight⟩ := workWidth_eq harea hnarrow
    obtain ⟨width, hwidth⟩ : ∃ width, width = clampInt size.cx
      (min (minimumWidth basePlacement.dpi)
        (basePlacement.workArea.right - basePlacement.workArea.left))
      (basePlacement.workArea.right - basePlacement.workArea.left) := ⟨_, rfl⟩
    obtain ⟨height, hheight⟩ : ∃ height, height = clampInt size.cy
      (min (minimumHeight basePlacement.dpi)
        (basePlacement.workArea.bottom - basePlacement.workArea.top))
      (basePlacement.workArea.bottom - basePlacement.workArea.top) := ⟨_, rfl⟩
    obtain ⟨hleast, hmost⟩ := hwidth ▸ clampInt_bounds size.cx (min_le_right _ _)
    obtain ⟨hleast', hmost'⟩ := hheight ▸ clampInt_bounds size.cy (min_le_right _ _)
    have hsub := hside.sub32_eq (by omega) hmost
    have hsub' := hside'.sub32_eq (by omega) hmost'
    have hmargin := hside.margin_eq hdpi (by omega) hmost
    have hmargin' := hside'.margin_eq hdpi (by omega) hmost'
    have husable : Usable {
        position := {
          x := clampInt (basePlacement.workArea.right - width -
              dipToPixel settingsWindowEdgeMarginDip basePlacement.dpi)
            basePlacement.workArea.left (basePlacement.workArea.right - width)
          y := clampInt (basePlacement.workArea.bottom - height -
              dipToPixel settingsWindowEdgeMarginDip basePlacement.dpi)
            basePlacement.workArea.top (basePlacement.workArea.bottom - height) }
        size := { cx := width, cy := height }
        workArea := basePlacement.workArea
        dpi := basePlacement.dpi } :=
      usable_of_sides harea hnarrow hdpi hleast hmost hleast' hmost' rfl
    refine ⟨_, ?_, husable, rfl, rfl⟩
    rw [calculateSettingsWindowPlacementForSize]
    simp only [hzero, minTrackSize_eq harea hnarrow hdpi, hworkWidth, hworkHeight,
      Option.bind_eq_bind, Option.bind_some, ← hwidth, ← hheight,
      calculateBottomRightWindowPosition, hsub, hsub', hmargin, hmargin']
    rfl
  · refine iff_of_false ?_ hnarrow
    rintro ⟨placement, hplacement, -⟩
    rw [calculateSettingsWindowPlacementForSize] at hplacement
    dsimp only at hplacement
    rw [minTrackSize_overflow hnarrow] at hplacement
    cases hplacement

end

/-! ## Placements are usable -/

/-- On a monitor whose work area is not empty, with the scales that the code is used with: a saved
rectangle is restored if and only if the width and the height of the work area are 32-bit integers,
and so is each scaled side of the saved rectangle, where it is scaled and the work area leaves a
choice; and a size is restored into the work area of its base placement, and placed there, if and
only if the former holds. -/
theorem placements_usable_iff (monitorFromRect : Rect → Monitor) (position : Point) (size : Size)
    (persistedDpi : Nat) (monitor : Monitor)
    (hmonitor : monitorFromRect (desiredRect position size) = monitor)
    (harea : WorkAreaInRange monitor.workArea) (hdpi : DpiInRange monitor.dpi)
    (hpersisted : DpiInRange persistedDpi) (basePlacement : SettingsWindowPlacement)
    (hbaseArea : WorkAreaInRange basePlacement.workArea) (hbaseDpi : DpiInRange basePlacement.dpi)
    (hbase : InWorkArea basePlacement) :
    (RestoredFromBounds monitorFromRect position size persistedDpi ↔
      Narrow monitor.workArea ∧
        Scales size.cx monitor.dpi persistedDpi (minimumWidth monitor.dpi)
          (monitor.workArea.right - monitor.workArea.left) ∧
        Scales size.cy monitor.dpi persistedDpi (minimumHeight monitor.dpi)
          (monitor.workArea.bottom - monitor.workArea.top)) ∧
    (RestoredFromSize size persistedDpi basePlacement ↔ Narrow basePlacement.workArea) ∧
    (PlacedForSize size basePlacement ↔ Narrow basePlacement.workArea) := by
  subst hmonitor
  exact ⟨restoredFromBounds_iff harea hdpi hpersisted,
    restoredFromSize_iff size persistedDpi hbase hbaseArea hbaseDpi,
    placedForSize_iff size hbaseArea hbaseDpi⟩

/-- A monitor with 192 dpi. -/
def largeMonitor : Monitor where
  workArea := {
    left := 0
    top := 0
    right := 3840
    bottom := 2080 }
  dpi := 192

/-- A placement in its corner. -/
def largePlacement : SettingsWindowPlacement where
  position := { x := 2848, y := 1208 }
  size := { cx := 960, cy := 840 }
  workArea := largeMonitor.workArea
  dpi := 192

theorem largeMonitor_inRange :
    WorkAreaInRange largeMonitor.workArea ∧ DpiInRange largeMonitor.dpi := by
  refine ⟨?_, ?_⟩
  · constructor <;> decide
  · constructor <;> decide

/-- A saved rectangle of 600 to 500 pixels at 96 dpi is restored. -/
theorem placements_usable_iff_restored :
    RestoredFromBounds (fun _ => largeMonitor) { x := 100, y := 100 } { cx := 600, cy := 500 }
      96 := by
  obtain ⟨harea, hdpi⟩ := largeMonitor_inRange
  refine (placements_usable_iff (fun _ => largeMonitor) { x := 100, y := 100 }
    { cx := 600, cy := 500 } 96 largeMonitor rfl harea hdpi (by constructor <;> decide)
    largePlacement harea hdpi (by constructor <;> decide)).1.2 ⟨by decide, ?_, ?_⟩
  · refine .inr (.inl ?_)
    rw [scaled_eq _ (by decide) (by decide)]
    decide
  · refine .inr (.inl ?_)
    rw [scaled_eq _ (by decide) (by decide)]
    decide

/-- A saved width that is no 32-bit integer in the pixels of the monitor is taken for the least
width, though the work area is what would be left of it. -/
theorem placements_usable_wide :
    (calculateSettingsWindowPlacementFromBounds (fun _ => largeMonitor) { x := 100, y := 100 }
        { cx := 1500000000, cy := 500 } 96).map (·.size) = some { cx := 960, cy := 1000 } ∧
      restored (scaled 1500000000 largeMonitor.dpi 96) (minimumWidth largeMonitor.dpi)
        (largeMonitor.workArea.right - largeMonitor.workArea.left) = 3840 ∧
      ¬RestoredFromBounds (fun _ => largeMonitor) { x := 100, y := 100 }
        { cx := 1500000000, cy := 500 } 96 := by
  obtain ⟨harea, hdpi⟩ := largeMonitor_inRange
  have hscaled : scaled 1500000000 largeMonitor.dpi 96 = 3000000000 := by
    rw [scaled_eq _ (by decide) (by decide)]
    decide
  have hminimum : minimumWidth largeMonitor.dpi = 960 := by
    rw [minimumWidth, scaled_eq _ (by decide) (by decide)]
    decide
  rw [hscaled, hminimum]
  refine ⟨by decide, by decide, fun hrestored => ?_⟩
  have hscales := ((restoredFromBounds_iff harea hdpi (by constructor <;> decide)).1 hrestored).2.1
  rw [Scales, hscaled, hminimum] at hscales
  revert hscales
  decide

end WindowPlacement

end PlaybackConnector
