/-
# Screens, the pointer and the window under it

`GetScreenViewport` and `GetScreenWorkarea` map a screen's frame and visible
frame into engine coordinates by the flip about the desktop height, the highest
top edge of all the screens. No screen reaches above that edge, so the top of
every viewport, and of every workarea inside its frame, is at `y ≥ 0`
(`screenRects_below_desktop_top`).

`GetWindowAtPoint` asks the window server for the window at a point and then
checks the point against that window's content rectangle grown by one in width
and height. On integral geometry an engine point passes exactly when it lies in
the content rectangle with all four edges counted in
(`getWindowAtPoint_inclusive`).

`SetMousePosition` hands the engine point to `CGWarpMouseCursorPosition`
unchanged. Quartz's global display coordinates start at the top of the main
display (the first screen) with `y` growing down, while the engine's start at
the top of the desktop. A point set and read back with `GetMousePosition` comes
back lower by the height the desktop reaches above the main display
(`getMousePosition_after_setMousePosition`), which is zero only when no screen
stands above the main one.

`NSPointInRect` and the warp are Cocoa's and Quartz's, as their documentation
gives them; the window server's choice of window is an argument.
-/

import MacPlatformCore.Screen.Coordinates

namespace MacPlatformCore

/-- `NSMaxY`: the top edge of a rectangle in Cocoa's coordinates. -/
def NSRect.maxY (r : NSRect) : ℚ := r.origin.y + r.height

/-- An `NSScreen`: its `frame`, and its `visibleFrame` without the menu bar and
the Dock. -/
structure NSScreen where
  frame : NSRect
  visibleFrame : NSRect
  deriving DecidableEq, Repr

/-- The frames of `[NSScreen screens]`, which `GetDesktopHeight` reads. -/
def screenFrames (screens : List NSScreen) : List NSRect := screens.map NSScreen.frame

/-! ## Viewports and workareas -/

/-- `MCMacPlatformCore::GetScreenViewport`; `none` past the last screen, where
`objectAtIndex:` raises. -/
def getScreenViewport (screens : List NSScreen) (cache : DesktopHeightCache) (p_index : Nat) :
    Option (Option MCRectangle × DesktopHeightCache) :=
  screens[p_index]?.map fun screen =>
    mapScreenNSRectToMCRectangle (screenFrames screens) cache screen.frame

/-- `MCMacPlatformCore::GetScreenWorkarea`. -/
def getScreenWorkarea (screens : List NSScreen) (cache : DesktopHeightCache) (p_index : Nat) :
    Option (Option MCRectangle × DesktopHeightCache) :=
  screens[p_index]?.map fun screen =>
    mapScreenNSRectToMCRectangle (screenFrames screens) cache screen.visibleFrame

/-- One turn of the loop of `GetDesktopHeight`. -/
def raiseToTop (height : ℚ) (frame : NSRect) : ℚ :=
  if frame.origin.y + frame.height > height then frame.origin.y + frame.height else height

/-- The loop never lowers the height and ends at or above every top edge. -/
theorem le_foldl_raiseToTop (frames : List NSRect) (init : ℚ) :
    init ≤ frames.foldl raiseToTop init ∧
      ∀ frame ∈ frames, frame.maxY ≤ frames.foldl raiseToTop init := by
  induction frames generalizing init with
  | nil => simp
  | cons frame rest ih =>
    obtain ⟨hinit, hrest⟩ := ih (raiseToTop init frame)
    have hraise : init ≤ raiseToTop init frame ∧ frame.maxY ≤ raiseToTop init frame := by
      unfold raiseToTop NSRect.maxY
      split_ifs <;> constructor <;> linarith
    exact ⟨hraise.1.trans hinit, by
      simpa [List.forall_mem_cons] using ⟨hraise.2.trans hinit, hrest⟩⟩

/-- Every screen's top edge is at or below the desktop height. -/
theorem maxY_le_desktopHeight {frames : List NSRect} {frame : NSRect} (hframe : frame ∈ frames)
    (height : ℚ) : frame.maxY ≤ (getDesktopHeight frames ⟨false, height⟩).1 :=
  (le_foldl_raiseToTop frames 0).2 frame hframe

/-- `int16_t` of a non-negative `CGFloat` is non-negative. -/
theorem int16OfCGFloat_nonneg {v : ℚ} {n : Int} (hv : 0 ≤ v) (h : int16OfCGFloat v = some n) :
    0 ≤ n := by
  simp only [int16OfCGFloat, hv, if_true, Option.ite_none_right_eq_some, Option.some.injEq] at h
  exact h.2 ▸ Int.floor_nonneg.mpr hv

/-- The top edge of a mapped rectangle is the flip of the Cocoa top edge. -/
theorem mapScreenNSRectToMCRectangle_y {frames : List NSRect}
    {cache c : DesktopHeightCache} {rect : NSRect} {r : MCRectangle}
    (h : mapScreenNSRectToMCRectangle frames cache rect = (some r, c)) :
    int16OfCGFloat ((getDesktopHeight frames cache).1 - rect.maxY) = some r.y := by
  simp only [mapScreenNSRectToMCRectangle, Prod.mk.injEq, Option.bind_eq_bind,
    Option.bind_eq_some, Option.pure_def, Option.some.injEq] at h
  obtain ⟨⟨_, _, y, hy, _, _, _, _, rfl⟩, -⟩ := h
  exact hy

/-- A rectangle whose top edge is at or below the desktop height maps to an
engine rectangle at `y ≥ 0`. -/
theorem mapScreenNSRectToMCRectangle_y_nonneg {frames : List NSRect}
    {cache c : DesktopHeightCache} {rect : NSRect} {r : MCRectangle}
    (htop : rect.maxY ≤ (getDesktopHeight frames cache).1)
    (h : mapScreenNSRectToMCRectangle frames cache rect = (some r, c)) : 0 ≤ r.y :=
  int16OfCGFloat_nonneg (sub_nonneg.mpr htop) (mapScreenNSRectToMCRectangle_y h)

/-- Read with the desktop height of the screens themselves, every viewport has
its top edge at `y ≥ 0`: no screen reaches above the engine's origin. So has
every workarea, when each lies inside its screen's frame. -/
theorem screenRects_below_desktop_top (screens : List NSScreen) (cache : DesktopHeightCache)
    (hcache : (getDesktopHeight (screenFrames screens) cache).1 =
      (getDesktopHeight (screenFrames screens) ⟨false, 0⟩).1)
    (p_index : Nat) (r : MCRectangle) (c : DesktopHeightCache) :
    (getScreenViewport screens cache p_index = some (some r, c) → 0 ≤ r.y) ∧
      ((∀ screen ∈ screens, screen.visibleFrame.maxY ≤ screen.frame.maxY) →
        getScreenWorkarea screens cache p_index = some (some r, c) → 0 ≤ r.y) := by
  cases hscreen : screens[p_index]? with
  | none => simp [getScreenViewport, getScreenWorkarea, hscreen]
  | some screen =>
    have hmem : screen ∈ screens := List.getElem?_mem hscreen
    have htop : screen.frame.maxY ≤ (getDesktopHeight (screenFrames screens) cache).1 :=
      hcache ▸ maxY_le_desktopHeight (List.mem_map_of_mem _ hmem) 0
    simp only [getScreenViewport, getScreenWorkarea, hscreen, Option.map_some', Option.some.injEq]
    exact ⟨mapScreenNSRectToMCRectangle_y_nonneg htop, fun hvisible =>
      mapScreenNSRectToMCRectangle_y_nonneg ((hvisible screen hmem).trans htop)⟩

/-- An 800 by 600 main display with a 22-point menu bar. -/
def mainDisplay : NSScreen := ⟨⟨⟨0, 0⟩, 800, 600⟩, ⟨⟨0, 0⟩, 800, 578⟩⟩

/-- A 1024 by 768 display under the main one. -/
def displayBelow : NSScreen := ⟨⟨⟨0, -768⟩, 1024, 768⟩, ⟨⟨0, -768⟩, 1024, 768⟩⟩

/-- The main display, with a display under it, read through an empty cache: its
viewport starts at the top of the desktop, its workarea under the menu bar. -/
theorem screenRects_below_desktop_top_main :
    (getDesktopHeight (screenFrames [mainDisplay, displayBelow]) ⟨false, 0⟩).1 =
      (getDesktopHeight (screenFrames [mainDisplay, displayBelow]) ⟨false, 0⟩).1 ∧
    (∀ screen ∈ [mainDisplay, displayBelow], screen.visibleFrame.maxY ≤ screen.frame.maxY) ∧
    getScreenViewport [mainDisplay, displayBelow] ⟨false, 0⟩ 0 =
      some (some ⟨0, 0, 800, 600⟩, ⟨true, 600⟩) ∧
    getScreenWorkarea [mainDisplay, displayBelow] ⟨false, 0⟩ 0 =
      some (some ⟨0, 22, 800, 578⟩, ⟨true, 600⟩) ∧
    0 ≤ (⟨0, 0, 800, 600⟩ : MCRectangle).y ∧ 0 ≤ (⟨0, 22, 800, 578⟩ : MCRectangle).y :=
  have hvisible : ∀ screen ∈ [mainDisplay, displayBelow],
      screen.visibleFrame.maxY ≤ screen.frame.maxY := by
    norm_num [mainDisplay, displayBelow, NSRect.maxY]
  have hviewport : getScreenViewport [mainDisplay, displayBelow] ⟨false, 0⟩ 0 =
      some (some ⟨0, 0, 800, 600⟩, ⟨true, 600⟩) := by
    simp only [getScreenViewport, mapScreenNSRectToMCRectangle, getDesktopHeight, screenFrames,
      mainDisplay, displayBelow, List.getElem?_cons_zero, Option.map_some', List.map_cons,
      List.map_nil, List.foldl_cons, List.foldl_nil]
    norm_num [int16OfCGFloat, FitsInt16, mcRectangleMake]
    decide
  have hworkarea : getScreenWorkarea [mainDisplay, displayBelow] ⟨false, 0⟩ 0 =
      some (some ⟨0, 22, 800, 578⟩, ⟨true, 600⟩) := by
    simp only [getScreenWorkarea, mapScreenNSRectToMCRectangle, getDesktopHeight, screenFrames,
      mainDisplay, displayBelow, List.getElem?_cons_zero, Option.map_some', List.map_cons,
      List.map_nil, List.foldl_cons, List.foldl_nil]
    norm_num [int16OfCGFloat, FitsInt16, mcRectangleMake]
    decide
  ⟨rfl, hvisible, hviewport, hworkarea,
    (screenRects_below_desktop_top _ ⟨false, 0⟩ rfl 0 _ _).1 hviewport,
    (screenRects_below_desktop_top _ ⟨false, 0⟩ rfl 0 _ _).2 hvisible hworkarea⟩

/-! ## The window under a point -/

/-- What the window server reports of the window `windowNumberAtPoint:` names:
the content rectangle of its frame (of its `movingFrame` while it moves), and
the platform window of its delegate when that is an `MCWindowDelegate`. -/
structure WindowAtPoint where
  contentRect : NSRect
  platformWindow : Option Window
  deriving DecidableEq, Repr

/-- `NSPointInRect` in Cocoa's unflipped coordinates: the left and bottom edges
are in, the right and top edges out. -/
def nsPointInRect (p : NSPoint) (r : NSRect) : Bool :=
  decide (r.origin.x ≤ p.x ∧ p.x < r.origin.x + r.width ∧
    r.origin.y ≤ p.y ∧ p.y < r.origin.y + r.height)

/-- `MCMacPlatformCore::GetWindowAtPoint`; `windowNumberAtPoint` is the window
server's answer at a Cocoa point. -/
def getWindowAtPoint (screens : List NSRect) (cache : DesktopHeightCache)
    (windowNumberAtPoint : NSPoint → Option WindowAtPoint) (p_loc : MCPoint) :
    Option Window × DesktopHeightCache :=
  let (loc, cache) := mapScreenMCPointToNSPoint screens cache p_loc
  match windowNumberAtPoint loc with
  | none => (none, cache)
  | some window =>
    let rect := window.contentRect
    let rect := { rect with width := rect.width + 1, height := rect.height + 1 }
    (if nsPointInRect loc rect then window.platformWindow else none, cache)

/-- With an integral desktop height and content rectangle, the window at an
engine point is reported exactly when the point lies in the content rectangle
with all four edges counted in: from its left edge `x` to its right edge
`x + width`, from its top edge `height - (y + h)` to its bottom edge
`height - y` in engine coordinates. -/
theorem getWindowAtPoint_inclusive (screens : List NSRect) (cache : DesktopHeightCache)
    (windowNumberAtPoint : NSPoint → Option WindowAtPoint) (p_loc : MCPoint)
    (window : WindowAtPoint) (height x y : Int) (width h : Nat)
    (hheight : (getDesktopHeight screens cache).1 = height)
    (hwindow : windowNumberAtPoint (mapScreenMCPointToNSPoint screens cache p_loc).1 = some window)
    (hrect : window.contentRect = ⟨⟨x, y⟩, width, h⟩) :
    (getWindowAtPoint screens cache windowNumberAtPoint p_loc).1 =
      if x ≤ p_loc.x ∧ p_loc.x ≤ x + width ∧
          height - (y + h) ≤ p_loc.y ∧ p_loc.y ≤ height - y
      then window.platformWindow else none := by
  have hiff : ((x : ℚ) ≤ p_loc.x ∧ (p_loc.x : ℚ) < x + ((width : ℚ) + 1) ∧
      (y : ℚ) ≤ height - p_loc.y ∧ (height : ℚ) - p_loc.y < y + ((h : ℚ) + 1)) ↔
      (x ≤ p_loc.x ∧ p_loc.x ≤ x + width ∧
        height - (y + h) ≤ p_loc.y ∧ p_loc.y ≤ height - y) := by
    norm_cast
    omega
  simp only [mapScreenMCPointToNSPoint, hheight] at hwindow
  simp only [getWindowAtPoint, mapScreenMCPointToNSPoint, hheight, hwindow, hrect,
    nsPointInRect, decide_eq_true_eq, hiff]

/-- A window whose content spans Cocoa's `x` from 10 to 110 and `y` from 20 to 70. -/
def paletteAt : NSPoint → Option WindowAtPoint := fun _ => some ⟨⟨⟨10, 20⟩, 100, 50⟩, some 1⟩

/-- On the 600-point main display that window's content spans engine columns 10
to 110 and rows 530 to 580: the corner (110, 530) is in. -/
theorem getWindowAtPoint_corner :
    (getDesktopHeight (screenFrames [mainDisplay]) ⟨false, 0⟩).1 = (600 : Int) ∧
    paletteAt (mapScreenMCPointToNSPoint (screenFrames [mainDisplay]) ⟨false, 0⟩ ⟨110, 530⟩).1 =
      some ⟨⟨⟨10, 20⟩, 100, 50⟩, some 1⟩ ∧
    WindowAtPoint.contentRect ⟨⟨⟨10, 20⟩, 100, 50⟩, some 1⟩ =
      ⟨⟨((10 : Int) : ℚ), ((20 : Int) : ℚ)⟩, ((100 : Nat) : ℚ), ((50 : Nat) : ℚ)⟩ ∧
    (getWindowAtPoint (screenFrames [mainDisplay]) ⟨false, 0⟩ paletteAt ⟨110, 530⟩).1 =
      if (10 : Int) ≤ 110 ∧ (110 : Int) ≤ 10 + (100 : Nat) ∧
          (600 : Int) - (20 + (50 : Nat)) ≤ 530 ∧ (530 : Int) ≤ 600 - 20
      then some 1 else none :=
  have hheight : (getDesktopHeight (screenFrames [mainDisplay]) ⟨false, 0⟩).1 = (600 : Int) := by
    norm_num [getDesktopHeight, screenFrames, mainDisplay]
  have hrect : WindowAtPoint.contentRect ⟨⟨⟨10, 20⟩, 100, 50⟩, some 1⟩ =
      ⟨⟨((10 : Int) : ℚ), ((20 : Int) : ℚ)⟩, ((100 : Nat) : ℚ), ((50 : Nat) : ℚ)⟩ := by
    norm_num
  ⟨hheight, rfl, hrect,
    getWindowAtPoint_inclusive _ _ _ ⟨110, 530⟩ _ 600 10 20 100 50 hheight rfl hrect⟩

/-! ## Setting and reading the pointer -/

/-- `CGPoint`. -/
structure CGPoint where
  x : ℚ
  y : ℚ
  deriving DecidableEq, Repr

/-- `MCMacPlatformCore::SetMousePosition`: the point handed to
`CGWarpMouseCursorPosition`. -/
def setMousePosition (p_location : MCPoint) : CGPoint := ⟨p_location.x, p_location.y⟩

/-- `[NSEvent mouseLocation]` after `CGWarpMouseCursorPosition`: Quartz's global
display coordinates have their origin at the top left of the main display, the
first screen, with `y` growing down. -/
def mouseLocationAfterWarp (main : NSScreen) (point : CGPoint) : NSPoint :=
  ⟨point.x, main.frame.maxY - point.y⟩

/-- `MCMacPlatformCore::GetMousePosition`. -/
def getMousePosition (screens : List NSScreen) (cache : DesktopHeightCache)
    (mouseLocation : NSPoint) : Option MCPoint × DesktopHeightCache :=
  mapScreenNSPointToMCPoint (screenFrames screens) cache mouseLocation

/-- A point set by `SetMousePosition` is read back by `GetMousePosition` lower by
`rise`, the height the desktop reaches above the main display's top edge,
whenever that height is integral and the result fits in `int16_t`. -/
theorem getMousePosition_after_setMousePosition (main : NSScreen) (others : List NSScreen)
    (cache : DesktopHeightCache) (p_location : MCPoint) (rise : Int)
    (hrise : (getDesktopHeight (screenFrames (main :: others)) cache).1 - main.frame.maxY = rise)
    (hfits : FitsInt16 p_location.x ∧ FitsInt16 (p_location.y + rise)) :
    (getMousePosition (main :: others) cache
        (mouseLocationAfterWarp main (setMousePosition p_location))).1 =
      some ⟨p_location.x, p_location.y + rise⟩ := by
  have hy : (getDesktopHeight (screenFrames (main :: others)) cache).1 -
      (main.frame.maxY - p_location.y) = ((p_location.y + rise : Int) : ℚ) := by
    push_cast
    linarith
  simp only [getMousePosition, mapScreenNSPointToMCPoint, mouseLocationAfterWarp,
    setMousePosition, hy, int16OfCGFloat_intCast hfits.1, int16OfCGFloat_intCast hfits.2]
  rfl

/-- An 800 by 600 display standing on top of the main one. -/
def displayAbove : NSScreen := ⟨⟨⟨0, 600⟩, 800, 600⟩, ⟨⟨0, 600⟩, 800, 600⟩⟩

/-- With a display on top of the main one, the pointer set at (10, 10) reads
back at (10, 610). -/
theorem setMousePosition_screen_above_main :
    (getDesktopHeight (screenFrames [mainDisplay, displayAbove]) ⟨false, 0⟩).1 -
        mainDisplay.frame.maxY = (600 : Int) ∧
    (FitsInt16 (MCPoint.x ⟨10, 10⟩) ∧ FitsInt16 (MCPoint.y ⟨10, 10⟩ + 600)) ∧
    (getMousePosition [mainDisplay, displayAbove] ⟨false, 0⟩
        (mouseLocationAfterWarp mainDisplay (setMousePosition ⟨10, 10⟩))).1 =
      some ⟨10, 10 + 600⟩ :=
  have hrise : (getDesktopHeight (screenFrames [mainDisplay, displayAbove]) ⟨false, 0⟩).1 -
      mainDisplay.frame.maxY = (600 : Int) := by
    norm_num [getDesktopHeight, screenFrames, mainDisplay, displayAbove, NSRect.maxY]
  ⟨hrise, ⟨by decide, by decide⟩,
    getMousePosition_after_setMousePosition _ _ _ _ 600 hrise ⟨by decide, by decide⟩⟩

end MacPlatformCore
