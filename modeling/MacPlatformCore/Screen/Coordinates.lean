/-
# Screen coordinates

The engine's screen space has its origin at the top of the desktop with `y`
growing down; Cocoa's has `y` growing up from the bottom. The four mapping
members flip `y` about the desktop height, which `GetDesktopHeight` computes
from the screens' frames on first use and caches until `SetHasDesktopHeight`
clears the cache on a display change.

`CGFloat` is computed exactly here (`ℚ`), and the `int16_t` conversions back to
engine coordinates truncate toward zero; a value that does not fit is
undefined in C++ and `none` here. Within one epoch of the cache, engine to
Cocoa and back is the identity on points and on rectangles whose size fits in
`int16_t` (`mapScreen_round_trip`), whatever the screens do meanwhile.
-/

import Mathlib.Data.Rat.Floor
import MacPlatformCore.Pointer.State

namespace MacPlatformCore

/-- `NSPoint`. -/
structure NSPoint where
  x : ℚ
  y : ℚ
  deriving DecidableEq, Repr

/-- `NSRect`: the origin and the size. -/
structure NSRect where
  origin : NSPoint
  width : ℚ
  height : ℚ
  deriving DecidableEq, Repr

/-- `MCRectangle`: an `int16_t` origin and a `uint16_t` size. -/
structure MCRectangle where
  x : Int
  y : Int
  width : Nat
  height : Nat
  deriving DecidableEq, Repr

/-- A value of `int16_t`. -/
def FitsInt16 (v : Int) : Prop := -32768 ≤ v ∧ v ≤ 32767

instance (v : Int) : Decidable (FitsInt16 v) := inferInstanceAs (Decidable (_ ∧ _))

/-- `MCRectangleMake`, whose size parameters are `uint16_t`. -/
def mcRectangleMake (x y width height : Int) : MCRectangle :=
  ⟨x, y, (width % 65536).toNat, (height % 65536).toNat⟩

/-- `int16_t(v)` of a `CGFloat`: truncation toward zero, or `none` when the result
does not fit, which C++ leaves undefined. -/
def int16OfCGFloat (v : ℚ) : Option Int :=
  let truncated := if 0 ≤ v then ⌊v⌋ else ⌈v⌉
  if FitsInt16 truncated then some truncated else none

/-- `m_have_desktop_height` and `m_desktop_height`. -/
structure DesktopHeightCache where
  haveDesktopHeight : Bool
  desktopHeight : ℚ
  deriving DecidableEq, Repr

/-- `MCMacPlatformCore::GetDesktopHeight`: on first use, the greatest top edge of
the screens' frames (at least zero); then the cached value. -/
def getDesktopHeight (screens : List NSRect) (cache : DesktopHeightCache) :
    ℚ × DesktopHeightCache :=
  if cache.haveDesktopHeight then (cache.desktopHeight, cache)
  else
    let height := screens.foldl (fun height frame =>
      if frame.origin.y + frame.height > height then frame.origin.y + frame.height else height) 0
    (height, ⟨true, height⟩)

/-- `MCMacPlatformCore::SetHasDesktopHeight`. -/
def setHasDesktopHeight (haveDesktopHeight : Bool) (cache : DesktopHeightCache) :
    DesktopHeightCache :=
  { cache with haveDesktopHeight }

/-- `MCMacPlatformCore::MapScreenMCPointToNSPoint`. -/
def mapScreenMCPointToNSPoint (screens : List NSRect) (cache : DesktopHeightCache)
    (p : MCPoint) : NSPoint × DesktopHeightCache :=
  let (height, cache) := getDesktopHeight screens cache
  (⟨p.x, height - p.y⟩, cache)

/-- `MCMacPlatformCore::MapScreenNSPointToMCPoint`. -/
def mapScreenNSPointToMCPoint (screens : List NSRect) (cache : DesktopHeightCache)
    (p : NSPoint) : Option MCPoint × DesktopHeightCache :=
  let (height, cache) := getDesktopHeight screens cache
  (do
    let x ← int16OfCGFloat p.x
    let y ← int16OfCGFloat (height - p.y)
    pure ⟨x, y⟩, cache)

/-- `MCMacPlatformCore::MapScreenMCRectangleToNSRect`; `r.y + r.height` is an
`int` sum. -/
def mapScreenMCRectangleToNSRect (screens : List NSRect) (cache : DesktopHeightCache)
    (r : MCRectangle) : NSRect × DesktopHeightCache :=
  let (height, cache) := getDesktopHeight screens cache
  (⟨⟨r.x, height - (r.y + r.height)⟩, r.width, r.height⟩, cache)

/-- `MCMacPlatformCore::MapScreenNSRectToMCRectangle`. -/
def mapScreenNSRectToMCRectangle (screens : List NSRect) (cache : DesktopHeightCache)
    (r : NSRect) : Option MCRectangle × DesktopHeightCache :=
  let (height, cache) := getDesktopHeight screens cache
  (do
    let x ← int16OfCGFloat r.origin.x
    let y ← int16OfCGFloat (height - (r.origin.y + r.height))
    let width ← int16OfCGFloat r.width
    let height ← int16OfCGFloat r.height
    pure (mcRectangleMake x y width height), cache)

/-! ## One epoch of the cache -/

theorem getDesktopHeight_of_have {screens : List NSRect} {cache : DesktopHeightCache}
    (h : cache.haveDesktopHeight = true) :
    getDesktopHeight screens cache = (cache.desktopHeight, cache) := by
  simp [getDesktopHeight, h]

/-- After a read the cache is full and holds the value read. -/
theorem getDesktopHeight_snd (screens : List NSRect) (cache : DesktopHeightCache) :
    (getDesktopHeight screens cache).2 = ⟨true, (getDesktopHeight screens cache).1⟩ := by
  unfold getDesktopHeight
  split_ifs with h
  · cases cache
    simp_all
  · rfl

/-- Every later read of the epoch, whatever the screens are then, gives the
value of the first. -/
theorem getDesktopHeight_cached (screens screens' : List NSRect) (cache : DesktopHeightCache) :
    getDesktopHeight screens' (getDesktopHeight screens cache).2 =
      ((getDesktopHeight screens cache).1, (getDesktopHeight screens cache).2) := by
  rw [getDesktopHeight_of_have (by rw [getDesktopHeight_snd])]
  exact Prod.ext
    (congrArg DesktopHeightCache.desktopHeight (getDesktopHeight_snd screens cache)) rfl

/-- `int16_t` of an integral `CGFloat` in range is that integer. -/
theorem int16OfCGFloat_intCast {v : Int} (hv : FitsInt16 v) : int16OfCGFloat v = some v := by
  unfold int16OfCGFloat
  split_ifs with hsign <;> simp_all

/-! ## The round trip -/

/-- Engine to Cocoa and back, both mappings reading the desktop height of one
epoch of the cache: every `MCPoint` comes back, and so does every `MCRectangle`
whose size fits in `int16_t`. -/
theorem mapScreen_round_trip (screens screens' : List NSRect) (cache : DesktopHeightCache)
    (p : MCPoint) (r : MCRectangle) (hp : FitsInt16 p.x ∧ FitsInt16 p.y)
    (hr : FitsInt16 r.x ∧ FitsInt16 r.y ∧ r.width ≤ 32767 ∧ r.height ≤ 32767) :
    mapScreenNSPointToMCPoint screens' (mapScreenMCPointToNSPoint screens cache p).2
        (mapScreenMCPointToNSPoint screens cache p).1 =
      (some p, (mapScreenMCPointToNSPoint screens cache p).2) ∧
    mapScreenNSRectToMCRectangle screens' (mapScreenMCRectangleToNSRect screens cache r).2
        (mapScreenMCRectangleToNSRect screens cache r).1 =
      (some r, (mapScreenMCRectangleToNSRect screens cache r).2) := by
  obtain ⟨hx, hy⟩ := hp
  obtain ⟨hrx, hry, hwidth, hheight⟩ := hr
  have hfits : ∀ n : Nat, n ≤ 32767 → int16OfCGFloat n = some (n : Int) := fun n hn => by
    exact_mod_cast @int16OfCGFloat_intCast n ⟨by omega, by omega⟩
  -- the rectangle's origin moves to its bottom edge and back
  have hbottom : ∀ height : ℚ, height - (height - (r.y + r.height) + r.height) = r.y :=
    fun height => by ring
  simp only [mapScreenNSPointToMCPoint, mapScreenMCPointToNSPoint, mapScreenNSRectToMCRectangle,
    mapScreenMCRectangleToNSRect, getDesktopHeight_cached, sub_sub_cancel, hbottom,
    int16OfCGFloat_intCast hx, int16OfCGFloat_intCast hy,
    int16OfCGFloat_intCast hrx, int16OfCGFloat_intCast hry, hfits _ hwidth, hfits _ hheight]
  refine ⟨rfl, ?_⟩
  simp [mcRectangleMake,
    Int.emod_eq_of_lt (Int.ofNat_nonneg _) (by omega : (r.width : Int) < 65536),
    Int.emod_eq_of_lt (Int.ofNat_nonneg _) (by omega : (r.height : Int) < 65536)]

/-- A point and a rectangle through an empty cache. -/
theorem mapScreen_round_trip_fresh :
    (FitsInt16 (MCPoint.x ⟨3, -4⟩) ∧ FitsInt16 (MCPoint.y ⟨3, -4⟩)) ∧
      (FitsInt16 (MCRectangle.x ⟨1, 2, 30, 40⟩) ∧ FitsInt16 (MCRectangle.y ⟨1, 2, 30, 40⟩) ∧
        MCRectangle.width ⟨1, 2, 30, 40⟩ ≤ 32767 ∧ MCRectangle.height ⟨1, 2, 30, 40⟩ ≤ 32767) ∧
      mapScreenNSPointToMCPoint [] (mapScreenMCPointToNSPoint [⟨⟨0, 0⟩, 800, 600⟩] ⟨false, 0⟩
          ⟨3, -4⟩).2 (mapScreenMCPointToNSPoint [⟨⟨0, 0⟩, 800, 600⟩] ⟨false, 0⟩ ⟨3, -4⟩).1 =
        (some ⟨3, -4⟩, (mapScreenMCPointToNSPoint [⟨⟨0, 0⟩, 800, 600⟩] ⟨false, 0⟩ ⟨3, -4⟩).2) :=
  ⟨⟨by decide, by decide⟩, ⟨by decide, by decide, by decide, by decide⟩,
    (mapScreen_round_trip [⟨⟨0, 0⟩, 800, 600⟩] [] ⟨false, 0⟩ ⟨3, -4⟩ ⟨1, 2, 30, 40⟩
      ⟨by decide, by decide⟩ ⟨by decide, by decide, by decide, by decide⟩).1⟩

end MacPlatformCore
