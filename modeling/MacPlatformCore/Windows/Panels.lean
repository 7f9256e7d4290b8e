/-
# Panels when the application is deactivated

`applicationWillResignActive:` walks the application's windows from the back
to the front (`reverseObjectEnumerator` over `windowNumbersWithOptions:`). A
window that is not an `MCPanel` is remembered in `t_above_window_id`; a panel
stops floating and is ordered just in front of the window remembered, then is
remembered itself. Going back to front, that window is the one just behind the
panel, so every move puts the panel where it already is: the walk clears the
floating flag of exactly the panels and leaves the stacking order alone
(`applicationWillResignActive_spec`). When the backmost window is a panel, the
first move reads `t_above_window_id` before anything was stored in it.

The list is modelled back to front, without duplicates. Seen that way, ordering
a window in front of another moves it to just after that one, which is what
`orderWindowBelow` of `Windows.Backdrop` does on a front-to-back list; the
unset `t_above_window_id` is `none`, and a move relative to it is `none`.
-/

import MacPlatformCore.Windows.Backdrop

namespace MacPlatformCore

/-- `[window orderWindow: NSWindowAbove relativeTo: below]` on a list kept back
to front: `window` moves to just after `below`. -/
def orderWindowAbove (window below : Window) (backToFront : List Window) :
    Option (List Window) :=
  orderWindowBelow window below backToFront

/-- The loop of `applicationWillResignActive:` over the snapshot `ids`, back to
front, with `t_above_window_id`. Returns the panels whose floating flag was
cleared, in the order of the walk, and the list. -/
def lowerPanels (isPanel : Window → Bool) :
    Option Window → List Window → List Window → Option (List Window × List Window)
  | _, [], windows => some ([], windows)
  | above, window :: ids, windows =>
    if !isPanel window then lowerPanels isPanel (some window) ids windows
    else
      match above with
      | none => none
      | some above =>
        (orderWindowAbove window above windows).bind fun windows =>
          (lowerPanels isPanel (some window) ids windows).map fun (unfloated, windows) =>
            (window :: unfloated, windows)

/-- `applicationWillResignActive:` on the application's windows back to front;
`isPanel` tells which are `MCPanel`s. -/
def applicationWillResignActive (isPanel : Window → Bool) (backToFront : List Window) :
    Option (List Window × List Window) :=
  lowerPanels isPanel none backToFront backToFront

/-- From a window `above` of the walk on, over the rest of the list as it stands,
each panel is already just in front of the window before it: the walk clears
the panels' flags and leaves the list alone. -/
theorem lowerPanels_spec (isPanel : Window → Bool) :
    ∀ (rest pre : List Window) (above : Window), (pre ++ above :: rest).Nodup →
      lowerPanels isPanel (some above) rest (pre ++ above :: rest) =
        some (rest.filter isPanel, pre ++ above :: rest)
  | [], _, _, _ => rfl
  | window :: rest, pre, above, hnodup => by
    have hnext := lowerPanels_spec isPanel rest (pre ++ [above]) window (by simpa using hnodup)
    simp only [List.append_assoc, List.singleton_append] at hnext
    by_cases hpanel : isPanel window
    · simp [lowerPanels, hpanel, orderWindowAbove, orderWindowBelow_in_place hnodup, hnext]
    · simp [lowerPanels, hpanel, hnext]

/-- On a list without duplicates, deactivation clears the floating flag of every
panel and keeps the stacking order, unless the backmost window is a panel: then
it orders that panel relative to a `t_above_window_id` never set. -/
theorem applicationWillResignActive_spec (isPanel : Window → Bool) (backToFront : List Window)
    (hnodup : backToFront.Nodup) :
    applicationWillResignActive isPanel backToFront =
      match backToFront with
      | [] => some ([], [])
      | back :: _ =>
        if isPanel back then none else some (backToFront.filter isPanel, backToFront) := by
  cases backToFront with
  | nil => rfl
  | cons back rest =>
    by_cases hpanel : isPanel back
    · simp [applicationWillResignActive, lowerPanels, hpanel]
    · simpa [applicationWillResignActive, lowerPanels, hpanel] using
        lowerPanels_spec isPanel rest [] back hnodup

/-- A document window behind a palette, and a palette alone. -/
theorem applicationWillResignActive_palettes :
    ([5, 7] : List Window).Nodup ∧ ([7] : List Window).Nodup ∧
      applicationWillResignActive (· = 7) [5, 7] =
        (if decide ((5 : Window) = 7) then none
          else some (([5, 7] : List Window).filter (· = 7), [5, 7])) ∧
      applicationWillResignActive (· = 7) [7] =
        (if decide ((7 : Window) = 7) then none
          else some (([7] : List Window).filter (· = 7), [7])) :=
  ⟨by decide, by decide, applicationWillResignActive_spec (· = 7) [5, 7] (by decide),
    applicationWillResignActive_spec (· = 7) [7] (by decide)⟩

end MacPlatformCore
