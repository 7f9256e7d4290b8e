/-
# Keeping the backdrop behind every window

`SyncBackdrop` orders the backdrop window out, then walks the application's
windows front to back as `windowNumbersWithOptions:` lists them, ordering each
window but the backdrop just behind the one before it, and finally orders the
backdrop just behind the last window of the walk.

The window server's list is modelled front to back, without duplicates;
`orderOut:` removes a window and `orderWindow:NSWindowBelow relativeTo:` moves
it to just behind another, unspecified (`none`) when that one is not on the
list, as the sentinel `-1` is not. Since the walk goes over the list as it
stands, every move of the loop puts a window where it already is: the walk
leaves the list alone (`orderBehindEach_spec`), and the backdrop ends last with
the other windows in their order (`syncBackdrop_spec`), so a second sync
changes nothing.
-/

import Mathlib.Data.List.Nodup
import MacPlatformCore.Pointer.State

namespace MacPlatformCore

/-- Put `window` just behind `above` in a list that holds `above`. -/
def insertBehind (above window : Window) : List Window → List Window
  | [] => []
  | w :: ws => if w = above then w :: window :: ws else w :: insertBehind above window ws

/-- `[window orderOut: nil]`. -/
def orderOut (window : Window) (windows : List Window) : List Window :=
  windows.erase window

/-- `[window orderWindow: NSWindowBelow relativeTo: above]`: `window` moves to just
behind `above`; unspecified when `above` is not on screen. -/
def orderWindowBelow (window above : Window) (windows : List Window) : Option (List Window) :=
  let rest := windows.erase window
  if above ∈ rest then some (insertBehind above window rest) else none

/-- The loop of `SyncBackdrop` over the snapshot `ids`, with `t_window_above_id`
(`none` for `-1`): every window but the backdrop goes just behind the one before
it. Returns the last window of the walk and the list. -/
def orderBehindEach (backdrop : Window) :
    Option Window → List Window → List Window → Option (Option Window × List Window)
  | above, [], windows => some (above, windows)
  | above, window :: ids, windows =>
    if window = backdrop then orderBehindEach backdrop above ids windows
    else
      match above with
      | none => orderBehindEach backdrop (some window) ids windows
      | some above =>
        (orderWindowBelow window above windows).bind (orderBehindEach backdrop (some window) ids)

/-- `MCMacPlatformCore::SyncBackdrop` on the window server's list, given
`m_backdrop_window`. The snapshot is taken after the backdrop is ordered out.
With no other window the final call is relative to `-1`, unspecified. -/
def syncBackdrop (backdropWindow : Option Window) (windows : List Window) :
    Option (List Window) :=
  match backdropWindow with
  | none => some windows
  | some backdrop =>
    let windows := orderOut backdrop windows
    (orderBehindEach backdrop none windows windows).bind fun (above, windows) =>
      match above with
      | none => none
      | some above => orderWindowBelow backdrop above windows

/-! ## Moving a window to where it is -/

theorem insertBehind_append {above window : Window} {pre post : List Window}
    (habove : above ∉ pre) :
    insertBehind above window (pre ++ above :: post) = pre ++ above :: window :: post := by
  induction pre with
  | nil => simp [insertBehind]
  | cons w pre ih =>
      have hw : w ≠ above := fun h => habove (h ▸ List.mem_cons_self _ _)
      simp [insertBehind, hw, ih (fun h => habove (List.mem_cons_of_mem _ h))]

/-- Ordering a window behind the one just in front of it changes nothing. -/
theorem orderWindowBelow_in_place {above window : Window} {pre post : List Window}
    (hnodup : (pre ++ above :: window :: post).Nodup) :
    orderWindowBelow window above (pre ++ above :: window :: post) =
      some (pre ++ above :: window :: post) := by
  have hdisjoint := List.disjoint_of_nodup_append hnodup
  have habove : above ∉ pre := fun h => hdisjoint h (List.mem_cons_self _ _)
  have hwindow : window ∉ pre := fun h => hdisjoint h (by simp)
  have hne : window ≠ above := fun h =>
    (List.nodup_cons.mp (List.nodup_append.mp hnodup).2.1).1 (h ▸ List.mem_cons_self _ _)
  have herase : (pre ++ above :: window :: post).erase window = pre ++ above :: post := by
    rw [List.erase_append_right _ hwindow, List.erase_cons_tail (by simpa using hne.symm),
      List.erase_cons_head]
  simp [orderWindowBelow, herase, insertBehind_append habove]

/-! ## The walk -/

/-- From a window `above` of the walk on, over the rest of the list as it stands:
each window is already just behind the one before it, so the walk leaves the
list alone and ends at its last window. -/
theorem orderBehindEach_spec {backdrop : Window} :
    ∀ (rest pre : List Window) (above : Window), (pre ++ above :: rest).Nodup →
      backdrop ∉ rest →
        orderBehindEach backdrop (some above) rest (pre ++ above :: rest) =
          some ((above :: rest).getLast?, pre ++ above :: rest)
  | [], pre, above, _, _ => by simp [orderBehindEach]
  | window :: rest, pre, above, hnodup, hbackdrop => by
      have hwindow : window ≠ backdrop := fun h => hbackdrop (h ▸ List.mem_cons_self _ _)
      have hnext := orderBehindEach_spec rest (pre ++ [above]) window (by simpa using hnodup)
        (fun h => hbackdrop (List.mem_cons_of_mem _ h))
      simp only [List.append_assoc, List.singleton_append] at hnext
      simp [orderBehindEach, hwindow, orderWindowBelow_in_place hnodup, hnext]

/-! ## `SyncBackdrop` -/

/-- With another window on screen, `SyncBackdrop` moves the backdrop to the back
and keeps the order of the others; run again, it changes nothing. -/
theorem syncBackdrop_spec (windows : List Window) (backdrop : Window)
    (hnodup : windows.Nodup) (hother : ∃ window ∈ windows, window ≠ backdrop) :
    syncBackdrop (some backdrop) windows = some (windows.erase backdrop ++ [backdrop]) ∧
      syncBackdrop (some backdrop) (windows.erase backdrop ++ [backdrop]) =
        some (windows.erase backdrop ++ [backdrop]) := by
  -- the list the walk sees: the windows but the backdrop, at least one of them
  have hsync : ∀ others : List Window, others.Nodup → backdrop ∉ others → others ≠ [] →
      syncBackdrop (some backdrop) others = some (others ++ [backdrop]) ∧
        syncBackdrop (some backdrop) (others ++ [backdrop]) = some (others ++ [backdrop]) := by
    intro others hnodup hout hne
    have hwalk : orderBehindEach backdrop none others others = some (others.getLast?, others) := by
      obtain ⟨first, rest, rfl⟩ := List.exists_cons_of_ne_nil hne
      have hfirst : first ≠ backdrop := fun h => hout (h ▸ List.mem_cons_self _ _)
      simpa [orderBehindEach, hfirst] using
        orderBehindEach_spec rest [] first hnodup (fun h => hout (List.mem_cons_of_mem _ h))
    cases hlast : others.getLast? with
    | none => exact absurd (List.getLast?_eq_none_iff.mp hlast) hne
    | some last =>
        obtain ⟨init, rfl⟩ := List.getLast?_eq_some_iff.mp hlast
        have hfinal : orderWindowBelow backdrop last (init ++ [last]) =
            some (init ++ [last] ++ [backdrop]) := by
          have hlastIn : last ∉ init := fun h =>
            List.disjoint_of_nodup_append hnodup h (List.mem_singleton_self _)
          simp [orderWindowBelow, List.erase_of_not_mem hout, insertBehind_append hlastIn]
        have herase : (init ++ [last] ++ [backdrop]).erase backdrop = init ++ [last] := by
          rw [List.erase_append_right _ hout, List.erase_cons_head, List.append_nil]
        constructor
        · simp [syncBackdrop, orderOut, List.erase_of_not_mem hout, hwalk, hlast, hfinal]
        · simp only [syncBackdrop, orderOut, herase]
          simp [hwalk, hlast, hfinal]
  -- ordering out the backdrop first, the sync sees the other windows only
  have horderOut : syncBackdrop (some backdrop) windows =
      syncBackdrop (some backdrop) (windows.erase backdrop) := by
    simp only [syncBackdrop, orderOut, List.erase_of_not_mem hnodup.not_mem_erase]
  obtain ⟨other, hmem, hne⟩ := hother
  rw [horderOut]
  exact hsync _ (hnodup.erase _) (hnodup.not_mem_erase)
    (List.ne_nil_of_mem ((List.mem_erase_of_ne hne).mpr hmem))

/-- The backdrop in front of two other windows goes to the back. -/
theorem syncBackdrop_front_backdrop :
    (([2, 1, 3] : List Window).Nodup ∧ ∃ window ∈ ([2, 1, 3] : List Window), window ≠ 2) ∧
      syncBackdrop (some 2) [2, 1, 3] = some (([2, 1, 3] : List Window).erase 2 ++ [2]) ∧
      syncBackdrop (some 2) (([2, 1, 3] : List Window).erase 2 ++ [2]) =
        some (([2, 1, 3] : List Window).erase 2 ++ [2]) :=
  ⟨⟨by decide, 1, by decide, by decide⟩,
    syncBackdrop_spec [2, 1, 3] 2 (by decide) ⟨1, by decide, by decide⟩⟩

end MacPlatformCore
