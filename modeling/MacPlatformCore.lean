import MacPlatformCore.Runs
import MacPlatformCore.Pointer.State
import MacPlatformCore.Pointer.Operations
import MacPlatformCore.Pointer.Ownership
import MacPlatformCore.Pointer.Reentry
import MacPlatformCore.Pointer.Crossings
import MacPlatformCore.Modal.Sessions
import MacPlatformCore.Modal.Stack
import MacPlatformCore.Modal.Matching
import MacPlatformCore.Wait.Model
import MacPlatformCore.Wait.Callbacks
import MacPlatformCore.Wait.Wakeups
import MacPlatformCore.Pointer.Frames
import MacPlatformCore.Pointer.Clicks
import MacPlatformCore.Windows.Core
import MacPlatformCore.Windows.References
import MacPlatformCore.Windows.Backdrop
import MacPlatformCore.Wait.LastMouseEvent
import MacPlatformCore.Queue.MouseClick
import MacPlatformCore.Screen.Coordinates
import MacPlatformCore.LcRun.CommandLine
import MacPlatformCore.Delegate.AppleEvents
import MacPlatformCore.Queue.Flush
import MacPlatformCore.Screen.Screens
import MacPlatformCore.Windows.Panels
import MacPlatformCore.LcRun.Main
import MacPlatformCore.Pointer.Cursor
