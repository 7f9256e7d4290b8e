/-
# How lc-run ends

`main` parses the command line, loads the bytecode file as a module, creates
an instance of it and calls its handler `main`. It ends in one of four ways:
status 0 after the handler returns or after the usage text asked for by `-h`
or `--help`; `kMCRunExitStatusBadArgs` from the parse; `kMCRunExitStatusStartup`
when loading or instantiating fails; `kMCRunExitStatusUncaughtError` when the
handler raises (`main_exit_status`). Every failure prints a line beginning with
`ERROR: ` on `stderr`, naming the error the runtime reports or
`Unknown error`.

The runtime's calls are arguments: whether `MCRunLoadModule` succeeds for a
filename (reading the file, making the stream, the module, and checking that it
is usable), whether the instance is created and whether the handler returns,
and the message of the error `MCErrorCatch` finds. Library initialisation and
finalisation, and the usage text itself, are not modelled.
-/

import MacPlatformCore.LcRun.CommandLine

namespace MacPlatformCore

/-- `kMCRunExitStatusStartup`. -/
def kMCRunExitStatusStartup : Nat := 124

/-- `kMCRunExitStatusUncaughtError`. -/
def kMCRunExitStatusUncaughtError : Nat := 126

/-- What the runtime's calls in `main` answer. -/
structure RunRuntime where
  loadModule : String → Bool
  createInstance : Bool
  callMain : Bool
  caughtError : Option String

/-- How `lc-run` ends: its exit status, and the error line printed on `stderr`
(none when nothing went wrong). -/
structure RunExit where
  status : Nat
  error : Option String
  deriving DecidableEq, Repr

/-- The reason `MCErrorCatch` gives, or `Unknown error`. -/
def RunRuntime.reason (runtime : RunRuntime) : String := runtime.caughtError.getD "Unknown error"

/-- `MCRunStartupError`. -/
def mcRunStartupError (runtime : RunRuntime) : RunExit :=
  ⟨kMCRunExitStatusStartup, some ("ERROR: " ++ runtime.reason ++ "\n")⟩

/-- `MCRunHandlerError`. -/
def mcRunHandlerError (runtime : RunRuntime) : RunExit :=
  ⟨kMCRunExitStatusUncaughtError, some ("ERROR: Uncaught error: " ++ runtime.reason ++ "\n")⟩

/-- `main` of `lc-run` over the raw arguments. -/
def main (runtime : RunRuntime) (rawArgs : List String) : RunExit :=
  match mcRunParseCommandLine rawArgs with
  | .error exit => ⟨exit.status, exit.error⟩
  | .ok config =>
    if !runtime.loadModule config.filename then mcRunStartupError runtime
    else if !runtime.createInstance then mcRunStartupError runtime
    else if !runtime.callMain then mcRunHandlerError runtime
    else ⟨kMCRunExitStatusSuccess, none⟩

/-! ## Error lines -/

/-- A line that starts with `ERROR: `. -/
def IsErrorLine (line : String) : Prop := mcStringBeginsWithCString line "ERROR: " = true

instance (line : String) : Decidable (IsErrorLine line) :=
  inferInstanceAs (Decidable (_ = true))

/-- A line that starts with an error line is one. -/
theorem IsErrorLine.append {line : String} (h : IsErrorLine line) (rest : String) :
    IsErrorLine (line ++ rest) := by
  simp only [IsErrorLine, mcStringBeginsWithCString, List.isPrefixOf_iff_prefix,
    String.data_append] at h ⊢
  exact h.trans (List.prefix_append _ _)

/-- Every exit of the parse is the help exit, which prints no error, or a bad-args
exit that prints an error line. -/
theorem mcRunParseCommandLine_error_line {rawArgs : List String} {exit : RunUsageExit}
    (h : mcRunParseCommandLine rawArgs = .error exit) :
    exit.status = kMCRunExitStatusSuccess ∧ exit.error = none ∨
      exit.status = kMCRunExitStatusBadArgs ∧
        ∃ line, exit.error = some line ∧ IsErrorLine line := by
  have hmissing : IsErrorLine "ERROR: No bytecode filename specified.\n\n" := by decide
  rw [mcRunParseCommandLine_eq] at h
  rcases rawArgs with _ | ⟨arg, rest⟩
  · cases h
    exact .inr ⟨rfl, _, rfl, hmissing⟩
  dsimp only at h
  split_ifs at h
  · cases h
    exact .inl ⟨rfl, rfl⟩
  · rcases rest with _ | ⟨filename, arguments⟩
    · cases h
      exact .inr ⟨rfl, _, rfl, hmissing⟩
    · cases h
  · cases h
    exact .inr ⟨rfl, _, rfl, ((IsErrorLine.append (by decide) arg).append _)⟩

/-! ## Exit statuses -/

/-- `lc-run` exits with status 0 exactly when asked for help by its first
argument, or when the command line is `[--] FILE ARGS...` and the module loads,
is instantiated and its handler returns. Every other run exits with
`kMCRunExitStatusBadArgs`, `kMCRunExitStatusStartup` or
`kMCRunExitStatusUncaughtError` and prints an error line. -/
theorem main_exit_status (runtime : RunRuntime) (rawArgs : List String) :
    ((main runtime rawArgs).status = kMCRunExitStatusSuccess ↔
      rawArgs.head? = some "-h" ∨ rawArgs.head? = some "--help" ∨
        ∃ config, mcRunParseCommandLine rawArgs = .ok config ∧
          runtime.loadModule config.filename ∧ runtime.createInstance ∧ runtime.callMain) ∧
    ((main runtime rawArgs).status ≠ kMCRunExitStatusSuccess →
      ((main runtime rawArgs).status = kMCRunExitStatusBadArgs ∨
        (main runtime rawArgs).status = kMCRunExitStatusStartup ∨
        (main runtime rawArgs).status = kMCRunExitStatusUncaughtError) ∧
      ∃ line, (main runtime rawArgs).error = some line ∧ IsErrorLine line) := by
  cases hparse : mcRunParseCommandLine rawArgs with
  | error exit =>
    have hmain : main runtime rawArgs = ⟨exit.status, exit.error⟩ := by simp [main, hparse]
    rw [hmain]
    rcases mcRunParseCommandLine_exit hparse with ⟨hstatus, hhelp⟩ | ⟨hstatus, hh, hh'⟩
    · exact ⟨iff_of_true hstatus (hhelp.imp_right .inl), fun hne => absurd hstatus hne⟩
    · obtain ⟨-, hline⟩ := (mcRunParseCommandLine_error_line hparse).resolve_left
        (fun h => by rw [hstatus] at h; exact absurd h.1 (by decide))
      refine ⟨iff_of_false
        (by simp [hstatus, kMCRunExitStatusBadArgs, kMCRunExitStatusSuccess]) ?_,
        fun _ => ⟨.inl hstatus, hline⟩⟩
      rintro (h | h | ⟨_, hok, -⟩)
      exacts [hh h, hh' h, by cases hok]
  | ok config =>
    have hnotHelp : rawArgs.head? ≠ some "-h" ∧ rawArgs.head? ≠ some "--help" := by
      obtain ⟨filename, arguments, -, hargs | ⟨hargs, hfile⟩⟩ :=
        (mcRunParseCommandLine_ok_iff rawArgs config).mp hparse <;> subst hargs
      · simp
      · constructor <;> rintro ⟨⟩ <;> cases hfile
    have hstartup : IsErrorLine ("ERROR: " ++ runtime.reason ++ "\n") :=
      (IsErrorLine.append (by decide) _).append _
    have hhandler : IsErrorLine ("ERROR: Uncaught error: " ++ runtime.reason ++ "\n") :=
      (IsErrorLine.append (by decide) _).append _
    simp only [main, hparse, Except.ok.injEq, exists_eq_left', hnotHelp.1, hnotHelp.2, false_or]
    cases runtime.loadModule config.filename <;> cases runtime.createInstance <;>
      cases runtime.callMain <;>
      simp [mcRunStartupError, mcRunHandlerError, kMCRunExitStatusSuccess,
        kMCRunExitStatusStartup, kMCRunExitStatusUncaughtError, hstartup, hhandler]

/-- A file that fails to load, a handler that raises, and a bare dash. -/
example : (main ⟨fun _ => false, true, true, none⟩ ["f.lcm"]).error =
      some "ERROR: Unknown error\n" ∧
    (main ⟨fun _ => true, true, false, some "boom"⟩ ["--", "-x.lcm"]).status = 126 ∧
    (main ⟨fun _ => true, true, true, none⟩ ["-x.lcm"]).status = kMCRunExitStatusBadArgs := by
  decide

end MacPlatformCore
