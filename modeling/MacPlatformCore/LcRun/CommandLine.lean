/-
# The command line of lc-run

`MCRunParseCommandLine` reads the raw arguments returned by
`MCSCommandLineGetArguments` in one pass. While options are accepted, `-h` and
`--help` print the usage and exit with success, `--` turns option processing
off, and any other word beginning with `-` is an unknown option. The first
argument taken otherwise is the bytecode filename, which also turns options
off; every argument after it is passed on unchanged as one of the command
arguments.

The library calls are assumed to succeed, so the parse either returns the
configuration or exits through `MCRunUsage`, which is modelled as an
`Except` result carrying the exit status and the error line printed before
the usage text. `mcRunParseCommandLine_eq` evaluates the loop once and for all;
`mcRunParseCommandLine_grammar` reads off the accepted grammar
`[--] FILE ARGS...`.
-/

import Mathlib.Data.List.Basic

namespace MacPlatformCore

/-- `kMCRunExitStatusSuccess`. -/
def kMCRunExitStatusSuccess : Nat := 0

/-- `kMCRunExitStatusBadArgs`. -/
def kMCRunExitStatusBadArgs : Nat := 125

/-- An exit through `MCRunUsage`: its status, and the error line printed to
`stderr` before the usage text (none for `--help`). -/
structure RunUsageExit where
  status : Nat
  error : Option String
  deriving DecidableEq, Repr

/-- What a successful parse leaves: `x_config.m_filename`, and the name and
arguments handed to `MCSCommandLineSetName` and `MCSCommandLineSetArguments`. -/
structure RunCommandLine where
  filename : String
  commandName : String
  commandArguments : List String
  deriving DecidableEq, Repr

/-- `MCStringBeginsWithCString(string, text, kMCStringOptionCompareExact)`. -/
def mcStringBeginsWithCString (string text : String) : Bool :=
  text.data.isPrefixOf string.data

/-- `MCRunUsage(status)`, after the caller has printed `error`. -/
def mcRunUsage (status : Nat) (error : Option String) : RunUsageExit := ⟨status, error⟩

/-- `MCRunBadOptionError(arg)`. -/
def mcRunBadOptionError (arg : String) : RunUsageExit :=
  mcRunUsage kMCRunExitStatusBadArgs (some ("ERROR: Unknown option \x27" ++ arg ++ "\x27\n\n"))

/-- The locals of the loop: `t_have_filename`, `t_accept_options`, `t_filename`
and `t_args`. -/
structure ParseLoop where
  haveFilename : Bool
  acceptOptions : Bool
  filename : String
  args : List String
  deriving DecidableEq, Repr

/-- The second half of the loop body: the first argument taken is the filename,
which ends option processing; later ones are queued as command arguments. -/
def takeArgument (loop : ParseLoop) (arg : String) : ParseLoop :=
  if !loop.haveFilename then
    { loop with filename := arg, haveFilename := true, acceptOptions := false }
  else { loop with args := loop.args ++ [arg] }

/-- One turn of the loop of `MCRunParseCommandLine`. The look-ahead `t_argopt`
is fetched but read by no option, so it is left out. -/
def parseArgument (loop : ParseLoop) (arg : String) : Except RunUsageExit ParseLoop :=
  if loop.acceptOptions then
    if arg = "--help" ∨ arg = "-h" then .error (mcRunUsage kMCRunExitStatusSuccess none)
    else if arg = "--" then .ok { loop with acceptOptions := false }
    else if mcStringBeginsWithCString arg "-" then .error (mcRunBadOptionError arg)
    else .ok (takeArgument loop arg)
  else .ok (takeArgument loop arg)

/-- The loop's state before the first argument. -/
def ParseLoop.initial : ParseLoop := ⟨false, true, "", []⟩

/-- `MCRunParseCommandLine` over the raw arguments, its library calls succeeding. -/
def mcRunParseCommandLine (rawArgs : List String) : Except RunUsageExit RunCommandLine := do
  let loop ← rawArgs.foldlM parseArgument ParseLoop.initial
  if !loop.haveFilename then
    throw (mcRunUsage kMCRunExitStatusBadArgs (some "ERROR: No bytecode filename specified.\n\n"))
  return ⟨loop.filename, loop.filename, loop.args⟩

/-! ## The loop, evaluated -/

/-- Once the filename is taken, every argument is queued as it is. -/
theorem foldlM_parseArgument_of_filename (filename : String) :
    ∀ (rest args : List String),
      rest.foldlM parseArgument ⟨true, false, filename, args⟩ =
        .ok ⟨true, false, filename, args ++ rest⟩
  | [], args => by simp [List.foldlM, pure, Except.pure]
  | arg :: rest, args => by
      simp only [List.foldlM_cons, parseArgument, takeArgument, Bool.false_eq_true, if_false,
        Bool.not_true, bind, Except.bind]
      rw [List.append_cons args arg rest]
      exact foldlM_parseArgument_of_filename filename rest (args ++ [arg])

/-- The whole parse: help, the leading `--`, an unknown option, or the filename,
decided by the first argument alone. -/
theorem mcRunParseCommandLine_eq (rawArgs : List String) :
    mcRunParseCommandLine rawArgs =
      match rawArgs with
      | [] => .error (mcRunUsage kMCRunExitStatusBadArgs
          (some "ERROR: No bytecode filename specified.\n\n"))
      | arg :: rest =>
        if arg = "--help" ∨ arg = "-h" then .error (mcRunUsage kMCRunExitStatusSuccess none)
        else if arg = "--" then
          match rest with
          | [] => .error (mcRunUsage kMCRunExitStatusBadArgs
              (some "ERROR: No bytecode filename specified.\n\n"))
          | filename :: arguments => .ok ⟨filename, filename, arguments⟩
        else if mcStringBeginsWithCString arg "-" then .error (mcRunBadOptionError arg)
        else .ok ⟨arg, arg, rest⟩ := by
  rcases rawArgs with _ | ⟨arg, rest⟩
  · rfl
  · by_cases hhelp : arg = "--help" ∨ arg = "-h"
    · simp [mcRunParseCommandLine, List.foldlM_cons, parseArgument, ParseLoop.initial, bind,
        Except.bind, pure, Except.pure, hhelp]
    by_cases hdashes : arg = "--"
    · subst hdashes
      rcases rest with _ | ⟨filename, arguments⟩
      · rfl
      · simp [mcRunParseCommandLine, List.foldlM_cons, parseArgument, ParseLoop.initial, bind,
          Except.bind, pure, Except.pure, takeArgument, foldlM_parseArgument_of_filename]
    by_cases hdash : mcStringBeginsWithCString arg "-" = true
    · simp [mcRunParseCommandLine, List.foldlM_cons, parseArgument, ParseLoop.initial, bind,
        Except.bind, pure, Except.pure, hhelp, hdashes, hdash]
    · simp [mcRunParseCommandLine, List.foldlM_cons, parseArgument, ParseLoop.initial, bind,
        Except.bind, pure, Except.pure, hhelp, hdashes, hdash, takeArgument,
        foldlM_parseArgument_of_filename]

/-! ## The grammar it accepts -/

/-- Every exit is the help exit, for a leading `-h` or `--help`, or an exit with
`kMCRunExitStatusBadArgs`. -/
theorem mcRunParseCommandLine_exit {rawArgs : List String} {exit : RunUsageExit}
    (h : mcRunParseCommandLine rawArgs = .error exit) :
    (exit.status = kMCRunExitStatusSuccess ∧
        (rawArgs.head? = some "-h" ∨ rawArgs.head? = some "--help")) ∨
      (exit.status = kMCRunExitStatusBadArgs ∧
        rawArgs.head? ≠ some "-h" ∧ rawArgs.head? ≠ some "--help") := by
  rw [mcRunParseCommandLine_eq] at h
  rcases rawArgs with _ | ⟨arg, rest⟩
  · cases h
    exact .inr ⟨rfl, by simp, by simp⟩
  by_cases hhelp : arg = "--help" ∨ arg = "-h"
  · simp only [hhelp, if_true, Except.error.injEq] at h
    subst h
    exact .inl ⟨rfl, by simpa [or_comm] using hhelp⟩
  have hnot : (arg :: rest).head? ≠ some "-h" ∧ (arg :: rest).head? ≠ some "--help" :=
    ⟨fun h => hhelp (.inr (by simpa using h)), fun h => hhelp (.inl (by simpa using h))⟩
  simp only [hhelp, if_false] at h
  split_ifs at h
  · rcases rest with _ | ⟨filename, arguments⟩
    · cases h
      exact .inr ⟨rfl, hnot⟩
    · cases h
  · cases h
    exact .inr ⟨rfl, hnot⟩

/-- The parse returns exactly for `[--] FILE ARGS...` with a `FILE` that begins
with `-` only after the `--`, and then with `FILE` and `ARGS` as they are. -/
theorem mcRunParseCommandLine_ok_iff (rawArgs : List String) (result : RunCommandLine) :
    mcRunParseCommandLine rawArgs = .ok result ↔
      ∃ filename arguments, result = ⟨filename, filename, arguments⟩ ∧
        (rawArgs = "--" :: filename :: arguments ∨
          rawArgs = filename :: arguments ∧ mcStringBeginsWithCString filename "-" = false) := by
  have hdashes : mcStringBeginsWithCString "--" "-" = true := by decide
  rw [mcRunParseCommandLine_eq]
  rcases rawArgs with _ | ⟨arg, rest⟩
  · simp
  -- an argument that begins with a dash is never the filename without `--`
  have hnotFile : mcStringBeginsWithCString arg "-" = true → arg ≠ "--" →
      ¬ ∃ filename arguments, result = ⟨filename, filename, arguments⟩ ∧
        (arg :: rest = "--" :: filename :: arguments ∨
          arg :: rest = filename :: arguments ∧ mcStringBeginsWithCString filename "-" = false) := by
    rintro hdash hdd ⟨filename, arguments, -, hargs | ⟨hargs, hfile⟩⟩
    · exact hdd (List.cons.inj hargs).1
    · rw [← (List.cons.inj hargs).1, hdash] at hfile
      cases hfile
  by_cases hhelp : arg = "--help" ∨ arg = "-h"
  · have hdash : mcStringBeginsWithCString arg "-" = true := by
      rcases hhelp with rfl | rfl <;> decide
    have hdd : arg ≠ "--" := by rcases hhelp with rfl | rfl <;> decide
    simp only [hhelp, if_true]
    exact ⟨nofun, fun h => (hnotFile hdash hdd h).elim⟩
  by_cases hdd : arg = "--"
  · subst hdd
    simp only [hhelp, if_false, if_true]
    rcases rest with _ | ⟨filename, arguments⟩
    · refine ⟨nofun, ?_⟩
      rintro ⟨filename, arguments, -, hargs | ⟨hargs, hfile⟩⟩
      · cases (List.cons.inj hargs).2
      · rw [← (List.cons.inj hargs).1, hdashes] at hfile
        cases hfile
    · simp only [Except.ok.injEq]
      constructor
      · rintro rfl
        exact ⟨filename, arguments, rfl, .inl rfl⟩
      · rintro ⟨file, args, rfl, hargs | ⟨hargs, hfile⟩⟩
        · obtain ⟨rfl, rfl⟩ := List.cons.inj (List.cons.inj hargs).2
          rfl
        · rw [← (List.cons.inj hargs).1, hdashes] at hfile
          cases hfile
  by_cases hdash : mcStringBeginsWithCString arg "-" = true
  · simp only [hhelp, hdd, hdash, if_false, if_true]
    exact ⟨nofun, fun h => (hnotFile hdash hdd h).elim⟩
  · have hfile : mcStringBeginsWithCString arg "-" = false := by simpa using hdash
    simp only [hhelp, hdd, hfile, Bool.false_eq_true, if_false, Except.ok.injEq]
    constructor
    · rintro rfl
      exact ⟨arg, rest, rfl, .inr ⟨rfl, hfile⟩⟩
    · rintro ⟨file, args, rfl, hargs | ⟨hargs, -⟩⟩
      · exact absurd (List.cons.inj hargs).1 hdd
      · obtain ⟨rfl, rfl⟩ := List.cons.inj hargs
        rfl

/-- `lc-run` exits with success exactly for a leading `-h` or `--help`. It returns
exactly for `[--] FILE ARGS...`, where `FILE` may begin with `-` only after the
`--`, and then hands on `FILE` as the filename and command name and `ARGS`
unchanged as the command arguments; every other list exits with
`kMCRunExitStatusBadArgs`. -/
theorem mcRunParseCommandLine_grammar (rawArgs : List String) :
    ((∃ error, mcRunParseCommandLine rawArgs = .error ⟨kMCRunExitStatusSuccess, error⟩) ↔
      rawArgs.head? = some "-h" ∨ rawArgs.head? = some "--help") ∧
    (∀ result, mcRunParseCommandLine rawArgs = .ok result ↔
      ∃ filename arguments, result = ⟨filename, filename, arguments⟩ ∧
        (rawArgs = "--" :: filename :: arguments ∨
          rawArgs = filename :: arguments ∧ mcStringBeginsWithCString filename "-" = false)) ∧
    (rawArgs.head? ≠ some "-h" → rawArgs.head? ≠ some "--help" →
      (∀ result, mcRunParseCommandLine rawArgs ≠ .ok result) →
        ∃ error, mcRunParseCommandLine rawArgs = .error ⟨kMCRunExitStatusBadArgs, error⟩) := by
  refine ⟨⟨fun ⟨error, h⟩ => ?_, fun hhelp => ?_⟩, mcRunParseCommandLine_ok_iff rawArgs,
    fun hh hh' hfail => ?_⟩
  · rcases mcRunParseCommandLine_exit h with ⟨-, hhelp⟩ | ⟨hstatus, -⟩
    · exact hhelp
    · cases hstatus
  · obtain ⟨arg, rest, rfl⟩ : ∃ arg rest, rawArgs = arg :: rest := by
      rcases rawArgs with _ | ⟨arg, rest⟩
      · simp at hhelp
      · exact ⟨arg, rest, rfl⟩
    have harg : arg = "--help" ∨ arg = "-h" := by simpa [or_comm] using hhelp
    exact ⟨none, by simp [mcRunParseCommandLine_eq, harg, mcRunUsage]⟩
  · cases hresult : mcRunParseCommandLine rawArgs with
    | ok result => exact absurd hresult (hfail result)
    | error exit =>
        rcases mcRunParseCommandLine_exit hresult with ⟨-, hhelp | hhelp⟩ | ⟨hstatus, -⟩
        · exact absurd hhelp hh
        · exact absurd hhelp hh'
        · exact ⟨exit.error, by rw [← hstatus]⟩

end MacPlatformCore
