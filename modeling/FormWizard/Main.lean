import FormWizard.Terminal

/-!
# The program

Fetches the lines and files that the terminal program waits for, and prints what it says: output on
standard output, events and failures on standard error.
-/

namespace FormWizard

/-- The line that tells of an event. -/
def Event.line (e : Event) : String :=
  let details := e.details.map fun (name, text) ↦ s!" {name}={text}"
  e.severity.name.toUpper ++ " " ++ e.message ++ String.join details

/-- The next line entered, unless the input was closed. -/
def fetchLine : IO (Option String) := do
  let line ← (← IO.getStdin).getLine
  return if line.isEmpty then none else some line

/-- The text of a file, unless it cannot be read. -/
def fetchFile (path : String) : IO (Option String) := do
  match ← (IO.FS.readFile path).toBaseIO with
  | .ok text => return some text
  | .error _ => return none

/-- Runs the program to its end. -/
partial def drive (least : Severity) (reply : Reply) : IO (Option String) := do
  IO.print reply.output
  (← IO.getStdout).flush
  for e in reply.events do
    if e.isAtLeast least then IO.eprintln e.line
  match reply.next.wait with
  | .line => drive least (reply.next.respond (← fetchLine))
  | .file path => drive least (reply.next.respond (← fetchFile path))
  | .nothing =>
    match reply.next with
    | .ended failure => return failure
    | _ => return none

end FormWizard

/-- The command line. -/
def main (args : List String) : IO UInt32 := do
  match FormWizard.Invocation.ofArguments args with
  | .help =>
    IO.print FormWizard.Invocation.helpText
    return 0
  | .version =>
    IO.print FormWizard.Invocation.versionText
    return 0
  | .unusable argument =>
    IO.eprintln s!"error: unexpected argument '{argument}' found\n"
    IO.eprintln FormWizard.Invocation.usage
    return 2
  | .run options =>
    let start ← IO.monoMsNow
    let least := if options.verbose then FormWizard.Severity.debug else .warn
    match ← FormWizard.drive least (FormWizard.Terminal.start options) with
    | some failure =>
      IO.eprintln s!"\nError: {failure}"
      return 1
    | none =>
      IO.println "--- Performance Summary ---"
      IO.println s!"Total Execution: {(← IO.monoMsNow) - start}ms\n"
      return 0
