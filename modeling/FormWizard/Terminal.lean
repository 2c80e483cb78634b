import FormWizard.Event
import FormWizard.Expr.Drawing
import FormWizard.Form.Legacy
import FormWizard.View.PlainText

/-!
# The terminal program

A form is loaded and then filled in, by a script or by the commands of a user, and the values and
the progress at the end are printed.

A `Terminal` is the program between two of its inputs. It waits for a line that the user enters, or
for the text of a file, or for nothing any more; `Terminal.respond` takes what it waited for and
gives what is printed and the program after that. So a whole run is a function of the files and the
lines entered, and only fetching and printing is left to the outside.
-/

namespace FormWizard

/-- The options of the program. -/
structure TerminalOptions where
  /-- The file that holds the form. -/
  formPath : Option String := none
  /-- The file that holds a script. -/
  scriptPath : Option String := none
  /-- Whether the form is an older document. -/
  legacy : Bool := false
  /-- Whether the form is filled in by commands. -/
  interactive : Bool := false
  /-- Whether more is told about what happens. -/
  verbose : Bool := false
  /-- Whether compiled formulas are drawn. -/
  explain : Bool := false

/-- What the arguments of the program ask for. -/
inductive Invocation where
  /-- To run. -/
  | run (options : TerminalOptions)
  /-- How the program is used. -/
  | help
  /-- Its version. -/
  | version
  /-- Nothing that it can do; the argument that does not fit is given. -/
  | unusable (argument : String)

namespace TerminalOptions

/-- Sets a flag that is not set yet. -/
def flag? (o : TerminalOptions) (name : String) : Option TerminalOptions :=
  match name with
  | "legacy" => if o.legacy then none else some { o with legacy := true }
  | "interactive" => if o.interactive then none else some { o with interactive := true }
  | "verbose" => if o.verbose then none else some { o with verbose := true }
  | "explain" => if o.explain then none else some { o with explain := true }
  | _ => none

/-- Takes an argument that is no option. -/
def positional? (o : TerminalOptions) (argument : String) : Option TerminalOptions :=
  if o.formPath.isNone then some { o with formPath := some argument }
  else if o.scriptPath.isNone then some { o with scriptPath := some argument }
  else none

end TerminalOptions

namespace Invocation

/-- Takes the letters of short options, which may stand together. -/
def letters (argument : String) (o : TerminalOptions) : List Char → Invocation
  | [] => .run o
  | 'h' :: _ => .help
  | 'V' :: _ => .version
  | c :: cs =>
    let name := if c = 'i' then "interactive" else if c = 'v' then "verbose" else ""
    match o.flag? name with
    | some o => letters argument o cs
    | none => .unusable argument

/-- Takes one argument while options may still follow. -/
def argument (o : TerminalOptions) (a : String) : Invocation :=
  match a.toList with
  | '-' :: '-' :: name =>
    match String.ofList name with
    | "help" => .help
    | "version" => .version
    | name =>
      match o.flag? name with
      | some o => .run o
      | none => .unusable a
  | '-' :: c :: cs => letters a o (c :: cs)
  | _ =>
    match o.positional? a with
    | some o => .run o
    | none => .unusable a

/-- Takes arguments of which none is an option. -/
def positionals (o : TerminalOptions) : List String → Invocation
  | [] => .run o
  | a :: as =>
    match o.positional? a with
    | some o => positionals o as
    | none => .unusable a

/-- Takes arguments one after the other; behind two hyphens none is an option. -/
def arguments (o : TerminalOptions) : List String → Invocation
  | [] => .run o
  | a :: as =>
    if a = "--" then positionals o as
    else
      match argument o a with
      | .run o => arguments o as
      | other => other

/-- What a list of arguments asks for. -/
def ofArguments (as : List String) : Invocation := arguments {} as

/-- How the program is called. -/
def usage : String := "Usage: youshiki-cli [OPTIONS] [FORM_PATH] [SCRIPT_PATH]"

/-- How the program is used. -/
def helpText : String := String.join <| List.map (· ++ "\n") [
  "Drive a schema-driven multi-stage form from the terminal",
  "",
  usage,
  "",
  "Arguments:",
  "  [FORM_PATH]    Path to the form configuration JSON file",
  "  [SCRIPT_PATH]  Optional path to a session script to replay",
  "",
  "Options:",
  "      --legacy       Read the configuration in the legacy attribute-based format",
  "  -i, --interactive  Fill in the form interactively",
  "  -v, --verbose      Log transitions, rejected edits and failing predicates",
  "      --explain      Print the compiled expression tree of every computed field",
  "  -h, --help         Print help",
  "  -V, --version      Print version"]

/-- The version of the program. -/
def versionText : String := "youshiki 0.1.0\n"

end Invocation

/-- The program between two of its inputs. -/
inductive Terminal where
  /-- It waits for the path of the form. -/
  | askPath (o : TerminalOptions)
  /-- It waits for the text of the form. -/
  | loadForm (o : TerminalOptions) (path : String)
  /-- It waits for the text of the script. -/
  | loadScript (path : String) (c : CompiledForm) (s : Session)
  /-- It waits for the details of the contact. -/
  | askContact (c : CompiledForm) (s : Session)
  /-- It waits for a command. -/
  | askCommand (c : CompiledForm) (s : Session) (shared : SharedState)
  /-- It has ended, with a failure or without. -/
  | ended (failure : Option String)

/-- What the program waits for. -/
inductive Wait where
  /-- A line. -/
  | line
  /-- The text of a file. -/
  | file (path : String)
  /-- Nothing. -/
  | nothing

/-- What is printed and told, and the program after that. -/
structure Reply where
  /-- The text printed. -/
  output : String
  /-- The events told. -/
  events : List Event
  /-- The program. -/
  next : Terminal

namespace Transition

/-- The wording of the answer to a request; stages are counted from one. -/
def describe : Transition → String
  | .advanced start target => s!"advanced from stage {start + 1} to {target + 1}"
  | .submitted => "submitted"
  | .blocked errors => s!"blocked by {errors.size} error(s)"
  | .moved start target => s!"moved from stage {start + 1} to {target + 1}"
  | .ignored => "ignored"

end Transition

/-- The wording of the answer to a step. -/
def StepOutcome.describe : StepOutcome → String
  | .changed path true => s!"set {path}"
  | .changed path false => s!"refused edit of {path}"
  | .invalidPath path e => s!"bad path '{path}': {e.message}"
  | .navigated t => t.describe

/-- The name of the state in a summary. -/
def ProgressState.title : ProgressState → String
  | .current => "Current"
  | .complete => "Complete"
  | .incomplete => "Incomplete"
  | .untouched => "Untouched"

namespace Terminal

/-- Lines, each ended. -/
def linesText (lines : List String) : String := String.join (lines.map (· ++ "\n"))

/-- What asks the user for a line, and what an empty one stands for. -/
def prompt (request : String) (default : Option String) : String :=
  match default with
  | some d => s!"> {request} [default: {d}]: "
  | none => s!"> {request}: "

/-- What the user entered, without blanks around it, or the default. -/
def entered (line : String) (default : String) : String :=
  let text := String.ofList (Text.trim line.toList)
  if text.toList.isEmpty then default else text

/-- The request for the path of the form. -/
def pathPrompt : String := prompt "Enter form configuration path" (some "data/form.json")

/-- The request for the details of the contact. -/
def contactPrompt : String := prompt "Contact email" none

/-- The request for a command. -/
def commandPrompt : String :=
  prompt "set <path> <value> | next | back | jump <n> | quit" (some "next")

/-- What the program waits for. -/
def wait : Terminal → Wait
  | .askPath _ => .line
  | .loadForm _ path => .file path
  | .loadScript path _ _ => .file path
  | .askContact _ _ => .line
  | .askCommand _ _ _ => .line
  | .ended _ => .nothing

/-- The computed fields with their formulas. -/
def explanation (c : CompiledForm) : String :=
  let fields := c.calculations.map fun calculation ↦
    let heading := s!"{calculation.path.toText} = {calculation.formula.source}\n"
    match calculation.formula.program with
    | .ok program => heading ++ program.drawing
    | .error e => heading ++ s!"  (not compiled: {e.message})\n"
  "\n--- Computed Fields ---\n" ++ String.join fields

/-- The values, the errors shown and the progress at the end. -/
def summary (c : CompiledForm) (s : Session) (shared : SharedState) : String :=
  let errors := s.visibleErrors.toList
  let errorLines :=
    if errors.isEmpty then []
    else "" :: "--- Errors ---" :: errors.map fun (p, message) ↦ s!"  {p.toText}: {message}"
  let progressLines := (s.view c).progress.map fun step ↦
    s!"  {step.index + 1}. {step.title} ({step.state.title})"
  let submitted :=
    if shared.quoteForm.isSome then "Form submitted to the application state."
    else "Form not submitted."
  linesText (["", "--- Values ---", s.values.toJson.pretty] ++ errorLines
    ++ ["", "--- Progress ---"] ++ progressLines ++ ["", submitted, ""])

/-- The end of the program. -/
def finish (output : String) (events : List Event) (c : CompiledForm) (s : Session)
    (shared : SharedState) : Reply :=
  ⟨output ++ summary c s shared, events, .ended none⟩

/-- The end of the program after a failure. -/
def fail (message : String) : Reply := ⟨"", [], .ended (some message)⟩

/-- Shows the form and asks for a command. -/
def offer (output : String) (events : List Event) (c : CompiledForm) (s : Session)
    (shared : SharedState) : Reply :=
  ⟨output ++ "\n" ++ (s.view c).toText ++ commandPrompt, events, .askCommand c s shared⟩

/-- Runs a form that was loaded, up to the next input. -/
def runForm (o : TerminalOptions) (form : Form) : Reply :=
  let c := form.compile .builtin
  let s := Session.start c
  let events := c.compileEvents ++ Session.startEvents c
  let counts := s!"{form.stages.length} stage(s), {c.calculations.length} computed field(s)"
  let compiled := s!"Compiled '{form.name}': {counts}\n"
  let output := compiled ++ if o.explain then explanation c else ""
  if o.interactive then
    ⟨output ++ "--- Youshiki Interactive Mode ---\n" ++ contactPrompt, events, .askContact c s⟩
  else
    match o.scriptPath with
    | some path => ⟨output, events, .loadScript path c s⟩
    | none =>
      let note := "No session script provided. Showing the initial state.\n"
      finish (output ++ note) events c s .empty

/-- The form in the text of a file, or why there is none. -/
def readForm (o : TerminalOptions) (text : String) : Except LegacyError Form :=
  if o.legacy then Form.ofLegacyText text
  else
    match Form.ofText? text with
    | some form => .ok form
    | none => .error .unreadable

/-- Runs the script in the text of a file. -/
def runScript (path : String) (c : CompiledForm) (s : Session) (text : String) : Reply :=
  match Script.ofText? text with
  | none => fail "Failed to load session script: Failed to parse session script JSON"
  | some script =>
    let (outcomes, after, shared) := script.replay c s .empty
    let heading := ["", s!"Replaying {script.steps.length} step(s) from '{path}'..."]
    let lines := outcomes.zipIdx.map fun (outcome, i) ↦
      let number := toString (i + 1)
      let margin := String.ofList (List.replicate (3 - number.length) ' ')
      s!"  {margin}{number}. {outcome.describe}"
    finish (linesText (heading ++ lines)) (Script.replayEvents c s .empty script.steps) c after
      shared

/-- The first words of a command, at most three; the last one holds all that is left. -/
def splitCommand (command : List Char) : List (List Char) :=
  match command.span (· != ' ') with
  | (first, []) => [first]
  | (first, _ :: rest) =>
    match rest.span (· != ' ') with
    | (second, []) => [first, second]
    | (second, _ :: rest) => [first, second, rest]

/-- The number of a stage, which may have a plus sign in front. -/
def stageNumber? (word : List Char) : Option Nat :=
  let digits := match word with
    | '+' :: digits => digits
    | digits => digits
  if digits.isEmpty || !digits.all Char.isDigit then none
  else
    let n := Number.natOfDigits digits
    if n < Number.twoTo 64 then some n else none

/-- The line that answers a request to go somewhere. -/
def answer (t : Transition) : String := s!"-> {t.describe}\n"

/-- Takes a command. -/
def command (c : CompiledForm) (s : Session) (shared : SharedState) (line : String) : Reply :=
  let words := (splitCommand (entered line "next").toList).map String.ofList
  match words with
  | "set" :: path :: value =>
    let v := Value.text (value.headD "")
    let (result, after) := s.change c path v
    let output := match result with
      | .ok true => ""
      | .ok false => s!"'{path}' cannot be edited.\n"
      | .error e => e.message ++ "\n"
    offer output (s.changeEvents c path v) c after shared
  | ["next"] =>
    let (t, after, shared) := s.submitInto c shared
    let events := s.submitIntoEvents c
    if t.isSubmitted then finish (answer t) events c after shared
    else offer (answer t) events c after shared
  | ["back"] =>
    let (t, after) := s.previous c
    offer (answer t) (s.previousEvents c) c after shared
  | ["jump", stage] =>
    match stageNumber? stage.toList with
    | some (index + 1) =>
      let (t, after) := s.jumpTo c index
      offer (answer t) (s.jumpToEvents c index) c after shared
    | _ => offer "Stages are numbered from 1.\n" [] c s shared
  | ["quit"] => finish "" [] c s shared
  | _ => offer "Unrecognised command.\n" [] c s shared

/-- The program after it was given what it waited for: a line, unless there are no more, or the text
of a file, unless it cannot be read. -/
def respond (given : Option String) : Terminal → Reply
  | .askPath o =>
    match given with
    | some line => ⟨"", [], .loadForm o (entered line "data/form.json")⟩
    | none => fail "Input closed."
  | .loadForm o path =>
    match given.map (readForm o) with
    | some (.ok form) => runForm o form
    | some (.error e) => fail s!"Failed to load form: {e.message}"
    | none => fail s!"Failed to read form file '{path}': it cannot be read"
  | .loadScript path c s =>
    match given with
    | some text => runScript path c s text
    | none =>
      fail s!"Failed to load session script: Could not read script file '{path}': it cannot be read"
  | .askContact c s =>
    match given with
    | some line =>
      let email := entered line ""
      if email.toList.isEmpty then ⟨contactPrompt, [], .askContact c s⟩
      else
        let contact := StateAction.setContactInfo (.object [("email", .text email)])
        offer "" [SharedState.changeEvent] c s (SharedState.empty.apply contact)
    | none => fail "Input closed."
  | .askCommand c s shared =>
    match given with
    | some line => command c s shared line
    | none => fail "Input closed."
  | .ended failure => ⟨"", [], .ended failure⟩

/-- The program at its start. -/
def start (o : TerminalOptions) : Reply :=
  match o.formPath with
  | some path => ⟨"", [], .loadForm o path⟩
  | none =>
    if o.interactive then ⟨pathPrompt, [], .askPath o⟩
    else fail "Form path is required in non-interactive mode."

end Terminal

end FormWizard
