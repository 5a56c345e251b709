import FindToSelect.Settings
import FindToSelect.Text.Typed
import FindToSelect.Translation

/-!
# The command line and the session

The program translates the queries among its arguments. Without any, it opens a session: it reads
lines, and each line is a query or a command.

Both are functions from text to lines of output here, each line for one of the two streams:

* `answer` is the one line for a query, the statement or the failure;
* `step` is a session on one line, `session` on all of them, and `meantLine` is how a line is
  delivered to it, with its backspaces carried out (`Text.typed?`);
* `invoke` is the whole program, with its exit code.
-/

namespace FindToSelect.Console

/-- **A line of output**, for the standard output or the standard error. -/
inductive Line where
  | out (text : String)
  | err (text : String)
deriving DecidableEq

/-- The texts of the lines for the standard output. -/
def outputs (ls : List Line) : List String :=
  ls.filterMap fun
    | .out text => some text
    | .err _ => none

/-- The texts of the lines for the standard error. -/
def errors (ls : List Line) : List String :=
  ls.filterMap fun
    | .out _ => none
    | .err text => some text

/-- **The answer to a query.** -/
def answer (naming : Naming) (query : String) : Line :=
  match translate naming query with
  | .ok statement => .out statement
  | .error e => .err e.line

/-! ### Sessions -/

/-- **What a line of a session asks for.** -/
inductive Command where
  /-- Nothing: the line is blank. -/
  | skip
  /-- To end the session. -/
  | quit
  /-- To rename `_id` from now on, or to stop doing so. -/
  | toggle
  /-- To translate a query. -/
  | query (text : String)
deriving DecidableEq

/-- The command of a line, by its text without the blanks around it. -/
def Command.ofLine (line : String) : Command :=
  let text := String.ofList (Text.trim line.toList)
  if text = "" then .skip
  else if text = ":quit" ∨ text = ":q" then .quit
  else if text = ":id" then .toggle
  else .query text

/-- The lines that open a session. -/
def banner : List Line :=
  [.out "--- MongoDB find → SQL ---",
   .out "Enter a db.<collection>.find(...) invocation. `:id` toggles _id → id, `:quit` exits."]

/-- The naming after it is toggled. -/
def toggled (naming : Naming) : Naming :=
  ⟨!naming.renameId⟩

/-- The line that confirms a toggle. -/
def toggleLine (naming : Naming) : Line :=
  .out ("_id → id renaming " ++ if naming.renameId then "on" else "off")

/-- **A session on one line**: the naming from then on and the output, or `none` if the session
ends. -/
def step (naming : Naming) (line : String) : Option (Naming × List Line) :=
  match Command.ofLine line with
  | .skip => some (naming, [])
  | .quit => none
  | .toggle => some (toggled naming, [toggleLine (toggled naming)])
  | .query text => some (naming, [answer naming text])

/-- **The output of a run**, and its exit code. -/
structure Run where
  lines : List Line
  exit : Nat
deriving DecidableEq

/-- More output before that of a run. -/
def Run.after (out : List Line) (r : Run) : Run :=
  ⟨out ++ r.lines, r.exit⟩

/-- The exit code of a session that is broken off. -/
def brokenOff : Nat := 101

/-- **A session on all its lines**: the output behind the banner. A line that cannot be read,
`none`, breaks the session off. -/
def session (naming : Naming) : List (Option String) → Run
  | [] => ⟨[], 0⟩
  | none :: _ => ⟨[], brokenOff⟩
  | some line :: rest =>
    match step naming line with
    | none => ⟨[], 0⟩
    | some (naming, out) => (session naming rest).after out

/-- The line of a session that was meant by what was typed. -/
def meantLine (cs : List Char) : Option String :=
  (Text.typed? cs).map String.ofList

/-- The lines of a text, without their line feeds. -/
def linesOf (cs : List Char) : List (List Char) :=
  match cs with
  | [] => []
  | c :: rest =>
    if c = '\n' then [] :: linesOf rest
    else
      match linesOf rest with
      | [] => [[c]]
      | line :: lines => (c :: line) :: lines

/-! ### The program -/

/-- The path of the settings file. -/
def settingsPath : String := "mongo_find_sql.json"

/-- The argument that asks for renaming. -/
def renameFlag : String := "--rename-id"

/-- **The settings to start with**: those of the file, or the defaults if there is no file. -/
def startSettings : Settings.File → Except Settings.LoadError Settings
  | .missing => .ok {}
  | file => Settings.load file

/-- The line for settings that cannot be loaded. It is the first of several, and only this one is
given: the causes below it, the wording of the load error and what is behind that, are left out. -/
def loadFailure : Line :=
  .err ("Error: loading " ++ settingsPath)

/-- The naming that settings and arguments ask for. -/
def namingOf (settings : Settings) (arguments : List String) : Naming :=
  ⟨settings.renameId || arguments.contains renameFlag⟩

/-- The queries among the arguments. -/
def queriesOf (arguments : List String) : List String :=
  arguments.filter (· != renameFlag)

/-- **The program**: its output for the settings file, the arguments and the standard input. -/
def invoke (file : Settings.File) (arguments : List String) (input : String) : Run :=
  match startSettings file with
  | .error _ => ⟨[loadFailure], 1⟩
  | .ok settings =>
    let naming := namingOf settings arguments
    match queriesOf arguments with
    | [] => (session naming ((linesOf input.toList).map meantLine)).after banner
    | queries => ⟨queries.map (answer naming), 0⟩

end FindToSelect.Console
