/-!
# Arguments

The program replays a script, shows the configuration that a file stands for, or
tells its version.  Arguments are taken from left to right.  An option may stand
before or after the script, and takes its value from the same argument or from
the next one; no option may be repeated.
-/

namespace Inflight.CommandLine

set_option autoImplicit false

/-! ## Requests -/

/-- What a replay is asked to do. -/
structure ReplayRequest where
  script : String
  /-- The path of the configuration; none for the defaults. -/
  config : Option String := none
  /-- The path of a log that is open from the start. -/
  log : Option String := none
  /-- Whether the summary is left out. -/
  noSummary : Bool := false
deriving DecidableEq, Repr

/-- What the program is asked to do. -/
inductive Request where
  | replay (request : ReplayRequest)
  | checkConfig (path : String)
  | version
deriving DecidableEq, Repr

/-- The arguments after the first one, as far as they have been taken. -/
structure Draft where
  /-- The path that is no option's value. -/
  path : Option String := none
  config : Option String := none
  log : Option String := none
  /-- Whether the summary is left out. -/
  noSummary : Bool := false

/-- An option that takes a value. -/
inductive ValueOption where
  | config
  | log

/-- What one argument is. -/
inductive Argument where
  /-- The mark after which no argument is an option. -/
  | separator
  /-- An option with a value in the same argument. -/
  | valued (option : ValueOption) (value : String)
  /-- An option whose value is the next argument. -/
  | awaiting (option : ValueOption)
  /-- The option that leaves the summary out. -/
  | noSummary
  | plain (value : String)
  | unknown

/-- The option with a long name. -/
def ValueOption.ofLong? : List Char → Option ValueOption
  | ['c', 'o', 'n', 'f', 'i', 'g'] => some .config
  | ['l', 'o', 'g'] => some .log
  | _ => none

/-- The option with a one-letter name. -/
def ValueOption.ofShort? : Char → Option ValueOption
  | 'c' => some .config
  | 'l' => some .log
  | _ => none

/-- An option with a long name, and a value after an equals sign. -/
def Argument.ofLong (cs : List Char) : Argument :=
  let name := cs.takeWhile (· != '=')
  match ValueOption.ofLong? name, (cs.dropWhile (· != '=')).tail? with
  | some option, some value => .valued option (String.ofList value)
  | some option, none => .awaiting option
  | none, none => if String.ofList name = "no-summary" then .noSummary else .unknown
  | none, some _ => .unknown

/-- An option with a one-letter name, and what follows the letter; an equals sign there is not
part of the value. -/
def Argument.ofShort (letter : Char) (rest : List Char) : Argument :=
  match ValueOption.ofShort? letter, rest with
  | some option, [] => .awaiting option
  | some option, '=' :: value => .valued option (String.ofList value)
  | some option, value => .valued option (String.ofList value)
  | none, _ => .unknown

/-- What an argument is.  A single dash is a value. -/
def Argument.ofText (text : String) : Argument :=
  match text.toList with
  | ['-', '-'] => .separator
  | '-' :: '-' :: name => .ofLong name
  | '-' :: letter :: rest => .ofShort letter rest
  | _ => .plain text

/-- Gives an option its value.  An option may not be repeated, and the configuration's path may
not be empty. -/
def Draft.set (draft : Draft) (value : String) : ValueOption → Option Draft
  | .config =>
    if draft.config.isSome ∨ value = "" then none else some { draft with config := some value }
  | .log => if draft.log.isSome then none else some { draft with log := some value }

/-- Takes a path that is no option's value.  There is one at most, and it is not empty. -/
def Draft.setPath (draft : Draft) (value : String) : Option Draft :=
  if draft.path.isSome ∨ value = "" then none else some { draft with path := some value }

/-- Takes arguments; none when they are not understood.  Options may be ruled out. -/
def Draft.take (options : Bool) : Draft → List String → Option Draft
  | draft, [] => some draft
  | draft, text :: rest =>
    match Argument.ofText text, options with
    | .separator, _ => rest.foldlM Draft.setPath draft
    | .plain value, _ => (draft.setPath value).bind fun draft => take options draft rest
    | .valued option value, true =>
      (draft.set value option).bind fun draft => take options draft rest
    | .awaiting option, true =>
      match rest with
      | [] => none
      | next :: rest =>
        match Argument.ofText next with
        | .plain value => (draft.set value option).bind fun draft => take options draft rest
        | _ => none
    | .noSummary, true =>
      if draft.noSummary then none else take options { draft with noSummary := true } rest
    | _, _ => none

/-- Takes the arguments of a replay. -/
def takeReplay (texts : List String) : Option Request := do
  let draft ← Draft.take true {} texts
  let script ← draft.path
  return .replay { script, config := draft.config, log := draft.log, noSummary := draft.noSummary }

/-- Takes the path of a configuration to show. -/
def takeCheckConfig (texts : List String) : Option Request := do
  let draft ← Draft.take false {} texts
  draft.path.map .checkConfig

/-- Whether an argument asks for the version. -/
def asksVersion (text : String) : Bool :=
  text == "--version" || text.startsWith "-V"

/-- Takes all arguments; none when they are not understood. -/
def Request.ofArguments : List String → Option Request
  | [] => none
  | first :: rest =>
    if asksVersion first then some .version
    else
      match first with
      | "replay" => takeReplay rest
      | "check-config" => takeCheckConfig rest
      | _ => none

/-- The paths of the files that a request reads. -/
def Request.inputPaths : Request → List String
  | .replay request => request.config.toList ++ [request.script]
  | .checkConfig path => [path]
  | .version => []

end Inflight.CommandLine
