import Gamebook.Settings

/-! The command line of the terminal player. -/
namespace Gamebook.Player

structure PlayArguments where
  content : String
  screen : Option String := none
  settings : Option String := none
  deriving DecidableEq, Repr

inductive ArgumentFault
  | noScreen
  | noFile
  | unknownOption (arg : String)
  | unexpected (arg : String)
  | noContent
  deriving DecidableEq, Repr

def ArgumentFault.message : ArgumentFault → String
  | noScreen => "--screen needs a screen id"
  | noFile => "--config needs a file"
  | unknownOption arg => "Unknown option '" ++ arg ++ "'"
  | unexpected arg => "Unexpected argument '" ++ arg ++ "'"
  | noContent => "Missing content directory"

structure Given where
  content : Option String := none
  screen : Option String := none
  settings : Option String := none

def isOption (arg : String) : Bool := (afterStem? "--" arg).isSome

/-- An option takes the word after it, whatever that is. -/
def readArguments : List String → Given → Except ArgumentFault PlayArguments
  | [], given =>
    match given.content with
    | some content => .ok ⟨content, given.screen, given.settings⟩
    | none => .error .noContent
  | arg :: rest, given =>
    if arg = "--screen" then
      match rest with
      | screen :: rest => readArguments rest { given with screen := some screen }
      | [] => .error .noScreen
    else if arg = "--config" then
      match rest with
      | settings :: rest => readArguments rest { given with settings := some settings }
      | [] => .error .noFile
    else if isOption arg then .error (.unknownOption arg)
    else if given.content.isSome then .error (.unexpected arg)
    else readArguments rest { given with content := some arg }

inductive Invocation
  | nothing
  | help
  | play (args : Except ArgumentFault PlayArguments)
  | unknown (command : String)

def Invocation.ofArguments : List String → Invocation
  | [] => nothing
  | command :: rest =>
    if command = "play" then play (readArguments rest {})
    else if command = "--help" ∨ command = "-h" then help
    else unknown command

def rootVariable : String := "VERSECRAFT_CONTENT_ROOT"

/-- Notices are not printed where this says `off`. -/
def logVariable : String := "RUST_LOG"

def usage : String := String.join ([
  "versecraft - Screen navigation and branching story player",
  "",
  "USAGE:",
  "    versecraft play <content-dir> [--screen <id>] [--config <file>]",
  "",
  "COMMANDS:",
  "    play <dir>    Play a content directory in the terminal",
  "    --help, -h    Show this help message",
  "",
  "OPTIONS:",
  "    --screen <id>     Start on this screen instead of the registry's start screen",
  "    --config <file>   JSON configuration file",
  "",
  "ENVIRONMENT:",
  "    " ++ rootVariable ++ "   Overrides the content directory",
  "    " ++ logVariable ++ "                  Log filter (default: info)"].map (· ++ "\n"))

end Gamebook.Player
