import Gamebook.Outside.Basic
import Gamebook.Player.Arguments
import Gamebook.Player.Command
import Gamebook.Player.View
import Gamebook.Session

/-! Playing in a terminal: the player is booted, and each line of input makes a call whose outcome is
told before the screen is shown again. -/
namespace Gamebook.Player

def greeting : String := String.join ([
  "=== versecraft ===",
  "",
  "Controls:",
  "  <n>        activate region n",
  "  c<n>       choose story slot n",
  "  t <x> <y>  tap at a point (percent)",
  "  g <id>     go to a screen or alias",
  "  l          show the screen again",
  "  q          quit",
  ""].map (· ++ "\n"))

def prompt : String := "> "
def farewell : String := "Goodbye!\n"

def tapText : App.TapOutcome → String
  | .slot none => "[Not a choice]\n"
  | .pointer .ignored => "[Nothing there]\n"
  | .pointer (.navigated none) => "[Navigation refused]\n"
  | .pointer (.unhandled action _) => "[Unhandled action " ++ action ++ "]\n"
  | _ => ""

/-- What is told of a command before the screen is shown; `none` if it made no call. -/
def outcomeText : Command → Option Answer → String
  | .region n, none => "[No region " ++ toString n ++ "]\n"
  | .choice _, none => "[Not a choice]\n"
  | .choice _, some (.node none) => "[Not a choice]\n"
  | .go raw, some (.screen none) => "[Cannot go to " ++ raw ++ "]\n"
  | _, some (.tapped outcome) => tapText outcome
  | _, _ => ""

def afterCommand (stage : Stage) (view : View) (command : Command) (answer : Option Answer) :
    String × View :=
  match command with
  | .unknown line => ("Invalid input: " ++ line ++ "\n", view)
  | _ =>
    let (text, view) := screenText stage view (command = .look)
    (outcomeText command answer ++ text, view)

def failureText (reason : String) : String :=
  "Error: Player mode failed\nReason: " ++ reason ++ "\n"

def mistakeText (message : String) : String := "Error: " ++ message ++ "\n\n"

def unknownCommand (command : String) : String := "Unknown command '" ++ command ++ "'"

/-- The settings of a game: the directory from the command line wins over the settings file, and one
from the environment over both. -/
def gameSettings (c : Settings) (args : PlayArguments) (root : Option String) : Settings :=
  Settings.withRoot { c with content := { c.content with root := args.content } } root

def gameApp (c : Settings) : App := App.ofCatalog (.packs c.content.catalogPath none)

abbrev Line := Option String

structure Transcript where
  out : String := ""
  err : String := ""
  code : Nat := 0
  deriving DecidableEq, Repr

def Transcript.say (t : Transcript) (text : String) : Transcript := { t with out := t.out ++ text }

def Transcript.fail (t : Transcript) (reason : String) : Transcript :=
  { t with err := t.err ++ failureText reason, code := 1 }

def answer? (c : Settings) (call : Call) : Act Session (Option Answer) := do
  match ← Session.call c 0 (.player call) with
  | .done (.player a) => return some a
  | _ => return none

/-- Plays the lines that are left; the end of the input ends the game too. -/
def playLines (c : Settings) : List Line → View → Transcript → Act Session Transcript
  | [], _, t => return t.say prompt
  | none :: _, _, t => return (t.say prompt).fail FileFault.notUtf8.message
  | some line :: rest, view, t => do
    match Command.ofLine line with
    | .quit => return t.say (prompt ++ farewell)
    | command => do
      let answer ← match command.call? (← Act.get).app.stage with
        | some call => answer? c call
        | none => pure none
      let (text, view) := afterCommand (← Act.get).app.stage view command answer
      playLines c rest view (t.say (prompt ++ text))

def play (c : Settings) (screen : Option String) (input : List Line) : Act Session Transcript := do
  match ← answer? c (.boot screen) with
  | some (.loaded (.error cause)) => return Transcript.fail {} cause.chain
  | _ => do
    let (text, view) := screenText (← Act.get).app.stage {} true
    playLines c input view (Transcript.say {} (greeting ++ text))

open Outside in
def fileSettings (text : Except FileFault String) : Except String Settings := do
  let text ← text.mapError FileFault.message
  (Settings.ofText text).mapError (Json.Complaint.message text)

open Outside in
def run (args : List String) (root : Option String) (input : List Line) (disk : Disk) :
    Transcript × Disk :=
  match Invocation.ofArguments args with
  | .nothing => ({ out := usage, code := 1 }, disk)
  | .help => ({ out := usage }, disk)
  | .unknown command =>
    ({ out := usage, err := mistakeText (unknownCommand command), code := 1 }, disk)
  | .play (.error fault) => ({ out := usage, err := mistakeText fault.message, code := 1 }, disk)
  | .play (.ok given) =>
    match given.settings.elim (.ok {}) fun path => fileSettings (disk.readText path) with
    | .error reason => (Transcript.fail {} reason, disk)
    | .ok c =>
      let c := gameSettings c given root
      let made := play c given.screen input ⟨gameApp c, .ofSettings c disk, none, [], []⟩
      (made.value, made.state.outside.disk)

/-- Cuts input behind each line feed; what follows the last one is a line if there is anything. -/
def splitInput : List UInt8 → List (List UInt8)
  | [] => []
  | b :: rest =>
    if b = 10 then [b] :: splitInput rest
    else
      match splitInput rest with
      | [] => [[b]]
      | l :: ls => (b :: l) :: ls

def lineOfBytes (bytes : List UInt8) : Line := String.fromUTF8? ⟨bytes.toArray⟩

def linesOfInput (bytes : List UInt8) : List Line := (splitInput bytes).map lineOfBytes

end Gamebook.Player
