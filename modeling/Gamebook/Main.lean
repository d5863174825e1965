import Gamebook.Player.Play

/-! The player at a terminal: the requests of its calls are answered from the file system as they come,
and notices go to the error stream. -/
namespace Gamebook.Terminal

open Outside Player

/-- The number of a refusal, which may be given as its negative. -/
def number (code : UInt32) : UInt32 := if code < 4096 then code else 0 - code

def describe (code : UInt32) (text : String) : FileFault :=
  match number code with
  | 20 => .notDirectory
  | 21 => .isDirectory
  | 36 => .nameTooLong
  | n => .other (text.capitalize ++ " (os error " ++ toString n ++ ")")

def fault : IO.Error → FileFault
  | .noFileOrDirectory .. => .noEntry
  | .alreadyExists .. => .entryExists
  | .inappropriateType _ code text => describe code text
  | .permissionDenied _ code text => describe code text
  | .invalidArgument _ code text => describe code text
  | .resourceExhausted _ code text => describe code text
  | .noSuchThing _ code text => describe code text
  | .otherError code text => describe code text
  | e => .other (toString e)

def attempt {α : Type} (path : String) (x : IO α) : IO (Except FileFault α) := do
  match Path.check path.toList with
  | .error cause => return .error cause
  | .ok () => try return .ok (← x) catch e => return .error (fault e)

def readText (path : String) : IO (Except FileFault String) := do
  match ← attempt path (IO.FS.readBinFile path) with
  | .error cause => return .error cause
  | .ok bytes =>
    match String.fromUTF8? bytes with
    | some text => return .ok text
    | none => return .error .notUtf8

structure Desk where
  app : App
  /-- The places of readers while nothing is to be kept. -/
  places : Table StoryId NodeId := []
  noticed : Bool

abbrev Playing := StateT Desk IO

def makeDirectory (path : String) : IO (Except FileFault Unit) := attempt path (IO.FS.createDir path)

/-- A directory that is there already is as good as one that was made. -/
def orPresent (path : String) : Except FileFault Unit → IO (Except FileFault Unit)
  | .ok () => return .ok ()
  | .error cause => do
    match ← attempt path (do (← IO.FS.realPath path).isDir) with
    | .ok true => return .ok ()
    | _ => return .error cause

/-- Makes a directory, and those above it that are missing. -/
partial def makeDirectories (ss : List (List Char)) : IO (Except FileFault Unit) := do
  if ss = [] then return .ok ()
  let path := Path.spell ss
  match ← makeDirectory path with
  | .error .noEntry =>
    match ← makeDirectories (Path.above ss) with
    | .ok () => orPresent path (← makeDirectory path)
    | failed => return failed
  | made => orPresent path made

def makePath (path : String) : IO (Except FileFault Unit) :=
  makeDirectories (if path = "" then [] else Path.segments path.toList)

def save (base : String) (story : StoryId) (node : NodeId) : IO (Except StoreFault Unit) := do
  match ← makePath base with
  | .error cause => return .error (.noDirectory cause)
  | .ok () =>
    let path := markerPath base story
    let written ← attempt path (IO.FS.writeFile path (Marker.text ⟨story, node⟩))
    return written.mapError (.unwritable path)

def answer (c : Settings) : (r : Request) → Playing r.Reply
  | .document path => do
    return fileDocument c.content.root path (← readText (documentPath c.content.root path))
  | .place story => do
    if c.persistence.enabled then
      let base := c.persistence.saveDir
      return filePlace base story (← readText (markerPath base story))
    else return .ok ((← get).places.get? story)
  | .savePlace story node => do
    if c.persistence.enabled then save c.persistence.saveDir story node
    else
      modify fun d => { d with places := d.places.put story node }
      return .ok ()
  | .turn => return ()

def step {α : Type} (x : Act App α) : Playing α := do
  let d ← get
  let made := x d.app
  set { d with app := made.state }
  if d.noticed then
    for notice in made.notices do IO.eprintln notice.line
  return made.value

/-- Answers the requests of a call until it is done. -/
partial def settle (c : Settings) : Progress Waiting Answer → Playing Answer
  | .done a => return a
  | .waiting w => do
    let reply ← answer c w.request
    settle c (← step (App.resume c w reply))

def perform (c : Settings) (call : Call) : Playing Answer := do
  settle c (← step (App.begin c call))

def display (text : String) : Playing Unit := do
  IO.print text
  (← IO.getStdout).flush

/-- Bytes up to a line feed or the end of the input, after those that came before. -/
partial def readBytes (input : IO.FS.Stream) (before : ByteArray) : IO ByteArray := do
  let bytes ← input.read 1
  if bytes.isEmpty || bytes[0]? = some 10 then return before ++ bytes
  else readBytes input (before ++ bytes)

def fail (reason : String) : IO UInt32 := do
  IO.eprint (failureText reason)
  return 1

partial def playLines (c : Settings) (view : View) : Playing UInt32 := do
  display prompt
  let bytes ← readBytes (← IO.getStdin) .empty
  if bytes.isEmpty then return 0
  match lineOfBytes bytes.toList with
  | none => fail FileFault.notUtf8.message
  | some line =>
    match Command.ofLine line with
    | .quit => do
      display farewell
      return 0
    | command => do
      let answer ← match command.call? (← get).app.stage with
        | some call => some <$> perform c call
        | none => pure none
      let (text, view) := afterCommand (← get).app.stage view command answer
      display text
      playLines c view

def playGame (c : Settings) (screen : Option String) : Playing UInt32 := do
  match ← perform c (.boot screen) with
  | .loaded (.error cause) => fail cause.chain
  | _ => do
    let (text, view) := screenText (← get).app.stage {} true
    display (greeting ++ text)
    playLines c view

def mistake (message : String) : IO UInt32 := do
  IO.eprint (mistakeText message)
  IO.print usage
  return 1

end Gamebook.Terminal

open Gamebook Player Terminal in
def main (args : List String) : IO UInt32 := do
  match Invocation.ofArguments args with
  | .nothing => do
    IO.print usage
    return 1
  | .help => do
    IO.print usage
    return 0
  | .unknown command => mistake (unknownCommand command)
  | .play (.error cause) => mistake cause.message
  | .play (.ok given) => do
    let settings ← match given.settings with
      | none => pure (.ok {})
      | some path => fileSettings <$> readText path
    match settings with
    | .error reason => fail reason
    | .ok c => do
      let c := gameSettings c given (← IO.getEnv rootVariable)
      let noticed := (← IO.getEnv logVariable) ≠ some "off"
      (playGame c given.screen).run' ⟨gameApp c, [], noticed⟩
