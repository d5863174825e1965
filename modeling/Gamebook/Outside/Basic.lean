import Gamebook.Act
import Gamebook.Outside.Disk
import Gamebook.Outside.Marker
import Gamebook.Settings

/-! The outside of a player: a source of documents and a store of readers' places, each in memory or in
files. It answers the requests of calls. -/
namespace Gamebook

namespace Outside

/-- Documents in memory are counted each time they are asked for. -/
inductive Source
  | memory (documents : Table String String) (fetches : Table String Nat)
  | files (base : String)
  deriving DecidableEq, Repr

/-- A store in memory can be made to refuse. -/
inductive Store
  | memory (places : Table StoryId NodeId) (refusesLoad refusesSave : Bool)
  | files (base : String)
  deriving DecidableEq, Repr

def markerPath (base : String) (story : StoryId) : String :=
  Path.join base (story.text ++ ".position.json")

def parseDocument (path text : String) : Except SourceFault Json.Value :=
  match Json.Value.ofText? text with
  | some doc => .ok doc
  | none => .error (.unparsable path)

def documentPath (base path : String) : String := Path.join base (Path.relative path)

def fileDocument (base path : String) : Except FileFault String → Except SourceFault Json.Value
  | .ok text => parseDocument path text
  | .error .noEntry => .error (.notFound path)
  | .error cause => .error (.unreadable path (documentPath base path) cause)

/-- The place that a marker file holds for a story; without a file there is none. -/
def filePlace (base : String) (story : StoryId) :
    Except FileFault String → Except StoreFault (Option NodeId)
  | .error .noEntry => .ok none
  | .error cause => .error (.unreadable (markerPath base story) cause)
  | .ok text =>
    match Marker.ofText text with
    | .error _ => .error (.invalidMarker (markerPath base story))
    | .ok m =>
      if m.story = story then .ok (some m.node)
      else .error (.foreignMarker (markerPath base story) m.story)

end Outside

open Outside

structure Outside where
  disk : Disk := ⟨[], []⟩
  source : Source
  store : Store
  deriving DecidableEq, Repr

namespace Outside

/-- Files below the content root, and markers in the save directory unless nothing is to be kept. -/
def ofSettings (c : Settings) (disk : Disk) : Outside where
  disk
  source := .files c.content.root
  store := if c.persistence.enabled then .files c.persistence.saveDir else .memory [] false false

def fetch (o : Outside) (path : String) : Except SourceFault Json.Value × Outside :=
  match o.source with
  | .memory documents fetches =>
    let count := (fetches.get? path).getD 0 + 1
    let result := match documents.get? path with
      | some text => parseDocument path text
      | none => .error (.notFound path)
    (result, { o with source := .memory documents (fetches.put path count) })
  | .files base => (fileDocument base path (o.disk.readText (documentPath base path)), o)

def loadPlace (o : Outside) (story : StoryId) : Except StoreFault (Option NodeId) :=
  match o.store with
  | .memory places refuses _ =>
    if refuses then .error (.unavailable "load refused") else .ok (places.get? story)
  | .files base => filePlace base story (o.disk.readText (markerPath base story))

def savePlace (o : Outside) (story : StoryId) (node : NodeId) : Except StoreFault Unit × Outside :=
  match o.store with
  | .memory places load save =>
    if save then (.error (.unavailable "save refused"), o)
    else (.ok (), { o with store := .memory (places.put story node) load save })
  | .files base =>
    match o.disk.makePath base with
    | (.error cause, disk) => (.error (.noDirectory cause), { o with disk })
    | (.ok (), disk) =>
      match disk.writeText (markerPath base story) (Marker.text ⟨story, node⟩) with
      | .error cause => (.error (.unwritable (markerPath base story) cause), { o with disk })
      | .ok disk => (.ok (), { o with disk })

def answer (o : Outside) : (r : Request) → r.Reply × Outside
  | .document path => o.fetch path
  | .place story => (o.loadPlace story, o)
  | .savePlace story node => o.savePlace story node
  | .turn => ((), o)

end Outside
end Gamebook
