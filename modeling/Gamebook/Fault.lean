import Gamebook.Json.Record
import Gamebook.Screen.Route

/-! What can go wrong at the edges of a player, by cause, and how each cause is worded. -/
namespace Gamebook

inductive FileFault
  | noEntry
  | entryExists
  | notDirectory
  | isDirectory
  | nameTooLong
  | nulByte
  | notUtf8
  | other (text : String)
  deriving DecidableEq, Repr

def FileFault.message : FileFault → String
  | noEntry => "No such file or directory (os error 2)"
  | entryExists => "File exists (os error 17)"
  | notDirectory => "Not a directory (os error 20)"
  | isDirectory => "Is a directory (os error 21)"
  | nameTooLong => "File name too long (os error 36)"
  | nulByte => "file name contained an unexpected NUL byte"
  | notUtf8 => "stream did not contain valid UTF-8"
  | other text => text

/-- Why a document cannot be had. A source may know the document under a longer path. -/
inductive SourceFault
  | notFound (path : String)
  | unreadable (path fullPath : String) (cause : FileFault)
  | unparsable (path : String)
  deriving DecidableEq, Repr

def SourceFault.message : SourceFault → String
  | notFound path => "Document not found: " ++ path
  | unreadable path fullPath cause =>
    "Failed to read " ++ path ++ ": " ++ fullPath ++ ": " ++ cause.message
  | unparsable path => "Failed to parse " ++ path ++ ": " ++ Json.Misfit.broken.message

inductive LoadFault
  | source (cause : SourceFault)
  | malformed (path : String) (cause : Json.Misfit)
  deriving DecidableEq

def LoadFault.message : LoadFault → String
  | source cause => "screen registry unavailable: " ++ cause.message
  | malformed path cause => "screen registry " ++ path ++ " is malformed: " ++ cause.message

/-- The wording followed by that of each cause in turn. -/
def LoadFault.chain : LoadFault → String
  | source cause => (source cause).message ++ ": " ++ cause.message
  | f => f.message

inductive StoreFault
  | unreadable (path : String) (cause : FileFault)
  | noDirectory (cause : FileFault)
  | unwritable (path : String) (cause : FileFault)
  | invalidMarker (path : String)
  | foreignMarker (path : String) (owner : StoryId)
  | unavailable (reason : String)
  deriving DecidableEq, Repr

def StoreFault.message : StoreFault → String
  | unreadable path cause => "IO error: Failed to read marker " ++ path ++ ": " ++ cause.message
  | noDirectory cause => "IO error: Failed to create save directory: " ++ cause.message
  | unwritable path cause => "IO error: Failed to write marker " ++ path ++ ": " ++ cause.message
  | invalidMarker path =>
    "Serialization error: Failed to deserialize marker " ++ path ++ ": invalid marker"
  | foreignMarker path owner =>
    "Serialization error: Marker " ++ path ++ " belongs to story " ++ owner.text
  | unavailable reason => "Repository unavailable: " ++ reason

/-- Why a collaborator did not start; the detail names the causes as well. -/
structure StartFault where
  message : String
  detail : String
  deriving DecidableEq, Repr

end Gamebook
