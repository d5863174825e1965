import Gamebook.Fault

/-! Warnings and errors that a player gives while it works. -/
namespace Gamebook

inductive Notice
  | noCollection
  | linkIgnored (cause : Screen.Refusal)
  | refused (cause : Screen.Refusal)
  | regionsFailed (screen : ScreenId) (cause : SourceFault)
  | noSurface (screen : ScreenId)
  | shownWithoutRegions (screen : ScreenId)
  | unhandledAction (action : String) (arg : Option String)
  | notInCatalog (story : StoryId)
  | catalogFailed (path : String) (cause : SourceFault)
  | storyFailed (cause : SourceFault)
  | placeUnreadable (story : StoryId) (cause : StoreFault)
  | noContent (story : StoryId)
  | startMissing (start : NodeId) (story : StoryId)
  | placeUnsaved (story : StoryId) (cause : StoreFault)
  | startFailed (name : String) (cause : StartFault)
  | startsFailed (count : Nat)
  | transitionsMissed (count : Nat)
  | bootFailed (cause : LoadFault)
  deriving DecidableEq

namespace Notice

def isError : Notice → Bool
  | regionsFailed .. => true
  | bootFailed .. => true
  | _ => false

def argText : Option String → String
  | some s => "Some(" ++ Text.quoted s ++ ")"
  | none => "None"

def text : Notice → String
  | noCollection => "[story] document has no scenes, nodes or sections"
  | linkIgnored cause => "[navigation] ignoring deep link: " ++ cause.message
  | refused cause => "[navigation] " ++ cause.message
  | regionsFailed screen cause =>
    "[hitboxes] hitbox error on " ++ screen.text ++ ": " ++ cause.message
  | noSurface screen => "[hitboxes] no region container for " ++ screen.text
  | shownWithoutRegions screen =>
    "[navigation] " ++ screen.text ++ " shown without interactive regions"
  | unhandledAction action arg =>
    "[input] unhandled action " ++ Text.quoted action ++ " (" ++ argText arg ++ ")"
  | notInCatalog story => "[story] " ++ story.text ++ " is not in the catalog"
  | catalogFailed path cause => "[catalog] failed to load " ++ path ++ ": " ++ cause.message
  | storyFailed cause => "[story] " ++ cause.message
  | placeUnreadable story cause =>
    "[story] cannot read saved position for " ++ story.text ++ ": " ++ cause.message
  | noContent story => "[story] " ++ story.text ++ " has no content"
  | startMissing start story =>
    "[story] start node " ++ start.text ++ " missing from " ++ story.text ++ ", using first node"
  | placeUnsaved story cause =>
    "[story] cannot save position for " ++ story.text ++ ": " ++ cause.message
  | startFailed name cause => "[boot] " ++ name ++ " failed to start: " ++ cause.detail
  | startsFailed count => "[boot] " ++ toString count ++ " collaborators failed to start"
  | transitionsMissed count => "[boot] missed " ++ toString count ++ " transitions"
  | bootFailed cause => "[boot] " ++ cause.message

def line (n : Notice) : String := (if n.isError then "ERROR " else "WARN ") ++ n.text

end Notice
end Gamebook
