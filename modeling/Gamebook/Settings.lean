import Gamebook.Json.Record
import Gamebook.Name

/-! The settings of a player, their defaults, and how they are read from a document. Anything that
the document leaves out keeps its default. -/
namespace Gamebook

/-- The words that stand for a remembered screen. -/
structure AliasNames where
  lastLibrary : String := "last_library"
  lastStory : String := "last_story"
  deriving DecidableEq, Repr

structure ContentSettings where
  root : String := "."
  registryPath : String := "sec/screen_registry.json"
  catalogPath : String := "content/catalog/catalog.json"
  deriving DecidableEq, Repr

structure NavigationSettings where
  storyStem : String := "story_"
  libraryStem : String := "library"
  aliases : AliasNames := {}
  deriving DecidableEq, Repr

structure StorySettings where
  defaultStart : NodeId := ⟨"S01"⟩
  disabledLabel : String := "Not a choice"
  continueLabel : String := "Continue"
  deriving DecidableEq, Repr

structure PersistenceSettings where
  enabled : Bool := true
  saveDir : String := "saves"
  deriving DecidableEq, Repr

structure Settings where
  content : ContentSettings := {}
  navigation : NavigationSettings := {}
  story : StorySettings := {}
  persistence : PersistenceSettings := {}
  deriving DecidableEq, Repr

/-- What follows `stem` in a text that starts with it. -/
def afterStem? (stem s : String) : Option String :=
  (stem.toList.isPrefixOf? s.toList).map String.ofList

namespace NavigationSettings

def isStoryScreen (c : NavigationSettings) (screen : ScreenId) : Bool :=
  (afterStem? c.storyStem screen.text).isSome

def isLibraryScreen (c : NavigationSettings) (screen : ScreenId) : Bool :=
  (afterStem? c.libraryStem screen.text).isSome

/-- The story that a screen tells; the stem alone names none. -/
def storyOf? (c : NavigationSettings) (screen : ScreenId) : Option StoryId :=
  match afterStem? c.storyStem screen.text with
  | some rest => if rest = "" then none else some ⟨rest⟩
  | none => none

end NavigationSettings

open Json (Complaint)
open Json.Draft (Placed FieldReader readText readPath readBool readRecord)

namespace AliasNames

def fields : List (FieldReader AliasNames) := [
  ⟨"last_library", fun d r => do return { r with lastLibrary := ← readText d }⟩,
  ⟨"last_story", fun d r => do return { r with lastStory := ← readText d }⟩]

def ofDraft : Placed → Except Complaint AliasNames := readRecord "AliasNames" fields {}

end AliasNames

namespace ContentSettings

def fields : List (FieldReader ContentSettings) := [
  ⟨"root", fun d r => do return { r with root := ← readPath d }⟩,
  ⟨"registry_path", fun d r => do return { r with registryPath := ← readText d }⟩,
  ⟨"catalog_path", fun d r => do return { r with catalogPath := ← readText d }⟩]

def ofDraft : Placed → Except Complaint ContentSettings := readRecord "ContentConfig" fields {}

end ContentSettings

namespace NavigationSettings

def fields : List (FieldReader NavigationSettings) := [
  ⟨"story_prefix", fun d r => do return { r with storyStem := ← readText d }⟩,
  ⟨"library_prefix", fun d r => do return { r with libraryStem := ← readText d }⟩,
  ⟨"aliases", fun d r => do return { r with aliases := ← AliasNames.ofDraft d }⟩]

def ofDraft : Placed → Except Complaint NavigationSettings :=
  readRecord "NavigationConfig" fields {}

end NavigationSettings

namespace StorySettings

def fields : List (FieldReader StorySettings) := [
  ⟨"default_start", fun d r => do return { r with defaultStart := ⟨← readText d⟩ }⟩,
  ⟨"disabled_label", fun d r => do return { r with disabledLabel := ← readText d }⟩,
  ⟨"continue_label", fun d r => do return { r with continueLabel := ← readText d }⟩]

def ofDraft : Placed → Except Complaint StorySettings := readRecord "StoryConfig" fields {}

end StorySettings

namespace PersistenceSettings

def fields : List (FieldReader PersistenceSettings) := [
  ⟨"enabled", fun d r => do return { r with enabled := ← readBool d }⟩,
  ⟨"save_dir", fun d r => do return { r with saveDir := ← readPath d }⟩]

def ofDraft : Placed → Except Complaint PersistenceSettings :=
  readRecord "PersistenceConfig" fields {}

end PersistenceSettings

namespace Settings

def fields : List (FieldReader Settings) := [
  ⟨"content", fun d r => do return { r with content := ← ContentSettings.ofDraft d }⟩,
  ⟨"navigation", fun d r => do return { r with navigation := ← NavigationSettings.ofDraft d }⟩,
  ⟨"story", fun d r => do return { r with story := ← StorySettings.ofDraft d }⟩,
  ⟨"persistence", fun d r => do return { r with persistence := ← PersistenceSettings.ofDraft d }⟩]

def ofDraft : Placed → Except Complaint Settings := readRecord "AppConfig" fields {}

def ofText (s : String) : Except Complaint Settings := Json.Draft.readWhole ofDraft s

/-- A root given from outside wins over the document's, unless it is blank. -/
def withRoot (c : Settings) (root : Option String) : Settings :=
  match root with
  | some root => if Text.blank root then c else { c with content := { c.content with root } }
  | none => c

end Settings
end Gamebook
