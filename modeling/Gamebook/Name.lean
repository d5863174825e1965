/-! The names that content is addressed by. Each kind has a type of its own; two names are the same
when their texts are. -/
namespace Gamebook

structure ScreenId where
  text : String
  deriving DecidableEq, Repr

structure StoryId where
  text : String
  deriving DecidableEq, Repr

/-- The name of a scene within its story. -/
structure NodeId where
  text : String
  deriving DecidableEq, Repr

structure Resource where
  text : String
  deriving DecidableEq, Repr

end Gamebook
