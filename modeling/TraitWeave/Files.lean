import TraitWeave.Path

/-!
# Files

What reading definitions needs to know of the files: which paths lead to regular files, and their texts.
-/

namespace TraitWeave

/-- The files as they stand at one moment. -/
structure Files where
  /-- The path leads to a regular file. -/
  isFile : Path → Bool
  /-- The text of a file, or the reason why it cannot be read. -/
  text : Path → Except String String

end TraitWeave
