/-!
# Malformed patterns

The reasons for which a text is not the spelling of a pattern.
-/

namespace Highlight.Pattern

/-- Why a text is not a pattern. -/
inductive Malformed where
  | unclosedGroup
  | unopenedGroup
  | groupName
  | duplicateGroupName
  | flags
  | lookAround
  | backreference
  | nothingToRepeat
  | repetitionCount
  | escape
  | unclosedClass
  | classMember
  | classRange
  | property
  | notText
  | tooDeep
  | tooLarge
  deriving DecidableEq, Repr

end Highlight.Pattern
