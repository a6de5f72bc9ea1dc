import FieldOrder.Text.Quoted

namespace FieldOrder.Pattern

inductive Fault where
  | trailingBackslash
  | badEscape (shown : String)
  | incompleteEscape (shown : String)
  | octalTooLarge (shown : String)
  | missing (what : String)
  | unterminatedName (terminator : String)
  | undefinedCharacter (name : String)
  | unterminatedSet
  | badRange (lo hi : String)
  | nothingToRepeat
  | multipleRepeat
  | repeatBoundsReversed
  | endOfPattern
  | badGroupName (name : String)
  | unknownGroupName (name : String)
  | redefinedGroup (name : String) (group earlier : Nat)
  | openGroup
  | groupInLookBehind
  | invalidGroup (group : Nat)
  | zeroGroup
  | unknownExtension (shown : String)
  | unterminatedComment
  | unterminatedGroup
  | unbalancedParenthesis
  | tooManyBranches
  | lateModes
  | localeMode
  | incompatibleModes
  | unknownMode
  | globalModeOn
  | globalModeOff
  | typeModeOff
  | modeOnAndOff
  | looseLookBehind
  deriving Repr, DecidableEq

def Fault.message : Fault → String
  | trailingBackslash => "bad escape (end of pattern)"
  | badEscape shown => "bad escape " ++ shown
  | incompleteEscape shown => "incomplete escape " ++ shown
  | octalTooLarge shown => "octal escape value " ++ shown ++ " outside of range 0-0o377"
  | missing what => "missing " ++ what
  | unterminatedName terminator => "missing " ++ terminator ++ ", unterminated name"
  | undefinedCharacter name => "undefined character name " ++ Text.quoted name
  | unterminatedSet => "unterminated character set"
  | badRange lo hi => "bad character range " ++ lo ++ "-" ++ hi
  | nothingToRepeat => "nothing to repeat"
  | multipleRepeat => "multiple repeat"
  | repeatBoundsReversed => "min repeat greater than max repeat"
  | endOfPattern => "unexpected end of pattern"
  | badGroupName name => "bad character in group name " ++ Text.quoted name
  | unknownGroupName name => "unknown group name " ++ Text.quoted name
  | redefinedGroup name group earlier =>
    "redefinition of group name " ++ Text.quoted name ++ " as group " ++ toString group ++
      "; was group " ++ toString earlier
  | openGroup => "cannot refer to an open group"
  | groupInLookBehind => "cannot refer to group defined in the same lookbehind subpattern"
  | invalidGroup group => "invalid group reference " ++ toString group
  | zeroGroup => "bad group number"
  | unknownExtension shown => "unknown extension ?" ++ shown
  | unterminatedComment => "missing ), unterminated comment"
  | unterminatedGroup => "missing ), unterminated subpattern"
  | unbalancedParenthesis => "unbalanced parenthesis"
  | tooManyBranches => "conditional backref with more than two branches"
  | lateModes => "global flags not at the start of the expression"
  | localeMode => "bad inline flags: cannot use 'L' flag with a str pattern"
  | incompatibleModes => "bad inline flags: flags 'a', 'u' and 'L' are incompatible"
  | unknownMode => "unknown flag"
  | globalModeOn => "bad inline flags: cannot turn on global flag"
  | globalModeOff => "bad inline flags: cannot turn off global flag"
  | typeModeOff => "bad inline flags: cannot turn off flags 'a', 'u' and 'L'"
  | modeOnAndOff => "bad inline flags: flag turned on and off"
  | looseLookBehind => "look-behind requires fixed-width pattern"

inductive Error where
  /-- A fault at a position of `source`, where there is one. -/
  | invalid (fault : Fault) (source : String) (position : Option Nat)
  /-- A number of repetitions beyond what is supported. -/
  | repetitionTooLarge
  /-- ASCII and Unicode classes asked for at once. -/
  | classesIncompatible
  deriving Repr, DecidableEq

def lineColumn (source : String) (position : Nat) : Nat × Nat :=
  let before := source.toList.take position
  (before.count '\n' + 1, (before.reverse.takeWhile (· != '\n')).length + 1)

def Error.message : Error → String
  | invalid fault _ none => fault.message
  | invalid fault source (some position) =>
    let text := fault.message ++ " at position " ++ toString position
    if source.toList.contains '\n' then
      let (line, column) := lineColumn source position
      text ++ " (line " ++ toString line ++ ", column " ++ toString column ++ ")"
    else text
  | repetitionTooLarge => "the repetition number is too large"
  | classesIncompatible => "ASCII and UNICODE flags are incompatible"

/-- The text of the expression as the fault knows it: a fault without a position does not. -/
def Error.shownSource : Error → String
  | invalid _ source (some _) => Text.quoted source
  | _ => "None"

end FieldOrder.Pattern
