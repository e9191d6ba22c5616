import Rune.Failure
import Rune.Pattern.Regex
import Rune.Text.Quoted

/-!
# Rune - faults of regular expressions

What can be wrong with an expression is found while it is read, or while it is
made ready to be matched.

Main results:

- Type {lit}`RegexFault` lists what can be wrong with an expression, and
  {lit}`RegexFault.message` words it.
- Definition {lit}`RegexFault.fault?` tells the few faults that are no complaint
  about the expression.
-/

namespace Rune

/-- What is wrong with an expression. -/
inductive RegexFault where
  | danglingBackslash
  | badEscape (escape : String)
  | incompleteEscape (escape : String)
  | octalTooLarge (escape : String)
  | missingBrace
  | unknownCharacterName (name : String)
  | missingName (what : String)
  | unterminatedName (terminator : String)
  | badGroupName (name : String)
  | unknownGroupName (name : String)
  | redefinedGroup (name : String) (now before : Nat)
  | openGroup
  | lookbehindGroup
  | badGroupNumber
  | invalidGroup (number : Nat)
  | unterminatedSet
  | badRange (low high : String)
  | disorderedRepeat
  | repeatTooLarge
  | nothingToRepeat
  | multipleRepeat
  | unexpectedEnd
  | unknownExtension (text : String)
  | unterminatedComment
  | unterminatedGroup
  | unbalancedParenthesis
  | tooManyBranches
  | lateFlags
  | localeFlag
  | incompatibleFlags
  | missingFlagEnd
  | unknownFlag
  | missingFlag
  | missingColon
  | globalFlagOn
  | alphabetOff
  | globalFlagOff
  | flagOnAndOff
  | asciiAndUnicode
  | numeral (fault : Fault)
  | variableLookbehind
  | lookbehindTooFar
  | templateRepeat (greed : Greed)
  deriving DecidableEq

namespace RegexFault

/-- The wording of a fault. -/
def message : RegexFault → String
  | .danglingBackslash => "bad escape (end of pattern)"
  | .badEscape escape => s!"bad escape {escape}"
  | .incompleteEscape escape => s!"incomplete escape {escape}"
  | .octalTooLarge escape => s!"octal escape value {escape} outside of range 0-0o377"
  | .missingBrace => "missing \x7b"
  | .unknownCharacterName name =>
    let shown := Quoted.quote name
    s!"undefined character name {shown}"
  | .missingName what => s!"missing {what}"
  | .unterminatedName terminator => s!"missing {terminator}, unterminated name"
  | .badGroupName name =>
    let shown := Quoted.quote name
    s!"bad character in group name {shown}"
  | .unknownGroupName name =>
    let shown := Quoted.quote name
    s!"unknown group name {shown}"
  | .redefinedGroup name now before =>
    let shown := Quoted.quote name
    s!"redefinition of group name {shown} as group {now}; was group {before}"
  | .openGroup => "cannot refer to an open group"
  | .lookbehindGroup => "cannot refer to group defined in the same lookbehind subpattern"
  | .badGroupNumber => "bad group number"
  | .invalidGroup number => s!"invalid group reference {number}"
  | .unterminatedSet => "unterminated character set"
  | .badRange low high => s!"bad character range {low}-{high}"
  | .disorderedRepeat => "min repeat greater than max repeat"
  | .repeatTooLarge => "the repetition number is too large"
  | .nothingToRepeat => "nothing to repeat"
  | .multipleRepeat => "multiple repeat"
  | .unexpectedEnd => "unexpected end of pattern"
  | .unknownExtension text => s!"unknown extension {text}"
  | .unterminatedComment => "missing ), unterminated comment"
  | .unterminatedGroup => "missing ), unterminated subpattern"
  | .unbalancedParenthesis => "unbalanced parenthesis"
  | .tooManyBranches => "conditional backref with more than two branches"
  | .lateFlags => "global flags not at the start of the expression"
  | .localeFlag => "bad inline flags: cannot use 'L' flag with a str pattern"
  | .incompatibleFlags => "bad inline flags: flags 'a', 'u' and 'L' are incompatible"
  | .missingFlagEnd => "missing -, : or )"
  | .unknownFlag => "unknown flag"
  | .missingFlag => "missing flag"
  | .missingColon => "missing :"
  | .globalFlagOn => "bad inline flags: cannot turn on global flag"
  | .alphabetOff => "bad inline flags: cannot turn off flags 'a', 'u' and 'L'"
  | .globalFlagOff => "bad inline flags: cannot turn off global flag"
  | .flagOnAndOff => "bad inline flags: flag turned on and off"
  | .asciiAndUnicode => "ASCII and UNICODE flags are incompatible"
  | .numeral fault => fault.message
  | .variableLookbehind => "look-behind requires fixed-width pattern"
  | .lookbehindTooFar => Fault.message .unfitProgram
  | .templateRepeat .greedy => "internal: unsupported template operator MAX_REPEAT"
  | .templateRepeat .lazy => "internal: unsupported template operator MIN_REPEAT"
  | .templateRepeat .possessive => "internal: unsupported template operator POSSESSIVE_REPEAT"

/-- The faults of numbers, of flags and of programs that are no complaint about the
pattern. -/
def fault? : RegexFault → Option Fault
  | .repeatTooLarge => some (.overflow (message .repeatTooLarge))
  | .asciiAndUnicode => some (.badNumeral (message .asciiAndUnicode))
  | .numeral fault => some fault
  | .lookbehindTooFar => some .unfitProgram
  | _ => none

end RegexFault

end Rune
