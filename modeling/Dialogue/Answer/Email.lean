import Dialogue.Text.Blank

/-!
# E-mail addresses

An address has the form `local@domain`. Neither part holds a blank or a second `@`, the local
part is not empty, and the domain has a dot between other characters.

* `isEmail`: whether a text is an address;
* `checkEmail`: the check of an answer, which may have blanks at its ends.
-/

namespace Dialogue

open Text

/-- Whether a character may stand in either part of an address. -/
def isAddressChar (c : Char) : Bool := c != '@' && !isBlank c

/-- Whether a text has a dot that is neither its first nor its last character. -/
def hasInnerDot (s : List Char) : Bool := s.tail.dropLast.contains '.'

/-- Whether a text is an e-mail address. -/
def isEmail (s : List Char) : Bool :=
  match s.takeWhile isAddressChar, s.dropWhile isAddressChar with
  | _ :: _, '@' :: domain => domain.all isAddressChar && hasInnerDot domain
  | _, _ => false

/-- Why an answer is no address. -/
inductive EmailFault
  | empty
  | invalid (text : String)
  deriving DecidableEq

/-- The code of a fault. -/
def EmailFault.code : EmailFault → String
  | .empty => "EMPTY_EMAIL"
  | .invalid _ => "INVALID_EMAIL"

/-- The words for a fault. -/
def EmailFault.message : EmailFault → String
  | .empty => "Email cannot be empty"
  | .invalid text => "'" ++ text ++ "' is not a valid email address"

/-- What stands against an answer as an e-mail address. -/
def checkEmail (answer : String) : Option EmailFault :=
  let s := strip answer.toList
  if s.isEmpty then some .empty
  else if isEmail s then none
  else some (.invalid (String.ofList s))

end Dialogue
