import Mathlib.Data.List.Infix
import Mathlib.Data.Nat.Notation

namespace OdsPipeline.Library

/-- VARCHAR(n) bounds the number of characters. -/
abbrev Varchar (n : Nat) := {text : String // text.length ≤ n}

/-- CHAR_LENGTH counts characters and is NULL on NULL. -/
def charLength (text : Option String) : Option Nat := text.map String.length

/-- Only two letters outside ASCII have an ASCII letter in their lower case.
The other letters outside ASCII keep their code, which no ASCII keyword can see. -/
def lowerChar (letter : Char) : List Char :=
  if letter = '\u0130' then ['i', '\u0307']
  else if letter = '\u212a' then ['k']
  else [letter.toLower]

def lower (text : String) : String := String.ofList (text.toList.flatMap lowerChar)

/-- LIKE '%keyword%' looks for the keyword at any position. -/
def contains (keyword text : String) : Bool := decide (keyword.toList <:+: text.toList)

example : contains "casa" (lower "CASA_construcao") = true := by decide

end OdsPipeline.Library
