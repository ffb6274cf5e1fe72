/-
Where in a command an error is, as messages show it.

The command is shown on a line of its own, and a caret below it marks the offset of the error.
-/
import SceneLang.Error

namespace SceneLang

/-- What is known of the place of an error. -/
structure Location where
  text : Option String
  position : Option Int

namespace Location

/-- What stands before the command. -/
def label : String := "  command: "

/-- A caret behind as many spaces as the label and the offset take. -/
def caret (position : Int) : String :=
  String.ofList (List.replicate (label.length + position).toNat ' ' ++ ['^'])

/-- The place in words: the command with a caret under the offset, or what is known of it. -/
def render (x : Location) : String :=
  match x.text, x.position with
  | some text, some position => label ++ text ++ "\n" ++ caret position
  | some text, none => label ++ text
  | none, some position => "  at offset " ++ integerText position
  | none, none => ""

/-- A message followed by the place it is about. -/
def annotate (message : String) (x : Location) : String :=
  let place := x.render
  if place = "" then message else message ++ "\n" ++ place

end Location

end SceneLang
