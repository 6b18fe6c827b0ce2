import ScriptCore.Value.Coerce

/-!
# Displayed values

A value has a one-line text for people. At the top a string is shown as it is;
inside arrays and records it is quoted. Vacant slots of an array are shown as
`_`; those of a record are left out.
-/

namespace ScriptCore
namespace Value

/-- Text between the parts of a container. -/
def separator : String := ", "

/-- The text of a value inside a container, given its text at the top: strings
are quoted. -/
def nestedText (value : Value) (text : String) : String :=
  match value with
  | str _ => Text.quoted text
  | _ => text

mutual

/-- The displayed text of a value. -/
def display : Value → String
  | void => "void"
  | bool value => boolText value
  | int n => intText n
  | float x => x.toText
  | str bytes => Utf8.text bytes
  | array ⟨⟨slots⟩, _, _, _, _⟩ => "[" ++ separator.intercalate (displaySlots slots) ++ "]"
  | record ⟨className, ⟨⟨slots⟩, _, _, _, _⟩, _⟩ =>
      let fields := displayFields slots
      let body := if fields.isEmpty then "" else " " ++ separator.intercalate fields ++ " "
      className.getD "record" ++ " \x7b" ++ body ++ "\x7d"
  | function f => f.toText
  | resource ref => "<resource " ++ ref.kind ++ "#" ++ toString ref.id ++ ">"
termination_by structural value => value

/-- The parts of an array. -/
def displaySlots : List (Slot Value) → List String
  | [] => []
  | .vacant :: slots => "_" :: displaySlots slots
  | .item value :: slots => nestedText value value.display :: displaySlots slots
  | .entry key value :: slots =>
      (Text.quoted key ++ " => " ++ nestedText value value.display) :: displaySlots slots
termination_by structural slots => slots

/-- The parts of a record. -/
def displayFields : List (Slot Value) → List String
  | [] => []
  | .vacant :: slots => displayFields slots
  | .item value :: slots => ("_: " ++ nestedText value value.display) :: displayFields slots
  | .entry key value :: slots =>
      (key ++ ": " ++ nestedText value value.display) :: displayFields slots
termination_by structural slots => slots

end

end Value
end ScriptCore
