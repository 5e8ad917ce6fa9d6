import ParameterConfig.Json
import ParameterConfig.Number.Shortest
import ParameterConfig.Text.Quoted

/-!
# Showing values to people

The form in which values that can be written stand in messages and on a console. A text by itself is shown as it is; inside a list or a mapping it is shown quoted.
-/

namespace ParameterConfig
namespace Json

def displayNames : Double.SpecialNames :=
  { infinity := "inf", notANumber := "nan" }

mutual

/-- The form in which a text is quoted. -/
def shown : Json → String
  | .null => "None"
  | .bool true => "True"
  | .bool false => "False"
  | .integer n => toString n
  | .float x => x.text displayNames
  | .string s => Text.quoted s
  | .array items => "[" ++ ", ".intercalate (shownItems items) ++ "]"
  | .object members => "\x7b" ++ ", ".intercalate (shownMembers members) ++ "\x7d"

def shownItems : List Json → List String
  | [] => []
  | item :: items => shown item :: shownItems items

def shownMembers : List (String × Json) → List String
  | [] => []
  | (name, value) :: members => (Text.quoted name ++ ": " ++ shown value) :: shownMembers members

end

/-- The form in which a text by itself is not quoted. -/
def display : Json → String
  | .string s => s
  | value => value.shown

end Json
end ParameterConfig
