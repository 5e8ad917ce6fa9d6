import ParameterConfig.Failure
import ParameterConfig.Json.Display

/-!
# Texts of library errors

The message of an error, followed in parentheses by its details in their order when there are any. There is none when a detail cannot be written.
-/

namespace ParameterConfig
namespace LibraryError

def detailText (name : String) (value : Json) : Except Failure String := do
  Failure.checkWritable value
  return name ++ "=" ++ value.display

def formatted (error : LibraryError) : Except Failure String := do
  if error.details.isEmpty then return error.message
  let texts ← error.details.entries.mapM fun entry => detailText entry.1 entry.2
  return error.message ++ " (" ++ ", ".intercalate texts ++ ")"

end LibraryError
end ParameterConfig
