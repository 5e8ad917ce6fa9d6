import ParameterConfig.Properties
import ParameterConfig.Text.Split

/-!
# Paths

The parameters of an application profile stand below one path, `prefix application separator profile /`. Their names become property keys by taking the path off and writing dots for the slashes that are left.
-/

namespace ParameterConfig

def orSlash (s : String) : String :=
  if s.isEmpty then "/" else s

namespace Properties

/-- The path of a profile. An empty prefix or separator stands for a slash; an empty profile still has its segment. -/
def path (properties : Properties) (application profile : String) : String :=
  orSlash properties.pathPrefix ++ application ++ orSlash properties.profileSeparator ++ profile ++
    "/"

end Properties

/-- A name with the path in front of it taken off. -/
def belowPath (path name : List Char) : List Char :=
  if path.isPrefixOf name then name.drop path.length else name

def dotted (cs : List Char) : List Char :=
  cs.map fun c => if c = '/' then '.' else c

/-- The property key of a parameter name. -/
def flattenName (path name : String) : String :=
  String.ofList (dotted (belowPath path.toList name.toList))

/-- The profiles named in a comma separated list, empty and repeated ones included; with no list, the default one. -/
def splitProfiles : Option String → List String
  | none => ["default"]
  | some profiles => (Text.split ',' profiles.toList).map String.ofList

end ParameterConfig
