import ParameterConfig.EnvFile.Interpolation
import ParameterConfig.Properties
import ParameterConfig.Text.Lowercase

/-!
# Process settings

The settings of a process come from three places: values given directly, variables of its environment, and an environment file. The first place that has a value for a field decides. Names of variables start with a fixed word and count in any letter case.
-/

namespace ParameterConfig

structure Settings where
  backend : String
  order : Int
  profileSeparator : String
  pathPrefix : String
  region : Option String
  awsProfile : Option String
  logLevel : String
  logJson : Bool
deriving DecidableEq, Repr

namespace Settings

/-- The backend that comes with the library. -/
def builtInBackend : String := "awsparameterstore"

def variablePrefix : String := "ssmconfig_"

def fieldNames : List String :=
  ["backend", "order", "profile_separator", "path_prefix", "region", "aws_profile", "log_level",
   "log_json"]

/-- The variables by their names in small letters; of names that differ in case only the last counts. -/
def folded {β : Type} (map : OrderedMap String β) : OrderedMap String β :=
  .ofList (map.entries.map fun entry => (Text.lowercase entry.1, entry.2))

/-- Where a process finds its settings. -/
structure Origins where
  direct : OrderedMap String Json := ∅
  environment : OrderedMap String String := ∅
  file : String := ""

/-- The value of a field from the first place that has one. -/
def Origins.field? (origins : Origins) (name : String) : Option Json :=
  let key := variablePrefix ++ name
  let fromFile := EnvFile.interpolated origins.environment (EnvFile.ofText origins.file)
  let inFile := ((folded fromFile).find? key).join
  let inEnvironment := (folded origins.environment).find? key
  (origins.direct.find? name).or ((inEnvironment.or inFile).map .string)

def Origins.fields (origins : Origins) : OrderedMap String Json :=
  .ofList (fieldNames.filterMap fun name => (origins.field? name).map fun value => (name, value))

def ofFields (fields : OrderedMap String Json) : Validated Settings :=
  let defaults : Properties := {}
  Settings.mk <$> Field.optional Field.text fields "backend" builtInBackend
    <*> Field.optional Field.whole fields "order" defaults.order
    <*> Field.optional Field.text fields "profile_separator" defaults.profileSeparator
    <*> Field.optional Field.text fields "path_prefix" defaults.pathPrefix
    <*> Field.optional Field.optionalText fields "region" defaults.region
    <*> Field.optional Field.optionalText fields "aws_profile" defaults.profile
    <*> Field.optional Field.text fields "log_level" "INFO"
    <*> Field.optional Field.truth fields "log_json" true

def load (origins : Origins) : Validated Settings :=
  ofFields origins.fields

def repositoryProperties (settings : Settings) : Properties :=
  { order := settings.order
    profileSeparator := settings.profileSeparator
    pathPrefix := settings.pathPrefix
    region := settings.region
    profile := settings.awsProfile }

/-! ### Settings kept for the process -/

/-- The settings from the last successful loading, if they are still kept. -/
abbrev Kept := Option Settings

/-- The kept settings, or freshly loaded ones, which are kept from then on. A failure is not kept. -/
def Kept.load (kept : Kept) (origins : Origins) : Validated Settings × Kept :=
  match kept with
  | some settings => (.valid settings, kept)
  | none =>
    match Settings.load origins with
    | .valid settings => (.valid settings, some settings)
    | .issues list => (.issues list, none)

end Settings
end ParameterConfig
