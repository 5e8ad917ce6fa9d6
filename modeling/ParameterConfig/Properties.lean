import ParameterConfig.Validation

/-!
# Repository properties

The settings of one repository over the parameter store, fixed when it is built.
-/

namespace ParameterConfig

structure Properties where
  order : Int := 2147483647
  profileSeparator : String := "/"
  pathPrefix : String := "/"
  region : Option String := none
  profile : Option String := none
deriving DecidableEq, Repr

namespace Properties

def ofFields (fields : OrderedMap String Json) : Validated Properties :=
  let defaults : Properties := {}
  Properties.mk <$> Field.optional Field.whole fields "order" defaults.order
    <*> Field.optional Field.text fields "profile_separator" defaults.profileSeparator
    <*> Field.optional Field.text fields "path_prefix" defaults.pathPrefix
    <*> Field.optional Field.optionalText fields "region" defaults.region
    <*> Field.optional Field.optionalText fields "profile" defaults.profile

end Properties
end ParameterConfig
