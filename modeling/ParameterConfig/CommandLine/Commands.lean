import ParameterConfig.CommandLine.Grammar

/-!
# The commands

The command line has three commands, each with its own grammar: one resolves an environment, one encodes credentials as a token, and one lists the backends. The first word that is no option names the command, and all words after it belong to it.
-/

namespace ParameterConfig
namespace CommandLine

def lines (texts : List String) : String :=
  String.join (texts.map (· ++ "\n"))

def commandNames : List String := ["resolve", "encode-token", "backends"]

def topUsage : String :=
  lines ["usage: ssmconfig [-h] \x7bresolve,encode-token,backends\x7d ..."]

def topGrammar : Grammar where
  program := "ssmconfig"
  usage := topUsage
  help := topUsage ++ lines
    ["",
     "Resolve configuration from AWS Parameter Store",
     "",
     "positional arguments:",
     "  \x7bresolve,encode-token,backends\x7d",
     "    resolve             Resolve an application environment",
     "    encode-token        Encode a client credentials token",
     "    backends            List registered backends",
     "",
     "options:",
     "  -h, --help            show this help message and exit"]

def resolveUsage : String :=
  lines
    ["usage: ssmconfig resolve [-h] [--label LABEL] [--token TOKEN]",
     "                         [--region REGION] [--path-prefix PATH_PREFIX]",
     "                         [--profile-separator PROFILE_SEPARATOR]",
     "                         [--aws-profile AWS_PROFILE]",
     "                         application profile"]

def resolveGrammar : Grammar where
  program := "ssmconfig resolve"
  usage := resolveUsage
  help := resolveUsage ++ lines
    ["",
     "positional arguments:",
     "  application           Application name",
     "  profile               Comma separated profiles",
     "",
     "options:",
     "  -h, --help            show this help message and exit",
     "  --label LABEL         Label (passed through)",
     "  --token TOKEN         Encoded client credentials token",
     "  --region REGION       SSM region override",
     "  --path-prefix PATH_PREFIX",
     "                        Root path prefix",
     "  --profile-separator PROFILE_SEPARATOR",
     "                        Separator between application and profile",
     "  --aws-profile AWS_PROFILE",
     "                        Local AWS credentials profile"]
  positionals := ["application", "profile"]
  options := ["--label", "--token", "--region", "--path-prefix", "--profile-separator",
    "--aws-profile"]

def encodeTokenUsage : String :=
  lines
    ["usage: ssmconfig encode-token [-h] --access-key-id ACCESS_KEY_ID",
     "                              [--secret-access-key SECRET_ACCESS_KEY]",
     "                              --session-token SESSION_TOKEN"]

def encodeTokenGrammar : Grammar where
  program := "ssmconfig encode-token"
  usage := encodeTokenUsage
  help := encodeTokenUsage ++ lines
    ["",
     "options:",
     "  -h, --help            show this help message and exit",
     "  --access-key-id ACCESS_KEY_ID",
     "  --secret-access-key SECRET_ACCESS_KEY",
     "  --session-token SESSION_TOKEN"]
  options := ["--access-key-id", "--secret-access-key", "--session-token"]
  required := ["--access-key-id", "--session-token"]

def backendsUsage : String :=
  lines ["usage: ssmconfig backends [-h]"]

def backendsGrammar : Grammar where
  program := "ssmconfig backends"
  usage := backendsUsage
  help := backendsUsage ++ lines
    ["",
     "options:",
     "  -h, --help  show this help message and exit"]

/-! ### Commands with their arguments -/

/-- What the resolving command was given. An option that was not given leaves the setting as it is; one whose value is missing stands for the empty text. -/
structure ResolveArguments where
  application : Option String
  profile : Option String
  label : Option String
  token : Option String
  region : Option String
  pathPrefix : Option String
  profileSeparator : Option String
  awsProfile : Option String

structure EncodeTokenArguments where
  accessKeyId : Option String
  secretAccessKey : Option String
  sessionToken : Option String

inductive Invocation where
  | resolve (arguments : ResolveArguments)
  | encodeToken (arguments : EncodeTokenArguments)
  | backends
  | nothing

/-- The text given for an option. Where nothing is left of it without the separator it counts as empty. -/
def Values.option? (values : Values) (name : String) : Option String :=
  (values.options.find? name).map fun value => value.getD ""

def resolveArguments (values : Values) : ResolveArguments where
  application := (values.positionals.find? "application").join
  profile := (values.positionals.find? "profile").join
  label := values.option? "--label"
  token := values.option? "--token"
  region := values.option? "--region"
  pathPrefix := values.option? "--path-prefix"
  profileSeparator := values.option? "--profile-separator"
  awsProfile := values.option? "--aws-profile"

def encodeTokenArguments (values : Values) : EncodeTokenArguments where
  accessKeyId := (values.options.find? "--access-key-id").join
  secretAccessKey := (values.options.find? "--secret-access-key").join
  sessionToken := (values.options.find? "--session-token").join

def unknownCommand (name : String) : String :=
  "argument command: invalid choice: " ++ Text.quoted name ++ " (choose from " ++
    ", ".intercalate (commandNames.map Text.quoted) ++ ")"

/-- Reads the words of a named command; the words that it does not take are returned with it. -/
def Invocation.ofCommand (name : String) (words : List String) :
    Except Stop (Invocation × List String) :=
  if name = "resolve" then
    (resolveGrammar.read words).map fun values => (.resolve (resolveArguments values), values.extras)
  else if name = "encode-token" then
    (encodeTokenGrammar.read words).map fun values =>
      (.encodeToken (encodeTokenArguments values), values.extras)
  else if name = "backends" then
    (backendsGrammar.read words).map fun values => (.backends, values.extras)
  else topGrammar.fail (unknownCommand name)

/-- Reads the words up to the command and hands it the rest. A separator in front of a word takes the place of the command. -/
def Invocation.ofForms (extras : List String) :
    List (String × WordForm) → Except Stop (Invocation × List String)
  | [] => .ok (.nothing, extras)
  | (word, .value) :: rest => do
    let (invocation, more) ← ofCommand word (rest.map Prod.fst)
    return (invocation, extras ++ more)
  | (word, .separator) :: rest =>
    if rest.isEmpty then .ok (.nothing, extras ++ [word]) else topGrammar.fail (unknownCommand word)
  | (word, .option option) :: rest =>
    match option with
    | .shortHelp attached => .error (topGrammar.shortHelp attached)
    | .longHelp attached => .error (topGrammar.longHelp attached)
    | .named _ _ | .unknown => ofForms (extras ++ [word]) rest

def Invocation.ofWords (words : List String) : Except Stop Invocation := do
  let forms ← topGrammar.forms words
  let (invocation, extras) ← Invocation.ofForms [] forms
  if extras.isEmpty then return invocation
  else topGrammar.fail ("unrecognized arguments: " ++ " ".intercalate extras)

end CommandLine
end ParameterConfig
