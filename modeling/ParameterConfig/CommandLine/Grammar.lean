import ParameterConfig.OrderedMap
import ParameterConfig.Text.Digit
import ParameterConfig.Text.Quoted

/-!
# Words of a command line

A command takes positional values and options with one value each, besides the options that ask for help. Words are first told apart by their form alone. An option may be shortened as long as it stays unambiguous and may carry its value after an equals sign. Negative numbers and words with a space are values even with a dash in front, and after a separator of two dashes everything is.
-/

namespace ParameterConfig
namespace CommandLine

/-- The usage and help texts of a command and what it takes. -/
structure Grammar where
  program : String
  usage : String
  help : String
  positionals : List String := []
  options : List String := []
  required : List String := []

/-- Why reading a command line stops: help is asked for, or there is an error to tell. -/
inductive Stop where
  | help (text : String)
  | error (usage program message : String)

namespace Grammar

def fail {α : Type} (grammar : Grammar) (message : String) : Except Stop α :=
  .error (.error grammar.usage grammar.program message)

end Grammar

/-! ### Forms of words -/

/-- A word with an option: the option meant and the value attached to it. -/
inductive OptionWord where
  | shortHelp (attached : Option String)
  | longHelp (attached : Option String)
  | named (name : String) (attached : Option String)
  | unknown

inductive WordForm where
  | value
  | separator
  | option (word : OptionWord)

/-- The part of a word before the first equals sign, and the part after it. -/
def splitEquals (word : String) : String × Option String :=
  let (before, after) := word.toList.span (· ≠ '=')
  (String.ofList before, if after.isEmpty then none else some (String.ofList (after.drop 1)))

/-- All option names with two dashes. -/
def Grammar.longNames (grammar : Grammar) : List String :=
  "--help" :: grammar.options

def longOption (name : String) (attached : Option String) : OptionWord :=
  if name = "--help" then .longHelp attached else .named name attached

/-- The word as an option written in full. -/
def Grammar.exactOption? (grammar : Grammar) (word : String) : Option OptionWord :=
  let (name, attached) := splitEquals word
  if name = "-h" then some (.shortHelp attached)
  else if grammar.longNames.contains name then some (longOption name attached)
  else none

def isNegativeNumber (word : String) : Bool :=
  let cs := word.toList
  let body := if cs.getLast? = some '\n' then cs.dropLast else cs
  match body with
  | '-' :: rest =>
    let (whole, fraction) := rest.span Text.isDigit
    match fraction with
    | [] => !whole.isEmpty
    | '.' :: places => !places.isEmpty && places.all Text.isDigit
    | _ => false
  | _ => false

/-- The form of a word that is no option written in full. -/
def Grammar.looseForm (grammar : Grammar) (word : String) : Except Stop WordForm :=
  let unlisted : WordForm :=
    if isNegativeNumber word || word.toList.contains ' ' then .value else .option .unknown
  match word.toList with
  | '-' :: '-' :: _ =>
    let (start, attached) := splitEquals word
    match grammar.longNames.filter fun name => start.toList.isPrefixOf name.toList with
    | [] => .ok unlisted
    | [name] => .ok (.option (longOption name attached))
    | names =>
      grammar.fail ("ambiguous option: " ++ word ++ " could match " ++ ", ".intercalate names)
  | '-' :: 'h' :: joined => .ok (.option (.shortHelp (some (String.ofList joined))))
  | _ => .ok unlisted

def Grammar.form (grammar : Grammar) (word : String) : Except Stop WordForm :=
  match word.toList with
  | '-' :: _ :: _ =>
    match grammar.exactOption? word with
    | some option => .ok (.option option)
    | none => grammar.looseForm word
  | _ => .ok .value

/-- The words with their forms. Everything after the first separator is a value. -/
def Grammar.forms (grammar : Grammar) : List String → Except Stop (List (String × WordForm))
  | [] => .ok []
  | word :: rest =>
    if word = "--" then .ok ((word, .separator) :: rest.map fun later => (later, .value))
    else do
      let form ← grammar.form word
      let more ← grammar.forms rest
      return (word, form) :: more

/-! ### Options -/

def Grammar.refusedValue (grammar : Grammar) (value : String) : Stop :=
  .error grammar.usage grammar.program
    ("argument -h/--help: ignored explicit argument " ++ Text.quoted value)

/-- What follows the short form of asking for help may only repeat it. -/
def Grammar.helpStop (grammar : Grammar) : List Char → Stop
  | [] => .help grammar.help
  | 'h' :: rest => grammar.helpStop rest
  | cs => grammar.refusedValue (String.ofList cs)

def Grammar.shortHelp (grammar : Grammar) : Option String → Stop
  | none => .help grammar.help
  | some value =>
    if value.isEmpty then grammar.refusedValue value else grammar.helpStop value.toList

def Grammar.longHelp (grammar : Grammar) : Option String → Stop
  | none => .help grammar.help
  | some value => grammar.refusedValue value

/-! ### Reading the words of a command -/

/-- What has been read. A value is missing where nothing but a separator stood in its place. -/
structure Values where
  positionals : OrderedMap String (Option String) := ∅
  options : OrderedMap String (Option String) := ∅
  extras : List String := []

/-- The words that the next positional value takes: a value with the separators around it. -/
def takePositional? (words : List (String × WordForm)) :
    Option (List String × List (String × WordForm)) :=
  let isSeparator (word : String × WordForm) : Bool :=
    match word.2 with
    | .separator => true
    | _ => false
  let (before, rest) := words.span isSeparator
  match rest with
  | (value, .value) :: rest =>
    let (after, rest) := rest.span isSeparator
    some (before.map Prod.fst ++ value :: after.map Prod.fst, rest)
  | _ => none

/-- The value among the words taken. The first separator is left out, even where it is the only word. -/
def valueAmong (words : List String) : Option String :=
  (words.erase "--").head?

/-- As many positional values as the words in front allow. -/
def takePositionals : List String → Values → List (String × WordForm) →
    List String × Values × List (String × WordForm)
  | [], values, words => ([], values, words)
  | name :: names, values, words =>
    match takePositional? words with
    | none => (name :: names, values, words)
    | some (taken, rest) =>
      takePositionals names
        { values with positionals := values.positionals.insert name (valueAmong taken) } rest

def isOption (word : String × WordForm) : Bool :=
  match word.2 with
  | .option _ => true
  | _ => false

def Values.withExtras (values : Values) (words : List String) : Values :=
  { values with extras := values.extras ++ words }

/-- The value that follows an option, and the words after it. -/
def Grammar.followingValue (grammar : Grammar) (name : String) (words : List (String × WordForm)) :
    Except Stop (String × List (String × WordForm)) :=
  match words with
  | (value, .value) :: rest => .ok (value, rest)
  | _ => grammar.fail ("argument " ++ name ++ ": expected one argument")

/-- Reads the option that stands in front, with its value. -/
def Grammar.takeOption (grammar : Grammar) (values : Values) (word : String) (option : OptionWord)
    (rest : List (String × WordForm)) : Except Stop (Values × List (String × WordForm)) :=
  match option with
  | .unknown => .ok (values.withExtras [word], rest)
  | .shortHelp attached => .error (grammar.shortHelp attached)
  | .longHelp attached => .error (grammar.longHelp attached)
  | .named name (some value) =>
    .ok ({ values with options := values.options.insert name (valueAmong [value]) }, rest)
  | .named name none => do
    let (value, rest) ← grammar.followingValue name rest
    return ({ values with options := values.options.insert name (valueAmong [value]) }, rest)

/-- Reads positional values and options in turn. What neither takes is extra. Every step takes at least one word. -/
def Grammar.readWords (grammar : Grammar) (names : List String) (values : Values)
    (words : List (String × WordForm)) : Except Stop Values :=
  match words with
  | [] => .ok values
  | (word, .option option) :: rest => do
    let (values, later) ← grammar.takeOption values word option rest
    if later.length ≤ rest.length then grammar.readWords names values later
    else return values
  | words =>
    let (names, values, rest) := takePositionals names values words
    if rest.length < words.length then grammar.readWords names values rest
    else
      let (extras, later) := words.span fun word => !isOption word
      let values := values.withExtras (extras.map Prod.fst)
      if later.length < words.length then grammar.readWords names values later else .ok values
termination_by words.length

/-- The positional values and required options that are missing, in the order in which the command lists them. -/
def Grammar.missing (grammar : Grammar) (values : Values) : List String :=
  grammar.positionals.filter (fun name => !values.positionals.contains name) ++
    grammar.required.filter fun name => !values.options.contains name

def Grammar.read (grammar : Grammar) (words : List String) : Except Stop Values := do
  let forms ← grammar.forms words
  let values ← grammar.readWords grammar.positionals {} forms
  match grammar.missing values with
  | [] => return values
  | names =>
    grammar.fail ("the following arguments are required: " ++ ", ".intercalate names)

end CommandLine
end ParameterConfig
