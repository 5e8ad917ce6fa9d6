import ParameterConfig.OrderedMap
import ParameterConfig.Text.Blank

/-!
# Environment files

A file of lines `name=value` that stand beside the environment of a process. Names may be in single quotes and may follow the word `export`. Values are quoted, with escapes, or run to the end of the line or to a comment. A name without a value is kept without one. A line that breaks these rules is passed over.
-/

namespace ParameterConfig
namespace EnvFile

/-- A name and its value, if it has one. -/
abbrev Binding := String × Option String

/-- Line breaks of all kinds become line feeds, and a mark of the byte order in front is dropped. -/
def unifyLines : List Char → List Char
  | '\r' :: '\n' :: rest => '\n' :: unifyLines rest
  | '\r' :: rest => '\n' :: unifyLines rest
  | c :: rest => c :: unifyLines rest
  | [] => []

def withoutMark : List Char → List Char
  | '\ufeff' :: rest => rest
  | cs => cs

def isInlineBlank (c : Char) : Bool :=
  Text.isBlank c && c ≠ '\n'

def skipInline (cs : List Char) : List Char :=
  cs.dropWhile isInlineBlank

/-- What follows the end of the current line. -/
def nextLine (cs : List Char) : List Char :=
  (cs.dropWhile (· ≠ '\n')).drop 1

/-! ### Names -/

def skipExport (cs : List Char) : List Char :=
  if "export".toList.isPrefixOf cs then
    let rest := cs.drop 6
    if rest.head?.any isInlineBlank then skipInline rest else cs
  else cs

def isNameChar (c : Char) : Bool :=
  c ≠ '=' && c ≠ '#' && !Text.isBlank c

/-- The name at the start of a line, and what follows it. A comment has no name. -/
def name? (cs : List Char) : Option (Option (List Char) × List Char) :=
  match cs with
  | '#' :: _ => some (none, cs)
  | '\'' :: rest =>
    let (name, after) := rest.span (· ≠ '\'')
    if name.isEmpty || after.isEmpty then none else some (some name, after.drop 1)
  | _ =>
    let (name, after) := cs.span isNameChar
    if name.isEmpty then none else some (some name, after)

/-! ### Values -/

/-- The text before the first mark that no backslash stands before, and what follows the mark. -/
def unescapedMark? (mark : Char) (afterBackslash : Bool) :
    List Char → Option (List Char × List Char)
  | [] => none
  | c :: rest =>
    if c = mark && !afterBackslash then some ([], rest)
    else (unescapedMark? mark (c = '\\') rest).map fun found => (c :: found.1, found.2)

/-- The text before the last mark, and what follows the mark. -/
def lastMark? (mark : Char) (cs : List Char) : Option (List Char × List Char) :=
  let (after, before) := cs.reverse.span (· ≠ mark)
  if before.isEmpty then none else some ((before.drop 1).reverse, after.reverse)

/-- The inside of a quoted value. Where every mark follows a backslash, the last one closes. -/
def quotedBody? (mark : Char) (cs : List Char) : Option (List Char × List Char) :=
  (unescapedMark? mark false cs).or (lastMark? mark cs)

def singleEscape? (c : Char) : Option Char :=
  if c = '\\' || c = '\'' then some c else none

def doubleEscape? (c : Char) : Option Char :=
  if c = '\\' || c = '\'' || c = '"' then some c
  else if c = 'a' then some '\x07'
  else if c = 'b' then some '\x08'
  else if c = 'f' then some '\x0c'
  else if c = 'n' then some '\n'
  else if c = 'r' then some '\r'
  else if c = 't' then some '\t'
  else if c = 'v' then some '\x0b'
  else none

def unescape (escape? : Char → Option Char) : List Char → List Char
  | '\\' :: c :: rest =>
    match escape? c with
    | some meant => meant :: unescape escape? rest
    | none => '\\' :: unescape escape? (c :: rest)
  | c :: rest => c :: unescape escape? rest
  | [] => []

/-- The text before a comment, which starts with a number sign after a blank. -/
def beforeComment (afterBlank : Bool) : List Char → List Char
  | [] => []
  | c :: rest =>
    if c = '#' && afterBlank then [] else c :: beforeComment (Text.isBlank c) rest

/-- The value after an equals sign, and what follows it. A comment right after blanks leaves the value empty. -/
def value? (cs : List Char) : Option (List Char × List Char) :=
  let start := skipInline cs
  match start with
  | '\'' :: rest => (quotedBody? '\'' rest).map fun body => (unescape singleEscape? body.1, body.2)
  | '"' :: rest => (quotedBody? '"' rest).map fun body => (unescape doubleEscape? body.1, body.2)
  | '#' :: _ =>
    if start.length < cs.length then some ([], start)
    else some (Text.trimEnd (beforeComment false (start.takeWhile (· ≠ '\n'))),
      start.dropWhile (· ≠ '\n'))
  | _ =>
    some (Text.trimEnd (beforeComment false (start.takeWhile (· ≠ '\n'))),
      start.dropWhile (· ≠ '\n'))

/-! ### Lines -/

/-- What follows a line of which nothing but blanks and a comment is left. -/
def lineEnd? (cs : List Char) : Option (List Char) :=
  let rest := skipInline cs
  let rest := if rest.head? = some '#' then rest.dropWhile (· ≠ '\n') else rest
  match rest with
  | [] => some []
  | '\n' :: after => some after
  | _ => none

/-- One binding or comment, and what follows it. A broken line gives nothing and is left at its end. -/
def binding (cs : List Char) : Option Binding × List Char :=
  let start := skipExport cs
  match name? start with
  | none => (none, nextLine start)
  | some (name, rest) =>
    match skipInline rest with
    | '=' :: afterSign =>
      match value? afterSign with
      | none => (none, nextLine (skipInline afterSign))
      | some (value, rest) =>
        match lineEnd? rest with
        | none => (none, nextLine rest)
        | some after => (name.map fun name => (String.ofList name, some (String.ofList value)), after)
    | rest =>
      match lineEnd? rest with
      | none => (none, nextLine rest)
      | some after => (name.map fun name => (String.ofList name, none), after)

/-- All bindings in order. Each takes at least one character. -/
def bindings (cs : List Char) : List Binding :=
  match Text.trimStart cs with
  | [] => []
  | c :: rest =>
    let read := binding (c :: rest)
    if read.2.length < cs.length then read.1.toList ++ bindings read.2 else read.1.toList
termination_by cs.length

def ofText (text : String) : List Binding :=
  bindings (unifyLines (withoutMark text.toList))

end EnvFile
end ParameterConfig
