import FlowConverter.Text.Quoted
import FlowConverter.Text.WordChar

/-! The options of the command line. Options and the file may come in any order; after `--` every word
is a file. A long option may be shortened as long as one option fits, and its value may follow
after `=`; the value of a short option may follow at once. All words are sorted into kinds before
any of them takes effect, and then they take effect from left to right. -/
namespace FlowConverter.CommandLine

inductive Switch where
  | help
  | format
  | validate
  | version
deriving DecidableEq

/-- The spellings of the switches. -/
def spellings : List (String × Switch) :=
  [("-h", .help), ("--help", .help), ("-f", .format), ("--format", .format),
   ("--validate", .validate), ("--version", .version)]

/-- A switch as error messages name it. -/
def Switch.label : Switch → String
  | help => "-h/--help"
  | format => "-f/--format"
  | validate => "--validate"
  | version => "--version"

inductive UsageError where
  | fileMissing
  | unrecognized (words : List String)
  | ambiguous (word : String) (candidates : List String)
  | valueMissing (switch : Switch)
  | invalidFormat (value : String)
  | valueIgnored (switch : Switch) (value : String)

def UsageError.message : UsageError → String
  | fileMissing => "the following arguments are required: FILE"
  | unrecognized words => "unrecognized arguments: " ++ " ".intercalate words
  | ambiguous word candidates =>
    "ambiguous option: " ++ word ++ " could match " ++ ", ".intercalate candidates
  | valueMissing switch => "argument " ++ switch.label ++ ": expected one argument"
  | invalidFormat value =>
    "argument " ++ Switch.format.label ++ ": invalid choice: " ++ Text.quoted value ++
      " (choose from 'wdl', 'ast')"
  | valueIgnored switch value =>
    "argument " ++ switch.label ++ ": ignored explicit argument " ++ Text.quoted value

/-- A word of the command line by its kind. -/
inductive Word where
  | plain (text : String)
  /-- The word `--`. -/
  | divider
  | option (switch : Switch) (short : Bool) (value : Option String)
  | unknown (text : String)

def Word.text : Word → String
  | plain text => text
  | divider => "--"
  | option switch _ _ => switch.label
  | unknown text => text

/-- A minus sign and a decimal number; such a word is no option. -/
def isNegativeNumber (cs : List Char) : Bool :=
  let cs := if cs.getLast? == some '\n' then cs.dropLast else cs
  match cs with
  | '-' :: rest =>
    match rest.dropWhile Text.isDecimalDigit with
    | [] => !rest.isEmpty
    | '.' :: places => !places.isEmpty && places.all Text.isDecimalDigit
    | _ => false
  | _ => false

/-- Divides a word at its first `=`. -/
def splitValue (word : String) : String × Option String :=
  let cs := word.toList
  match cs.dropWhile (· != '=') with
  | [] => (word, none)
  | _ :: value => (String.ofList (cs.takeWhile (· != '=')), some (String.ofList value))

def isShort (spelling : String) : Bool := spelling.toList[1]? != some '-'

/-- The options that a word may be short for, each with its spelling and value. -/
def candidates (word : String) : List (String × Switch × Option String) :=
  if isShort word then
    let cs := word.toList
    spellings.filterMap fun (spelling, switch) =>
      if spelling.toList == cs.take 2 then
        some (spelling, switch, some (String.ofList (cs.drop 2)))
      else if cs.isPrefixOf spelling.toList then some (spelling, switch, none)
      else none
  else
    let (start, value) := splitValue word
    spellings.filterMap fun (spelling, switch) =>
      if start.toList.isPrefixOf spelling.toList then some (spelling, switch, value) else none

/-- The option that a word spells out, alone or before `=`. -/
def spelledOut? (word : String) : Option Word :=
  match spellings.lookup word with
  | some switch => some (.option switch (isShort word) none)
  | none =>
    match splitValue word with
    | (start, some value) =>
      (spellings.lookup start).map fun switch => .option switch (isShort start) (some value)
    | (_, none) => none

/-- The kind of a word before the divider. -/
def classify (word : String) : Except UsageError Word :=
  if word.toList.head? != some '-' || word == "-" then pure (.plain word)
  else
    match spelledOut? word with
    | some w => pure w
    | none =>
      match candidates word with
      | [] =>
        if isNegativeNumber word.toList || word.toList.contains ' ' then pure (.plain word)
        else pure (.unknown word)
      | [(spelling, switch, value)] => pure (.option switch (isShort spelling) value)
      | several => throw (.ambiguous word (several.map (·.1)))

/-- The kinds of all words; those after a divider are plain. -/
def classifyAll : List String → Except UsageError (List Word)
  | [] => pure []
  | word :: rest =>
    if word == "--" then pure (.divider :: rest.map .plain)
    else do
      let w ← classify word
      pure (w :: (← classifyAll rest))

inductive Format where
  | wdl
  | ast
deriving DecidableEq

structure Options where
  file : String
  format : Format
  validate : Bool

/-- What the command line asks for. -/
inductive Request where
  | convert (options : Options)
  | help
  | version

/-- What is known after some words. -/
structure Progress where
  file : Option String
  format : Format
  validate : Bool
  extra : List String

/-- An option that stops the reading, or goes on with more known. -/
inductive Effect where
  | go (progress : Progress)
  | stop (request : Request)

/-- The format that a value asks for. A divider in its place asks for none, and so the text is
printed. -/
def Format.ofValue? : String → Option Format
  | "wdl" | "--" => some .wdl
  | "ast" => some .ast
  | _ => none

/-- An option takes effect. -/
def apply (switch : Switch) (value : String) (p : Progress) : Except UsageError Effect :=
  match switch with
  | .help => pure (.stop .help)
  | .version => pure (.stop .version)
  | .validate => pure (.go { p with validate := true })
  | .format =>
    match Format.ofValue? value with
    | some format => pure (.go { p with format := format })
    | none => throw (.invalidFormat value)

/-- The options that one word gives, with their values, and the words after them. Short options may
stand together; the value of the last may be the next word. -/
def expandOption (switch : Switch) (short : Bool) :
    List Char → Bool → List Word → Except UsageError (List (Switch × String) × List Word)
  | value, true, rest =>
    match switch, value with
    | .format, value => pure ([(switch, String.ofList value)], rest)
    | _, c :: more =>
      if short then
        match spellings.lookup (String.ofList ['-', c]) with
        | some next => do
          let (options, rest) ← expandOption next true more (!more.isEmpty) rest
          pure ((switch, "") :: options, rest)
        | none => throw (.valueIgnored switch (String.ofList value))
      else throw (.valueIgnored switch (String.ofList value))
    | _, [] => throw (.valueIgnored switch "")
  | _, false, rest =>
    match switch, rest with
    | .format, .plain value :: rest => pure ([(switch, value)], rest)
    | .format, _ => throw (.valueMissing .format)
    | _, rest => pure ([(switch, "")], rest)

/-- Options take effect one after the other. -/
def applyAll (p : Progress) : List (Switch × String) → Except UsageError Effect
  | [] => pure (.go p)
  | (switch, value) :: rest => do
    match ← apply switch value p with
    | .go p => applyAll p rest
    | .stop request => pure (.stop request)

/-- The words after the last option. The file takes a divider beside it along. -/
def finish (p : Progress) (words : List Word) : Progress :=
  match p.file, words with
  | none, .divider :: .plain file :: rest | none, .plain file :: .divider :: rest
  | none, .plain file :: rest =>
    { p with file := some file, extra := p.extra ++ rest.map (·.text) }
  | _, words => { p with extra := p.extra ++ words.map (·.text) }

def Word.isOption : Word → Bool
  | option .. => true
  | unknown _ => true
  | _ => false

/-- Goes through the words; `fuel` is at least their number. -/
def walk : Nat → Progress → List Word → Except UsageError Effect
  | 0, p, words => pure (.go (finish p words))
  | fuel + 1, p, words =>
    if !words.any (·.isOption) then pure (.go (finish p words))
    else
      match words with
      | [] => pure (.go p)
      | .option switch short value :: rest => do
        let (options, rest) ← expandOption switch short (value.getD "").toList value.isSome rest
        match ← applyAll p options with
        | .go p => walk fuel p rest
        | .stop request => pure (.stop request)
      | .plain file :: rest =>
        match p.file with
        | none => walk fuel { p with file := some file } rest
        | some _ => walk fuel { p with extra := p.extra ++ [file] } rest
      | word :: rest => walk fuel { p with extra := p.extra ++ [word.text] } rest

/-- Reads the words of a command line. -/
def read (words : List String) : Except UsageError Request := do
  let words ← classifyAll words
  match ← walk words.length ⟨none, .wdl, false, []⟩ words with
  | .stop request => pure request
  | .go p =>
    match p.file with
    | none => throw .fileMissing
    | some file =>
      if p.extra.isEmpty then pure (.convert ⟨file, p.format, p.validate⟩)
      else throw (.unrecognized p.extra)

def usage : String :=
  "usage: cwl2wdl [-h] [-f \x7bwdl,ast\x7d] [--validate] [--version] FILE\n"

/-- What is written for a refused command line. -/
def UsageError.text (e : UsageError) : String :=
  usage ++ "cwl2wdl: error: " ++ e.message ++ "\n"

def helpText : String :=
  usage ++ "
positional arguments:
  FILE                  CWL file.

Options:
  -h, --help            show this help message and exit
  -f \x7bwdl,ast\x7d, --format \x7bwdl,ast\x7d
                        specify the output format (default: wdl)
  --validate            validate the resulting WDL code with PyWDL (default:
                        False)
  --version             show program's version number and exit
"

def versionText : String := "undefined\n"

end FlowConverter.CommandLine
