/-
The arguments of a command line.

First every argument is classified, as an option, as a plain word, or as the mark `--` after
which only words follow.  An option may be abbreviated as long as that is unambiguous, and its
value may be written after `=` or as the next word.  Then the arguments are consumed from left
to right: the first group of words names the bundles, and all other words are unrecognized.
`Arguments.read` does both.
-/
import BorrowGraph.Text.Argument
import BorrowGraph.Text.Quoted
import BorrowGraph.Value

namespace BorrowGraph.CommandLine

/-! ### Options -/

/-- The options. -/
inductive Flag where
  | help
  | version
  | verbose
  | config
  | proc
  | factsDir
  | logDir
  | hideVariables
  | hideIndices
  | debugInfo
  | keepGoing
  | render
  | printConfig
  deriving DecidableEq, Repr

namespace Flag

def all : List Flag :=
  [.help, .version, .verbose, .config, .proc, .factsDir, .logDir, .hideVariables, .hideIndices,
    .debugInfo, .keepGoing, .render, .printConfig]

def names : Flag → List String
  | .help => ["-h", "--help"]
  | .version => ["--version"]
  | .verbose => ["-v", "--verbose"]
  | .config => ["--config"]
  | .proc => ["--proc"]
  | .factsDir => ["--facts-dir"]
  | .logDir => ["--log-dir"]
  | .hideVariables => ["--no-temp-variables"]
  | .hideIndices => ["--no-statement-indices"]
  | .debugInfo => ["--debug-info"]
  | .keepGoing => ["--keep-going"]
  | .render => ["--render"]
  | .printConfig => ["--print-config"]

/-- The option as messages name it. -/
def title (f : Flag) : String :=
  "/".intercalate f.names

/-- Whether an option needs a value. -/
def takesValue : Flag → Bool
  | .config | .proc | .factsDir | .logDir | .render => true
  | _ => false

/-- The option of a name. -/
def ofName? (name : String) : Option Flag :=
  all.find? fun f => name ∈ f.names

/-- The options, each under each of its names. -/
def named : List (String × Flag) :=
  all.flatMap fun f => f.names.map fun n => (n, f)

end Flag

/-- What is wrong with the arguments. -/
inductive UsageError where
  /-- An abbreviation fits several options. -/
  | ambiguous (text : String) (names : List String)
  /-- An option got a value and takes none. -/
  | ignoredValue (flag : Flag) (value : String)
  /-- An option needs a value and got none. -/
  | missingValue (flag : Flag)
  /-- Some arguments mean nothing. -/
  | unrecognized (texts : List String)
  deriving DecidableEq, Repr

def UsageError.message : UsageError → String
  | .ambiguous text names =>
    "ambiguous option: " ++ text ++ " could match " ++ ", ".intercalate names
  | .ignoredValue flag value =>
    "argument " ++ flag.title ++ ": ignored explicit argument " ++ Text.quote value
  | .missingValue flag => "argument " ++ flag.title ++ ": expected one argument"
  | .unrecognized texts => "unrecognized arguments: " ++ " ".intercalate texts

/-! ### Classification -/

/-- An argument by itself. -/
inductive Token where
  /-- The mark that ends the options. -/
  | endMark
  | word (text : String)
  /-- An option, whether it was given by a single letter, and the value attached to it. -/
  | option (flag : Flag) (short : Bool) (value : Option String)
  /-- An option that there is not. -/
  | unknown (text : String)
  deriving DecidableEq, Repr

/-- Whether a name is that of a single letter. -/
def isShort (name : String) : Bool :=
  name.length = 2

/-- The options that an abbreviation fits, with their names. -/
def abbreviated (start : String) : List (String × Flag) :=
  Flag.named.filter fun (name, _) => start.toList.isPrefixOf name.toList

/-- Classify an argument that is no option: numbers and texts with a space are words. -/
def classifyOther (text : String) : Token :=
  if Text.isNegativeNumber text.toList || text.toList.contains ' ' then .word text
  else .unknown text

/-- Classify an argument with two dashes that is no full name of an option. -/
def classifyLong (text : String) : Except UsageError Token :=
  let (start, value) := Text.splitValue text.toList
  match abbreviated start with
  | [] => .ok (classifyOther text)
  | [(name, flag)] => .ok (.option flag (isShort name) value)
  | several => .error (.ambiguous text (several.map Prod.fst))

/-- Classify an argument with one dash that is no full name of an option: what follows the letter
of an option is its value. -/
def classifyShort (text : String) : Token :=
  match Flag.ofName? (String.ofList (text.toList.take 2)) with
  | some flag => .option flag true (some (String.ofList (text.toList.drop 2)))
  | none => classifyOther text

/-- Classify an argument. -/
def classify (text : String) : Except UsageError Token :=
  match text.toList with
  | ['-'] => .ok (.word text)
  | '-' :: c :: _ =>
    match Flag.ofName? text with
    | some flag => .ok (.option flag (isShort text) none)
    | none =>
      let (name, value) := Text.splitValue text.toList
      match Flag.ofName? name, value with
      | some flag, some value => .ok (.option flag (isShort name) (some value))
      | _, _ => if c = '-' then classifyLong text else .ok (classifyShort text)
  | _ => .ok (.word text)

/-- Classify all arguments. -/
def tokens : List String → Except UsageError (List Token)
  | [] => .ok []
  | text :: rest =>
    if text = Text.endMark then .ok (.endMark :: rest.map .word)
    else do
      let token ← classify text
      return token :: (← tokens rest)

/-! ### Consumption -/

/-- The value given to an option.  A value that is the mark `--` is taken away, and nothing is
left. -/
inductive Given where
  | text (s : String)
  | nothing
  deriving DecidableEq, Repr

namespace Given

def ofText (s : String) : Given :=
  if s = Text.endMark then .nothing else .text s

/-- The value as one of settings. -/
def value : Given → Value
  | .text s => .text s
  | .nothing => .list []

end Given

/-- What a command line asks for. -/
structure Arguments where
  /-- How often more messages were asked for. -/
  verbosity : Nat := 0
  bundles : List String := []
  config : Option Given := none
  proc : Option Given := none
  factsDir : Option Given := none
  logDir : Option Given := none
  hideVariables : Bool := false
  hideIndices : Bool := false
  debugInfo : Bool := false
  keepGoing : Bool := false
  render : Option Given := none
  printConfig : Bool := false
  deriving DecidableEq, Repr

/-- Why nothing is run. -/
inductive Stop where
  | help
  | version
  | usage (e : UsageError)
  deriving DecidableEq, Repr

namespace Arguments

/-- Take over an option that has no value. -/
def switch (a : Arguments) : Flag → Except Stop Arguments
  | .help => .error .help
  | .version => .error .version
  | .verbose => .ok { a with verbosity := a.verbosity + 1 }
  | .hideVariables => .ok { a with hideVariables := true }
  | .hideIndices => .ok { a with hideIndices := true }
  | .debugInfo => .ok { a with debugInfo := true }
  | .keepGoing => .ok { a with keepGoing := true }
  | .printConfig => .ok { a with printConfig := true }
  | _ => .ok a

/-- Take over an option with its value. -/
def store (a : Arguments) (v : Given) : Flag → Arguments
  | .config => { a with config := some v }
  | .proc => { a with proc := some v }
  | .factsDir => { a with factsDir := some v }
  | .logDir => { a with logDir := some v }
  | .render => { a with render := some v }
  | _ => a

end Arguments

/-- The single-letter options that are written together, given the first one and the letters
after it. -/
def cluster (flag : Flag) (short : Bool) : List Char → Except UsageError (List Flag)
  | [] => .error (.ignoredValue flag "")
  | c :: cs =>
    match if short then Flag.ofName? (String.ofList ['-', c]) else none with
    | none => .error (.ignoredValue flag (String.ofList (c :: cs)))
    | some next =>
      if cs.isEmpty then .ok [flag, next]
      else do return flag :: (← cluster next true cs)

/-- What has been consumed. -/
structure Progress where
  arguments : Arguments := {}
  /-- The first group of words. -/
  words : List String := []
  /-- Whether that group has ended. -/
  closed : Bool := false
  /-- The arguments that mean nothing. -/
  others : List String := []
  deriving DecidableEq, Repr

namespace Progress

def addWord (p : Progress) (text : String) : Progress :=
  if p.closed then { p with others := p.others ++ [text] }
    else { p with words := p.words ++ [text] }

/-- End the group of words, if it has begun. -/
def close (p : Progress) : Progress :=
  { p with closed := p.closed || !p.words.isEmpty }

def addOther (p : Progress) (text : String) : Progress :=
  { p with others := p.others ++ [text] }

def store (p : Progress) (flag : Flag) (v : Given) : Progress :=
  { p with arguments := p.arguments.store v flag }

def switch (p : Progress) (flag : Flag) : Except Stop Progress := do
  return { p with arguments := ← p.arguments.switch flag }

/-- Take over several options without values. -/
def switchAll (p : Progress) : List Flag → Except Stop Progress
  | [] => .ok p
  | f :: fs => do (← p.switch f).switchAll fs

/-- The arguments at the end; of the words, the mark `--` is left out once. -/
def finish (p : Progress) : Except Stop Arguments :=
  if p.others.isEmpty then .ok { p.arguments with bundles := p.words.erase Text.endMark }
  else .error (.usage (.unrecognized p.others))

end Progress

/-- Consume the arguments from left to right. -/
def consume (p : Progress) : List Token → Except Stop Arguments
  | [] => p.finish
  | .endMark :: rest => consume (p.addWord Text.endMark) rest
  | .word text :: rest => consume (p.addWord text) rest
  | .unknown text :: rest => consume (p.close.addOther text) rest
  | .option flag short (some value) :: rest =>
    if flag.takesValue then consume (p.close.store flag (.ofText value)) rest
    else do
      let flags ← (cluster flag short value.toList).mapError .usage
      consume (← p.close.switchAll flags) rest
  | .option flag _ none :: rest =>
    if flag.takesValue then
      match rest with
      | .word text :: rest => consume (p.close.store flag (.text text)) rest
      | _ => .error (.usage (.missingValue flag))
    else do consume (← p.close.switch flag) rest

/-- Read the arguments of a command line. -/
def Arguments.read (arguments : List String) : Except Stop Arguments := do
  consume {} (← (tokens arguments).mapError .usage)

end BorrowGraph.CommandLine
