/-
Settings from a list of arguments.

The value of an option is the next argument or stands behind `=`; options for truth values may
do without one.  `Flags.layer` classifies the arguments, consumes them from left to right, and
takes of each option the last value.
-/
import BorrowGraph.Settings.Standard.Check
import BorrowGraph.Settings.Standard.Flags.Mark
import BorrowGraph.Settings.Standard.Flags.Style
import BorrowGraph.Text.Argument
import BorrowGraph.Text.Case
import BorrowGraph.Text.Identifier

namespace BorrowGraph.Settings.Standard.Flags

/-! ### Classification -/

/-- An argument by itself. -/
inductive Token where
  /-- The mark that ends the options. -/
  | endMark
  | word (text : String)
  /-- An option, the truth value that its name gives, whether it has one mark, and the value
  attached. -/
  | option (flag : Flag) (given : Option Bool) (short : Bool) (value : Option String)
  /-- An option that there is not. -/
  | unknown (text : String)
  deriving DecidableEq, Repr

/-- The options with the characters that mark them. -/
structure Grammar where
  table : Style.Table
  mark : List Char
  deriving DecidableEq, Repr

namespace Grammar

def find? (g : Grammar) (name : String) : Option (Flag × Option Bool) :=
  g.table.find? name

/-- Whether a name has a single mark. -/
def isShort (g : Grammar) (name : String) : Bool :=
  match name.toList with
  | _ :: c :: _ => c ∉ g.mark
  | _ => true

/-- Whether there are options that look like negative numbers. -/
def hasNumbers (g : Grammar) : Bool :=
  g.table.flags.any fun f => f.names.any fun (n, _) => Text.isNegativeNumber n.toList

/-- Classify an argument. -/
def classify (g : Grammar) (text : String) : Token :=
  match text.toList with
  | [] => .word text
  | c :: rest =>
    let other : Token :=
      if (Text.isNegativeNumber text.toList && !g.hasNumbers) || text.toList.contains ' ' then
        .word text
      else .unknown text
    if c ∉ g.mark then .word text
    else
      match g.find? text with
      | some (f, given) => .option f given (g.isShort text) none
      | none =>
        if rest.isEmpty then .word text
        else
          let (name, value) := Text.splitValue text.toList
          match g.find? name, value with
          | some (f, given), some value => .option f given (g.isShort name) (some value)
          | _, _ =>
            match g.find? (String.ofList (text.toList.take 2)) with
            | some (f, given) =>
              if g.isShort text then
                .option f given true (some (String.ofList (text.toList.drop 2)))
              else other
            | none => other

/-- Classify all arguments. -/
def tokens (g : Grammar) : List String → List Token
  | [] => []
  | text :: rest =>
    if text = Text.endMark then .endMark :: rest.map .word else g.classify text :: g.tokens rest

/-! ### Small letters -/

/-- A name that there is: as it is written, or else in small letters. -/
def known? (g : Grammar) (name : String) : Option (String × Option Bool) :=
  ([name, Text.lower name].find? fun n => (g.find? n).isSome).map fun n =>
    (n, ((g.find? n).map Prod.snd).getD none)

/-- Letters behind a single mark in small letters, as far as they are options without a value,
and the first that takes one. -/
def lowerLetters (g : Grammar) (mark : Char) : List Char → List Char
  | [] => []
  | c :: cs =>
    match g.known? (String.ofList [mark, c]) with
    | none => c :: cs
    | some (name, none) => name.toList.drop 1 ++ cs
    | some (name, some _) => name.toList.drop 1 ++ g.lowerLetters mark cs

/-- A mark and a name in small letters, if there is no such option otherwise. -/
def lowerName (g : Grammar) (name : String) : String :=
  match g.known? name, name.toList with
  | some (known, _), _ => known
  | none, c :: cs =>
    if c ∈ g.mark && g.isShort name then String.ofList (c :: g.lowerLetters c cs) else name
  | none, [] => name

/-- An argument with its option in small letters.  Of a value behind it only the first line is
left. -/
def lowerOption (g : Grammar) (p : Pattern) (text : String) : String :=
  let cs := text.toList
  match p.flagLength? cs with
  | none => text
  | some n =>
    g.lowerName (String.ofList (cs.take n)) ++ String.ofList ((cs.drop n).takeWhile (· ≠ '\n'))

end Grammar

/-! ### Consumption -/

/-- Why arguments are not read. -/
inductive Stop where
  | help
  | ignoredValue (flag : Flag) (value : String)
  | missingValue (flag : Flag)
  | unrecognized (texts : List String)
  deriving DecidableEq, Repr

def Stop.message : Stop → String
  | .help => ""
  | .ignoredValue f value =>
    "argument " ++ f.title ++ ": ignored explicit argument " ++ Text.quote value
  | .missingValue f => "argument " ++ f.title ++ ": expected one argument"
  | .unrecognized texts => "unrecognized arguments: " ++ " ".intercalate texts

/-- The value given to a setting. -/
inductive Given where
  | text (s : String)
  | truth (b : Bool)
  deriving DecidableEq, Repr

/-- The value behind `=`.  The mark `--` is taken away, and an empty list is left. -/
def Given.ofAttached (s : String) : Given :=
  .text (if s = Text.endMark then "[]" else s)

/-- What has been consumed: the values, the last one first, and the arguments that mean nothing. -/
structure Progress where
  values : List (Key × Given) := []
  others : List String := []
  deriving DecidableEq, Repr

/-- Take over a value. -/
def Progress.store (p : Progress) (f : Flag) (v : Given) : Except Stop Progress :=
  match f.key with
  | none => .error .help
  | some k => .ok { p with values := (k, v) :: p.values }

def Progress.addOther (p : Progress) (text : String) : Progress :=
  { p with others := p.others ++ [text] }

/-- Consume an option with a text attached to it.  Behind a single mark the letters of several
options may stand together; the last of them may still need a value. -/
def consumeAttached (g : Grammar) (p : Progress) (f : Flag) (given : Option Bool) (short : Bool) :
    List Char → Except Stop (Progress × Option Flag)
  | [] =>
    match given with
    | none => do return (← p.store f (.text ""), none)
    | some _ => .error (.ignoredValue f "")
  | c :: cs =>
    match given with
    | none => do return (← p.store f (.ofAttached (String.ofList (c :: cs))), none)
    | some b =>
      match if short then g.find? (String.ofList (g.mark.take 1 ++ [c])) else none with
      | none => .error (.ignoredValue f (String.ofList (c :: cs)))
      | some (next, given) => do
        let p ← p.store f (.truth b)
        if cs.isEmpty then
          match given with
          | none => return (p, some next)
          | some b => return (← p.store next (.truth b), none)
        else consumeAttached g p next given true cs

/-- Consume the arguments from left to right.  `needing` is an option that still needs its value. -/
def consume (g : Grammar) (p : Progress) (needing : Option Flag) : List Token → Except Stop Progress
  | [] =>
    match needing with
    | some f => .error (.missingValue f)
    | none => .ok p
  | t :: rest =>
    match needing, t with
    | some f, .word text => do consume g (← p.store f (.text text)) none rest
    | some f, _ => .error (.missingValue f)
    | none, .endMark => consume g (p.addOther Text.endMark) none rest
    | none, .word text => consume g (p.addOther text) none rest
    | none, .unknown text => consume g (p.addOther text) none rest
    | none, .option f none _ none => consume g p (some f) rest
    | none, .option f (some b) _ none => do consume g (← p.store f (.truth b)) none rest
    | none, .option f given short (some value) => do
      let (p, needing) ← consumeAttached g p f given short value.toList
      consume g p needing rest

/-! ### The layer -/

/-- What the text of an argument stands for; an empty one stands for nothing. -/
def meaning? (s : Style) : Given → Option Value
  | .truth b => some (.bool b)
  | .text t => if t.isEmpty then none else some (if s.nullText = some t then .null else .text t)

/-- The layer of consumed arguments. -/
def layerOf (s : Style) (p : Progress) : Layer :=
  Key.all.filterMap fun k => do
    let given ← Assoc.get? k p.values
    return (k.text, ← meaning? s given)

/-- The fault of arguments that are not read. -/
def faultOf (s : Style) : Stop → Fault
  | .help => .stopped 0
  | stop => if s.exits then .stopped 2 else .source (.badArguments stop.message)

/-- Read arguments: options may be written in capital letters, if that is the style. -/
def read (s : Style) (g : Grammar) (arguments : List String) : Except Stop Progress := do
  let p ← consume g {} none (g.tokens arguments)
  if p.others.isEmpty || s.ignoreUnknown then return p else throw (.unrecognized p.others)

/-- The arguments in small letters, as far as the style says so. -/
def folded (s : Style) (g : Grammar) (arguments : List String) : Except Fault (List String) :=
  if !s.foldsLetters || arguments.isEmpty then .ok arguments
  else do
    let p ← (Pattern.ofMark s.mark).mapError .badMark
    return arguments.map (g.lowerOption p)

/-- The layer that arguments give. -/
def layer (s : Style) (t : Style.Table) (arguments : List String) : Except Fault Layer := do
  let g : Grammar := ⟨t, s.mark⟩
  return layerOf s (← (read s g (← folded s g arguments)).mapError (faultOf s))

/-! ### Directives -/

/-- Whether a text can begin the names of options: words with points between them. -/
def isStart (text : String) : Bool :=
  let cs := text.toList
  cs.head? ≠ some '.' && cs.getLast? ≠ some '.' && Text.isIdentifier (cs.filter (· ≠ '.'))

/-- The beginning of the names of options that a value asks for.  An empty list or table is
found to be none only when the first name is made. -/
def startOf : Value → Except Fault (Option String)
  | .null => .ok (some "")
  | .text s =>
    if s.isEmpty then .ok (some "")
    else if isStart s then .ok (some (s ++ "."))
    else .error (.source (.badStart s))
  | .list [] | .table [] => .ok none
  | v => .error (if v.isTruthy then .noFields else .wrongShape)

/-- The marks of options that a value asks for. -/
def markOf : Value → Except Fault (List Char)
  | .null => .ok ['-']
  | .text s => if s.isEmpty then .error .characterOutOfRange else .ok s.toList
  | .list [] => .error .indexOutOfRange
  | _ => .error .wrongShape

/-- Further names of options, one or several for a name. -/
def shortcutsOf : Value → Except Fault (List (String × Value))
  | .table fields => .ok fields
  | v => if v.isTruthy then .error .noFields else .ok []

def switchesOf : Value → Switches
  | .text "toggle" => .toggle
  | v => if v.isTruthy then .dual else .valued

/-- The words for names with dashes. -/
def dashWords : List String := ["all", "no_enums"]

/-- Whether a value asks for names with dashes: it is a truth value or one of the words, and
not false itself. -/
def dashesOf (v : Value) : Except Complaint Bool :=
  match v with
  | .null => .ok false
  | .text s => if s ∈ dashWords then .ok true else (readBool v).map fun _ => true
  | .int n => (readBool v).map fun _ => n ≠ 0
  | .float x => (readBool v).map fun _ => !x.isZero
  | v => readBool v

/-- What stands for null in arguments: what stands for it in the environment, what is asked
for, or the usual text. -/
def nullOf (given : Layer) : Value :=
  let usual : Value := match Directive.plainArguments.value given with
    | .bool true => .text "None"
    | _ => .text "null"
  ([Directive.nullText.value given, Directive.argumentNull.value given].find?
    Value.isTruthy).getD usual

/-- A checked value, refused under a name. -/
def checked {α : Type} (name : String) (v : Value) (r : Except Complaint α) : Except Problem α :=
  r.mapError fun c => .refused (.value name c.text v)

/-- A truth value, false when it is not given. -/
def truthOf : Value → Except Complaint Bool
  | .null => .ok false
  | v => readBool v

/-- The style that given values ask for. -/
def styleOf (given : Layer) : Except Problem Style := do
  let ofFault {α : Type} (r : Except Fault α) : Except Problem α := r.mapError .fault
  let startValue := Directive.optionStart.value given
  let start? ← ofFault (startOf startValue)
  let mark ← ofFault (markOf (Directive.optionMark.value given))
  let start ← checked "arg_prefix" startValue (match start? with
    | some start => .ok start
    | none => .error .notText)
  let exactLetters := Directive.exactLetters.value given
  let hidesNull := Directive.hidesNull.value given
  let dashes := Directive.dashes.value given
  let _ ← checked "case_sensitive" exactLetters (truthOf exactLetters)
  let _ ← checked "hide_none_type" hidesNull (truthOf hidesNull)
  let dashes ← checked "kebab_case.bool" dashes (dashesOf dashes)
  let shortcuts ← ofFault (shortcutsOf (Directive.shortcuts.value given))
  let exits := Directive.exits.value given
  let nullText := match nullOf given with
    | .text s => some s
    | _ => none
  return {
    start := start
    mark := mark
    nullText := nullText
    isDescribed := nullText.isSome || hidesNull.isTruthy
    switches := switchesOf (Directive.switches.value given)
    dashes := dashes
    shortcuts := shortcuts
    ignoreUnknown := (Directive.ignoreUnknown.value given).isTruthy
    exits := exits.isNull || exits.isTruthy
    foldsLetters := match exactLetters with
      | .null | .bool false => true
      | _ => false }

/-- The word for the shape of a value. -/
def shapeOf : Value → String
  | .bool _ => "bool"
  | .int _ => "int"
  | .float _ => "float"
  | .text _ => "str"
  | .table _ => "dict"
  | _ => "list"

/-- The arguments of a value: texts, and empty ones for values that count as none. -/
def textsOf (items : List Value) : Except Fault (List String) :=
  items.mapM fun
    | .text s => .ok s
    | v => if v.isTruthy then .error .wrongShape else .ok ""

/-- The layer of the arguments that given values name.  Zero counts as false, and neither truth
value names any arguments. -/
def layerOfGiven (given : Layer) : Except Problem Layer := do
  match Directive.arguments.value given with
  | .null => return []
  | v =>
    let style ← styleOf given
    let table ← style.table.mapError .fault
    let refused : Except Problem Layer :=
      throw (.fault (.source (.notArguments (shapeOf v))))
    match v with
    | .list items => ((textsOf items).bind (layer style table)).mapError .fault
    | .bool _ => return []
    | .int 0 => return []
    | .float x => if x.isZero then return [] else refused
    | _ => refused

end BorrowGraph.Settings.Standard.Flags
