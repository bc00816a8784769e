/-
Directives among given values.

Some keys are reserved.  A value given under one of them sets nothing: it says how the
environment is read, which arguments are read as settings, or from what the settings are made
at all.  Reserved keys are spelled exactly, begin with an underscore, and are reserved only
among values given directly.  No rule that is proved about settings is about values with such
keys; they are part of what the standard library does with them.
-/
import BorrowGraph.Settings.Library
import BorrowGraph.Value.Access

namespace BorrowGraph.Settings.Standard

/-- What the value under a reserved key is for. -/
inductive Directive where
  /-- How the names of the environment variables begin. -/
  | start
  /-- Which names begin like that. -/
  | startTarget
  /-- Whether small and capital letters differ in names. -/
  | exactLetters
  /-- Whether an empty environment variable counts as unset. -/
  | ignoreEmpty
  /-- Which text of an environment variable stands for null. -/
  | nullText
  /-- How often a nested name is split.  Names are not nested here. -/
  | splitLimit
  /-- Files with further variables.  None of them sets anything, but those that are there are
  read. -/
  | companions
  /-- The encoding of those files. -/
  | companionEncoding
  /-- In how many directories above those files are looked for. -/
  | companionDepth
  /-- The arguments that are read as settings. -/
  | arguments
  /-- How the names of their options begin. -/
  | optionStart
  /-- The character that marks an option. -/
  | optionMark
  /-- Which text of an argument stands for null. -/
  | argumentNull
  /-- Whether values are written without braces and quotes, which decides the usual text for
  null. -/
  | plainArguments
  /-- Whether null is left out of the description of options. -/
  | hidesNull
  /-- Whether options for truth values take no value. -/
  | switches
  /-- Whether the names of options have dashes. -/
  | dashes
  /-- Further names of options. -/
  | shortcuts
  /-- Whether unknown arguments are passed over. -/
  | ignoreUnknown
  /-- Whether wrong arguments end the run. -/
  | exits
  /-- The sources from which settings are made, in place of all others. -/
  | sources
  deriving DecidableEq, Repr

namespace Directive

def all : List Directive :=
  [.start, .startTarget, .exactLetters, .ignoreEmpty, .nullText, .splitLimit, .companions,
    .companionEncoding, .companionDepth, .arguments, .optionStart, .optionMark, .argumentNull,
    .plainArguments, .hidesNull, .switches, .dashes, .shortcuts, .ignoreUnknown, .exits, .sources]

/-- The reserved key of a directive. -/
def name : Directive → String
  | .start => "_env_prefix"
  | .startTarget => "_env_prefix_target"
  | .exactLetters => "_case_sensitive"
  | .ignoreEmpty => "_env_ignore_empty"
  | .nullText => "_env_parse_none_str"
  | .splitLimit => "_env_nested_max_split"
  | .companions => "_env_file"
  | .companionEncoding => "_env_file_encoding"
  | .companionDepth => "_env_file_depth"
  | .arguments => "_cli_parse_args"
  | .optionStart => "_cli_prefix"
  | .optionMark => "_cli_flag_prefix_char"
  | .argumentNull => "_cli_parse_none_str"
  | .plainArguments => "_cli_avoid_json"
  | .hidesNull => "_cli_hide_none_type"
  | .switches => "_cli_implicit_flags"
  | .dashes => "_cli_kebab_case"
  | .shortcuts => "_cli_shortcuts"
  | .ignoreUnknown => "_cli_ignore_unknown_args"
  | .exits => "_cli_exit_on_error"
  | .sources => "_build_sources"

/-- The reserved keys without effect. -/
def idleNames : List String :=
  ["_nested_model_default_partial_update", "_env_nested_delimiter", "_env_parse_enums",
    "_cli_prog_name", "_cli_settings_source", "_cli_enforce_required",
    "_cli_use_class_docs_for_groups", "_cli_show_env_vars", "_secrets_dir"]

/-- The value of a directive, null when it is not given. -/
def value (d : Directive) (given : Layer) : Value :=
  (Assoc.get? d.name given).getD .null

end Directive

/-- Whether a key is reserved. -/
def isReserved (name : String) : Bool :=
  Directive.all.any (·.name = name) || name ∈ Directive.idleNames

/-- Given values without the directives. -/
def withoutDirectives (given : Layer) : Layer :=
  given.filter fun (name, _) => !isReserved name

/-- The key under which nothing can be given, since it stands for the settings in the making. -/
def ownKey : String := "__pydantic_self__"

/-! ### The environment -/

/-- How settings are read from the environment. -/
structure Reading where
  /-- How the names of the variables begin; nothing when a name cannot begin like that. -/
  start : Option String := some variableStart
  /-- Whether small and capital letters differ in names. -/
  exactLetters : Bool := false
  /-- Whether an empty variable counts as unset. -/
  ignoreEmpty : Bool := true
  /-- The text that stands for null. -/
  nullText : Option String := none
  deriving DecidableEq, Repr

namespace Reading

/-- The targets for which the names of settings begin like variables. -/
def startTargets : List String := ["variable", "all"]

/-- The beginning of names that a value asks for.  A list or a table has a length like a text
and is found to be none only when a name is made. -/
def startOf (value : Value) : Except Fault (Option String) :=
  match value with
  | .null => .ok (some variableStart)
  | .text s => .ok (some s)
  | .list _ | .table _ => .ok none
  | _ => .error .wrongShape

/-- Whether the names of settings begin like variables. -/
def isTargeted : Value → Bool
  | .null => true
  | .text s => s ∈ startTargets
  | _ => false

/-- Whether a value is a number or counts as none. -/
def isLimit : Value → Bool
  | .int _ | .float _ | .bool _ => true
  | v => !v.isTruthy

/-- The way of reading that given values ask for. -/
def ofGiven (given : Layer) : Except Fault Reading := do
  unless isLimit (Directive.splitLimit.value given) do throw .wrongShape
  let start ← startOf (Directive.start.value given)
  let ignoreEmpty := Directive.ignoreEmpty.value given
  return {
    start := if isTargeted (Directive.startTarget.value given) then start else some ""
    exactLetters := (Directive.exactLetters.value given).isTruthy
    ignoreEmpty := ignoreEmpty.isNull || ignoreEmpty.isTruthy
    nullText := match Directive.nullText.value given with
      | .text s => some s
      | _ => none }

end Reading

/-! ### Sources in place of all others -/

/-- The layer that is made from given sources: a pair of sources and further values, of which
only the pair without sources can be given. -/
def sourcesLayer (v : Value) : Except Fault Layer := do
  match ← v.elements with
  | [sources, _] => if sources.isTruthy then throw .wrongShape else return []
  | several => throw (.notAPair several.length)

end BorrowGraph.Settings.Standard
