/-
What settings are read from: files, environment variables, and home directories.

A relative path whose first component begins with `~` leads to a home directory: `~` to that of
the user, which the environment may name, and `~name` to that of the user `name`.
-/
import BorrowGraph.Assoc
import BorrowGraph.FileTree

namespace BorrowGraph.Settings

/-- What settings are read from. -/
structure Surroundings where
  files : FileTree
  environment : List (String × String)
  /-- The home directory of the user, unless the environment names one. -/
  home : String := "/"
  /-- The home directories of the users that are known by name. -/
  users : List (String × String) := []

/-- The environment variable that names the home directory. -/
def homeVariable : String := "HOME"

namespace Surroundings

/-- The value of an environment variable, spelled exactly; the last one counts. -/
def lookup? (w : Surroundings) (name : String) : Option String :=
  ((w.environment.filter fun (n, _) => n = name).getLast?).map Prod.snd

/-- The home directory of a user; the empty name stands for the user who asks. -/
def homeOf? (w : Surroundings) (user : String) : Option String :=
  if user.isEmpty then some ((w.lookup? homeVariable).getD w.home) else Assoc.get? user w.users

/-- A home directory as a path.  Without a component it is the root. -/
def homePath (home : String) : Path :=
  if home.toList.all (· = '/') then Path.ofText "/" else Path.ofText home

/-- The path that a path leads to when its first component stands for a home directory.  A home
directory that would itself have to be looked up is unknown. -/
def expand (w : Surroundings) (p : Path) : Except Fault Path :=
  match p.root, p.parts with
  | "", first :: rest =>
    match first.toList with
    | '~' :: user =>
      match w.homeOf? (String.ofList user) with
      | none => .error .unknownHome
      | some home =>
        if home.toList.head? = some '~' then .error .unknownHome
        else .ok { homePath home with parts := (homePath home).parts ++ rest }
    | _ => .ok p
  | _, _ => .ok p

end Surroundings
end BorrowGraph.Settings
