/-
The files that a run of the command line may look at.

A run is a function of a tree of files, so its files are gathered first: those that the
arguments and the environment name, and then, when the bundles are known, those of the selected
functions.
-/
import BorrowGraph.CommandLine.Session

namespace BorrowGraph.CommandLine

/-- A path and the paths of the directories above it, outermost first. -/
def pathsTo (p : Path) : List Path :=
  (List.range p.parts.length).map fun n => { p with parts := p.parts.take (n + 1) }

/-- The files that the arguments and the environment name, also those in home directories. -/
def namedSources (w : Settings.Surroundings) (a : Arguments) : List Path :=
  let fromEnvironment := (w.lookup? Settings.fileVariable).toList
  let config := match a.config with
    | some (.text file) => [file]
    | _ => []
  let named := (fromEnvironment ++ config).map Path.ofText
  let expanded := named.filterMap fun p => (w.expand p).toOption
  Settings.defaultFile :: named ++ expanded ++ a.bundles.map Path.ofText

/-- The files of a function: its facts, its listing, and its report with the temporary file. -/
def functionSources (s : Settings) (f : Function) : List Path :=
  let name := fileName f.path
  let report := s.reportPath name
  let facts := Relation.all.map fun r => (s.factsPath name).child (FactStore.fileOf r)
  s.factsPath name :: s.listingPath name :: report :: report.addSuffix "graph.dot" ".tmp" :: facts

/-- The files of the selected functions, as far as the files known so far tell. -/
def selectedSources (lib : Settings.Library) (w : Settings.Surroundings) (a : Arguments) :
    List Path :=
  match ((a.loadSettings lib w).start ()).1, ((loadBundles w.files a.bundles).start ()).1 with
  | .ok s, .ok fs => (fs.filter (Pipeline.isSelected { settings := s })).flatMap (functionSources s)
  | _, _ => []

end BorrowGraph.CommandLine
