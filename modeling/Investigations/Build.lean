/-
Builds, and where the suggestions file of a build is:

  <artifacts directory>/.teamcity/investigationsAutoAssigner/suggestions.txt

The first of these directories belongs to the host and is never made here; without it the build
has no room for suggestions. The second is ours and is made when it is needed.
-/
import Investigations.Outcome

namespace Investigations

open Files

/-- Name of the host's directory in the artifacts directory of a build. -/
def hostDirectoryName : String := ".teamcity"

/-- Name of the directory for our files. -/
def pluginDirectoryName : String := "investigationsAutoAssigner"

/-- Name of the suggestions file. -/
def suggestionsFileName : String := "suggestions.txt"

/-- A build, known by its number and its artifacts directory. -/
structure Build where
  id : UInt64
  artifactsDirectory : Path
deriving DecidableEq, Repr

namespace Build

/-- The directory of the host. -/
def hostDirectory (build : Build) : Path := build.artifactsDirectory.child hostDirectoryName

/-- The directory for our files. -/
def pluginDirectory (build : Build) : Path := build.hostDirectory.child pluginDirectoryName

/-- The suggestions file, whether it exists or not. -/
def suggestionsFile (build : Build) : Path := build.pluginDirectory.child suggestionsFileName

/-- The suggestions file, if the directories that lead to it exist. Nothing is made. -/
def find (build : Build) (disk : Disk) : Option Path × List Event :=
  if disk.isDirectory build.hostDirectory then
    (if disk.isDirectory build.pluginDirectory then some build.suggestionsFile else none, [])
  else (none, [.hostDirectoryMissing build.id build.hostDirectory])

/-- The suggestions file, after our directory is made if it is missing. The file itself is not
made. -/
def resolve (build : Build) (disk : Disk) : Outcome Path :=
  if disk.isDirectory build.hostDirectory then
    if disk.isDirectory build.pluginDirectory then ⟨.ok build.suggestionsFile, disk, []⟩
    else
      match disk.makeDirectories build.pluginDirectory with
      | (.ok (), made) =>
        ⟨.ok build.suggestionsFile, made, [.pluginDirectoryMade build.id build.pluginDirectory]⟩
      | (.error fault, left) => ⟨.error (.io fault), left, []⟩
  else
    ⟨.error (.hostDirectoryMissing build.id build.hostDirectory), disk,
      [.hostDirectoryMissing build.id build.hostDirectory]⟩

end Build

end Investigations
