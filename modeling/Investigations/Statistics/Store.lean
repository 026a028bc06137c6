/-
The statistics file of a plugin data directory. A file that can not be read as current statistics
is discarded, and counting starts afresh. The store remembers what is on disk, so that statistics
which did not change are not written again.
-/
import Investigations.Build
import Investigations.Statistics.Basic
import Investigations.Text.Utf8

namespace Investigations

open Files

/-- Name of the statistics file. -/
def statisticsFileName : String := "statistics.json"

/-- Access to a statistics file: its directory, and the statistics that it is known to hold. -/
structure StatisticsStore where
  directory : Path
  onDisk : Statistics := .fresh
deriving DecidableEq, Repr, Inhabited

namespace StatisticsStore

/-- The store of a plugin data directory. Until it is read, the file is taken to hold fresh
statistics. -/
def ofDataDirectory (dataDirectory : Path) : StatisticsStore :=
  { directory := dataDirectory.child pluginDirectoryName }

/-- The statistics file. -/
def path (store : StatisticsStore) : Path := store.directory.child statisticsFileName

/-! ## Reading -/

/-- What a text is as a statistics file. -/
inductive Content where
  | current (statistics : Statistics)
  | ofOtherVersion (version : String)
  | unreadable
deriving DecidableEq, Repr

/-- What a text is as a statistics file. -/
def Content.ofText (text : String) : Content :=
  match (Json.Value.parse? text).bind Statistics.ofJson? with
  | none => .unreadable
  | some statistics =>
    if statistics.version = statisticsVersion then .current statistics
    else .ofOtherVersion statistics.version

/-- The statistics that count. -/
def Content.statistics : Content → Statistics
  | .current statistics => statistics
  | _ => .fresh

/-- The events of reading the file at `path`. -/
def Content.events (path : Path) : Content → List Event
  | .current _ => []
  | .ofOtherVersion version => [.statisticsOfOtherVersion path version]
  | .unreadable => [.statisticsUnreadable path]

/-- What reading gives: the statistics or a failure, and the store as it is from then on. -/
structure Loaded where
  answer : Except Error Statistics
  store : StatisticsStore
  events : List Event

/-- Reads the file. If there is none, the statistics are fresh. -/
def read (store : StatisticsStore) (disk : Disk) : Loaded :=
  match disk.read store.path with
  | .error .notFound => ⟨.ok .fresh, { store with onDisk := .fresh }, []⟩
  | .error fault => ⟨.error (.io fault), store, []⟩
  | .ok bytes =>
    match Utf8.decode? bytes with
    | none => ⟨.error (.io .invalidData), store, []⟩
    | some text =>
      let content := Content.ofText text
      ⟨.ok content.statistics, { store with onDisk := content.statistics },
        content.events store.path⟩

/-! ## Writing -/

/-- The bytes of a statistics file. -/
def encode (statistics : Statistics) : List UInt8 :=
  Utf8.encode statistics.toJson.pretty

/-- Writes the file, unless it is known to hold these statistics. Its directory is made if it is
missing. -/
def write (store : StatisticsStore) (disk : Disk) (statistics : Statistics) :
    Outcome Unit × StatisticsStore :=
  if store.onDisk = statistics then (⟨.ok (), disk, []⟩, store)
  else
    match disk.makeDirectories store.directory with
    | (.error fault, left) => (⟨.error (.io fault), left, []⟩, store)
    | (.ok (), made) =>
      match made.replace store.path (encode statistics) with
      | (.error fault, left) => (⟨.error (.io fault), left, []⟩, store)
      | (.ok (), written) =>
        (⟨.ok (), written, [.statisticsSaved store.path]⟩, { store with onDisk := statistics })

end StatisticsStore

end Investigations
