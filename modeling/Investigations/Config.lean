/-
The configuration of an installation: the identity of the server, where data of the plugin goes,
and whether statistics are kept. It is written in TOML.
-/
import Investigations.Build
import Investigations.Identity
import Investigations.Text.Blank
import Investigations.Text.Utf8
import Investigations.Toml.Document

namespace Investigations

open Files

/-- The configuration of an installation. -/
structure Config where
  serverUuid : String
  /-- The plugin data directory, under which statistics are kept. -/
  dataDirectory : Option Path := none
  /-- Statistics go to disk. -/
  statisticsEnabled : Bool := false
deriving DecidableEq, Repr

namespace Config

/-- The identity of the server. -/
def serverIdentity (config : Config) : ServerIdentity := ⟨config.serverUuid⟩

/-! ## TOML -/

/-- The text under a key. Nothing under the key is no text; anything but a string is refused. -/
def textEntry? (key : String) (entries : Toml.Entries) : Option (Option String) :=
  match entries.lookup key with
  | none => some none
  | some (.value (.string text)) => some (some text)
  | some _ => none

/-- The truth value under a key, which is false if nothing is there. -/
def boolEntry? (key : String) (entries : Toml.Entries) : Option Bool :=
  match entries.lookup key with
  | none => some false
  | some (.value (.bool value)) => some value
  | some _ => none

/-- The configuration in a table. Other keys do not count. -/
def ofEntries? (entries : Toml.Entries) : Option Config := do
  let serverUuid ← ← textEntry? "server_uuid" entries
  let dataDirectory ← textEntry? "plugin_data_dir" entries
  let statisticsEnabled ← boolEntry? "statistics_enabled" entries
  return ⟨serverUuid, dataDirectory.map Files.Path.mk, statisticsEnabled⟩

/-- The configuration in a text. A blank identity would not tell one installation from another
and is refused. -/
def ofText (text : String) : Except Error Config :=
  match (Toml.parse? text).bind ofEntries? with
  | none => .error (.config none)
  | some config =>
    if Text.allBlank config.serverUuid then
      .error (.config (some "server_uuid must not be empty"))
    else .ok config

/-- The configuration in a file. -/
def load (disk : Disk) (path : Path) : Except Error Config :=
  match disk.read path with
  | .error fault => .error (.io fault)
  | .ok bytes =>
    match Utf8.decode? bytes with
    | none => .error (.io .invalidData)
    | some text => ofText text

/-! ## JSON -/

/-- The configuration as JSON, without a data directory if there is none. -/
def toJson (config : Config) : Json.Value :=
  .ofFields <|
    ("server_uuid", .ofText config.serverUuid) ::
      (config.dataDirectory.toList.map fun path => ("plugin_data_dir", Json.Value.ofText path.text))
      ++ [("statistics_enabled", .bool config.statisticsEnabled)]

end Config

end Investigations
