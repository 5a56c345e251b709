import FindToSelect.Json.Tree
import FindToSelect.Statement

/-!
# Settings

The settings say whether `_id` is renamed and where a session keeps its history. They are read from
a file of strict JSON, and every setting may be missing.

* In an object, the members `rename_id` and `history_file` are the settings, in any order and each
  at most once; other members are skipped, whatever valid JSON they hold.
* An array lists the two settings by position.
* `Settings.parse?` reads a text, `Settings.text` writes one, and `Settings.load` reads a file, with
  the cause when that fails.
-/

namespace FindToSelect

/-- **The settings of a translator.** -/
structure Settings where
  renameId : Bool := false
  historyFile : Option String := none
deriving DecidableEq

namespace Settings

/-- How fields are called in statements. -/
def naming (s : Settings) : Naming :=
  ⟨s.renameId⟩

/-! ### Reading -/

/-- The value of the setting `rename_id`. -/
def flag? : Json.Tree → Option Bool
  | .boolean b => some b
  | _ => none

/-- The value of the setting `history_file`: a string or null. -/
def path? : Json.Tree → Option (Option String)
  | .null => some none
  | .string items => (Text.Item.decode? items).map fun cs => some (String.ofList cs)
  | _ => none

/-- **The settings that were found so far** in an object. -/
structure Found where
  renameId : Option Bool := none
  historyFile : Option (Option String) := none
deriving DecidableEq

/-- The names of the two settings. -/
def renameIdKey : String := "rename_id"

/-- The name of the setting for the history. -/
def historyFileKey : String := "history_file"

/-- **Adds one member.** A setting must be new and its value of the right kind; any other member is
skipped. -/
def Found.add? (f : Found) (key : List Text.Item) (t : Json.Tree) : Option Found := do
  let name ← Text.Item.decode? key
  if name = renameIdKey.toList then
    if f.renameId.isSome then none else (flag? t).map fun b => ⟨some b, f.historyFile⟩
  else if name = historyFileKey.toList then
    if f.historyFile.isSome then none else (path? t).map fun p => ⟨f.renameId, some p⟩
  else some f

/-- Adds members from left to right. -/
def Found.addAll? (f : Found) : Json.Members → Option Found
  | [] => some f
  | (key, t) :: rest => (f.add? key t).bind fun g => g.addAll? rest

/-- The settings that were found, the others having their defaults. -/
def Found.settings (f : Found) : Settings :=
  ⟨f.renameId.getD false, f.historyFile.getD none⟩

/-- **The settings that a tree holds.** -/
def ofTree? : Json.Tree → Option Settings
  | .object members => (Found.addAll? {} members).map Found.settings
  | .array [] => some {}
  | .array [r] => (flag? r).map fun b => ⟨b, none⟩
  | .array [r, h] => (flag? r).bind fun b => (path? h).map fun p => ⟨b, p⟩
  | _ => none

/-- **Reads settings from a text.** -/
def parse? (cs : List Char) : Option Settings :=
  (Json.read? cs).bind ofTree?

/-! ### Writing -/

/-- The settings as a value. -/
def value (s : Settings) : Value :=
  .object [
    (renameIdKey, .boolean s.renameId),
    (historyFileKey, match s.historyFile with | some path => .string path | none => .null)]

/-- **Writes settings as a text.** -/
def text (s : Settings) : List Char :=
  s.value.text

/-! ### Files -/

/-- **What stands at a path**: nothing, a directory, or a file with its bytes. -/
inductive File where
  | missing
  | directory
  | content (bytes : ByteArray)

/-- **Why settings cannot be loaded.** -/
inductive LoadError where
  /-- There is no file. -/
  | notFound
  /-- The path is a directory. -/
  | isDirectory
  /-- The content is no UTF-8. -/
  | notUtf8
  /-- The content holds no settings. -/
  | invalid
deriving DecidableEq

/-- **The wording of a load error** for the file at `path`. Of `invalid` only the part
up to the path is given: the whole text goes on with what is wrong with the content, in the words of
the JSON reader, and that is left out. -/
def LoadError.message (path : String) : LoadError → String
  | notFound => "Config file does not exist: " ++ path
  | isDirectory => "Cannot read config file " ++ path ++ ": Is a directory (os error 21)"
  | notUtf8 => "Cannot read config file " ++ path ++ ": stream did not contain valid UTF-8"
  | invalid => "Cannot parse JSON config file " ++ path

/-- **Loads settings.** -/
def load : File → Except LoadError Settings
  | .missing => .error .notFound
  | .directory => .error .isDirectory
  | .content bytes =>
    match String.fromUTF8? bytes with
    | none => .error .notUtf8
    | some content =>
      match parse? content.toList with
      | none => .error .invalid
      | some s => .ok s

end Settings

end FindToSelect
