import BatchedSave.Config.Form
import BatchedSave.Toml.Reading

/-!
# Reading configurations

A configuration is read from a TOML text and has to be valid. Where a list stands for a section,
surplus items are put up with.
-/
namespace BatchedSave.Config

/-- A configuration that has been read but not yet validated. -/
def decode (source : String) : Except ConfigError Config :=
  match Toml.read? source >>= ofDocument? true with
  | some c => .ok c
  | none => .error .malformed

def ofToml (source : String) : Except ConfigError Config := do
  let c ← decode source
  c.validate
  return c

/-- The configuration in a file: what reading the file gave, or why it could not be read. Bytes that
are no UTF-8 text cannot be read either. -/
def ofFile (path : String) (contents : Except String ByteArray) : Except ConfigError Config :=
  match contents with
  | .error reason => .error (.unreadable path reason)
  | .ok bytes =>
    match String.fromUTF8? bytes with
    | some source => ofToml source
    | none => .error (.unreadable path "stream did not contain valid UTF-8")

end BatchedSave.Config
