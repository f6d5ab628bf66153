import AssetAudit.Files.Tree
import AssetAudit.Text.Lines
import AssetAudit.Text.Utf8

namespace AssetAudit

/-! Reading text files. -/

inductive TextFailure where
  | access (failure : AccessFailure)
  | decoding (error : Text.Utf8.DecodeError)
deriving DecidableEq

/-- The message about a file under the path as it was given. -/
def TextFailure.message (path : String) : TextFailure → String
  | access failure => failure.message path
  | decoding error => error.message

/-- The characters of a text file in UTF-8, with every line ending as a line feed. -/
def decodeText (bytes : List UInt8) : Except TextFailure (List Char) :=
  match Text.Utf8.decode bytes with
  | .ok chars => .ok (Text.normalizeNewlines chars)
  | .error error => .error (.decoding error)

/-- Reads the text file at the end of a path. -/
def Workspace.readText (workspace : Workspace) (path : String) :
    Except TextFailure (List Char) :=
  match workspace.files.content workspace.directory path with
  | .error failure => .error (.access failure)
  | .ok bytes => decodeText bytes

end AssetAudit
