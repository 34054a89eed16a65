import Patchbay.Text.Utf8

namespace Patchbay

inductive Access where
  | free
  /-- The directory of the file is missing and cannot be made. -/
  | noDirectory
  /-- The file is there but may only be read, or is not and the directory takes none. -/
  | denied
deriving DecidableEq

inductive FileEntry where
  | missing (access : Access)
  | file (content : List UInt8) (writable : Bool)
  /-- Something that cannot be read as a file, such as a directory. -/
  | unreadable
deriving DecidableEq

namespace FileEntry

/-- The text in the file, if there is a file and it is UTF-8. -/
def text? : FileEntry → Option String
  | file content _ => Utf8.toString? content
  | _ => none

def access : FileEntry → Access
  | missing access => access
  | file _ writable => if writable then .free else .denied
  | unreadable => .denied

end FileEntry

end Patchbay
