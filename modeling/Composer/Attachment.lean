set_option autoImplicit false

/-!
# Attachments

Files that wait to be sent with the next message. Two files with the same name, size and time of
last change are the same file, and a selection holds each file once, in the order of arrival.
-/

namespace Composer

/-- A file that was picked, pasted or dropped. -/
structure Attachment where
  name : String
  /-- Size in bytes. -/
  size : UInt64
  /-- Time of last change in milliseconds since the start of 1970. -/
  modified : Int64
  mime : String
  data : List UInt8
  deriving DecidableEq, Repr

/-- What makes two attachments the same file. -/
structure FileKey where
  name : String
  size : UInt64
  modified : Int64
  deriving DecidableEq, Repr

namespace Attachment

/-- An attachment with the size of its data. -/
def ofBytes (name mime : String) (modified : Int64) (data : List UInt8) : Attachment :=
  { name, size := UInt64.ofNat data.length, modified, mime, data }

/-- The identity of an attachment. -/
def key (f : Attachment) : FileKey := { name := f.name, size := f.size, modified := f.modified }

end Attachment

/-- The files selected for the next message. -/
structure Selection where
  files : List Attachment := []
  deriving DecidableEq, Repr

namespace Selection

/-- Whether a file with this key is selected. -/
def has (s : Selection) (key : FileKey) : Bool := s.files.any fun f => f.key == key

/-- Adds a file at the end unless it is selected already. -/
def add (s : Selection) (f : Attachment) : Selection :=
  if s.has f.key then s else { files := s.files ++ [f] }

/-- Adds files one after another. -/
def merge (s : Selection) (incoming : List Attachment) : Selection := incoming.foldl add s

/-- How many of the incoming files a merge adds: all that are not selected when it is their turn. -/
def added (s : Selection) : List Attachment → Nat
  | [] => 0
  | f :: incoming => (if s.has f.key then 0 else 1) + (s.add f).added incoming

/-- Takes out the file at a position, counted from zero. -/
def remove (s : Selection) (index : Nat) : Option Attachment × Selection :=
  (s.files[index]?, { files := s.files.eraseIdx index })

/-- Whether nothing is selected. -/
def isEmpty (s : Selection) : Bool := s.files.isEmpty

end Selection
end Composer
