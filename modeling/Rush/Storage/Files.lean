import Rush.Library.Framing
import Rush.Storage.Stores

/-! The files a journal is exported to, and the compression adaptors on the way.

`FileSystem` is the documented behaviour of the file calls: a path text names a
file, and each file may refuse to be created, opened, written or read beyond
some point. `Gzip` stands for the compression crate. -/

namespace Rush.Storage

open Rush.Library

inductive WriteFault where
  | event (index : Nat) (text : String)
  | flush (text : String)
  | shutdown (text : String)
  deriving DecidableEq, Repr

structure FileSystem where
  resolve : String → String
  content : String → Option Bytes
  createFault : String → Option String
  writeFault : String → Option WriteFault
  openFault : String → Option String
  readLimit : String → Option Nat

namespace FileSystem

def noFiles : FileSystem :=
  { resolve := id, content := fun _ => none, createFault := fun _ => none,
    writeFault := fun _ => none, openFault := fun _ => none, readLimit := fun _ => none }

/-- Reading sees a file up to its read limit: an input error and the end of the
file both end the reading. -/
def openFile (files : FileSystem) (path : String) : Except String Bytes :=
  let file := files.resolve path
  match files.openFault file with
  | some text => .error text
  | none =>
    match files.content file with
    | none => .error "No such file or directory (os error 2)"
    | some bytes =>
      match files.readLimit file with
      | none => .ok bytes
      | some limit => .ok (bytes.take limit)

def write (files : FileSystem) (path : String) (bytes : Bytes) : FileSystem :=
  { files with content := Function.update files.content (files.resolve path) (some bytes) }

def create (files : FileSystem) (path : String) : Except String FileSystem :=
  match files.createFault (files.resolve path) with
  | some text => .error text
  | none => .ok (files.write path [])

structure SameHost (before after : FileSystem) : Prop where
  resolve : after.resolve = before.resolve
  createFault : after.createFault = before.createFault
  writeFault : after.writeFault = before.writeFault
  openFault : after.openFault = before.openFault
  readLimit : after.readLimit = before.readLimit

theorem SameHost.refl (files : FileSystem) : SameHost files files := ⟨rfl, rfl, rfl, rfl, rfl⟩

theorem SameHost.trans {first second third : FileSystem} (left : SameHost first second)
    (right : SameHost second third) : SameHost first third :=
  ⟨right.1.trans left.1, right.2.trans left.2, right.3.trans left.3, right.4.trans left.4,
    right.5.trans left.5⟩

theorem write_resolve (files : FileSystem) (path : String) (bytes : Bytes) :
    (files.write path bytes).resolve = files.resolve := rfl

theorem write_content (files : FileSystem) (path : String) (bytes : Bytes) (file : String) :
    (files.write path bytes).content file =
      if file = files.resolve path then some bytes else files.content file := by
  simp only [write, Function.update_apply]

end FileSystem

/-- `Path::join`: an absolute path replaces the directory. -/
def joinPath (dir file : String) : String :=
  if file.toList.head? = some '/' then file
  else if dir = "" || dir.toList.getLast? = some '/' then dir ++ file
  else dir ++ "/" ++ file

/-- The gzip encoder: what it has written once it is shut down, and what it has
written if it is dropped before. Its header has no flags set. -/
structure Gzip where
  compress : Bytes → Bytes
  abandoned : Bytes → Bytes
  header : ∀ data, [0x1f, 0x8b, 0x08, 0x00] <+: compress data

/-- `tokio::write::GzipDecoder` decodes what is written to it. Reading from it
reads the wrapped reader, so the bytes come through as they are. -/
def readThroughDecoder (inner : Bytes) : Bytes := inner

end Rush.Storage
