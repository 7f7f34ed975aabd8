import Mathlib.Data.List.Basic

namespace RpaPlatform

/-!
# One path, and the files that it has named

A path names a file, or none.  Opening it for writing truncates the file that
it names, in place, or creates one; who has opened a file goes on with that
file whatever becomes of the path, and at a position of its own.
-/

/-- A path, and the contents of the files that it has named. -/
structure LinkedFile (Byte : Type*) where
  entry : Option Nat := none
  contents : List (List Byte) := []

namespace LinkedFile

variable {Byte : Type*} (path : LinkedFile Byte)

def content (file : Nat) : List Byte :=
  path.contents[file]?.getD []

def linked? : Option (List Byte) :=
  path.entry.map path.content

/-- Open the path for writing. -/
def openTruncated : LinkedFile Byte × Nat :=
  match path.entry with
  | some file =>
    ({ path with contents := path.contents.set file [] }, file)
  | none =>
    ({ entry := some path.contents.length
       contents := path.contents ++ [[]] },
      path.contents.length)

/-- Bytes written at a position; what is skipped before it is a hole. -/
def overwrite
    (hole : Byte)
    (earlier : List Byte)
    (position : Nat)
    (chunk : List Byte) : List Byte :=
  (earlier ++ List.replicate (position - earlier.length) hole).take
      position ++
    chunk ++ earlier.drop (position + chunk.length)

/-- Write to a file at a position. -/
def writeAt
    (hole : Byte)
    (file position : Nat)
    (chunk : List Byte) : LinkedFile Byte :=
  { path with
    contents :=
      path.contents.modify file fun earlier =>
        overwrite hole earlier position chunk }

def unlink : LinkedFile Byte :=
  { path with entry := none }

def Exists (file : Nat) : Prop :=
  file < path.contents.length

section Facts

variable {path} {file : Nat} {hole : Byte} {chunk : List Byte}

theorem linked?_eq_content
    (isEntry : path.entry = some file) :
    path.linked? = some (path.content file) := by
  unfold linked?
  rw [isEntry]
  rfl

theorem overwrite_end (earlier : List Byte) :
    overwrite hole earlier earlier.length chunk = earlier ++ chunk := by
  simp [overwrite]

theorem openTruncated_spec
    (named : ∀ file, path.entry = some file → path.Exists file) :
    path.openTruncated.1.entry = some path.openTruncated.2 ∧
      path.openTruncated.1.Exists path.openTruncated.2 ∧
        path.openTruncated.1.content path.openTruncated.2 = [] := by
  unfold openTruncated
  cases isEntry : path.entry with
  | none =>
    simp [content, Exists]
  | some file =>
    have inside : file < path.contents.length := named file isEntry
    simp [content, Exists, inside]

theorem content_writeAt
    (inside : path.Exists file) :
    (path.writeAt hole file (path.content file).length chunk).content
        file =
      path.content file ++ chunk := by
  have there : path.contents[file]? = some (path.content file) := by
    unfold content
    rw [List.getElem?_eq_getElem inside]
    rfl
  conv_lhs => unfold content writeAt
  rw [List.getElem?_modify_eq, there]
  exact overwrite_end _

theorem exists_writeAt
    {other : Nat}
    (position : Nat)
    (inside : path.Exists other) :
    (path.writeAt hole file position chunk).Exists other := by
  unfold Exists writeAt
  rw [List.length_modify]
  exact inside

@[simp]
theorem entry_writeAt (position : Nat) :
    (path.writeAt hole file position chunk).entry = path.entry :=
  rfl

end Facts

end LinkedFile

end RpaPlatform
