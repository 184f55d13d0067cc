import Uptime.Text.Quoted
/-!
A small tree of text files and directories, the place where the service keeps its
state between checks. A path is a list of names below the working directory: empty
names and `.` are dropped, so `state//a.json`, `./state/a.json` and `state/a.json`
name one file, and the empty path is the working directory itself. Making a directory
makes every directory above it.

Reading a directory, reading below a file, and reading what is not there each fail with
their own error; so do writing where the parent is missing and creating a directory
where a file stands.
-/
namespace Uptime.Store

open Uptime.Text

/-- A path below the working directory, as the names along it. -/
structure Path where
  absolute : Bool := false
  names : List String
deriving DecidableEq, Repr

namespace Path

def ofText (s : String) : Path :=
  { absolute := s.startsWith "/", names := (s.splitOn "/").filter fun n => n ≠ "" ∧ n ≠ "." }

/-- The text of a path: its names joined by `/`, or `.` for the working directory. -/
def text (p : Path) : String :=
  if p.names.isEmpty then (if p.absolute then "/" else ".")
  else (if p.absolute then "/" else "") ++ "/".intercalate p.names

def parent (p : Path) : Path := { p with names := p.names.dropLast }

def ancestors (p : Path) : List Path :=
  (List.range (p.names.length - 1)).map fun i => { p with names := p.names.take (i + 1) }

end Path

/-- Why a file operation failed. -/
inductive IoError where
  | notFound (p : Path)
  | isADirectory (p : Path)
  | notADirectory (p : Path)
  | fileExists (p : Path)
deriving DecidableEq, Repr

/-- The words of a file error: its number, its reason and the path in quotes. -/
def IoError.message : IoError → String
  | .notFound p => "[Errno 2] No such file or directory: " ++ quoted p.text
  | .isADirectory p => "[Errno 21] Is a directory: " ++ quoted p.text
  | .notADirectory p => "[Errno 20] Not a directory: " ++ quoted p.text
  | .fileExists p => "[Errno 17] File exists: " ++ quoted p.text

/-- Put `v` under `k`: a key already present keeps its place, a new key goes last. -/
def putEntry [DecidableEq κ] : List (κ × α) → κ → α → List (κ × α)
  | [], k, v => [(k, v)]
  | (k', v') :: rest, k, v => if k' = k then (k, v) :: rest else (k', v') :: putEntry rest k v

theorem lookup_putEntry [DecidableEq κ] (kvs : List (κ × α)) (k : κ) (v : α) :
    (putEntry kvs k v).lookup k = some v := by
  induction kvs with
  | nil => simp [putEntry]
  | cons p rest ih =>
    obtain ⟨k', v'⟩ := p
    by_cases h : k' = k
    · subst h; simp [putEntry]
    · have hb : (k == k') = false := beq_eq_false_iff_ne.mpr fun e => h e.symm
      simp [putEntry, h, List.lookup_cons, hb, ih]

theorem lookup_putEntry_of_ne [DecidableEq κ] (kvs : List (κ × α)) {k j : κ} (v : α)
    (h : j ≠ k) : (putEntry kvs k v).lookup j = kvs.lookup j := by
  have hb : (j == k) = false := beq_eq_false_iff_ne.mpr h
  induction kvs with
  | nil => simp [putEntry, List.lookup_cons, hb]
  | cons p rest ih =>
    obtain ⟨k', v'⟩ := p
    by_cases hk : k' = k
    · subst hk; simp [putEntry, List.lookup_cons, hb]
    · simp [putEntry, hk, List.lookup_cons, ih]

/-- Files with their text, and directories. -/
structure Disk where
  files : List (Path × String) := []
  dirs : List Path := []

namespace Disk

def file? (d : Disk) (p : Path) : Option String := d.files.lookup p

def isDir (d : Disk) (p : Path) : Bool := p.names.isEmpty || d.dirs.contains p

def occupied (d : Disk) (p : Path) : Bool := (d.file? p).isSome || d.isDir p

def underFile (d : Disk) (p : Path) : Bool := p.ancestors.any fun a => (d.file? a).isSome

def read (d : Disk) (p : Path) : Except IoError String :=
  if d.isDir p then .error (.isADirectory p)
  else match d.file? p with
    | some t => .ok t
    | none => .error (if d.underFile p then .notADirectory p else .notFound p)

def mkdirs (d : Disk) (p : Path) : Except IoError Disk :=
  if d.isDir p then .ok d
  else if (d.file? p).isSome then .error (.fileExists p)
  else if d.underFile p then .error (.notADirectory p)
  else .ok { d with dirs := d.dirs ++ (p.ancestors ++ [p]).filter (!d.dirs.contains ·) }

/-- Check that a file may be written at a path: it is no directory and its directory
exists. -/
def writable (d : Disk) (p : Path) : Except IoError Unit :=
  if d.isDir p then .error (.isADirectory p)
  else if d.isDir p.parent then .ok ()
  else .error (if d.underFile p then .notADirectory p else .notFound p)

def write (d : Disk) (p : Path) (text : String) : Except IoError Disk := do
  d.writable p
  pure { d with files := putEntry d.files p text }

/-- Add text to the end of a file, making the file when it is missing. -/
def append (d : Disk) (p : Path) (text : String) : Except IoError Disk := do
  d.writable p
  pure { d with files := putEntry d.files p ((d.file? p).getD "" ++ text) }

theorem write_ok {d d' : Disk} {p : Path} {t : String} (h : d.write p t = .ok d') :
    d.isDir p = false ∧ d' = { d with files := putEntry d.files p t } := by
  unfold write at h
  rcases hw : d.writable p with e | ⟨⟩
  · rw [hw] at h
    cases h
  rw [hw] at h
  cases h
  refine ⟨?_, rfl⟩
  -- only a path that is no directory is writable
  cases hd : d.isDir p
  · rfl
  · simp [writable, hd] at hw

theorem read_of_write {d d' : Disk} {p : Path} {t : String} (h : d.write p t = .ok d') :
    d'.read p = .ok t := by
  obtain ⟨hd, rfl⟩ := write_ok h
  have hd' : ({ d with files := putEntry d.files p t } : Disk).isDir p = false := hd
  simp [read, hd', file?, lookup_putEntry]

end Disk

end Uptime.Store
