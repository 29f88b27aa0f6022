import TestWeaver.Session.Basic

/-!
Keeping source files: reading, saving and backing up.
-/

namespace TestWeaver.Storage

/-- Writes a file below directories that are made if they are missing; the answer tells whether
the file is new. -/
def save (p : Path) (content : Text) : Act Bool := do
  let existed ← Act.ofFiles ((← get).tree.exists? p)
  if existed && !(← Act.ofFiles ((← get).tree.isFile p)) then throw (.notAFile p)
  Act.change fun t => t.makeDirs p.parent
  Act.change fun t => t.writeOctets p (Utf8.encode content)
  Act.log .debug "workspace" ((if existed then "Updated " else "Created ").toList ++ p.toText)
  return !existed

/-- A moment as part of a file's name. -/
def stamp (m : Moment) : Text := Text.replaceChar '.' '-' (Text.replaceChar ':' '-' m.toText)

def backupName (p : Path) (m : Moment) : Text :=
  p.stem ++ ".backup-".toList ++ stamp m ++ p.suffix

/-- Copies a file to one beside it that is named for the moment; what is no file is not
copied. -/
def backup (p : Path) (m : Moment) : Act (Option Path) := do
  if !(← Act.ofFiles ((← get).tree.isFile p)) then return none
  let copy ←
    match p.withName (backupName p m) with
    | .ok q => pure q
    | .error e => throw (.name e)
  let octets ← Act.ofFiles ((← get).tree.readOctets p)
  Act.change fun t => t.writeOctets copy octets
  Act.log .debug "workspace" ("Backed up ".toList ++ p.toText ++ " to ".toList ++ copy.toText)
  return some copy

end TestWeaver.Storage
