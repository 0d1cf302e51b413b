import RuleEngine.CommandLine.Run

/-!
# The `evident` executable

Runs a command line; a file that cannot be read, or is not UTF-8 text, counts as missing.
-/

open RuleEngine.CommandLine

def readText (path : String) : IO (Option String) := do
  try
    let bytes ← IO.FS.readBinFile path
    return String.fromUTF8? bytes
  catch _ =>
    return none

def emit (out err : String) (status : Nat) : IO UInt32 := do
  IO.print out
  IO.eprint err
  return status.toUInt32

def main (args : List String) : IO UInt32 := do
  match Request.ofArgs args with
  | .done status out err => emit out err status
  | .work inv =>
    let files ← inv.paths.mapM fun p => do return (p, ← readText p)
    let lookup (p : String) : Option String := (files.find? (·.1 == p)).bind (·.2)
    let o := inv.run lookup
    emit o.stdout o.stderr o.status
