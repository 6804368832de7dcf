import Hypermedia.CommandLine.Run
/-!
# The command line

Reads the file of settings, runs the command, and prints what it gives.  No network is linked in, so that every request
fails to connect.
-/
namespace Hypermedia
namespace CommandLine

def readFile? (path : String) : IO (Option ByteArray) := do
  try return some (← IO.FS.readBinFile path)
  catch _ => return none

def Ending.show (e : Ending) : IO UInt32 := do
  match e with
  | .done output => IO.print output
  | .failed fault => IO.eprintln ("Error: " ++ fault.message)
  | .usage .help => IO.print helpText
  | .usage .wrong => IO.eprint helpText
  return e.exit.toUInt32

end CommandLine
end Hypermedia

open Hypermedia CommandLine in
def main (arguments : List String) : IO UInt32 := do
  let path := ((parse arguments).toOption.bind (·.options.config)).getD ""
  let bytes ← readFile? path
  (run (fun p => if p == path then bytes else none) .offline arguments).show
