/-
# The program

Reads the file that the command line names, and prints what comes of it. The log is
not written.
-/
import ControllerSynthesis.CommandLine

namespace ControllerSynthesis.Program

/-- The problem that an error of the system is. -/
def problemOf : IO.Error → Storage.Problem
  | .noFileOrDirectory _ _ _ => .notFound
  | .inappropriateType _ code details =>
    if code = 20 then .notDirectory else if code = 21 then .isDirectory else .other details
  | e => .other e.toString

/-- What reading the file of a request gives. -/
def contents : CommandLine.Request → IO (Except Storage.Problem ByteArray)
  | .render path _ => do
    try
      return .ok (← IO.FS.readBinFile path)
    catch e =>
      return .error (problemOf e)
  | _ => return .error .notFound

/-- Runs the request of a command line, and gives its exit code. -/
def run (request : CommandLine.Request) : IO UInt32 := do
  let contents ← contents request
  let environment ← IO.getEnv "PRAVEGA_NAMESPACE"
  let outcome := request.outcome (fun _ => contents) environment
  IO.print (outcome.output.getD "")
  IO.eprint (outcome.report.getD "")
  return outcome.exitCode.toUInt32

end ControllerSynthesis.Program

open ControllerSynthesis in
/-- Runs the command line. -/
def main (arguments : List String) : IO UInt32 :=
  Program.run (CommandLine.parse arguments)
