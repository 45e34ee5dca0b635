/-
**A table served at a terminal.**

`GRID_TABLE_CONFIG` names the file with the definition of the table, `GRID_SEED` one with the
documents that the store begins with. Requests are read from the standard input, one on a line, and
each is answered on a line.
-/

import DocTable.Server.Routes

namespace DocTable

/-- The file with the definition where no other one is named. -/
def defaultConfigPath : String := "/etc/grid/table.json"

/-- Reads a file as far as it can be read. -/
def readSource (path : String) : IO SourceFile := do
  try
    let bytes ← IO.FS.readBinFile path
    return ⟨path, .ok bytes.toList⟩
  catch
    | .noFileOrDirectory .. => return ⟨path, .error .notFound⟩
    | reason => return ⟨path, .error (.other (toString reason))⟩

/-- An identifier that no other store begins with. -/
def freshId : IO ObjectId := do
  let bytes ← IO.getRandomBytes 12
  return ⟨BitVec.ofNat 96 (bytes.foldl (fun n b => 256 * n + b.toNat) 0)⟩

/-- The line that answers a line. -/
def answerLine (service : Service) (line : String) : String :=
  match Web.Request.ofLine? (line.toList.filter fun c => c ≠ '\n' ∧ c ≠ '\r') with
  | none => (Web.Response.error 400 "malformed request").line
  | some request =>
    match service.respond false request with
    | some response => response.line
    | none => (Web.Response.error 504 "no answer").line

/-- Answers lines until the input ends. -/
partial def serve (service : Service) (input output : IO.FS.Stream) : IO Unit := do
  let line ← input.getLine
  if line.isEmpty then return
  output.putStrLn (answerLine service line)
  output.flush
  serve service input output

end DocTable

/-- Starts the service and answers requests; a service that does not start says why. -/
def main : IO UInt32 := do
  let path := (← IO.getEnv "GRID_TABLE_CONFIG").getD DocTable.defaultConfigPath
  let config ← DocTable.readSource path
  let seed ← (← IO.getEnv "GRID_SEED").mapM DocTable.readSource
  match DocTable.startUp (← DocTable.freshId) config seed with
  | .error reason =>
    (← IO.getStderr).putStrLn reason.message
    return 1
  | .ok service =>
    DocTable.serve service (← IO.getStdin) (← IO.getStdout)
    return 0
