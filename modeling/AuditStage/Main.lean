import AuditStage.Session.Scene

/-! The command line: the arguments tell what to do, and the input tells the scene to do it in. -/

namespace AuditStage

/-- Everything that a stream holds. -/
partial def readAll (stream : IO.FS.Stream) (before : String) : IO String := do
  let line ← stream.getLine
  if line.isEmpty then return before else readAll stream (before ++ line)

end AuditStage

/-- Runs a session in the scene that the input describes, and ends with its exit code. -/
def main (args : List String) : IO UInt32 := do
  let text ← AuditStage.readAll (← IO.getStdin) ""
  match AuditStage.Scene.parse text with
  | .error reason =>
    (← IO.getStderr).putStrLn reason
    return 2
  | .ok scene =>
    let ending := scene.play args
    (← IO.getStdout).putStr ending.out
    (← IO.getStderr).putStr ending.err
    return ending.code.toUInt32
