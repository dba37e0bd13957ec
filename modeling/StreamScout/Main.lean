import StreamScout.Startup.Report

namespace StreamScout.Command

def readFile? (path : String) : IO (Option (List UInt8)) :=
  try
    let bytes ← IO.FS.readBinFile path
    pure (some bytes.toList)
  catch _ => pure none

partial def waitForEnd (input : IO.FS.Stream) : IO Unit := do
  if (← input.getLine).isEmpty then pure () else waitForEnd input

def run (path : String) : IO UInt32 := do
  let file ← readFile? path
  let report := Startup.Report.of (← IO.getEnv "RUST_LOG") path file
  let (early, late) := report.log.splitAt 3
  for line in early do
    IO.println line
  if report.interrupted then
    waitForEnd (← IO.getStdin)
  for line in late do
    IO.println line
  for line in report.errors do
    IO.eprintln (String.ofList line)
  pure (UInt32.ofNat report.exit)

end StreamScout.Command

def main (args : List String) : IO UInt32 :=
  StreamScout.Command.run (args.headD StreamScout.Startup.defaultPath)
