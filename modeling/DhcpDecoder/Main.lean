import DhcpDecoder.Cli.Run

/-!
The `dhcpoptctl` program: runs the tool's session against the real file system, standard input
and environment, then prints its output and exits with its code.
-/

open DhcpDecoder

def fileFault : IO.Error → FileFault
  | .noFileOrDirectory .. => .notFound
  | .permissionDenied .. => .denied
  | .inappropriateType .. => .isDirectory
  | _ => .notFound

partial def readStream (s : IO.FS.Stream) (acc : ByteArray) : IO ByteArray := do
  let chunk ← s.read 65536
  if chunk.isEmpty then pure acc else readStream s (acc ++ chunk)

partial def perform {α : Type} : Session α → IO α
  | .done a => pure a
  | .read p k => do
    let r ← try pure (Except.ok (← IO.FS.readBinFile p).toList)
      catch e => pure (Except.error (fileFault e))
    perform (k r)
  | .stat p k => do
    let found ← try
        let _ ← IO.FS.Handle.mk p .read
        pure true
      catch e => pure (fileFault e != .notFound)
    perform (k found)
  | .write p bs k => do
    let r ← try
        IO.FS.writeBinFile p (ByteArray.mk bs.toArray)
        pure none
      catch e => pure (some (fileFault e))
    perform (k r)
  | .input k => do
    let bytes ← readStream (← IO.getStdin) ByteArray.empty
    perform (k bytes.toList)

def toolEnv : IO (List (String × String)) := do
  let names := ["DHCPOPT_LOG_LEVEL", "DHCPOPT_LOG_TIMESTAMP", "DHCPOPT_LOG_NOCOLOR",
    "DHCPOPT_LOG_BYPASS"]
  names.filterMapM fun n => do
    pure ((← IO.getEnv n).map (n, ·))

def main (args : List String) : IO UInt32 := do
  let outcome ← perform (runTool args (← toolEnv))
  let stdout ← IO.getStdout
  let stderr ← IO.getStderr
  stdout.putStr outcome.stdout
  stdout.flush
  stderr.putStr outcome.stderr
  if outcome.serving then
    stderr.putStrLn "dhcpoptctl: serving sockets is not supported by this program"
    return 1
  return outcome.exitCode.toUInt32
