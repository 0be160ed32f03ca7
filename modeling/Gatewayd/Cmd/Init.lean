import Gatewayd.Network.Utils

/-!
# Gatewayd.Cmd.Init

`gatewayd config init`: write the default global configuration, as YAML, to the file named by
`--config`. Its collaborators are inputs: what `Marshal` produces, what `os.Stat` reports about the
file, and whether `os.WriteFile` fails. `logger.Fatal` prints its argument and exits, so a fatal
line ends the command.

`init` refuses to touch a file that `os.Stat` finds unless `--force` is given. The message it prints
afterwards tests `exists && force`; since `exists` is only ever set when `--force` is given, the
test is `exists` alone: the message says "overwritten" exactly when the file was there.
-/

namespace Gatewayd
namespace Cmd

open Network

/-- What `init`'s collaborators report: the YAML `conf.GlobalKoanf.Marshal(yaml.Parser())` makes
of the defaults, or its error; the error of `os.Stat(globalConfigFile)`, nil when the file is
there; and that of `os.WriteFile(globalConfigFile, globalCfg, filePermissions)`. -/
structure InitReplies where
  marshal : Except PlainError Bytes
  stat : Option PlainError
  writeFile : Option PlainError

/-- How `init` ends: `logger.Fatal` printed `text` and the process exited, or the file now holds
`contents` and `logger.Printf` printed `line`. -/
inductive InitOutcome where
  | fatal (text : String)
  | written (contents : Bytes) (line : String)
  deriving DecidableEq, Repr

/-- `logger.Printf("Config file '%s' was %s successfully.", globalConfigFile, verb)`. -/
def initMessage (globalConfigFile verb : String) : String :=
  "Config file \x27" ++ globalConfigFile ++ "\x27 was " ++ verb ++ " successfully."

/-- `initCmd.Run`, with `--config` as `globalConfigFile` and `--force` as `force`. -/
def initCmd (globalConfigFile : String) (force : Bool) (r : InitReplies) : InitOutcome :=
  match r.marshal with
  | .error err => .fatal err.error
  | .ok globalCfg =>
    if r.stat.isNone && !force then
      .fatal "Config file already exists. Use --force to overwrite."
    else
      let «exists» := r.stat.isNone
      match r.writeFile with
      | some err => .fatal err.error
      | none =>
        let verb := if «exists» && force then "overwritten" else "created"
        .written globalCfg (initMessage globalConfigFile verb)

end Cmd
end Gatewayd
