import MailDiscovery.CommandLine.Invocation

/-!
The command line program. It reaches no network: services, directories and records never answer.
-/

namespace MailDiscovery.CommandLine

def offline (acceptRedirects : Bool) : Environment where
  transport := fun _ request => .error (.timedOut request.timeout)
  directory := fun _ => []
  serviceHost := fun _ => none
  approves := fun _ => acceptRedirects

def refuse (message : String) (code : UInt32) : IO UInt32 := do
  (← IO.getStderr).putStrLn message
  return code

def invoke (i : Invocation) (secret : Option String) : IO UInt32 := do
  match i.service secret with
  | .error e => refuse ("Error: " ++ e.message) 1
  | .ok service =>
    match (((i.command.run service).run (offline i.acceptRedirects)).run []).1 with
    | .error e => refuse ("Error: " ++ e.message) 1
    | .ok text =>
      (← IO.getStdout).putStr text
      return 0

end MailDiscovery.CommandLine

open MailDiscovery CommandLine in
def main (words : List String) : IO UInt32 := do
  match Invocation.ofWords words with
  | .error .helpWanted => IO.println UsageError.helpWanted.message; return 0
  | .error .versionWanted => IO.println UsageError.versionWanted.message; return 0
  | .error e => refuse e.message 2
  | .ok i => invoke i (← IO.getEnv "MAIL_DISCOVERY_SECRET")
