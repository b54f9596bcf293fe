import MailDiscovery.CommandLine.Switch
import MailDiscovery.CommandLine.Word

/-!
Reading a command line from left to right. The value of an option that is a word of its own is looked at when the next
option or operand comes, so that errors are found in that order.
-/

namespace MailDiscovery.CommandLine

inductive CommandName where
  | userSettings
  | domainSettings
  | help
  deriving DecidableEq, Repr

namespace CommandName

def all : List CommandName := [.userSettings, .domainSettings, .help]

def text : CommandName → String
  | userSettings => "user-settings"
  | domainSettings => "domain-settings"
  | help => "help"

def ofText? (s : String) : Option CommandName :=
  all.find? (text · == s)

end CommandName

inductive Arity where
  | none
  | one
  | many
  deriving DecidableEq, Repr

structure Level where
  switches : List Switch
  operands : Arity
  hasCommands : Bool
  deriving DecidableEq, Repr

namespace Level

def top : Level where
  switches := [.url, .domain, .serverVersion, .auth, .username, .acceptRedirects, .noDirectory, .verbose, .help,
    .version]
  operands := .none
  hasCommands := true

def userSettings : Level where
  switches := [.userSetting, .help]
  operands := .one
  hasCommands := false

def domainSettings : Level where
  switches := [.domainSetting, .help]
  operands := .many
  hasCommands := false

def long? (level : Level) (name : String) : Option Switch :=
  level.switches.find? (·.longName == name)

def short? (level : Level) (letter : Char) : Option Switch :=
  level.switches.find? (·.letter? == some letter)

def command? (level : Level) (word : String) : Option CommandName :=
  if level.hasCommands then CommandName.ofText? word else none

end Level

structure Pending where
  switch : Switch
  read : String → Except UsageError Given
  value : Option String

structure Progress where
  given : List Given := []
  operands : List String := []
  pending : Option Pending := none

namespace Progress

def accept (p : Progress) (s : Switch) (given : Except UsageError Given) : Except UsageError Progress :=
  if !s.isRepeatable && p.given.any (·.switch == s) then .error .conflict
  else given.map fun g => { p with given := p.given ++ [g] }

def settle (p : Progress) : Except UsageError Progress :=
  match p.pending with
  | none => .ok p
  | some ⟨_, _, none⟩ => .error .valueNeeded
  | some ⟨s, read, some value⟩ => { p with pending := none }.accept s (read value)

def isWaiting (p : Progress) : Bool :=
  p.pending.any (·.value.isNone)

def use (p : Progress) (s : Switch) (value : Option String) : Except UsageError Progress :=
  match s.effect, value with
  | .value read, some value => do (← p.settle).accept s (read value)
  | .value read, none => do .ok { ← p.settle with pending := some ⟨s, read, none⟩ }
  | .flag given, none => do (← p.settle).accept s (.ok given)
  | .stop e, none => do
    let _ ← p.settle
    .error e
  | _, some _ => .error .needlessValue

def useLetters (level : Level) (p : Progress) : List Char → Except UsageError Progress
  | [] => .ok p
  | c :: cs =>
    match level.short? c with
    | none => .error .unexpectedArgument
    | some s =>
      match s.effect with
      | .value _ => p.use s (Word.attached cs)
      | _ => do useLetters level (← p.use s none) cs

def addOperand (level : Level) (p : Progress) (isLiteral : Bool) (word : String) : Except UsageError Progress :=
  match level.operands with
  | .none =>
    .error (if isLiteral && (level.command? word).isSome then .unexpectedArgument else .unknownCommand)
  | .one =>
    if p.operands.isEmpty then p.settle.map fun p => { p with operands := [word] }
    else .error .unexpectedArgument
  | .many => p.settle.map fun p => { p with operands := p.operands ++ [word] }

def addWord (level : Level) (p : Progress) (word : String) : Except UsageError Progress :=
  match Word.ofText word with
  | .long name value => (level.long? name).elim (.error .unexpectedArgument) (p.use · value)
  | .short letters => useLetters level p letters
  | _ =>
    match p.pending with
    | some ⟨s, read, none⟩ => .ok { p with pending := some ⟨s, read, some word⟩ }
    | _ => addOperand level p false word

def read (level : Level) (p : Progress) : List String →
    Except UsageError (Progress × Option (CommandName × List String))
  | [] => .ok (p, none)
  | word :: words =>
    match p.isWaiting, level.command? word with
    | false, some command => .ok (p, some (command, words))
    | _, _ =>
      if Word.ofText word = .divider then do
        .ok (← words.foldlM (addOperand level · true ·) p, none)
      else do read level (← addWord level p word) words

def readAll (level : Level) (words : List String) : Except UsageError Progress := do
  (← read level {} words).1.settle

end Progress

end MailDiscovery.CommandLine
