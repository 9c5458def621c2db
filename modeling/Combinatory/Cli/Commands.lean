import Combinatory.Cli.Flags

/-!
# The command tree

The root command `skc` and its subcommands, each with a usage line, descriptions, flags and a
rule on its positional arguments. A command line is resolved by walking down the tree.
-/

namespace Combinatory

/-- A command of the command line. -/
inductive Command where
  | root
  | compile
  | check
  | tokenize
  | inspect
  | version
  | help
  | completion
  | bash
  | fish
  | powershell
  | zsh
  deriving DecidableEq, Repr, Inhabited

/-- What a command accepts as positional arguments. -/
inductive ArgRule where
  | any
  | none
  | exactly (n : Nat)
  | atLeast (n : Nat)
  deriving DecidableEq, Repr

namespace Command

/-- The name of the program. -/
def program : String := "skc"

/-- The version of the program. -/
def release : String := "0.1.0-dev"

/-- The usage of a command; its first word is the command's name. -/
def use : Command → String
  | .root => "skc [flags] file.ld"
  | .compile => "compile [flags] file.ld"
  | .check => "check [flags] file.ld..."
  | .tokenize => "tokenize [flags] file.ld"
  | .inspect => "inspect file.skb"
  | .version => "version"
  | .help => "help [command]"
  | .completion => "completion"
  | .bash => "bash"
  | .fish => "fish"
  | .powershell => "powershell"
  | .zsh => "zsh"

/-- The name of a command. -/
def name (c : Command) : String := (c.use.splitOn " ").headD ""

/-- The parent of a command. -/
def parent : Command → Option Command
  | .root => none
  | .bash | .fish | .powershell | .zsh => some .completion
  | _ => some .root

/-- The subcommands, sorted by name. -/
def children : Command → List Command
  | .root => [.check, .compile, .completion, .help, .inspect, .tokenize, .version]
  | .completion => [.bash, .fish, .powershell, .zsh]
  | _ => []

/-- The words that name a command from the root. -/
def path (c : Command) : String :=
  match c.parent with
  | none => c.name
  | some .root => program ++ " " ++ c.name
  | some p => program ++ " " ++ p.name ++ " " ++ c.name

/-- The one-line description. -/
def short : Command → String
  | .root => "Lambda calculus to SK combinator compiler"
  | .compile => "Compile a source file to SK combinators"
  | .check => "Scope check one or more source files"
  | .tokenize => "Print the tokens of a source file"
  | .inspect => "Print the forest stored in a compiled artifact"
  | .version => "Show version information"
  | .help => "Help about any command"
  | .completion => "Generate the autocompletion script for the specified shell"
  | .bash => "Generate the autocompletion script for bash"
  | .fish => "Generate the autocompletion script for fish"
  | .powershell => "Generate the autocompletion script for powershell"
  | .zsh => "Generate the autocompletion script for zsh"

/-- The long description, empty when there is none. -/
def long : Command → String
  | .root => "skc checks a lambda calculus source file, curries its abstractions and\n" ++
      "translates every statement into a tree of S and K combinators."
  | .compile => "Compile checks the file, curries every abstraction, prints the syntax tree\n" ++
      "and the combinator forest, and optionally writes a binary artifact."
  | .check => "Check parses and scope checks every file in parallel, one arena per file,\n" ++
      "and reports the diagnostics in argument order."
  | .help => "Help provides help for any command in the application.\n" ++
      "Simply type skc help [path to command] for full details."
  | .completion => "Generate the autocompletion script for skc for the specified shell.\n" ++
      "See each sub-command's help for details on how to use the generated script.\n"
  | .bash => "Generate the autocompletion script for the bash shell.\n\n" ++
      "This script depends on the 'bash-completion' package.\n" ++
      "If it is not installed already, you can install it via your OS's package manager.\n\n" ++
      "To load completions in your current shell session:\n\n" ++
      "\tsource <(skc completion bash)\n\n" ++
      "To load completions for every new session, execute once:\n\n" ++
      "#### Linux:\n\n\tskc completion bash > /etc/bash_completion.d/skc\n\n" ++
      "#### macOS:\n\n\tskc completion bash > $(brew --prefix)/etc/bash_completion.d/skc\n\n" ++
      "You will need to start a new shell for this setup to take effect.\n"
  | .fish => "Generate the autocompletion script for the fish shell.\n\n" ++
      "To load completions in your current shell session:\n\n" ++
      "\tskc completion fish | source\n\n" ++
      "To load completions for every new session, execute once:\n\n" ++
      "\tskc completion fish > ~/.config/fish/completions/skc.fish\n\n" ++
      "You will need to start a new shell for this setup to take effect.\n"
  | .powershell => "Generate the autocompletion script for powershell.\n\n" ++
      "To load completions in your current shell session:\n\n" ++
      "\tskc completion powershell | Out-String | Invoke-Expression\n\n" ++
      "To load completions for every new session, add the output of the above command\n" ++
      "to your powershell profile.\n"
  | .zsh => "Generate the autocompletion script for the zsh shell.\n\n" ++
      "If shell completion is not already enabled in your environment you will need\n" ++
      "to enable it.  You can execute the following once:\n\n" ++
      "\techo \"autoload -U compinit; compinit\" >> ~/.zshrc\n\n" ++
      "To load completions in your current shell session:\n\n" ++
      "\tsource <(skc completion zsh)\n\n" ++
      "To load completions for every new session, execute once:\n\n" ++
      "#### Linux:\n\n\tskc completion zsh > \"$\x7bfpath[1]\x7d/_skc\"\n\n" ++
      "#### macOS:\n\n\tskc completion zsh > $(brew --prefix)/share/zsh/site-functions/_skc\n\n" ++
      "You will need to start a new shell for this setup to take effect.\n"
  | _ => ""

/-- Whether a command does something of its own; the others show their help. -/
def runnable : Command → Bool
  | .completion => false
  | _ => true

/-- What a command accepts as positional arguments. -/
def args : Command → ArgRule
  | .compile | .tokenize | .inspect => .exactly 1
  | .check => .atLeast 1
  | .version | .completion | .bash | .fish | .powershell | .zsh => .none
  | .root | .help => .any

/-- Whether the usage line gets `[flags]` appended. -/
def flagsInUseLine : Command → Bool
  | .bash | .fish | .powershell | .zsh => false
  | _ => true

/-- The flags the root passes down to every command. -/
def persistent : Command → List FlagSpec
  | .root =>
    [⟨"color", none, .text, "", "colorize output (auto|on|off), default from skc.toml"⟩,
     ⟨"quiet", none, .bool, "false", "suppress non-essential output"⟩,
     ⟨"timings", none, .bool, "false", "show timing information"⟩,
     ⟨"max-diagnostics", none, .int, "0",
       "maximum number of diagnostics to show, default from skc.toml"⟩,
     ⟨"log-level", none, .text, "warn", "log level (debug|info|warn|error)"⟩,
     ⟨"config", none, .text, "", "path to skc.toml, default is the nearest one above the source"⟩,
     ⟨"cpuprofile", none, .text, "", "write a CPU profile to this file"⟩,
     ⟨"memprofile", none, .text, "", "write a heap profile to this file on exit"⟩,
     ⟨"trace", none, .text, "", "write a runtime trace to this file"⟩]
  | _ => []

/-- The flags of a command alone, besides help and version. -/
def ownFlags : Command → List FlagSpec
  | .compile =>
    [⟨"emit", some 'o', .text, "", "write the compiled forest to this .skb file"⟩,
     ⟨"compress", none, .text, "none", "artifact compression (none|lz4|zstd)"⟩,
     ⟨"stats", none, .bool, "false", "print the arena occupancy panel"⟩,
     ⟨"tree", none, .bool, "false", "print the forest as trees instead of inline terms"⟩,
     ⟨"no-ast", none, .bool, "false", "do not print the curried syntax tree"⟩]
  | .check =>
    [⟨"jobs", some 'j', .int, "0", "number of files checked at once (0 = GOMAXPROCS)"⟩,
     ⟨"convert", none, .bool, "false", "also run the combinator conversion"⟩,
     ⟨"short", none, .bool, "false",
       "print diagnostics one per line as \"severity CODE path:line:col message\""⟩]
  | .tokenize | .version => [⟨"format", none, .text, "pretty", "output format (pretty|json)"⟩]
  | .inspect => [⟨"nodes", none, .bool, "false", "also dump the flattened node table"⟩]
  | .bash | .fish | .powershell | .zsh =>
    [⟨"no-descriptions", none, .bool, "false", "disable completion descriptions"⟩]
  | _ => []

/-- The flags shown under the command's own heading: its flags, the flags it passes down,
help, and for the root version. -/
def localFlags (c : Command) : List FlagSpec :=
  c.ownFlags ++ c.persistent ++ [⟨"help", some 'h', .bool, "false", "help for " ++ c.name⟩] ++
    (if c = .root then [⟨"version", some 'v', .bool, "false", "version for skc"⟩] else [])

/-- The flags a command inherits from the commands above it. -/
def inherited (c : Command) : List FlagSpec :=
  match c.parent with
  | none => []
  | some p => p.persistent ++ (p.parent.map persistent).getD []

/-- Every flag a command reads. -/
def flags (c : Command) : List FlagSpec := c.localFlags ++ c.inherited

/-- Whether a command is listed among its parent's subcommands: it runs, or has a
subcommand that runs; the help command is listed apart. -/
def available (c : Command) : Bool :=
  c ≠ .help && (c.runnable || c.children.any (·.runnable))

/-- The command an argument list names, with the arguments left for it. -/
def find (args : List String) : Command × List String :=
  go 3 .root args
where
  /-- Walks down from `c`, at most `depth` levels. -/
  go : Nat → Command → List String → Command × List String
    | 0, c, args => (c, args)
    | depth + 1, c, args =>
      match Flags.stripFlags c.flags args with
      | [] => (c, args)
      | next :: _ =>
        match c.children.find? (·.name = next) with
        | some child => go depth child (Flags.withoutFirst c.flags args next)
        | none => (c, args)

/-- Checks the positional arguments against the command's rule. -/
def checkArgs (c : Command) (args : List String) : Except String Unit :=
  match c.args with
  | .any => .ok ()
  | .none =>
    match args with
    | [] => .ok ()
    | a :: _ => .error ("unknown command " ++ Quoted.quote a.toUTF8.toList ++ " for " ++
        Quoted.quote c.path.toUTF8.toList)
  | .exactly n =>
    if args.length = n then .ok ()
    else .error ("accepts " ++ toString n ++ " arg(s), received " ++ toString args.length)
  | .atLeast n =>
    if args.length ≥ n then .ok ()
    else .error ("requires at least " ++ toString n ++ " arg(s), only received " ++
      toString args.length)

end Command

namespace Usage

/-- `s` padded with blanks on the right to `n` characters. -/
def padRight (s : String) (n : Nat) : String :=
  s ++ String.ofList (List.replicate (n - s.length) ' ')

/-- `s` without trailing white space. -/
def trimRight (s : String) : String :=
  String.ofList (s.toList.reverse.dropWhile Char.isWhitespace).reverse

/-- The left column of a flag's line: its names and the type of its value. -/
def flagNames (f : FlagSpec) : String :=
  let names := match f.short with
    | some c => "  -" ++ String.singleton c ++ ", --" ++ f.name
    | none => "      --" ++ f.name
  match f.kind with
  | .bool => names
  | .int => names ++ " int"
  | .text => names ++ " string"

/-- The right column of a flag's line: its usage and its default when that is not the zero
value. -/
def flagUsage (f : FlagSpec) : String :=
  let zero : Bool := match f.kind with
    | .bool => f.default == "false"
    | .int => f.default == "0"
    | .text => f.default.isEmpty
  if zero then f.usage
  else match f.kind with
    | .text => f.usage ++ " (default " ++ Quoted.quote f.default.toUTF8.toList ++ ")"
    | _ => f.usage ++ " (default " ++ f.default ++ ")"

/-- The lines of a set of flags, sorted by name, the usages aligned two blanks after the
longest left column. -/
def flagLines (fs : List FlagSpec) : String :=
  let sorted := fs.mergeSort fun a b => decide (a.name ≤ b.name)
  let width := (sorted.map fun f => (flagNames f).utf8ByteSize).foldl max 0 + 1
  String.join (sorted.map fun f =>
    let left := flagNames f
    left ++ " " ++ String.ofList (List.replicate (width - left.utf8ByteSize) ' ') ++ " " ++
      flagUsage f ++ "\n")

/-- The usage line of a command. -/
def useLine (c : Command) : String :=
  let line := match c.parent with
    | none => c.use
    | some p => p.path ++ " " ++ c.use
  if c.flagsInUseLine && (line.splitOn "[flags]").length = 1 then line ++ " [flags]" else line

/-- The usage text of a command. -/
def usage (c : Command) : String :=
  let subs := c.children
  let hasSubs := subs.any (·.available)
  let listed := subs.filter fun s => s.available || s = .help
  let inh := c.inherited
  "Usage:" ++
    (if c.runnable then "\n  " ++ useLine c else "") ++
    (if hasSubs then "\n  " ++ c.path ++ " [command]" else "") ++
    (if hasSubs then
      "\n\nAvailable Commands:" ++
        String.join (listed.map fun s => "\n  " ++ padRight s.name 11 ++ " " ++ s.short)
     else "") ++
    "\n\nFlags:\n" ++ trimRight (flagLines c.localFlags) ++
    (if inh.isEmpty then "" else "\n\nGlobal Flags:\n" ++ trimRight (flagLines inh)) ++
    (if hasSubs then
      "\n\nUse \"" ++ c.path ++ " [command] --help\" for more information about a command."
     else "") ++
    "\n"

/-- The help text of a command. -/
def help (c : Command) : String :=
  let about := trimRight (if c.long.isEmpty then c.short else c.long)
  (if about.isEmpty then "" else about ++ "\n\n") ++
    (if c.runnable || !c.children.isEmpty then usage c else "")

end Usage

end Combinatory
