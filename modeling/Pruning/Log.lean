/-!
Records of the diagnostic log. A record has a severity, the channel of the part of the program that
made it, and a text.
-/

namespace Pruning

/-- How serious a record is. -/
inductive Severity where
  | debug
  | info
  | warning
  | error
  | critical
  deriving DecidableEq, Repr

namespace Severity

/-- The rank by which severities are compared. -/
def rank : Severity → Nat
  | .debug => 10
  | .info => 20
  | .warning => 30
  | .error => 40
  | .critical => 50

/-- The name a record shows. -/
def name : Severity → String
  | .debug => "DEBUG"
  | .info => "INFO"
  | .warning => "WARNING"
  | .error => "ERROR"
  | .critical => "CRITICAL"

end Severity

/-- The part of the program that a record comes from. -/
inductive Channel where
  | manifest
  | registry
  | analyzer
  | minimizer
  | filters
  | oracle
  | removal
  | filesystem
  | config
  | cli
  | inputs
  | analyze
  | prune
  deriving DecidableEq, Repr

/-- The channel of the whole program. All others are below it. -/
def rootChannel : String := "depprune"

/-- The dotted name of a channel. -/
def Channel.name (channel : Channel) : String :=
  rootChannel ++ "." ++
    match channel with
    | .manifest => "manifest"
    | .registry => "registry"
    | .analyzer => "analyzer"
    | .minimizer => "minimizer"
    | .filters => "filters"
    | .oracle => "oracle"
    | .removal => "removal"
    | .filesystem => "filesystem"
    | .config => "config"
    | .cli => "cli"
    | .inputs => "commands.common"
    | .analyze => "commands.analyze"
    | .prune => "commands.prune"

/-- One record of the log. -/
structure Record where
  severity : Severity
  channel : Channel
  text : String
  deriving DecidableEq, Repr

end Pruning
