/-! # The command line

  The program takes at most one argument: an option, or an expression to evaluate. Without an
  argument it reads expressions from its input.
-/

namespace Abacus.Shell

/-- The name of the program. -/
def program : String := "decicalc"

/-- The version of the program. -/
def version : String := "0.3"

/-- What the program is asked to do. -/
inductive Command where
  /-- Print the usage. -/
  | help
  /-- Print the version, for a reader. -/
  | version
  /-- Print the version, for another program. -/
  | machineVersion
  /-- Evaluate one expression. -/
  | evaluate (expression : String)
  /-- Evaluate the lines of the input. -/
  | interactive
deriving DecidableEq, Repr

/-- The command that a single argument gives. -/
def Command.ofArgument : String → Command
  | "-h" | "--help" => .help
  | "-v" | "--version" => .version
  | "__VERSION__" => .machineVersion
  | expression => .evaluate expression

/-- The complaint about a second argument. -/
def unexpectedArgument (extra : String) : String :=
  "unexpected argument '" ++ extra ++ "', quote the expression to pass it as one argument"

/-- The command that the arguments give, or a complaint about them. -/
def Command.ofArguments : List String → Except String Command
  | [] => .ok .interactive
  | [argument] => .ok (.ofArgument argument)
  | _ :: extra :: _ => .error (unexpectedArgument extra)

/-- How to use the program. -/
def usage : String :=
  "\n".intercalate [
    program ++ " [expression]",
    program ++ " \x7b-v|-h|__VERSION__\x7d",
    "  -v, --version    print program version and exit",
    "      __VERSION__  output version in specific format",
    "  -h, --help       print this help page and exit"]

end Abacus.Shell
