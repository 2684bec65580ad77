import SyncLayer.Decimal.Numeral

/-!
# Arguments of the contention driver

The driver computes Fibonacci numbers on several workers, or one after another on request. Its
arguments are read from the left, and the first that asks for help or is wrong decides.
-/

namespace SyncLayer.Fib

/-- What the driver is asked to do. -/
structure Options where
  workers : UInt64 := 7
  depth : UInt32 := 30
  serial : Bool := false
deriving DecidableEq, Repr

/-- Why the driver does nothing. -/
inductive Decline where
  | help
  | depthWanted
  | notWorkers (argument : String)
  | unknownOption (argument : String)
deriving DecidableEq, Repr

/-- How a program of a given name is used. -/
def usage (program : String) : String :=
  "fib_contention - refcount and lock contention driver\n\nUSAGE:\n    " ++ program
    ++ " [OPTIONS] [WORKERS]\n\nOPTIONS:\n"
    ++ "    -h, --help      Print help information\n"
    ++ "    --serial        Run WORKERS fib computations one after another\n"
    ++ "    --depth N       fib argument (default 30)\n\n"
    ++ "EXAMPLES:\n    " ++ program ++ " 7\n    " ++ program ++ " --serial 7"

/-- The text of a decline, for a program of a given name. -/
def Decline.message (program : String) : Decline → String
  | help => usage program
  | depthWanted => "--depth needs a number\n\n" ++ usage program
  | notWorkers argument => "Invalid worker count: " ++ argument ++ "\n\n" ++ usage program
  | unknownOption argument => "Unknown option: " ++ argument ++ "\n\n" ++ usage program

/-- Whether an argument is an option rather than a number of workers. -/
def isOption (argument : String) : Bool :=
  ['-', '-'].isPrefixOf argument.toList

/-- The options that arguments make of earlier ones. -/
def Options.read (options : Options) : List String → Except Decline Options
  | [] => .ok options
  | "--help" :: _ => .error .help
  | "-h" :: _ => .error .help
  | "--serial" :: rest => read { options with serial := true } rest
  | ["--depth"] => .error .depthWanted
  | "--depth" :: n :: rest =>
    match Decimal.readUInt32? n.toList with
    | some depth => read { options with depth } rest
    | none => .error .depthWanted
  | argument :: rest =>
    if isOption argument then .error (.unknownOption argument)
    else
      match Decimal.readUInt64? argument.toList with
      | some workers => read { options with workers } rest
      | none => .error (.notWorkers argument)

/-- The options that arguments give. -/
def Options.ofArguments (arguments : List String) : Except Decline Options :=
  ({} : Options).read arguments

end SyncLayer.Fib
