namespace CompletionRules

inductive ExitStatus where
  | exited (code : Nat)
  | killed (signal : Nat)
  deriving Repr, DecidableEq

namespace ExitStatus

def success : ExitStatus := .exited 0

def succeeded (status : ExitStatus) : Bool := status = success

def number : ExitStatus → Nat
  | .exited code => code
  | .killed signal => 128 + signal

def signalNames : List String :=
  ["SIGHUP", "SIGINT", "SIGQUIT", "SIGILL", "SIGTRAP", "SIGABRT", "SIGBUS", "SIGFPE", "SIGKILL",
    "SIGUSR1", "SIGSEGV", "SIGUSR2", "SIGPIPE", "SIGALRM", "SIGTERM", "SIGSTKFLT", "SIGCHLD",
    "SIGCONT", "SIGSTOP", "SIGTSTP", "SIGTTIN", "SIGTTOU", "SIGURG", "SIGXCPU", "SIGXFSZ",
    "SIGVTALRM", "SIGPROF", "SIGWINCH", "SIGIO", "SIGPWR", "SIGSYS"]

def text : ExitStatus → String
  | .exited code => "exit status: " ++ toString code
  | .killed signal =>
    "signal: " ++ toString signal ++
      (match signalNames[signal - 1]? with
        | some name => " (" ++ name ++ ")"
        | none => "")

end ExitStatus

end CompletionRules
