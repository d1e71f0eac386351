namespace CompletionRules.Command

def sampleLines : List String :=
  ["# Completion rules for mygit.",
    "#",
    "# Each key is a word (or several words) that must already be typed; each value",
    "# says what to offer next. Lists are fixed candidates, strings are shell commands",
    "# whose output supplies candidates, and '*' matches any word.",
    "",
    "mygit:",
    "  - --help",
    "  - --version",
    "  - status",
    "  - init",
    "  - commit",
    "",
    "mygit status:",
    "  - --help",
    "  - --verbose",
    "  - --branch",
    "  - <file>",
    "",
    "mygit init:",
    "  \"*\": [--bare, <directory>]",
    "",
    "mygit commit: git status --short | cut -c4-"]

def sampleRules : String := String.join (sampleLines.map (· ++ "\n"))

end CompletionRules.Command
