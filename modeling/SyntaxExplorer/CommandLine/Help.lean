namespace SyntaxExplorer.CommandLine.Help

def ofLines (lines : List String) : String :=
  String.join (lines.map (· ++ "\n"))

def version : String :=
  ofLines ["minic 0.1.0"]

def usage : List String :=
  ["Usage: minic [OPTIONS] <FILE>"]

def short : String :=
  ofLines <|
    ["Mini-C lexer, parser and syntax explorer", ""] ++ usage ++
    ["",
      "Arguments:",
      "  <FILE>  Source file to process",
      "",
      "Options:",
      "      --tokens      Print the token table",
      "      --tree        Print the syntax tree outline",
      "      --report      Print the complexity report",
      "  -v, --verbose...  Increase logging verbosity (-v: debug, -vv+: trace)",
      "  -h, --help        Print help (see more with '--help')",
      "  -V, --version     Print version"]

def long : String :=
  ofLines <|
    ["Tokenize and parse a mini-C source file.",
      "",
      "With none of the print flags the interactive explorer is opened.",
      ""] ++ usage ++
    ["",
      "Arguments:",
      "  <FILE>",
      "          Source file to process",
      "",
      "Options:",
      "      --tokens",
      "          Print the token table",
      "",
      "      --tree",
      "          Print the syntax tree outline",
      "",
      "      --report",
      "          Print the complexity report",
      "",
      "  -v, --verbose...",
      "          Increase logging verbosity (-v: debug, -vv+: trace)",
      "",
      "  -h, --help",
      "          Print help (see a summary with '-h')",
      "",
      "  -V, --version",
      "          Print version"]

end SyntaxExplorer.CommandLine.Help
