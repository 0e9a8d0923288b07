import MethodSig.CommandLine.Request

/-!
# `Help` — what the program says about itself

One text for the program and one for each command. Each ends with an empty line.
-/

namespace MethodSig.CommandLine

/-- Help on the whole program. -/
def overviewLines : List String :=
  ["Method signature parser and delimiter splitter",
    "",
    "Usage: sigsplit COMMAND ...",
    "",
    "Available options:",
    "    -h, --help  Prints help information",
    "",
    "Available commands:",
    "    signature   Parse a Java-like method signature",
    "    split       Split a string on delimiter characters",
    ""]

/-- Help on the command `signature`. -/
def signatureLines : List String :=
  ["Usage: sigsplit signature [-o=FORMAT] SIGNATURE",
    "",
    "Available positional items:",
    "    SIGNATURE            Method signature, e.g. \"private void log(String value)\"",
    "",
    "Available options:",
    "    -o, --output=FORMAT  Output format: json or table",
    "    -h, --help           Prints help information",
    ""]

/-- Help on the command `split`. -/
def splitLines : List String :=
  ["Usage: sigsplit split [-o=FORMAT] [-d=DELIM]... SOURCE",
    "",
    "Available positional items:",
    "    SOURCE                 String to split",
    "",
    "Available options:",
    "    -o, --output=FORMAT    Output format: json or table",
    "    -d, --delimiter=DELIM  Delimiter string; every character in it separates tokens",
    "    -h, --help             Prints help information",
    ""]

/-- The lines of help on a topic. -/
def helpLines : Option CommandName → List String
  | none => overviewLines
  | some .signature => signatureLines
  | some .split => splitLines

/-- Complete lines, each with its line feed. -/
def unlines (lines : List String) : String := String.join (lines.map fun line => line ++ "\n")

/-- The help on a topic. -/
def helpText (topic : Option CommandName) : String := unlines (helpLines topic)

end MethodSig.CommandLine
