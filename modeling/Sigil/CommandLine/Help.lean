namespace Sigil.CommandLine

def usage : String := "usage: punctum symbol [--input TEXT] [options] [-h]\n"

def helpLines : List String :=
  [ "",
    "Punctum - CLI for inspecting custom multi-character punctuation declarations",
    "",
    "positional arguments:",
    "  symbol                Punctuation symbol to declare (e.g `<=>`)",
    "",
    "options:",
    "  -h, --help            show this help message and exit",
    "  --version             Show version info",
    "  --name NAME, -n NAME  Name of an generated token type (default:",
    "                        CustomPunctuation)",
    "  --input INPUT_TEXT, -i INPUT_TEXT",
    "                        If passed, text to peek and parse declared punctuation",
    "                        from (at the beginning)",
    "",
    "Features:",
    "  Capabilities of generated token type",
    "",
    "  --no-parsing          Generate type without peeking and parsing",
    "  --no-printing         Generate type without printing",
    "  --no-clone            Generate type without cloning",
    "  --no-extra-traits     Generate type without equality, hashing and repr",
    "",
    "Logging:",
    "  --verbose, -v         If passed will enable INFO level logs",
    "",
    "Toolchain debug:",
    "  --lexer-debug-emit-lexemes",
    "                        If passed will print every token of an input text",
    "  --cli-unfriendly-errors",
    "                        If passed will propagate errors with traceback instead",
    "                        of user-friendly messages" ]

def help : String := usage ++ String.join (helpLines.map (· ++ "\n"))

end Sigil.CommandLine
