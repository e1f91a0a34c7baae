import QueryLayout.Arguments

namespace QueryLayout

def usageText : String :=
  "usage: sqlpretty [-h] [-o OUTPUT] [-l DIALECT]\n" ++
  "                 [--indent STR | --spaces N | --tabs] [-p NAME=VALUE]\n" ++
  "                 [-a VALUE] [--config FILE] [--debug] [-v | -q]\n" ++
  "                 [input]\n"

def helpText : String :=
  usageText ++
  "\nReformat SQL into consistently indented text\n" ++
  "\npositional arguments:\n" ++
  "  input                 Input .sql file (default: stdin)\n" ++
  "\noptions:\n" ++
  "  -h, --help            show this help message and exit\n" ++
  "  -o OUTPUT, --output OUTPUT\n" ++
  "                        Output file (default: stdout)\n" ++
  "  -l DIALECT, --language DIALECT\n" ++
  "                        SQL dialect: sql, db2, n1ql, pl/sql (default: sql)\n" ++
  "  --indent STR          Indent unit (default: two spaces)\n" ++
  "  --spaces N            Indent with N spaces\n" ++
  "  --tabs                Indent with tabs\n" ++
  "  -p NAME=VALUE, --param NAME=VALUE\n" ++
  "                        Named placeholder value (repeatable)\n" ++
  "  -a VALUE, --arg VALUE\n" ++
  "                        Positional placeholder value, used in order\n" ++
  "                        (repeatable)\n" ++
  "  --config FILE         Config file (default: auto-discover sqlpretty.toml)\n" ++
  "  --debug               Dump tokens to stderr\n" ++
  "  -v, --verbose         Debug logging\n" ++
  "  -q, --quiet           Errors only\n"

def usageReport (error : UsageError) : String :=
  usageText ++ "sqlpretty: error: " ++ error.message ++ "\n"

end QueryLayout
