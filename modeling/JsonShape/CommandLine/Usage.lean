/-
This file holds the texts by which the command line explains itself.
-/

import JsonShape.CommandLine.Arguments

namespace JsonShape

/-- The name and version of the program. -/
def versionText : String := "json-adt 0.1.0"

/-- What the program can be asked to do. -/
def helpText : String :=
  "validate JSON documents against runtime product/sum type definitions\n\n" ++
  "Usage: json-adt [--trace] <COMMAND>\n\n" ++
  "Commands:\n" ++
  "  check   --type <NAME> --input <SOURCE>...   construct every input document as the type\n" ++
  "  match   --union <NAME> --input <SOURCE>...  report the variant each document goes to\n" ++
  "  schema  --type <NAME>                       print the schema of a type\n" ++
  "  list                                        list the registered names\n" ++
  "  help                                        print this text\n\n" ++
  "Options:\n" ++
  "  -d, --defs <FILE>...          definition files, applied in order\n" ++
  "  -i, --input <SOURCE>...       paths, patterns of file names, or - for the standard input\n" ++
  "      --ndjson                  one document for each line\n" ++
  "      --json-pointer <POINTER>  select a part of each document\n" ++
  "      --emit                    print constructed values\n" ++
  "  -o, --out <FILE>              write the schema to a file\n" ++
  "      --trace                   trace every successful construction"

/-- The answer in words. -/
def UsageAnswer.message : UsageAnswer → String
  | help => helpText
  | version => versionText
  | helpOnNothing => helpText
  | missingCommand => "error: a command is required"
  | unknownCommand => "error: unknown command"
  | unknownArgument => "error: unexpected argument"
  | tooManyValues => "error: an option without values was given one"
  | repeatedOption => "error: an option was given more than once"
  | invalidValue => "error: an option lacks its value"
  | missingOption => "error: a required option was not given"

end JsonShape
