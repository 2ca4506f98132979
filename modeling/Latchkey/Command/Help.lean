import Latchkey.Command.Args
/-!
# Help

What is shown to those who ask for help or for the version, and to those who ask for nothing that
there is.
-/

namespace Latchkey

namespace Topic

def lines : Topic → List String
  | program => [
    "API key issuance, verification and rate limiting with pluggable storage and policy hooks",
    "",
    "Usage: keyward <COMMAND>",
    "",
    "Commands:",
    "  generate  Generate plaintext keys and print them with their digests",
    "  hash      Print the stored digest of a key",
    "  sweep     Remove one batch of expired keys",
    "  help      Print this message or the help of the given subcommand(s)",
    "",
    "Options:",
    "  -h, --help     Print help",
    "  -V, --version  Print version"]
  | generate => [
    "Generate plaintext keys and print them with their digests",
    "",
    "Usage: keyward generate [OPTIONS]",
    "",
    "Options:",
    "      --kind <KIND>      Key kind: uuid, url_safe, hex or base32 (overrides config)",
    "      --length <LENGTH>  Body length in characters (overrides config)",
    "      --prefix <PREFIX>  Key prefix (overrides config)",
    "      --count <COUNT>    Number of keys to generate [default: 1]",
    "  -h, --help             Print help"]
  | hash => [
    "Print the stored digest of a key",
    "",
    "Usage: keyward hash [OPTIONS] <KEY>",
    "",
    "Arguments:",
    "  <KEY>  Plaintext key",
    "",
    "Options:",
    "      --secret <SECRET>  HMAC secret (defaults to keys.hash_secret)",
    "  -h, --help             Print help"]
  | sweep => [
    "Remove one batch of expired keys",
    "",
    "Usage: keyward sweep [OPTIONS]",
    "",
    "Options:",
    "      --batch-size <BATCH_SIZE>",
    "          Records handled in this run (1-1000) [default: 100]",
    "      --older-than-secs <OLDER_THAN_SECS>",
    "          Only remove keys that expired at least this many seconds ago",
    "  -h, --help",
    "          Print help"]
  | help => [
    "Print this message or the help of the given subcommand(s)",
    "",
    "Usage: keyward help [COMMAND]...",
    "",
    "Arguments:",
    "  [COMMAND]...  Print help for the subcommand(s)"]

def text (topic : Topic) : String := String.join (topic.lines.map fun line => line ++ "\n")

end Topic

def versionText : String := "keyward 0.1.0\n"

namespace Usage

/-- What is wrong with a command line, in short; nothing where help is the better answer. -/
def reason? : Usage → Option String
  | help _ | version | noCommand => none
  | unknownCommand => some "unrecognized subcommand"
  | unknownArgument => some "unexpected argument found"
  | noValue => some "a value is required for an option but none was supplied"
  | badValue => some "invalid value for an option"
  | repeated => some "an option cannot be used multiple times"
  | missingWord => some "a required argument was not provided"
  | surplusValue => some "unexpected value for an option that takes none"

/-- What is shown where there is nothing to run: the reason, or help. -/
def notice (u : Usage) : String :=
  match u.reason? with
  | some reason => "error: " ++ reason ++ "\n\nFor more information, try '--help'.\n"
  | none => Topic.program.text

end Usage

end Latchkey
