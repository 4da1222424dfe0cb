/-!
What the command says of itself: its version, and its help in a short and in a detailed form. The
short form has a line for each argument, with all explanations in one column; the detailed form has
each explanation on lines of its own.
-/

namespace AutoProxy.CommandLine.Help

def commandName : String := "pacresolver"

def version : String := commandName ++ " 1.0.0\n"

structure Entry where
  letter : Option Char := none
  /-- The long form, with the name of its value if it has one. -/
  form : String
  text : String
  default : Option String := none

/-- The options, in the order in which they are explained; `detailed` is the form of the help. -/
def options (detailed : Bool) : List Entry :=
  [{ letter := some 'c', form := "--config <CONFIG>", text := "Path to configuration file",
      default := some "pacresolver.toml" },
    { letter := some 's', form := "--script <SCRIPT>",
      text := "PAC script path, file:// or http(s):// URL" },
    { form := "--local-ip <LOCAL_IP>", text := "Address reported by myIpAddress()" },
    { form := "--timeout <TIMEOUT>", text := "Evaluation timeout in seconds" },
    { form := "--now <NOW>", text := "Fixed evaluation time, e.g. 2026-10-19T09:30:00+02:00" },
    { form := "--log-level <LOG_LEVEL>", text := "Log level" },
    { letter := some 'v', form := "--verbose", text := "Enable verbose logging" },
    { form := "--json", text := "Print one JSON object per URL" },
    { form := "--metrics", text := "Print resolver metrics before exiting" },
    { form := "--stdin", text := "Read URLs from standard input" },
    { form := "--validate-config", text := "Validate configuration and exit" },
    { letter := some 'h', form := "--help",
      text := if detailed then "Print help (see a summary with '-h')"
        else "Print help (see more with '--help')" },
    { letter := some 'V', form := "--version", text := "Print version" }]

def urlsForm : String := "[URLS]..."

def urlsText : String := "URLs to resolve"

def summary : String := "Resolve proxies for URLs with a PAC script\n"

def description : String :=
  "pacresolver - PAC (proxy auto-config) resolver

Runs a PAC script's FindProxyForURL(url, host) for each URL and prints the
proxy candidates it returns, one URL per line.

Configuration priority (highest to lowest):
1. Command-line arguments
2. Configuration file
3. Environment variables
4. Built-in defaults

Environment variables:
  PACRESOLVER_SCRIPT             - Script path, file:// or http(s):// URL
  PACRESOLVER_LOCAL_IP           - Address reported by myIpAddress()
  PACRESOLVER_EVALUATION_TIMEOUT - Evaluation timeout (e.g., 10s, 500ms)
  PACRESOLVER_LOG_LEVEL          - Log level (trace, debug, info, warn, error)

"

def blanks (count : Nat) : String := String.ofList (List.replicate count ' ')

/-- The forms of an option, the letter in a column of its own. -/
def Entry.forms (e : Entry) : String :=
  (match e.letter with
    | some c => "  -" ++ String.singleton c ++ ", "
    | none => "      ") ++ e.form

def Entry.defaultText (e : Entry) : String :=
  match e.default with
  | some value => "[default: " ++ value ++ "]"
  | none => ""

/-- The line of an option, the explanation in a column behind forms of the given width. -/
def Entry.line (width : Nat) (e : Entry) : String :=
  e.forms ++ blanks (width - e.form.length) ++ "  " ++ e.text ++
    (if e.default.isSome then " " else "") ++ e.defaultText ++ "\n"

def Entry.lines (e : Entry) : String :=
  e.forms ++ "\n" ++ blanks 10 ++ e.text ++ "\n" ++
    (if e.default.isSome then blanks 10 ++ "\n" ++ blanks 10 ++ e.defaultText ++ "\n" else "")

def usage : String := "\nUsage: " ++ commandName ++ " [OPTIONS] " ++ urlsForm ++ "\n"

def brief : String :=
  let entries := options false
  let width := (entries.map fun e => e.form.length).foldl max 0
  summary ++ usage ++ "\nArguments:\n  " ++ urlsForm ++ "  " ++ urlsText ++ "\n\nOptions:\n" ++
    String.join (entries.map (Entry.line width))

def full : String :=
  description ++ usage ++ "\nArguments:\n  " ++ urlsForm ++ "\n" ++ blanks 10 ++ urlsText ++
    "\n\nOptions:\n" ++ "\n".intercalate ((options true).map Entry.lines)

def text (detailed : Bool) : String := if detailed then full else brief

end AutoProxy.CommandLine.Help
